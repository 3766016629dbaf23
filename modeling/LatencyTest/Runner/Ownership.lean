import LatencyTest.Lib.Run
import LatencyTest.Runner.ChildProcess

/-!
Ownership of child processes. A program creates objects, starts children, moves the children
from object to object, and destroys the objects, in any order. In every run each child that
was not reaped is owned by exactly one object (`System.Owned`), so no signal goes astray and
each child is reaped once (`childProcess_ownership`).
-/

namespace LatencyTest.Runner

/-! ### Runs -/

/-- The operating system and the objects that exist. -/
structure System where
  os : Os := {}
  objects : Nat → Option ChildProcess := fun _ => none

/-- What a program does with its objects. A start that fails creates no object; one that
succeeds has the id of the child. -/
inductive Op where
  | create (object : Nat)
  | start (object : Nat) (process : Option Int)
  | moveConstruct (object other : Nat)
  | moveAssign (object other : Nat)
  | running (object : Nat)
  | wait (object : Nat)
  | terminate (object : Nat)
  | destroy (object : Nat)
deriving DecidableEq, Repr

namespace System

/-- The system after a member function of an object. -/
def returned (s : System) (object : Nat) (c : Invocation) : System :=
  { os := c.os, objects := Function.update s.objects object (some c.self) }

theorem returned_objects (s : System) (object : Nat) (c : Invocation) (k : Nat) :
    (s.returned object c).objects k = if k = object then some c.self else s.objects k :=
  Function.update_apply ..

/-- The system after the fields of one object were moved to another. -/
def transferred (s : System) (object other : Nat) (c : Invocation × ChildProcess) : System :=
  { os := c.1.os
    objects := Function.update (Function.update s.objects object (some c.1.self)) other
      (some c.2) }

theorem transferred_of_ne {s : System} {object other : Nat} {c : Invocation × ChildProcess}
    {k : Nat} (notObject : k ≠ object) (notOther : k ≠ other) :
    (s.transferred object other c).objects k = s.objects k :=
  (Function.update_of_ne notOther ..).trans (Function.update_of_ne notObject ..)

/-- One operation, `none` if no program can do it: it names an object that does not exist, or
creates one that does. The id of a new child is positive and of no unreaped child. -/
def step (behavior : Behavior) (s : System) : Op → Option System
  | .create object =>
      match s.objects object with
      | some _ => none
      | none => some (s.returned object ⟨s.os, {}⟩)
  | .start object process =>
      match s.objects object, process with
      | some _, _ => none
      | none, none => some s
      | none, some process =>
          if 0 < process ∧ s.os.children process = none then
            some (s.returned object (Runner.start behavior s.os process))
          else none
  | .moveConstruct object other =>
      match s.objects object, s.objects other with
      | none, some source => some (s.transferred object other (moved behavior s.os source))
      | _, _ => none
  | .moveAssign object other =>
      match s.objects object, s.objects other with
      | some self, some source =>
          if object = other then some s
          else some (s.transferred object other (Invocation.assign behavior ⟨s.os, self⟩ source))
      | _, _ => none
  | .running object =>
      (s.objects object).map fun self =>
        s.returned object (Invocation.running behavior ⟨s.os, self⟩).2
  | .wait object =>
      (s.objects object).map fun self =>
        s.returned object (Invocation.wait behavior ⟨s.os, self⟩).2
  | .terminate object =>
      (s.objects object).map fun self =>
        s.returned object (Invocation.terminate behavior ⟨s.os, self⟩)
  | .destroy object =>
      (s.objects object).map fun self =>
        { os := (Invocation.terminate behavior ⟨s.os, self⟩).os
          objects := Function.update s.objects object none }

/-- A run of operations. -/
def run (behavior : Behavior) (ops : List Op) (s : System) : Option System :=
  ops.foldlM (step behavior) s

end System

namespace System

/-- What an operation can do. -/
inductive Stepped (behavior : Behavior) (s : System) : Op → System → Prop where
  | created {i : Nat} (free : s.objects i = none) :
      Stepped behavior s (.create i) (s.returned i ⟨s.os, {}⟩)
  | failed {i : Nat} (free : s.objects i = none) : Stepped behavior s (.start i none) s
  | started {i : Nat} {process : Int} (free : s.objects i = none) (positive : 0 < process)
      (unused : s.os.children process = none) :
      Stepped behavior s (.start i (some process))
        (s.returned i ⟨s.os.fork process, { process := process }⟩)
  | constructed {i j : Nat} {source : ChildProcess} (free : s.objects i = none)
      (found : s.objects j = some source) :
      Stepped behavior s (.moveConstruct i j) (s.transferred i j (⟨s.os, source⟩, {}))
  | selfAssigned {i : Nat} {self : ChildProcess} (here : s.objects i = some self) :
      Stepped behavior s (.moveAssign i i) s
  | assigned {i j : Nat} {self source : ChildProcess} (here : s.objects i = some self)
      (found : s.objects j = some source) (different : i ≠ j) :
      Stepped behavior s (.moveAssign i j)
        (s.transferred i j (Invocation.assign behavior ⟨s.os, self⟩ source))
  | running {i : Nat} {self : ChildProcess} (here : s.objects i = some self) :
      Stepped behavior s (.running i)
        (s.returned i (Invocation.running behavior ⟨s.os, self⟩).2)
  | waited {i : Nat} {self : ChildProcess} (here : s.objects i = some self) :
      Stepped behavior s (.wait i) (s.returned i (Invocation.wait behavior ⟨s.os, self⟩).2)
  | terminated {i : Nat} {self : ChildProcess} (here : s.objects i = some self) :
      Stepped behavior s (.terminate i)
        (s.returned i (Invocation.terminate behavior ⟨s.os, self⟩))
  | destroyed {i : Nat} {self : ChildProcess} (here : s.objects i = some self) :
      Stepped behavior s (.destroy i)
        { os := (Invocation.terminate behavior ⟨s.os, self⟩).os
          objects := Function.update s.objects i none }

theorem stepped {behavior : Behavior} {s next : System} {op : Op}
    (taken : s.step behavior op = some next) : Stepped behavior s op next := by
  cases op with
  | create i =>
      dsimp only [step] at taken
      split at taken
      · cases taken
      · rename_i free
        cases taken
        exact .created free
  | start i process =>
      dsimp only [step] at taken
      split at taken
      · cases taken
      · rename_i free
        cases taken
        exact .failed free
      · rename_i process free
        split at taken
        · rename_i new
          cases taken
          rw [start_eq]
          exact .started free new.1 new.2
        · cases taken
  | moveConstruct i j =>
      dsimp only [step] at taken
      split at taken
      · rename_i source free found
        cases taken
        rw [moved_eq]
        exact .constructed free found
      · cases taken
  | moveAssign i j =>
      dsimp only [step] at taken
      split at taken
      · rename_i self source here found
        split at taken
        · rename_i same
          cases taken
          cases same
          exact .selfAssigned here
        · rename_i different
          cases taken
          exact .assigned here found different
      · cases taken
  | running i =>
      obtain ⟨self, here, rfl⟩ := Option.map_eq_some_iff.mp taken
      exact .running here
  | wait i =>
      obtain ⟨self, here, rfl⟩ := Option.map_eq_some_iff.mp taken
      exact .waited here
  | terminate i =>
      obtain ⟨self, here, rfl⟩ := Option.map_eq_some_iff.mp taken
      exact .terminated here
  | destroy i =>
      obtain ⟨self, here, rfl⟩ := Option.map_eq_some_iff.mp taken
      exact .destroyed here

end System

/-! ### Owners -/

namespace System

/-- Every unreaped child has one owner, and an object with a process id owns a child. -/
structure Owned (s : System) : Prop where
  sound : s.os.Sound
  valid : ∀ i self, s.objects i = some self → Invocation.Valid ⟨s.os, self⟩
  single : ∀ i j self other, s.objects i = some self → s.objects j = some other →
    0 < self.process → self.process = other.process → i = j
  owner : ∀ process child, s.os.children process = some child →
    ∃ i self, s.objects i = some self ∧ self.process = process

/-- The object has no child: it may be replaced. -/
def Vacant (s : System) (i : Nat) : Prop := ∀ self, s.objects i = some self → self.process < 0

theorem vacant_of_free {s : System} {i : Nat} (free : s.objects i = none) : s.Vacant i := by
  intro self found
  rw [free] at found
  cases found

namespace Owned

variable {behavior : Behavior} {s : System} {i j : Nat} {self : ChildProcess}

theorem initial : Owned {} where
  sound := .initial
  valid := by simp
  single := by simp
  owner := by simp

/-- The owners may exchange their children. -/
theorem rearrange (owned : s.Owned) (σ : Equiv.Perm Nat) {objects : Nat → Option ChildProcess}
    (each : ∀ k self, objects k = some self →
      self.process < 0 ∨ s.objects (σ k) = some self)
    (kept : ∀ k self, s.objects (σ k) = some self → 0 < self.process → objects k = some self) :
    Owned { s with objects := objects } where
  sound := owned.sound
  valid := by
    intro k self found
    obtain idle | before := each k self found
    · exact .inl idle
    · exact owned.valid (σ k) self before
  single := by
    intro k l self other left right positive same
    obtain idle | before := each k self left
    · omega
    · obtain idle | after := each l other right
      · omega
      · exact σ.injective (owned.single (σ k) (σ l) self other before after positive same)
  owner := by
    intro process child live
    obtain ⟨k, self, found, rfl⟩ := owned.owner process child live
    have positive := owned.sound.positive self.process child live
    exact ⟨σ.symm k, self, kept (σ.symm k) self (by rwa [σ.apply_symm_apply]) positive, rfl⟩

/-- An object without a child is created, overwritten or destroyed. -/
theorem put (owned : s.Owned) (vacant : s.Vacant i) (value : Option ChildProcess)
    (idle : ∀ self ∈ value, self.process < 0) :
    Owned { s with objects := Function.update s.objects i value } := by
  refine owned.rearrange (.refl Nat) ?_ ?_
  · intro k self found
    rw [Function.update_apply] at found
    split at found
    · exact .inl (idle self found)
    · exact .inr found
  · intro k self found positive
    rw [Function.update_apply, if_neg]
    · exact found
    · rintro rfl
      have := vacant self found
      omega

/-- An object without a child takes over the child of another one. -/
theorem transfer (owned : s.Owned) (vacant : s.Vacant i) {source : ChildProcess}
    (found : s.objects j = some source) :
    Owned { s with objects :=
      Function.update (Function.update s.objects i (some source)) j (some {}) } := by
  refine owned.rearrange (Equiv.swap i j) ?_ ?_
  · intro k self here
    by_cases left : k = j
    · rw [left, Function.update_self] at here
      cases here
      exact .inl (by decide)
    · rw [Function.update_of_ne left] at here
      by_cases taken : k = i
      · rw [taken, Function.update_self] at here
        rw [taken, Equiv.swap_apply_left]
        exact .inr (found.trans here)
      · rw [Function.update_of_ne taken] at here
        rw [Equiv.swap_apply_of_ne_of_ne taken left]
        exact .inr here
  · intro k self here positive
    by_cases left : k = j
    · rw [left, Equiv.swap_apply_right] at here
      have := vacant self here
      omega
    · rw [Function.update_of_ne left]
      by_cases taken : k = i
      · rw [taken, Equiv.swap_apply_left, found] at here
        rw [taken, Function.update_self, here]
      · rw [Equiv.swap_apply_of_ne_of_ne taken left] at here
        rw [Function.update_of_ne taken, here]

/-- Prodding a child changes no owner. -/
theorem prodded (owned : s.Owned) {os : Os} (sound : os.Sound)
    (same : os.children = s.os.children) : Owned { s with os := os } where
  sound := sound
  valid := by
    intro k self found
    obtain idle | ⟨child, holds⟩ := owned.valid k self found
    · exact .inl idle
    · exact .inr ⟨child, holds.positive, same ▸ holds.live, holds.noCode⟩
  single := owned.single
  owner := by
    intro process child live
    exact owned.owner process child (same ▸ live)

/-- The owner of a child reaps it. -/
theorem reaped (owned : s.Owned) (here : s.objects i = some self) {child : Nat}
    (holds : Invocation.Holds ⟨s.os, self⟩ child) (status : WaitStatus) :
    (s.returned i (Invocation.reaped ⟨s.os, self⟩ child status)).Owned where
  sound := owned.sound.reap holds.live status
  valid := by
    intro k other found
    rw [returned_objects] at found
    split at found
    · cases found
      exact .inl (Invocation.reaped_idle _ _ _)
    · rename_i different
      obtain idle | ⟨otherChild, otherHolds⟩ := owned.valid k other found
      · exact .inl idle
      · refine .inr ⟨otherChild, otherHolds.positive, ?_, otherHolds.noCode⟩
        refine (Os.reap_children_of_ne fun same => different ?_).trans otherHolds.live
        exact owned.single k i other self found here otherHolds.positive same
  single := by
    intro k l a b left right positive same
    rw [returned_objects] at left right
    split at left
    · cases left
      cases positive
    · split at right
      · cases right
        rw [same] at positive
        cases positive
      · exact owned.single k l a b left right positive same
  owner := by
    intro process other live
    obtain ⟨different, live⟩ := Os.of_reap_children live
    obtain ⟨k, owner, found, same⟩ := owned.owner process other live
    refine ⟨k, owner, ?_, same⟩
    rw [returned_objects, if_neg, found]
    rintro rfl
    rw [here] at found
    cases found
    exact different same.symm

theorem returned_same (here : s.objects i = some self) {os : Os} :
    s.returned i ⟨os, self⟩ = { s with os := os } := by
  rw [returned, ← here, Function.update_eq_self]

/-- A member function keeps the owners. -/
theorem served (owned : s.Owned) (here : s.objects i = some self) {c : Invocation}
    (served : Invocation.Served ⟨s.os, self⟩ c) : (s.returned i c).Owned := by
  cases served with
  | idle =>
      rw [returned_same here]
      exact owned
  | attended holds attended =>
      cases attended with
      | alive prodded =>
          obtain ⟨same, children⟩ := prodded.same
          obtain ⟨os, _⟩ := c
          cases same
          rw [returned_same here]
          exact owned.prodded (prodded.sound holds owned.sound) children
      | @ended d status prodded =>
          obtain ⟨same, children⟩ := prodded.same
          obtain ⟨os, _⟩ := d
          cases same
          have before := owned.prodded (prodded.sound holds owned.sound) children
          exact before.reaped here (prodded.holds holds) status

/-- An id that is not in use is the one of no object. -/
theorem process_ne (owned : s.Owned) (here : s.objects i = some self) {process : Int}
    (unused : s.os.children process = none) (positive : 0 < self.process) :
    self.process ≠ process := by
  rintro rfl
  obtain idle | ⟨child, holds⟩ := owned.valid i self here
  · exact absurd idle positive.not_gt
  · rw [holds.live] at unused
    cases unused

/-- The owner of a new child. -/
theorem started (owned : s.Owned) (free : s.objects i = none) {process : Int}
    (positive : 0 < process) (unused : s.os.children process = none) :
    (s.returned i ⟨s.os.fork process, { process := process }⟩).Owned where
  sound := owned.sound.fork positive unused
  valid := by
    intro k other found
    rw [returned_objects] at found
    split at found
    · cases found
      exact .inr ⟨s.os.started, positive, Os.fork_children_new, rfl⟩
    · obtain idle | ⟨child, holds⟩ := owned.valid k other found
      · exact .inl idle
      · exact .inr ⟨child, holds.positive, Os.fork_children_of_live unused holds.live, holds.noCode⟩
  single := by
    intro k l a b left right positive same
    rw [returned_objects] at left right
    split at left
    · rename_i atLeft
      cases left
      split at right
      · rename_i atRight
        exact atLeft.trans atRight.symm
      · exact absurd same.symm (owned.process_ne right unused (same ▸ positive))
    · split at right
      · cases right
        exact absurd same (owned.process_ne left unused positive)
      · exact owned.single k l a b left right positive same
  owner := by
    intro p child live
    obtain ⟨rfl, -⟩ | live := Os.of_fork_children live
    · exact ⟨i, { process := p }, by rw [returned_objects, if_pos rfl], rfl⟩
    · obtain ⟨k, other, found, same⟩ := owned.owner p child live
      refine ⟨k, other, ?_, same⟩
      rw [returned_objects, if_neg, found]
      rintro rfl
      rw [free] at found
      cases found

/-- After `terminate` the object has no child any more. -/
theorem terminated (behavior : Behavior) (owned : s.Owned) (here : s.objects i = some self) :
    Owned (s.returned i (Invocation.terminate behavior ⟨s.os, self⟩)) ∧
      Vacant (s.returned i (Invocation.terminate behavior ⟨s.os, self⟩)) i := by
  obtain ⟨served, idle⟩ := @Invocation.Valid.terminate behavior _ (owned.valid i self here)
  refine ⟨owned.served here served, ?_⟩
  intro other found
  rw [returned_objects, if_pos rfl] at found
  cases found
  exact idle

/-- The assignment from an object: the child of the target is terminated first. -/
theorem assigned (owned : s.Owned) (here : s.objects i = some self) (different : i ≠ j)
    {source : ChildProcess} (found : s.objects j = some source) :
    (s.transferred i j (Invocation.assign behavior ⟨s.os, self⟩ source)).Owned := by
  obtain ⟨kept, vacant⟩ := owned.terminated behavior here
  have unchanged : (s.returned i (Invocation.terminate behavior ⟨s.os, self⟩)).objects j =
      some source := by
    rw [returned_objects, if_neg different.symm, found]
  have moved := kept.transfer vacant unchanged
  rw [returned] at moved
  dsimp only at moved
  rw [Function.update_idem] at moved
  exact moved

theorem destroyed (owned : s.Owned) (here : s.objects i = some self) :
    Owned { os := (Invocation.terminate behavior ⟨s.os, self⟩).os
            objects := Function.update s.objects i none } := by
  obtain ⟨kept, vacant⟩ := owned.terminated behavior here
  have erased := kept.put vacant none (by rintro _ ⟨⟩)
  rw [returned] at erased
  dsimp only at erased
  rw [Function.update_idem] at erased
  exact erased

/-- Every operation keeps the owners. -/
theorem step (owned : s.Owned) {op : Op} {next : System} (stepped : Stepped behavior s op next) :
    next.Owned := by
  cases stepped with
  | created free =>
      exact owned.put (vacant_of_free free) _ (by rintro _ ⟨⟩; exact empty_idle)
  | failed => exact owned
  | started free positive unused => exact owned.started free positive unused
  | constructed free found => exact owned.transfer (vacant_of_free free) found
  | selfAssigned => exact owned
  | assigned here found different => exact owned.assigned here different found
  | running here => exact owned.served here (owned.valid _ _ here).running
  | waited here => exact owned.served here (owned.valid _ _ here).wait
  | terminated here => exact owned.served here (owned.valid _ _ here).terminate.1
  | destroyed here => exact owned.destroyed here

/-- The owners in every run. -/
theorem run (owned : s.Owned) {ops : List Op} {last : System}
    (run : s.run behavior ops = some last) : last.Owned :=
  @Lib.foldlM_related Op System (System.step behavior) (fun s t => s.Owned → t.Owned)
    (fun _ => id) (fun first second => second ∘ first)
    (fun _ _ _ taken owned => owned.step (stepped taken)) ops s last run owned

end Owned

end System

/-! ### Exit codes -/

/-- The operations after which an object is not what it was: another one is moved from it or
into it, or it is destroyed. -/
def Op.Replaces (i : Nat) : Op → Prop
  | .moveConstruct _ other => other = i
  | .moveAssign object other => object = i ∨ other = i
  | .destroy object => object = i
  | _ => False

/-- The operations that call a member function. -/
def Op.Calls (i : Nat) : Op → Prop
  | .running object => object = i
  | .wait object => object = i
  | .terminate object => object = i
  | _ => False

namespace System

variable {behavior : Behavior} {s : System} {i : Nat} {code : Int}

/-- The object has the exit code of the child that it owned. -/
def Settled (s : System) (i : Nat) (code : Int) : Prop :=
  ∃ self, s.objects i = some self ∧ self.process < 0 ∧ self.exitCode = some code

namespace Settled

/-- A wait for a child that was reaped returns the exit code, and does nothing. -/
theorem wait (settled : s.Settled i code) :
    ∃ self, s.objects i = some self ∧
      Invocation.wait behavior ⟨s.os, self⟩ = (code, ⟨s.os, self⟩) := by
  obtain ⟨self, found, idle, exited⟩ := settled
  refine ⟨self, found, ?_⟩
  rw [Invocation.wait_idle idle]
  dsimp only
  rw [exited, Option.getD_some]

theorem ne_of_free (settled : s.Settled i code) {j : Nat} (free : s.objects j = none) :
    i ≠ j := by
  rintro rfl
  obtain ⟨self, found, -⟩ := settled
  rw [free] at found
  cases found

theorem untouched (settled : s.Settled i code) {next : System}
    (same : next.objects i = s.objects i) : next.Settled i code := by
  obtain ⟨self, found, idle, exited⟩ := settled
  exact ⟨self, same.trans found, idle, exited⟩

theorem returned (settled : s.Settled i code) {j : Nat} {self : ChildProcess}
    (here : s.objects j = some self) {c : Invocation}
    (idle : (⟨s.os, self⟩ : Invocation).self.process < 0 → c = ⟨s.os, self⟩) :
    (s.returned j c).Settled i code := by
  by_cases same : i = j
  · subst same
    obtain ⟨own, found, noChild, exited⟩ := settled
    rw [here] at found
    cases found
    rw [idle noChild]
    exact ⟨self, by rw [returned_objects, if_pos rfl], noChild, exited⟩
  · exact settled.untouched (by rw [returned_objects, if_neg same])

/-- Nothing but a replacement changes an exit code. -/
theorem step (settled : s.Settled i code) {op : Op} {next : System}
    (stepped : Stepped behavior s op next) (kept : ¬ op.Replaces i) :
    next.Settled i code := by
  cases stepped with
  | created free =>
      exact settled.untouched (by rw [returned_objects, if_neg (settled.ne_of_free free)])
  | failed => exact settled
  | started free =>
      exact settled.untouched (by rw [returned_objects, if_neg (settled.ne_of_free free)])
  | constructed free found =>
      exact settled.untouched (transferred_of_ne (settled.ne_of_free free) (Ne.symm kept))
  | selfAssigned => exact settled
  | assigned here found different =>
      obtain ⟨target, source⟩ := not_or.mp kept
      exact settled.untouched (transferred_of_ne (Ne.symm target) (Ne.symm source))
  | running here => exact settled.returned here fun idle => by rw [Invocation.running_idle idle]
  | waited here => exact settled.returned here fun idle => by rw [Invocation.wait_idle idle]
  | terminated here =>
      exact settled.returned here fun idle => Invocation.terminate_idle idle
  | destroyed here => exact settled.untouched (Function.update_of_ne (Ne.symm kept) ..)

theorem run (settled : s.Settled i code) {ops : List Op} {last : System}
    (run : s.run behavior ops = some last) (kept : ∀ op ∈ ops, ¬ op.Replaces i) :
    last.Settled i code := by
  induction ops generalizing s with
  | nil =>
      cases run
      exact settled
  | cons op ops ih =>
      rw [System.run, List.foldlM_cons] at run
      obtain ⟨next, taken, rest⟩ := Option.bind_eq_some_iff.mp run
      rw [List.forall_mem_cons] at kept
      exact ih (settled.step (stepped taken) kept.1) rest kept.2

end Settled

/-- A member function that reaps leaves the exit code of the child. -/
theorem Owned.settled (owned : s.Owned) {op : Op} {next : System}
    (stepped : Stepped behavior s op next) (calls : op.Calls i) {new : List ProcessEvent}
    (log : next.os.log = new ++ s.os.log) {child : Nat} {status : WaitStatus}
    (reaped : .reaped child status ∈ new) : next.Settled i status.exitCode := by
  have settled : ∀ {self c}, s.objects i = some self → Invocation.Served ⟨s.os, self⟩ c →
      c.os.log = new ++ s.os.log → (s.returned i c).Settled i status.exitCode := by
    intro self c here served log
    obtain ⟨idle, exited⟩ := served.exitCode log reaped
    exact ⟨c.self, by rw [returned_objects, if_pos rfl], idle, exited⟩
  cases stepped with
  | running here =>
      cases calls
      exact settled here (owned.valid _ _ here).running log
  | waited here =>
      cases calls
      exact settled here (owned.valid _ _ here).wait log
  | terminated here =>
      cases calls
      exact settled here (owned.valid _ _ here).terminate.1 log
  | _ => cases calls

/-! ### Every run -/

/-- The object owns the child. -/
def Owns (s : System) (i child : Nat) : Prop :=
  ∃ self, s.objects i = some self ∧ s.os.children self.process = some child

theorem Owned.owns_unique (owned : s.Owned) {j child : Nat} (left : s.Owns i child)
    (right : s.Owns j child) : i = j := by
  obtain ⟨self, here, live⟩ := left
  obtain ⟨other, there, live'⟩ := right
  exact owned.single i j self other here there (owned.sound.positive _ _ live)
    (owned.sound.injective _ _ _ live live')

/-- A started child is owned and not reaped, or it is reaped and owned by nobody. -/
theorem Owned.owned_or_reaped (owned : s.Owned) {child : Nat}
    (started : child ∈ startedChildren s.os.log) :
    (∃ i, s.Owns i child) ∧ child ∉ reapedChildren s.os.log ∨
      (∀ i, ¬ s.Owns i child) ∧ (reapedChildren s.os.log).count child = 1 := by
  by_cases live : ∃ process, s.os.children process = some child
  · obtain ⟨process, live⟩ := live
    obtain ⟨i, self, here, rfl⟩ := owned.owner process child live
    exact .inl ⟨⟨i, self, here, live⟩, (owned.sound.live _ child live).2⟩
  · have free : ∀ process, s.os.children process ≠ some child := fun process found =>
      live ⟨process, found⟩
    refine .inr ⟨?_, owned.sound.ended child started free⟩
    rintro i ⟨self, -, found⟩
    exact free _ found

end System

/-- In every run, whatever the children do: a signal is sent to a child that was started and
not reaped; a child that was started has one owner, or no owner and was reaped once, so no
child is left when its last owner is destroyed; a process id that is held is that of an
unreaped child; and an object that has reaped its child returns the exit code from then on,
until it is moved from or assigned to. -/
theorem childProcess_ownership (behavior : Behavior) {ops : List Op} {s : System}
    (run : System.run behavior ops {} = some s) :
    (∀ later target signal earlier, s.os.log = later ++ .signaled target signal :: earlier →
      ∃ child, target = some child ∧ child ∈ startedChildren earlier ∧
        child ∉ reapedChildren earlier) ∧
    (startedChildren s.os.log).Nodup ∧
    (∀ child ∈ startedChildren s.os.log,
      (∃! i, s.Owns i child) ∧ child ∉ reapedChildren s.os.log ∨
        (∀ i, ¬ s.Owns i child) ∧ (reapedChildren s.os.log).count child = 1) ∧
    (∀ i self, s.objects i = some self → 0 ≤ self.process → ∃ child, s.Owns i child) ∧
    ∀ i op next new child status, op.Calls i → s.step behavior op = some next →
      next.os.log = new ++ s.os.log → .reaped child status ∈ new →
      (op = .wait i → ∀ self, s.objects i = some self →
        (Invocation.wait behavior ⟨s.os, self⟩).1 = status.exitCode) ∧
      ∀ more last, next.run behavior more = some last → (∀ op ∈ more, ¬ op.Replaces i) →
        ∃ self, last.objects i = some self ∧
          Invocation.wait behavior ⟨last.os, self⟩ = (status.exitCode, ⟨last.os, self⟩) := by
  have owned : s.Owned := System.Owned.initial.run run
  refine ⟨owned.sound.signals, owned.sound.once, ?_, ?_, ?_⟩
  · intro child started
    obtain ⟨⟨i, owns⟩, unreaped⟩ | reaped := owned.owned_or_reaped started
    · exact .inl ⟨⟨i, owns, fun j other => owned.owns_unique other owns⟩, unreaped⟩
    · exact .inr reaped
  · intro i self here held
    obtain idle | ⟨child, holds⟩ := owned.valid i self here
    · exact absurd held idle.not_ge
    · exact ⟨child, self, here, holds.live⟩
  · intro i op next new child status calls taken log reaped
    have settled := owned.settled (System.stepped taken) calls log reaped
    refine ⟨?_, fun more last run kept => (settled.run run kept).wait⟩
    rintro rfl self here
    obtain ⟨after, found, -, exited⟩ := settled
    rw [System.step, here] at taken
    cases taken
    rw [System.returned_objects, if_pos rfl] at found
    cases found
    exact Invocation.wait_exitCode exited

/-- Children that end with 3 from the third poll on, and from signal 9 when waited for. -/
def slowToEnd : Behavior where
  poll call := if call < 2 then none else some (.exited 3)
  ended _ := .signaled 9

/-- The first of two children is moved over the second, which ends when it is asked to. -/
theorem childProcess_ownership_twoChildren :
    ∃ s, System.run slowToEnd
        [.start 0 (some 100), .moveConstruct 1 0, .running 1, .start 2 (some 101),
          .moveAssign 2 1, .wait 2, .destroy 0, .destroy 1] {} = some s ∧
      s.os.log = [.reaped 0 (.signaled 9), .reaped 1 (.exited 3), .signaled (some 1) .term,
        .started 1, .started 0] ∧
      ∀ child ∈ startedChildren s.os.log,
        (∃! i, s.Owns i child) ∧ child ∉ reapedChildren s.os.log ∨
          (∀ i, ¬ s.Owns i child) ∧ (reapedChildren s.os.log).count child = 1 := by
  have log : (System.run slowToEnd
      [.start 0 (some 100), .moveConstruct 1 0, .running 1, .start 2 (some 101),
        .moveAssign 2 1, .wait 2, .destroy 0, .destroy 1] {}).map (fun s => s.os.log) =
      some [.reaped 0 (.signaled 9), .reaped 1 (.exited 3), .signaled (some 1) .term,
        .started 1, .started 0] := by
    decide
  obtain ⟨s, run, log⟩ := Option.map_eq_some_iff.mp log
  exact ⟨s, run, log, (childProcess_ownership slowToEnd run).2.2.1⟩

end LatencyTest.Runner
