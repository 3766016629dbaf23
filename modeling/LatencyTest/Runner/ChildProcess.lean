import Mathlib

/-!
Child processes (`ChildProcess`, `src/runner.cpp`, on POSIX). An object holds the process id
of a child until it has waited for it, and the exit code afterwards. The operating system is
modelled by the children that nobody has waited for, under their ids: an id can be given to a
new child as soon as the old one was waited for, so an id held too long is that of another
process. A member function on an object with a child sends signals to that child, and may end
with reaping it (`Invocation.Served`); without a child it does nothing.
-/

namespace LatencyTest.Runner

/-! ### The operating system -/

/-- How a child ended. -/
inductive WaitStatus where
  | exited (code : Nat)
  | signaled (signal : Nat)
deriving DecidableEq, Repr

/-- The normalized exit code: `WIFEXITED(status) ? WEXITSTATUS(status) : 128 +
WTERMSIG(status)`. -/
def WaitStatus.exitCode : WaitStatus → Int
  | exited code => code
  | signaled signal => 128 + signal

inductive Signal where
  | term
  | kill
deriving DecidableEq, Repr

/-- What was done to the children, which are numbered in the order of their start. A signal
to a process group that is not that of an unreaped child has no target. -/
inductive ProcessEvent where
  | started (child : Nat)
  | signaled (target : Option Nat) (signal : Signal)
  | reaped (child : Nat) (status : WaitStatus)
deriving DecidableEq, Repr

/-- How the children behave: what the calls of `waitpid` for a child find, in the order of the
calls. Without `WNOHANG` the call blocks until the child has ended. -/
structure Behavior where
  poll : Nat → Option WaitStatus
  ended : Nat → WaitStatus

/-- The children under their process ids until they are reaped, and the events, the newest
first. -/
structure Os where
  children : Int → Option Nat := fun _ => none
  started : Nat := 0
  waits : Nat := 0
  log : List ProcessEvent := []

namespace Os

/-- `fork` in the parent, with the id of the new child. -/
def fork (os : Os) (process : Int) : Os :=
  { os with
    children := Function.update os.children process (some os.started)
    started := os.started + 1
    log := .started os.started :: os.log }

/-- `kill(-process, signal)`. -/
def kill (os : Os) (process : Int) (signal : Signal) : Os :=
  { os with log := .signaled (os.children process) signal :: os.log }

def reap (os : Os) (process : Int) (child : Nat) (status : WaitStatus) : Os :=
  { os with
    children := Function.update os.children process none
    waits := os.waits + 1
    log := .reaped child status :: os.log }

theorem fork_children (os : Os) (process p : Int) :
    (os.fork process).children p = if p = process then some os.started else os.children p :=
  Function.update_apply ..

theorem reap_children (os : Os) (process : Int) (child : Nat) (status : WaitStatus) (p : Int) :
    (os.reap process child status).children p = if p = process then none else os.children p :=
  Function.update_apply ..

section Children

variable {os : Os} {process p : Int} {child other : Nat} {status : WaitStatus}

/-- The children after a fork: the new one, and those of before. -/
theorem of_fork_children (found : (os.fork process).children p = some child) :
    p = process ∧ child = os.started ∨ os.children p = some child := by
  rw [fork_children] at found
  split at found
  · rename_i same
    cases found
    exact .inl ⟨same, rfl⟩
  · exact .inr found

theorem fork_children_new : (os.fork process).children process = some os.started := by
  rw [fork_children, if_pos rfl]

theorem fork_children_of_live (unused : os.children process = none)
    (live : os.children p = some child) : (os.fork process).children p = some child := by
  rw [fork_children, if_neg, live]
  rintro rfl
  rw [unused] at live
  cases live

/-- The children after one was reaped. -/
theorem of_reap_children (found : (os.reap process child status).children p = some other) :
    p ≠ process ∧ os.children p = some other := by
  rw [reap_children] at found
  split at found
  · cases found
  · rename_i different
    exact ⟨different, found⟩

theorem reap_children_of_ne (different : p ≠ process) :
    (os.reap process child status).children p = os.children p := by
  rw [reap_children, if_neg different]

end Children

/-- `waitpid(process, &status, options)` with a `status` of zero: its result, and the status
afterwards. It fails, and leaves the status alone, if the id is not that of an unreaped
child. -/
def waitpid (behavior : Behavior) (noHang : Bool) (os : Os) (process : Int) :
    Int × WaitStatus × Os :=
  match os.children process with
  | none => (-1, .exited 0, { os with waits := os.waits + 1 })
  | some child =>
      match if noHang then behavior.poll os.waits else some (behavior.ended os.waits) with
      | none => (0, .exited 0, { os with waits := os.waits + 1 })
      | some status => (process, status, os.reap process child status)

end Os

/-! ### The class -/

/-- The fields `process_` and `exitCode_`. -/
structure ChildProcess where
  process : Int := -1
  exitCode : Option Int := none
deriving DecidableEq, Repr

/-- A member function runs on its object. -/
structure Invocation where
  os : Os
  self : ChildProcess

namespace Invocation

section Members

variable (behavior : Behavior)

/-- Reports whether the child is still running. -/
def running (c : Invocation) : Bool × Invocation :=
  if c.self.process < 0 ∨ c.self.exitCode.isSome then (false, c)
  else
    let (result, status, os) := c.os.waitpid behavior true c.self.process
    if result = 0 then (true, { c with os := os })
    else (false, ⟨os, { process := -1, exitCode := some status.exitCode }⟩)

/-- Waits for the end of the child, and returns its exit code. -/
def wait (c : Invocation) : Int × Invocation :=
  if c.self.process < 0 then (c.self.exitCode.getD (-1), c)
  else
    let (_, status, os) := c.os.waitpid behavior false c.self.process
    (status.exitCode, ⟨os, { process := -1, exitCode := some status.exitCode }⟩)

def kill (c : Invocation) (signal : Signal) : Invocation :=
  { c with os := c.os.kill c.self.process signal }

/-- The loop of `terminate`, with the attempts that are left. -/
def awaitExit : Nat → Invocation → Invocation
  | 0, c => c
  | attempts + 1, c =>
      let polled := c.running behavior
      if polled.1 then awaitExit attempts polled.2 else polled.2

/-- Asks the child to end, kills it if it does not within the attempts, and waits for it. -/
def terminate (c : Invocation) : Invocation :=
  let polled := c.running behavior
  let c :=
    if polled.1 then
      let polled := (awaitExit behavior 20 (polled.2.kill .term)).running behavior
      if polled.1 then polled.2.kill .kill else polled.2
    else polled.2
  if 0 ≤ c.self.process then (c.wait behavior).2 else c

/-- The assignment from another object, which is left without a child and an exit code. -/
def assign (c : Invocation) (other : ChildProcess) : Invocation × ChildProcess :=
  let c := c.terminate behavior
  (⟨c.os, { process := other.process, exitCode := other.exitCode }⟩, {})

end Members

end Invocation

/-- Move construction assigns to an empty object. -/
def moved (behavior : Behavior) (os : Os) (other : ChildProcess) : Invocation × ChildProcess :=
  Invocation.assign behavior ⟨os, {}⟩ other

/-- `ChildProcess::start` after a `fork` that succeeded: the local object is moved into the
result, and destroyed. -/
def start (behavior : Behavior) (os : Os) (process : Int) : Invocation :=
  let result := moved behavior (os.fork process) { process := process }
  let destroyed := Invocation.terminate behavior ⟨result.1.os, result.2⟩
  ⟨destroyed.os, result.1.self⟩

/-! ### What a member function does -/

namespace Invocation

variable {behavior : Behavior} {child : Nat} {c d : Invocation}

/-- The object owns an unreaped child. -/
structure Holds (c : Invocation) (child : Nat) : Prop where
  positive : 0 < c.self.process
  live : c.os.children c.self.process = some child
  noCode : c.self.exitCode = none

/-- The object and the system after the child was reaped. -/
def reaped (c : Invocation) (child : Nat) (status : WaitStatus) : Invocation :=
  ⟨c.os.reap c.self.process child status, { process := -1, exitCode := some status.exitCode }⟩

theorem reaped_idle (c : Invocation) (child : Nat) (status : WaitStatus) :
    (c.reaped child status).self.process < 0 := by
  change (-1 : Int) < 0
  decide

/-- While it runs, a child is polled and sent signals. -/
inductive Prodded (c : Invocation) : Invocation → Prop where
  | refl : Prodded c c
  | polled {d : Invocation} (prodded : Prodded c d) :
      Prodded c { d with os := { d.os with waits := d.os.waits + 1 } }
  | signaled {d : Invocation} (signal : Signal) (prodded : Prodded c d) :
      Prodded c (d.kill signal)

theorem Prodded.trans {e : Invocation} (first : Prodded c d) (second : Prodded d e) :
    Prodded c e := by
  induction second with
  | refl => exact first
  | polled _ ih => exact ih.polled
  | signaled signal _ ih => exact ih.signaled signal

theorem Prodded.same (prodded : Prodded c d) :
    d.self = c.self ∧ d.os.children = c.os.children := by
  induction prodded with
  | refl => exact ⟨rfl, rfl⟩
  | polled _ ih => exact ih
  | signaled _ _ ih => exact ih

theorem Prodded.holds (prodded : Prodded c d) (holds : c.Holds child) : d.Holds child := by
  obtain ⟨self, children⟩ := prodded.same
  exact ⟨self ▸ holds.positive, by rw [self, children, holds.live], self ▸ holds.noCode⟩

theorem Prodded.log (prodded : Prodded c d) :
    ∃ signals, d.os.log = signals ++ c.os.log ∧
      ∀ event ∈ signals, ∀ child status, event ≠ .reaped child status := by
  induction prodded with
  | refl => exact ⟨[], rfl, by simp⟩
  | polled _ ih => exact ih
  | @signaled d signal prodded ih =>
      obtain ⟨signals, log, none⟩ := ih
      refine ⟨.signaled (d.os.children d.self.process) signal :: signals,
        congrArg (List.cons _) log, ?_⟩
      rw [List.forall_mem_cons]
      exact ⟨by rintro _ _ ⟨⟩, none⟩

theorem running_idle (idle : c.self.process < 0) : c.running behavior = (false, c) :=
  if_pos (.inl idle)

theorem wait_idle (idle : c.self.process < 0) :
    c.wait behavior = (c.self.exitCode.getD (-1), c) :=
  if_pos idle

/-- A poll of an owned child finds it running, or reaps it. -/
theorem running_holds (holds : c.Holds child) :
    (c.running behavior).1 = true ∧ Prodded c (c.running behavior).2 ∨
      ∃ status, c.running behavior = (false, c.reaped child status) := by
  have positive := holds.positive
  have owned : ¬(c.self.process < 0 ∨ c.self.exitCode.isSome) := by
    rw [holds.noCode, not_or]
    exact ⟨by omega, Bool.false_ne_true⟩
  rw [running, if_neg owned, Os.waitpid, holds.live]
  cases found : behavior.poll c.os.waits with
  | none => exact .inl ⟨rfl, Prodded.refl.polled⟩
  | some status =>
      refine .inr ⟨status, ?_⟩
      simp [positive.ne', reaped]

theorem wait_holds (holds : c.Holds child) :
    ∃ status, c.wait behavior = (status.exitCode, c.reaped child status) := by
  have positive := holds.positive
  rw [wait, if_neg (by omega), Os.waitpid, holds.live]
  exact ⟨_, rfl⟩

/-- A child is prodded, and may be reaped in the end. -/
inductive Attended (child : Nat) (c : Invocation) : Invocation → Prop where
  | alive {d : Invocation} (prodded : Prodded c d) : Attended child c d
  | ended {d : Invocation} (status : WaitStatus) (prodded : Prodded c d) :
      Attended child c (d.reaped child status)

theorem Attended.after {e : Invocation} (prodded : Prodded c d) (attended : Attended child d e) :
    Attended child c e := by
  cases attended with
  | alive more => exact .alive (prodded.trans more)
  | ended status more => exact .ended status (prodded.trans more)

theorem awaitExit_attended (attempts : Nat) (holds : c.Holds child) :
    Attended child c (c.awaitExit behavior attempts) := by
  induction attempts generalizing c with
  | zero => exact .alive .refl
  | succ attempts ih =>
      rw [awaitExit]
      obtain ⟨running, prodded⟩ | ⟨status, ended⟩ := running_holds holds
      · rw [if_pos running]
        exact .after prodded (ih (prodded.holds holds))
      · rw [ended]
        exact .ended status .refl

/-- The second poll of `terminate`, and the second signal. -/
theorem killed_attended (holds : c.Holds child) (attended : Attended child c d) :
    Attended child c
      (if (d.running behavior).1 then (d.running behavior).2.kill .kill
        else (d.running behavior).2) := by
  cases attended with
  | alive prodded =>
      obtain ⟨running, polled⟩ | ⟨status, ended⟩ := running_holds (prodded.holds holds)
      · rw [if_pos running]
        exact .alive ((prodded.trans polled).signaled .kill)
      · rw [ended]
        exact .ended status prodded
  | ended status prodded =>
      rw [running_idle (reaped_idle _ _ _)]
      exact .ended status prodded

/-- The wait at the end of `terminate`. -/
theorem waited_of_attended (holds : c.Holds child) (attended : Attended child c d) :
    ∃ e status, Prodded c e ∧
      (if 0 ≤ d.self.process then (d.wait behavior).2 else d) = e.reaped child status := by
  cases attended with
  | alive prodded =>
      obtain ⟨status, waited⟩ := wait_holds (prodded.holds holds)
      rw [if_pos (prodded.holds holds).positive.le, waited]
      exact ⟨d, status, prodded, rfl⟩
  | ended status prodded =>
      exact ⟨_, status, prodded, if_neg (reaped_idle _ _ _).not_ge⟩

/-- `terminate` does not leave its child behind. -/
theorem terminate_holds (holds : c.Holds child) :
    ∃ d status, Prodded c d ∧ c.terminate behavior = d.reaped child status := by
  unfold terminate
  apply waited_of_attended holds
  obtain ⟨running, prodded⟩ | ⟨status, ended⟩ := running_holds holds
  · rw [if_pos running]
    have asked := prodded.signaled .term
    exact killed_attended holds (.after asked (awaitExit_attended 20 (asked.holds holds)))
  · rw [ended]
    exact .ended status .refl

theorem terminate_idle (idle : c.self.process < 0) : c.terminate behavior = c := by
  rw [terminate, running_idle idle]
  exact if_neg idle.not_ge

/-- The exit code that is kept is the one that was returned. -/
theorem wait_exitCode {code : Int} (kept : (c.wait behavior).2.self.exitCode = some code) :
    (c.wait behavior).1 = code := by
  by_cases idle : c.self.process < 0
  · rw [wait_idle idle] at kept ⊢
    dsimp only at kept ⊢
    rw [kept, Option.getD_some]
  · rw [wait, if_neg idle] at kept ⊢
    exact Option.some.inj kept

end Invocation

/-! ### The events -/

def ProcessEvent.startedChild : ProcessEvent → Option Nat
  | started child => some child
  | _ => none

def ProcessEvent.reapedChild : ProcessEvent → Option Nat
  | reaped child _ => some child
  | _ => none

/-- The children of the events that started them, and of those that reaped them. -/
def startedChildren (log : List ProcessEvent) : List Nat :=
  log.filterMap ProcessEvent.startedChild

def reapedChildren (log : List ProcessEvent) : List Nat :=
  log.filterMap ProcessEvent.reapedChild

/-- What the log says of the children, and of the signals: the unreaped children are those
that were started and not reaped, the others were reaped once, and the target of a signal was
then an unreaped child. -/
structure Os.Sound (os : Os) : Prop where
  positive : ∀ process child, os.children process = some child → 0 < process
  injective : ∀ p q child, os.children p = some child → os.children q = some child → p = q
  numbered : ∀ child, child ∈ startedChildren os.log ↔ child < os.started
  once : (startedChildren os.log).Nodup
  reaped : ∀ child ∈ reapedChildren os.log, child ∈ startedChildren os.log
  live : ∀ process child, os.children process = some child →
    child ∈ startedChildren os.log ∧ child ∉ reapedChildren os.log
  ended : ∀ child ∈ startedChildren os.log, (∀ process, os.children process ≠ some child) →
    (reapedChildren os.log).count child = 1
  signals : ∀ later target signal earlier,
    os.log = later ++ .signaled target signal :: earlier →
    ∃ child, target = some child ∧ child ∈ startedChildren earlier ∧
      child ∉ reapedChildren earlier

namespace Os.Sound

variable {os : Os}

theorem initial : Os.Sound {} where
  positive := by simp
  injective := by simp
  numbered := by simp [startedChildren]
  once := List.nodup_nil
  reaped := by simp [reapedChildren]
  live := by simp
  ended := by simp [startedChildren]
  signals := by simp

/-- The signals in a log with one more event. -/
theorem signals_cons (sound : os.Sound) {event : ProcessEvent}
    (new : ∀ target signal, event = .signaled target signal →
      ∃ child, target = some child ∧ child ∈ startedChildren os.log ∧
        child ∉ reapedChildren os.log) :
    ∀ later target signal earlier,
      event :: os.log = later ++ .signaled target signal :: earlier →
      ∃ child, target = some child ∧ child ∈ startedChildren earlier ∧
        child ∉ reapedChildren earlier := by
  intro later target signal earlier split
  cases later with
  | nil =>
      rw [List.nil_append, List.cons.injEq] at split
      obtain ⟨rfl, rfl⟩ := split
      exact new target signal rfl
  | cons first later =>
      rw [List.cons_append, List.cons.injEq] at split
      exact sound.signals later target signal earlier split.2

/-- A child that is not numbered yet was neither started nor reaped. -/
theorem unknown (sound : os.Sound) :
    os.started ∉ startedChildren os.log ∧ os.started ∉ reapedChildren os.log := by
  have new : os.started ∉ startedChildren os.log := fun mem =>
    absurd ((sound.numbered _).mp mem) (lt_irrefl _)
  exact ⟨new, fun mem => new (sound.reaped _ mem)⟩

theorem fork (sound : os.Sound) {process : Int} (positive : 0 < process)
    (unused : os.children process = none) : (os.fork process).Sound := by
  obtain ⟨notStarted, notReaped⟩ := sound.unknown
  have fresh : ∀ p, os.children p ≠ some os.started := fun p found =>
    notStarted (sound.live p _ found).1
  exact {
    positive := by
      intro p child found
      obtain ⟨rfl, -⟩ | found := of_fork_children found
      · exact positive
      · exact sound.positive p child found
    injective := by
      intro p q child left right
      obtain ⟨rfl, rfl⟩ | olderLeft := of_fork_children left
      · obtain ⟨rfl, -⟩ | olderRight := of_fork_children right
        · rfl
        · exact absurd olderRight (fresh q)
      · obtain ⟨rfl, rfl⟩ | olderRight := of_fork_children right
        · exact absurd olderLeft (fresh p)
        · exact sound.injective p q child olderLeft olderRight
    numbered := by
      intro child
      change child ∈ os.started :: startedChildren os.log ↔ child < os.started + 1
      rw [List.mem_cons, sound.numbered]
      omega
    once := List.nodup_cons.mpr ⟨notStarted, sound.once⟩
    reaped := fun child mem => List.mem_cons_of_mem _ (sound.reaped child mem)
    live := by
      intro p child found
      obtain ⟨-, rfl⟩ | found := of_fork_children found
      · exact ⟨List.mem_cons_self, notReaped⟩
      · exact ⟨List.mem_cons_of_mem _ (sound.live p child found).1, (sound.live p child found).2⟩
    ended := by
      intro child mem free
      rcases List.mem_cons.mp mem with rfl | earlier
      · exact absurd fork_children_new (free process)
      · exact sound.ended child earlier fun p found =>
          free p (fork_children_of_live unused found)
    signals := sound.signals_cons (by rintro _ _ ⟨⟩) }

theorem kill (sound : os.Sound) {process : Int} {child : Nat}
    (owned : os.children process = some child) (signal : Signal) :
    (os.kill process signal).Sound where
  positive := sound.positive
  injective := sound.injective
  numbered := sound.numbered
  once := sound.once
  reaped := sound.reaped
  live := sound.live
  ended := sound.ended
  signals := sound.signals_cons (by
    rintro _ _ ⟨⟩
    exact ⟨child, owned, sound.live process child owned⟩)

theorem reap (sound : os.Sound) {process : Int} {child : Nat}
    (owned : os.children process = some child) (status : WaitStatus) :
    (os.reap process child status).Sound := by
  obtain ⟨started, unreaped⟩ := sound.live process child owned
  have children : ∀ p other, (os.reap process child status).children p = some other →
      os.children p = some other ∧ other ≠ child := by
    intro p other found
    obtain ⟨different, live⟩ := of_reap_children found
    refine ⟨live, ?_⟩
    rintro rfl
    exact different (sound.injective p process other live owned)
  exact {
    positive := fun p other found => sound.positive p other (children p other found).1
    injective := fun p q other left right =>
      sound.injective p q other (children p other left).1 (children q other right).1
    numbered := sound.numbered
    once := sound.once
    reaped := by
      intro other mem
      rcases List.mem_cons.mp mem with rfl | earlier
      · exact started
      · exact sound.reaped other earlier
    live := by
      intro p other found
      obtain ⟨found, different⟩ := children p other found
      obtain ⟨otherStarted, otherUnreaped⟩ := sound.live p other found
      exact ⟨otherStarted, List.not_mem_cons_of_ne_of_not_mem different otherUnreaped⟩
    ended := by
      intro other mem free
      change (child :: reapedChildren os.log).count other = 1
      by_cases same : other = child
      · rw [same, List.count_cons_self, List.count_eq_zero_of_not_mem unreaped]
      · rw [List.count_cons_of_ne (Ne.symm same)]
        refine sound.ended other mem fun p found => free p ?_
        rw [reap_children_of_ne, found]
        rintro rfl
        rw [owned] at found
        exact same (Option.some.inj found).symm
    signals := sound.signals_cons (by rintro _ _ ⟨⟩) }

end Os.Sound

namespace Invocation

variable {behavior : Behavior} {child : Nat} {c d : Invocation}

theorem Prodded.sound (prodded : Prodded c d) (holds : c.Holds child) (sound : c.os.Sound) :
    d.os.Sound := by
  induction prodded with
  | refl => exact sound
  | polled _ ih => exact { ih with }
  | signaled signal prodded ih => exact ih.kill (prodded.holds holds).live signal

/-- What a member function does: it attends to the child, if there is one. -/
inductive Served (c : Invocation) : Invocation → Prop where
  | idle (idle : c.self.process < 0) : Served c c
  | attended {d : Invocation} {child : Nat} (holds : c.Holds child)
      (attended : Attended child c d) : Served c d

/-- The new events of a member function that reaps: the exit code is that of the status. -/
theorem Served.exitCode (served : Served c d) {new : List ProcessEvent}
    (log : d.os.log = new ++ c.os.log) {status : WaitStatus}
    (reaped : .reaped child status ∈ new) :
    d.self.process < 0 ∧ d.self.exitCode = some status.exitCode := by
  cases served with
  | idle =>
      rw [List.self_eq_append_left.mp log] at reaped
      cases reaped
  | @attended _ owner holds attended =>
      cases attended with
      | alive prodded =>
          obtain ⟨signals, signalled, none⟩ := prodded.log
          rw [signalled] at log
          rw [← List.append_cancel_right log] at reaped
          exact absurd rfl (none _ reaped child status)
      | @ended e other prodded =>
          obtain ⟨signals, signalled, none⟩ := prodded.log
          have whole : .reaped owner other :: signals ++ c.os.log = new ++ c.os.log := by
            rw [← log, List.cons_append, ← signalled]
            rfl
          rw [← List.append_cancel_right whole] at reaped
          rcases List.mem_cons.mp reaped with same | earlier
          · cases same
            exact ⟨reaped_idle _ _ _, rfl⟩
          · exact absurd rfl (none _ earlier child status)

/-- An object has no child, or owns one. -/
def Valid (c : Invocation) : Prop := c.self.process < 0 ∨ ∃ child, c.Holds child

theorem Valid.running (valid : c.Valid) : Served c (c.running behavior).2 := by
  obtain idle | ⟨child, holds⟩ := valid
  · rw [running_idle idle]
    exact .idle idle
  · obtain ⟨-, prodded⟩ | ⟨status, ended⟩ := running_holds holds
    · exact .attended holds (.alive prodded)
    · rw [ended]
      exact .attended holds (.ended status .refl)

theorem Valid.wait (valid : c.Valid) : Served c (c.wait behavior).2 := by
  obtain idle | ⟨child, holds⟩ := valid
  · rw [wait_idle idle]
    exact .idle idle
  · obtain ⟨status, waited⟩ := wait_holds holds
    rw [waited]
    exact .attended holds (.ended status .refl)

/-- After `terminate` there is no child. -/
theorem Valid.terminate (valid : c.Valid) :
    Served c (c.terminate behavior) ∧ (c.terminate behavior).self.process < 0 := by
  obtain idle | ⟨child, holds⟩ := valid
  · rw [terminate_idle idle]
    exact ⟨.idle idle, idle⟩
  · obtain ⟨d, status, prodded, terminated⟩ := terminate_holds holds
    rw [terminated]
    exact ⟨.attended holds (.ended status prodded), reaped_idle _ _ _⟩

end Invocation

theorem empty_idle : ({} : ChildProcess).process < 0 := by decide

theorem moved_eq (behavior : Behavior) (os : Os) (other : ChildProcess) :
    moved behavior os other = (⟨os, other⟩, {}) := by
  rw [moved, Invocation.assign, Invocation.terminate_idle empty_idle]

/-- A child is started by `fork` alone: the moves inside the function find no other child. -/
theorem start_eq (behavior : Behavior) (os : Os) (process : Int) :
    start behavior os process = ⟨os.fork process, { process := process }⟩ := by
  rw [start, moved_eq]
  dsimp only
  rw [Invocation.terminate_idle empty_idle]

end LatencyTest.Runner
