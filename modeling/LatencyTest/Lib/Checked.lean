import Mathlib.Tactic

/-!
Arithmetic of signed machine integers whose overflow is undefined: an operation has its
exact result where that is a value of the type, and none elsewhere.
-/

namespace LatencyTest.Lib

/-- The values of a signed type with `bits` bits beside the sign. -/
def Signed (bits : Nat) (value : Int) : Prop := -2 ^ bits ≤ value ∧ value < 2 ^ bits

instance (bits : Nat) (value : Int) : Decidable (Signed bits value) :=
  inferInstanceAs (Decidable (_ ∧ _))

theorem signed_of_nonneg {bits : Nat} {value : Int} (nonneg : 0 ≤ value) :
    Signed bits value ↔ value < 2 ^ bits := by
  refine ⟨And.right, fun below => ⟨?_, below⟩⟩
  have power : (0 : Int) < 2 ^ bits := by positivity
  linarith

/-- The result of an operation, given the exact one. -/
def checked (bits : Nat) (exact : Int) : Option Int :=
  if Signed bits exact then some exact else none

theorem checked_eq_some {bits : Nat} {exact value : Int} :
    checked bits exact = some value ↔ Signed bits exact ∧ exact = value := by
  simp [checked]

theorem checked_of_signed {bits : Nat} {exact : Int} (fits : Signed bits exact) :
    checked bits exact = some exact := if_pos fits

theorem checked_of_not_signed {bits : Nat} {exact : Int} (overflows : ¬ Signed bits exact) :
    checked bits exact = none := if_neg overflows

@[simp] theorem isSome_checked {bits : Nat} {exact : Int} :
    (checked bits exact).isSome = true ↔ Signed bits exact := by
  unfold checked
  split <;> simp_all

end LatencyTest.Lib
