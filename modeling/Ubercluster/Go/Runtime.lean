import Mathlib.Tactic.SplitIfs
import Mathlib.Algebra.Group.Int
import Mathlib.Algebra.Group.Nat.Basic

/-! What the source takes from Go's runtime and library besides the environment: panics,
`int64` arithmetic and `rand.Int63n`. -/
namespace Ubercluster.Go

/-- Equality of results, so that a result can be compared with `decide`. -/
instance decEqExcept {ε α : Type} [DecidableEq ε] [DecidableEq α] : DecidableEq (Except ε α)
  | .error a, .error b => decidable_of_iff (a = b) (by simp)
  | .ok a, .ok b => decidable_of_iff (a = b) (by simp)
  | .error _, .ok _ => isFalse Except.noConfusion
  | .ok _, .error _ => isFalse Except.noConfusion

/-- A Go panic, with its message. -/
structure GoPanic where
  message : String
  deriving DecidableEq

/-- Go's `int64` arithmetic: the two's-complement value of `x`. -/
def int64 (x : Int) : Int := x.bmod (2 ^ 64)

/-- `x` is an `int64` value. -/
def InInt64 (x : Int) : Prop := -2 ^ 63 ≤ x ∧ x < 2 ^ 63

instance (x : Int) : Decidable (InInt64 x) := by unfold InInt64; infer_instance

theorem int64_of_inInt64 {x : Int} (h : InInt64 x) : int64 x = x := by
  obtain ⟨h1, h2⟩ := h
  rw [int64, Int.bmod_def]
  split_ifs <;> omega

/-- `rand.Int63n(n)` when the source drew `r`. Go panics when `n ≤ 0`; otherwise the draw is
uniform over `[0, n)`, and the results below range over those `r`. -/
def int63n (n r : Int) : Except GoPanic Int :=
  if n ≤ 0 then .error ⟨"invalid argument to Int63n"⟩ else .ok r

end Ubercluster.Go
