import Mathlib.Data.List.Basic
import Mathlib.Order.Bounds.Basic

/-!
# Running extrema from a sentinel

A loop that keeps the smallest value seen so far starts from a sentinel. It ends with the
least of the values and the sentinel, which is the least value as soon as one of them is below
the sentinel; and dually for the largest value.
-/

namespace ShipMotion.Utils
namespace SentinelExtrema

variable {α : Type} [LinearOrder α]

/-- `if (x < lo) lo = x`, for each value in turn. -/
def runMin : α → List α → α
  | lo, [] => lo
  | lo, x :: xs => runMin (if x < lo then x else lo) xs

/-- `if (x > hi) hi = x`, for each value in turn. -/
def runMax : α → List α → α
  | hi, [] => hi
  | hi, x :: xs => runMax (if x > hi then x else hi) xs

/-- The loop ends with the least of the sentinel and the values. -/
theorem isLeast_runMin (lo : α) (l : List α) : IsLeast {x | x = lo ∨ x ∈ l} (runMin lo l) := by
  induction l generalizing lo with
  | nil => exact ⟨.inl rfl, fun x hx => (hx.resolve_right List.not_mem_nil).ge⟩
  | cons x xs ih =>
    obtain ⟨hmem, hle⟩ := ih (if x < lo then x else lo)
    have hmin : (if x < lo then x else lo) ≤ x ∧ (if x < lo then x else lo) ≤ lo := by
      split
      · rename_i h
        exact ⟨le_refl x, h.le⟩
      · rename_i h
        exact ⟨not_lt.mp h, le_refl lo⟩
    have hstart := hle (.inl rfl)
    constructor
    · show runMin _ xs = lo ∨ runMin _ xs ∈ x :: xs
      rcases hmem with hmem | hmem
      · rw [hmem]
        split
        · exact .inr List.mem_cons_self
        · exact .inl rfl
      · exact .inr (List.mem_cons_of_mem x hmem)
    · intro y hy
      rcases hy with rfl | hy
      · exact hstart.trans hmin.2
      · rcases List.mem_cons.mp hy with rfl | hy
        · exact hstart.trans hmin.1
        · exact hle (.inr hy)

/-- The maximum loop is the minimum loop of the opposite order. -/
theorem runMax_eq (hi : α) (l : List α) :
    runMax hi l = OrderDual.ofDual (runMin (OrderDual.toDual hi) (l.map OrderDual.toDual)) := by
  induction l generalizing hi with
  | nil => rfl
  | cons x xs ih => exact ih _

theorem isGreatest_runMax (hi : α) (l : List α) :
    IsGreatest {x | x = hi ∨ x ∈ l} (runMax hi l) := by
  rw [runMax_eq]
  obtain ⟨hmem, hle⟩ := isLeast_runMin (OrderDual.toDual hi) (l.map OrderDual.toDual)
  constructor
  · rcases hmem with hmem | hmem
    · exact .inl hmem
    · exact .inr ((List.mem_map_of_injective OrderDual.toDual.injective).mp hmem)
  · intro y hy
    refine hle ?_
    rcases hy with rfl | hy
    · exact .inl rfl
    · exact .inr (List.mem_map_of_mem hy)

/-- A value below the sentinel makes the sentinel irrelevant. -/
theorem isLeast_of_lt {lo : α} {l : List α} {x : α} (hx : x ∈ l) (hlt : x < lo) :
    IsLeast {x | x ∈ l} (runMin lo l) := by
  obtain ⟨hmem, hle⟩ := isLeast_runMin lo l
  refine ⟨hmem.resolve_left fun h => ?_, fun y hy => hle (.inr hy)⟩
  exact absurd (hle (.inr hx)) (by rw [h]; exact not_le.mpr hlt)

theorem isGreatest_of_lt {hi : α} {l : List α} {x : α} (hx : x ∈ l) (hlt : hi < x) :
    IsGreatest {x | x ∈ l} (runMax hi l) := by
  obtain ⟨hmem, hle⟩ := isGreatest_runMax hi l
  refine ⟨hmem.resolve_left fun h => ?_, fun y hy => hle (.inr hy)⟩
  exact absurd (hle (.inr hx)) (by rw [h]; exact not_le.mpr hlt)

end SentinelExtrema
end ShipMotion.Utils
