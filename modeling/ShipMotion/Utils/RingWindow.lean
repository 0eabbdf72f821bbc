import Mathlib.Data.Fin.Basic
import Mathlib.Data.List.Basic
import Mathlib.Logic.Function.Basic

/-!
# Windows of a circular array

A circular array of `c` cells with a head and a tail index holds the cells from the head up
to, and excluding, the tail. This file has the index arithmetic (`next`, `dist`) and the
list of held cells (`window`), with the three laws a queue over such an array needs: reading
the first cell, writing at the tail, and stepping either index.
-/

namespace ShipMotion.Utils
namespace RingWindow

variable {c : ℕ} {α : Type}

/-! ## Indices -/

/-- The index after `i`, back to `0` at the end of the array. -/
def next (i : Fin c) : Fin c := ⟨(i.val + 1) % c, Nat.mod_lt _ i.pos⟩

/-- The number of cells from `h` up to `t`. -/
def dist (h t : Fin c) : ℕ := if h.val ≤ t.val then t.val - h.val else c - (h.val - t.val)

theorem next_val (i : Fin c) : (next i).val = if i.val + 1 = c then 0 else i.val + 1 := by
  have hi := i.isLt
  unfold next
  split
  · rename_i h
    simp [h]
  · exact Nat.mod_eq_of_lt (by omega)

theorem next_injective : Function.Injective (next : Fin c → Fin c) := by
  intro i j h
  have hv := congrArg Fin.val h
  rw [next_val, next_val] at hv
  have hi := i.isLt
  have hj := j.isLt
  apply Fin.ext
  -- each index either steps up or wraps to `0`
  split at hv <;> split at hv <;> omega

theorem dist_lt (h t : Fin c) : dist h t < c := by
  have := h.isLt
  have := t.isLt
  unfold dist
  split <;> omega

theorem dist_eq_zero_iff {h t : Fin c} : dist h t = 0 ↔ h = t := by
  have := h.isLt
  have := t.isLt
  rw [Fin.ext_iff]
  unfold dist
  split <;> omega

/-- Stepping the head past a held cell. -/
theorem dist_next_left {h t : Fin c} (hne : h ≠ t) : dist h t = dist (next h) t + 1 := by
  have := h.isLt
  have := t.isLt
  have hv : h.val ≠ t.val := fun e => hne (Fin.ext e)
  unfold dist
  rw [next_val]
  -- the window wraps or not, before and after the step, and the step itself may wrap
  split <;> split <;> split <;> omega

/-- Stepping the tail over a free cell. -/
theorem dist_next_right {h t : Fin c} (hne : next t ≠ h) :
    dist h (next t) = dist h t + 1 := by
  have := h.isLt
  have := t.isLt
  have hv : (next t).val ≠ h.val := fun e => hne (Fin.ext e)
  have hn := next_val t
  unfold dist
  split at hn <;> split <;> split <;> omega

/-- All cells but one are held exactly when the tail is just behind the head. -/
theorem next_eq_iff_dist {h t : Fin c} : next t = h ↔ dist h t = c - 1 := by
  have := h.isLt
  have := t.isLt
  rw [Fin.ext_iff, next_val]
  unfold dist
  split <;> split <;> omega

/-! ## Held cells -/

/-- The values of `n` consecutive cells, from `h` on. -/
def cells (f : Fin c → α) : ℕ → Fin c → List α
  | 0, _ => []
  | n + 1, h => f h :: cells f n (next h)

/-- The values held between head `h` and tail `t`, oldest first. -/
def window (f : Fin c → α) (h t : Fin c) : List α := cells f (dist h t) h

@[simp] theorem length_cells (f : Fin c → α) (n : ℕ) (h : Fin c) :
    (cells f n h).length = n := by
  induction n generalizing h with
  | zero => rfl
  | succ n ih => rw [cells, List.length_cons, ih]

@[simp] theorem length_window (f : Fin c → α) (h t : Fin c) :
    (window f h t).length = dist h t := length_cells _ _ _

theorem window_eq_nil_iff {f : Fin c → α} {h t : Fin c} : window f h t = [] ↔ h = t := by
  rw [← List.length_eq_zero_iff, length_window, dist_eq_zero_iff]

/-- The oldest held value is at the head. -/
theorem window_cons (f : Fin c → α) {h t : Fin c} (hne : h ≠ t) :
    window f h t = f h :: window f (next h) t := by
  rw [window, dist_next_left hne, cells, window]

/-- Cells up to `t` do not include `t`. -/
theorem cells_update (f : Fin c → α) (t : Fin c) (x : α) (n : ℕ) (h : Fin c)
    (hn : n ≤ dist h t) : cells (Function.update f t x) n h = cells f n h := by
  induction n generalizing h with
  | zero => rfl
  | succ n ih =>
    -- the first cell is not `t`, and the others are still in front of it
    have hne : h ≠ t := fun e => by
      rw [dist_eq_zero_iff.mpr e] at hn
      omega
    have hrest : n ≤ dist (next h) t := by
      have := dist_next_left hne
      omega
    rw [cells, cells, Function.update_of_ne hne, ih (next h) hrest]

/-- Writing at the tail leaves the held values alone. -/
theorem window_update (f : Fin c → α) (h t : Fin c) (x : α) :
    window (Function.update f t x) h t = window f h t :=
  cells_update f t x _ h le_rfl

theorem cells_succ_last (f : Fin c → α) (n : ℕ) (h t : Fin c) (hn : dist h t = n) :
    cells f (n + 1) h = cells f n h ++ [f t] := by
  induction n generalizing h with
  | zero => rw [dist_eq_zero_iff.mp hn]; rfl
  | succ n ih =>
    have hne : h ≠ t := fun e => by
      rw [dist_eq_zero_iff.mpr e] at hn
      omega
    have hrest : dist (next h) t = n := by
      have := dist_next_left hne
      omega
    rw [cells, ih (next h) hrest, cells, List.cons_append]

/-- Stepping the tail over a free cell appends that cell's value. -/
theorem window_snoc (f : Fin c → α) {h t : Fin c} (hne : next t ≠ h) :
    window f h (next t) = window f h t ++ [f t] := by
  rw [window, dist_next_right hne, cells_succ_last f _ h t rfl, window]

end RingWindow
end ShipMotion.Utils
