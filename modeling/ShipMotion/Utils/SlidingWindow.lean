import Mathlib.Data.List.Basic

/-!
# Sliding windows

A buffer that keeps the last `n` elements it was given: a push appends the new element and
drops the oldest one if there are then more than `n`.
-/

namespace ShipMotion.Utils
namespace SlidingWindow

variable {α : Type}

/-- The last `n` elements of a list, or all of it. -/
def lastN (n : ℕ) (l : List α) : List α := l.drop (l.length - n)

/-- Append, and drop the oldest element of a window that grew too long. -/
def push (n : ℕ) (window : List α) (x : α) : List α :=
  if (window ++ [x]).length > n then (window ++ [x]).tail else window ++ [x]

theorem length_lastN (n : ℕ) (l : List α) : (lastN n l).length = min n l.length := by
  rw [lastN, List.length_drop]
  omega

theorem lastN_nil (n : ℕ) : lastN n ([] : List α) = [] := List.drop_nil

/-- What was dropped before does not come back. -/
theorem lastN_lastN_append (n : ℕ) (l m : List α) : lastN n (lastN n l ++ m) = lastN n (l ++ m) := by
  have hsplit : lastN n l ++ m = (l ++ m).drop (l.length - n) := by
    rw [lastN, List.drop_append_of_le_length (Nat.sub_le _ _)]
  rw [hsplit, lastN, lastN, List.drop_drop, List.length_drop, List.length_append]
  congr 1
  omega

/-- Pushing slides the window. -/
theorem push_lastN (n : ℕ) (l : List α) (x : α) : push n (lastN n l) x = lastN n (l ++ [x]) := by
  have hlen := length_lastN n l
  have hsplit : lastN n l ++ [x] = (l ++ [x]).drop (l.length - n) := by
    rw [lastN, List.drop_append_of_le_length (Nat.sub_le _ _)]
  unfold push
  split
  · rename_i h
    rw [List.length_append, List.length_singleton] at h
    -- the window was full: one more element of the list falls out of it
    rw [hsplit, List.tail_drop, lastN, List.length_append, List.length_singleton]
    congr 1
    omega
  · rename_i h
    rw [List.length_append, List.length_singleton] at h
    rw [hsplit, lastN, List.length_append, List.length_singleton]
    congr 1
    omega

theorem lastN_lastN (m n : ℕ) (l : List α) : lastN m (lastN n l) = lastN (min m n) l := by
  rw [lastN, lastN, lastN, List.drop_drop, List.length_drop]
  congr 1
  omega

/-- One more element, of the list and of its end. -/
theorem lastN_concat (n : ℕ) (l : List α) (x : α) :
    lastN n l ++ [x] = lastN (n + 1) (l ++ [x]) := by
  rw [lastN, lastN, ← List.drop_append_of_le_length (Nat.sub_le _ _), List.length_append,
    List.length_singleton, Nat.add_sub_add_right]

/-- Pushing onto a window that was emptied `r` elements ago. -/
theorem push_lastN_min (n r : ℕ) (l : List α) (x : α) :
    push n (lastN (min n r) l) x = lastN (min n (r + 1)) (l ++ [x]) := by
  rw [← lastN_lastN, push_lastN, lastN_concat, lastN_lastN]

/-- The oldest element of a full window. -/
theorem head?_lastN (n : ℕ) (l : List α) : (lastN n l).head? = l[l.length - n]? := by
  rw [lastN, List.head?_drop]

end SlidingWindow
end ShipMotion.Utils
