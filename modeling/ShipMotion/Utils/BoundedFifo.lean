import Mathlib.Data.List.Basic

/-!
# Bounded first-in first-out buffers

What a bounded queue is for, on plain lists: a `push` is refused exactly when the buffer is
at its bound, a `pop` exactly when it is empty, and nothing else changes the contents.
-/

namespace ShipMotion.Utils
namespace BoundedFifo

variable {α : Type}

/-- Append unless `bound` elements are held. -/
def push (bound : ℕ) (held : List α) (x : α) : List α × Bool :=
  if held.length < bound then (held ++ [x], true) else (held, false)

/-- Take the oldest element, if there is one. -/
def pop : List α → List α × Option α
  | [] => ([], none)
  | x :: rest => (rest, some x)

theorem push_of_lt {bound : ℕ} {held : List α} (x : α) (h : held.length < bound) :
    push bound held x = (held ++ [x], true) := if_pos h

theorem push_of_not_lt {bound : ℕ} {held : List α} (x : α) (h : ¬ held.length < bound) :
    push bound held x = (held, false) := if_neg h

theorem push_snd_iff {bound : ℕ} {held : List α} {x : α} :
    (push bound held x).2 = true ↔ held.length < bound := by
  unfold push
  split <;> simp_all

end BoundedFifo
end ShipMotion.Utils
