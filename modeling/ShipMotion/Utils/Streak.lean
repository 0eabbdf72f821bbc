import Mathlib.Data.List.Induction

/-!
# Streaks

How many of the most recent entries of a growing list have a property without interruption.
Entries are appended at the end; one entry without the property starts the count afresh.
-/

namespace ShipMotion.Utils

variable {α : Type}

/-- The length of the longest suffix whose entries all satisfy `p`. -/
def streak (p : α → Bool) (l : List α) : ℕ := (l.reverse.takeWhile p).length

namespace Streak

variable {p : α → Bool}

theorem streak_snoc_of_pos {l : List α} {a : α} (h : p a = true) :
    streak p (l ++ [a]) = streak p l + 1 := by
  rw [streak, List.reverse_append, List.reverse_singleton, List.singleton_append,
    List.takeWhile_cons_of_pos h, List.length_cons, streak]

theorem streak_snoc_of_neg {l : List α} {a : α} (h : ¬ p a = true) :
    streak p (l ++ [a]) = 0 := by
  rw [streak, List.reverse_append, List.reverse_singleton, List.singleton_append,
    List.takeWhile_cons_of_neg h, List.length_nil]

theorem streak_le_length (l : List α) : streak p l ≤ l.length := by
  have hle : (l.reverse.takeWhile p).length ≤ l.reverse.length :=
    (List.takeWhile_prefix p).length_le
  rwa [List.length_reverse] at hle

/-- Every entry of the streak satisfies the property. -/
theorem of_streak {l : List α} {k : ℕ} (hk : k < l.length) (hs : l.length ≤ k + streak p l) :
    p l[k] = true := by
  induction l using List.reverseRecOn with
  | nil => exact absurd hk (Nat.not_lt_zero _)
  | append_singleton l a ih =>
    rw [List.length_append, List.length_singleton] at hk hs
    by_cases ha : p a = true
    · rw [streak_snoc_of_pos ha] at hs
      by_cases hlast : k < l.length
      · rw [List.getElem_append_left hlast]
        exact ih hlast (by omega)
      · have hkl : k = l.length := by omega
        subst hkl
        rwa [List.getElem_concat_length rfl]
    · -- a failing last entry leaves no streak to be in
      rw [streak_snoc_of_neg ha] at hs
      omega

/-- A streak of `n` entries: the last `n` entries exist and satisfy the property. -/
theorem le_streak_iff {n : ℕ} {l : List α} :
    n ≤ streak p l ↔
      n ≤ l.length ∧ ∀ j (hj : j < l.length), l.length ≤ j + n → p l[j] = true := by
  constructor
  · intro h
    refine ⟨Nat.le_trans h (streak_le_length l), fun j hj hlast => ?_⟩
    exact of_streak hj (by omega)
  · intro ⟨hlen, hall⟩
    induction l using List.reverseRecOn generalizing n with
    | nil => exact Nat.le_trans hlen (Nat.zero_le _)
    | append_singleton l a ih =>
      rw [List.length_append, List.length_singleton] at hlen
      cases n with
      | zero => exact Nat.zero_le _
      | succ n =>
        have ha : p a = true := by
          have hlast := hall l.length (by simp) (by simp)
          rwa [List.getElem_concat_length rfl] at hlast
        rw [streak_snoc_of_pos ha]
        refine Nat.succ_le_succ (ih (by omega) fun j hj hlast => ?_)
        have hold := hall j (by simp; omega) (by simp; omega)
        rwa [List.getElem_append_left hj] at hold

end Streak
end ShipMotion.Utils
