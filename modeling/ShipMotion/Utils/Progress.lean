import Mathlib.Data.Nat.Notation
import Mathlib.Tactic.ByContra
import ShipMotion.Utils.TransitionSystem

/-!
# Progress

A caller waits for threads that still run. If a measure never rises, falls with every step of a
thread that is waited for, and one of these can move until the wait is over, then the wait ends
under any schedule that lets them move often enough, whatever the other threads do meanwhile.
-/

namespace ShipMotion.Utils
namespace LTS

variable {S L : Type} (M : LTS S L)

/-- How many steps of a schedule are awaited ones. -/
def awaitedSteps (awaited : S → L → Bool) : S → List L → ℕ
  | _, [] => 0
  | s, l :: ls =>
    (if awaited s l then 1 else 0) + ((M.step s l).elim 0 fun t => awaitedSteps awaited t ls)

/-- The measure `μ` of what is left until `done`, in the states that meet `I`. -/
structure Variant (I done : S → Prop) (awaited : S → L → Bool) (μ : S → ℕ) : Prop where
  keeps : ∀ s l t, I s → M.step s l = some t → I t
  falls : ∀ s l t, I s → M.step s l = some t → awaited s l = true → μ t < μ s
  not_rises : ∀ s l t, I s → M.step s l = some t → awaited s l = false → μ t ≤ μ s
  enabled : ∀ s, I s → ¬ done s → ∃ l t, awaited s l = true ∧ M.step s l = some t

namespace Variant

variable {M} {I done : S → Prop} {awaited : S → L → Bool} {μ : S → ℕ} {s t : S} {ls : List L}

/-- Awaited steps use the measure up. -/
theorem awaitedSteps_le (h : M.Variant I done awaited μ) (hs : I s) (hrun : M.exec s ls = some t) :
    M.awaitedSteps awaited s ls + μ t ≤ μ s := by
  induction ls generalizing s with
  | nil =>
    rw [LTS.exec, Option.some.injEq] at hrun
    subst hrun
    exact Nat.le_of_eq (Nat.zero_add _)
  | cons l ls ih =>
    obtain ⟨u, hstep, hrest⟩ := Option.bind_eq_some_iff.mp hrun
    have hlater := ih (h.keeps s l u hs hstep) hrest
    rw [awaitedSteps, hstep, Option.elim_some]
    cases hl : awaited s l with
    | true =>
      have hfalls := h.falls s l u hs hstep hl
      rw [if_pos rfl]
      omega
    | false =>
      have hrises := h.not_rises s l u hs hstep hl
      rw [if_neg Bool.false_ne_true]
      omega

/-- After as many awaited steps as the measure said, the wait is over. -/
theorem done_of_awaitedSteps (h : M.Variant I done awaited μ) (hs : I s)
    (hrun : M.exec s ls = some t) (hmany : μ s ≤ M.awaitedSteps awaited s ls) : done t := by
  by_contra hwaiting
  have hused := h.awaitedSteps_le hs hrun
  have ht : I t := M.exec_invariant h.keeps hs hrun
  obtain ⟨l, u, hl, hstep⟩ := h.enabled t ht hwaiting
  have hfalls := h.falls t l u ht hstep hl
  omega

/-- Awaited steps alone end the wait. -/
theorem exists_schedule (h : M.Variant I done awaited μ) (hs : I s) :
    ∃ ls t, M.exec s ls = some t ∧ done t ∧ ls.length ≤ μ s := by
  induction hn : μ s using Nat.strongRecOn generalizing s with
  | _ n ih =>
    by_cases hdone : done s
    · exact ⟨[], s, rfl, hdone, Nat.zero_le _⟩
    · obtain ⟨l, u, hl, hstep⟩ := h.enabled s hs hdone
      have hfalls := h.falls s l u hs hstep hl
      obtain ⟨ls, t, hrun, ht, hlength⟩ :=
        ih (μ u) (hn ▸ hfalls) (h.keeps s l u hs hstep) rfl
      refine ⟨l :: ls, t, ?_, ht, ?_⟩
      · rw [exec_cons ls hstep, hrun]
      · rw [List.length_cons]
        omega

end Variant
end LTS
end ShipMotion.Utils
