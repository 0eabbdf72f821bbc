import Mathlib.Data.List.Induction

/-!
# Registers with a last-write-wins history

A register that some events overwrite and the others leave alone. After a list of events it
holds what the last overwriting event wrote, and it shows a written value at every moment
from then on exactly when no later event writes another one.
-/

namespace ShipMotion.Utils

variable {E V : Type} (write : E → Option V)

/-- The register after a list of events, from the value `v`. -/
def lastWrite : V → List E → V
  | v, [] => v
  | v, e :: es => lastWrite ((write e).getD v) es

namespace LastWrite

variable {write}

theorem lastWrite_append (v : V) (es es' : List E) :
    lastWrite write v (es ++ es') = lastWrite write (lastWrite write v es) es' := by
  induction es generalizing v with
  | nil => rfl
  | cons e es ih => exact ih _

theorem lastWrite_concat (v : V) (es : List E) (e : E) :
    lastWrite write v (es ++ [e]) = (write e).getD (lastWrite write v es) := by
  rw [lastWrite_append]
  rfl

/-- The register holds the last value written, if any was. -/
theorem lastWrite_eq_getLast (v : V) (es : List E) :
    lastWrite write v es = ((es.filterMap write).getLast?).getD v := by
  induction es using List.reverseRecOn with
  | nil => rfl
  | append_singleton es e ih =>
    rw [lastWrite_concat, ih, List.filterMap_append]
    cases hw : write e with
    | none => rw [List.filterMap_cons_none hw, List.filterMap_nil, List.append_nil, Option.getD_none]
    | some w => rw [List.filterMap_cons_some hw, List.filterMap_nil, List.getLast?_concat,
        Option.getD_some, Option.getD_some]

/-- A written value is never seen replaced exactly when no event after one that writes it
writes another value. -/
theorem shown_iff_pairwise (v w : V) (es : List E) :
    (∀ pre, pre <+: es → (∃ e ∈ pre, write e = some w) → lastWrite write v pre = w) ↔
      es.Pairwise fun e e' => write e = some w → ∀ w', write e' = some w' → w' = w := by
  induction es using List.reverseRecOn with
  | nil =>
    refine iff_of_true ?_ List.Pairwise.nil
    intro pre hpre ⟨e, he, _⟩
    rw [List.prefix_nil.mp hpre] at he
    exact absurd he List.not_mem_nil
  | append_singleton es e ih =>
    rw [List.pairwise_append, ← ih]
    constructor
    · intro h
      refine ⟨fun pre hpre => h pre (hpre.trans (List.prefix_append es [e])),
        List.pairwise_singleton _ _, ?_⟩
      intro a ha b hb hw w' hw'
      rw [List.mem_singleton] at hb
      subst hb
      -- the whole list shows `w`, and its last event has just written `w'`
      have hshown := h (es ++ [b]) (List.prefix_refl _) ⟨a, List.mem_append_left _ ha, hw⟩
      rwa [lastWrite_concat, hw', Option.getD_some] at hshown
    · intro ⟨hes, _, hlast⟩ pre hpre hwritten
      rcases List.prefix_concat_iff.mp hpre with rfl | hpre
      · obtain ⟨a, ha, hw⟩ := hwritten
        rw [lastWrite_concat]
        rw [List.mem_append, List.mem_singleton] at ha
        cases hwe : write e with
        | none =>
          have hae : a ∈ es := ha.resolve_right fun h => by
            rw [h, hwe] at hw
            cases hw
          exact hes es (List.prefix_refl _) ⟨a, hae, hw⟩
        | some w' =>
          rcases ha with ha | rfl
          · exact hlast a ha e (List.mem_singleton_self e) hw w' hwe
          · exact Option.some.inj (hwe.symm.trans hw)
      · exact hes pre hpre hwritten

end LastWrite
end ShipMotion.Utils
