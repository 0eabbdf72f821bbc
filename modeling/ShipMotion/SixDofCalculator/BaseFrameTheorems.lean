import ShipMotion.SixDofCalculator.WorkerPoolTheorems
import ShipMotion.SixDofCalculatorTheorems
import ShipMotion.Utils.Mealy

/-!
# The base frame over a run

A call replaces the base by its own frame when there is no usable base or the update interval
has passed, and looks at the frame's points only afterwards. An empty frame that comes first
after the interval thus takes the place of a usable base. The interval is computed in `int64_t`:
one of three hundred years wraps around and may be over at once. Runs without such a frame keep
the base usable, and under an interval that does not wrap replace it only when it has passed.
-/

namespace ShipMotion
namespace SixDofCalculator

open Utils

variable {K : Type} [Field K] [LinearOrder K]

/-! ## One call -/

/-- A call: the frame, and the reading of the steady clock. -/
abbrev TimedFrame (K : Type) := FusedPointCloud K × ℤ

omit [LinearOrder K] in
/-- `fuse_pc_base_` holds a cloud with points. -/
def HasBase (self : State K) : Prop :=
  ∃ base, self.fuse_pc_base_ = some base ∧ base.cloud ≠ []

variable [FloorRing K]

/-- One call on the members. -/
def sixDofCall (pcl : Pcl K) (m : Libm K) (self : State K) (call : TimedFrame K) :
    State K × SixDofResult K × List Notice :=
  calculateSixDof pcl m self call.1 call.2

/-- The update interval has passed since the base was replaced last. -/
def Elapsed (self : State K) (now_tp : ℤ) : Prop :=
  wholeMinutes self.base_update_interval_min ≤ now_tp - self.last_base_update_tp_

/-- The update interval as it is computed has passed. -/
def Due (self : State K) (now_tp : ℤ) : Prop :=
  intervalDur self.base_update_interval_min ≤ now_tp - self.last_base_update_tp_

/-- The call replaces the base. -/
def Replaces (self : State K) (call : TimedFrame K) : Prop :=
  needUpdateBase self call.2 = true

/-- The condition on a call: if it takes a usable base's place, its frame has points, and the
interval was computed without a wrap or has passed all the same. -/
def BringsPoints (self : State K) (call : TimedFrame K) : Prop :=
  HasBase self → Due self call.2 →
    call.1.cloud ≠ [] ∧ (FitsInt64 self.base_update_interval_min ∨ Elapsed self call.2)

/-- Without a wrap the interval computed is the interval. -/
theorem due_iff_elapsed {self : State K} (h : FitsInt64 self.base_update_interval_min)
    (now_tp : ℤ) : Due self now_tp ↔ Elapsed self now_tp := by
  rw [Due, Elapsed, intervalDur_of_fits h]

theorem replaces_iff (self : State K) (call : TimedFrame K) :
    Replaces self call ↔ ¬ HasBase self ∨ Due self call.2 := by
  unfold Replaces HasBase Due needUpdateBase
  cases hbase : self.fuse_pc_base_ with
  | none => simp
  | some base =>
    by_cases hempty : base.cloud.isEmpty = true
    · have hnil := List.isEmpty_iff.mp hempty
      simp [hnil]
    · have hne : base.cloud ≠ [] := mt List.isEmpty_iff.mpr hempty
      simp [hne]

variable {pcl : Pcl K} {m : Libm K} {self : State K} {call : TimedFrame K}

/-- A call that replaces the base notes the time and holds its own frame. -/
theorem sixDofCall_of_replaces (h : Replaces self call) :
    (sixDofCall pcl m self call).1.fuse_pc_base_ = some call.1 ∧
    (sixDofCall pcl m self call).1.last_base_update_tp_ = call.2 := by
  rw [sixDofCall, calculateSixDof_state]
  have hneed : needUpdateBase self call.2 = true := h
  refine ⟨updateBase_of_need hneed, ?_⟩
  rw [updateBase, if_pos hneed]
  dsimp only
  split <;> rfl

/-- Any other call leaves the members alone. -/
theorem sixDofCall_of_not_replaces (h : ¬ Replaces self call) :
    (sixDofCall pcl m self call).1 = self := by
  rw [sixDofCall, calculateSixDof_state, updateBase_of_not_need (Bool.eq_false_iff.mpr h)]

/-- From a usable base, a call leaves a usable base exactly if it brings points whenever the interval
computed has passed. -/
theorem hasBase_sixDofCall_iff (h : HasBase self) :
    HasBase (sixDofCall pcl m self call).1 ↔ (Due self call.2 → call.1.cloud ≠ []) := by
  by_cases hrep : Replaces self call
  · have hdue : Due self call.2 := ((replaces_iff self call).mp hrep).resolve_left
      fun hno => hno h
    have hbase : HasBase (sixDofCall pcl m self call).1 ↔ call.1.cloud ≠ [] := by
      rw [HasBase, (sixDofCall_of_replaces hrep).1]
      simp
    rw [hbase]
    exact ⟨fun hne _ => hne, fun hbrings => hbrings hdue⟩
  · rw [sixDofCall_of_not_replaces hrep]
    refine iff_of_true h fun hdue => ?_
    exact absurd ((replaces_iff self call).mpr (.inr hdue)) hrep

/-! ## Runs -/

/-- The members after a run of calls. -/
def afterCalls (pcl : Pcl K) (m : Libm K) (self : State K) (calls : List (TimedFrame K)) :
    State K :=
  Mealy.finalState (sixDofCall pcl m) self calls

/-- The run lemma: from a usable base, calls under the condition end with a usable base. -/
theorem hasBase_afterCalls {calls : List (TimedFrame K)}
    (hbrings : Mealy.EveryCall (sixDofCall pcl m) BringsPoints self calls) (h : HasBase self) :
    HasBase (afterCalls pcl m self calls) :=
  Mealy.finalState_of_everyCall (J := HasBase)
    (fun _ _ hbase hbring => (hasBase_sixDofCall_iff hbase).mpr fun hdue => (hbring hbase hdue).1)
    h hbrings

/-- In a run, a usable base stays usable; and from then on a call replaces it only when the
interval has passed. -/
structure BaseKept (pcl : Pcl K) (m : Libm K) (s : State K) (calls : List (TimedFrame K)) :
    Prop where
  never_lost : ∀ before later after, calls = before ++ later ++ after →
    HasBase (afterCalls pcl m s before) → HasBase (afterCalls pcl m s (before ++ later))
  replaced_late : ∀ before later call after, calls = before ++ later ++ call :: after →
    HasBase (afterCalls pcl m s before) →
    Replaces (afterCalls pcl m s (before ++ later)) call →
    Elapsed (afterCalls pcl m s (before ++ later)) call.2

/-- **When the base is never lost.** From any state and for every run of calls, a usable base
stays usable and is replaced only when the interval has passed, if and only if no call with an
empty frame finds a usable base whose interval, as computed, has passed, and, if the interval does
not fit, no call finds a usable base for which it has passed only as computed. -/
theorem baseKept_iff (pcl : Pcl K) (m : Libm K) (self : State K) (calls : List (TimedFrame K)) :
    BaseKept pcl m self calls ↔ Mealy.EveryCall (sixDofCall pcl m) BringsPoints self calls := by
  constructor
  · intro hkept
    rw [Mealy.everyCall_iff_split]
    intro before call after hcalls hbase hdue
    constructor
    · -- the call leaves a usable base, as the whole run does
      have hafter := hkept.never_lost before [call] after (by simp [hcalls]) hbase
      rw [afterCalls, Mealy.finalState_concat] at hafter
      exact (hasBase_sixDofCall_iff hbase).mp hafter hdue
    · have hcalls' : calls = before ++ [] ++ call :: after := by rw [hcalls, List.append_nil]
      have hlate := hkept.replaced_late before [] call after hcalls' hbase
      rw [List.append_nil] at hlate
      exact .inr (hlate ((replaces_iff _ call).mpr (.inr hdue)))
  · intro hbrings
    have hlost : ∀ before later after, calls = before ++ later ++ after →
        HasBase (afterCalls pcl m self before) →
        HasBase (afterCalls pcl m self (before ++ later)) := by
      intro before later after hcalls hbase
      rw [hcalls, Mealy.everyCall_append, Mealy.everyCall_append] at hbrings
      rw [afterCalls, Mealy.finalState_append]
      exact hasBase_afterCalls hbrings.1.2 hbase
    refine ⟨hlost, fun before later call after hcalls hbase hrep => ?_⟩
    have husable := hlost before later (call :: after) hcalls hbase
    have hdue := ((replaces_iff _ call).mp hrep).resolve_left fun hno => hno husable
    rw [Mealy.everyCall_iff_split] at hbrings
    obtain ⟨-, hfits | helapsed⟩ := hbrings (before ++ later) call after hcalls husable hdue
    · exact (due_iff_elapsed hfits call.2).mp hdue
    · exact helapsed

/-! ## An empty frame after the interval -/

open WorkerPool (frameA)

/-- The next minute brings a frame without points. -/
def emptyMinute : List (TimedFrame ℚ) := [(frameA 1, 0), (⟨"", "A", 2, [], 0⟩, 60 * 10 ^ 9)]

/-- The base of the first frame is lost to the empty one. -/
theorem base_lost :
    HasBase (afterCalls stillPcl stillLibm newCalculator [(frameA 1, 0)]) ∧
    ¬ HasBase (afterCalls stillPcl stillLibm newCalculator emptyMinute) ∧
    ¬ BaseKept stillPcl stillLibm newCalculator emptyMinute := by
  have hfirst : (afterCalls stillPcl stillLibm newCalculator [(frameA 1, 0)]).fuse_pc_base_
      = some (frameA 1) := by decide +kernel
  have hlast : (afterCalls stillPcl stillLibm newCalculator emptyMinute).fuse_pc_base_
      = some ⟨"", "A", 2, [], 0⟩ := by decide +kernel
  have hbase : HasBase (afterCalls stillPcl stillLibm newCalculator [(frameA 1, 0)]) :=
    ⟨frameA 1, hfirst, List.cons_ne_nil _ _⟩
  have hlost : ¬ HasBase (afterCalls stillPcl stillLibm newCalculator emptyMinute) := by
    rintro ⟨base, heq, hne⟩
    rw [hlast, Option.some.injEq] at heq
    rw [← heq] at hne
    exact hne rfl
  exact ⟨hbase, hlost, fun hkept => hlost (hkept.never_lost [_] [_] [] rfl hbase)⟩

end SixDofCalculator
end ShipMotion
