import ShipMotion.SystemStateManager
import ShipMotion.Utils.LastWrite
import ShipMotion.Utils.Mealy

/-!
# Which report decides the system state

Every `STATUS_FATAL` and every `STATUS_ERROR` report assigns the system state, so after a
series of reports the state is what the last of these assigned. That is not in general the
severest thing reported: the file has the exact condition under which it is, and under which
the poll of `outputLoop` finds the fatal state at every moment from the fatal report on.
-/

namespace ShipMotion
namespace SystemStateManager

open Utils
open Utils.LastWrite

/-! ## One report -/

/-- What a report of the level assigns to the system state. -/
def assigned : ErrorLevel → Option SystemState
  | .statusFatal => some .fatalError
  | .statusError => some .runError
  | _ => none

/-- A report changes the system state by the assignment of its level alone. -/
theorem getState_reportError (self : SystemStateManager) (now : ℕ) (report : ErrorReport) :
    (self.reportError now report).1.getState = (assigned report.level).getD self.getState := by
  unfold reportError
  cases report.level <;> rfl

theorem assigned_eq_fatalError_iff {level : ErrorLevel} :
    assigned level = some .fatalError ↔ level = .statusFatal := by
  cases level <;> simp [assigned]

/-! ## Series of reports -/

/-- The manager after a series of `reportError` calls, each with the time at which it is made. -/
def reportAll (self : SystemStateManager) (reports : List (ℕ × ErrorReport)) : SystemStateManager :=
  Mealy.finalState (fun self (call : ℕ × ErrorReport) => self.reportError call.1 call.2) self reports

/-- The levels of a series of reports, in order. -/
def levels (reports : List (ℕ × ErrorReport)) : List ErrorLevel :=
  reports.map fun call => call.2.level

/-- The system state is a register that the levels overwrite. -/
theorem getState_reportAll (self : SystemStateManager) (reports : List (ℕ × ErrorReport)) :
    (self.reportAll reports).getState = lastWrite assigned self.getState (levels reports) := by
  induction reports generalizing self with
  | nil => rfl
  | cons call reports ih =>
    show ((self.reportError call.1 call.2).1.reportAll reports).getState = _
    rw [ih, getState_reportError]
    rfl

/-! ## Severity -/

/-- The state that the severest of the levels calls for. -/
def severity (previous : SystemState) (levels : List ErrorLevel) : SystemState :=
  if .statusFatal ∈ levels then .fatalError
  else if .statusError ∈ levels then .runError
  else previous

/-- A level that assigns the system state: `STATUS_ERROR` and above. -/
def severe (level : ErrorLevel) : Bool := ErrorLevel.statusError.toNat ≤ level.toNat

/-- What is assigned last, if anything, by the last of the severe levels. -/
theorem getLast_assigned (ls : List ErrorLevel) :
    (ls.filterMap assigned).getLast? = ((ls.filter severe).getLast?).bind assigned := by
  induction ls using List.reverseRecOn with
  | nil => rfl
  | append_singleton ls l ih =>
    rw [List.filterMap_append, List.filter_append]
    cases l with
    | statusOk | statusWarning =>
      show (ls.filterMap assigned ++ []).getLast? = ((ls.filter severe ++ []).getLast?).bind assigned
      rw [List.append_nil, List.append_nil]
      exact ih
    | statusError | statusFatal =>
      show (ls.filterMap assigned ++ [_]).getLast? =
        ((ls.filter severe ++ [_]).getLast?).bind assigned
      rw [List.getLast?_concat, List.getLast?_concat]
      rfl

theorem lastWrite_fatal_iff {previous : SystemState} {ls : List ErrorLevel}
    (h : ErrorLevel.statusFatal ∈ ls) :
    lastWrite assigned previous ls = .fatalError ↔
      (ls.filter severe).getLast? = some .statusFatal := by
  rw [lastWrite_eq_getLast, getLast_assigned]
  have hmem : ErrorLevel.statusFatal ∈ ls.filter severe := List.mem_filter.mpr ⟨h, rfl⟩
  cases hlast : (ls.filter severe).getLast? with
  | none =>
    rw [List.getLast?_eq_none_iff] at hlast
    rw [hlast] at hmem
    exact absurd hmem List.not_mem_nil
  | some l =>
    have hl : severe l = true := (List.mem_filter.mp (List.mem_of_getLast? hlast)).2
    cases l with
    | statusOk | statusWarning => exact absurd hl (by decide)
    | statusError => exact iff_of_false nofun nofun
    | statusFatal => exact iff_of_true rfl rfl

theorem lastWrite_of_not_mem_fatal {previous : SystemState} {ls : List ErrorLevel}
    (h : ErrorLevel.statusFatal ∉ ls) :
    lastWrite assigned previous ls = severity previous ls := by
  rw [severity, if_neg h]
  induction ls using List.reverseRecOn with
  | nil => rfl
  | append_singleton ls l ih =>
    rw [List.mem_append, List.mem_singleton, not_or] at h
    rw [lastWrite_concat, ih h.1]
    cases l with
    | statusOk | statusWarning => simp [assigned]
    | statusError => simp [assigned]
    | statusFatal => exact absurd rfl h.2

/-- The last report of level `STATUS_ERROR` or above is a fatal one, if any is. -/
def FatalLast (ls : List ErrorLevel) : Prop :=
  .statusFatal ∈ ls → (ls.filter severe).getLast? = some .statusFatal

/-- No `STATUS_ERROR` is reported after a `STATUS_FATAL`. -/
def NoErrorAfterFatal (ls : List ErrorLevel) : Prop :=
  ls.Pairwise fun earlier later => earlier = .statusFatal → later ≠ .statusError

theorem lastWrite_eq_severity_iff (previous : SystemState) (ls : List ErrorLevel) :
    lastWrite assigned previous ls = severity previous ls ↔ FatalLast ls := by
  by_cases hfatal : ErrorLevel.statusFatal ∈ ls
  · rw [severity, if_pos hfatal, lastWrite_fatal_iff hfatal]
    exact ⟨fun h _ => h, fun h => h hfatal⟩
  · exact iff_of_true (lastWrite_of_not_mem_fatal hfatal) fun h => absurd h hfatal

theorem noErrorAfterFatal_iff (ls : List ErrorLevel) :
    NoErrorAfterFatal ls ↔ ls.Pairwise fun l l' => assigned l = some .fatalError →
      ∀ state, assigned l' = some state → state = .fatalError := by
  refine List.Pairwise.iff fun l l' => ?_
  rw [assigned_eq_fatalError_iff]
  refine imp_congr_right fun _ => ?_
  cases l' <;> simp [assigned]

/-- A prefix of the levels is the levels of a prefix of the reports. -/
theorem forall_prefix_levels {P : List ErrorLevel → Prop} (reports : List (ℕ × ErrorReport)) :
    (∀ pre, pre <+: reports → P (levels pre)) ↔ ∀ ls, ls <+: levels reports → P ls := by
  constructor
  · intro h ls hls
    have htake : ls = levels (reports.take ls.length) := by
      rw [levels, List.map_take]
      exact List.prefix_iff_eq_take.mp hls
    rw [htake]
    exact h _ (List.take_prefix _ _)
  · intro h pre hpre
    exact h _ (hpre.map _)

/-- The fatal state is found by every poll after a fatal report exactly when no error is
reported after a fatal one. -/
theorem fatal_shown_iff (self : SystemStateManager) (reports : List (ℕ × ErrorReport)) :
    (∀ pre, pre <+: reports → .statusFatal ∈ levels pre →
        (self.reportAll pre).outputLoopExits = true) ↔ NoErrorAfterFatal (levels reports) := by
  rw [noErrorAfterFatal_iff, ← shown_iff_pairwise self.getState, ← forall_prefix_levels]
  refine forall₂_congr fun pre _ => ?_
  have hwritten : (∃ l ∈ levels pre, assigned l = some .fatalError) ↔
      ErrorLevel.statusFatal ∈ levels pre := by
    simp only [assigned_eq_fatalError_iff, exists_eq_right]
  rw [hwritten, outputLoopExits, decide_eq_true_iff, getState_reportAll]

/-- The state after a series of reports is the one its severest level calls for exactly when
the last severe report is fatal if any is; and `outputLoop`, polling at any moment after a
fatal report, leaves its loop exactly when no error is reported after a fatal one. -/
theorem severity_kept_iff (self : SystemStateManager) (reports : List (ℕ × ErrorReport)) :
    ((self.reportAll reports).getState = severity self.getState (levels reports) ↔
      FatalLast (levels reports)) ∧
    ((∀ pre, pre <+: reports → .statusFatal ∈ levels pre →
        (self.reportAll pre).outputLoopExits = true) ↔ NoErrorAfterFatal (levels reports)) := by
  refine ⟨?_, fatal_shown_iff self reports⟩
  rw [getState_reportAll]
  exact lastWrite_eq_severity_iff _ _

/-- The manager of a running system. -/
def runningManager : SystemStateManager :=
  { system_state_ := .running, has_error_ := false
    last_error_ := ⟨.acquirer, .statusOk, "", 0, false⟩, push_callback_ := true, db_callback_ := true }

/-- A fatal acquisition error, followed by a failed database write. -/
def fatalThenError : List (ℕ × ErrorReport) :=
  [(1, ⟨.acquirer, .statusFatal, ""⟩), (2, ⟨.outputter, .statusError, "数据库写入异常"⟩)]

/-- The milder report takes the fatal state away before the next poll. -/
theorem fatal_overwritten :
    severity runningManager.getState (levels fatalThenError) = .fatalError ∧
      (runningManager.reportAll fatalThenError).getState = .runError ∧
      (runningManager.reportAll fatalThenError).outputLoopExits = false := by
  decide

end SystemStateManager
end ShipMotion
