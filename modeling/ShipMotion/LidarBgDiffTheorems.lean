import ShipMotion.LidarBgDiff
import ShipMotion.Utils.Mealy
import ShipMotion.Utils.Streak

/-!
# The ship monitoring state machine

`SHIP_STABLE` should mean that the ship was there for `stable_frame_cnt_` frames in a row.
The centre history carries this: `judgeShipStatus` empties it on every departure it decides,
but a frame without any foreground is answered by `monitorShip` itself, before the history is
looked at. The file has what one call does to the history, the invariant that the history is
no longer than the current streak of non-departures, and the exact condition for it.
-/

namespace ShipMotion
namespace LidarBgDiff

open Utils (streak)
open Utils.Streak

variable {K : Type} [Field K] [LinearOrder K] {pcl : Pcl K}

/-! ## One call -/

omit [Field K] [LinearOrder K] in
/-- A push lengthens the history by at most one. -/
theorem length_pushCenter_le (self : State K) (record : ShipCenterRecord K) :
    (pushCenter self record).length ≤ self.center_history_.length + 1 := by
  unfold pushCenter
  simp only [List.length_append, List.length_singleton]
  split
  · rw [List.length_tail, List.length_append, List.length_singleton]
    omega
  · rw [List.length_append, List.length_singleton]

/-- The three ways `judgeShipStatus` ends: a departure empties the history; otherwise the
current centre is pushed, and the ship is stable only if the history is then full. -/
theorem judgeShipStatus_cases (pcl : Pcl K) (self : State K) (cur_pose : ShipMove K) (ship_pts : ℤ) :
    judgeShipStatus pcl self cur_pose ship_pts = ({ self with center_history_ := [] }, .shipLeave) ∨
    ∃ history : List (ShipCenterRecord K), history.length ≤ self.center_history_.length + 1 ∧
      (judgeShipStatus pcl self cur_pose ship_pts
          = ({ self with center_history_ := history }, .shipMoving) ∨
        judgeShipStatus pcl self cur_pose ship_pts
          = ({ self with center_history_ := history }, .shipStable) ∧
        toSizeT self.stable_frame_cnt_ ≤ history.length) := by
  unfold judgeShipStatus
  split
  · exact .inl rfl
  · refine .inr ⟨_, length_pushCenter_le self
      ⟨cur_pose.center_x, cur_pose.center_y, cur_pose.center_z⟩, ?_⟩
    dsimp only
    split
    · exact .inl rfl
    · rename_i hfull
      split
      · exact .inr ⟨rfl, Nat.le_of_not_lt hfull⟩
      · exact .inl rfl

/-- `monitorShip` as its callers see it, the output cloud aside. -/
def monitorStatus (pcl : Pcl K) (self : State K) (call : MonitorCall K) :
    State K × ShipMonitorStatus :=
  ((monitorShip pcl self call).1, (monitorShip pcl self call).2.2.status)

/-- The early return: no foreground is a departure, and the object is left as it was. -/
theorem monitorStatus_of_isEmpty {self : State K} {call : MonitorCall K}
    (h : (extractForeground pcl self call.raw_cloud).isEmpty = true) :
    monitorStatus pcl self call = (self, .shipLeave) := by
  rw [monitorStatus, monitorShip, if_pos h]

/-- With a foreground, the status is the one judged from the largest cluster. -/
theorem monitorStatus_of_not_isEmpty {self : State K} {call : MonitorCall K}
    (h : ¬ (extractForeground pcl self call.raw_cloud).isEmpty = true) :
    ∃ cur_pose ship_pts,
      monitorStatus pcl self call = judgeShipStatus pcl self cur_pose ship_pts := by
  rw [monitorStatus, monitorShip, if_neg h]
  exact ⟨_, _, rfl⟩

/-- The condition on a call: the raw cloud has a foreground, or there is no history to
forget. -/
def ForgetsNothing (pcl : Pcl K) (self : State K) (call : MonitorCall K) : Prop :=
  extractForeground pcl self call.raw_cloud ≠ [] ∨ self.center_history_ = []

/-- A call that reports a departure leaves the centre history empty. -/
def LeaveClears (pcl : Pcl K) (self : State K) (call : MonitorCall K) : Prop :=
  (monitorStatus pcl self call).2 = .shipLeave →
    (monitorStatus pcl self call).1.center_history_ = []

theorem leaveClears_iff (self : State K) (call : MonitorCall K) :
    LeaveClears pcl self call ↔ ForgetsNothing pcl self call := by
  unfold LeaveClears ForgetsNothing
  by_cases hfg : (extractForeground pcl self call.raw_cloud).isEmpty = true
  · rw [monitorStatus_of_isEmpty hfg]
    have hnil := List.isEmpty_iff.mp hfg
    simp [hnil]
  · obtain ⟨cur_pose, ship_pts, heq⟩ := monitorStatus_of_not_isEmpty hfg
    have hne : extractForeground pcl self call.raw_cloud ≠ [] := fun h =>
      hfg (List.isEmpty_iff.mpr h)
    refine iff_of_true ?_ (.inl hne)
    rw [heq]
    rcases judgeShipStatus_cases pcl self cur_pose ship_pts with
      h | ⟨history, _, h | ⟨h, _⟩⟩ <;> rw [h]
    · exact fun _ => rfl
    · exact nofun
    · exact nofun

/-! ## Runs -/

/-- The ship was there: the status is not a departure. -/
def present (status : ShipMonitorStatus) : Bool := status ≠ .shipLeave

/-- A call returns stable only if it and the `n - 1` calls before it found the ship present. -/
def StableNeedsPresence (n : ℕ) (statuses : List ShipMonitorStatus) : Prop :=
  ∀ k, statuses[k]? = some .shipStable →
    n ≤ k + 1 ∧ ∀ j, k + 1 ≤ j + n → j ≤ k → statuses[j]? ≠ some .shipLeave

theorem StableNeedsPresence.nil {n : ℕ} : StableNeedsPresence n [] := by
  intro k hk
  simp at hk

/-- Another status keeps the property if it is not stable, or ends a long enough streak. -/
theorem StableNeedsPresence.snoc {n : ℕ} {statuses : List ShipMonitorStatus}
    {status : ShipMonitorStatus} (h : StableNeedsPresence n statuses)
    (hnew : status = .shipStable → n ≤ streak present (statuses ++ [status])) :
    StableNeedsPresence n (statuses ++ [status]) := by
  intro k hk
  -- `k` is an old place or the new one
  have hklen : k < (statuses ++ [status]).length := by
    by_contra hge
    rw [List.getElem?_eq_none (Nat.le_of_not_lt hge)] at hk
    cases hk
  by_cases hold : k < statuses.length
  · rw [List.getElem?_append_left hold] at hk
    obtain ⟨hn, hall⟩ := h k hk
    refine ⟨hn, fun j hjn hjk => ?_⟩
    rw [List.getElem?_append_left (by omega)]
    exact hall j hjn hjk
  · -- the new status: its window is the end of the streak
    rw [List.length_append, List.length_singleton] at hklen
    have hkeq : k = statuses.length := by omega
    subst hkeq
    rw [List.getElem?_concat_length, Option.some.injEq] at hk
    have hstreak := hnew hk
    have hle := streak_le_length (p := present) (statuses ++ [status])
    rw [List.length_append, List.length_singleton] at hle
    refine ⟨by omega, fun j hjn hjk hleave => ?_⟩
    have hj : j < (statuses ++ [status]).length := by
      rw [List.length_append, List.length_singleton]
      omega
    have hpres := of_streak (p := present) hj (by
      rw [List.length_append, List.length_singleton]
      omega)
    rw [List.getElem?_eq_getElem hj, Option.some.injEq] at hleave
    rw [hleave] at hpres
    exact absurd hpres (by decide)

/-- What a run whose calls forget nothing maintains: the configured count, a history no
longer than the streak, and the property so far. -/
structure HistoryInv (count : Int32) (s : State K) (statuses : List ShipMonitorStatus) :
    Prop where
  count_eq : s.stable_frame_cnt_ = count
  history_le : s.center_history_.length ≤ streak present statuses
  stable : StableNeedsPresence (toSizeT count) statuses

theorem HistoryInv.step {count : Int32} {self : State K} {statuses : List ShipMonitorStatus}
    {call : MonitorCall K} (h : HistoryInv count self statuses)
    (hok : ForgetsNothing pcl self call) :
    HistoryInv count (monitorStatus pcl self call).1
      (statuses ++ [(monitorStatus pcl self call).2]) := by
  obtain ⟨hcount, hlen, hstable⟩ := h
  by_cases hfg : (extractForeground pcl self call.raw_cloud).isEmpty = true
  · -- the early return keeps the history, which the condition makes empty
    rw [monitorStatus_of_isEmpty hfg]
    have hnil : self.center_history_ = [] := hok.resolve_left fun hne =>
      hne (List.isEmpty_iff.mp hfg)
    refine ⟨hcount, ?_, hstable.snoc nofun⟩
    rw [hnil]
    exact Nat.zero_le _
  · obtain ⟨cur_pose, ship_pts, heq⟩ := monitorStatus_of_not_isEmpty hfg
    rw [heq]
    -- three endings: no ship, a history not yet full, a full one
    rcases judgeShipStatus_cases pcl self cur_pose ship_pts with
      hj | ⟨history, hhist, hj | ⟨hj, hfull⟩⟩ <;> rw [hj]
    · exact ⟨hcount, Nat.zero_le _, hstable.snoc nofun⟩
    · refine ⟨hcount, ?_, hstable.snoc nofun⟩
      show history.length ≤ streak present (statuses ++ [.shipMoving])
      rw [streak_snoc_of_pos (p := present) rfl]
      omega
    · -- the history is full and the streak at least as long
      have hstreak : history.length ≤ streak present (statuses ++ [.shipStable]) := by
        rw [streak_snoc_of_pos (p := present) rfl]
        omega
      rw [hcount] at hfull
      exact ⟨hcount, hstreak, hstable.snoc fun _ => le_trans hfull hstreak⟩

theorem toSizeT_of_pos {i : Int32} (h : 1 ≤ i.toInt) : (toSizeT i : ℤ) = i.toInt := by
  have hlt := i.toInt_lt
  have hmod : i.toInt % 2 ^ 64 = i.toInt := Int.emod_eq_of_lt (by omega) (by omega)
  rw [toSizeT, hmod, Int.toNat_of_nonneg (by omega)]

/-- **When stability needs presence.** For every configuration with a positive frame count
and every run of `monitorShip` on a fresh object: every stable verdict is backed by `n` calls
in a row that were not departures, and every departure empties the centre history, if and
only if no call without foreground meets a history that is not empty. -/
theorem monitorShip_runs_iff (pcl : Pcl K) (self : State K) (calls : List (MonitorCall K))
    (hfresh : self.center_history_ = []) (hn : 1 ≤ self.stable_frame_cnt_.toInt) :
    (StableNeedsPresence self.stable_frame_cnt_.toInt.toNat
        (Utils.Mealy.outputs (monitorStatus pcl) self calls) ∧
      Utils.Mealy.EveryCall (monitorStatus pcl) (LeaveClears pcl) self calls) ↔
    Utils.Mealy.EveryCall (monitorStatus pcl) (ForgetsNothing pcl) self calls := by
  -- clearing on departure is the condition call by call; stability then needs the run
  have hiff : Utils.Mealy.EveryCall (monitorStatus pcl) (LeaveClears pcl) self calls ↔
      Utils.Mealy.EveryCall (monitorStatus pcl) (ForgetsNothing pcl) self calls :=
    Utils.Mealy.everyCall_congr (J := fun _ => True) (fun _ _ _ => trivial)
      (fun s call _ => leaveClears_iff s call) trivial
  refine ⟨fun h => hiff.mp h.2, fun h => ⟨?_, hiff.mpr h⟩⟩
  have hcount : toSizeT self.stable_frame_cnt_ = self.stable_frame_cnt_.toInt.toNat := by
    have := toSizeT_of_pos hn
    omega
  have hinit : HistoryInv self.stable_frame_cnt_ self [] :=
    ⟨rfl, by rw [hfresh]; exact Nat.zero_le _, .nil⟩
  have hfinal := Utils.Mealy.run_induction (f := monitorStatus pcl)
    (J := HistoryInv self.stable_frame_cnt_)
    (fun s os call hs hok => HistoryInv.step hs hok) hinit h
  rw [List.nil_append] at hfinal
  rw [← hcount]
  exact hfinal.stable

/-! ## A departure that is not noticed -/

/-- The library calls on clouds of at most one point, which is its own voxel and its own
cluster. -/
def onePointPcl : Pcl ℚ where
  voxelFilter cloud := cloud
  nearestSqDist cloud pt :=
    let bg := cloud.headD pt
    (pt.x - bg.x) * (pt.x - bg.x) + (pt.y - bg.y) * (pt.y - bg.y)
      + (pt.z - bg.z) * (pt.z - bg.z)
  extractClusters cloud _ _ := [List.range cloud.length]
  extractIndices cloud indices := indices.filterMap (cloud[·]?)
  getMinMax3D cloud := (cloud.headD ⟨0, 0, 0⟩, cloud.headD ⟨0, 0, 0⟩)
  sqrt d := d

/-- An empty berth: the background is the origin, and two frames make a ship stable. -/
def emptyBerth : State ℚ where
  dist_thresh_ := 1
  bg_kdtree_ := [⟨0, 0, 0⟩]
  bg_ready_ := true
  center_history_ := []
  stable_frame_cnt_ := 2
  stable_dist_thresh_ := 1
  min_valid_ship_pts_ := 1

/-- A frame with a ship at distance 10, and a frame with nothing but background. -/
def shipFrame : MonitorCall ℚ := ⟨some [⟨10, 0, 0⟩], 1, 1⟩
def backgroundFrame : MonitorCall ℚ := ⟨some [⟨0, 0, 0⟩], 1, 1⟩

/-- The condition can be met: two frames with the ship, and it is stable. -/
theorem monitorShip_runs_iff_shipFrames :
    StableNeedsPresence 2
        (Utils.Mealy.outputs (monitorStatus onePointPcl) emptyBerth [shipFrame, shipFrame]) ∧
      Utils.Mealy.EveryCall (monitorStatus onePointPcl) (LeaveClears onePointPcl) emptyBerth
        [shipFrame, shipFrame] :=
  (monitorShip_runs_iff onePointPcl emptyBerth [shipFrame, shipFrame] rfl (by decide)).mpr
    ⟨.inl (by decide +kernel), .inl (by decide +kernel), trivial⟩

/-- The ship is seen, gone for one frame, and seen again: the departure leaves the history as
it was, and the third call reports a stable ship after one frame of presence. -/
theorem monitorShip_forgets_departure :
    Utils.Mealy.outputs (monitorStatus onePointPcl) emptyBerth
        [shipFrame, backgroundFrame, shipFrame] = [.shipMoving, .shipLeave, .shipStable] ∧
      ¬ StableNeedsPresence emptyBerth.stable_frame_cnt_.toInt.toNat
        (Utils.Mealy.outputs (monitorStatus onePointPcl) emptyBerth
          [shipFrame, backgroundFrame, shipFrame]) := by
  have hrun : Utils.Mealy.outputs (monitorStatus onePointPcl) emptyBerth
      [shipFrame, backgroundFrame, shipFrame] = [.shipMoving, .shipLeave, .shipStable] := by
    decide +kernel
  refine ⟨hrun, fun h => ?_⟩
  rw [hrun] at h
  exact (h 2 rfl).2 1 (by decide) (by decide) rfl

end LidarBgDiff
end ShipMotion
