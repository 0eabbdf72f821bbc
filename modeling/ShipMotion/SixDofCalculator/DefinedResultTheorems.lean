import ShipMotion.DataOutputter.ShipPackage
import ShipMotion.SixDofCalculator.BaseFrameTheorems
import ShipMotion.Utils.SentinelExtrema

/-!
# Which results are fully defined

A call fills in the radar and the length of the ship at its end. It does not get there with a
frame without points, nor with a radar that is neither `A` nor `B`; then it returns a result
whose `ship_length` was never assigned. With any other frame it does get there, from every state
that calls can lead to: the frame's points make up for a missing base. The range of the body is
that of the first frame with points, whichever call brought it, and is one with `min ≤ max` unless
all of the points compare as NaN; then it stays at the sentinels, and so does every later length.
-/

namespace ShipMotion
namespace SixDofCalculator

open Utils Eigen

variable {K : Type} [Field K] [LinearOrder K]

/-! ## The measured range -/

/-- The first body coordinate of a point. -/
def bodyX (pt : PointXYZ K) : K := ((1 : Matrix3 K).transpose.mulVec (vec pt - ![0, 0, 0])) 0

/-- The coordinates of the points that compare as numbers. -/
def numbers (isnan : PointXYZ K → Bool) (cloud : Cloud K) : List K :=
  (cloud.filter fun pt => !isnan pt).map bodyX

/-- Points that compare as NaN are passed over. -/
theorem bodyRangeLoop_eq (isnan : PointXYZ K → Bool) (lo hi : K) (cloud : Cloud K) :
    bodyRangeLoop isnan lo hi cloud
      = (SentinelExtrema.runMin lo (numbers isnan cloud),
          SentinelExtrema.runMax hi (numbers isnan cloud)) := by
  induction cloud generalizing lo hi with
  | nil => rfl
  | cons pt rest ih =>
    rw [bodyRangeLoop, ih, numbers, numbers]
    cases hpt : isnan pt with
    | true =>
      rw [List.filter_cons_of_neg (by rw [hpt]; exact Bool.false_ne_true)]
      simp
    | false =>
      rw [List.filter_cons_of_pos (by rw [hpt]; rfl), List.map_cons, SentinelExtrema.runMin,
        SentinelExtrema.runMax]
      simp [bodyX]

/-- The range of a cloud is measured if one of its points compares as a number, and is reversed
otherwise. -/
theorem bodyRangeLoop_le_iff [IsStrictOrderedRing K] (isnan : PointXYZ K → Bool)
    (cloud : Cloud K) :
    (bodyRangeLoop isnan 1e9 (-1e9) cloud).1 ≤ (bodyRangeLoop isnan 1e9 (-1e9) cloud).2 ↔
      ∃ pt ∈ cloud, isnan pt = false := by
  rw [bodyRangeLoop_eq]
  constructor
  · intro h
    by_contra hnone
    have hnil : numbers isnan cloud = [] := by
      rw [numbers, List.map_eq_nil_iff, List.filter_eq_nil_iff]
      intro pt hpt hnumber
      exact hnone ⟨pt, hpt, by simpa using hnumber⟩
    rw [hnil] at h
    norm_num [SentinelExtrema.runMin, SentinelExtrema.runMax] at h
  · rintro ⟨pt, hpt, hnumber⟩
    have hmem : bodyX pt ∈ numbers isnan cloud :=
      List.mem_map_of_mem (List.mem_filter.mpr ⟨hpt, by rw [hnumber]; rfl⟩)
    calc SentinelExtrema.runMin 1e9 (numbers isnan cloud)
        ≤ bodyX pt := (SentinelExtrema.isLeast_runMin _ _).2 (.inr hmem)
      _ ≤ SentinelExtrema.runMax (-1e9) (numbers isnan cloud) :=
        (SentinelExtrema.isGreatest_runMax _ _).2 (.inr hmem)

/-! ## The frame it is measured on -/

/-- The first cloud with points, or one without. -/
def firstPoints (clouds : List (Cloud K)) : Cloud K :=
  (clouds.find? fun cloud => !cloud.isEmpty).getD []

omit [Field K] [LinearOrder K] in
theorem firstPoints_concat (clouds : List (Cloud K)) (cloud : Cloud K) :
    firstPoints (clouds ++ [cloud])
      = if firstPoints clouds = [] then cloud else firstPoints clouds := by
  rw [firstPoints, firstPoints, List.find?_append]
  cases hfirst : clouds.find? (fun cloud => !cloud.isEmpty) with
  | some first =>
    have hne : first ≠ [] := by simpa using List.find?_some hfirst
    exact (if_neg hne).symm
  | none =>
    cases cloud with
    | nil => rfl
    | cons pt rest => rfl

variable [FloorRing K] {pcl : Pcl K} {m : Libm K}

/-- What calls with the clouds have made of the range: nothing as long as there are no points, and
no usable base either, and then the range of the first points. -/
def MeasuredOn (isnan : PointXYZ K → Bool) (clouds : List (Cloud K)) (self : State K) : Prop :=
  if firstPoints clouds = [] then self.base_extremum_calc_ = false ∧ ¬ HasBase self
  else self.base_extremum_calc_ = true ∧
    (self.base_min_x_body_, self.base_max_x_body_)
      = bodyRangeLoop isnan 1e9 (-1e9) (firstPoints clouds)

/-- The step lemma: a call measures if its frame is the first with points. -/
theorem measuredOn_updateBase {clouds : List (Cloud K)} {self : State K}
    (h : MeasuredOn pcl.isnan clouds self) (c : FusedPointCloud K) (now_tp : ℤ) :
    MeasuredOn pcl.isnan (clouds ++ [c.cloud]) (updateBase pcl self c now_tp).1 := by
  rw [MeasuredOn, firstPoints_concat]
  unfold MeasuredOn at h
  by_cases hfirst : firstPoints clouds = []
  · rw [if_pos hfirst] at h ⊢
    obtain ⟨hcalc, hbase⟩ := h
    -- there is no usable base, so that the frame becomes the base
    have hneed : needUpdateBase self now_tp = true :=
      (replaces_iff self (c, now_tp)).mpr (.inl hbase)
    rw [updateBase, if_pos hneed]
    dsimp only
    rw [hcalc]
    by_cases hc : c.cloud = []
    · rw [if_pos hc, if_neg (by simp [hc])]
      refine ⟨rfl, ?_⟩
      rintro ⟨base, heq, hne⟩
      rw [Option.some.injEq] at heq
      exact hne (heq ▸ hc)
    · rw [if_neg hc, if_pos (by simp [hc])]
      exact ⟨rfl, rfl⟩
  · rw [if_neg hfirst] at h ⊢
    rw [if_neg hfirst]
    obtain ⟨hcalc, hrange⟩ := h
    by_cases hneed : needUpdateBase self now_tp = true
    · rw [updateBase, if_pos hneed]
      dsimp only
      rw [hcalc, if_neg (by simp)]
      exact ⟨rfl, hrange⟩
    · rw [updateBase_of_not_need (Bool.eq_false_iff.mpr hneed)]
      exact ⟨hcalc, hrange⟩

/-- The members as the constructor leaves them: what was configured, no base and no range. -/
def constructed (base_update_interval_min : K) (regCfg_ : RegParam K)
    (T_A2dock_ T_B2dock_ : Affine3 K) (last_base_update_tp_ : ℤ) : State K where
  base_update_interval_min
  regCfg_
  T_A2dock_
  T_B2dock_
  fuse_pc_base_ := none
  last_base_update_tp_
  base_min_x_body_ := 0
  base_max_x_body_ := 0
  base_extremum_calc_ := false

/-- The run lemma: after calls from the constructor, the range is that of the first points. -/
theorem measuredOn_afterCalls (pcl : Pcl K) (m : Libm K) {self : State K}
    (h : MeasuredOn pcl.isnan [] self) (calls : List (TimedFrame K)) :
    MeasuredOn pcl.isnan (calls.map (·.1.cloud)) (afterCalls pcl m self calls) := by
  induction calls using List.reverseRecOn with
  | nil => exact h
  | append_singleton calls call ih =>
    rw [afterCalls, Mealy.finalState_concat, sixDofCall, calculateSixDof_state, List.map_append]
    exact measuredOn_updateBase ih call.1 call.2

/-! ## The result of a call -/

variable {self : State K} {c : FusedPointCloud K} {now_tp : ℤ}

/-- A frame with points finds a usable base, or is the new one. -/
theorem hasBase_updateBase (pcl : Pcl K) (self : State K) (now_tp : ℤ) (hc : c.cloud ≠ []) :
    HasBase (updateBase pcl self c now_tp).1 := by
  by_cases hneed : needUpdateBase self now_tp = true
  · exact ⟨c, updateBase_of_need hneed, hc⟩
  · rw [updateBase_of_not_need (Bool.eq_false_iff.mpr hneed)]
    have hkeeps := mt (replaces_iff self (c, now_tp)).mpr hneed
    rw [not_or, not_not] at hkeeps
    exact hkeeps.1

/-- The call returns before the end on a frame without points. -/
theorem ship_length_of_empty (hc : c.cloud = []) :
    (calculateSixDof pcl m self c now_tp).2.1.ship_length = none := by
  have hpair : registeredPair (updateBase pcl self c now_tp).1 c = none := by
    rw [registeredPair, hc]
    cases (updateBase pcl self c now_tp).1.fuse_pc_base_ with
    | none => rfl
    | some base => rfl
  unfold calculateSixDof
  dsimp only
  rw [hpair]

/-- And on a frame of another radar. -/
theorem ship_length_of_unknown (hA : c.lidar_id ≠ "A") (hB : c.lidar_id ≠ "B") :
    (calculateSixDof pcl m self c now_tp).2.1.ship_length = none := by
  have htransform : ∀ T_local,
      shipDockTransform (updateBase pcl self c now_tp).1 c.lidar_id T_local = none := by
    intro T_local
    rw [shipDockTransform, if_neg hB, if_neg hA]
  unfold calculateSixDof
  dsimp only
  cases registeredPair (updateBase pcl self c now_tp).1 c with
  | none => rfl
  | some frames =>
    dsimp only
    rw [htransform]

/-- With points and a known radar the call fills in the rest. -/
theorem calculateSixDof_filled (hc : c.cloud ≠ []) (hid : c.lidar_id = "A" ∨ c.lidar_id = "B") :
    (calculateSixDof pcl m self c now_tp).2.1.lidar_ip = c.lidar_ip ∧
    (calculateSixDof pcl m self c now_tp).2.1.lidar_id = c.lidar_id ∧
    (calculateSixDof pcl m self c now_tp).2.1.ship_length
      = some ((updateBase pcl self c now_tp).1.base_max_x_body_
          - (updateBase pcl self c now_tp).1.base_min_x_body_) := by
  obtain ⟨base, hbase, hne⟩ := hasBase_updateBase pcl self now_tp hc
  have hpair := registeredPair_eq hbase hc hne
  have htransform : ∀ T_local, ∃ T,
      shipDockTransform (updateBase pcl self c now_tp).1 c.lidar_id T_local = some T := by
    intro T_local
    rw [shipDockTransform_eq, radarTransform]
    rcases hid with hid | hid
    · rw [hid]
      exact ⟨_, rfl⟩
    · rw [hid]
      exact ⟨_, rfl⟩
  unfold calculateSixDof
  dsimp only
  rw [hpair]
  dsimp only
  obtain ⟨T, hT⟩ := htransform (fineRegistrationGICP pcl c.cloud base.cloud
    (coarseRegistration pcl c.cloud base.cloud (updateBase pcl self c now_tp).1.regCfg_)
    (updateBase pcl self c now_tp).1.regCfg_).1
  rw [hT]
  exact ⟨rfl, rfl, rfl⟩

theorem calculateSixDof_timestamp :
    (calculateSixDof pcl m self c now_tp).2.1.timestamp = c.timestamp := by
  unfold calculateSixDof
  dsimp only
  split
  · rfl
  · split <;> rfl

/-! ## Defined results -/

/-- The result `r` of a call with the frame `c` is the frame's own, has a length that is not
negative, and what the outputter records and sends for it does not depend on what an unassigned
value reads as. -/
structure ResultDefined (m : Libm K) (c : FusedPointCloud K) (r : SixDofResult K) : Prop where
  lidar_ip_eq : r.lidar_ip = c.lidar_ip
  lidar_id_eq : r.lidar_id = c.lidar_id
  timestamp_eq : r.timestamp = c.timestamp
  length_assigned : ∃ L, r.ship_length = some L ∧ 0 ≤ L
  record_determined : ∀ pos_history_ unset unset',
    DataOutputter.calcShipBowSternPos m pos_history_ r unset
      = DataOutputter.calcShipBowSternPos m pos_history_ r unset'
  package_determined : ∀ put_time berth_id pos_history_ unset unset',
    DataOutputter.solveResult m put_time berth_id pos_history_ r unset
      = DataOutputter.solveResult m put_time berth_id pos_history_ r unset'

omit [LinearOrder K] [FloorRing K] in
/-- With a length, nothing unassigned is read. -/
theorem calcShipBowSternPos_of_assigned {r : SixDofResult K} {L : K} (h : r.ship_length = some L)
    (pos_history_ : List (DataOutputter.ShipPosRecord K)) (unset unset' : K) :
    DataOutputter.calcShipBowSternPos m pos_history_ r unset
      = DataOutputter.calcShipBowSternPos m pos_history_ r unset' := by
  rw [DataOutputter.calcShipBowSternPos, DataOutputter.calcShipBowSternPos, h]
  rfl

/-- From any state: the result is fully defined exactly when the frame has points, is one of the
radars `A` and `B`, and the call ends with a range that is not reversed. -/
theorem resultDefined_iff_range [IsStrictOrderedRing K] (pcl : Pcl K) (m : Libm K)
    (self : State K) (c : FusedPointCloud K) (now_tp : ℤ) :
    ResultDefined m c (calculateSixDof pcl m self c now_tp).2.1 ↔
      c.cloud ≠ [] ∧ (c.lidar_id = "A" ∨ c.lidar_id = "B") ∧
        (updateBase pcl self c now_tp).1.base_min_x_body_
          ≤ (updateBase pcl self c now_tp).1.base_max_x_body_ := by
  constructor
  · intro h
    obtain ⟨L, hL, hnonneg⟩ := h.length_assigned
    have hc : c.cloud ≠ [] := by
      intro hc
      rw [ship_length_of_empty hc] at hL
      cases hL
    have hid : c.lidar_id = "A" ∨ c.lidar_id = "B" := by
      by_contra hid
      rw [not_or] at hid
      rw [ship_length_of_unknown hid.1 hid.2] at hL
      cases hL
    rw [(calculateSixDof_filled (m := m) hc hid).2.2, Option.some.injEq] at hL
    exact ⟨hc, hid, sub_nonneg.mp (hL ▸ hnonneg)⟩
  · rintro ⟨hc, hid, hrange⟩
    obtain ⟨hip, hidEq, hlength⟩ := calculateSixDof_filled (m := m) hc hid
    have hrecord := calcShipBowSternPos_of_assigned (m := m) hlength
    refine ⟨hip, hidEq, calculateSixDof_timestamp, ⟨_, hlength, sub_nonneg.mpr hrange⟩,
      hrecord, ?_⟩
    intro put_time berth_id pos_history_ unset unset'
    rw [DataOutputter.solveResult, DataOutputter.solveResult, hrecord pos_history_ unset unset']

omit [Field K] [LinearOrder K] [FloorRing K] in
/-- With a frame that has points, there is a first one with points. -/
theorem firstPoints_concat_ne {cloud : Cloud K} (h : cloud ≠ []) (clouds : List (Cloud K)) :
    firstPoints (clouds ++ [cloud]) ≠ [] := by
  rw [firstPoints_concat]
  split
  · exact h
  · assumption

/-- **Defined results.** After any run of calls from the constructor, the result of a call is
fully defined exactly when the frame has points, is one of the radars `A` and `B`, and the first
frame with points of the run, this one included, has a point that compares as a number. -/
theorem resultDefined_iff [IsStrictOrderedRing K] (pcl : Pcl K) (m : Libm K)
    (base_update_interval_min : K) (regCfg_ : RegParam K) (T_A2dock_ T_B2dock_ : Affine3 K)
    (last_base_update_tp_ : ℤ) (calls : List (TimedFrame K)) (c : FusedPointCloud K)
    (now_tp : ℤ) :
    ResultDefined m c
        (calculateSixDof pcl m (afterCalls pcl m (constructed base_update_interval_min regCfg_
          T_A2dock_ T_B2dock_ last_base_update_tp_) calls) c now_tp).2.1 ↔
      c.cloud ≠ [] ∧ (c.lidar_id = "A" ∨ c.lidar_id = "B") ∧
        ∃ pt ∈ firstPoints (calls.map (·.1.cloud) ++ [c.cloud]), pcl.isnan pt = false := by
  have hconstructed : MeasuredOn pcl.isnan [] (constructed base_update_interval_min regCfg_
      T_A2dock_ T_B2dock_ last_base_update_tp_) := by
    refine ⟨rfl, ?_⟩
    rintro ⟨base, hbase, -⟩
    cases hbase
  have hmeasured :=
    measuredOn_updateBase (measuredOn_afterCalls pcl m hconstructed calls) c now_tp
  rw [resultDefined_iff_range, ← bodyRangeLoop_le_iff]
  refine and_congr_right fun hc => and_congr_right fun _ => ?_
  rw [MeasuredOn, if_neg (firstPoints_concat_ne hc _)] at hmeasured
  rw [← hmeasured.2]

open WorkerPool (frameA)

theorem resultDefined_iff_second :
    ResultDefined stillLibm (frameA 2)
        (calculateSixDof stillPcl stillLibm (afterCalls stillPcl stillLibm
          (constructed 1 .initial 1 1 0) [(frameA 1, 0)]) (frameA 2) 1).2.1 ↔
      (frameA 2).cloud ≠ [] ∧ ((frameA 2).lidar_id = "A" ∨ (frameA 2).lidar_id = "B") ∧
        ∃ pt ∈ firstPoints ([(frameA 1, (0 : ℤ))].map (·.1.cloud) ++ [(frameA 2).cloud]),
          stillPcl.isnan pt = false :=
  resultDefined_iff stillPcl stillLibm 1 .initial 1 1 0 [(frameA 1, 0)] (frameA 2) 1

/-- The first frame has no points: the result has the default radar and no length. -/
theorem empty_frame_undefined :
    ¬ResultDefined stillLibm (⟨"10.0.0.7", "A", 1, [], 0⟩ : FusedPointCloud ℚ)
      (calculateSixDof stillPcl stillLibm (afterCalls stillPcl stillLibm
        (constructed 1 .initial 1 1 0) []) ⟨"10.0.0.7", "A", 1, [], 0⟩ 0).2.1 := by
  intro h
  obtain ⟨L, hL, -⟩ := h.length_assigned
  rw [ship_length_of_empty rfl] at hL
  cases hL

end SixDofCalculator
end ShipMotion
