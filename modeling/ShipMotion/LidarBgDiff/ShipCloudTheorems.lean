import Mathlib.Analysis.Real.Sqrt
import ShipMotion.LidarBgDiffTheorems
import ShipMotion.Utils.SentinelExtrema

/-!
# The ship that is handed on

What `monitorShip` returns as the ship is the largest cluster of the points that are far from
the background, with the first of equal ones chosen; its box contains all its points. `process`
returns the same ship, except that it leaves the caller's cloud alone when there is no
foreground.
-/

namespace ShipMotion
namespace LidarBgDiff

open Utils.SentinelExtrema

/-! ## The largest cluster -/

/-- `c` is the first of the longest lists in `l`. -/
def IsFirstLongest (l : List (List ℕ)) (c : List ℕ) : Prop :=
  ∃ before after, l = before ++ c :: after ∧
    (∀ b ∈ before, b.length < c.length) ∧ ∀ a ∈ after, a.length ≤ c.length

/-- The loop keeps the index it has, or ends with the index of the first of the longest lists
that beat its size. -/
theorem maxClusterLoop_cases (i max_size max_idx : ℕ) (l : List (List ℕ)) :
    (maxClusterLoop i max_size max_idx l = max_idx ∧ ∀ c ∈ l, c.length ≤ max_size) ∨
    ∃ before c after, l = before ++ c :: after ∧
      maxClusterLoop i max_size max_idx l = i + before.length ∧ max_size < c.length ∧
      (∀ b ∈ before, b.length < c.length) ∧ ∀ a ∈ after, a.length ≤ c.length := by
  induction l generalizing i max_size max_idx with
  | nil => exact .inl ⟨rfl, fun c hc => absurd hc List.not_mem_nil⟩
  | cons idx rest ih =>
    rw [maxClusterLoop]
    split
    · -- the head beats the size so far, and is beaten later or not
      rename_i hbeat
      rcases ih (i + 1) idx.length i with ⟨heq, hle⟩ | ⟨before, c, after, hl, heq, hlt, hb, ha⟩
      · exact .inr ⟨[], idx, rest, rfl, heq, hbeat, List.forall_mem_nil _, hle⟩
      · refine .inr ⟨idx :: before, c, after, by rw [hl, List.cons_append], ?_, by omega,
          List.forall_mem_cons.mpr ⟨hlt, hb⟩, ha⟩
        rw [heq, List.length_cons]
        omega
    · -- the head is passed over: it is no longer than what is selected
      rename_i hnot
      rcases ih (i + 1) max_size max_idx with
        ⟨heq, hle⟩ | ⟨before, c, after, hl, heq, hlt, hb, ha⟩
      · exact .inl ⟨heq, List.forall_mem_cons.mpr ⟨Nat.le_of_not_lt hnot, hle⟩⟩
      · refine .inr ⟨idx :: before, c, after, by rw [hl, List.cons_append], ?_, hlt,
          List.forall_mem_cons.mpr ⟨by omega, hb⟩, ha⟩
        rw [heq, List.length_cons]
        omega

/-- From an empty start it selects the first of the longest lists. -/
theorem maxClusterLoop_isFirstLongest {l : List (List ℕ)} (h : l ≠ []) :
    IsFirstLongest l (l.getD (maxClusterLoop 0 0 0 l) []) := by
  rcases maxClusterLoop_cases 0 0 0 l with ⟨heq, hle⟩ | ⟨before, c, after, hl, heq, -, hb, ha⟩
  · -- all lists are empty, and the first of them is selected
    obtain ⟨c, after, rfl⟩ := List.exists_cons_of_ne_nil h
    rw [heq]
    refine ⟨[], after, rfl, fun b hb => absurd hb List.not_mem_nil, fun a ha => ?_⟩
    exact (hle a (List.mem_cons_of_mem c ha)).trans (Nat.zero_le _)
  · have hget : l.getD (maxClusterLoop 0 0 0 l) [] = c := by
      rw [heq, Nat.zero_add, hl, List.getD_eq_getElem?_getD, List.getElem?_append_right le_rfl,
        Nat.sub_self]
      rfl
    rw [hget]
    exact ⟨before, after, hl, hb, ha⟩

/-! ## The two entry points -/

section Process

variable {K : Type} [Field K] [LinearOrder K]

/-- Without foreground `monitorShip` returns an empty cloud and no ship. -/
theorem monitorShip_of_isEmpty {pcl : Pcl K} {self : State K} {call : MonitorCall K}
    (h : (extractForeground pcl self call.raw_cloud).isEmpty = true) :
    monitorShip pcl self call =
      (self, [], { status := .shipLeave, pose := { has_ship := false }, ship_point_count := 0 }) := by
  rw [monitorShip, if_pos h]

/-- With foreground it returns the ship cloud, its pose and what `judgeShipStatus` makes of
them. -/
theorem monitorShip_of_not_isEmpty {pcl : Pcl K} {self : State K} {call : MonitorCall K}
    (h : ¬ (extractForeground pcl self call.raw_cloud).isEmpty = true) :
    let ship := removeSmallClusters pcl (extractForeground pcl self call.raw_cloud)
      call.cluster_eps call.cluster_min_pts
    let pose := calculateShipPose pcl ship
    (monitorShip pcl self call).2 =
      (ship, { status := (judgeShipStatus pcl self pose ship.length).2, pose
               ship_point_count := ship.length }) := by
  rw [monitorShip, if_neg h]

/-- **When the two interfaces agree.** `process` and `monitorShip` leave the same points in the
caller's cloud and return the same pose if and only if there is a foreground or the cloud was
empty before. -/
theorem process_eq_iff (pcl : Pcl K) (self : State K) (ship_cloud : Cloud K)
    (call : MonitorCall K) :
    process pcl self call.raw_cloud ship_cloud call.cluster_eps call.cluster_min_pts
        = ((monitorShip pcl self call).2.1, (monitorShip pcl self call).2.2.pose) ↔
      extractForeground pcl self call.raw_cloud ≠ [] ∨ ship_cloud = [] := by
  by_cases hfg : (extractForeground pcl self call.raw_cloud).isEmpty = true
  · have hnil := List.isEmpty_iff.mp hfg
    rw [process, if_pos hfg, monitorShip_of_isEmpty hfg, Prod.mk.injEq]
    constructor
    · intro h
      exact .inr h.1
    · intro h
      exact ⟨h.resolve_left (not_not.mpr hnil), rfl⟩
  · have hne : extractForeground pcl self call.raw_cloud ≠ [] := fun h =>
      hfg (List.isEmpty_iff.mpr h)
    refine iff_of_true ?_ (.inl hne)
    rw [process, if_neg hfg, monitorShip_of_not_isEmpty hfg]

end Process

/-- The ship was in the cloud of the caller, and a frame with nothing but background leaves it
there. -/
theorem process_keeps_ship :
    process onePointPcl emptyBerth backgroundFrame.raw_cloud [⟨10, 0, 0⟩]
        backgroundFrame.cluster_eps backgroundFrame.cluster_min_pts
      ≠ ((monitorShip onePointPcl emptyBerth backgroundFrame).2.1,
          (monitorShip onePointPcl emptyBerth backgroundFrame).2.2.pose) := by
  intro h
  have hcloud := congrArg Prod.fst h
  revert hcloud
  decide +kernel

/-! ## The ship, over the reals -/

/-- The square of the distance of two points. -/
def sqDist (p q : PointXYZ ℝ) : ℝ :=
  (p.x - q.x) * (p.x - q.x) + (p.y - q.y) * (p.y - q.y) + (p.z - q.z) * (p.z - q.z)

/-- `p` lies farther than `d` from every point of the cloud. -/
def FarFrom (d : ℝ) (cloud : Cloud ℝ) (p : PointXYZ ℝ) : Prop :=
  ∀ q ∈ cloud, d < Real.sqrt (sqDist p q)

/-- The points of a cloud selected by indices, in the order of the indices. -/
def select (cloud : Cloud ℝ) (indices : List ℕ) : Cloud ℝ := indices.filterMap (cloud[·]?)

/-- The box contains the point. -/
def InBox (pose : ShipMove ℝ) (p : PointXYZ ℝ) : Prop :=
  (pose.bbox_min_x ≤ p.x ∧ p.x ≤ pose.bbox_max_x) ∧
  (pose.bbox_min_y ≤ p.y ∧ p.y ≤ pose.bbox_max_y) ∧
  (pose.bbox_min_z ≤ p.z ∧ p.z ≤ pose.bbox_max_z)

/-- What the library calls do. -/
structure Documented (pcl : Pcl ℝ) : Prop where
  /-- the nearest squared distance is that of one of the points, and no point is nearer -/
  nearest : ∀ cloud pt, cloud ≠ [] →
    IsLeast {d | ∃ q ∈ cloud, d = sqDist pt q} (pcl.nearestSqDist cloud pt)
  /-- clusters are sets of indices of the cloud ... -/
  cluster_indices : ∀ cloud eps min_points, ∀ c ∈ pcl.extractClusters cloud eps min_points,
    c.Nodup ∧ ∀ i ∈ c, i < cloud.length
  /-- ... disjoint ... -/
  cluster_disjoint : ∀ cloud eps min_points,
    (pcl.extractClusters cloud eps min_points).Pairwise List.Disjoint
  /-- ... and have the least size -/
  cluster_size : ∀ cloud eps min_points, ∀ c ∈ pcl.extractClusters cloud eps min_points,
    min_points.toInt ≤ c.length
  extract : ∀ cloud indices, (∀ i ∈ indices, i < cloud.length) →
    pcl.extractIndices cloud indices = select cloud indices
  minMax : ∀ cloud, cloud ≠ [] →
    (IsLeast {x | ∃ p ∈ cloud, x = p.x} (pcl.getMinMax3D cloud).1.x ∧
      IsGreatest {x | ∃ p ∈ cloud, x = p.x} (pcl.getMinMax3D cloud).2.x) ∧
    (IsLeast {y | ∃ p ∈ cloud, y = p.y} (pcl.getMinMax3D cloud).1.y ∧
      IsGreatest {y | ∃ p ∈ cloud, y = p.y} (pcl.getMinMax3D cloud).2.y) ∧
    (IsLeast {z | ∃ p ∈ cloud, z = p.z} (pcl.getMinMax3D cloud).1.z ∧
      IsGreatest {z | ∃ p ∈ cloud, z = p.z} (pcl.getMinMax3D cloud).2.z)

variable {pcl : Pcl ℝ} {self : State ℝ} {call : MonitorCall ℝ}

/-- Comparing squares decides whether a point is far from the background. -/
theorem nearestSqDist_gt_iff (hpcl : Documented pcl) (hbg : self.bg_kdtree_ ≠ [])
    (hd : 0 ≤ self.dist_thresh_) (pt : PointXYZ ℝ) :
    pcl.nearestSqDist self.bg_kdtree_ pt > self.dist_thresh_ * self.dist_thresh_ ↔
      FarFrom self.dist_thresh_ self.bg_kdtree_ pt := by
  obtain ⟨⟨near, hmem, hnear⟩, hleast⟩ := hpcl.nearest self.bg_kdtree_ pt hbg
  have hsq : ∀ q, self.dist_thresh_ < Real.sqrt (sqDist pt q) ↔
      self.dist_thresh_ * self.dist_thresh_ < sqDist pt q := by
    intro q
    rw [Real.lt_sqrt hd, pow_two]
  constructor
  · intro h q hq
    exact (hsq q).mpr (lt_of_lt_of_le h (hleast ⟨q, hq, rfl⟩))
  · intro h
    rw [hnear]
    exact (hsq near).mp (h near hmem)

open Classical in
/-- The downsampled points of a cloud far from the background. -/
noncomputable def farPoints (pcl : Pcl ℝ) (self : State ℝ) (raw : Cloud ℝ) : Cloud ℝ :=
  (pcl.voxelFilter raw).filter fun pt => FarFrom self.dist_thresh_ self.bg_kdtree_ pt

/-- A foreground that is not empty is that of a raw cloud. -/
theorem extractForeground_eq (hpcl : Documented pcl) (hbg : self.bg_kdtree_ ≠ [])
    (hd : 0 ≤ self.dist_thresh_) {raw_cloud : Option (Cloud ℝ)}
    (h : extractForeground pcl self raw_cloud ≠ []) :
    ∃ raw, raw_cloud = some raw ∧ extractForeground pcl self raw_cloud = farPoints pcl self raw := by
  cases raw_cloud with
  | none => exact absurd rfl h
  | some raw =>
    refine ⟨raw, rfl, ?_⟩
    by_cases hready : (!self.bg_ready_ || raw.isEmpty) = true
    · rw [extractForeground, if_pos hready] at h
      exact absurd rfl h
    · rw [extractForeground, if_neg hready, farPoints]
      refine List.filter_congr fun pt _ => ?_
      rw [decide_eq_decide]
      exact nearestSqDist_gt_iff hpcl hbg hd pt

/-- Indices of the cloud select as many points. -/
theorem length_select {cloud : Cloud ℝ} {indices : List ℕ} (h : ∀ i ∈ indices, i < cloud.length) :
    (select cloud indices).length = indices.length := by
  rw [select, List.filterMap_length_eq_length]
  intro i hi
  rw [List.getElem?_eq_getElem (h i hi)]
  rfl

/-- `out` is the first of the largest clusters of the far points, and has the least size. -/
def IsShip (pcl : Pcl ℝ) (self : State ℝ) (call : MonitorCall ℝ) (raw out : Cloud ℝ) : Prop :=
  ∃ c, IsFirstLongest
      (pcl.extractClusters (farPoints pcl self raw) call.cluster_eps call.cluster_min_pts) c ∧
    out = select (farPoints pcl self raw) c ∧ out.length = c.length ∧
    call.cluster_min_pts.toInt ≤ out.length

/-- The cluster stage returns nothing, or the first of the largest clusters. -/
theorem removeSmallClusters_cases (hpcl : Documented pcl) (cloud : Cloud ℝ) (eps : ℝ)
    (min_points : Int32) :
    removeSmallClusters pcl cloud eps min_points = [] ∨
    ∃ c, IsFirstLongest (pcl.extractClusters cloud eps min_points) c ∧
      removeSmallClusters pcl cloud eps min_points = select cloud c ∧
      (select cloud c).length = c.length ∧ min_points.toInt ≤ (select cloud c).length := by
  unfold removeSmallClusters
  split
  · exact .inl rfl
  · dsimp only
    split
    · exact .inl rfl
    · rename_i hclusters
      have hfirst := maxClusterLoop_isFirstLongest fun h => hclusters (List.isEmpty_iff.mpr h)
      refine .inr ⟨_, hfirst, ?_⟩
      generalize List.getD _ (maxClusterLoop 0 0 0 _) [] = c at hfirst ⊢
      obtain ⟨before, after, heq, -, -⟩ := hfirst
      have hmem : c ∈ pcl.extractClusters cloud eps min_points := by
        rw [heq]
        exact List.mem_append_right before List.mem_cons_self
      have hrange := (hpcl.cluster_indices cloud eps min_points c hmem).2
      have hlen := length_select hrange
      refine ⟨hpcl.extract cloud c hrange, hlen, ?_⟩
      rw [hlen]
      exact hpcl.cluster_size cloud eps min_points c hmem

/-- The box of a ship contains its points. -/
theorem inBox_calculateShipPose (hpcl : Documented pcl) {ship : Cloud ℝ} {p : PointXYZ ℝ}
    (hp : p ∈ ship) : InBox (calculateShipPose pcl ship) p := by
  have hne : ship ≠ [] := List.ne_nil_of_mem hp
  obtain ⟨⟨hx, hx'⟩, ⟨hy, hy'⟩, ⟨hz, hz'⟩⟩ := hpcl.minMax ship hne
  rw [calculateShipPose, if_neg (mt List.isEmpty_iff.mp hne)]
  exact ⟨⟨hx.2 ⟨p, hp, rfl⟩, hx'.2 ⟨p, hp, rfl⟩⟩, ⟨hy.2 ⟨p, hp, rfl⟩, hy'.2 ⟨p, hp, rfl⟩⟩,
    ⟨hz.2 ⟨p, hp, rfl⟩, hz'.2 ⟨p, hp, rfl⟩⟩⟩

/-- A status other than a departure was given to a ship with enough points. -/
theorem judgeShipStatus_ne_leave {cur_pose : ShipMove ℝ} {ship_pts : ℤ}
    (h : (judgeShipStatus pcl self cur_pose ship_pts).2 ≠ .shipLeave) :
    cur_pose.has_ship = true ∧ self.min_valid_ship_pts_.toInt ≤ ship_pts := by
  by_cases hleave : (!cur_pose.has_ship || ship_pts < self.min_valid_ship_pts_.toInt) = true
  · rw [judgeShipStatus, if_pos hleave] at h
    exact absurd rfl h
  · simpa using hleave

/-- **What `monitorShip` hands on as the ship.** The cloud returned is empty, or the first
largest cluster of the downsampled points farther than the threshold from every background
point; the count is its size; and with any status but a departure there is a ship of enough
points, all of them inside the box. -/
theorem monitorShip_ship (hpcl : Documented pcl) (hbg : self.bg_kdtree_ ≠ [])
    (hd : 0 ≤ self.dist_thresh_) (call : MonitorCall ℝ) :
    let out_ship_cloud := (monitorShip pcl self call).2.1
    let res := (monitorShip pcl self call).2.2
    (out_ship_cloud = [] ∨
      ∃ raw, call.raw_cloud = some raw ∧ IsShip pcl self call raw out_ship_cloud) ∧
    res.ship_point_count = out_ship_cloud.length ∧
    (res.status ≠ .shipLeave →
      res.pose.has_ship = true ∧ self.min_valid_ship_pts_.toInt ≤ res.ship_point_count ∧
      ∀ p ∈ out_ship_cloud, InBox res.pose p) := by
  intro out_ship_cloud res
  by_cases hfg : (extractForeground pcl self call.raw_cloud).isEmpty = true
  · have heq : (monitorShip pcl self call).2 = (out_ship_cloud, res) := rfl
    rw [monitorShip_of_isEmpty hfg, Prod.mk.injEq] at heq
    rw [← heq.1, ← heq.2]
    exact ⟨.inl rfl, rfl, fun h => absurd rfl h⟩
  · have heq : (monitorShip pcl self call).2 = (out_ship_cloud, res) := rfl
    rw [monitorShip_of_not_isEmpty hfg, Prod.mk.injEq] at heq
    obtain ⟨raw, hraw, hfar⟩ := extractForeground_eq hpcl hbg hd (mt List.isEmpty_iff.mpr hfg)
    rw [hfar] at heq
    rw [← heq.1, ← heq.2]
    refine ⟨?_, rfl, fun h => ?_⟩
    · refine (removeSmallClusters_cases hpcl _ _ _).imp id fun hship => ⟨raw, hraw, ?_⟩
      obtain ⟨c, hfirst, hsel, hlen, hmin⟩ := hship
      rw [hsel]
      exact ⟨c, hfirst, rfl, hlen, hmin⟩
    · obtain ⟨hship, hcount⟩ := judgeShipStatus_ne_leave h
      exact ⟨hship, hcount, fun p hp => inBox_calculateShipPose hpcl hp⟩

/-- The least value of a coordinate, and the greatest. -/
noncomputable def leastOf (f : PointXYZ ℝ → ℝ) : Cloud ℝ → ℝ
  | [] => 0
  | p :: rest => runMin (f p) (rest.map f)

noncomputable def greatestOf (f : PointXYZ ℝ → ℝ) : Cloud ℝ → ℝ
  | [] => 0
  | p :: rest => runMax (f p) (rest.map f)

/-- The values on a cloud, as those of its head and of its tail. -/
theorem values_cons (f : PointXYZ ℝ → ℝ) (p : PointXYZ ℝ) (rest : Cloud ℝ) :
    {x | ∃ q ∈ p :: rest, x = f q} = {x | x = f p ∨ x ∈ rest.map f} := by
  ext x
  show (∃ q ∈ p :: rest, x = f q) ↔ x = f p ∨ x ∈ rest.map f
  have hmap : x ∈ rest.map f ↔ ∃ q ∈ rest, x = f q := by
    rw [List.mem_map]
    exact exists_congr fun q => and_congr_right fun _ => eq_comm
  rw [hmap]
  simp only [List.mem_cons, exists_eq_or_imp]

theorem isLeast_leastOf (f : PointXYZ ℝ → ℝ) {cloud : Cloud ℝ} (h : cloud ≠ []) :
    IsLeast {x | ∃ p ∈ cloud, x = f p} (leastOf f cloud) := by
  obtain ⟨p, rest, rfl⟩ := List.exists_cons_of_ne_nil h
  rw [values_cons]
  exact isLeast_runMin (f p) (rest.map f)

theorem isGreatest_greatestOf (f : PointXYZ ℝ → ℝ) {cloud : Cloud ℝ} (h : cloud ≠ []) :
    IsGreatest {x | ∃ p ∈ cloud, x = f p} (greatestOf f cloud) := by
  obtain ⟨p, rest, rfl⟩ := List.exists_cons_of_ne_nil h
  rw [values_cons]
  exact isGreatest_runMax (f p) (rest.map f)

/-- A point `x` metres along the quay. -/
def alongQuay (x : ℕ) : PointXYZ ℝ := ⟨x, 0, 0⟩

/-- The points on one side of a gap ten metres along the quay. -/
noncomputable def oneSide (beyond : Bool) (cloud : Cloud ℝ) : List ℕ :=
  (List.range cloud.length).filter fun i =>
    decide ((alongQuay 10).x ≤ (cloud.getD i (alongQuay 0)).x) == beyond

/-- The library calls on clouds of two clusters, with a gap between them. -/
noncomputable def gapPcl : Pcl ℝ where
  voxelFilter cloud := cloud
  nearestSqDist cloud pt := leastOf (sqDist pt) cloud
  extractClusters cloud _ min_points :=
    [oneSide true cloud, oneSide false cloud].filter fun c =>
      decide (c ≠ [] ∧ min_points.toInt ≤ c.length)
  extractIndices := select
  getMinMax3D cloud :=
    (⟨leastOf (·.x) cloud, leastOf (·.y) cloud, leastOf (·.z) cloud⟩,
      ⟨greatestOf (·.x) cloud, greatestOf (·.y) cloud, greatestOf (·.z) cloud⟩)
  sqrt := Real.sqrt

theorem oneSide_disjoint (cloud : Cloud ℝ) :
    List.Disjoint (oneSide true cloud) (oneSide false cloud) := by
  intro i hbeyond hbefore
  have htrue := (List.mem_filter.mp hbeyond).2
  have hfalse := (List.mem_filter.mp hbefore).2
  rw [beq_iff_eq] at htrue hfalse
  rw [htrue] at hfalse
  cases hfalse

theorem documented_gapPcl : Documented gapPcl where
  nearest cloud pt h := isLeast_leastOf (sqDist pt) h
  cluster_indices cloud eps min_points c hc := by
    have hside : c = oneSide true cloud ∨ c = oneSide false cloud := by
      simpa using (List.mem_filter.mp hc).1
    rcases hside with rfl | rfl
    all_goals exact ⟨List.nodup_range.filter _, fun i hi =>
      List.mem_range.mp (List.mem_filter.mp hi).1⟩
  cluster_disjoint cloud eps min_points := by
    have hpair : [oneSide true cloud, oneSide false cloud].Pairwise List.Disjoint :=
      List.pairwise_pair.mpr (oneSide_disjoint cloud)
    simp only [gapPcl]
    exact hpair.filter _
  cluster_size cloud eps min_points c hc := (of_decide_eq_true (List.mem_filter.mp hc).2).2
  extract cloud indices _ := rfl
  minMax cloud h := ⟨⟨isLeast_leastOf _ h, isGreatest_greatestOf _ h⟩,
    ⟨isLeast_leastOf _ h, isGreatest_greatestOf _ h⟩,
    ⟨isLeast_leastOf _ h, isGreatest_greatestOf _ h⟩⟩

/-- A quay with one background point. -/
noncomputable def quay : State ℝ where
  dist_thresh_ := 1
  bg_kdtree_ := [⟨0, 0, 0⟩]
  bg_ready_ := true
  center_history_ := []
  stable_frame_cnt_ := 2
  stable_dist_thresh_ := 1
  min_valid_ship_pts_ := 1

/-- A frame with a point of the quay, one in front of the gap and two behind it. -/
def quayFrame : MonitorCall ℝ :=
  ⟨some [alongQuay 0, alongQuay 2, alongQuay 20, alongQuay 21], 1, 1⟩

theorem extractForeground_quay :
    extractForeground gapPcl quay quayFrame.raw_cloud
      = [alongQuay 2, alongQuay 20, alongQuay 21] := by
  norm_num [extractForeground, quayFrame, quay, gapPcl, alongQuay, leastOf, runMin, sqDist]

theorem oneSide_quay :
    oneSide true [alongQuay 2, alongQuay 20, alongQuay 21] = [1, 2] ∧
      oneSide false [alongQuay 2, alongQuay 20, alongQuay 21] = [0] := by
  constructor <;> norm_num [oneSide, alongQuay, List.range_succ]

/-- The two points behind the gap are the ship. -/
theorem monitorShip_quay :
    (monitorShip gapPcl quay quayFrame).2.1 = [alongQuay 20, alongQuay 21] := by
  have hne : ¬ (extractForeground gapPcl quay quayFrame.raw_cloud).isEmpty = true := by
    rw [extractForeground_quay]
    exact Bool.false_ne_true
  have hclusters : gapPcl.extractClusters [alongQuay 2, alongQuay 20, alongQuay 21] 1 1
      = [[1, 2], [0]] := by
    simp only [gapPcl, oneSide_quay]
    decide
  rw [monitorShip_of_not_isEmpty hne, extractForeground_quay, quayFrame]
  dsimp only
  rw [removeSmallClusters, if_neg (by decide), hclusters]
  rfl

theorem monitorShip_ship_quay :
    (monitorShip gapPcl quay quayFrame).2.1 = [alongQuay 20, alongQuay 21] ∧
    ((monitorShip gapPcl quay quayFrame).2.1 = [] ∨
      ∃ raw, quayFrame.raw_cloud = some raw ∧
        IsShip gapPcl quay quayFrame raw (monitorShip gapPcl quay quayFrame).2.1) ∧
    (monitorShip gapPcl quay quayFrame).2.2.ship_point_count
      = (monitorShip gapPcl quay quayFrame).2.1.length ∧
    ((monitorShip gapPcl quay quayFrame).2.2.status ≠ .shipLeave →
      (monitorShip gapPcl quay quayFrame).2.2.pose.has_ship = true ∧
      quay.min_valid_ship_pts_.toInt
        ≤ (monitorShip gapPcl quay quayFrame).2.2.ship_point_count ∧
      ∀ p ∈ (monitorShip gapPcl quay quayFrame).2.1,
        InBox (monitorShip gapPcl quay quayFrame).2.2.pose p) :=
  ⟨monitorShip_quay,
    monitorShip_ship documented_gapPcl (List.cons_ne_nil _ _) zero_le_one quayFrame⟩

end LidarBgDiff
end ShipMotion
