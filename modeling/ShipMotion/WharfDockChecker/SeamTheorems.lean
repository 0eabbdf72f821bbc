import ShipMotion.Utils.Arcs
import ShipMotion.Utils.Samples
import ShipMotion.WharfDockCheckerTheorems

/-!
# The seam of the angles

The yaws of the window are wrapped one by one, and then averaged and compared as numbers. For
headings on a short arc the decision is that of the arc, as it should be for every position of
the seam at 180 degrees, unless the seam cuts the arc: then the window is never stable. The file
has the exact condition for a rotation of ship and wharf to leave the decision as it is.
-/

namespace ShipMotion
namespace WharfDockChecker

open Utils.Arcs Utils.Samples Utils.SentinelExtrema

/-! ## Wrapped angles -/

theorem turn_pos : (0 : ℝ) < 360 := by norm_num

/-- `wrapAngle` takes away whole turns. -/
theorem wrapAngle_turns (deg : ℝ) : ∃ k : ℤ, deg = wrapAngle deg + k * 360 := by
  unfold wrapAngle fmod
  dsimp only
  generalize (if 0 ≤ (deg + 180.0) / 360.0 then ⌊(deg + 180.0) / 360.0⌋
    else ⌈(deg + 180.0) / 360.0⌉ : ℤ) = q
  split
  · refine ⟨q - 1, ?_⟩
    rw [Int.cast_sub, Int.cast_one]
    norm_num
    ring
  · refine ⟨q, ?_⟩
    norm_num
    ring

theorem wrapAngle_eq (deg : ℝ) : wrapAngle deg = toIcoMod turn_pos (-180) deg := by
  obtain ⟨hlo, hhi⟩ := wrapAngle_mem deg
  obtain ⟨k, hk⟩ := wrapAngle_turns deg
  refine ((toIcoMod_eq_iff turn_pos).mpr ⟨⟨hlo, ?_⟩, k, ?_⟩).symm
  · linarith
  · rw [zsmul_eq_mul]
    exact hk

theorem wrapAngle_add_turns (deg : ℝ) (k : ℤ) : wrapAngle (deg + k * 360) = wrapAngle deg := by
  rw [wrapAngle_eq, wrapAngle_eq, ← zsmul_eq_mul, toIcoMod_add_zsmul]

/-- A wrapped mean may as well not have been wrapped. -/
theorem wrapAngle_wrapAngle_sub (x y : ℝ) : wrapAngle (wrapAngle x - y) = wrapAngle (x - y) := by
  obtain ⟨k, hk⟩ := wrapAngle_turns x
  have hsub : x - y = wrapAngle x - y + k * 360 := by linarith
  rw [hsub, wrapAngle_add_turns]

/-! ## The decision on a rotated window -/

/-- A pose turned by `d`. -/
def rotatePose (d : ℝ) (pose : ShipPose ℝ) : ShipPose ℝ := { pose with rz := pose.rz + d }

/-- Ship and wharf turned by `d`; positions and wharf line as they are. -/
noncomputable def rotate (d : ℝ) (checker : State ℝ) : State ℝ :=
  { checker with pose_buf_ := checker.pose_buf_.map (rotatePose d)
                 wharf_yaw_ := checker.wharf_yaw_ + d }

theorem rotate_zero (checker : State ℝ) : rotate 0 checker = checker := by
  have hpose : rotatePose 0 = id := by
    funext pose
    rw [rotatePose, add_zero]
    rfl
  rw [rotate, hpose, List.map_id, add_zero]

/-- What is asked of the positions: near the wharf, and still. -/
def AtBerth (checker : State ℝ) : Prop :=
  (1 ≤ (dists checker).sum / 50 ∧ (dists checker).sum / 50 ≤ 8) ∧ SpreadBelow 0.5 (dists checker)

theorem dists_rotate (d : ℝ) (checker : State ℝ) : dists (rotate d checker) = dists checker := by
  rw [dists, dists, rotate, List.map_map]
  rfl

theorem spreadBelow_iff {bound : ℝ} {values : List ℝ} (hne : values ≠ []) :
    SpreadBelow bound values ↔ ∀ x ∈ values, ∀ y ∈ values, x - y < bound := by
  constructor
  · rintro ⟨lo, hi, hlo, hhi, hspread⟩ x hx y hy
    have h1 := hhi.2 hx
    have h2 := hlo.2 hy
    linarith
  · intro hall
    obtain ⟨v, rest, rfl⟩ := List.exists_cons_of_ne_nil hne
    have hmem : {x | x ∈ v :: rest} = {x | x = v ∨ x ∈ rest} := by
      ext x
      exact List.mem_cons
    have hlo := isLeast_runMin v rest
    have hhi := isGreatest_runMax v rest
    rw [← hmem] at hlo hhi
    exact ⟨_, _, hlo, hhi, hall _ hhi.1 _ hlo.1⟩

/-- The test on a rotated window, on the angles of the window itself. -/
theorem stableWindow_rotate {checker : State ℝ} (hlen : checker.pose_buf_.length = 50) (d : ℝ) :
    StableWindow (rotate d checker) ↔
      AtBerth checker ∧
      Within 2 checker.pose_buf_ (fun p => wrapAngle (p.rz + d)) ∧
      |wrapAngle (mean checker.pose_buf_ (fun p => wrapAngle (p.rz + d))
        - (checker.wharf_yaw_ + d))| < 3 := by
  have hyaws : yaws (rotate d checker)
      = checker.pose_buf_.map fun p => wrapAngle (p.rz + d) := by
    rw [yaws, rotate, List.map_map]
    rfl
  have hne : yaws (rotate d checker) ≠ [] := by
    intro hnil
    rw [hyaws, List.map_eq_nil_iff] at hnil
    rw [hnil, List.length_nil] at hlen
    omega
  have hmean : (yaws (rotate d checker)).sum / 50
      = mean checker.pose_buf_ (fun p => wrapAngle (p.rz + d)) := by
    rw [hyaws, mean, hlen]
    norm_num
  have hsteady : SpreadBelow 2 (yaws (rotate d checker)) ↔
      Within 2 checker.pose_buf_ (fun p => wrapAngle (p.rz + d)) := by
    rw [spreadBelow_iff hne, hyaws]
    simp only [List.forall_mem_map]
    rfl
  constructor
  · rintro ⟨hparallel, hnear, hyaw, hdist⟩
    rw [hmean, wrapAngle_wrapAngle_sub] at hparallel
    rw [dists_rotate] at hnear hdist
    exact ⟨⟨hnear, hdist⟩, hsteady.mp hyaw, hparallel⟩
  · rintro ⟨⟨hnear, hdist⟩, hyaw, hparallel⟩
    refine ⟨?_, ?_, hsteady.mpr hyaw, ?_⟩
    · rw [hmean, wrapAngle_wrapAngle_sub]
      exact hparallel
    · rw [dists_rotate]
      exact hnear
    · rw [dists_rotate]
      exact hdist

/-! ## The exact condition -/

/-- The headings of the window, up to whole turns, lie on an arc of less than two degrees whose
mean is parallel to the wharf up to three. -/
structure OnArc (checker : State ℝ) (heading : ShipPose ℝ → ℝ) : Prop where
  unwinds : Unwinds 360 checker.pose_buf_ (·.rz) heading
  short : Within 2 checker.pose_buf_ heading
  parallel : |wrapAngle (mean checker.pose_buf_ heading - checker.wharf_yaw_)| < 3

/-- The seam cuts the arc of headings turned by `d`: one is below 180 degrees and whole turns,
and one is not. -/
def SeamCuts (checker : State ℝ) (heading : ShipPose ℝ → ℝ) (d : ℝ) : Prop :=
  Cut 360.0 (-180.0) checker.pose_buf_ fun p => heading p + d

variable {checker : State ℝ} {heading : ShipPose ℝ → ℝ}

theorem seamCuts_iff (d : ℝ) :
    SeamCuts checker heading d ↔ Cut 360 (-180) checker.pose_buf_ fun p => heading p + d := by
  have hturn : (360.0 : ℝ) = 360 := by norm_num
  have hseam : (180.0 : ℝ) = 180 := by norm_num
  rw [SeamCuts, hturn, hseam]

/-- On an arc whose unwound mean is known, the decision is that of the arc, unless it is cut. -/
theorem stableWindow_rotate_iff (hlen : checker.pose_buf_.length = 50)
    (hunwinds : Unwinds 360 checker.pose_buf_ (·.rz) heading)
    (hshort : Within 2 checker.pose_buf_ heading) (d : ℝ) :
    StableWindow (rotate d checker) ↔
      AtBerth checker ∧ ¬ SeamCuts checker heading d ∧
      |wrapAngle (mean checker.pose_buf_ heading - checker.wharf_yaw_)| < 3 := by
  have hne : checker.pose_buf_ ≠ [] := List.ne_nil_of_length_pos (by omega)
  -- the turned headings unwind the turned yaws, and are as close to each other
  have hunwinds' : Unwinds 360 checker.pose_buf_ (fun p => p.rz + d) (fun p => heading p + d) := by
    intro p hp
    obtain ⟨k, hk⟩ := hunwinds p hp
    refine ⟨k, ?_⟩
    dsimp only at hk ⊢
    rw [hk]
    ring
  have hshort' : Within 2 checker.pose_buf_ (fun p => heading p + d) := by
    intro p hp q hq
    have h := hshort p hp q hq
    dsimp only
    linarith
  have hwrap : (fun p : ShipPose ℝ => wrapAngle (p.rz + d))
      = fun p => toIcoMod turn_pos (-180) (p.rz + d) := by
    funext p
    exact wrapAngle_eq _
  rw [stableWindow_rotate hlen]
  have hcut : Within 2 checker.pose_buf_ (fun p => wrapAngle (p.rz + d)) ↔
      ¬ SeamCuts checker heading d := by
    rw [hwrap, seamCuts_iff]
    exact within_wrap_iff_of_unwinds turn_pos (by norm_num) hunwinds' hshort'
  refine and_congr_right fun _ => ?_
  rw [← hcut]
  refine and_congr_right fun hwithin => ?_
  -- uncut, the wrapped yaws are the turned headings up to a common number of turns
  have hboth : Unwinds 360 checker.pose_buf_ (fun p => heading p + d)
      (fun p => wrapAngle (p.rz + d)) := by
    rw [hwrap]
    exact hunwinds'.symm.trans (unwinds_wrap turn_pos (-180) _ _)
  obtain ⟨k, hk⟩ := unwinds_unique turn_pos (by norm_num) hboth hshort' hwithin
  have hmean : mean checker.pose_buf_ (fun p => wrapAngle (p.rz + d))
      = mean checker.pose_buf_ heading + d + k * 360 := by
    rw [mean_congr hk, mean_add, mean_add, mean_const hne, mean_const hne]
  have herr : mean checker.pose_buf_ heading + d + k * 360 - (checker.wharf_yaw_ + d)
      = mean checker.pose_buf_ heading - checker.wharf_yaw_ + k * 360 := by
    ring
  rw [hmean, herr, wrapAngle_add_turns]

/-- A stable window is on an arc. -/
theorem exists_onArc (hlen : checker.pose_buf_.length = 50) {d : ℝ}
    (h : StableWindow (rotate d checker)) : AtBerth checker ∧ ∃ heading, OnArc checker heading := by
  have hwithin := ((stableWindow_rotate hlen d).mp h).2.1
  have hunwinds : Unwinds 360 checker.pose_buf_ (·.rz) (fun p => wrapAngle (p.rz + d) - d) := by
    intro p _
    obtain ⟨k, hk⟩ := wrapAngle_turns (p.rz + d)
    refine ⟨-k, ?_⟩
    rw [Int.cast_neg]
    linarith
  have hshort : Within 2 checker.pose_buf_ (fun p => wrapAngle (p.rz + d) - d) := by
    intro p hp q hq
    have hpq := hwithin p hp q hq
    dsimp only at hpq ⊢
    linarith
  obtain ⟨hberth, -, hparallel⟩ := (stableWindow_rotate_iff hlen hunwinds hshort d).mp h
  exact ⟨hberth, _, hunwinds, hshort, hparallel⟩

/-- At the berth and on an arc, only the seam decides. -/
theorem stableWindow_iff_of_onArc (hlen : checker.pose_buf_.length = 50) (hberth : AtBerth checker)
    (hon : OnArc checker heading) (d : ℝ) :
    StableWindow (rotate d checker) ↔ ¬ SeamCuts checker heading d := by
  rw [stableWindow_rotate_iff hlen hon.unwinds hon.short d]
  exact ⟨fun h => h.2.1, fun h => ⟨hberth, h, hon.parallel⟩⟩

/-- A window stable after one turn is stable after another that brings no seam into its arc. -/
theorem stableWindow_of_uncut (hlen : checker.pose_buf_.length = 50) {d e : ℝ}
    (hcuts : ∀ heading, AtBerth checker → OnArc checker heading →
      SeamCuts checker heading e → SeamCuts checker heading d)
    (h : StableWindow (rotate d checker)) : StableWindow (rotate e checker) := by
  obtain ⟨hberth, heading, hon⟩ := exists_onArc hlen h
  rw [stableWindow_iff_of_onArc hlen hberth hon] at h ⊢
  exact mt (hcuts heading hberth hon) h

/-- The answer of `getStableDockBaseFrame` on a full window. -/
theorem found_iff (hlen : checker.pose_buf_.length = 50) (base_frame : ShipPose ℝ) :
    (getStableDockBaseFrame checker base_frame).2.1 = true ↔
      checker.has_found_base_frame_ = true ∨ StableWindow checker := by
  cases hfound : checker.has_found_base_frame_ with
  | true =>
    rw [getStableDockBaseFrame_of_found hfound]
    exact iff_of_true rfl (.inl rfl)
  | false =>
    rcases getStableDockBaseFrame_cases hfound base_frame with
      ⟨frame, -, -, hstable, heq⟩ | ⟨hnot, heq⟩ <;> rw [heq]
    · exact iff_of_true rfl (.inr hstable)
    · refine iff_of_false Bool.false_ne_true fun h => ?_
      rcases h with h | h
      · cases h
      · exact hnot ⟨hlen.ge, h⟩

/-- **When the seam does not matter.** For every full window, wharf line and wharf yaw, and every
angle `d`: turning the headings and the wharf yaw by `d` leaves the answer of
`getStableDockBaseFrame` the same if and only if there is a base frame already, or, should the
headings be those of a ship at the berth on an arc parallel to the wharf, the seam cuts the arc
both before and after the turn, or neither before nor after it. -/
theorem seam_iff (hlen : checker.pose_buf_.length = 50) (d : ℝ) (base_frame : ShipPose ℝ) :
    (getStableDockBaseFrame (rotate d checker) base_frame).2.1
        = (getStableDockBaseFrame checker base_frame).2.1 ↔
      checker.has_found_base_frame_ = true ∨
      ∀ heading, AtBerth checker → OnArc checker heading →
        (SeamCuts checker heading d ↔ SeamCuts checker heading 0) := by
  have hlen' : (rotate d checker).pose_buf_.length = 50 := by
    rw [rotate, List.length_map, hlen]
  rw [Bool.eq_iff_iff, found_iff hlen' base_frame, found_iff hlen base_frame]
  show (checker.has_found_base_frame_ = true ∨ _ ↔ _) ↔ _
  by_cases hfound : checker.has_found_base_frame_ = true
  · exact iff_of_true (iff_of_true (.inl hfound) (.inl hfound)) (.inl hfound)
  rw [or_iff_right hfound, or_iff_right hfound, or_iff_right hfound]
  have hzero : StableWindow checker ↔ StableWindow (rotate 0 checker) := by rw [rotate_zero]
  rw [hzero]
  constructor
  · intro hsame heading hberth hon
    rw [← not_iff_not, ← stableWindow_iff_of_onArc hlen hberth hon d,
      ← stableWindow_iff_of_onArc hlen hberth hon 0]
    exact hsame
  · intro hcuts
    constructor
    · exact stableWindow_of_uncut hlen fun heading hberth hon => (hcuts heading hberth hon).mpr
    · exact stableWindow_of_uncut hlen fun heading hberth hon => (hcuts heading hberth hon).mp

theorem seam_iff_moored :
    (getStableDockBaseFrame (rotate 90 moored) moored.base_frame_).2.1
        = (getStableDockBaseFrame moored moored.base_frame_).2.1 ↔
      moored.has_found_base_frame_ = true ∨
      ∀ heading, AtBerth moored → OnArc moored heading →
        (SeamCuts moored heading 90 ↔ SeamCuts moored heading 0) :=
  seam_iff List.length_replicate 90 moored.base_frame_

/-- The ship at the berth with a yaw of half a degree to either side. -/
noncomputable def swaying : State ℝ :=
  { moored with
    pose_buf_ := List.replicate 25 ⟨0, 1, 0, 0, 0, 1 / 2.0, 0⟩
      ++ List.replicate 25 ⟨0, 1, 0, 0, 0, -1 / 2.0, 0⟩ }

theorem swaying_rz {p : ShipPose ℝ} (hp : p ∈ swaying.pose_buf_) :
    p.rz = 1 / 2 ∨ p.rz = -1 / 2 := by
  rcases List.mem_append.mp hp with hp | hp
  · rw [List.eq_of_mem_replicate hp]
    norm_num
  · rw [List.eq_of_mem_replicate hp]
    norm_num

theorem swaying_onArc : OnArc swaying (·.rz) := by
  refine ⟨Unwinds.refl _ _ _, fun p hp q hq => ?_, ?_⟩
  · rcases swaying_rz hp with h | h <;> rcases swaying_rz hq with h' | h' <;>
      simp only [h, h'] <;> norm_num
  · have hmean : mean swaying.pose_buf_ (·.rz) = 0 := by
      simp only [mean, swaying, List.map_append, List.map_replicate, List.sum_append,
        List.sum_replicate]
      norm_num
    have hyaw : swaying.wharf_yaw_ = 0 := rfl
    rw [hmean, hyaw, sub_zero, wrapAngle_zero, abs_zero]
    norm_num

theorem swaying_atBerth : AtBerth swaying := by
  have hdists : dists swaying = List.replicate 50 1 := by
    simp only [dists, swaying, moored, List.map_append, List.map_replicate, distanceToWharf]
    norm_num
  rw [AtBerth, hdists]
  refine ⟨?_, .replicate (by decide) (by norm_num)⟩
  rw [List.sum_replicate]
  norm_num

/-- Found as it lies, and not found when it lies the other way round. -/
theorem seam_rejects_swaying :
    swaying.pose_buf_.length = 50 ∧
    (getStableDockBaseFrame swaying swaying.base_frame_).2.1 = true ∧
    (getStableDockBaseFrame (rotate 180 swaying) swaying.base_frame_).2.1 = false := by
  have hlen : swaying.pose_buf_.length = 50 := by
    rw [swaying, List.length_append, List.length_replicate, List.length_replicate]
  have hlen' : (rotate 180 swaying).pose_buf_.length = 50 := by
    rw [rotate, List.length_map, hlen]
  have hiff := stableWindow_rotate_iff hlen swaying_onArc.unwinds swaying_onArc.short
  refine ⟨hlen, ?_, ?_⟩
  · rw [found_iff hlen]
    refine .inr ?_
    rw [← rotate_zero swaying, hiff 0, seamCuts_iff]
    refine ⟨swaying_atBerth, ?_, swaying_onArc.parallel⟩
    -- no seam is within half a degree of zero
    rintro ⟨k, p, hp, q, hq, hlt, hle⟩
    have hk : (0 : ℝ) < k ∧ (k : ℝ) < 1 := by
      rcases swaying_rz hp with h | h <;> rcases swaying_rz hq with h' | h' <;>
        simp only [h, h'] at hlt hle <;> constructor <;> linarith
    have hpos : 0 < k := by exact_mod_cast hk.1
    have hone : k < 1 := by exact_mod_cast hk.2
    omega
  · rw [Bool.eq_false_iff, Ne, found_iff hlen']
    intro h
    rcases h with h | h
    · cases h
    · refine ((hiff 180).mp h).2.1 ((seamCuts_iff 180).mpr ⟨1, ?_⟩)
      refine ⟨⟨0, 1, 0, 0, 0, -1 / 2.0, 0⟩, ?_, ⟨0, 1, 0, 0, 0, 1 / 2.0, 0⟩, ?_, ?_, ?_⟩
      · simp [swaying]
      · simp [swaying]
      · norm_num
      · norm_num

end WharfDockChecker
end ShipMotion
