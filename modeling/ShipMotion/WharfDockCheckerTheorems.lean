import Mathlib.Algebra.Order.Floor.Ring
import Mathlib.Algebra.Order.BigOperators.Group.List
import Mathlib.Data.List.TakeWhile
import ShipMotion.Utils.Mealy
import ShipMotion.Utils.SentinelExtrema
import ShipMotion.Utils.SlidingWindow
import ShipMotion.WharfDockChecker

/-!
# The base frame at the wharf

The window is a sliding window of the poses, and the base frame a latch. The test for a stable
window bounds the mean distance, hence every distance, far below the sentinels of the extrema,
and it fails on the distance zero that every pose has to a line that was never fitted.
-/

namespace ShipMotion
namespace WharfDockChecker

open Utils Utils.SlidingWindow Utils.SentinelExtrema

/-- The real functions. -/
noncomputable def Cmath.real : Cmath ℝ := { Libm.real with sqrt := Real.sqrt }

/-! ## Angles -/

/-- The remainder is smaller than the divisor and has the sign of the dividend. -/
theorem fmod_mem {y : ℝ} (hy : 0 < y) (x : ℝ) :
    (0 ≤ x → 0 ≤ fmod x y ∧ fmod x y < y) ∧ (x < 0 → -y < fmod x y ∧ fmod x y ≤ 0) := by
  have hx : y * (x / y) = x := mul_div_cancel₀ x hy.ne'
  constructor
  · intro h
    have hq : 0 ≤ x / y := div_nonneg h hy.le
    have hlo := mul_le_mul_of_nonneg_left (Int.floor_le (x / y)) hy.le
    have hhi := mul_lt_mul_of_pos_left (Int.lt_floor_add_one (x / y)) hy
    simp only [fmod, if_pos hq]
    constructor <;> linarith
  · intro h
    have hq : ¬ 0 ≤ x / y := not_le.mpr (div_neg_of_neg_of_pos h hy)
    have hlo := mul_le_mul_of_nonneg_left (Int.le_ceil (x / y)) hy.le
    have hhi := mul_lt_mul_of_pos_left (Int.ceil_lt_add_one (x / y)) hy
    simp only [fmod, if_neg hq]
    constructor <;> linarith

theorem wrapAngle_mem (deg : ℝ) : -180 ≤ wrapAngle deg ∧ wrapAngle deg < 180 := by
  have hpos : (0 : ℝ) < 360.0 := by norm_num
  obtain ⟨hnonneg, hneg⟩ := fmod_mem hpos (deg + 180.0)
  unfold wrapAngle
  dsimp only
  rcases le_or_gt 0 (deg + 180.0) with h | h
  · obtain ⟨h0, h1⟩ := hnonneg h
    rw [if_neg (not_lt.mpr h0)]
    norm_num at *
    constructor <;> linarith
  · obtain ⟨h0, h1⟩ := hneg h
    split
    · norm_num at *
      constructor <;> linarith
    · norm_num at *
      constructor <;> linarith

theorem wrapAngle_zero : wrapAngle (0 : ℝ) = 0 := by
  have hfloor : ⌊(180 : ℝ) / 360⌋ = 0 := by norm_num
  unfold wrapAngle fmod
  norm_num [hfloor]

/-! ## The window's statistics -/

/-- The wrapped yaws of the window. -/
noncomputable def yaws (self : State ℝ) : List ℝ := self.pose_buf_.map fun p => wrapAngle p.rz

/-- The distances of the window's poses to the wharf. -/
noncomputable def dists (self : State ℝ) : List ℝ :=
  self.pose_buf_.map fun p => distanceToWharf self p.tx p.ty

/-- The loop sums up, and keeps running extrema. -/
theorem fluctuationLoop_eq (self : State ℝ) (f : Fluctuation ℝ) (poses : List (ShipPose ℝ)) :
    fluctuationLoop self f poses =
      let yaws := poses.map fun p => wrapAngle p.rz
      let dists := poses.map fun p => distanceToWharf self p.tx p.ty
      { yaw_sum := f.yaw_sum + yaws.sum
        dist_sum := f.dist_sum + dists.sum
        ymin := runMin f.ymin yaws
        ymax := runMax f.ymax yaws
        dmin := runMin f.dmin dists
        dmax := runMax f.dmax dists } := by
  induction poses generalizing f with
  | nil => simp [fluctuationLoop, runMin, runMax]
  | cons p poses ih =>
    rw [fluctuationLoop, ih]
    simp only [List.map_cons, List.sum_cons, runMin, runMax, add_assoc]

/-- `hi - lo` for the true extrema of the values is below `bound`. -/
def SpreadBelow (bound : ℝ) (values : List ℝ) : Prop :=
  ∃ lo hi, IsLeast {x | x ∈ values} lo ∧ IsGreatest {x | x ∈ values} hi ∧ hi - lo < bound

/-- What the test asks of the window, in terms of its true mean and extrema. -/
structure StableWindow (checker : State ℝ) : Prop where
  parallel : |wrapAngle (wrapAngle ((yaws checker).sum / 50) - checker.wharf_yaw_)| < 3
  near : 1 ≤ (dists checker).sum / 50 ∧ (dists checker).sum / 50 ≤ 8
  yaw_steady : SpreadBelow 2 (yaws checker)
  dist_steady : SpreadBelow 0.5 (dists checker)

/-- Values between the sentinels, and at least one, make both running extrema true. -/
theorem spread_iff {values : List ℝ} {bound lo hi : ℝ} (hne : values ≠ [])
    (hlo : ∀ x ∈ values, x < lo) (hhi : ∀ x ∈ values, hi < x) :
    runMax hi values - runMin lo values < bound ↔ SpreadBelow bound values := by
  obtain ⟨x, hx⟩ := List.exists_mem_of_ne_nil values hne
  have hleast := isLeast_of_lt hx (hlo x hx)
  have hgreatest := isGreatest_of_lt hx (hhi x hx)
  constructor
  · intro h
    exact ⟨_, _, hleast, hgreatest, h⟩
  · intro ⟨l, g, hl, hg, h⟩
    rwa [hleast.unique hl, hgreatest.unique hg]

theorem dist_nonneg {self : State ℝ} : ∀ d ∈ dists self, 0 ≤ d := by
  intro d hd
  obtain ⟨p, -, rfl⟩ := List.mem_map.mp hd
  exact abs_nonneg _

/-- A mean of at most 8 over 50 poses keeps every distance far below the sentinel. -/
theorem dist_lt_sentinel {self : State ℝ} (h : (dists self).sum / 50 ≤ 8) :
    ∀ d ∈ dists self, d < 1e9 := by
  intro d hd
  have hle : d ≤ (dists self).sum := List.single_le_sum dist_nonneg d hd
  norm_num
  linarith

theorem yaw_mem {self : State ℝ} : ∀ y ∈ yaws self, -180 ≤ y ∧ y < 180 := by
  intro y hy
  obtain ⟨p, -, rfl⟩ := List.mem_map.mp hy
  exact wrapAngle_mem _

/-- The test as the code makes it, on sums and running extrema of the window. -/
theorem isStable_eq (self : State ℝ) :
    isStable self = true ↔
      |wrapAngle (wrapAngle ((yaws self).sum / 50) - self.wharf_yaw_)| < 3 ∧
      (1 ≤ (dists self).sum / 50 ∧ (dists self).sum / 50 ≤ 8) ∧
      runMax (-1e9) (yaws self) - runMin 1e9 (yaws self) < 2 ∧
      runMax (-1e9) (dists self) - runMin 1e9 (dists self) < 0.5 := by
  unfold isStable
  rw [fluctuationLoop_eq]
  simp only [Fluctuation.start, zero_add, windowSize, Nat.cast_ofNat, decide_eq_true_eq, ge_iff_le]
  norm_num [yaws, dists]

/-- **The sentinels do not matter.** On a window with poses the test asks for the true mean and
the true extrema. -/
theorem isStable_iff {self : State ℝ} (h : self.pose_buf_ ≠ []) :
    isStable self = true ↔ StableWindow self := by
  have hyaws : yaws self ≠ [] := by rwa [yaws, Ne, List.map_eq_nil_iff]
  have hdists : dists self ≠ [] := by rwa [dists, Ne, List.map_eq_nil_iff]
  have hyaw : runMax (-1e9) (yaws self) - runMin 1e9 (yaws self) < 2 ↔
      SpreadBelow 2 (yaws self) := by
    refine spread_iff hyaws (fun y hy => ?_) (fun y hy => ?_)
    · have := (yaw_mem y hy).2
      norm_num
      linarith
    · have := (yaw_mem y hy).1
      norm_num
      linarith
  -- a bounded mean of distances bounds each of the fifty
  have hdist : (dists self).sum / 50 ≤ 8 →
      (runMax (-1e9) (dists self) - runMin 1e9 (dists self) < 0.5 ↔
        SpreadBelow 0.5 (dists self)) := by
    intro hmean
    refine spread_iff hdists (dist_lt_sentinel hmean) (fun d hd => ?_)
    have := dist_nonneg d hd
    norm_num
    linarith
  rw [isStable_eq]
  constructor
  · intro ⟨hparallel, hnear, hy, hd⟩
    exact ⟨hparallel, hnear, hyaw.mp hy, (hdist hnear.2).mp hd⟩
  · intro ⟨hparallel, hnear, hy, hd⟩
    exact ⟨hparallel, hnear, hyaw.mpr hy, (hdist hnear.2).mpr hd⟩

/-- Every pose has distance zero to a line that was never fitted. -/
theorem not_stableWindow_of_unfitted {self : State ℝ} (hA : self.wharf_A_ = 0)
    (hB : self.wharf_B_ = 0) (hC : self.wharf_C_ = 0) : ¬ StableWindow self := by
  intro h
  have hzero : dists self = List.replicate self.pose_buf_.length 0 := by
    rw [dists, List.eq_replicate_iff]
    refine ⟨List.length_map _, fun d hd => ?_⟩
    obtain ⟨p, -, rfl⟩ := List.mem_map.mp hd
    rw [distanceToWharf, hA, hB, hC]
    simp
  have hnear := h.near.1
  rw [hzero, List.sum_replicate, smul_zero, zero_div] at hnear
  linarith

theorem SpreadBelow.replicate {bound x : ℝ} {n : ℕ} (hn : n ≠ 0) (h : 0 < bound) :
    SpreadBelow bound (List.replicate n x) := by
  refine ⟨x, x, ⟨?_, ?_⟩, ⟨?_, ?_⟩, ?_⟩
  · exact List.mem_replicate.mpr ⟨hn, rfl⟩
  · exact fun y hy => (List.eq_of_mem_replicate hy).ge
  · exact List.mem_replicate.mpr ⟨hn, rfl⟩
  · exact fun y hy => (List.eq_of_mem_replicate hy).le
  · rwa [sub_self]

/-- Fifty equal poses, one metre from a wharf along the first axis and parallel to it. -/
def moored : State ℝ where
  wharf_A_ := 0
  wharf_B_ := -1
  wharf_C_ := 0
  wharf_yaw_ := 0
  pose_buf_ := List.replicate 50 ⟨0, 1, 0, 0, 0, 0, 0⟩
  has_found_base_frame_ := false
  base_frame_ := ⟨0, 0, 0, 0, 0, 0, 0⟩

example : StableWindow moored := by
  have hyaws : yaws moored = List.replicate 50 0 := by
    rw [yaws, moored, List.map_replicate, wrapAngle_zero]
  have hdists : dists moored = List.replicate 50 1 := by
    rw [dists, moored, List.map_replicate]
    norm_num [distanceToWharf]
  refine ⟨?_, ?_, ?_, ?_⟩
  · rw [hyaws]
    norm_num [moored, wrapAngle_zero]
  · rw [hdists]
    norm_num
  · rw [hyaws]
    exact .replicate (by decide) (by norm_num)
  · rw [hdists]
    exact .replicate (by decide) (by norm_num)

/-! ## Single calls -/

/-- A successful fit leaves a line with a normal of length one. -/
theorem fitWharfLine_cases (self : State ℝ) (wharf_points : List (Point3d ℝ)) :
    fitWharfLine .real self wharf_points = (self, false) ∨
    ∃ A B C : ℝ, A ^ 2 + B ^ 2 = 1 ∧ fitWharfLine .real self wharf_points
      = ({ self with wharf_A_ := A, wharf_B_ := B, wharf_C_ := C }, true) := by
  unfold fitWharfLine
  dsimp only
  split
  · exact .inl rfl
  · split
    · exact .inl rfl
    · rename_i hnorm
      refine .inr ⟨_, _, _, ?_, rfl⟩
      generalize (_ : ℝ) * (sumLoop _ wharf_points).xy_sum - _ = A at hnorm ⊢
      generalize (sumLoop _ wharf_points).y_sum * (sumLoop _ wharf_points).y_sum - _ = B at hnorm ⊢
      have hpos : 0 < Cmath.real.sqrt (A * A + B * B) := by
        refine lt_of_lt_of_le ?_ (not_lt.mp hnorm)
        norm_num
      have hsq : Cmath.real.sqrt (A * A + B * B) ^ 2 = A * A + B * B :=
        Real.sq_sqrt (add_nonneg (mul_self_nonneg A) (mul_self_nonneg B))
      rw [div_pow, div_pow, ← add_div, hsq, div_eq_one_iff_eq]
      · ring
      · rw [← hsq]
        exact (pow_pos hpos 2).ne'

/-- After the base frame was found, it is answered without change. -/
theorem getStableDockBaseFrame_of_found {self : State ℝ} (h : self.has_found_base_frame_ = true)
    (base_frame : ShipPose ℝ) :
    getStableDockBaseFrame self base_frame = (self, true, self.base_frame_) := by
  rw [getStableDockBaseFrame, if_pos h]

/-- Before, the call finds it in a full and stable window, or changes nothing. -/
theorem getStableDockBaseFrame_cases {self : State ℝ} (h : self.has_found_base_frame_ = false)
    (base_frame : ShipPose ℝ) :
    (∃ frame, self.pose_buf_[25]? = some frame ∧ 50 ≤ self.pose_buf_.length ∧ StableWindow self ∧
      getStableDockBaseFrame self base_frame
        = ({ self with base_frame_ := frame, has_found_base_frame_ := true }, true, frame)) ∨
    (¬ (50 ≤ self.pose_buf_.length ∧ StableWindow self) ∧
      getStableDockBaseFrame self base_frame = (self, false, base_frame)) := by
  unfold getStableDockBaseFrame
  rw [if_neg (by rw [h]; exact Bool.false_ne_true)]
  by_cases hlen : self.pose_buf_.length < windowSize
  · rw [if_pos hlen]
    exact .inr ⟨fun hfull => absurd hfull.1 (not_le.mpr hlen), rfl⟩
  · have hfull : 50 ≤ self.pose_buf_.length := not_lt.mp hlen
    have hne : self.pose_buf_ ≠ [] := by
      intro hnil
      rw [hnil, List.length_nil] at hfull
      omega
    rw [if_neg hlen]
    by_cases hstable : isStable self = true
    -- the pose in the middle is there, for the window is full
    · have hmiddle : self.pose_buf_[25]? = some (self.pose_buf_.getD 25 self.base_frame_) := by
        rw [List.getD_eq_getElem?_getD, List.getElem?_eq_getElem (by omega), Option.getD_some]
      rw [if_pos hstable]
      exact .inl ⟨_, hmiddle, hfull, (isStable_iff hne).mp hstable, rfl⟩
    · rw [if_neg hstable]
      exact .inr ⟨fun hwindow => hstable ((isStable_iff hne).mpr hwindow.2), rfl⟩

/-! ## Runs -/

/-- A call together with what it returned. -/
abbrev Event : Type := Call ℝ × Answer ℝ

/-- A call, with its answer noted down. -/
noncomputable def recorded (self : State ℝ) (c : Call ℝ) : State ℝ × Event :=
  ((call .real self c).1, (c, (call .real self c).2))

/-- The object after a run from construction. -/
noncomputable def runState (base₀ : ShipPose ℝ) (calls : List (Call ℝ)) : State ℝ :=
  Mealy.finalState recorded (new base₀) calls

/-- The calls of a run with their answers, in order. -/
noncomputable def transcript (base₀ : ShipPose ℝ) (calls : List (Call ℝ)) : List Event :=
  Mealy.outputs recorded (new base₀) calls

/-- The call answered that there is a base frame. -/
def Event.found : Event → Bool
  | (_, .base found _) => found
  | _ => false

/-- The pose that the call adds. -/
def Event.pose : Event → Option (ShipPose ℝ)
  | (.addPoseFrame pose, _) => some pose
  | _ => none

/-- The poses added before a base frame was found. -/
def posesAdded (events : List Event) : List (ShipPose ℝ) :=
  (events.takeWhile fun e => !e.found).filterMap Event.pose

/-- As long as no base frame was found, every pose counts. -/
theorem posesAdded_concat {events : List Event} {e : Event}
    (h : events.any Event.found = false) (he : e.found = false) :
    posesAdded (events ++ [e]) = posesAdded events ++ e.pose.toList := by
  have hall : ∀ e' ∈ events, (!e'.found) = true := by
    intro e' he'
    rw [Bool.not_eq_true']
    exact Bool.eq_false_iff.mpr (List.any_eq_false.mp h e' he')
  have he' : ([e].takeWhile fun e => !e.found) = [e] :=
    List.takeWhile_cons_of_pos (by rw [he]; rfl)
  rw [posesAdded, posesAdded, List.takeWhile_append_of_pos hall, he',
    List.takeWhile_eq_self_iff.mpr hall, List.filterMap_append]
  cases hpose : e.pose with
  | none => rw [List.filterMap_cons_none hpose]; rfl
  | some pose => rw [List.filterMap_cons_some hpose]; rfl

/-- From then on none does. -/
theorem posesAdded_concat_of_found {events : List Event} {e : Event}
    (h : events.any Event.found = true ∨ e.found = true) :
    posesAdded (events ++ [e]) = posesAdded events := by
  unfold posesAdded
  rw [List.takeWhile_append]
  split
  · rename_i hlen
    have hself : events.takeWhile (fun e => !e.found) = events :=
      (List.takeWhile_prefix _).eq_of_length hlen
    -- nothing was found before, so it is `e` that found it
    have hnone : ¬ events.any Event.found = true := by
      intro hany
      obtain ⟨e', he', hfound⟩ := List.any_eq_true.mp hany
      have hnot := List.takeWhile_eq_self_iff.mp hself e' he'
      rw [hfound] at hnot
      cases hnot
    have he : ([e].takeWhile fun e => !e.found) = [] :=
      List.takeWhile_cons_of_neg (by rw [h.resolve_left hnone]; exact Bool.false_ne_true)
    rw [he, List.append_nil, hself]
  · rfl

/-- The line is the initial one, or one with a normal of length one, from a successful fit. -/
def LineKnown (checker : State ℝ) (events : List Event) : Prop :=
  (checker.wharf_A_ = 0 ∧ checker.wharf_B_ = 0 ∧ checker.wharf_C_ = 0) ∨
  (checker.wharf_A_ ^ 2 + checker.wharf_B_ ^ 2 = 1 ∧
    ∃ wharf_points, (Call.fitWharfLine wharf_points, Answer.fitted true) ∈ events)

theorem LineKnown.concat {checker : State ℝ} {events : List Event} (h : LineKnown checker events)
    (e : Event) : LineKnown checker (events ++ [e]) := by
  rcases h with hline | ⟨hone, wharf_points, hmem⟩
  · exact .inl hline
  · exact .inr ⟨hone, wharf_points, List.mem_append_left _ hmem⟩

/-- What a run knows of the object. -/
structure Inv (checker : State ℝ) (events : List Event) : Prop where
  window : checker.pose_buf_ = lastN 50 (posesAdded events)
  latch : checker.has_found_base_frame_ = events.any Event.found
  line : LineKnown checker events

theorem any_concat (events : List Event) (e : Event) :
    (events ++ [e]).any Event.found = (events.any Event.found || e.found) := by
  rw [List.any_append, List.any_cons, List.any_nil, Bool.or_false]

/-- A call that finds nothing and touches neither window, latch nor line. -/
theorem Inv.of_same {checker checker' : State ℝ} {events : List Event} {e : Event}
    (h : Inv checker events) (he : e.found = false) (hpose : e.pose = none)
    (hsame : checker' = { checker with wharf_yaw_ := checker'.wharf_yaw_ }) :
    Inv checker' (events ++ [e]) := by
  have hposes : posesAdded (events ++ [e]) = posesAdded events := by
    by_cases hany : events.any Event.found = true
    · exact posesAdded_concat_of_found (.inl hany)
    · rw [posesAdded_concat (Bool.eq_false_iff.mpr hany) he, hpose]
      exact List.append_nil _
  rw [hsame]
  refine ⟨?_, ?_, ?_⟩
  · rw [hposes]
    exact h.window
  · rw [any_concat, he, Bool.or_false]
    exact h.latch
  · exact h.line.concat e

/-- A pose slides the window, until a base frame was found. -/
theorem Inv.addPoseFrame {checker : State ℝ} {events : List Event} (h : Inv checker events)
    (pose : ShipPose ℝ) :
    Inv (addPoseFrame checker pose) (events ++ [(.addPoseFrame pose, .done)]) := by
  have hlatch : checker.has_found_base_frame_
      = (events ++ [((.addPoseFrame pose, .done) : Event)]).any Event.found := by
    rw [any_concat, h.latch]
    exact (Bool.or_false _).symm
  have hline := h.line.concat (.addPoseFrame pose, .done)
  cases hfound : checker.has_found_base_frame_ with
  | true =>
    rw [WharfDockChecker.addPoseFrame, if_pos hfound]
    refine ⟨?_, hlatch, hline⟩
    rw [posesAdded_concat_of_found (.inl (h.latch.symm.trans hfound))]
    exact h.window
  | false =>
    rw [WharfDockChecker.addPoseFrame, if_neg (by rw [hfound]; exact Bool.false_ne_true)]
    refine ⟨?_, hlatch, hline⟩
    rw [posesAdded_concat (h.latch.symm.trans hfound) rfl]
    show push 50 checker.pose_buf_ pose = _
    rw [h.window, push_lastN]
    rfl

/-- The latch closes with the first answer that there is a base frame. -/
theorem Inv.getStableDockBaseFrame {checker : State ℝ} {events : List Event}
    (h : Inv checker events) (base_frame : ShipPose ℝ) :
    Inv (getStableDockBaseFrame checker base_frame).1
      (events ++ [(.getStableDockBaseFrame base_frame,
        .base (getStableDockBaseFrame checker base_frame).2.1
          (getStableDockBaseFrame checker base_frame).2.2)]) := by
  cases hfound : checker.has_found_base_frame_ with
  | true =>
    have hany := h.latch.symm.trans hfound
    rw [getStableDockBaseFrame_of_found hfound]
    refine ⟨?_, ?_, ?_⟩
    · rw [posesAdded_concat_of_found (.inl hany)]
      exact h.window
    · rw [any_concat, hany]
      exact hfound
    · exact h.line.concat _
  | false =>
    rcases getStableDockBaseFrame_cases hfound base_frame with
      ⟨frame, -, -, -, heq⟩ | ⟨-, heq⟩ <;> rw [heq]
    · refine ⟨?_, ?_, ?_⟩
      · rw [posesAdded_concat_of_found (.inr rfl)]
        exact h.window
      · rw [any_concat]
        exact (Bool.or_true _).symm
      · exact h.line.concat _
    · exact h.of_same rfl rfl rfl

/-- One call keeps what is known. -/
theorem Inv.step {checker : State ℝ} {events : List Event} (h : Inv checker events) (c : Call ℝ) :
    Inv (recorded checker c).1 (events ++ [(recorded checker c).2]) := by
  cases c with
  | fitWharfLine wharf_points =>
    show Inv (fitWharfLine .real checker wharf_points).1
      (events ++ [(.fitWharfLine wharf_points, .fitted (fitWharfLine .real checker wharf_points).2)])
    rcases fitWharfLine_cases checker wharf_points with hfit | ⟨A, B, C, hone, hfit⟩ <;> rw [hfit]
    · exact h.of_same rfl rfl rfl
    · have hsame : Inv checker (events ++ [(.fitWharfLine wharf_points, .fitted true)]) :=
        h.of_same rfl rfl rfl
      exact ⟨hsame.window, hsame.latch, .inr ⟨hone, wharf_points,
        List.mem_append_right _ List.mem_cons_self⟩⟩
  | calcWharfYawDegree => exact h.of_same rfl rfl rfl
  | addPoseFrame pose => exact h.addPoseFrame pose
  | getStableDockBaseFrame base_frame => exact h.getStableDockBaseFrame base_frame

theorem inv_new (base₀ : ShipPose ℝ) : Inv (new base₀) [] := by
  refine ⟨?_, rfl, .inl ⟨rfl, rfl, rfl⟩⟩
  show [] = lastN 50 []
  rw [lastN_nil]

/-- The run lemma. -/
theorem inv_run (base₀ : ShipPose ℝ) (calls : List (Call ℝ)) :
    Inv (runState base₀ calls) (transcript base₀ calls) :=
  Mealy.run_invariant (fun _ _ c h => h.step c) (inv_new base₀) calls

/-- Once found, the base frame stays. -/
theorem call_of_found {self : State ℝ} (h : self.has_found_base_frame_ = true) (c : Call ℝ) :
    (recorded self c).1.has_found_base_frame_ = true ∧
    (recorded self c).1.base_frame_ = self.base_frame_ := by
  cases c with
  | fitWharfLine wharf_points =>
    show (fitWharfLine .real self wharf_points).1.has_found_base_frame_ = true ∧
      (fitWharfLine .real self wharf_points).1.base_frame_ = self.base_frame_
    rcases fitWharfLine_cases self wharf_points with hfit | ⟨A, B, C, -, hfit⟩ <;> rw [hfit]
    · exact ⟨h, rfl⟩
    · exact ⟨h, rfl⟩
  | calcWharfYawDegree => exact ⟨h, rfl⟩
  | addPoseFrame pose =>
    show (addPoseFrame self pose).has_found_base_frame_ = true ∧
      (addPoseFrame self pose).base_frame_ = self.base_frame_
    rw [addPoseFrame, if_pos h]
    exact ⟨h, rfl⟩
  | getStableDockBaseFrame base_frame =>
    show (getStableDockBaseFrame self base_frame).1.has_found_base_frame_ = true ∧
      (getStableDockBaseFrame self base_frame).1.base_frame_ = self.base_frame_
    rw [getStableDockBaseFrame_of_found h]
    exact ⟨h, rfl⟩

theorem run_of_found {self : State ℝ} (h : self.has_found_base_frame_ = true)
    (calls : List (Call ℝ)) (base_frame : ShipPose ℝ) :
    (getStableDockBaseFrame (Mealy.finalState recorded self calls) base_frame).2
      = (true, self.base_frame_) := by
  have hkept := Mealy.finalState_induction (f := recorded)
    (J := fun s => s.has_found_base_frame_ = true ∧ s.base_frame_ = self.base_frame_)
    (fun s c hs => ⟨(call_of_found hs.1 c).1, (call_of_found hs.1 c).2.trans hs.2⟩) ⟨h, rfl⟩ calls
  rw [getStableDockBaseFrame_of_found hkept.1, hkept.2]

/-- An answer that there is a base frame leaves that frame in the object. -/
theorem found_of_answer {self : State ℝ} {base_frame frame : ShipPose ℝ}
    (h : (getStableDockBaseFrame self base_frame).2 = (true, frame)) :
    (getStableDockBaseFrame self base_frame).1.has_found_base_frame_ = true ∧
    (getStableDockBaseFrame self base_frame).1.base_frame_ = frame := by
  cases hfound : self.has_found_base_frame_ with
  | true =>
    rw [getStableDockBaseFrame_of_found hfound] at h ⊢
    exact ⟨hfound, (Prod.mk.inj h).2⟩
  | false =>
    rcases getStableDockBaseFrame_cases hfound base_frame with
      ⟨middle, -, -, -, heq⟩ | ⟨-, heq⟩ <;> rw [heq] at h ⊢
    · exact ⟨rfl, (Prod.mk.inj h).2⟩
    · cases (Prod.mk.inj h).1

/-- **The base frame over whole runs.** After every run from construction the window holds the
last 50 of the poses added before a base frame was found. The first answer that there is one
comes exactly in a full window that is stable by its true mean and extrema; it is the 26th of
the window's poses, and a line was fitted before. From then on every answer is that pose. An
answer that there is none changes nothing. -/
theorem wharfDock_run (base₀ : ShipPose ℝ) (calls : List (Call ℝ)) :
    let checker := runState base₀ calls
    let events := transcript base₀ calls
    let window := lastN 50 (posesAdded events)
    checker.pose_buf_ = window ∧
    (events.any Event.found = false → ∀ base_frame,
      ((getStableDockBaseFrame checker base_frame).2.1 = true ↔
        window.length = 50 ∧ StableWindow checker) ∧
      ∀ frame, (getStableDockBaseFrame checker base_frame).2 = (true, frame) →
        window[25]? = some frame ∧
        (∃ wharf_points, (Call.fitWharfLine wharf_points, Answer.fitted true) ∈ events) ∧
        (checker.wharf_A_ ≠ 0 ∨ checker.wharf_B_ ≠ 0)) ∧
    (∀ base_frame frame, (getStableDockBaseFrame checker base_frame).2 = (true, frame) →
      ∀ later base_frame', (getStableDockBaseFrame (Mealy.finalState recorded
        (getStableDockBaseFrame checker base_frame).1 later) base_frame').2 = (true, frame)) ∧
    (∀ base_frame, (getStableDockBaseFrame checker base_frame).2.1 = false →
      getStableDockBaseFrame checker base_frame = (checker, false, base_frame)) := by
  intro checker events window
  have hinv : Inv checker events := inv_run base₀ calls
  have hwindow : checker.pose_buf_ = window := hinv.window
  refine ⟨hwindow, ?_, ?_, ?_⟩
  · intro hnone base_frame
    -- the latch is open as long as no call has answered yes
    have hfound := hinv.latch.trans hnone
    have hlen : window.length ≤ 50 := by
      rw [length_lastN]
      exact Nat.min_le_left _ _
    rcases getStableDockBaseFrame_cases hfound base_frame with
      ⟨middle, hmiddle, hfull, hstable, heq⟩ | ⟨hnot, heq⟩
    · rw [hwindow] at hmiddle hfull
      rw [heq]
      refine ⟨iff_of_true rfl ⟨by omega, hstable⟩, fun frame hframe => ?_⟩
      rw [← (Prod.mk.inj hframe).2]
      refine ⟨hmiddle, ?_⟩
      rcases hinv.line with ⟨hA, hB, hC⟩ | ⟨hone, hfitted⟩
      -- no line yet: every distance is zero, which is too near
      · exact absurd hstable (not_stableWindow_of_unfitted hA hB hC)
      · refine ⟨hfitted, ?_⟩
        by_contra hzero
        rw [not_or, not_not, not_not] at hzero
        rw [hzero.1, hzero.2] at hone
        norm_num at hone
    · rw [heq]
      rw [hwindow] at hnot
      refine ⟨iff_of_false Bool.false_ne_true fun h => hnot ⟨h.1.ge, h.2⟩, fun frame hframe => ?_⟩
      cases (Prod.mk.inj hframe).1
  · intro base_frame frame h later base_frame'
    obtain ⟨hfound, hframe⟩ := found_of_answer h
    rw [run_of_found hfound, hframe]
  · intro base_frame h
    cases hfound : checker.has_found_base_frame_ with
    | true =>
      rw [getStableDockBaseFrame_of_found hfound] at h
      cases h
    | false =>
      rcases getStableDockBaseFrame_cases hfound base_frame with
        ⟨middle, -, -, -, heq⟩ | ⟨-, heq⟩
      · rw [heq] at h
        cases h
      · exact heq

end WharfDockChecker
end ShipMotion
