import Mathlib.Analysis.Real.Sqrt
import ShipMotion.LidarBgDiff.ShipCloudTheorems
import ShipMotion.Utils.SlidingWindow

/-!
# The stability window

With a fixed frame count of at least one, `judgeShipStatus` decides over a sliding window: the
centre history is the end of the current streak of valid frames, cut to the frame count. The
count may also be set between calls, to any `int`. The window then has its size, and a first
element to read, exactly while the count is positive and not below the length of the history.
-/

namespace ShipMotion
namespace LidarBgDiff

open Utils (streak)
open Utils.SlidingWindow

section Window

variable {K : Type} [Field K] [LinearOrder K]

/-- The input of a call: the pose and the number of points. -/
abbrev ShipFrame (K : Type) [Zero K] := ShipMove K × ℤ

/-- One call. -/
def judge (pcl : Pcl K) (self : State K) (frame : ShipFrame K) : State K × ShipMonitorStatus :=
  judgeShipStatus pcl self frame.1 frame.2

omit [LinearOrder K] in
/-- There is a ship, of at least `m` points. -/
def Valid (m : ℤ) (frame : ShipFrame K) : Prop := frame.1.has_ship = true ∧ m ≤ frame.2

instance (m : ℤ) (frame : ShipFrame K) : Decidable (Valid m frame) :=
  inferInstanceAs (Decidable (_ ∧ _))

omit [LinearOrder K] in
/-- The centre of a frame's box. -/
def center (frame : ShipFrame K) : ShipCenterRecord K :=
  ⟨frame.1.center_x, frame.1.center_y, frame.1.center_z⟩

/-- The length of the run of valid frames that ends with the last one. -/
def validStreak (m : ℤ) (frames : List (ShipFrame K)) : ℕ :=
  streak (fun frame => decide (Valid m frame)) frames

/-- The object with another history. -/
def withHistory (self : State K) (history : List (ShipCenterRecord K)) : State K :=
  { self with center_history_ := history }

variable {pcl : Pcl K} {self : State K} {frame : ShipFrame K}

/-- A frame that is not valid is a departure, and empties the history. -/
theorem judge_of_not_valid (h : ¬ Valid self.min_valid_ship_pts_.toInt frame) :
    judge pcl self frame = (withHistory self [], .shipLeave) := by
  have hleave : (!frame.1.has_ship || frame.2 < self.min_valid_ship_pts_.toInt) = true := by
    by_contra hcond
    exact h (by simpa [Valid] using hcond)
  rw [judge, judgeShipStatus, if_pos hleave, withHistory]

/-- A valid frame pushes its centre; the verdict compares it with the oldest centre kept. -/
theorem judge_of_valid (h : Valid self.min_valid_ship_pts_.toInt frame) :
    judge pcl self frame =
      (withHistory self (pushCenter self (center frame)),
        if (pushCenter self (center frame)).length < toSizeT self.stable_frame_cnt_ then .shipMoving
        else if centerDist pcl (center frame)
            ((pushCenter self (center frame)).headD (center frame)) < self.stable_dist_thresh_ then
          .shipStable
        else .shipMoving) := by
  have hstay : ¬ (!frame.1.has_ship || frame.2 < self.min_valid_ship_pts_.toInt) = true := by
    simpa [Valid] using h
  rw [judge, judgeShipStatus, if_neg hstay]
  show (if (pushCenter self (center frame)).length < toSizeT self.stable_frame_cnt_ then _
    else if centerDist pcl (center frame)
        ((pushCenter self (center frame)).headD (center frame)) < self.stable_dist_thresh_ then _
      else _) = _
  split
  · rfl
  · split <;> rfl

omit [Field K] [LinearOrder K] in
/-- The push is that of a sliding window. -/
theorem pushCenter_eq (self : State K) (record : ShipCenterRecord K) :
    pushCenter self record = push (toSizeT self.stable_frame_cnt_) self.center_history_ record := rfl

/-! ## A fixed frame count -/

/-- The end of the current streak, at most `n` centres. -/
def window (n : ℕ) (m : ℤ) (frames : List (ShipFrame K)) : List (ShipCenterRecord K) :=
  lastN (min n (validStreak m frames)) (frames.map center)

omit [LinearOrder K] in
theorem window_concat_of_not_valid {n : ℕ} {m : ℤ} {frames : List (ShipFrame K)}
    (h : ¬ Valid m frame) : window n m (frames ++ [frame]) = [] := by
  rw [window, validStreak, Utils.Streak.streak_snoc_of_neg (by simpa using h), Nat.min_zero, lastN,
    Nat.sub_zero, List.drop_length]

omit [LinearOrder K] in
theorem window_concat_of_valid {n : ℕ} {m : ℤ} {frames : List (ShipFrame K)} (h : Valid m frame) :
    window n m (frames ++ [frame]) = push n (window n m frames) (center frame) := by
  rw [window, validStreak, Utils.Streak.streak_snoc_of_pos (by simpa using h), List.map_append,
    List.map_singleton, window, push_lastN_min]
  rfl

/-- The run lemma: from an empty history, the object changes in nothing but its history, which
is the window. -/
theorem finalState_judge (pcl : Pcl K) (hfresh : self.center_history_ = [])
    (frames : List (ShipFrame K)) :
    Utils.Mealy.finalState (judge pcl) self frames =
      withHistory self
        (window (toSizeT self.stable_frame_cnt_) self.min_valid_ship_pts_.toInt frames) := by
  induction frames using List.reverseRecOn with
  | nil =>
    have hnil : window (toSizeT self.stable_frame_cnt_) self.min_valid_ship_pts_.toInt
        ([] : List (ShipFrame K)) = self.center_history_ := by
      rw [hfresh, window, List.map_nil, lastN_nil]
    rw [hnil]
    rfl
  | append_singleton frames frame ih =>
    rw [Utils.Mealy.finalState_concat, ih]
    by_cases h : Valid self.min_valid_ship_pts_.toInt frame
    · rw [window_concat_of_valid h, judge_of_valid (by exact h), pushCenter_eq]
      rfl
    · rw [window_concat_of_not_valid h, judge_of_not_valid (by exact h)]
      rfl

omit [LinearOrder K] in
/-- The window is full when the last `n` frames were all valid. -/
theorem length_window (n : ℕ) (m : ℤ) (frames : List (ShipFrame K)) :
    (window n m frames).length = min n (validStreak m frames) := by
  have hle : validStreak m frames ≤ frames.length := Utils.Streak.streak_le_length frames
  rw [window, length_lastN, List.length_map]
  omega

end Window

/-- The Euclidean distance of two centres. -/
noncomputable def euclidDist (p q : ShipCenterRecord ℝ) : ℝ :=
  Real.sqrt ((p.cx - q.cx) ^ 2 + (p.cy - q.cy) ^ 2 + (p.cz - q.cz) ^ 2)

/-- The specification of a stable verdict of call `k`: the last `n` calls were all valid, and
the ship moved by less than `d` between the first and the last of them. -/
structure StableAt (n : ℕ) (d : ℝ) (m : ℤ) (frames : List (ShipFrame ℝ)) (k : ℕ) : Prop where
  enough : n ≤ k + 1
  valid : ∀ j frame, k + 1 ≤ j + n → j ≤ k → frames[j]? = some frame → Valid m frame
  near : ∃ first last, frames[k + 1 - n]? = some first ∧ frames[k]? = some last ∧
    euclidDist (center last) (center first) < d

variable {pcl : Pcl ℝ} {self : State ℝ}

/-- The distance in the code is Euclidean. -/
theorem centerDist_eq (hsqrt : pcl.sqrt = Real.sqrt) (record first : ShipCenterRecord ℝ) :
    centerDist pcl record first = euclidDist record first := by
  rw [centerDist, hsqrt, euclidDist, pow_two, pow_two, pow_two]

/-- A full streak of valid frames, frame by frame. -/
theorem le_validStreak_iff {n k : ℕ} {m : ℤ} {frames : List (ShipFrame ℝ)} (hk : k < frames.length) :
    n ≤ validStreak m (frames.take (k + 1)) ↔
      n ≤ k + 1 ∧ ∀ j frame, k + 1 ≤ j + n → j ≤ k → frames[j]? = some frame → Valid m frame := by
  have hlen : (frames.take (k + 1)).length = k + 1 := by
    rw [List.length_take]
    omega
  rw [validStreak, Utils.Streak.le_streak_iff]
  refine and_congr (by rw [hlen]) ?_
  constructor
  · intro hall j frame hjn hjk hframe
    have hvalid := hall j (by omega) (by omega)
    rw [List.getElem_take, decide_eq_true_eq] at hvalid
    rw [List.getElem?_eq_getElem (by omega), Option.some.injEq] at hframe
    rwa [← hframe]
  · intro hall j hj hjn
    rw [List.getElem_take, decide_eq_true_eq]
    exact hall j _ (by omega) (by omega) (List.getElem?_eq_getElem (by omega))

/-- The verdict on a valid frame, from the window it closes. -/
theorem judge_status_of_valid (hsqrt : pcl.sqrt = Real.sqrt) (hfresh : self.center_history_ = [])
    (frames : List (ShipFrame ℝ)) {frame : ShipFrame ℝ} {n : ℕ}
    (hn : toSizeT self.stable_frame_cnt_ = n) (h : Valid self.min_valid_ship_pts_.toInt frame)
    {closed : List (ShipCenterRecord ℝ)}
    (hclosed : window n self.min_valid_ship_pts_.toInt (frames ++ [frame]) = closed) :
    (judge pcl (Utils.Mealy.finalState (judge pcl) self frames) frame).2 =
      if closed.length < n then .shipMoving
      else if euclidDist (center frame) (closed.headD (center frame)) < self.stable_dist_thresh_
        then .shipStable
      else .shipMoving := by
  have hpush : pushCenter (withHistory self (window n self.min_valid_ship_pts_.toInt frames))
      (center frame) = closed := by
    rw [← hclosed, window_concat_of_valid h, ← hn]
    exact pushCenter_eq _ _
  rw [finalState_judge pcl hfresh, hn, judge_of_valid (by exact h), hpush, centerDist_eq hsqrt]
  show (if closed.length < toSizeT self.stable_frame_cnt_ then _ else _) = _
  rw [hn]
  rfl

/-- The oldest centre of a full window is that of call `k - n + 1`. -/
theorem headD_window {n k : ℕ} {m : ℤ} {frames : List (ShipFrame ℝ)} (hk : k < frames.length)
    (hfull : n ≤ validStreak m (frames.take (k + 1))) {first : ShipFrame ℝ}
    (hfirst : frames[k + 1 - n]? = some first) (hn : 1 ≤ n) (default : ShipCenterRecord ℝ) :
    (window n m (frames.take (k + 1))).headD default = center first := by
  have hlen : (frames.take (k + 1)).length = k + 1 := by
    rw [List.length_take]
    omega
  have hget : ((frames.take (k + 1)).map center)[k + 1 - n]? = some (center first) := by
    rw [List.getElem?_map, List.getElem?_take_of_lt (by omega), hfirst]
    rfl
  rw [window, Nat.min_eq_left hfull, List.headD_eq_head?_getD, head?_lastN, List.length_map, hlen,
    hget, Option.getD_some]

/-- The specification in terms of the window: it is full, and its oldest centre is near. -/
theorem stableAt_iff {n k : ℕ} {d : ℝ} {m : ℤ} {frames : List (ShipFrame ℝ)}
    {frame : ShipFrame ℝ} (hn : 1 ≤ n) (hk : frames[k]? = some frame) :
    StableAt n d m frames k ↔
      n ≤ validStreak m (frames.take (k + 1)) ∧
      euclidDist (center frame)
        ((window n m (frames.take (k + 1))).headD (center frame)) < d := by
  obtain ⟨hlt, -⟩ := List.getElem?_eq_some_iff.mp hk
  have hstreak := le_validStreak_iff (n := n) (m := m) hlt
  constructor
  · rintro ⟨henough, hvalid, first, last, hfirst, hlast, hnear⟩
    have hfull := hstreak.mpr ⟨henough, hvalid⟩
    rw [hk, Option.some.injEq] at hlast
    rw [headD_window hlt hfull hfirst hn, hlast]
    exact ⟨hfull, hnear⟩
  · rintro ⟨hfull, hnear⟩
    obtain ⟨henough, hvalid⟩ := hstreak.mp hfull
    have hfirst : frames[k + 1 - n]? = some frames[k + 1 - n] :=
      List.getElem?_eq_getElem (by omega)
    rw [headD_window hlt hfull hfirst hn] at hnear
    exact ⟨henough, hvalid, _, _, hfirst, hk, hnear⟩

/-- The three verdicts on two conditions, the second of which needs the first. -/
theorem verdict_cases {valid stable : Prop} [Decidable valid] [Decidable stable]
    (hneeds : stable → valid) {status : ShipMonitorStatus}
    (h : status = if valid then if stable then .shipStable else .shipMoving else .shipLeave) :
    (status = .shipLeave ↔ ¬ valid) ∧ (status = .shipStable ↔ stable) ∧
      (status = .shipMoving ↔ valid ∧ ¬ stable) := by
  by_cases hvalid : valid
  · by_cases hstable : stable <;> simp [h, hvalid, hstable]
  · simp [h, hvalid, mt hneeds hvalid]

/-- **`judgeShipStatus` is its sliding window.** For a frame count `n` of at least one, and
every sequence of inputs from an empty history, call `k` reports a departure exactly when its
frame is not valid, a stable ship exactly when the specification says so, and a moving ship
otherwise; afterwards the history holds the centres of the last `min n r` calls, where `r` is
the length of the run of valid calls that ends with call `k`. -/
theorem judgeShipStatus_window (hsqrt : pcl.sqrt = Real.sqrt) (hfresh : self.center_history_ = [])
    (hn : 1 ≤ self.stable_frame_cnt_.toInt) (frames : List (ShipFrame ℝ)) {k : ℕ}
    {frame : ShipFrame ℝ} (hk : frames[k]? = some frame) :
    let n := self.stable_frame_cnt_.toInt.toNat
    let m := self.min_valid_ship_pts_.toInt
    let upTo := frames.take (k + 1)
    ∃ status, (Utils.Mealy.outputs (judge pcl) self frames)[k]? = some status ∧
      (status = .shipLeave ↔ ¬ Valid m frame) ∧
      (status = .shipStable ↔ StableAt n self.stable_dist_thresh_ m frames k) ∧
      (status = .shipMoving ↔
        Valid m frame ∧ ¬ StableAt n self.stable_dist_thresh_ m frames k) ∧
      (Utils.Mealy.finalState (judge pcl) self upTo).center_history_
        = lastN (min n (validStreak m upTo)) (upTo.map center) := by
  classical
  intro n m upTo
  have hcount : toSizeT self.stable_frame_cnt_ = n := by
    have hpos := toSizeT_of_pos hn
    omega
  have hupTo : frames.take k ++ [frame] = upTo := by
    show _ = frames.take (k + 1)
    rw [List.take_add_one, hk]
    rfl
  have hhistory : (Utils.Mealy.finalState (judge pcl) self upTo).center_history_
      = lastN (min n (validStreak m upTo)) (upTo.map center) := by
    rw [finalState_judge pcl hfresh, hcount]
    rfl
  have hspec : StableAt n self.stable_dist_thresh_ m frames k ↔
      n ≤ validStreak m upTo ∧
      euclidDist (center frame) ((window n m upTo).headD (center frame))
        < self.stable_dist_thresh_ := stableAt_iff (by omega) hk
  -- the last of the valid frames of a stable verdict is the frame of the call
  have hneeds : StableAt n self.stable_dist_thresh_ m frames k → Valid m frame := fun h =>
    h.valid k frame (by omega) le_rfl hk
  have hverdict : (judge pcl (Utils.Mealy.finalState (judge pcl) self (frames.take k)) frame).2
      = if Valid m frame then
          if StableAt n self.stable_dist_thresh_ m frames k then .shipStable else .shipMoving
        else .shipLeave := by
    by_cases hvalid : Valid m frame
    · rw [judge_status_of_valid hsqrt hfresh (frames.take k) hcount hvalid
        (congrArg (window n m) hupTo), length_window, if_pos hvalid]
      by_cases hfull : n ≤ validStreak m upTo
      · rw [if_neg (by omega)]
        exact if_congr (hspec.trans (and_iff_right hfull)).symm rfl rfl
      · rw [if_pos (by omega), if_neg fun h => hfull (hspec.mp h).1]
    · rw [finalState_judge pcl hfresh, judge_of_not_valid (by exact hvalid), if_neg hvalid]
  obtain ⟨hleave, hstable, hmoving⟩ := verdict_cases hneeds hverdict
  refine ⟨_, ?_, hleave, hstable, hmoving, hhistory⟩
  rw [Utils.Mealy.outputs_getElem?, hk, Option.map_some]

/-- A frame with a ship of five points, `x` metres along the quay. -/
def shipAt (x : ℕ) : ShipFrame ℝ := ({ has_ship := true, center_x := x }, 5)

/-- A ship that moves five metres and then lies still. -/
def mooredFrames : List (ShipFrame ℝ) := [shipAt 0, shipAt 5, shipAt 5]

theorem judgeShipStatus_window_moored :
    ∃ status, (Utils.Mealy.outputs (judge gapPcl) quay mooredFrames)[2]? = some status ∧
      (status = .shipLeave ↔ ¬ Valid quay.min_valid_ship_pts_.toInt (shipAt 5)) ∧
      (status = .shipStable ↔ StableAt quay.stable_frame_cnt_.toInt.toNat
        quay.stable_dist_thresh_ quay.min_valid_ship_pts_.toInt mooredFrames 2) ∧
      (status = .shipMoving ↔
        Valid quay.min_valid_ship_pts_.toInt (shipAt 5) ∧
        ¬ StableAt quay.stable_frame_cnt_.toInt.toNat
          quay.stable_dist_thresh_ quay.min_valid_ship_pts_.toInt mooredFrames 2) ∧
      (Utils.Mealy.finalState (judge gapPcl) quay (mooredFrames.take 3)).center_history_
        = lastN (min quay.stable_frame_cnt_.toInt.toNat
            (validStreak quay.min_valid_ship_pts_.toInt (mooredFrames.take 3)))
          ((mooredFrames.take 3).map center) :=
  judgeShipStatus_window rfl rfl (by decide) mooredFrames rfl

/-! ## A frame count set between calls -/

section Reconfiguration

variable {K : Type} [Field K] [LinearOrder K]

/-- A call of the setter, or of `judgeShipStatus`. -/
inductive StabilityCall (K : Type) [Zero K] where
  | setStableFrameCount (frame_cnt : Int32)
  | judgeShipStatus (frame : ShipFrame K)

/-- One call; the setter returns nothing. -/
def stabilityStep (pcl : Pcl K) (self : State K) :
    StabilityCall K → State K × Option ShipMonitorStatus
  | .setStableFrameCount frame_cnt => (setStableFrameCount self frame_cnt, none)
  | .judgeShipStatus frame => ((judge pcl self frame).1, some (judge pcl self frame).2)

/-- The call gets to the reference `front()`: a valid frame, and a history that is then not
shorter than the frame count. -/
def TakesFront (self : State K) (frame : ShipFrame K) : Prop :=
  Valid self.min_valid_ship_pts_.toInt frame ∧
    ¬ (pushCenter self (center frame)).length < toSizeT self.stable_frame_cnt_

/-- A call of `judgeShipStatus` takes no `front()` of an empty history, and leaves a history
that is not longer than the frame count. -/
def WellFormed (pcl : Pcl K) (self : State K) : StabilityCall K → Prop
  | .setStableFrameCount _ => True
  | .judgeShipStatus frame =>
    ¬ (TakesFront self frame ∧ pushCenter self (center frame) = []) ∧
      ((judge pcl self frame).1.center_history_.length : ℤ) ≤ max self.stable_frame_cnt_.toInt 0

omit [LinearOrder K] in
/-- The condition on a call: a valid frame finds a positive frame count, and a history that is
not longer. -/
def FitsWindow (self : State K) : StabilityCall K → Prop
  | .setStableFrameCount _ => True
  | .judgeShipStatus frame =>
    Valid self.min_valid_ship_pts_.toInt frame →
      1 ≤ self.stable_frame_cnt_.toInt ∧
        (self.center_history_.length : ℤ) ≤ self.stable_frame_cnt_.toInt

omit [Field K] [LinearOrder K] in
/-- A push lengthens the history, unless it was full. -/
theorem length_pushCenter (self : State K) (record : ShipCenterRecord K) :
    (pushCenter self record).length =
      if self.center_history_.length + 1 > toSizeT self.stable_frame_cnt_ then
        self.center_history_.length
      else self.center_history_.length + 1 := by
  unfold pushCenter
  simp only [List.length_append, List.length_singleton]
  split
  · rw [List.length_tail, List.length_append, List.length_singleton, Nat.add_sub_cancel]
  · rw [List.length_append, List.length_singleton]

theorem toSizeT_of_nonpos {i : Int32} (h : i.toInt ≤ 0) :
    (i.toInt = 0 ∧ toSizeT i = 0) ∨ (i.toInt < 0 ∧ 2 ≤ toSizeT i) := by
  have hge := i.le_toInt
  rcases Int.lt_or_eq_of_le h with hneg | hzero
  · -- a negative count becomes a huge one
    refine .inr ⟨hneg, ?_⟩
    unfold toSizeT
    omega
  · refine .inl ⟨hzero, ?_⟩
    rw [toSizeT, hzero]
    rfl

theorem wellFormed_iff (pcl : Pcl K) (self : State K) (call : StabilityCall K) :
    WellFormed pcl self call ↔ FitsWindow self call := by
  cases call with
  | setStableFrameCount frame_cnt => exact Iff.rfl
  | judgeShipStatus frame =>
    by_cases hvalid : Valid self.min_valid_ship_pts_.toInt frame
    · have hlen := length_pushCenter self (center frame)
      simp only [WellFormed, FitsWindow, TakesFront, hvalid, true_and, forall_const]
      rw [judge_of_valid hvalid, ← List.length_eq_zero_iff]
      show ¬ (_ ∧ _) ∧ ((pushCenter self (center frame)).length : ℤ) ≤ _ ↔ _
      generalize (pushCenter self (center frame)).length = pushed at hlen ⊢
      -- a positive count is itself as a size; zero evicts at once, a negative one never
      rcases Int.lt_or_le 0 self.stable_frame_cnt_.toInt with hpos | hnonpos
      · have hsize := toSizeT_of_pos (i := self.stable_frame_cnt_) hpos
        split at hlen <;> omega
      · rcases toSizeT_of_nonpos hnonpos with ⟨hzero, hsize⟩ | ⟨hneg, hsize⟩
        · split at hlen <;> omega
        · split at hlen <;> omega
    · have hok : FitsWindow self (.judgeShipStatus frame) := fun h => absurd h hvalid
      refine iff_of_true ⟨fun h => hvalid h.1.1, ?_⟩ hok
      rw [judge_of_not_valid hvalid]
      exact le_max_right _ _

/-- **When the window stays well formed.** For every sequence of calls of the setter, with any
`int`, and of `judgeShipStatus`: no call takes `front()` of an empty history and every one
leaves at most `max(n, 0)` centres, if and only if every valid frame finds a positive count and
a history not longer than it. -/
theorem stability_wellFormed_iff (pcl : Pcl K) (self : State K) (calls : List (StabilityCall K)) :
    Utils.Mealy.EveryCall (stabilityStep pcl) (WellFormed pcl) self calls ↔
      Utils.Mealy.EveryCall (stabilityStep pcl) FitsWindow self calls :=
  Utils.Mealy.everyCall_congr (J := fun _ => True) (fun _ _ _ => trivial)
    (fun s call _ => wellFormed_iff pcl s call) trivial

end Reconfiguration

/-- The count is set to zero, and a ship comes. -/
def zeroCount : List (StabilityCall ℚ) :=
  [.setStableFrameCount 0, .judgeShipStatus ({ has_ship := true }, 5)]

/-- The centre that was just pushed is evicted, and `front()` is taken of the empty history. -/
theorem front_of_empty :
    ¬ Utils.Mealy.EveryCall (stabilityStep onePointPcl) (WellFormed onePointPcl) emptyBerth
      zeroCount := by
  intro h
  refine h.2.1.1 ⟨⟨by decide, ?_⟩, ?_⟩
  · decide +kernel
  · decide +kernel

end LidarBgDiff
end ShipMotion
