import ShipMotion.PointCloudFuser.OrderTheorems

/-!
# Pairs and the timing of arrivals

The pairs of a run are taken from the greedy matching of the two whole streams, whatever the
order of arrivals: an iteration advances that matching by what its pairing loop does, and a
frame that goes out alone plays no part in what follows, unless its partner is still on the
way. So two runs over the same streams can only disagree after such a frame.
-/

namespace ShipMotion
namespace PointCloudFuser

open Utils

variable {K : Type} {self : State K} {d : Delivery K}

/-! ## The pairing loop on the front of two streams -/

/-- The loop does the first part of the matching of any streams that continue its caches. -/
theorem greedy_pairLoop_append (cacheA cacheB comingA comingB : List (RawPointCloud K)) :
    greedy stamp stamp 500 (cacheA ++ comingA) (cacheB ++ comingB)
      = fusedPairs (pairLoop cacheA cacheB).exits
        ++ greedy stamp stamp 500 ((pairLoop cacheA cacheB).cacheA ++ comingA)
          ((pairLoop cacheA cacheB).cacheB ++ comingB) := by
  induction cacheA, cacheB using pairLoop_induction with
  | nilA cacheB =>
    rw [pairLoop_nil_left]
    rfl
  | nilB cacheA =>
    rw [pairLoop_nil_right]
    rfl
  | fused a as b bs h ih =>
    rw [pairLoop_fused h, List.cons_append, List.cons_append,
      greedy_of_near _ _ ((diffNs_lt_iff a b).mp h), ih]
    rfl
  | mismatchA a as b bs h hlt ih =>
    rw [pairLoop_mismatchA h hlt, List.cons_append, List.cons_append,
      greedy_of_lt _ _ (mt (diffNs_lt_iff a b).mpr h) (stamp_lt_iff.mpr hlt)]
    exact ih
  | mismatchB a as b bs h hlt ih =>
    rw [pairLoop_mismatchB h hlt, List.cons_append, List.cons_append,
      greedy_of_not_lt _ _ (mt (diffNs_lt_iff a b).mpr h) (mt stamp_lt_iff.mp hlt)]
    exact ih

/-! ## One iteration -/

/-- The frame that is evicted. -/
def Exit.evicted : Exit K → Option (RawPointCloud K)
  | .overflowA a => some a
  | .overflowB b => some b
  | _ => none

/-- No frame of `coming` could have been paired with one that goes out alone. -/
def AloneForGood (lone : Exit K → Option (RawPointCloud K)) (exits : List (Exit K))
    (coming : List (RawPointCloud K)) : Prop :=
  ∀ x ∈ exits.filterMap lone, ∀ y ∈ coming, ¬ diffNs x y < matchNs

instance (lone : Exit K → Option (RawPointCloud K)) (exits : List (Exit K))
    (coming : List (RawPointCloud K)) : Decidable (AloneForGood lone exits coming) :=
  inferInstanceAs (Decidable (∀ x ∈ exits.filterMap lone, ∀ y ∈ coming, ¬ diffNs x y < matchNs))

/-- Without an eviction a dequeued frame just joins its cache. -/
theorem intake_of_kept (h : (moveFrames self d).1.filterMap Exit.evicted = []) :
    (intakeA self d).2 = self.cacheA_ ++ d.dataA.toList ∧
    (intakeB self d).2 = self.cacheB_ ++ d.dataB.toList := by
  have hA : (intakeA self d).1.filterMap Exit.evicted ++ (intakeA self d).2
      = self.cacheA_ ++ d.dataA.toList := intake_frames (fun _ => rfl) self.cacheA_ d.dataA
  have hB : (intakeB self d).1.filterMap Exit.evicted ++ (intakeB self d).2
      = self.cacheB_ ++ d.dataB.toList := intake_frames (fun _ => rfl) self.cacheB_ d.dataB
  have hnone : (intakeA self d).1.filterMap Exit.evicted = [] ∧
      (intakeB self d).1.filterMap Exit.evicted = [] := by
    cases hgate : passesGate (intakeA self d).2 (intakeB self d).2 with
    | false =>
      rw [moveFrames_of_closed self d hgate, List.filterMap_append, List.append_eq_nil_iff] at h
      exact h
    | true =>
      rw [moveFrames_of_open self d hgate, List.filterMap_append, List.filterMap_append,
        List.append_eq_nil_iff, List.append_eq_nil_iff] at h
      exact h.1
  constructor
  · rw [← hA]
    exact ((congrArg (· ++ (intakeA self d).2) hnone.1).trans (List.nil_append _)).symm
  · rw [← hB]
    exact ((congrArg (· ++ (intakeB self d).2) hnone.2).trans (List.nil_append _)).symm

/-- What follows a frame of A that goes out alone for good is matched as if it had not been. -/
theorem greedy_of_aloneA {a : RawPointCloud K} {as bs : List (RawPointCloud K)}
    (hsorted : SortedByTime (a :: as)) (hfar : ∀ b ∈ bs, ¬ diffNs a b < matchNs) :
    greedy stamp stamp 500 (a :: as) bs = greedy stamp stamp 500 as bs :=
  greedy_drop_far_left (sorted_head hsorted.stamps)
    fun b hb => mt (diffNs_lt_iff a b).mpr (hfar b hb)

theorem greedy_of_aloneB {b : RawPointCloud K} {as bs : List (RawPointCloud K)}
    (hsorted : SortedByTime (b :: bs)) (hfar : ∀ a ∈ as, ¬ diffNs b a < matchNs) :
    greedy stamp stamp 500 as (b :: bs) = greedy stamp stamp 500 as bs :=
  greedy_drop_far_right (sorted_head hsorted.stamps)
    fun a ha hnear => hfar a ha ((diffNs_lt_iff b a).mpr hnear.symm)

/-- The pairing loop and the branches after it, with the frames still to come: the pairs are the
next ones of the matching. -/
theorem greedy_single {cacheA cacheB comingA comingB : List (RawPointCloud K)}
    (hA : SortedByTime (cacheA ++ comingA)) (hB : SortedByTime (cacheB ++ comingB))
    (haloneA : AloneForGood Exit.loneA (onlyB (onlyA (pairLoop cacheA cacheB))).exits comingB)
    (haloneB : AloneForGood Exit.loneB (onlyB (onlyA (pairLoop cacheA cacheB))).exits comingA) :
    fusedPairs (onlyB (onlyA (pairLoop cacheA cacheB))).exits
        ++ greedy stamp stamp 500 ((onlyB (onlyA (pairLoop cacheA cacheB))).cacheA ++ comingA)
          ((onlyB (onlyA (pairLoop cacheA cacheB))).cacheB ++ comingB)
      = greedy stamp stamp 500 (cacheA ++ comingA) (cacheB ++ comingB) := by
  rw [greedy_pairLoop_append cacheA cacheB]
  rw [← pairLoop_framesA cacheA cacheB, List.append_assoc] at hA
  rw [← pairLoop_framesB cacheA cacheB, List.append_assoc] at hB
  rcases single_cases (pairLoop cacheA cacheB) with
    h | ⟨a, as, -, hleftB, hleftA, h⟩ | ⟨b, bs, -, hleftA, hleftB, h⟩
  · rw [h]
  · -- `a` went out alone: with it the matching would go on in the same way
    rw [h] at haloneA ⊢
    have hfar : ∀ b ∈ comingB, ¬ diffNs a b < matchNs := haloneA a (by
      rw [List.filterMap_append]
      exact List.mem_append_right _ List.mem_cons_self)
    have hsorted := hA.of_append_right
    rw [hleftA, List.cons_append] at hsorted
    rw [hleftA, hleftB, fusedPairs, List.filterMap_append]
    show fusedPairs (pairLoop cacheA cacheB).exits ++ []
        ++ greedy stamp stamp 500 (as ++ comingA) comingB
      = _ ++ greedy stamp stamp 500 (a :: (as ++ comingA)) comingB
    rw [List.append_nil, greedy_of_aloneA hsorted hfar]
  · rw [h] at haloneB ⊢
    have hfar : ∀ a ∈ comingA, ¬ diffNs b a < matchNs := haloneB b (by
      rw [List.filterMap_append]
      exact List.mem_append_right _ List.mem_cons_self)
    have hsorted := hB.of_append_right
    rw [hleftB, List.cons_append] at hsorted
    rw [hleftA, hleftB, fusedPairs, List.filterMap_append]
    show fusedPairs (pairLoop cacheA cacheB).exits ++ []
        ++ greedy stamp stamp 500 comingA (bs ++ comingB)
      = _ ++ greedy stamp stamp 500 comingA (b :: (bs ++ comingB))
    rw [List.append_nil, greedy_of_aloneB hsorted hfar]

/-- One iteration, with the frames still to come. -/
theorem greedy_moveFrames {comingA comingB : List (RawPointCloud K)}
    (hA : SortedByTime (self.cacheA_ ++ d.dataA.toList ++ comingA))
    (hB : SortedByTime (self.cacheB_ ++ d.dataB.toList ++ comingB))
    (hkept : (moveFrames self d).1.filterMap Exit.evicted = [])
    (haloneA : AloneForGood Exit.loneA (moveFrames self d).1 comingB)
    (haloneB : AloneForGood Exit.loneB (moveFrames self d).1 comingA) :
    fusedPairs (moveFrames self d).1
        ++ greedy stamp stamp 500 ((moveFrames self d).2.1 ++ comingA)
          ((moveFrames self d).2.2 ++ comingB)
      = greedy stamp stamp 500 (self.cacheA_ ++ d.dataA.toList ++ comingA)
          (self.cacheB_ ++ d.dataB.toList ++ comingB) := by
  obtain ⟨hcacheA, hcacheB⟩ := intake_of_kept hkept
  have hintake : fusedPairs ((intakeA self d).1 ++ (intakeB self d).1) = [] := by
    rw [fusedPairs, List.filterMap_append, intakeA_other self d fun _ => rfl,
      intakeB_other self d fun _ => rfl]
    rfl
  -- nothing was evicted, so the caches with the new frames are what the loop sees
  rw [← hcacheA] at hA ⊢
  rw [← hcacheB] at hB ⊢
  cases hgate : passesGate (intakeA self d).2 (intakeB self d).2 with
  | false => rw [moveFrames_of_closed self d hgate, hintake, List.nil_append]
  | true =>
    rw [moveFrames_of_open self d hgate] at haloneA haloneB ⊢
    have hpairs : ∀ exits : List (Exit K),
        fusedPairs ((intakeA self d).1 ++ (intakeB self d).1 ++ exits) = fusedPairs exits := by
      intro exits
      rw [fusedPairs, List.filterMap_append]
      exact (congrArg (· ++ fusedPairs exits) hintake).trans (List.nil_append _)
    rw [hpairs]
    refine greedy_single hA hB (fun x hx => haloneA x ?_) (fun x hx => haloneB x ?_)
    · rw [List.filterMap_append]
      exact List.mem_append_right _ hx
    · rw [List.filterMap_append]
      exact List.mem_append_right _ hx

/-! ## Runs -/

section Runs

variable [CommRing K] {streamA streamB : List (RawPointCloud K)} {ds : List (Delivery K)}

theorem runExits_concat (self : State K) (ds : List (Delivery K)) (d : Delivery K) :
    runExits self (ds ++ [d]) = runExits self ds ++ (moveFrames (runState self ds) d).1 := by
  rw [runExits, Mealy.outputs_concat, List.flatMap_append, List.flatMap_singleton]
  rfl

theorem runState_concat (self : State K) (ds : List (Delivery K)) (d : Delivery K) :
    runState self (ds ++ [d]) = (fuseIteration (runState self ds) d).1 :=
  Mealy.finalState_concat self ds d

/-- The frames of a stream that a run has not delivered. -/
def coming (stream : List (RawPointCloud K)) (data : Delivery K → Option (RawPointCloud K))
    (ds : List (Delivery K)) : List (RawPointCloud K) :=
  stream.drop (ds.filterMap data).length

/-- The run delivers the beginnings of two streams, and no frame is evicted. -/
structure RunsOver (fuser : State K) (streamA streamB : List (RawPointCloud K))
    (ds : List (Delivery K)) : Prop where
  prefixA : ds.filterMap Delivery.dataA <+: streamA
  prefixB : ds.filterMap Delivery.dataB <+: streamB
  kept : (runExits fuser ds).filterMap Exit.evicted = []

/-- No frame goes out alone while a frame of the other radar within `MATCH_NS` of it is still to
come. -/
def NoneTooEarly (self : State K) (streamA streamB : List (RawPointCloud K))
    (ds : List (Delivery K)) : Prop :=
  ∀ i (hi : i < ds.length),
    AloneForGood Exit.loneA (moveFrames (runState self (ds.take i)) ds[i]).1
      (coming streamB Delivery.dataB (ds.take (i + 1))) ∧
    AloneForGood Exit.loneB (moveFrames (runState self (ds.take i)) ds[i]).1
      (coming streamA Delivery.dataA (ds.take (i + 1)))

theorem RunsOver.of_concat {self : State K} (h : RunsOver self streamA streamB (ds ++ [d])) :
    RunsOver self streamA streamB ds := by
  obtain ⟨hA, hB, hkept⟩ := h
  rw [List.filterMap_append] at hA hB
  rw [runExits_concat, List.filterMap_append, List.append_eq_nil_iff] at hkept
  exact ⟨(List.prefix_append _ _).trans hA, (List.prefix_append _ _).trans hB, hkept.1⟩

theorem NoneTooEarly.of_concat {self : State K}
    (h : NoneTooEarly self streamA streamB (ds ++ [d])) : NoneTooEarly self streamA streamB ds := by
  intro i hi
  have hconcat := h i (by rw [List.length_append]; omega)
  rw [List.getElem_append_left hi, List.take_append_of_le_length (by omega),
    List.take_append_of_le_length (by omega)] at hconcat
  exact hconcat

/-- The last iteration of the run. -/
theorem NoneTooEarly.last {self : State K} (h : NoneTooEarly self streamA streamB (ds ++ [d])) :
    AloneForGood Exit.loneA (moveFrames (runState self ds) d).1
      (coming streamB Delivery.dataB (ds ++ [d])) ∧
    AloneForGood Exit.loneB (moveFrames (runState self ds) d).1
      (coming streamA Delivery.dataA (ds ++ [d])) := by
  have hlast := h ds.length (by rw [List.length_append, List.length_singleton]; omega)
  have htake : (ds ++ [d]).take (ds.length + 1) = ds ++ [d] :=
    List.take_of_length_le (by rw [List.length_append, List.length_singleton])
  rw [List.getElem_concat_length rfl, List.take_left, htake] at hlast
  exact hlast

omit [CommRing K] in
/-- What is delivered next is the front of what is still to come. -/
theorem coming_concat {stream : List (RawPointCloud K)}
    {data : Delivery K → Option (RawPointCloud K)}
    (h : (ds ++ [d]).filterMap data <+: stream) :
    coming stream data ds = (data d).toList ++ coming stream data (ds ++ [d]) := by
  obtain ⟨rest, rfl⟩ := h
  have hconcat : (ds ++ [d]).filterMap data = ds.filterMap data ++ (data d).toList := by
    rw [List.filterMap_append, filterMap_cons_toList]
    exact congrArg (_ ++ ·) (List.append_nil _)
  rw [coming, coming, List.drop_left, hconcat, List.append_assoc, List.drop_left]

omit [CommRing K] in
theorem append_coming {stream : List (RawPointCloud K)}
    {data : Delivery K → Option (RawPointCloud K)} (h : ds.filterMap data <+: stream) :
    ds.filterMap data ++ coming stream data ds = stream :=
  (List.prefix_iff_eq_append.mp h).symm ▸ rfl

omit [CommRing K] in
/-- What a cache holds and what is still to come is in order. -/
theorem sorted_account {stream out cache : List (RawPointCloud K)}
    {data : Delivery K → Option (RawPointCloud K)} (hsorted : SortedByTime stream)
    (hahead : ds.filterMap data <+: stream) (haccount : out ++ cache = ds.filterMap data) :
    SortedByTime (cache ++ coming stream data ds) := by
  rw [← append_coming hahead, ← haccount, List.append_assoc] at hsorted
  exact hsorted.of_append_right

/-- **A run advances the matching of the whole streams.** -/
theorem greedy_run {self : State K} (hA : self.cacheA_ = []) (hB : self.cacheB_ = [])
    (hsortedA : SortedByTime streamA) (hsortedB : SortedByTime streamB)
    (hrun : RunsOver self streamA streamB ds) (hearly : NoneTooEarly self streamA streamB ds) :
    fusedPairs (runExits self ds)
        ++ greedy stamp stamp 500 ((runState self ds).cacheA_ ++ coming streamA Delivery.dataA ds)
          ((runState self ds).cacheB_ ++ coming streamB Delivery.dataB ds)
      = greedy stamp stamp 500 streamA streamB := by
  induction ds using List.reverseRecOn with
  | nil =>
    show greedy stamp stamp 500 (self.cacheA_ ++ streamA) (self.cacheB_ ++ streamB) = _
    rw [hA, hB]
    rfl
  | append_singleton ds d ih =>
    have hframesA := run_framesA self ds
    have hframesB := run_framesB self ds
    rw [hA, List.nil_append] at hframesA
    rw [hB, List.nil_append] at hframesB
    have hA' := sorted_account hsortedA hrun.of_concat.prefixA hframesA
    have hB' := sorted_account hsortedB hrun.of_concat.prefixB hframesB
    have hkept := hrun.kept
    rw [runExits_concat, List.filterMap_append, List.append_eq_nil_iff] at hkept
    rw [coming_concat hrun.prefixA, ← List.append_assoc] at hA'
    rw [coming_concat hrun.prefixB, ← List.append_assoc] at hB'
    -- the last iteration does the next part of what the iterations before it left to do
    have hstep := greedy_moveFrames hA' hB' hkept.2 hearly.last.1 hearly.last.2
    rw [← ih hrun.of_concat hearly.of_concat, coming_concat hrun.prefixA,
      coming_concat hrun.prefixB, ← List.append_assoc, ← List.append_assoc, ← hstep,
      ← List.append_assoc, runExits_concat, runState_concat, fusedPairs, List.filterMap_append]
    rfl

/-- **Timing.** Two runs from empty caches over the same sorted streams, in neither of which a
frame is evicted or goes out alone too early, agree on the pairs as far as both have got. -/
theorem pairs_prefix (self : State K) (streamA streamB : List (RawPointCloud K))
    (ds ds' : List (Delivery K)) (hA : self.cacheA_ = []) (hB : self.cacheB_ = [])
    (hsortedA : SortedByTime streamA) (hsortedB : SortedByTime streamB)
    (hrun : RunsOver self streamA streamB ds) (hrun' : RunsOver self streamA streamB ds')
    (hearly : NoneTooEarly self streamA streamB ds)
    (hearly' : NoneTooEarly self streamA streamB ds') :
    fusedPairs (runExits self ds) <+: fusedPairs (runExits self ds') ∨
    fusedPairs (runExits self ds') <+: fusedPairs (runExits self ds) := by
  have hpairs := greedy_run hA hB hsortedA hsortedB hrun hearly
  have hpairs' := greedy_run hA hB hsortedA hsortedB hrun' hearly'
  exact List.prefix_or_prefix_of_prefix ⟨_, hpairs⟩ ⟨_, hpairs'⟩

/-- The frames of a radar at the given times. -/
def framesAt (lidar_id : String) (times : List UInt64) : List (RawPointCloud ℚ) :=
  times.map (frameAt lidar_id)

/-- Three frames of A, then three of B at the same times. -/
def oneAfterTheOther : List (Delivery ℚ) :=
  (framesAt "A" [0, 1, 2]).map (fun a => arrive (some a) none)
    ++ (framesAt "B" [0, 1, 2]).map fun b => arrive none (some b)

/-- Whether the frames of both radars arrive together or one radar's first, both runs pair them
up in the same way. -/
theorem pairs_prefix_threeArrivals :
    fusedPairs (runExits idleFuser threeArrivals)
        <+: fusedPairs (runExits idleFuser oneAfterTheOther) ∨
    fusedPairs (runExits idleFuser oneAfterTheOther)
        <+: fusedPairs (runExits idleFuser threeArrivals) :=
  pairs_prefix idleFuser (framesAt "A" [0, 1, 2]) (framesAt "B" [0, 1, 2]) threeArrivals
    oneAfterTheOther rfl rfl (by decide) (by decide)
    ⟨by decide, by decide, by decide +kernel⟩ ⟨by decide, by decide, by decide +kernel⟩
    (by unfold NoneTooEarly; decide +kernel) (by unfold NoneTooEarly; decide +kernel)

def earlyA : List (RawPointCloud ℚ) := framesAt "A" [0, 1000, 2000, 5000, 6000, 7000]

def lateB : List (RawPointCloud ℚ) := framesAt "B" [5000, 5001, 5002, 9000]

/-- Both radars deliver in every iteration, as long as they have frames. -/
def sideBySide : List (Delivery ℚ) :=
  (List.range 6).map fun t => arrive earlyA[t]? lateB[t]?

/-- The whole of A, then the whole of B. -/
def firstAThenB : List (Delivery ℚ) :=
  earlyA.map (fun a => arrive (some a) none) ++ lateB.map fun b => arrive none (some b)

/-- Side by side, B's frame at 5000 goes out alone before A's frame at 5000 is there, and that one
is paired with B's next frame. -/
theorem pairs_depend_on_timing :
    SortedByTime earlyA ∧ SortedByTime lateB ∧
    RunsOver idleFuser earlyA lateB sideBySide ∧ RunsOver idleFuser earlyA lateB firstAThenB ∧
    fusedPairs (runExits idleFuser sideBySide) = [(frameAt "A" 5000, frameAt "B" 5001)] ∧
    fusedPairs (runExits idleFuser firstAThenB) = [(frameAt "A" 5000, frameAt "B" 5000)] ∧
    ¬ (fusedPairs (runExits idleFuser sideBySide)
          <+: fusedPairs (runExits idleFuser firstAThenB) ∨
       fusedPairs (runExits idleFuser firstAThenB)
          <+: fusedPairs (runExits idleFuser sideBySide)) := by
  refine ⟨by decide, by decide, ⟨by decide, by decide, by decide +kernel⟩,
    ⟨by decide, by decide, by decide +kernel⟩, by decide +kernel, by decide +kernel, ?_⟩
  decide +kernel

end Runs
end PointCloudFuser
end ShipMotion
