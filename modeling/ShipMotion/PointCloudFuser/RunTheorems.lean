import ShipMotion.PointCloudFuser.PairLoopTheorems
import ShipMotion.Utils.Mealy

/-!
# Conservation over whole runs

Each part of an iteration moves frames from the front of a cache to an exit and changes
nothing else, so an iteration keeps the account: the frames that leave, followed by those
left, are those that were there, followed by the one that arrived. The conservation rule
carries the account over every run.
-/

namespace ShipMotion
namespace PointCloudFuser

open Utils

variable {K : Type}

/-! ## The parts of an iteration -/

section Intake

variable {drop : RawPointCloud K → Exit K} {frame : Exit K → Option (RawPointCloud K)}

/-- What is evicted and what is kept is the cache. -/
theorem evictLoop_frames (hdrop : ∀ x, frame (drop x) = some x) (cache : List (RawPointCloud K)) :
    (evictLoop drop cache).1.filterMap frame ++ (evictLoop drop cache).2 = cache := by
  induction cache with
  | nil => rfl
  | cons x cache ih =>
    rw [evictLoop]
    split
    · show (drop x :: (evictLoop drop cache).1).filterMap frame ++ (evictLoop drop cache).2 = _
      rw [List.filterMap_cons_some (hdrop x), List.cons_append, ih]
    · rfl

/-- What does not see an eviction sees nothing of the loop. -/
theorem evictLoop_other {X : Type} {sel : Exit K → Option X} (hdrop : ∀ x, sel (drop x) = none)
    (cache : List (RawPointCloud K)) : (evictLoop drop cache).1.filterMap sel = [] := by
  induction cache with
  | nil => rfl
  | cons x cache ih =>
    rw [evictLoop]
    split
    · show (drop x :: (evictLoop drop cache).1).filterMap sel = _
      rw [List.filterMap_cons_none (hdrop x), ih]
    · rfl

theorem length_evictLoop (cache : List (RawPointCloud K)) :
    (evictLoop drop cache).2.length ≤ maxCacheFrame := by
  induction cache with
  | nil => exact Nat.zero_le _
  | cons x cache ih =>
    rw [evictLoop]
    split
    · exact ih
    · rename_i h
      exact Nat.le_of_not_lt h

theorem intake_frames (hdrop : ∀ x, frame (drop x) = some x) (cache : List (RawPointCloud K))
    (data : Option (RawPointCloud K)) :
    (intake drop cache data).1.filterMap frame ++ (intake drop cache data).2
      = cache ++ data.toList := by
  cases data with
  | none => exact (List.append_nil cache).symm
  | some data => exact evictLoop_frames hdrop _

theorem intake_other {X : Type} {sel : Exit K → Option X} (hdrop : ∀ x, sel (drop x) = none)
    (cache : List (RawPointCloud K)) (data : Option (RawPointCloud K)) :
    (intake drop cache data).1.filterMap sel = [] := by
  cases data with
  | none => rfl
  | some data => exact evictLoop_other hdrop _

theorem length_intake {cache : List (RawPointCloud K)} (h : cache.length ≤ maxCacheFrame)
    (data : Option (RawPointCloud K)) : (intake drop cache data).2.length ≤ maxCacheFrame := by
  cases data with
  | none => exact h
  | some data => exact length_evictLoop _

variable (self : State K) (d : Delivery K)

theorem intakeA_frames :
    (intakeA self d).1.filterMap Exit.frameA ++ (intakeA self d).2
      = self.cacheA_ ++ d.dataA.toList :=
  intake_frames (fun _ => rfl) _ _

theorem intakeB_frames :
    (intakeB self d).1.filterMap Exit.frameB ++ (intakeB self d).2
      = self.cacheB_ ++ d.dataB.toList :=
  intake_frames (fun _ => rfl) _ _

variable {X : Type} {sel : Exit K → Option X}

theorem intakeA_other (h : ∀ x, sel (.overflowA x) = none) :
    (intakeA self d).1.filterMap sel = [] :=
  intake_other h _ _

theorem intakeB_other (h : ∀ x, sel (.overflowB x) = none) :
    (intakeB self d).1.filterMap sel = [] :=
  intake_other h _ _

end Intake

/-- After the pairing loop: nothing more happens, or nothing was paired and the first frame of
the cache that is left goes out alone. -/
theorem single_cases (r : PairResult K) :
    onlyB (onlyA r) = r ∨
    (∃ a as, r.matched = false ∧ r.cacheB = [] ∧ r.cacheA = a :: as ∧
      onlyB (onlyA r)
        = { r with matched := true, exits := r.exits ++ [.aloneA a], cacheA := as }) ∨
    (∃ b bs, r.matched = false ∧ r.cacheA = [] ∧ r.cacheB = b :: bs ∧
      onlyB (onlyA r)
        = { r with matched := true, exits := r.exits ++ [.aloneB b], cacheB := bs }) := by
  obtain ⟨matched, exits, cacheA, cacheB⟩ := r
  cases matched with
  | true => exact .inl rfl
  | false =>
    cases cacheA with
    | nil =>
      cases cacheB with
      | nil => exact .inl rfl
      | cons b bs => exact .inr (.inr ⟨b, bs, rfl, rfl, rfl, rfl⟩)
    | cons a as =>
      cases cacheB with
      | nil => exact .inr (.inl ⟨a, as, rfl, rfl, rfl, rfl⟩)
      | cons b bs => exact .inl rfl

theorem single_of_matched {r : PairResult K} (h : r.matched = true) : onlyB (onlyA r) = r := by
  have hA : onlyA r = r := by
    rw [onlyA, h]
    rfl
  rw [hA, onlyB, h]
  rfl

theorem single_of_left_A {r : PairResult K} {a : RawPointCloud K} {as : List (RawPointCloud K)}
    (hm : r.matched = false) (hB : r.cacheB = []) (hA : r.cacheA = a :: as) :
    (onlyB (onlyA r)).exits = r.exits ++ [.aloneA a] := by
  have hr : onlyA r = { r with matched := true, exits := r.exits ++ [.aloneA a], cacheA := as } := by
    rw [onlyA, hm, hB, hA]
    rfl
  rw [hr]
  rfl

theorem single_of_left_B {r : PairResult K} {b : RawPointCloud K} {bs : List (RawPointCloud K)}
    (hm : r.matched = false) (hA : r.cacheA = []) (hB : r.cacheB = b :: bs) :
    (onlyB (onlyA r)).exits = r.exits ++ [.aloneB b] := by
  have hr : onlyA r = r := by
    rw [onlyA, hm, hB]
    rfl
  rw [hr, onlyB, hm, hA, hB]
  rfl

theorem single_framesA (r : PairResult K) :
    (onlyB (onlyA r)).exits.filterMap Exit.frameA ++ (onlyB (onlyA r)).cacheA
      = r.exits.filterMap Exit.frameA ++ r.cacheA := by
  rcases single_cases r with h | ⟨a, as, -, -, hA, h⟩ | ⟨b, bs, -, -, -, h⟩ <;> rw [h]
  · rw [hA, List.filterMap_append, List.append_assoc]
    rfl
  · rw [List.filterMap_append]
    exact congrArg (· ++ r.cacheA) (List.append_nil _)

theorem single_framesB (r : PairResult K) :
    (onlyB (onlyA r)).exits.filterMap Exit.frameB ++ (onlyB (onlyA r)).cacheB
      = r.exits.filterMap Exit.frameB ++ r.cacheB := by
  rcases single_cases r with h | ⟨a, as, -, -, -, h⟩ | ⟨b, bs, -, -, hB, h⟩ <;> rw [h]
  · rw [List.filterMap_append]
    exact congrArg (· ++ r.cacheB) (List.append_nil _)
  · rw [hB, List.filterMap_append, List.append_assoc]
    rfl

/-! ## One iteration -/

section Iteration

variable (self : State K) (d : Delivery K)

/-- Behind a closed gate an iteration is its intake. -/
theorem moveFrames_of_closed (h : passesGate (intakeA self d).2 (intakeB self d).2 = false) :
    moveFrames self d
      = ((intakeA self d).1 ++ (intakeB self d).1, (intakeA self d).2, (intakeB self d).2) := by
  unfold moveFrames
  dsimp only
  rw [h]
  rfl

/-- Behind an open gate the pairing loop and one of the branches after it follow. -/
theorem moveFrames_of_open (h : passesGate (intakeA self d).2 (intakeB self d).2 = true) :
    moveFrames self d
      = ((intakeA self d).1 ++ (intakeB self d).1
          ++ (onlyB (onlyA (pairLoop (intakeA self d).2 (intakeB self d).2))).exits,
        (onlyB (onlyA (pairLoop (intakeA self d).2 (intakeB self d).2))).cacheA,
        (onlyB (onlyA (pairLoop (intakeA self d).2 (intakeB self d).2))).cacheB) := by
  unfold moveFrames
  dsimp only
  rw [h]
  rfl

/-- The frames of A that leave in an iteration, and those left, are those that were there. -/
theorem moveFrames_framesA :
    (moveFrames self d).1.filterMap Exit.frameA ++ (moveFrames self d).2.1
      = self.cacheA_ ++ d.dataA.toList := by
  have hB : (intakeB self d).1.filterMap Exit.frameA = [] := intakeB_other self d fun _ => rfl
  unfold moveFrames
  dsimp only
  split
  · rw [List.filterMap_append, List.filterMap_append, hB, List.append_nil, List.append_assoc,
      single_framesA, pairLoop_framesA, intakeA_frames]
  · rw [List.filterMap_append, hB, List.append_nil, intakeA_frames]

theorem moveFrames_framesB :
    (moveFrames self d).1.filterMap Exit.frameB ++ (moveFrames self d).2.2
      = self.cacheB_ ++ d.dataB.toList := by
  have hA : (intakeA self d).1.filterMap Exit.frameB = [] := intakeA_other self d fun _ => rfl
  unfold moveFrames
  dsimp only
  split
  · rw [List.filterMap_append, List.filterMap_append, hA, List.nil_append, List.append_assoc,
      single_framesB, pairLoop_framesB, intakeB_frames]
  · rw [List.filterMap_append, hA, List.nil_append, intakeB_frames]

/-- Both caches hold at most `MAX_CACHE_FRAME` frames. -/
def Bounded : Prop :=
  self.cacheA_.length ≤ maxCacheFrame ∧ self.cacheB_.length ≤ maxCacheFrame

/-- An account bounds what is left by what was there. -/
theorem length_le_of_account {before out rest : List (RawPointCloud K)} (h : out ++ rest = before) :
    rest.length ≤ before.length := by
  rw [← h, List.length_append]
  omega

variable {self} in
theorem Bounded.moveFrames (h : Bounded self) :
    (moveFrames self d).2.1.length ≤ maxCacheFrame ∧
    (moveFrames self d).2.2.length ≤ maxCacheFrame := by
  have hA : (intakeA self d).2.length ≤ maxCacheFrame := length_intake h.1 d.dataA
  have hB : (intakeB self d).2.length ≤ maxCacheFrame := length_intake h.2 d.dataB
  unfold PointCloudFuser.moveFrames
  dsimp only
  split
  · -- what the loop and the branches after it leave is no more than what they found
    have hA' := length_le_of_account ((single_framesA _).trans
      (pairLoop_framesA (intakeA self d).2 (intakeB self d).2))
    have hB' := length_le_of_account ((single_framesB _).trans
      (pairLoop_framesB (intakeA self d).2 (intakeB self d).2))
    exact ⟨hA'.trans hA, hB'.trans hB⟩
  · exact ⟨hA, hB⟩

end Iteration

/-! ## Runs -/

section Runs

variable [CommRing K] (self : State K) (ds : List (Delivery K))

/-- The object at the loop head after a run. -/
def runState : State K := Mealy.finalState fuseIteration self ds

/-- All exits of a run, in order. -/
def runExits : List (Exit K) := (Mealy.outputs fuseIteration self ds).flatMap Pass.exits

/-- All frames a run puts into `queueOut_`, in order. -/
def runQueued : List (FusedPointCloud K) :=
  (Mealy.outputs fuseIteration self ds).flatMap Pass.queued

/-- The frame of A that an exit sends, in a pair or alone. -/
def Exit.sentA : Exit K → Option (RawPointCloud K)
  | .fused a _ | .aloneA a => some a
  | _ => none

/-- The frame of B that an exit sends. -/
def Exit.sentB : Exit K → Option (RawPointCloud K)
  | .fused _ b | .aloneB b => some b
  | _ => none

/-- The account of A over a run. -/
theorem run_framesA :
    (runExits self ds).filterMap Exit.frameA ++ (runState self ds).cacheA_
      = self.cacheA_ ++ ds.filterMap Delivery.dataA := by
  have hrun := Mealy.run_conserves (f := fuseIteration) State.cacheA_
    (fun d => d.dataA.toList) (fun o => o.exits.filterMap Exit.frameA) moveFrames_framesA self ds
  rw [runExits, runState, List.filterMap_flatMap, List.filterMap_eq_flatMap_toList]
  exact hrun

theorem run_framesB :
    (runExits self ds).filterMap Exit.frameB ++ (runState self ds).cacheB_
      = self.cacheB_ ++ ds.filterMap Delivery.dataB := by
  have hrun := Mealy.run_conserves (f := fuseIteration) State.cacheB_
    (fun d => d.dataB.toList) (fun o => o.exits.filterMap Exit.frameB) moveFrames_framesB self ds
  rw [runExits, runState, List.filterMap_flatMap, List.filterMap_eq_flatMap_toList]
  exact hrun

variable {self} in
theorem run_bounded (h : Bounded self) : Bounded (runState self ds) :=
  Mealy.finalState_induction (fun _ d hs => hs.moveFrames d) h ds

/-- A sending loop puts its frame into the queue if `enqueue` succeeds after any number of
refusals during which `is_running_` was set. -/
theorem enqueueLoop_eq_true_iff (answers : List Attempt) :
    enqueueLoop answers = some true ↔ ∃ (retries : ℕ) (running : Bool) (rest : List Attempt),
      answers = List.replicate retries ⟨false, true⟩ ++ ⟨true, running⟩ :: rest := by
  constructor
  · intro h
    induction answers with
    | nil => cases h
    | cons attempt rest ih =>
      obtain ⟨enqueued, running⟩ := attempt
      cases enqueued with
      | true => exact ⟨0, running, rest, rfl⟩
      | false =>
        cases running with
        | false => cases h
        | true =>
          obtain ⟨retries, running, rest, rfl⟩ := ih h
          exact ⟨retries + 1, running, rest, rfl⟩
  · rintro ⟨retries, running, rest, rfl⟩
    induction retries with
    | zero => rfl
    | succ n ih => exact ih

omit [CommRing K] in
/-- If every sending loop ends with its frame in the queue, everything emitted is sent. -/
theorem sent_eq {answers : ℕ → List Attempt} (h : ∀ k, enqueueLoop (answers k) = some true)
    (frames : List (FusedPointCloud K)) : sent answers frames = frames := by
  unfold sent
  simp only [h, if_true]
  exact (congrFun (List.filterMap_eq_map (f := Prod.fst)) _).trans (List.zipIdx_map_fst 0 frames)

variable {self ds} in
/-- Then the queue receives what the exits emit, in the order of the exits. -/
theorem run_queued (h : ∀ d ∈ ds, ∀ k, enqueueLoop (d.answers k) = some true) :
    runQueued self ds = emitted self.T_B2A_ (runExits self ds) := by
  induction ds generalizing self with
  | nil => rfl
  | cons d ds ih =>
    have hd := sent_eq (h d List.mem_cons_self) (emitted self.T_B2A_ (moveFrames self d).1)
    have hrest : runQueued (fuseIteration self d).1 ds
        = emitted self.T_B2A_ (runExits (fuseIteration self d).1 ds) :=
      ih fun d' hd' => h d' (List.mem_cons_of_mem d hd')
    show sent d.answers (emitted self.T_B2A_ (moveFrames self d).1)
        ++ runQueued (fuseIteration self d).1 ds
      = emitted self.T_B2A_ ((moveFrames self d).1 ++ runExits (fuseIteration self d).1 ds)
    rw [hd, hrest, emitted, emitted, emitted, List.filterMap_append]

omit [CommRing K] in
/-- What is selected from the frames that leave keeps their order. -/
theorem filterMap_sublist {sel frame : Exit K → Option (RawPointCloud K)}
    (h : ∀ e x, sel e = some x → frame e = some x) (exits : List (Exit K)) :
    (exits.filterMap sel).Sublist (exits.filterMap frame) := by
  induction exits with
  | nil => exact List.nil_sublist _
  | cons e exits ih =>
    cases hsel : sel e with
    | none =>
      rw [List.filterMap_cons_none hsel, List.filterMap_cons]
      split
      · exact ih
      · exact ih.cons _
    | some x =>
      rw [List.filterMap_cons_some hsel, List.filterMap_cons_some (h e x hsel)]
      exact ih.cons_cons x

/-- **Conservation.** At every loop head of every run from empty caches, the frames that left
through the exits, followed by the cache, are the frames dequeued, in order, for both radars;
the caches hold at most 30 frames; the queue received exactly one frame for each pair and for
each frame sent alone, in the order of the exits, and the frames of a radar are used in the
order of their arrival; and whatever arrives next, if both caches then pass the gate, the
pairing loop empties one of them. -/
theorem fuseLoop_conserves (hA : self.cacheA_ = []) (hB : self.cacheB_ = [])
    (hans : ∀ d ∈ ds, ∀ k, enqueueLoop (d.answers k) = some true) :
    (runExits self ds).filterMap Exit.frameA ++ (runState self ds).cacheA_
      = ds.filterMap Delivery.dataA ∧
    (runExits self ds).filterMap Exit.frameB ++ (runState self ds).cacheB_
      = ds.filterMap Delivery.dataB ∧
    (runState self ds).cacheA_.length ≤ 30 ∧ (runState self ds).cacheB_.length ≤ 30 ∧
    runQueued self ds = (runExits self ds).filterMap (Exit.output self.T_B2A_) ∧
    ((runExits self ds).filterMap Exit.sentA).Sublist (ds.filterMap Delivery.dataA) ∧
    ((runExits self ds).filterMap Exit.sentB).Sublist (ds.filterMap Delivery.dataB) ∧
    (∀ d : Delivery K,
      passesGate (intakeA (runState self ds) d).2 (intakeB (runState self ds) d).2 = true →
      (pairLoop (intakeA (runState self ds) d).2 (intakeB (runState self ds) d).2).cacheA = [] ∨
      (pairLoop (intakeA (runState self ds) d).2 (intakeB (runState self ds) d).2).cacheB = []) := by
  have hframesA := run_framesA self ds
  have hframesB := run_framesB self ds
  rw [hA, List.nil_append] at hframesA
  rw [hB, List.nil_append] at hframesB
  have hbounded : Bounded self := by
    rw [Bounded, hA, hB]
    exact ⟨Nat.zero_le _, Nat.zero_le _⟩
  obtain ⟨hlenA, hlenB⟩ := run_bounded ds hbounded
  refine ⟨hframesA, hframesB, hlenA, hlenB, run_queued hans, ?_, ?_, fun d _ =>
    pairLoop_empty _ _⟩
  -- what is sent of A is part of what leaves, which is part of what arrived
  · rw [← hframesA]
    refine (filterMap_sublist (fun e x he => ?_) _).trans (List.sublist_append_left _ _)
    cases e <;> first | exact he | cases he
  · rw [← hframesB]
    refine (filterMap_sublist (fun e x he => ?_) _).trans (List.sublist_append_left _ _)
    cases e <;> first | exact he | cases he

/-- A fuser whose radars sit at one place, before the first frame. -/
def idleFuser : State ℚ := { debug_save := 0, T_B2A_ := 1, cacheA_ := [], cacheB_ := [] }

/-- A frame from each radar, and a queue that refuses every frame once. -/
def arrive (a b : Option (RawPointCloud ℚ)) : Delivery ℚ :=
  { dataA := a, dataB := b, answers := fun _ => [⟨false, true⟩, ⟨true, true⟩] }

/-- Three arrivals from both radars. -/
def threeArrivals : List (Delivery ℚ) :=
  [0, 1, 2].map fun t => arrive (some (frameAt "A" t)) (some (frameAt "B" t))

/-- The conditions are met by a run that opens the gate. -/
theorem fuseLoop_conserves_threeArrivals :
    (runExits idleFuser threeArrivals).filterMap Exit.frameA
        ++ (runState idleFuser threeArrivals).cacheA_
      = threeArrivals.filterMap Delivery.dataA ∧
    (runExits idleFuser threeArrivals).filterMap Exit.frameB
        ++ (runState idleFuser threeArrivals).cacheB_
      = threeArrivals.filterMap Delivery.dataB ∧
    (runState idleFuser threeArrivals).cacheA_.length ≤ 30 ∧
    (runState idleFuser threeArrivals).cacheB_.length ≤ 30 ∧
    runQueued idleFuser threeArrivals
      = (runExits idleFuser threeArrivals).filterMap (Exit.output idleFuser.T_B2A_) ∧
    ((runExits idleFuser threeArrivals).filterMap Exit.sentA).Sublist
      (threeArrivals.filterMap Delivery.dataA) ∧
    ((runExits idleFuser threeArrivals).filterMap Exit.sentB).Sublist
      (threeArrivals.filterMap Delivery.dataB) ∧
    (∀ d : Delivery ℚ,
      passesGate (intakeA (runState idleFuser threeArrivals) d).2
          (intakeB (runState idleFuser threeArrivals) d).2 = true →
      (pairLoop (intakeA (runState idleFuser threeArrivals) d).2
          (intakeB (runState idleFuser threeArrivals) d).2).cacheA = [] ∨
      (pairLoop (intakeA (runState idleFuser threeArrivals) d).2
          (intakeB (runState idleFuser threeArrivals) d).2).cacheB = []) :=
  fuseLoop_conserves idleFuser threeArrivals rfl rfl fun d hd k => by
    obtain ⟨t, -, rfl⟩ := List.mem_map.mp hd
    rfl

end Runs

end PointCloudFuser
end ShipMotion
