import ShipMotion.PointCloudFuser.RunTheorems

/-!
# The order of the output

A fused frame carries the later of its two timestamps, so it is not earlier than any frame
that left before it. A frame of A that goes out alone is compared with the frames of B
otherwise: nothing was paired, so all frames of B were dropped against frames of A, and the
frame left in front is not earlier than any of them; and the gate guarantees that there were
some, so it is not earlier than any frame of B that arrived at all.
-/

namespace ShipMotion
namespace PointCloudFuser

open Utils

variable {K : Type} {cacheA cacheB : List (RawPointCloud K)}

/-! ## Pairing nothing -/

theorem SortedByTime.of_append_left {l₁ l₂ : List (RawPointCloud K)}
    (h : SortedByTime (l₁ ++ l₂)) : SortedByTime l₁ :=
  (List.pairwise_append.mp h).1

theorem SortedByTime.of_append_right {l₁ l₂ : List (RawPointCloud K)}
    (h : SortedByTime (l₁ ++ l₂)) : SortedByTime l₂ :=
  (List.pairwise_append.mp h).2.1

theorem SortedByTime.le_of_append {l₁ l₂ : List (RawPointCloud K)} (h : SortedByTime (l₁ ++ l₂))
    {x y : RawPointCloud K} (hx : x ∈ l₁) (hy : y ∈ l₂) : x.timestamp ≤ y.timestamp :=
  (List.pairwise_append.mp h).2.2 x hx y hy

/-- A frame left in a cache was in it. -/
theorem mem_of_left_A {x : RawPointCloud K} (h : x ∈ (pairLoop cacheA cacheB).cacheA) :
    x ∈ cacheA := by
  rw [← pairLoop_framesA cacheA cacheB]
  exact List.mem_append_right _ h

theorem mem_of_left_B {x : RawPointCloud K} (h : x ∈ (pairLoop cacheA cacheB).cacheB) :
    x ∈ cacheB := by
  rw [← pairLoop_framesB cacheA cacheB]
  exact List.mem_append_right _ h

/-- If nothing is paired, the frames of A that are left are not earlier than any frame of B. -/
theorem le_of_left_A (hA : SortedByTime cacheA)
    (hmatched : (pairLoop cacheA cacheB).matched = false) {a b : RawPointCloud K}
    (ha : a ∈ (pairLoop cacheA cacheB).cacheA) (hb : b ∈ cacheB) :
    b.timestamp ≤ a.timestamp := by
  induction cacheA, cacheB using pairLoop_induction with
  | nilA cacheB =>
    rw [pairLoop_nil_left] at ha
    exact absurd ha List.not_mem_nil
  | nilB cacheA => exact absurd hb List.not_mem_nil
  | fused a' as b' bs h ih =>
    -- a pair would have been reported
    rw [pairLoop_fused h] at hmatched
    exact absurd hmatched Bool.noConfusion
  | mismatchA a' as b' bs h hlt ih =>
    rw [pairLoop_mismatchA h hlt] at hmatched ha
    exact ih hA.of_cons hmatched ha hb
  | mismatchB a' as b' bs h hlt ih =>
    rw [pairLoop_mismatchB h hlt] at hmatched ha
    rcases List.mem_cons.mp hb with rfl | hb
    · -- dropped against `a'`, and `a` is `a'` or later
      have hba' : b.timestamp ≤ a'.timestamp := UInt64.not_lt.mp hlt
      rcases List.mem_cons.mp (mem_of_left_A ha) with rfl | hmem
      · exact hba'
      · exact UInt64.le_trans hba' ((List.pairwise_cons.mp hA).1 a hmem)
    · exact ih hA hmatched ha hb

/-- If nothing is paired, the frames of B that are left are later than every frame of A. -/
theorem lt_of_left_B (hB : SortedByTime cacheB)
    (hmatched : (pairLoop cacheA cacheB).matched = false) {a b : RawPointCloud K}
    (hb : b ∈ (pairLoop cacheA cacheB).cacheB) (ha : a ∈ cacheA) :
    a.timestamp < b.timestamp := by
  induction cacheA, cacheB using pairLoop_induction with
  | nilA cacheB => exact absurd ha List.not_mem_nil
  | nilB cacheA =>
    rw [pairLoop_nil_right] at hb
    exact absurd hb List.not_mem_nil
  | fused a' as b' bs h ih =>
    rw [pairLoop_fused h] at hmatched
    exact absurd hmatched Bool.noConfusion
  | mismatchA a' as b' bs h hlt ih =>
    rw [pairLoop_mismatchA h hlt] at hmatched hb
    rcases List.mem_cons.mp ha with rfl | ha
    · -- dropped against `b'`, and `b` is `b'` or later
      rcases List.mem_cons.mp (mem_of_left_B hb) with rfl | hmem
      · exact hlt
      · exact UInt64.lt_of_lt_of_le hlt ((List.pairwise_cons.mp hB).1 b hmem)
    · exact ih hB hmatched hb ha
  | mismatchB a' as b' bs h hlt ih =>
    rw [pairLoop_mismatchB h hlt] at hmatched hb
    exact ih hB.of_cons hmatched hb ha

/-! ## Frames that go out alone -/

/-- The frame of A that goes out alone. -/
def Exit.loneA : Exit K → Option (RawPointCloud K)
  | .aloneA a => some a
  | _ => none

/-- The frame of B that goes out alone. -/
def Exit.loneB : Exit K → Option (RawPointCloud K)
  | .aloneB b => some b
  | _ => none

variable {self : State K} {d : Delivery K}

/-- What sees only the frames that go out alone sees an iteration only behind the gate, when
nothing was paired, and then a frame that the pairing loop left. -/
theorem of_mem_lone {sel : Exit K → Option (RawPointCloud K)} {x : RawPointCloud K}
    (hoverflowA : ∀ a, sel (.overflowA a) = none) (hoverflowB : ∀ b, sel (.overflowB b) = none)
    (hfused : ∀ a b, sel (.fused a b) = none) (hmismatchA : ∀ a, sel (.mismatchA a) = none)
    (hmismatchB : ∀ b, sel (.mismatchB b) = none) (h : x ∈ (moveFrames self d).1.filterMap sel) :
    passesGate (intakeA self d).2 (intakeB self d).2 = true ∧
    (pairLoop (intakeA self d).2 (intakeB self d).2).matched = false ∧
    ((∃ a ∈ (pairLoop (intakeA self d).2 (intakeB self d).2).cacheA, sel (.aloneA a) = some x) ∨
     (∃ b ∈ (pairLoop (intakeA self d).2 (intakeB self d).2).cacheB, sel (.aloneB b) = some x)) := by
  have hintake : (intakeA self d).1.filterMap sel ++ (intakeB self d).1.filterMap sel = [] := by
    rw [intakeA_other self d hoverflowA, intakeB_other self d hoverflowB]
    rfl
  have hloop : (pairLoop (intakeA self d).2 (intakeB self d).2).exits.filterMap sel = [] :=
    pairLoop_other hfused hmismatchA hmismatchB _ _
  unfold moveFrames at h
  dsimp only at h
  split at h
  · rename_i hgate
    rw [List.filterMap_append, List.filterMap_append, hintake, List.nil_append] at h
    -- of the three ways the iteration can end, two send a frame alone
    rcases single_cases (pairLoop (intakeA self d).2 (intakeB self d).2) with
      hr | ⟨a, as, hm, -, hleft, hr⟩ | ⟨b, bs, hm, -, hleft, hr⟩ <;> rw [hr] at h
    · rw [hloop] at h
      exact absurd h List.not_mem_nil
    · rw [List.filterMap_append, hloop, List.nil_append] at h
      obtain ⟨e, he, hsel⟩ := List.mem_filterMap.mp h
      rw [List.mem_singleton.mp he] at hsel
      rw [hleft]
      exact ⟨hgate, hm, .inl ⟨a, List.mem_cons_self, hsel⟩⟩
    · rw [List.filterMap_append, hloop, List.nil_append] at h
      obtain ⟨e, he, hsel⟩ := List.mem_filterMap.mp h
      rw [List.mem_singleton.mp he] at hsel
      rw [hleft]
      exact ⟨hgate, hm, .inr ⟨b, List.mem_cons_self, hsel⟩⟩
  · rw [List.filterMap_append, hintake] at h
    exact absurd h List.not_mem_nil

/-- A frame of A goes out alone only behind the gate, when nothing was paired, and from what
the pairing loop left. -/
theorem of_mem_loneA {a : RawPointCloud K}
    (h : a ∈ (moveFrames self d).1.filterMap Exit.loneA) :
    passesGate (intakeA self d).2 (intakeB self d).2 = true ∧
    (pairLoop (intakeA self d).2 (intakeB self d).2).matched = false ∧
    a ∈ (pairLoop (intakeA self d).2 (intakeB self d).2).cacheA := by
  obtain ⟨hgate, hmatched, ⟨a', ha', hsel⟩ | ⟨b', -, hsel⟩⟩ := of_mem_lone (fun _ => rfl)
    (fun _ => rfl) (fun _ _ => rfl) (fun _ => rfl) (fun _ => rfl) h
  · cases hsel
    exact ⟨hgate, hmatched, ha'⟩
  · cases hsel

theorem of_mem_loneB {b : RawPointCloud K}
    (h : b ∈ (moveFrames self d).1.filterMap Exit.loneB) :
    passesGate (intakeA self d).2 (intakeB self d).2 = true ∧
    (pairLoop (intakeA self d).2 (intakeB self d).2).matched = false ∧
    b ∈ (pairLoop (intakeA self d).2 (intakeB self d).2).cacheB := by
  obtain ⟨hgate, hmatched, ⟨a', -, hsel⟩ | ⟨b', hb', hsel⟩⟩ := of_mem_lone (fun _ => rfl)
    (fun _ => rfl) (fun _ _ => rfl) (fun _ => rfl) (fun _ => rfl) h
  · cases hsel
  · cases hsel
    exact ⟨hgate, hmatched, hb'⟩

/-- Behind the gate both caches hold a frame. -/
theorem ne_nil_of_passesGate (h : passesGate cacheA cacheB = true) :
    cacheA ≠ [] ∧ cacheB ≠ [] := by
  constructor
  · rintro rfl
    cases h
  · rintro rfl
    rw [passesGate, Bool.not_eq_true', Bool.or_eq_false_iff] at h
    cases h.2

/-- A bound on the last frames of a sorted list bounds all of it. -/
theorem le_of_suffix {l out rest : List (RawPointCloud K)} {t : UInt64} (hl : SortedByTime l)
    (haccount : out ++ rest = l) (hne : rest ≠ []) (hrest : ∀ x ∈ rest, x.timestamp ≤ t) :
    ∀ x ∈ l, x.timestamp ≤ t := by
  intro x hx
  rw [← haccount] at hl hx
  obtain ⟨y, rest', rfl⟩ := List.exists_cons_of_ne_nil hne
  rcases List.mem_append.mp hx with hx | hx
  · exact UInt64.le_trans (hl.le_of_append hx List.mem_cons_self)
      (hrest y List.mem_cons_self)
  · exact hrest x hx

/-- A frame of A that goes out alone is not earlier than any frame of B that arrived. -/
theorem le_of_mem_loneA {arrived : List (RawPointCloud K)} {a : RawPointCloud K}
    (hA : SortedByTime (self.cacheA_ ++ d.dataA.toList))
    (hB : SortedByTime (arrived ++ (self.cacheB_ ++ d.dataB.toList)))
    (ha : a ∈ (moveFrames self d).1.filterMap Exit.loneA) :
    ∀ b ∈ arrived ++ (self.cacheB_ ++ d.dataB.toList), b.timestamp ≤ a.timestamp := by
  obtain ⟨hgate, hmatched, hleft⟩ := of_mem_loneA ha
  have hsorted : SortedByTime (intakeA self d).2 := by
    rw [← intakeA_frames] at hA
    exact hA.of_append_right
  have hall : arrived ++ (intakeB self d).1.filterMap Exit.frameB ++ (intakeB self d).2
      = arrived ++ (self.cacheB_ ++ d.dataB.toList) := by
    rw [List.append_assoc, intakeB_frames]
  exact le_of_suffix hB hall (ne_nil_of_passesGate hgate).2 fun b hb =>
    le_of_left_A hsorted hmatched hleft hb

theorem le_of_mem_loneB {arrived : List (RawPointCloud K)} {b : RawPointCloud K}
    (hA : SortedByTime (arrived ++ (self.cacheA_ ++ d.dataA.toList)))
    (hB : SortedByTime (self.cacheB_ ++ d.dataB.toList))
    (hb : b ∈ (moveFrames self d).1.filterMap Exit.loneB) :
    ∀ a ∈ arrived ++ (self.cacheA_ ++ d.dataA.toList), a.timestamp ≤ b.timestamp := by
  obtain ⟨hgate, hmatched, hleft⟩ := of_mem_loneB hb
  have hsorted : SortedByTime (intakeB self d).2 := by
    rw [← intakeB_frames] at hB
    exact hB.of_append_right
  have hall : arrived ++ (intakeA self d).1.filterMap Exit.frameA ++ (intakeA self d).2
      = arrived ++ (self.cacheA_ ++ d.dataA.toList) := by
    rw [List.append_assoc, intakeA_frames]
  exact le_of_suffix hA hall (ne_nil_of_passesGate hgate).1 fun a ha =>
    UInt64.le_of_lt (lt_of_left_B hsorted hmatched hleft ha)

/-! ## The order of exits -/

/-- A frame that goes out alone through `e'` is not earlier than the other radar's frame that
left through `e`. -/
def Covers (e e' : Exit K) : Prop :=
  (∀ a, e'.loneA = some a → ∀ b, e.frameB = some b → b.timestamp ≤ a.timestamp) ∧
  (∀ b, e'.loneB = some b → ∀ a, e.frameA = some a → a.timestamp ≤ b.timestamp)

/-- One iteration: its frames that go out alone cover everything that left before. -/
theorem covers_moveFrames {past : List (Exit K)}
    (hA : SortedByTime (past.filterMap Exit.frameA ++ (self.cacheA_ ++ d.dataA.toList)))
    (hB : SortedByTime (past.filterMap Exit.frameB ++ (self.cacheB_ ++ d.dataB.toList)))
    (hpast : past.Pairwise Covers) : (past ++ (moveFrames self d).1).Pairwise Covers := by
  have hcovers : ∀ e ∈ past ++ (moveFrames self d).1, ∀ e' ∈ (moveFrames self d).1,
      Covers e e' := by
    intro e he e' he'
    constructor
    · intro a ha b hb
      have hmem : b ∈ (past ++ (moveFrames self d).1).filterMap Exit.frameB :=
        List.mem_filterMap.mpr ⟨e, he, hb⟩
      -- `b` left before or in this iteration, so it is in the account of B
      refine le_of_mem_loneA hA.of_append_right hB (List.mem_filterMap.mpr ⟨e', he', ha⟩) b ?_
      rw [← moveFrames_framesB self d, ← List.append_assoc, ← List.filterMap_append]
      exact List.mem_append_left _ hmem
    · intro b hb a ha
      have hmem : a ∈ (past ++ (moveFrames self d).1).filterMap Exit.frameA :=
        List.mem_filterMap.mpr ⟨e, he, ha⟩
      refine le_of_mem_loneB hA hB.of_append_right (List.mem_filterMap.mpr ⟨e', he', hb⟩) a ?_
      rw [← moveFrames_framesA self d, ← List.append_assoc, ← List.filterMap_append]
      exact List.mem_append_left _ hmem
  refine List.pairwise_append.mpr ⟨hpast, ?_, ?_⟩
  · exact List.pairwise_of_forall_mem_list fun e he e' he' =>
      hcovers e (List.mem_append_right _ he) e' he'
  · intro e he e' he'
    exact hcovers e (List.mem_append_left _ he) e' he'

/-! ## Runs -/

section Runs

theorem filterMap_cons_toList {α β : Type} (f : α → Option β) (x : α) (xs : List α) :
    (x :: xs).filterMap f = (f x).toList ++ xs.filterMap f := by
  rw [List.filterMap_cons]
  cases f x <;> rfl

variable [CommRing K]

/-- A run: what goes out alone covers everything that left before. -/
theorem covers_run {past : List (Exit K)} {self : State K} {ds : List (Delivery K)}
    (hA : SortedByTime
      (past.filterMap Exit.frameA ++ (self.cacheA_ ++ ds.filterMap Delivery.dataA)))
    (hB : SortedByTime
      (past.filterMap Exit.frameB ++ (self.cacheB_ ++ ds.filterMap Delivery.dataB)))
    (hpast : past.Pairwise Covers) : (past ++ runExits self ds).Pairwise Covers := by
  induction ds generalizing past self with
  | nil =>
    show (past ++ []).Pairwise Covers
    rwa [List.append_nil]
  | cons d ds ih =>
    have hA' : past.filterMap Exit.frameA ++ (self.cacheA_ ++ (d :: ds).filterMap Delivery.dataA)
        = past.filterMap Exit.frameA ++ (self.cacheA_ ++ d.dataA.toList)
          ++ ds.filterMap Delivery.dataA := by
      rw [filterMap_cons_toList, List.append_assoc, List.append_assoc]
    have hB' : past.filterMap Exit.frameB ++ (self.cacheB_ ++ (d :: ds).filterMap Delivery.dataB)
        = past.filterMap Exit.frameB ++ (self.cacheB_ ++ d.dataB.toList)
          ++ ds.filterMap Delivery.dataB := by
      rw [filterMap_cons_toList, List.append_assoc, List.append_assoc]
    rw [hA'] at hA
    rw [hB'] at hB
    have hstep := covers_moveFrames hA.of_append_left hB.of_append_left hpast
    -- the exits of this iteration join the past, and the caches it leaves continue the streams
    rw [← moveFrames_framesA self d, ← List.append_assoc, ← List.filterMap_append,
      List.append_assoc] at hA
    rw [← moveFrames_framesB self d, ← List.append_assoc, ← List.filterMap_append,
      List.append_assoc] at hB
    have hrest : (past ++ (moveFrames self d).1
        ++ runExits (fuseIteration self d).1 ds).Pairwise Covers := ih hA hB hstep
    rwa [List.append_assoc] at hrest

omit [CommRing K] in
theorem le_maxTimestamp_left (a b : UInt64) : a ≤ maxTimestamp a b := by
  unfold maxTimestamp
  split
  · rename_i h
    exact UInt64.le_of_lt h
  · exact UInt64.le_refl a

omit [CommRing K] in
theorem le_maxTimestamp_right (a b : UInt64) : b ≤ maxTimestamp a b := by
  unfold maxTimestamp
  split
  · exact UInt64.le_refl b
  · rename_i h
    exact UInt64.not_lt.mp h

omit [CommRing K] in
theorem maxTimestamp_le {a b t : UInt64} (ha : a ≤ t) (hb : b ≤ t) : maxTimestamp a b ≤ t := by
  unfold maxTimestamp
  split
  · exact hb
  · exact ha

variable {T : Eigen.Affine3 K} {e e' : Exit K} {o o' : FusedPointCloud K}

/-- An output is no later than what bounds the frames it is made of. -/
theorem output_timestamp_le {t : UInt64} (ho : Exit.output T e = some o)
    (hA : ∀ a, e.frameA = some a → a.timestamp ≤ t)
    (hB : ∀ b, e.frameB = some b → b.timestamp ≤ t) : o.timestamp ≤ t := by
  cases e with
  | fused a b =>
    cases ho
    exact maxTimestamp_le (hA a rfl) (hB b rfl)
  | aloneA a =>
    cases ho
    exact hA a rfl
  | aloneB b =>
    cases ho
    exact hB b rfl
  | overflowA _ | overflowB _ | mismatchA _ | mismatchB _ => cases ho

/-- An output is no earlier than the frames that left before it, if each radar's frames leave
in order and the frames that go out alone cover the other radar's. -/
theorem le_output_timestamp (ho' : Exit.output T e' = some o')
    (hA : ∀ a, e.frameA = some a → ∀ a', e'.frameA = some a' → a.timestamp ≤ a'.timestamp)
    (hB : ∀ b, e.frameB = some b → ∀ b', e'.frameB = some b' → b.timestamp ≤ b'.timestamp)
    (hcovers : Covers e e') :
    (∀ a, e.frameA = some a → a.timestamp ≤ o'.timestamp) ∧
    (∀ b, e.frameB = some b → b.timestamp ≤ o'.timestamp) := by
  cases e' with
  | fused a' b' =>
    cases ho'
    exact ⟨fun a ha => UInt64.le_trans (hA a ha a' rfl) (le_maxTimestamp_left _ _),
      fun b hb => UInt64.le_trans (hB b hb b' rfl) (le_maxTimestamp_right _ _)⟩
  | aloneA a' =>
    cases ho'
    exact ⟨fun a ha => hA a ha a' rfl, hcovers.1 a' rfl⟩
  | aloneB b' =>
    cases ho'
    exact ⟨hcovers.2 b' rfl, fun b hb => hB b hb b' rfl⟩
  | overflowA _ | overflowB _ | mismatchA _ | mismatchB _ => cases ho'

/-- **Output order.** For all sorted streams of both radars and every arrival pattern, the
frames a run emits are sorted by time. -/
theorem emitted_sorted (self : State K) (ds : List (Delivery K)) (hA : self.cacheA_ = [])
    (hB : self.cacheB_ = []) (hsortedA : SortedByTime (ds.filterMap Delivery.dataA))
    (hsortedB : SortedByTime (ds.filterMap Delivery.dataB)) :
    ((emitted self.T_B2A_ (runExits self ds)).map FusedPointCloud.timestamp).Pairwise
      (· ≤ ·) := by
  have hframesA := run_framesA self ds
  have hframesB := run_framesB self ds
  rw [hA, List.nil_append] at hframesA
  rw [hB, List.nil_append] at hframesB
  -- the run starts with nothing past and empty caches
  have hcovers : (runExits self ds).Pairwise Covers := by
    refine covers_run ?_ ?_ List.Pairwise.nil
    · rwa [hA]
    · rwa [hB]
  rw [← hframesA] at hsortedA
  rw [← hframesB] at hsortedB
  have hordA := List.pairwise_filterMap.mp hsortedA.of_append_left
  have hordB := List.pairwise_filterMap.mp hsortedB.of_append_left
  rw [List.pairwise_map, emitted, List.pairwise_filterMap]
  refine ((hordA.and hordB).and hcovers).imp fun {e e'} h o ho o' ho' => ?_
  have hle := le_output_timestamp ho' h.1.1 h.1.2 h.2
  exact output_timestamp_le ho hle.1 hle.2

/-- The streams of three arrivals are sorted. -/
theorem emitted_sorted_threeArrivals :
    ((emitted idleFuser.T_B2A_ (runExits idleFuser threeArrivals)).map
      FusedPointCloud.timestamp).Pairwise (· ≤ ·) :=
  emitted_sorted idleFuser threeArrivals rfl rfl (by decide) (by decide)

end Runs
end PointCloudFuser
end ShipMotion
