import ShipMotion.MotionPipeline
import ShipMotion.PointCloudFuser.OrderTheorems
import ShipMotion.SixDofCalculatorTheorems

/-!
# When registration stays in one coordinate frame

An iteration emits frames of one radar's coordinates only: pairs are in those of A, and without
a pair a single frame goes out, of B if all frames of A were too early and of A otherwise. The
base keeps the coordinates of the frame that last replaced it. So the frames of an iteration
are registered in one coordinate frame exactly when the first of them replaces the base, or
the base is of the radar the iteration emits for.
-/

namespace ShipMotion
namespace MotionPipeline

open Utils PointCloudFuser SixDofCalculator

variable {K : Type}

/-! ## The radar an iteration emits for -/

/-- A stream of one radar: sorted by time, labelled, and without empty clouds. -/
structure IsStream (lidar_id : String) (frames : List (RawPointCloud K)) : Prop where
  sorted : SortedByTime frames
  labelled : ∀ f ∈ frames, f.lidar_id = lidar_id
  filled : ∀ f ∈ frames, f.cloud ≠ []

theorem IsStream.sublist {lidar_id : String} {frames frames' : List (RawPointCloud K)}
    (h : IsStream lidar_id frames) (hsub : frames'.Sublist frames) : IsStream lidar_id frames' :=
  ⟨h.sorted.sublist hsub, fun f hf => h.labelled f (hsub.subset hf),
    fun f hf => h.filled f (hsub.subset hf)⟩

/-- The iteration will send a single frame of B: no two frames of the caches are less than
500 ns apart, and some frame of B is later than every frame of A. -/
def SingleBDue (cacheA cacheB : List (RawPointCloud K)) : Prop :=
  (∀ a ∈ cacheA, ∀ b ∈ cacheB, ¬ diffNs a b < matchNs) ∧
    ∃ b ∈ cacheB, ∀ a ∈ cacheA, a.timestamp < b.timestamp

instance (cacheA cacheB : List (RawPointCloud K)) : Decidable (SingleBDue cacheA cacheB) :=
  inferInstanceAs (Decidable (_ ∧ _))

variable {cacheA cacheB : List (RawPointCloud K)}

/-- Two frames close enough to be paired make the loop pair some. -/
theorem matched_of_near (hA : SortedByTime cacheA) (hB : SortedByTime cacheB)
    {a b : RawPointCloud K} (ha : a ∈ cacheA) (hb : b ∈ cacheB) (hnear : diffNs a b < matchNs) :
    (pairLoop cacheA cacheB).matched = true := by
  have hM : IsMatching stamp stamp 500 {(a, b)} (cacheA : Multiset (RawPointCloud K)) cacheB := by
    refine ⟨?_, ?_, fun p hp => ?_⟩
    · rw [Multiset.map_singleton, Multiset.singleton_le]
      exact ha
    · rw [Multiset.map_singleton, Multiset.singleton_le]
      exact hb
    · rw [Multiset.mem_singleton.mp hp]
      exact (diffNs_lt_iff a b).mp hnear
  have hlen := card_le_length_greedy hA.stamps hB.stamps hM
  rw [Multiset.card_singleton, ← fusedPairs_pairLoop] at hlen
  rw [matched_iff]
  exact List.ne_nil_of_length_pos hlen

/-- Pairing nothing, the loop does not empty both caches. -/
theorem left_of_not_matched (hA : cacheA ≠ []) (hB : cacheB ≠ [])
    (h : (pairLoop cacheA cacheB).matched = false) :
    (pairLoop cacheA cacheB).cacheA ≠ [] ∨ (pairLoop cacheA cacheB).cacheB ≠ [] := by
  induction cacheA, cacheB using pairLoop_induction with
  | nilA cacheB => exact absurd rfl hA
  | nilB cacheA => exact absurd rfl hB
  | fused a as b bs hnear ih =>
    rw [pairLoop_fused hnear] at h
    exact absurd h Bool.noConfusion
  | mismatchA a as b bs hfar hlt ih =>
    rw [pairLoop_mismatchA hfar hlt] at h ⊢
    by_cases has : as = []
    · right
      rw [has, pairLoop_nil_left]
      exact List.cons_ne_nil b bs
    · exact ih has (List.cons_ne_nil b bs) h
  | mismatchB a as b bs hfar hlt ih =>
    rw [pairLoop_mismatchB hfar hlt] at h ⊢
    by_cases hbs : bs = []
    · left
      rw [hbs, pairLoop_nil_right]
      exact List.cons_ne_nil a as
    · exact ih (List.cons_ne_nil a as) hbs h

theorem singleBDue_iff (hA : SortedByTime cacheA) (hB : SortedByTime cacheB)
    (hneA : cacheA ≠ []) (hneB : cacheB ≠ []) :
    SingleBDue cacheA cacheB ↔
      (pairLoop cacheA cacheB).matched = false ∧ (pairLoop cacheA cacheB).cacheB ≠ [] := by
  constructor
  · rintro ⟨hfar, b, hb, hlate⟩
    have hmatched : (pairLoop cacheA cacheB).matched = false := by
      rw [← Bool.not_eq_true, matched_iff, not_not, fusedPairs_pairLoop,
        List.eq_nil_iff_forall_not_mem]
      intro p hp
      have hpA := (greedy_fst_sublist cacheA cacheB).subset (List.mem_map_of_mem hp)
      have hpB := (greedy_snd_sublist cacheA cacheB).subset (List.mem_map_of_mem hp)
      exact hfar p.1 hpA p.2 hpB ((diffNs_lt_iff _ _).mpr (near_of_mem_greedy p hp))
    refine ⟨hmatched, fun hnil => ?_⟩
    -- a frame of A that is left would be as late as `b`
    rcases left_of_not_matched hneA hneB hmatched with hleft | hleft
    · obtain ⟨a, ha⟩ := List.exists_mem_of_ne_nil _ hleft
      have hle := le_of_left_A hA hmatched ha hb
      exact absurd (hlate a (mem_of_left_A ha)) (UInt64.not_lt.mpr hle)
    · exact hleft hnil
  · rintro ⟨hmatched, hleft⟩
    obtain ⟨b, hb⟩ := List.exists_mem_of_ne_nil _ hleft
    refine ⟨fun a ha b' hb' hnear => ?_, b, mem_of_left_B hb, fun a ha =>
      lt_of_left_B hB hmatched hb ha⟩
    rw [matched_of_near hA hB ha hb' hnear] at hmatched
    cases hmatched

/-- The radar in whose coordinates an iteration emits. -/
def side (cacheA cacheB : List (RawPointCloud K)) : String :=
  if SingleBDue cacheA cacheB then "B" else "A"

/-- Being of the side, for a base of one of the radars. -/
theorem eq_side_iff {id : String} (h : id = "A" ∨ id = "B") :
    id = side cacheA cacheB ↔ (id = "B" ↔ SingleBDue cacheA cacheB) := by
  unfold side
  rcases h with rfl | rfl
  · split
    · rename_i hdue
      exact iff_of_false (by decide) fun h => absurd (h.mpr hdue) (by decide)
    · rename_i hdue
      exact iff_of_true rfl (iff_of_false (by decide) hdue)
  · split
    · rename_i hdue
      exact iff_of_true rfl (iff_of_true rfl hdue)
    · rename_i hdue
      exact iff_of_false (by decide) fun h => absurd (h.mp rfl) hdue

section Emitted

variable [CommRing K] {T : Eigen.Affine3 K}

/-- The pairing loop emits the fusions of its pairs. -/
theorem emitted_pairLoop (cacheA cacheB : List (RawPointCloud K)) :
    emitted T (pairLoop cacheA cacheB).exits
      = (fusedPairs (pairLoop cacheA cacheB).exits).map fun p => fuse T p.1 p.2 := by
  induction cacheA, cacheB using pairLoop_induction with
  | nilA cacheB => rw [pairLoop_nil_left]; rfl
  | nilB cacheA => rw [pairLoop_nil_right]; rfl
  | fused a as b bs h ih => rw [pairLoop_fused h]; exact congrArg (fuse T a b :: ·) ih
  | mismatchA a as b bs h hlt ih => rw [pairLoop_mismatchA h hlt]; exact ih
  | mismatchB a as b bs h hlt ih => rw [pairLoop_mismatchB h hlt]; exact ih

/-- A fused frame is labelled like the frame of A, and is not empty. -/
theorem fuse_spec {a b : RawPointCloud K} (ha : a.cloud ≠ []) :
    (fuse T a b).lidar_id = a.lidar_id ∧ (fuse T a b).cloud ≠ [] :=
  ⟨rfl, List.append_ne_nil_of_left_ne_nil ha _⟩

/-- With a pair, the iteration emits the pairs, in the coordinates of A. -/
theorem emitted_of_matched (hA : IsStream "A" cacheA)
    (hmatched : (pairLoop cacheA cacheB).matched = true) :
    emitted T (onlyB (onlyA (pairLoop cacheA cacheB))).exits ≠ [] ∧
    ∀ f ∈ emitted T (onlyB (onlyA (pairLoop cacheA cacheB))).exits,
      f.lidar_id = "A" ∧ f.cloud ≠ [] := by
  rw [single_of_matched hmatched, emitted_pairLoop]
  refine ⟨fun hnil => (matched_iff _ _).mp hmatched (List.map_eq_nil_iff.mp hnil), ?_⟩
  intro f hf
  obtain ⟨p, hp, rfl⟩ := List.mem_map.mp hf
  rw [fusedPairs_pairLoop] at hp
  have hpA : p.1 ∈ cacheA := (greedy_fst_sublist cacheA cacheB).subset (List.mem_map_of_mem hp)
  rw [← hA.labelled p.1 hpA]
  exact fuse_spec (hA.filled p.1 hpA)

/-- Without a pair, it emits one frame of a radar whose frames are left. -/
theorem emitted_of_not_matched (hA : IsStream "A" cacheA) (hB : IsStream "B" cacheB)
    (hneA : cacheA ≠ []) (hneB : cacheB ≠ []) (hm : (pairLoop cacheA cacheB).matched = false) :
    ∃ f, emitted T (onlyB (onlyA (pairLoop cacheA cacheB))).exits = [f] ∧
      f.lidar_id = (if (pairLoop cacheA cacheB).cacheB ≠ [] then "B" else "A") ∧
      f.cloud ≠ [] := by
  have hnone : emitted T (pairLoop cacheA cacheB).exits = [] := by
    have hpairs := mt (matched_iff cacheA cacheB).mpr (Bool.eq_false_iff.mp hm)
    rw [emitted_pairLoop, not_not.mp hpairs]
    rfl
  -- one cache is empty and not both: the first frame of the other goes out
  by_cases hleft : (pairLoop cacheA cacheB).cacheB = []
  · have hleftA := (left_of_not_matched hneA hneB hm).resolve_right (not_not.mpr hleft)
    obtain ⟨a, as, ha⟩ := List.exists_cons_of_ne_nil hleftA
    have hmem : a ∈ cacheA := mem_of_left_A (by rw [ha]; exact List.mem_cons_self)
    refine ⟨single a, ?_, ?_, hA.filled a hmem⟩
    · rw [single_of_left_A hm hleft ha, emitted, List.filterMap_append]
      exact congrArg (· ++ [single a]) hnone
    · rw [if_neg (not_not.mpr hleft)]
      exact hA.labelled a hmem
  · have hleftA := (pairLoop_empty cacheA cacheB).resolve_right hleft
    obtain ⟨b, bs, hb⟩ := List.exists_cons_of_ne_nil hleft
    have hmem : b ∈ cacheB := mem_of_left_B (by rw [hb]; exact List.mem_cons_self)
    refine ⟨single b, ?_, ?_, hB.filled b hmem⟩
    · rw [single_of_left_B hm hleftA hb, emitted, List.filterMap_append]
      exact congrArg (· ++ [single b]) hnone
    · rw [if_pos hleft]
      exact hB.labelled b hmem

/-- The pairing loop and the branches after it emit something, all of it in the coordinates of
the side. -/
theorem emitted_single (hA : IsStream "A" cacheA) (hB : IsStream "B" cacheB)
    (hneA : cacheA ≠ []) (hneB : cacheB ≠ []) :
    emitted T (onlyB (onlyA (pairLoop cacheA cacheB))).exits ≠ [] ∧
    ∀ f ∈ emitted T (onlyB (onlyA (pairLoop cacheA cacheB))).exits,
      f.lidar_id = side cacheA cacheB ∧ f.cloud ≠ [] := by
  have hside := singleBDue_iff hA.sorted hB.sorted hneA hneB
  by_cases hm : (pairLoop cacheA cacheB).matched = true
  · -- pairs are in the coordinates of A, and no single frame is due
    have hnot : ¬ SingleBDue cacheA cacheB := by
      rw [hside, hm]
      exact fun h => Bool.noConfusion h.1
    rw [side, if_neg hnot]
    exact emitted_of_matched hA hm
  · have hm' : (pairLoop cacheA cacheB).matched = false := Bool.eq_false_iff.mpr hm
    obtain ⟨f, hf, hid, hcloud⟩ := emitted_of_not_matched (T := T) hA hB hneA hneB hm'
    rw [hf]
    refine ⟨List.cons_ne_nil f [], fun f' hf' => ?_⟩
    rw [List.mem_singleton.mp hf', hid, side]
    refine ⟨?_, hcloud⟩
    simp only [hside, hm', true_and]

/-- An iteration emits nothing before the gate. -/
theorem emitted_moveFrames_of_not_gate {self : PointCloudFuser.State K} {d : Delivery K}
    (h : passesGate (intakeA self d).2 (intakeB self d).2 = false) :
    emitted T (moveFrames self d).1 = [] := by
  unfold moveFrames
  dsimp only
  rw [if_neg (Bool.eq_false_iff.mp h), emitted, List.filterMap_append,
    intakeA_other self d fun _ => rfl, intakeB_other self d fun _ => rfl]
  rfl

/-- Behind it, it emits what the pairing loop and the branches after it emit. -/
theorem emitted_moveFrames_of_gate {self : PointCloudFuser.State K} {d : Delivery K}
    (h : passesGate (intakeA self d).2 (intakeB self d).2 = true) :
    emitted T (moveFrames self d).1
      = emitted T (onlyB (onlyA (pairLoop (intakeA self d).2 (intakeB self d).2))).exits := by
  unfold moveFrames
  dsimp only
  rw [if_pos h, emitted, List.filterMap_append, List.filterMap_append,
    intakeA_other self d fun _ => rfl, intakeB_other self d fun _ => rfl]
  rfl

end Emitted

/-! ## The calls for one side -/

section Calls

variable [Field K] [LinearOrder K] [FloorRing K] (pcl : Pcl K) (m : Libm K)
variable {self : SixDofCalculator.State K} {c base : FusedPointCloud K} {now_tp : ℤ}

/-- The registration of a current frame and a base in the same coordinates. -/
def SameFrame (registered : FusedPointCloud K × FusedPointCloud K) : Prop :=
  registered.1.lidar_id = registered.2.lidar_id

/-- The base has points, and its coordinates are those of `id`. -/
def BaseOf (self : SixDofCalculator.State K) (id : String) : Prop :=
  ∃ base, self.fuse_pc_base_ = some base ∧ base.lidar_id = id ∧ base.cloud ≠ []

/-- A call that needs a base registers its frame with itself. -/
theorem calculatorStep_of_need (hneed : needUpdateBase self now_tp = true) (hc : c.cloud ≠ []) :
    (calculatorStep pcl m self (c, now_tp)).1.fuse_pc_base_ = some c ∧
    (calculatorStep pcl m self (c, now_tp)).2 = some (c, c) := by
  unfold calculatorStep
  dsimp only
  rw [calculateSixDof_state]
  exact ⟨updateBase_of_need hneed, registeredPair_eq (updateBase_of_need hneed) hc hc⟩

/-- Any other call registers its frame with the base, and keeps the base. -/
theorem calculatorStep_of_not_need (hneed : needUpdateBase self now_tp = false)
    (hbase : self.fuse_pc_base_ = some base) (hb : base.cloud ≠ []) (hc : c.cloud ≠ []) :
    (calculatorStep pcl m self (c, now_tp)).1 = self ∧
    (calculatorStep pcl m self (c, now_tp)).2 = some (c, base) := by
  unfold calculatorStep
  dsimp only
  rw [calculateSixDof_state, updateBase_of_not_need hneed]
  exact ⟨rfl, registeredPair_eq hbase hc hb⟩

/-- Without need for a base there is one, and it has points. -/
theorem base_of_not_need (hneed : needUpdateBase self now_tp = false) :
    ∃ base, self.fuse_pc_base_ = some base ∧ base.cloud ≠ [] := by
  unfold needUpdateBase at hneed
  split at hneed
  · cases hneed
  · rename_i base hbase
    refine ⟨base, hbase, fun hnil => ?_⟩
    rw [hnil] at hneed
    cases hneed

/-- A call in the coordinates of the base is registered in them and leaves them. -/
theorem BaseOf.calculatorStep {id : String} (h : BaseOf self id) (now_tp : ℤ) (hid : c.lidar_id = id)
    (hc : c.cloud ≠ []) :
    BaseOf (calculatorStep pcl m self (c, now_tp)).1 id ∧
    ∀ r, (calculatorStep pcl m self (c, now_tp)).2 = some r → SameFrame r := by
  by_cases hneed : needUpdateBase self now_tp = true
  · obtain ⟨hbase, hr⟩ := calculatorStep_of_need pcl m hneed hc
    refine ⟨⟨c, hbase, hid, hc⟩, fun r hr' => ?_⟩
    rw [hr, Option.some.injEq] at hr'
    rw [← hr']
    rfl
  · obtain ⟨base, hbase, hbid, hb⟩ := h
    obtain ⟨hself, hr⟩ := calculatorStep_of_not_need pcl m
      (Bool.eq_false_iff.mpr hneed) hbase hb hc
    refine ⟨?_, fun r hr' => ?_⟩
    · rw [hself]
      exact ⟨base, hbase, hbid, hb⟩
    · rw [hr, Option.some.injEq] at hr'
      rw [← hr']
      exact hid.trans hbid.symm

/-- The frames registered by a list of calls. -/
def registered (pcl : Pcl K) (m : Libm K) (self : SixDofCalculator.State K)
    (cs : List (FusedPointCloud K × ℤ)) : List (FusedPointCloud K × FusedPointCloud K) :=
  (Mealy.outputs (MotionPipeline.calculatorStep pcl m) self cs).filterMap id

/-- Calls in the coordinates of the base stay in them. -/
theorem BaseOf.run {id : String} {cs : List (FusedPointCloud K × ℤ)} (h : BaseOf self id)
    (hcs : ∀ call ∈ cs, call.1.lidar_id = id ∧ call.1.cloud ≠ []) :
    BaseOf (Mealy.finalState (MotionPipeline.calculatorStep pcl m) self cs) id ∧
    ∀ r ∈ registered pcl m self cs, SameFrame r := by
  induction cs generalizing self with
  | nil => exact ⟨h, fun r hr => absurd hr List.not_mem_nil⟩
  | cons call cs ih =>
    obtain ⟨hid, hc⟩ := hcs call List.mem_cons_self
    obtain ⟨hbase, hr⟩ := h.calculatorStep pcl m call.2 hid hc
    obtain ⟨hfinal, hrest⟩ := ih hbase fun call' hcall' => hcs call' (List.mem_cons_of_mem _ hcall')
    refine ⟨hfinal, fun r hmem => ?_⟩
    rw [registered, Mealy.outputs, filterMap_cons_toList, List.mem_append, Option.mem_toList] at hmem
    rcases hmem with hmem | hmem
    · exact hr r hmem
    · exact hrest r hmem

/-- A list of calls in the coordinates of `id` is registered in one frame exactly when the
first call replaces the base, or the base is of `id`. -/
theorem registered_same_iff {id : String} {cs : List (FusedPointCloud K × ℤ)}
    (hc : c.lidar_id = id ∧ c.cloud ≠ [])
    (hcs : ∀ call ∈ cs, call.1.lidar_id = id ∧ call.1.cloud ≠ []) :
    (∀ r ∈ registered pcl m self ((c, now_tp) :: cs), SameFrame r) ↔
      needUpdateBase self now_tp = true ∨
        ∀ base, self.fuse_pc_base_ = some base → base.lidar_id = id := by
  have hcons : registered pcl m self ((c, now_tp) :: cs)
      = (MotionPipeline.calculatorStep pcl m self (c, now_tp)).2.toList
        ++ registered pcl m (MotionPipeline.calculatorStep pcl m self (c, now_tp)).1 cs :=
    filterMap_cons_toList _ _ _
  by_cases hneed : needUpdateBase self now_tp = true
  · refine iff_of_true ?_ (.inl hneed)
    -- the first call becomes the base of all of them
    obtain ⟨hbase, hr⟩ := calculatorStep_of_need pcl m hneed hc.2
    have hrest := (BaseOf.run pcl m ⟨c, hbase, hc⟩ hcs).2
    intro r hmem
    rw [hcons, hr, List.mem_append, Option.toList_some, List.mem_singleton] at hmem
    rcases hmem with rfl | hmem
    · rfl
    · exact hrest r hmem
  · -- the base stays, so the first registration already tells
    have hneed' : needUpdateBase self now_tp = false := Bool.eq_false_iff.mpr hneed
    obtain ⟨base, hbase, hb⟩ := base_of_not_need hneed'
    rw [or_iff_right hneed]
    constructor
    · intro h base' hbase'
      have hr := (calculatorStep_of_not_need pcl m hneed' hbase hb hc.2).2
      have hsame : SameFrame (c, base) := h (c, base) (by
        rw [hcons, hr]
        exact List.mem_append_left _ (List.mem_singleton.mpr rfl))
      rw [hbase, Option.some.injEq] at hbase'
      rw [← hbase']
      exact hsame.symm.trans hc.1
    · intro h
      refine (BaseOf.run pcl m ⟨base, hbase, h base hbase, hb⟩ fun call hcall => ?_).2
      rcases List.mem_cons.mp hcall with rfl | hcall
      · exact hc
      · exact hcs call hcall

/-- The base is one of the frames of the calls, or the base before them. -/
theorem base_of_calls {cs : List (FusedPointCloud K × ℤ)}
    (h : (Mealy.finalState (MotionPipeline.calculatorStep pcl m) self cs).fuse_pc_base_
      = some base) : self.fuse_pc_base_ = some base ∨ ∃ call ∈ cs, call.1 = base := by
  induction cs generalizing self with
  | nil => exact .inl h
  | cons call cs ih =>
    rcases ih h with hbase | ⟨call', hcall', hbase⟩
    · have hstate : (MotionPipeline.calculatorStep pcl m self call).1
          = (updateBase pcl self call.1 call.2).1 := calculateSixDof_state m
      rw [hstate] at hbase
      by_cases hneed : needUpdateBase self call.2 = true
      · rw [updateBase_of_need hneed, Option.some.injEq] at hbase
        exact .inr ⟨call, List.mem_cons_self, hbase⟩
      · rw [updateBase_of_not_need (Bool.eq_false_iff.mpr hneed)] at hbase
        exact .inl hbase
    · exact .inr ⟨call', List.mem_cons_of_mem _ hcall', hbase⟩

end Calls

/-! ## One iteration -/

section Iteration

variable [Field K] [LinearOrder K] [FloorRing K]

omit [Field K] [LinearOrder K] [FloorRing K] in
theorem map_fst_calls (frames : List (FusedPointCloud K)) (clock : ℕ → ℤ) :
    (calls frames clock).map Prod.fst = frames := by
  rw [calls, List.map_map]
  exact List.zipIdx_map_fst 0 frames

omit [Field K] [LinearOrder K] [FloorRing K] in
theorem mem_of_mem_calls {frames : List (FusedPointCloud K)} {clock : ℕ → ℤ}
    {call : FusedPointCloud K × ℤ} (h : call ∈ calls frames clock) : call.1 ∈ frames := by
  rw [← map_fst_calls frames clock]
  exact List.mem_map_of_mem h

/-- What the machine maintains with the arrivals still to come: the caches continue the
streams, and the base is of one of the radars. -/
structure Inv (s : State K) (arrivals : List (Arrival K)) : Prop where
  streamA : IsStream "A"
    (s.fuser.cacheA_ ++ arrivals.filterMap fun x => x.delivery.dataA)
  streamB : IsStream "B"
    (s.fuser.cacheB_ ++ arrivals.filterMap fun x => x.delivery.dataB)
  base : ∀ base, s.calculator.fuse_pc_base_ = some base →
    base.lidar_id = "A" ∨ base.lidar_id = "B"

/-- The condition on an iteration, before it: if it passes the gate, the base is replaced by
the first frame it emits, or is of the radar it emits for. -/
def KeepsSide (s : State K) (arrival : Arrival K) : Prop :=
  passesGate (intakeA s.fuser arrival.delivery).2 (intakeB s.fuser arrival.delivery).2 = true →
    needUpdateBase s.calculator (arrival.clock 0) = true ∨
      ∀ base, s.calculator.fuse_pc_base_ = some base →
        (base.lidar_id = "B" ↔
          SingleBDue (intakeA s.fuser arrival.delivery).2 (intakeB s.fuser arrival.delivery).2)

variable {pcl : Pcl K} {m : Libm K} {s : State K} {x : Arrival K} {xs : List (Arrival K)}

omit [LinearOrder K] [FloorRing K] in
/-- The caches of the gate are parts of the streams. -/
theorem Inv.caches (h : Inv s (x :: xs)) :
    IsStream "A" (intakeA s.fuser x.delivery).2 ∧ IsStream "B" (intakeB s.fuser x.delivery).2 := by
  have hA := h.streamA
  have hB := h.streamB
  rw [filterMap_cons_toList, ← List.append_assoc, ← intakeA_frames] at hA
  rw [filterMap_cons_toList, ← List.append_assoc, ← intakeB_frames] at hB
  exact ⟨hA.sublist ((List.sublist_append_right _ _).trans (List.sublist_append_left _ _)),
    hB.sublist ((List.sublist_append_right _ _).trans (List.sublist_append_left _ _))⟩

omit [LinearOrder K] [FloorRing K] in
/-- Everything an iteration emits is of one side, and behind the gate it emits something. -/
theorem Inv.emitted (h : Inv s (x :: xs)) :
    (passesGate (intakeA s.fuser x.delivery).2 (intakeB s.fuser x.delivery).2 = true →
      PointCloudFuser.emitted s.fuser.T_B2A_ (moveFrames s.fuser x.delivery).1 ≠ []) ∧
    ∀ f ∈ PointCloudFuser.emitted s.fuser.T_B2A_ (moveFrames s.fuser x.delivery).1,
      f.lidar_id = side (intakeA s.fuser x.delivery).2 (intakeB s.fuser x.delivery).2 ∧
      f.cloud ≠ [] := by
  by_cases hgate : passesGate (intakeA s.fuser x.delivery).2 (intakeB s.fuser x.delivery).2 = true
  · rw [emitted_moveFrames_of_gate hgate]
    obtain ⟨hneA, hneB⟩ := ne_nil_of_passesGate hgate
    obtain ⟨hne, hall⟩ := emitted_single (T := s.fuser.T_B2A_) h.caches.1 h.caches.2 hneA hneB
    exact ⟨fun _ => hne, hall⟩
  · rw [emitted_moveFrames_of_not_gate (Bool.eq_false_iff.mpr hgate)]
    exact ⟨fun hpass => absurd hpass hgate, fun f hf => absurd hf List.not_mem_nil⟩

/-- One iteration is registered in one coordinate frame exactly under the condition. -/
theorem step_same_iff (h : Inv s (x :: xs)) :
    (∀ r ∈ (step pcl m s x).2, SameFrame r) ↔ KeepsSide s x := by
  obtain ⟨hne, hall⟩ := h.emitted
  show (∀ r ∈ registered pcl m s.calculator (calls (PointCloudFuser.emitted s.fuser.T_B2A_
    (moveFrames s.fuser x.delivery).1) x.clock), SameFrame r) ↔ _
  by_cases hgate : passesGate (intakeA s.fuser x.delivery).2 (intakeB s.fuser x.delivery).2 = true
  · obtain ⟨f, fs, hf⟩ := List.exists_cons_of_ne_nil (hne hgate)
    rw [hf] at hall ⊢
    obtain ⟨cs, hcs⟩ : ∃ cs, calls (f :: fs) x.clock = (f, x.clock 0) :: cs := ⟨_, rfl⟩
    have hrest : ∀ call ∈ cs, call.1.lidar_id
        = side (intakeA s.fuser x.delivery).2 (intakeB s.fuser x.delivery).2 ∧
        call.1.cloud ≠ [] := by
      intro call hcall
      refine hall call.1 (mem_of_mem_calls (?_ : call ∈ calls (f :: fs) x.clock))
      rw [hcs]
      exact List.mem_cons_of_mem _ hcall
    rw [hcs, registered_same_iff pcl m (hall f List.mem_cons_self) hrest, KeepsSide,
      imp_iff_right hgate]
    refine or_congr_right (forall_congr' fun base => ?_)
    exact imp_congr_right fun hbase => eq_side_iff (h.base base hbase)
  · -- nothing is emitted, so nothing is registered
    rw [emitted_moveFrames_of_not_gate (Bool.eq_false_iff.mpr hgate)]
    exact iff_of_true (fun r hr => absurd hr List.not_mem_nil) fun hpass => absurd hpass hgate

theorem Inv.step (h : Inv s (x :: xs)) : Inv (step pcl m s x).1 xs := by
  have hA := h.streamA
  have hB := h.streamB
  rw [filterMap_cons_toList, ← List.append_assoc, ← moveFrames_framesA, List.append_assoc] at hA
  rw [filterMap_cons_toList, ← List.append_assoc, ← moveFrames_framesB, List.append_assoc] at hB
  refine ⟨hA.sublist (List.sublist_append_right _ _), hB.sublist (List.sublist_append_right _ _),
    fun base hbase => ?_⟩
  rcases base_of_calls pcl m hbase with hold | ⟨call, hcall, rfl⟩
  · exact h.base base hold
  · rw [(h.emitted.2 call.1 (mem_of_mem_calls hcall)).1, side]
    split
    · exact .inr rfl
    · exact .inl rfl

end Iteration

/-! ## Runs -/

section Runs

variable [Field K] [LinearOrder K] [FloorRing K]

/-- **Registration in one coordinate frame.** For all streams of the two radars, sorted and
without empty clouds, every arrival pattern and all clock readings: all registrations of a run
are of frames of one radar exactly if every iteration that passes the gate either replaces the
base first, or finds a base of the radar it emits for. -/
theorem registrations_same_frame_iff (pcl : Pcl K) (m : Libm K) (s : State K)
    (arrivals : List (Arrival K)) (hcacheA : s.fuser.cacheA_ = []) (hcacheB : s.fuser.cacheB_ = [])
    (hbase : s.calculator.fuse_pc_base_ = none)
    (hA : IsStream "A" (arrivals.filterMap fun x => x.delivery.dataA))
    (hB : IsStream "B" (arrivals.filterMap fun x => x.delivery.dataB)) :
    (∀ r ∈ (Mealy.outputs (step pcl m) s arrivals).flatten, r.1.lidar_id = r.2.lidar_id) ↔
      Mealy.EveryCall (step pcl m) KeepsSide s arrivals := by
  have hinv : Inv s arrivals := by
    refine ⟨?_, ?_, fun base h => ?_⟩
    · rwa [hcacheA]
    · rwa [hcacheB]
    · rw [hbase] at h
      cases h
  clear hcacheA hcacheB hbase hA hB
  induction arrivals generalizing s with
  | nil => exact iff_of_true (fun r hr => absurd hr List.not_mem_nil) trivial
  | cons x xs ih =>
    rw [Mealy.outputs, List.flatten_cons, Mealy.EveryCall, List.forall_mem_append]
    exact and_congr (step_same_iff hinv) (ih (step pcl m s x).1 hinv.step)

/-! ## A run that mixes frames -/

/-- Both modules before the first frame, with an update interval of one minute. -/
def idlePipeline : State ℚ where
  fuser := idleFuser
  calculator := newCalculator

/-- A frame from each radar, and calls at time zero. -/
def arriveAt (a b : UInt64) : Arrival ℚ where
  delivery := arrive (some (frameAt "A" a)) (some (frameAt "B" b))
  clock _ := 0

/-- Three pairs of frames at the same times: the base is fused. -/
def pairedArrivals : List (Arrival ℚ) := [arriveAt 0 0, arriveAt 1 1, arriveAt 2 2]

/-- The condition can be met: three pairs are registered in the coordinates of A. -/
theorem registrations_same_frame_iff_paired :
    (Mealy.outputs (step stillPcl stillLibm) idlePipeline pairedArrivals).flatten.length = 3 ∧
    ∀ r ∈ (Mealy.outputs (step stillPcl stillLibm) idlePipeline pairedArrivals).flatten,
      r.1.lidar_id = r.2.lidar_id :=
  ⟨by decide +kernel,
    (registrations_same_frame_iff stillPcl stillLibm idlePipeline pairedArrivals rfl rfl rfl
      ⟨by decide +kernel, by decide +kernel, by decide +kernel⟩
      ⟨by decide +kernel, by decide +kernel, by decide +kernel⟩).mpr
      ⟨fun h => absurd h (by decide +kernel), fun h => absurd h (by decide +kernel),
        fun _ => .inl (by decide +kernel), trivial⟩⟩

/-- Then the clocks of the radars drift apart by more than the frames of radar A that are
cached: all of them are dropped, and a frame of B goes out alone. -/
def driftingArrivals : List (Arrival ℚ) :=
  pairedArrivals ++ [arriveAt 1000 5000, arriveAt 1001 5001, arriveAt 1002 5002]

/-- The frame of B is registered with the fused base, which is in the coordinates of A. -/
theorem registration_mixes_frames :
    IsStream "A" (driftingArrivals.filterMap fun x => x.delivery.dataA) ∧
    IsStream "B" (driftingArrivals.filterMap fun x => x.delivery.dataB) ∧
    ((Mealy.outputs (step stillPcl stillLibm) idlePipeline driftingArrivals).flatten.map
        fun r => (r.1.lidar_id, r.2.lidar_id))
      = [("A", "A"), ("A", "A"), ("A", "A"), ("B", "A")] ∧
    ¬ ∀ r ∈ (Mealy.outputs (step stillPcl stillLibm) idlePipeline driftingArrivals).flatten,
        r.1.lidar_id = r.2.lidar_id := by
  have hrun : ((Mealy.outputs (step stillPcl stillLibm) idlePipeline
      driftingArrivals).flatten.map fun r => (r.1.lidar_id, r.2.lidar_id))
      = [("A", "A"), ("A", "A"), ("A", "A"), ("B", "A")] := by
    decide +kernel
  refine ⟨⟨by decide +kernel, by decide +kernel, by decide +kernel⟩,
    ⟨by decide +kernel, by decide +kernel, by decide +kernel⟩, hrun, fun h => ?_⟩
  have hmem : ("B", "A") ∈ (Mealy.outputs (step stillPcl stillLibm) idlePipeline
      driftingArrivals).flatten.map fun r => (r.1.lidar_id, r.2.lidar_id) := by
    rw [hrun]
    decide
  obtain ⟨r, hr, hids⟩ := List.mem_map.mp hmem
  have hsame := h r hr
  rw [Prod.mk.injEq] at hids
  rw [hids.1, hids.2] at hsame
  exact absurd hsame (by decide)

end Runs

end MotionPipeline
end ShipMotion
