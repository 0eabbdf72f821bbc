import Mathlib.Algebra.Field.Rat
import ShipMotion.PointCloudFuser
import ShipMotion.Utils.ProximityMatching

/-!
# The pairing loop

The loop is the greedy matching of the two caches by time: its pairs are those of
`Utils.greedy`, so it pairs as many frames as any choice of disjoint pairs could. Besides, it
empties one cache, and moves every frame it was given either out or into the rest, in order.
-/

namespace ShipMotion
namespace PointCloudFuser

open Utils

variable {K : Type} {cacheA cacheB : List (RawPointCloud K)}

/-! ## Time differences -/

/-- A timestamp as a number, with differences that do not wrap. -/
def stamp (frame : RawPointCloud K) : ℤ := frame.timestamp.toNat

theorem stamp_le_iff {a b : RawPointCloud K} :
    stamp a ≤ stamp b ↔ a.timestamp ≤ b.timestamp := by
  rw [stamp, stamp, Nat.cast_le, UInt64.le_iff_toNat_le]

theorem stamp_lt_iff {a b : RawPointCloud K} :
    stamp a < stamp b ↔ a.timestamp < b.timestamp := by
  rw [stamp, stamp, Nat.cast_lt, UInt64.lt_iff_toNat_lt]

/-- The guarded unsigned difference is the distance. -/
theorem toNat_diffNs (a b : RawPointCloud K) : ((diffNs a b).toNat : ℤ) = |stamp a - stamp b| := by
  unfold diffNs
  by_cases h : a.timestamp > b.timestamp
  · have hle : b.timestamp ≤ a.timestamp := UInt64.le_of_lt h
    rw [if_pos h, UInt64.toNat_sub_of_le _ _ hle, Nat.cast_sub (UInt64.le_iff_toNat_le.mp hle),
      abs_of_nonneg (sub_nonneg.mpr (stamp_le_iff.mpr hle))]
    rfl
  · have hle : a.timestamp ≤ b.timestamp := UInt64.not_lt.mp h
    rw [if_neg h, UInt64.toNat_sub_of_le _ _ hle, Nat.cast_sub (UInt64.le_iff_toNat_le.mp hle),
      abs_sub_comm, abs_of_nonneg (sub_nonneg.mpr (stamp_le_iff.mpr hle))]
    rfl

theorem diffNs_lt_iff (a b : RawPointCloud K) :
    diffNs a b < matchNs ↔ Near stamp stamp 500 a b := by
  rw [Near, ← toNat_diffNs, UInt64.lt_iff_toNat_lt]
  show (diffNs a b).toNat < 500 ↔ _
  omega

/-! ## The branches -/

theorem pairLoop_nil_left : pairLoop [] cacheB = ⟨false, [], [], cacheB⟩ := by
  rw [pairLoop]
  intro a as b bs h
  cases h

theorem pairLoop_nil_right : pairLoop cacheA [] = ⟨false, [], cacheA, []⟩ := by
  rw [pairLoop]
  intro a as b bs _ h
  cases h

variable {a b : RawPointCloud K} {as bs : List (RawPointCloud K)}

theorem pairLoop_fused (h : diffNs a b < matchNs) :
    pairLoop (a :: as) (b :: bs)
      = { pairLoop as bs with matched := true, exits := .fused a b :: (pairLoop as bs).exits } := by
  rw [pairLoop, if_pos h]

theorem pairLoop_mismatchA (h : ¬ diffNs a b < matchNs) (hlt : a.timestamp < b.timestamp) :
    pairLoop (a :: as) (b :: bs)
      = { pairLoop as (b :: bs) with
          exits := .mismatchA a :: (pairLoop as (b :: bs)).exits } := by
  rw [pairLoop, if_neg h, if_pos hlt]

theorem pairLoop_mismatchB (h : ¬ diffNs a b < matchNs) (hlt : ¬ a.timestamp < b.timestamp) :
    pairLoop (a :: as) (b :: bs)
      = { pairLoop (a :: as) bs with
          exits := .mismatchB b :: (pairLoop (a :: as) bs).exits } := by
  rw [pairLoop, if_neg h, if_neg hlt]

/-- The loop's induction: one case for each branch of its body, and one for each cache it can
find empty. -/
theorem pairLoop_induction {P : List (RawPointCloud K) → List (RawPointCloud K) → Prop}
    (nilA : ∀ cacheB, P [] cacheB) (nilB : ∀ cacheA, P cacheA [])
    (fused : ∀ a as b bs, diffNs a b < matchNs → P as bs → P (a :: as) (b :: bs))
    (mismatchA : ∀ a as b bs, ¬ diffNs a b < matchNs → a.timestamp < b.timestamp →
      P as (b :: bs) → P (a :: as) (b :: bs))
    (mismatchB : ∀ a as b bs, ¬ diffNs a b < matchNs → ¬ a.timestamp < b.timestamp →
      P (a :: as) bs → P (a :: as) (b :: bs)) (cacheA cacheB : List (RawPointCloud K)) :
    P cacheA cacheB := by
  induction cacheA, cacheB using pairLoop.induct with
  | case1 a as b bs h ih => exact fused a as b bs h ih
  | case2 a as b bs h hlt ih => exact mismatchA a as b bs h hlt ih
  | case3 a as b bs h hlt ih => exact mismatchB a as b bs h hlt ih
  | case4 cacheA cacheB h =>
    cases cacheA with
    | nil => exact nilA cacheB
    | cons a as =>
      cases cacheB with
      | nil => exact nilB _
      | cons b bs => exact absurd rfl (h a as b bs rfl)

/-! ## What every run of the loop does -/

/-- One cache is empty at the end. -/
theorem pairLoop_empty (cacheA cacheB : List (RawPointCloud K)) :
    (pairLoop cacheA cacheB).cacheA = [] ∨ (pairLoop cacheA cacheB).cacheB = [] := by
  induction cacheA, cacheB using pairLoop_induction with
  | nilA cacheB => exact .inl (by rw [pairLoop_nil_left])
  | nilB cacheA => exact .inr (by rw [pairLoop_nil_right])
  | fused a as b bs h ih => rwa [pairLoop_fused h]
  | mismatchA a as b bs h hlt ih => rwa [pairLoop_mismatchA h hlt]
  | mismatchB a as b bs h hlt ih => rwa [pairLoop_mismatchB h hlt]

/-- The frames of A leave in order, and what does not leave is the rest. -/
theorem pairLoop_framesA (cacheA cacheB : List (RawPointCloud K)) :
    (pairLoop cacheA cacheB).exits.filterMap Exit.frameA ++ (pairLoop cacheA cacheB).cacheA
      = cacheA := by
  induction cacheA, cacheB using pairLoop_induction with
  | nilA cacheB => rw [pairLoop_nil_left]; rfl
  | nilB cacheA => rw [pairLoop_nil_right]; rfl
  | fused a as b bs h ih => rw [pairLoop_fused h]; exact congrArg (a :: ·) ih
  | mismatchA a as b bs h hlt ih => rw [pairLoop_mismatchA h hlt]; exact congrArg (a :: ·) ih
  | mismatchB a as b bs h hlt ih => rw [pairLoop_mismatchB h hlt]; exact ih

theorem pairLoop_framesB (cacheA cacheB : List (RawPointCloud K)) :
    (pairLoop cacheA cacheB).exits.filterMap Exit.frameB ++ (pairLoop cacheA cacheB).cacheB
      = cacheB := by
  induction cacheA, cacheB using pairLoop_induction with
  | nilA cacheB => rw [pairLoop_nil_left]; rfl
  | nilB cacheA => rw [pairLoop_nil_right]; rfl
  | fused a as b bs h ih => rw [pairLoop_fused h]; exact congrArg (b :: ·) ih
  | mismatchA a as b bs h hlt ih => rw [pairLoop_mismatchA h hlt]; exact ih
  | mismatchB a as b bs h hlt ih => rw [pairLoop_mismatchB h hlt]; exact congrArg (b :: ·) ih

/-- What sees neither pairs nor mismatches sees nothing of the loop. -/
theorem pairLoop_other {X : Type} {sel : Exit K → Option X}
    (hfused : ∀ a b, sel (.fused a b) = none) (hA : ∀ a, sel (.mismatchA a) = none)
    (hB : ∀ b, sel (.mismatchB b) = none) (cacheA cacheB : List (RawPointCloud K)) :
    (pairLoop cacheA cacheB).exits.filterMap sel = [] := by
  induction cacheA, cacheB using pairLoop_induction with
  | nilA cacheB => rw [pairLoop_nil_left]; rfl
  | nilB cacheA => rw [pairLoop_nil_right]; rfl
  | fused a as b bs h ih =>
    rw [pairLoop_fused h]
    exact (List.filterMap_cons_none (hfused a b)).trans ih
  | mismatchA a as b bs h hlt ih =>
    rw [pairLoop_mismatchA h hlt]
    exact (List.filterMap_cons_none (hA a)).trans ih
  | mismatchB a as b bs h hlt ih =>
    rw [pairLoop_mismatchB h hlt]
    exact (List.filterMap_cons_none (hB b)).trans ih

/-- Every pass takes at least one frame out, so there are no more passes than frames. -/
theorem length_pairLoop_exits (cacheA cacheB : List (RawPointCloud K)) :
    (pairLoop cacheA cacheB).exits.length ≤ cacheA.length + cacheB.length := by
  induction cacheA, cacheB using pairLoop_induction with
  | nilA cacheB => rw [pairLoop_nil_left]; exact Nat.zero_le _
  | nilB cacheA => rw [pairLoop_nil_right]; exact Nat.zero_le _
  | fused a as b bs h ih =>
    rw [pairLoop_fused h]
    simp only [List.length_cons]
    omega
  | mismatchA a as b bs h hlt ih =>
    rw [pairLoop_mismatchA h hlt]
    simp only [List.length_cons] at ih ⊢
    omega
  | mismatchB a as b bs h hlt ih =>
    rw [pairLoop_mismatchB h hlt]
    simp only [List.length_cons] at ih ⊢
    omega

/-- The pairs the loop fuses, in order. -/
def fusedPairs (exits : List (Exit K)) : List (RawPointCloud K × RawPointCloud K) :=
  exits.filterMap Exit.pair

/-- The loop is the greedy matching. -/
theorem fusedPairs_pairLoop (cacheA cacheB : List (RawPointCloud K)) :
    fusedPairs (pairLoop cacheA cacheB).exits = greedy stamp stamp 500 cacheA cacheB := by
  induction cacheA, cacheB using pairLoop_induction with
  | nilA cacheB => rw [pairLoop_nil_left, greedy_nil_left]; rfl
  | nilB cacheA => rw [pairLoop_nil_right, greedy_nil_right]; rfl
  | fused a as b bs h ih =>
    rw [pairLoop_fused h, greedy_of_near as bs ((diffNs_lt_iff a b).mp h)]
    exact congrArg ((a, b) :: ·) ih
  | mismatchA a as b bs h hlt ih =>
    rw [pairLoop_mismatchA h hlt,
      greedy_of_lt as bs (mt (diffNs_lt_iff a b).mpr h) (stamp_lt_iff.mpr hlt)]
    exact ih
  | mismatchB a as b bs h hlt ih =>
    rw [pairLoop_mismatchB h hlt,
      greedy_of_not_lt as bs (mt (diffNs_lt_iff a b).mpr h) (mt stamp_lt_iff.mp hlt)]
    exact ih

/-- The loop reports a match if it fused a pair. -/
theorem matched_iff (cacheA cacheB : List (RawPointCloud K)) :
    (pairLoop cacheA cacheB).matched = true
      ↔ fusedPairs (pairLoop cacheA cacheB).exits ≠ [] := by
  induction cacheA, cacheB using pairLoop_induction with
  | nilA cacheB => rw [pairLoop_nil_left]; simp [fusedPairs]
  | nilB cacheA => rw [pairLoop_nil_right]; simp [fusedPairs]
  | fused a as b bs h ih => rw [pairLoop_fused h]; simp [fusedPairs, Exit.pair]
  | mismatchA a as b bs h hlt ih => rw [pairLoop_mismatchA h hlt]; exact ih
  | mismatchB a as b bs h hlt ih => rw [pairLoop_mismatchB h hlt]; exact ih

/-! ## Sorted caches -/

/-- The timestamps do not decrease. -/
def SortedByTime (frames : List (RawPointCloud K)) : Prop :=
  frames.Pairwise fun x y => x.timestamp ≤ y.timestamp

instance (frames : List (RawPointCloud K)) : Decidable (SortedByTime frames) :=
  inferInstanceAs (Decidable (List.Pairwise _ _))

theorem SortedByTime.stamps {frames : List (RawPointCloud K)} (h : SortedByTime frames) :
    frames.Pairwise fun x y => stamp x ≤ stamp y :=
  List.Pairwise.imp stamp_le_iff.mpr h

/-- **The pairing loop is optimal.** On two sorted caches of any length it ends after at most
one pass for each frame with one cache empty; the pairs it fuses are less than 500 ns apart,
sit at increasing places of both caches, and are as many as any disjoint pairs less than
500 ns apart. -/
theorem pairLoop_optimal (cacheA cacheB : List (RawPointCloud K)) (hA : SortedByTime cacheA)
    (hB : SortedByTime cacheB) :
    (pairLoop cacheA cacheB).exits.length ≤ cacheA.length + cacheB.length ∧
    ((pairLoop cacheA cacheB).cacheA = [] ∨ (pairLoop cacheA cacheB).cacheB = []) ∧
    (∀ p ∈ fusedPairs (pairLoop cacheA cacheB).exits,
      |(p.1.timestamp.toNat : ℤ) - p.2.timestamp.toNat| < 500) ∧
    (∃ (i : Fin (fusedPairs (pairLoop cacheA cacheB).exits).length ↪o Fin cacheA.length)
      (j : Fin (fusedPairs (pairLoop cacheA cacheB).exits).length ↪o Fin cacheB.length),
      ∀ k, (fusedPairs (pairLoop cacheA cacheB).exits).get k
        = (cacheA.get (i k), cacheB.get (j k))) ∧
    (∀ S : Finset (Fin cacheA.length × Fin cacheB.length), DisjointPlaces S →
      (∀ p ∈ S, |((cacheA.get p.1).timestamp.toNat : ℤ) - (cacheB.get p.2).timestamp.toNat| < 500) →
      S.card ≤ (fusedPairs (pairLoop cacheA cacheB).exits).length) := by
  rw [fusedPairs_pairLoop]
  refine ⟨length_pairLoop_exits _ _, pairLoop_empty _ _, near_of_mem_greedy,
    greedy_eq_get _ _, ?_⟩
  intro S hS hnear
  have hM := card_le_length_greedy hA.stamps hB.stamps (IsMatching.of_places hS hnear)
  rwa [Multiset.card_map] at hM

/-- A frame with one point. -/
def frameAt (lidar_id : String) (timestamp : UInt64) : RawPointCloud ℚ :=
  { lidar_ip := "", lidar_id, timestamp, cloud := [⟨1, 0, 0⟩] }

/-- Two frames each, all four within 500 ns of two others: both pairs are found. -/
theorem pairLoop_optimal_twoPairs :
    2 ≤ (fusedPairs (pairLoop [frameAt "A" 0, frameAt "A" 400]
      [frameAt "B" 300, frameAt "B" 700]).exits).length :=
  (pairLoop_optimal [frameAt "A" 0, frameAt "A" 400] [frameAt "B" 300, frameAt "B" 700]
    (by decide) (by decide)).2.2.2.2 {(0, 0), (1, 1)}
    (by unfold DisjointPlaces; decide) (by decide)

end PointCloudFuser
end ShipMotion
