import Mathlib.Tactic.Linarith
import ShipMotion.DataOutputter.PositionHistory
import ShipMotion.Utils.SlidingWindow
import ShipMotion.Utils.UniformMotion

/-!
# The accelerations of bow and stern

`pushHistory` appends at the end and drops from the front, `getBowSternAcc` reads the first
three records and divides by the square of the interval between the second and the third. So
it speaks of the newest samples only while there are three, whatever the arithmetic, and computed
exactly it is exact for a uniformly accelerated ship only if the samples are evenly spaced.
-/

namespace ShipMotion
namespace DataOutputter

open Eigen
open Utils.SlidingWindow (lastN)
open Utils (UniformMotion)
open Utils.UniformMotion (secondDiff)

variable {K : Type}

/-! ## The history after a run of pushes -/

/-- The history after pushing the records in order, from an empty one. -/
def pushAll (records : List (ShipPosRecord K)) : List (ShipPosRecord K) :=
  records.foldl (fun pos_history_ r => pushHistory pos_history_ r.ts r.bow r.stern) []

theorem popFrontLoop_eq_lastN (l : List (ShipPosRecord K)) :
    popFrontLoop l = lastN MAX_HIST l := by
  induction l with
  | nil => exact (Utils.SlidingWindow.lastN_nil MAX_HIST).symm
  | cons oldest rest ih =>
    rw [popFrontLoop]
    split
    · rename_i hlong
      rw [List.length_cons] at hlong
      have hdrop : (oldest :: rest).length - MAX_HIST = rest.length - MAX_HIST + 1 := by
        rw [List.length_cons]
        omega
      rw [ih, lastN, lastN, hdrop, List.drop_succ_cons]
    · rename_i hshort
      rw [lastN, Nat.sub_eq_zero_of_le (Nat.le_of_not_lt hshort), List.drop_zero]

/-- The history holds the last ten records. -/
theorem pushAll_eq_lastN (records : List (ShipPosRecord K)) :
    pushAll records = lastN MAX_HIST records := by
  induction records using List.reverseRecOn with
  | nil => exact (Utils.SlidingWindow.lastN_nil MAX_HIST).symm
  | append_singleton older r ih =>
    have hstep : pushAll (older ++ [r]) = pushHistory (pushAll older) r.ts r.bow r.stern := by
      rw [pushAll, List.foldl_append]
      rfl
    rw [hstep, ih, pushHistory, popFrontLoop_eq_lastN]
    exact Utils.SlidingWindow.lastN_lastN_append MAX_HIST older [r]

/-! ## The newest samples -/

/-- The three records a second difference is taken from. -/
structure ThreeRecords (K : Type) where
  h0 : ShipPosRecord K
  h1 : ShipPosRecord K
  h2 : ShipPosRecord K

section Newest

variable {F D : Type} [Zero F] [Add F] [Sub F] [Mul F] [OfScientific F]
  [Mul D] [Div D] [OfScientific D] [LT D] [DecidableLT D] (conv : AccConversions F D)

/-- The value the formula of `getBowSternAcc` gives on three records. -/
def accOfThreeIn (w : ThreeRecords F) : Vector3 F × Vector3 F :=
  getBowSternAccIn conv [w.h0, w.h1, w.h2]

/-- After the records are pushed, the call returns the value of its formula on the newest three. -/
def ReturnsNewest (records : List (ShipPosRecord F)) : Prop :=
  ∃ new : ThreeRecords F, lastN 3 records = [new.h0, new.h1, new.h2] ∧
    getBowSternAccIn conv (pushAll records) = accOfThreeIn conv new

variable {conv}

/-- If the call returns what its formula gives on the newest three, whatever `n` records are pushed,
then the formula has one value at both ends of every history of that length. -/
theorem accOfThreeIn_eq_of_newest {n : ℕ} (h : 3 ≤ n)
    (hall : ∀ records : List (ShipPosRecord F), records.length = n → ReturnsNewest conv records)
    (front rest : List (ShipPosRecord F)) {old new : ThreeRecords F}
    (hkept : old.h0 :: old.h1 :: old.h2 :: rest = front ++ [new.h0, new.h1, new.h2])
    (hlen : front.length + 3 = min n MAX_HIST) :
    accOfThreeIn conv old = accOfThreeIn conv new := by
  -- the records dropped do not matter
  have hdropped : (List.replicate (n - MAX_HIST) old.h0).length = n - MAX_HIST :=
    List.length_replicate
  generalize List.replicate (n - MAX_HIST) old.h0 = dropped at hdropped
  have hn : (dropped ++ (front ++ [new.h0, new.h1, new.h2])).length = n := by
    rw [List.length_append, List.length_append, hdropped]
    show n - MAX_HIST + (front.length + 3) = n
    omega
  obtain ⟨last, hlast, hreturned⟩ := hall _ hn
  have hnewest : lastN 3 (dropped ++ (front ++ [new.h0, new.h1, new.h2]))
      = [new.h0, new.h1, new.h2] := by
    rw [lastN, hn, ← List.append_assoc]
    refine List.drop_left' ?_
    rw [List.length_append]
    omega
  have holdest : pushAll (dropped ++ (front ++ [new.h0, new.h1, new.h2]))
      = old.h0 :: old.h1 :: old.h2 :: rest := by
    rw [pushAll_eq_lastN, lastN, hn, List.drop_left' hdropped, hkept]
  rw [hnewest] at hlast
  simp only [List.cons.injEq, and_true] at hlast
  obtain ⟨h0, h1, h2⟩ := hlast
  rw [holdest] at hreturned
  calc accOfThreeIn conv old
      = accOfThreeIn conv last := hreturned
    _ = accOfThreeIn conv new := by rw [accOfThreeIn, accOfThreeIn, h0, h1, h2]

variable (conv)

/-- **When the acceleration is that of the newest samples.** In every arithmetic in which the
formula has two values at all: whatever `n` records are pushed, `getBowSternAcc` returns what its
formula gives on the last three of them, if and only if `n` is three. -/
theorem getBowSternAcc_newest_iff
    (hvaries : ∃ w w' : ThreeRecords F, accOfThreeIn conv w ≠ accOfThreeIn conv w') (n : ℕ)
    (h : 3 ≤ n) :
    (∀ records : List (ShipPosRecord F), records.length = n → ReturnsNewest conv records) ↔
      n = 3 := by
  constructor
  · intro hall
    by_contra hne
    obtain ⟨w, w', hww⟩ := hvaries
    refine hww ?_
    -- histories of four and of five overlap in two records and in one: the value is handed on
    rcases (by omega : n = 4 ∨ n = 5 ∨ 6 ≤ n) with rfl | rfl | hsix
    · have hslide : ∀ a b c d : ShipPosRecord F,
          accOfThreeIn conv ⟨a, b, c⟩ = accOfThreeIn conv ⟨b, c, d⟩ := fun a _ _ d =>
        accOfThreeIn_eq_of_newest h hall [a] [d] rfl rfl
      calc accOfThreeIn conv w
          = accOfThreeIn conv ⟨w.h1, w.h2, w'.h0⟩ := hslide ..
        _ = accOfThreeIn conv ⟨w.h2, w'.h0, w'.h1⟩ := hslide ..
        _ = accOfThreeIn conv w' := hslide ..
    · have hslide : ∀ a b c d e : ShipPosRecord F,
          accOfThreeIn conv ⟨a, b, c⟩ = accOfThreeIn conv ⟨c, d, e⟩ := fun a b _ d e =>
        accOfThreeIn_eq_of_newest h hall [a, b] [d, e] rfl rfl
      calc accOfThreeIn conv w
          = accOfThreeIn conv ⟨w.h2, w.h2, w'.h0⟩ := hslide ..
        _ = accOfThreeIn conv w' := hslide ..
    · refine accOfThreeIn_eq_of_newest h hall
        (w.h0 :: w.h1 :: w.h2 :: List.replicate (min n MAX_HIST - 6) w.h0) _ rfl ?_
      rw [List.length_cons, List.length_cons, List.length_cons, List.length_replicate, MAX_HIST]
      omega
  · rintro rfl records hlen
    obtain ⟨h0, h1, h2, rfl⟩ := List.length_eq_three.mp hlen
    refine ⟨⟨h0, h1, h2⟩, rfl, ?_⟩
    rw [pushAll_eq_lastN]
    rfl

end Newest

/-- A record with bow and stern at the same place on the first axis. -/
def onAxis {F : Type} [Zero F] (ts : UInt64) (x : F) : ShipPosRecord F :=
  ⟨ts, ![x, 0, 0], ![x, 0, 0]⟩

/-- A ship at rest that moves a metre before the fourth record. -/
def moveOff : List (ShipPosRecord Float32) :=
  [onAxis 0 0, onAxis 100 0, onAxis 200 0, onAxis 300 1.0]

/-- A ship at rest, and one that has just moved a metre. -/
def atRest : ThreeRecords Float32 := ⟨onAxis 0 0, onAxis 100 0, onAxis 200 0⟩
def moving : ThreeRecords Float32 := ⟨onAxis 100 0, onAxis 200 0, onAxis 300 1.0⟩

theorem acc_atRest : (accOfThreeIn .ieee atRest).1 0 = 0 := by decide +kernel

theorem acc_moving : (accOfThreeIn .ieee moving).1 0 = 10000.0 := by decide +kernel

theorem acc_atRest_ne_moving : accOfThreeIn .ieee atRest ≠ accOfThreeIn .ieee moving := by
  intro h
  have hzero : (0 : Float32) = 10000.0 := by rw [← acc_atRest, h, acc_moving]
  revert hzero
  decide +kernel

/-- In the arithmetic of the source, after three pushes and after four. -/
theorem getBowSternAcc_newest_iff_ieee :
    ((∀ records : List (ShipPosRecord Float32), records.length = 3 → ReturnsNewest .ieee records) ↔
      3 = 3) ∧
    ((∀ records : List (ShipPosRecord Float32), records.length = 4 → ReturnsNewest .ieee records) ↔
      4 = 3) :=
  ⟨getBowSternAcc_newest_iff .ieee ⟨atRest, moving, acc_atRest_ne_moving⟩ 3 (by decide),
    getBowSternAcc_newest_iff .ieee ⟨atRest, moving, acc_atRest_ne_moving⟩ 4 (by decide)⟩

/-- The newest three records give 100 m/s² on the first axis, the call returns no
acceleration. -/
theorem getBowSternAcc_stale :
    3 ≤ moveOff.length ∧ lastN 3 moveOff = [moving.h0, moving.h1, moving.h2] ∧
      getBowSternAccIn .ieee (pushAll moveOff) ≠ accOfThreeIn .ieee moving := by
  refine ⟨by decide, rfl, fun h => acc_atRest_ne_moving ?_⟩
  rw [← h, pushAll_eq_lastN]
  rfl

/-! ## The formula -/

/-- The milliseconds between the second and the third record, in `uint64_t`. -/
def ThreeRecords.ms (w : ThreeRecords K) : ℕ := (w.h2.ts - w.h1.ts).toNat

section

variable [Field K] [LinearOrder K]

/-- The value of the formula, computed exactly. -/
def accOfThree (w : ThreeRecords K) : Vector3 K × Vector3 K := accOfThreeIn .exact w

/-- One axis of the formula: the second difference in metres over the squared interval in
seconds, in cm/s². -/
def axisAcc (p0 p1 p2 : K) (ms : ℕ) : K :=
  secondDiff p0 p1 p2 / ((ms : K) / 1000.0 * ((ms : K) / 1000.0)) * 100.0

variable [IsStrictOrderedRing K]

/-- The guard cuts off exactly the interval of length zero. -/
theorem interval_guard (ms : ℕ) :
    (ms : K) / 1000.0 * ((ms : K) / 1000.0) < 1e-6 ↔ ms = 0 := by
  constructor
  · intro h
    by_contra hne
    have hge : (1e-3 : K) ≤ (ms : K) / 1000.0 := by
      rw [le_div_iff₀ (by norm_num)]
      norm_num
      exact Nat.one_le_iff_ne_zero.mpr hne
    have hsq := mul_self_le_mul_self (by norm_num) hge
    norm_num at hsq h
    linarith
  · intro h
    rw [h]
    norm_num

/-- The formula, axis by axis. A quotient by zero is zero, as the guarded result. -/
theorem accOfThree_eq (w : ThreeRecords K) :
    accOfThree w =
      (fun i => axisAcc (w.h0.bow i) (w.h1.bow i) (w.h2.bow i) w.ms,
        fun i => axisAcc (w.h0.stern i) (w.h1.stern i) (w.h2.stern i) w.ms) := by
  unfold accOfThree accOfThreeIn getBowSternAccIn
  dsimp only [AccConversions.exact]
  split
  · rename_i hguard
    have hms : w.ms = 0 := (interval_guard (K := K) w.ms).mp hguard
    rw [hms]
    simp only [axisAcc, Nat.cast_zero, zero_div, zero_mul, div_zero]
    rfl
  · rfl

/-! ## Uniformly accelerated motion -/

/-- The time of a record in seconds. -/
def seconds (ts : UInt64) : K := (ts.toNat : K) / 1000.0

/-- Bow and stern are where their motions have them at the time of the record. -/
def OnMotion (bow stern : Fin 3 → UniformMotion K) (r : ShipPosRecord K) : Prop :=
  ∀ i, r.bow i = (bow i).position (seconds r.ts) ∧ r.stern i = (stern i).position (seconds r.ts)

/-- The motion has half of the velocity it gains between the first and the third record when
the second one is taken. -/
def HalfGain (m : UniformMotion K) (w : ThreeRecords K) : Prop :=
  m.velocity (seconds w.h1.ts) = m.a * (seconds w.h2.ts - seconds w.h0.ts) / 2.0

omit [LinearOrder K] [IsStrictOrderedRing K] in
/-- On increasing timestamps the unsigned difference is the difference. -/
theorem ms_seconds {w : ThreeRecords K} (h12 : w.h1.ts.toNat ≤ w.h2.ts.toNat) :
    (w.ms : K) / 1000.0 = seconds w.h2.ts - seconds w.h1.ts := by
  have hms : w.ms = w.h2.ts.toNat - w.h1.ts.toNat :=
    UInt64.toNat_sub_of_le _ _ (UInt64.le_iff_toNat_le.mpr h12)
  rw [hms, Nat.cast_sub h12, sub_div, seconds, seconds]

/-- Equal intervals, in milliseconds and in seconds. -/
theorem seconds_sub_eq_iff {w : ThreeRecords K} (h01 : w.h0.ts.toNat ≤ w.h1.ts.toNat)
    (h12 : w.h1.ts.toNat ≤ w.h2.ts.toNat) :
    seconds (K := K) w.h1.ts - seconds w.h0.ts = seconds w.h2.ts - seconds w.h1.ts ↔
      w.h1.ts.toNat - w.h0.ts.toNat = w.h2.ts.toNat - w.h1.ts.toNat := by
  have hthousand : (1000.0 : K) ≠ 0 := by norm_num
  simp only [seconds]
  rw [← sub_div, ← sub_div, div_left_inj' hthousand, ← Nat.cast_sub h01, ← Nat.cast_sub h12,
    Nat.cast_inj]

theorem axisAcc_position_iff (m : UniformMotion K) {w : ThreeRecords K}
    (h12 : w.h1.ts.toNat < w.h2.ts.toNat) :
    axisAcc (m.position (seconds w.h0.ts)) (m.position (seconds w.h1.ts))
        (m.position (seconds w.h2.ts)) w.ms = m.a * 100.0 ↔
      seconds (K := K) w.h1.ts - seconds w.h0.ts = seconds w.h2.ts - seconds w.h1.ts ∨
        HalfGain m w := by
  have hhundred : (100.0 : K) ≠ 0 := by norm_num
  have hlt : seconds (K := K) w.h1.ts < seconds w.h2.ts := by
    rw [seconds, seconds, div_lt_div_iff_of_pos_right (by norm_num), Nat.cast_lt]
    exact h12
  have htwo : (2.0 : K) = 2 := by norm_num
  rw [axisAcc, mul_left_inj' hhundred, ms_seconds h12.le, ← pow_two,
    m.secondDiff_div_eq_iff hlt, HalfGain, htwo]

/-- **When the acceleration is exact.** For three records at least 2 ms apart whose bow and
stern lie on uniformly accelerated motions, `getBowSternAcc` returns the accelerations in cm/s²
if and only if the two intervals are equal, or on every axis bow and stern have, at the second
record, half of the velocity they gain over both intervals. Without acceleration: if and only
if the intervals are equal or the ship is at rest. -/
theorem getBowSternAcc_exact_iff (w : ThreeRecords K) (bow stern : Fin 3 → UniformMotion K)
    (h01 : w.h0.ts.toNat + 2 ≤ w.h1.ts.toNat) (h12 : w.h1.ts.toNat + 2 ≤ w.h2.ts.toNat)
    (h0 : OnMotion bow stern w.h0) (h1 : OnMotion bow stern w.h1) (h2 : OnMotion bow stern w.h2) :
    getBowSternAcc [w.h0, w.h1, w.h2]
        = (fun i => (bow i).a * 100.0, fun i => (stern i).a * 100.0) ↔
      w.h1.ts.toNat - w.h0.ts.toNat = w.h2.ts.toNat - w.h1.ts.toNat ∨
        ∀ i, HalfGain (bow i) w ∧ HalfGain (stern i) w := by
  have hlt : w.h1.ts.toNat < w.h2.ts.toNat := by omega
  rw [← seconds_sub_eq_iff (K := K) (w := w) (by omega) hlt.le]
  show accOfThree w = _ ↔ _
  rw [accOfThree_eq, Prod.mk.injEq, funext_iff, funext_iff, ← forall_and]
  -- axis by axis, the equality of the intervals being common to all of them
  have haxis : ∀ i, (axisAcc (w.h0.bow i) (w.h1.bow i) (w.h2.bow i) w.ms = (bow i).a * 100.0 ∧
      axisAcc (w.h0.stern i) (w.h1.stern i) (w.h2.stern i) w.ms = (stern i).a * 100.0) ↔
        seconds (K := K) w.h1.ts - seconds w.h0.ts = seconds w.h2.ts - seconds w.h1.ts ∨
          HalfGain (bow i) w ∧ HalfGain (stern i) w := by
    intro i
    rw [(h0 i).1, (h1 i).1, (h2 i).1, (h0 i).2, (h1 i).2, (h2 i).2,
      axisAcc_position_iff (bow i) hlt, axisAcc_position_iff (stern i) hlt, ← or_and_left]
  rw [forall_congr' haxis]
  constructor
  · intro hall
    by_cases heq : seconds (K := K) w.h1.ts - seconds w.h0.ts = seconds w.h2.ts - seconds w.h1.ts
    · exact .inl heq
    · exact .inr fun i => (hall i).resolve_left heq
  · rintro (heq | hgain) i
    · exact .inl heq
    · exact .inr (hgain i)

end

/-- One metre per second along the first axis, from the origin. -/
def steady : Fin 3 → UniformMotion ℚ := ![⟨0, 1, 0⟩, ⟨0, 0, 0⟩, ⟨0, 0, 0⟩]

/-- Three records of it 100 ms apart, and three whose last interval is twice as long. -/
def evenRecords : ThreeRecords ℚ := ⟨onAxis 0 0, onAxis 100 0.1, onAxis 200 0.2⟩
def unevenRecords : ThreeRecords ℚ := ⟨onAxis 0 0, onAxis 100 0.1, onAxis 300 0.3⟩

theorem getBowSternAcc_exact_iff_even :
    getBowSternAcc [evenRecords.h0, evenRecords.h1, evenRecords.h2]
        = (fun i => (steady i).a * 100.0, fun i => (steady i).a * 100.0) :=
  (getBowSternAcc_exact_iff evenRecords steady steady (by decide) (by decide)
    (by unfold OnMotion; decide +kernel) (by unfold OnMotion; decide +kernel)
    (by unfold OnMotion; decide +kernel)).mpr (.inl (by decide))

/-- The uneven records lie on the same motion, and the call returns 2.5 m/s² for it. -/
theorem getBowSternAcc_uneven :
    (unevenRecords.h0.ts.toNat + 2 ≤ unevenRecords.h1.ts.toNat ∧
      unevenRecords.h1.ts.toNat + 2 ≤ unevenRecords.h2.ts.toNat) ∧
      (OnMotion steady steady unevenRecords.h0 ∧ OnMotion steady steady unevenRecords.h1 ∧
        OnMotion steady steady unevenRecords.h2) ∧
      getBowSternAcc [unevenRecords.h0, unevenRecords.h1, unevenRecords.h2]
        ≠ (fun i => (steady i).a * 100.0, fun i => (steady i).a * 100.0) := by
  have hreturned :
      (getBowSternAcc [unevenRecords.h0, unevenRecords.h1, unevenRecords.h2]).1 0 = 250 := by
    decide +kernel
  refine ⟨by decide, by unfold OnMotion; decide +kernel, fun h => ?_⟩
  rw [h] at hreturned
  norm_num [steady] at hreturned

end DataOutputter
end ShipMotion
