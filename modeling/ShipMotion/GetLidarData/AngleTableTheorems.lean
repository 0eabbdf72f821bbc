import Mathlib.Tactic.FinCases
import Mathlib.Tactic.NormNum
import Mathlib.Tactic.Linarith
import ShipMotion.GetLidarData.EchoPackets

/-!
# The angle tables are read inside

`negativeToPositive` turns an angle into an index, the same up to whole turns; at `360` degrees, and
at two or more whole turns below zero, the index is one behind the table. No packet leads there:
the angles of a record, with every setting that packets make, stay below a turn.
-/

namespace ShipMotion
namespace GetLidarData

variable {K : Type} [Field K] [LinearOrder K] [FloorRing K]

/-- The index, with the remainder of the source as the remainder that is not negative. -/
theorem negativeToPositive_eq (value : K) :
    negativeToPositive value =
      if 0 ≤ trunc (value * 1000) then
        if trunc (value * 1000) > 360000 then trunc (value * 1000) % 360000
        else trunc (value * 1000)
      else if trunc (value * 1000) < -360000 then 360000 - -trunc (value * 1000) % 360000
      else trunc (value * 1000) + 360000 := by
  unfold negativeToPositive
  generalize trunc (value * 1000) = valueT
  dsimp only
  split_ifs with hpos
  · exact Int.tmod_eq_emod_of_nonneg hpos
  · rfl
  · rw [Int.tmod_neg, ← neg_neg valueT, Int.neg_tmod, neg_neg,
      Int.tmod_eq_emod_of_nonneg (by omega)]
    omega
  · rfl

/-- The index of an angle is the angle in thousandths of a degree, up to whole turns. -/
theorem negativeToPositive_emod (value : K) :
    negativeToPositive value % 360000 = trunc (value * 1000) % 360000 := by
  rw [negativeToPositive_eq]
  split_ifs <;> omega

/-- **Where the tables are read.** The values of an angle are read inside of the tables unless the
angle, cut off to thousandths of a degree, is one turn, or two or more whole turns below zero. -/
theorem angleValues_isSome_iff (m : Platform K) (value : K) :
    (angleValues m value).isSome ↔
      ¬(trunc (value * 1000) = 360000 ∨
        trunc (value * 1000) < -360000 ∧ trunc (value * 1000) % 360000 = 0) := by
  unfold angleValues
  rw [Option.isSome_ite, negativeToPositive_eq]
  split_ifs <;> omega

/-! ## The angles of a packet -/

theorem trunc_le {x : K} {n : ℤ} [IsStrictOrderedRing K] (h : x ≤ n) (hn : 0 ≤ n) :
    trunc x ≤ n := by
  unfold trunc
  split_ifs with hx
  · exact Int.floor_le_iff.mpr (lt_of_le_of_lt h (by norm_num))
  · have := Int.ceil_le.mpr (show x ≤ ((0 : ℤ) : K) by push_cast; exact (not_le.mp hx).le)
    omega

theorem le_trunc {x : K} {n : ℤ} [IsStrictOrderedRing K] (h : (n : K) ≤ x) (hn : n ≤ 0) :
    n ≤ trunc x := by
  unfold trunc
  split_ifs with hx
  · have := Int.floor_nonneg.mpr hx
    omega
  · exact Int.le_ceil_iff.mpr (lt_of_lt_of_le (by norm_num) h)

/-- Angles of less than a turn have values. -/
theorem angleValues_of_lt [IsStrictOrderedRing K] (m : Platform K) {value : K}
    (hlo : -359 ≤ value) (hhi : value ≤ 359) : ∃ v, angleValues m value = some v := by
  apply Option.isSome_iff_exists.mp
  rw [angleValues_isSome_iff]
  have hle : trunc (value * 1000) ≤ 359000 := trunc_le (by push_cast; linarith) (by decide)
  have hge : -359000 ≤ trunc (value * 1000) := le_trunc (by push_cast; linarith) (by decide)
  omega

theorem signed16_bounds {n : ℕ} (h : n < 65536) : -32768 ≤ signed16 n ∧ signed16 n ≤ 32767 := by
  unfold signed16
  split_ifs <;> omega

theorem rawAngle_H_bounds (r : Head) : -32768 ≤ rawAngle_H r ∧ rawAngle_H r ≤ 32767 := by
  apply signed16_bounds
  have := (r 0).toNat_lt
  have := (r 1).toNat_lt
  rw [Nat.shiftLeft_eq]
  omega

/-- A vertical angle has fourteen bits and a sign. -/
theorem rawAngle_V_bounds (r : Head) : -16384 ≤ rawAngle_V r ∧ rawAngle_V r ≤ 16383 := by
  have hlow := (r 3).toNat_lt
  unfold rawAngle_V
  dsimp only
  split_ifs
  · have hhigh := (r 2).toNat_lt
    have hword : ((r 2).toNat <<< 8) + (r 3).toNat < 2 ^ 16 := by
      rw [Nat.shiftLeft_eq]
      omega
    have hlt := Nat.or_lt_two_pow hword (show 0xc000 < 2 ^ 16 by decide)
    have hge : 0xc000 ≤ (((r 2).toNat <<< 8) + (r 3).toNat) ||| 0xc000 := Nat.right_le_or
    unfold signed16
    split_ifs <;> omega
  · have hhigh : (r 2).toNat &&& 0x3f ≤ 0x3f := Nat.and_le_right
    rw [Nat.shiftLeft_eq]
    omega

/-- The settings that packets make. -/
structure Settings.Ranged (s : Settings K) : Prop where
  h_acc : s.m_fH_AngleAcc = 0.01
  v_acc_nonneg : 0 ≤ s.m_fV_AngleAcc
  v_acc_le : s.m_fV_AngleAcc ≤ 0.01
  mirror : ∀ i, -359 ≤ s.m_fPutTheMirrorOffAngle i ∧ s.m_fPutTheMirrorOffAngle i ≤ 359
  deadZone_nonneg : 0 ≤ s.m_DeadZoneOffset
  deadZone_le : s.m_DeadZoneOffset ≤ 11

namespace Settings.Ranged

variable [IsStrictOrderedRing K] {self : Settings K}

theorem initial : (Settings.initial : Settings K).Ranged := by
  refine ⟨rfl, ?_, ?_, fun i => ?_, ?_, ?_⟩
  case _ => norm_num [Settings.initial]
  case _ => norm_num [Settings.initial]
  case _ => fin_cases i <;> norm_num [Settings.initial]
  case _ => norm_num [Settings.initial]
  case _ => norm_num [Settings.initial]

theorem of192 (h : self.Ranged) : self.of192.Ranged := by
  refine ⟨h.h_acc, ?_, ?_, fun i => ?_, ?_, ?_⟩
  case _ => norm_num [Settings.of192]
  case _ => norm_num [Settings.of192]
  case _ => fin_cases i <;> norm_num [Settings.of192]
  case _ => norm_num [Settings.of192]
  case _ => norm_num [Settings.of192]

theorem lidarKind (h : self.Ranged) (data : Packet) : (self.lidarKind data).Ranged := by
  unfold Settings.lidarKind
  split_ifs
  · exact ⟨h.h_acc, h.v_acc_nonneg, h.v_acc_le, h.mirror, h.deadZone_nonneg, h.deadZone_le⟩
  · exact h.of192
  · have h0 : (Settings.initial : Settings K).Ranged := .initial
    exact ⟨rfl, h0.v_acc_nonneg, h0.v_acc_le, h0.mirror, h0.deadZone_nonneg, h0.deadZone_le⟩

theorem devicePacket (h : self.Ranged) (data : Packet) : (self.devicePacket data).Ranged := by
  have hpoints : ({ self with m_HorizontalPoints :=
      ((data 184).toNat <<< 8) + (data 185).toNat } : Settings K).Ranged :=
    ⟨h.h_acc, h.v_acc_nonneg, h.v_acc_le, h.mirror, h.deadZone_nonneg, h.deadZone_le⟩
  have hkind := hpoints.lidarKind data
  unfold Settings.devicePacket
  dsimp only
  split_ifs
  · exact ⟨hkind.h_acc, by norm_num, by norm_num, hkind.mirror, hkind.deadZone_nonneg,
      hkind.deadZone_le⟩
  · exact ⟨hkind.h_acc, by norm_num, le_rfl, hkind.mirror, hkind.deadZone_nonneg,
      hkind.deadZone_le⟩

theorem dataPacket (h : self.Ranged) (data : Packet) : (self.dataPacket data).Ranged := by
  unfold Settings.dataPacket
  split_ifs
  · exact h.of192
  · exact h

/-- The two angles of a record lie within a turn, the vertical one also with the offset of the
galvanometer. -/
theorem angle_H (h : self.Ranged) (r : Head) :
    -359 ≤ (rawAngle_H r * self.m_fH_AngleAcc : K) ∧
      (rawAngle_H r * self.m_fH_AngleAcc : K) ≤ 359 := by
  obtain ⟨hlo, hhi⟩ := rawAngle_H_bounds r
  have hloK : (-32768 : K) ≤ rawAngle_H r := by exact_mod_cast hlo
  have hhiK : (rawAngle_H r : K) ≤ 32767 := by exact_mod_cast hhi
  rw [h.h_acc]
  norm_num
  constructor <;> linarith

theorem angle_V (h : self.Ranged) (r : Head) :
    -359 ≤ (rawAngle_V r * self.m_fV_AngleAcc + self.m_DeadZoneOffset : K) ∧
      (rawAngle_V r * self.m_fV_AngleAcc + self.m_DeadZoneOffset : K) ≤ 359 := by
  obtain ⟨hlo, hhi⟩ := rawAngle_V_bounds r
  have hloK : (-16384 : K) ≤ rawAngle_V r := by exact_mod_cast hlo
  have hhiK : (rawAngle_V r : K) ≤ 16383 := by exact_mod_cast hhi
  have hv := h.v_acc_le
  norm_num at hv
  have hmulLo := mul_le_mul_of_nonneg_right hloK h.v_acc_nonneg
  have hmulHi := mul_le_mul_of_nonneg_right hhiK h.v_acc_nonneg
  have := h.deadZone_nonneg
  have := h.deadZone_le
  constructor <;> linarith

/-- The points of every record can be computed. -/
theorem xyzCalculate (h : self.Ranged) (m : Platform K) (r : Head) (tDistance tDistance2 : K) :
    ∃ v, GetLidarData.xyzCalculate m self (tChannelID r) (rawAngle_H r * self.m_fH_AngleAcc)
      (rawAngle_V r * self.m_fV_AngleAcc) tDistance tDistance2 = some v := by
  obtain ⟨v30, h30⟩ := angleValues_of_lt m (by norm_num : (-359 : K) ≤ 30) (by norm_num)
  obtain ⟨v60, h60⟩ := angleValues_of_lt m (by norm_num : (-359 : K) ≤ 60) (by norm_num)
  obtain ⟨vM, hM⟩ := angleValues_of_lt m (h.mirror (tChannelID r)).1 (h.mirror (tChannelID r)).2
  obtain ⟨vV, hV⟩ := angleValues_of_lt m (h.angle_V r).1 (h.angle_V r).2
  obtain ⟨vH, hH⟩ := angleValues_of_lt m (h.angle_H r).1 (h.angle_H r).2
  unfold GetLidarData.xyzCalculate
  simp only [h30, h60, hM, hV, hH, Option.bind_eq_bind, Option.bind_some]
  exact ⟨_, rfl⟩

theorem singlePoints (h : self.Ranged) (m : Platform K) (allTimestamp lastAllTimestamp : UInt64)
    (data : Packet) (k : Fin EchoFormat.single.records) :
    ∃ ps, GetLidarData.singlePoints m self allTimestamp lastAllTimestamp data k = some ps := by
  obtain ⟨v, hv⟩ := h.xyzCalculate m (EchoFormat.single.head data k)
    (rawDistance (EchoFormat.single.head data k) * self.m_fDistanceAcc) (-1)
  unfold GetLidarData.singlePoints
  simp only [hv, Option.bind_eq_bind, Option.bind_some]
  exact ⟨_, rfl⟩

/-- A record of one echo has one point, at the time of the record. -/
theorem singlePoint (h : self.Ranged) (m : Platform K) (allTimestamp lastAllTimestamp : UInt64)
    (data : Packet) (k : Fin EchoFormat.single.records) :
    ∃ p, GetLidarData.singlePoints m self allTimestamp lastAllTimestamp data k = some [p] ∧
      p.Mtimestamp_nsce
        = pointTime m allTimestamp lastAllTimestamp EchoFormat.single.records k := by
  obtain ⟨ps, hps⟩ := h.singlePoints m allTimestamp lastAllTimestamp data k
  obtain ⟨v, -, hv⟩ := Option.bind_eq_some_iff.mp hps
  cases hv
  exact ⟨_, hps, rfl⟩

theorem doublePoints (h : self.Ranged) (m : Platform K) (allTimestamp lastAllTimestamp : UInt64)
    (data : Packet) (k : Fin EchoFormat.double.records) :
    ∃ ps, GetLidarData.doublePoints m self allTimestamp lastAllTimestamp data k = some ps := by
  obtain ⟨v, hv⟩ := h.xyzCalculate m (EchoFormat.double.head data k)
    (rawDistance (EchoFormat.double.head data k) * self.m_fDistanceAcc)
    ((((secondEcho data k 0).toNat <<< 16) + ((secondEcho data k 1).toNat <<< 8)
      + (secondEcho data k 2).toNat : ℕ) * self.m_fDistanceAcc)
  unfold GetLidarData.doublePoints
  simp only [hv, Option.bind_eq_bind, Option.bind_some]
  exact ⟨_, rfl⟩

end Settings.Ranged
end GetLidarData
end ShipMotion
