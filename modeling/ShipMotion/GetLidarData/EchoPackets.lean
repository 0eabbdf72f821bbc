import Mathlib.Data.List.FinRange
import ShipMotion.GetLidarData

/-!
# `GetLidarData_LS::LidarRun`

The parser takes the packets one after another. A device packet sets the accuracies and offsets;
any other packet is a data packet of 149 records of one echo or 99 records of two. A record is a
marker, which ends a frame, or it gives a point for each echo. A frame of more than 3000000 points
takes no more of them. The callback is left out: nothing sets it.
-/

namespace ShipMotion
namespace GetLidarData

/-! ## Settings -/

section Settings

variable {K : Type} [Field K]

/-- The members that packets set and the points are computed with. -/
structure Settings (K : Type) where
  m_StackFrame : ℕ
  m_HorizontalPoints : ℕ
  m_fDistanceAcc : K
  m_fH_AngleAcc : K
  m_fV_AngleAcc : K
  m_fPutTheMirrorOffAngle : Fin 4 → K
  m_DeadZoneOffset : K

/-- After the constructor. -/
def Settings.initial : Settings K where
  m_StackFrame := 1
  m_HorizontalPoints := 0
  m_fDistanceAcc := 0.001
  m_fH_AngleAcc := 0.01
  m_fV_AngleAcc := 0.0025
  m_fPutTheMirrorOffAngle := ![1.5, -0.5, 0.5, -1.5]
  m_DeadZoneOffset := 6.37

/-- What a lidar of the kind `192` is set to. -/
def Settings.of192 (self : Settings K) : Settings K :=
  { self with
    m_StackFrame := 1
    m_fV_AngleAcc := 0.01
    m_fDistanceAcc := 0.004
    m_fPutTheMirrorOffAngle := ![1.5, 0.5, -0.5, -1.5]
    m_DeadZoneOffset := 10.82 }

/-- The kind of the lidar, by byte 231 of a device packet. -/
def Settings.lidarKind (self : Settings K) (data : Packet) : Settings K :=
  if data 231 = 64 ∨ data 231 = 65 then { self with m_StackFrame := 2 }
  else if data 231 = 192 then self.of192
  else
    { self with
      m_fDistanceAcc := 0.001
      m_fH_AngleAcc := 0.01
      m_fV_AngleAcc := 0.0025
      m_StackFrame := 1
      m_DeadZoneOffset := 6.37
      m_fPutTheMirrorOffAngle := ![1.5, -0.5, 0.5, -1.5] }

/-- What a device packet sets. -/
def Settings.devicePacket (self : Settings K) (data : Packet) : Settings K :=
  let self := { self with m_HorizontalPoints := ((data 184).toNat <<< 8) + (data 185).toNat }
  let self := self.lidarKind data
  let majorVersion := (data 1202).toNat
  let minorVersion1 := (data 1203).toNat / 16
  -- up to version 1.1 the vertical angle counts in hundredths of a degree
  if majorVersion > 1 ∨ (1 = majorVersion ∧ minorVersion1 > 1) then
    { self with m_fV_AngleAcc := 0.0025 }
  else { self with m_fV_AngleAcc := 0.01 }

/-- What a data packet sets. -/
def Settings.dataPacket (self : Settings K) (data : Packet) : Settings K :=
  if data 1204 = 192 ∧ self.m_HorizontalPoints ≠ 0 then self.of192 else self

end Settings

/-! ## The time of a packet -/

/-- `UTC_Time` -/
structure UTC_Time where
  year : ℕ
  month : ℕ
  day : ℕ
  hour : ℕ
  minute : ℕ
  second : ℕ

/-- Days before a year, counted from year `0` of the Gregorian calendar. -/
def daysBeforeYear (year : ℤ) : ℤ :=
  365 * year + (year - 1) / 4 - (year - 1) / 100 + (year - 1) / 400 + 1

def isLeapYear (year : ℤ) : Bool := year % 4 = 0 && (year % 100 ≠ 0 || year % 400 = 0)

/-- Days before a month of its year; months count from `0`. -/
def daysBeforeMonth (leap : Bool) (mon : ℕ) : ℤ :=
  let days := [0, 31, 59, 90, 120, 151, 181, 212, 243, 273, 304, 334].getD mon 0
  if leap ∧ 2 ≤ mon then days + 1 else days

/-- `timegm`, in seconds since 1970. Months outside of the year count into other years, and days,
hours, minutes and seconds add up. -/
def timegm (t : UTC_Time) : ℤ :=
  let mon : ℤ := (t.month : ℤ) - 1
  let year : ℤ := (t.year : ℤ) + mon / 12
  let days := daysBeforeYear year - daysBeforeYear 1970
    + daysBeforeMonth (isLeapYear year) (mon % 12).toNat + ((t.day : ℤ) - 1)
  ((days * 24 + t.hour) * 60 + t.minute) * 60 + t.second

/-- `allTimestamp` of a data packet: seconds from PTP or from the GPS time, and nanoseconds. -/
def packetTime (data : Packet) : UInt64 :=
  let timestamp_nsce : UInt64 :=
    ((data 1200).toUInt64 <<< 24) + ((data 1201).toUInt64 <<< 16) + ((data 1202).toUInt64 <<< 8)
      + (data 1203).toUInt64
  if data 1194 = 0xff then
    let timestamp_s : UInt64 :=
      ((data 1195).toUInt64 <<< 32) + ((data 1196).toUInt64 <<< 24)
        + ((data 1197).toUInt64 <<< 16) + ((data 1198).toUInt64 <<< 8) + (data 1199).toUInt64
    timestamp_s * 1000000000 + timestamp_nsce
  else
    let m_UTC_Time : UTC_Time :=
      { year := (data 1194).toNat + 2000, month := (data 1195).toNat, day := (data 1196).toNat
        hour := (data 1197).toNat, minute := (data 1198).toNat, second := (data 1199).toNat }
    let timestamp_s := UInt64.ofInt (timegm m_UTC_Time)
    timestamp_s * 1000000000 + timestamp_nsce

/-! ## Points -/

/-- How the records of a packet lie in it. -/
structure EchoFormat where
  bytes : ℕ
  records : ℕ
  head_le : 8 ≤ bytes
  fits : bytes * records ≤ 1206

def EchoFormat.single : EchoFormat := ⟨8, 149, by decide, by decide⟩

def EchoFormat.double : EchoFormat := ⟨12, 99, by decide, by decide⟩

theorem EchoFormat.offset_lt (f : EchoFormat) {k j : ℕ} (hk : k < f.records) (hj : j < f.bytes) :
    f.bytes * k + j < 1206 := by
  have hrow : f.bytes * (k + 1) ≤ f.bytes * f.records := Nat.mul_le_mul_left _ hk
  have := f.fits
  rw [Nat.mul_succ] at hrow
  omega

/-- The first eight bytes of a record. -/
abbrev Head := Fin 8 → UInt8

/-- `data[i]` to `data[i + 7]`, for the record `k` at `i`. -/
def EchoFormat.head (f : EchoFormat) (data : Packet) (k : Fin f.records) : Head := fun j =>
  data ⟨f.bytes * k + j, f.offset_lt k.isLt (Nat.lt_of_lt_of_le j.isLt f.head_le)⟩

/-- `data[i + 8]` to `data[i + 11]` of a record of two echoes. -/
def secondEcho (data : Packet) (k : Fin EchoFormat.double.records) : Fin 4 → UInt8 := fun j =>
  data ⟨12 * k + (8 + j), EchoFormat.double.offset_lt k.isLt (Nat.add_lt_add_left j.isLt 8)⟩

/-- A record that ends a frame. -/
def isMarker (r : Head) : Bool :=
  r 0 = 0xff && r 1 = 0xaa && r 2 = 0xbb && r 3 = 0xcc && r 4 = 0xdd

/-- The distance of a record, before it is scaled. -/
def rawDistance (r : Head) : ℕ :=
  ((r 4).toNat <<< 16) + ((r 5).toNat <<< 8) + (r 6).toNat

/-- A number of sixteen bits, read as a signed one. -/
def signed16 (n : ℕ) : ℤ := if n > 32767 then (n : ℤ) - 65536 else n

def rawAngle_H (r : Head) : ℤ := signed16 (((r 0).toNat <<< 8) + (r 1).toNat)

def rawAngle_V (r : Head) : ℤ :=
  let tTempAngle := (r 2).toNat
  let tSymmbol := (tTempAngle >>> 5) &&& 0x01
  if 1 = tSymmbol then
    let iAngle_V := ((r 2).toNat <<< 8) + (r 3).toNat
    signed16 (iAngle_V ||| 0xc000)
  else
    let iAngle_Hight := tTempAngle &&& 0x3f
    ((iAngle_Hight <<< 8) + (r 3).toNat : ℕ)

theorem channel_lt (b : UInt8) : b.toNat >>> 6 < 4 := by
  have := b.toNat_lt
  rw [Nat.shiftRight_eq_div_pow]
  omega

def tChannelID (r : Head) : Fin 4 := ⟨(r 2).toNat >>> 6, channel_lt (r 2)⟩

/-- `m_PointXYZ` -/
structure PointXYZ2 (K : Type) where
  x1 : K
  y1 : K
  z1 : K
  x2 : K
  y2 : K
  z2 : K

section Points

variable {K : Type} [Field K] [LinearOrder K] [FloorRing K]

/-- `XYZ_calculate`: the points of a record, and its two angles after the distortion is taken out
of them. `none` is a read outside of the tables. -/
def xyzCalculate (m : Platform K) (self : Settings K) (tChannelID : Fin 4)
    (fAngle_H fAngle_V tDistance tDistance2 : K) : Option (PointXYZ2 K × K × K) := do
  let fPutTheMirrorOffAngle := self.m_fPutTheMirrorOffAngle tChannelID
  let fGalvanometrtAngle := fAngle_V + self.m_DeadZoneOffset
  let (cos30, sin30) ← angleValues m 30
  let (cosMirror, sinMirror) ← angleValues m fPutTheMirrorOffAngle
  let (cosGalvanometer, sinGalvanometer) ← angleValues m fGalvanometrtAngle
  let (_, sin60) ← angleValues m 60
  let (cosH, sinH) ← angleValues m fAngle_H
  let fAngle_R0 := cos30 * cosMirror * cosGalvanometer - sinGalvanometer * sinMirror
  let fSinV_angle := 2.0 * fAngle_R0 * sinGalvanometer + sinMirror
  let fCosV_angle := m.sqrt (1 - fSinV_angle * fSinV_angle)
  let fSinCite := (2.0 * fAngle_R0 * cosGalvanometer * sin30 - cosMirror * sin60) / fCosV_angle
  let fCosCite := m.sqrt (1 - fSinCite * fSinCite)
  let fSinCite_H := sinH * fCosCite + cosH * fSinCite
  let fCosCite_H := cosH * fCosCite - sinH * fSinCite
  let echo (distance : K) : K × K × K :=
    (distance * fCosV_angle * fSinCite_H, distance * fCosV_angle * fCosCite_H,
      distance * fSinV_angle)
  let (x1, y1, z1) := echo tDistance
  let (x2, y2, z2) := if 0 < tDistance2 then echo tDistance2 else (0.0, 0.0, 0.0)
  some (⟨x1, y1, z1, x2, y2, z2⟩, m.asin fSinCite_H * 180.0 / PI, m.asin fSinV_angle * 180.0 / PI)

/-- `PointIntervalT_ns`, for a packet of `records` records. -/
def pointInterval (allTimestamp lastAllTimestamp : UInt64) (records : ℕ) : K :=
  ((allTimestamp - lastAllTimestamp).toNat : K) * 1.0 / records

/-- `Mtimestamp_nsce` of the points of record `k`. -/
def pointTime (m : Platform K) (allTimestamp lastAllTimestamp : UInt64) (records k : ℕ) : UInt64 :=
  m.toU64 ((allTimestamp.toNat : K)
    - pointInterval allTimestamp lastAllTimestamp records * ((records - 1 - k : ℕ) : K))

/-- The point of a record of one echo. -/
def singlePoints (m : Platform K) (self : Settings K) (allTimestamp lastAllTimestamp : UInt64)
    (data : Packet) (k : Fin EchoFormat.single.records) : Option (List (MuchLidarData K)) := do
  let r := EchoFormat.single.head data k
  let tfAngle_H : K := rawAngle_H r * self.m_fH_AngleAcc
  let fAngle_V : K := rawAngle_V r * self.m_fV_AngleAcc
  let tDistance : K := rawDistance r * self.m_fDistanceAcc
  let (m_point_1, H_angle, V_angle) ←
    xyzCalculate m self (tChannelID r) tfAngle_H fAngle_V tDistance (-1)
  some [{
    X := m_point_1.x1, Y := m_point_1.y1, Z := m_point_1.z1, ID := tChannelID r
    H_angle, V_angle, Distance := tDistance, Intensity := (r 7).toNat
    Mtimestamp_nsce := pointTime m allTimestamp lastAllTimestamp EchoFormat.single.records k }]

/-- The two points of a record of two echoes. -/
def doublePoints (m : Platform K) (self : Settings K) (allTimestamp lastAllTimestamp : UInt64)
    (data : Packet) (k : Fin EchoFormat.double.records) : Option (List (MuchLidarData K)) := do
  let r := EchoFormat.double.head data k
  let second := secondEcho data k
  let tfAngle_H : K := rawAngle_H r * self.m_fH_AngleAcc
  let tfAngle_V : K := rawAngle_V r * self.m_fV_AngleAcc
  let tDistance : K := rawDistance r * self.m_fDistanceAcc
  let tDistance_2 : K :=
    ((((second 0).toNat <<< 16) + ((second 1).toNat <<< 8) + (second 2).toNat : ℕ) : K)
      * self.m_fDistanceAcc
  let (m_point, H_angle, V_angle) ←
    xyzCalculate m self (tChannelID r) tfAngle_H tfAngle_V tDistance tDistance_2
  let Mtimestamp_nsce := pointTime m allTimestamp lastAllTimestamp EchoFormat.double.records k
  some [
    { X := m_point.x1, Y := m_point.y1, Z := m_point.z1, ID := tChannelID r
      H_angle, V_angle, Distance := tDistance, Intensity := (r 7).toNat, Mtimestamp_nsce },
    { X := m_point.x2, Y := m_point.y2, Z := m_point.z2, ID := tChannelID r
      H_angle, V_angle, Distance := tDistance_2, Intensity := (second 3).toNat, Mtimestamp_nsce }]

end Points
end GetLidarData
end ShipMotion
