import Mathlib.Algebra.Order.Floor.Ring
import ShipMotion.Eigen

/-!
# The lidar driver: packets, points and messages

`GetLidarData` receives the packets of a lidar, keeps the last device packet, and tells its user
how the reception goes. A packet is the 1206 bytes the parser reads; anything shorter is not
taken. Angles are looked up in two tables of 360000 entries, one for each thousandth of a degree.
-/

namespace ShipMotion
namespace GetLidarData

/-- The bytes of a packet. -/
abbrev Packet := Fin 1206 → UInt8

instance neZero_packet : NeZero 1206 := ⟨by decide⟩

/-- `CollectionDataArrive`: the packet that goes to `allDataValue`, if there is one. -/
def collectionDataArrive (pData : List UInt8) : Option Packet :=
  if h : 1206 ≤ pData.length then some fun i => pData.get ⟨i, Nat.lt_of_lt_of_le i.isLt h⟩
  else none

/-- A datagram of 1206 bytes is a packet. -/
theorem collectionDataArrive_ofFn (data : Packet) :
    collectionDataArrive (List.ofFn data) = some data := by
  rw [collectionDataArrive, dif_pos (Nat.le_of_eq List.length_ofFn.symm)]
  exact congrArg some (funext fun i => by rw [List.get_eq_getElem, List.getElem_ofFn])

/-- The header of a device packet. -/
def isDevicePacket (data : Packet) : Bool :=
  (data 0 = 0x00 || data 0 = 0xa5) && data 1 = 0xff && data 2 = 0x00 && data 3 = 0x5a

/-- `MuchLidarData`, a point. -/
structure MuchLidarData (K : Type) where
  X : K
  Y : K
  Z : K
  ID : ℕ
  H_angle : K
  V_angle : K
  Distance : K
  Intensity : ℕ
  Mtimestamp_nsce : UInt64

/-! ## Messages -/

/-- What the class tells of its packets. -/
structure Feedback where
  isSuccessfulFlag : Bool
  mDataInfoString : String
  mDevInfoString : String
  deriving DecidableEq

/-- `messFunction(strValue, gValue)`, without its line on the console. -/
def Feedback.messFunction (self : Feedback) (strValue : String) (gValue : ℕ) : Feedback :=
  let self :=
    if (10000 ≤ gValue ∧ gValue ≤ 10009) ∨ (10030 ≤ gValue ∧ gValue ≤ 10039) then
      { self with isSuccessfulFlag := false, mDataInfoString := strValue }
    else self
  if 10010 ≤ gValue ∧ gValue ≤ 10019 then { self with mDevInfoString := strValue } else self

/-! ## Angles -/

/-- The mathematics library, and what a conversion to `uint64_t` gives for a number that it cannot
hold. -/
structure Platform (K : Type) extends Libm K where
  sqrt : K → K
  outOfRange : K → UInt64

variable {K : Type} [Field K] [LinearOrder K] [FloorRing K]

/-- A conversion to an integer: the digits after the point are cut off. -/
def trunc (x : K) : ℤ := if 0 ≤ x then ⌊x⌋ else ⌈x⌉

/-- A conversion to `uint64_t`. -/
def Platform.toU64 (m : Platform K) (x : K) : UInt64 :=
  if 0 ≤ trunc x ∧ trunc x < 2 ^ 64 then UInt64.ofNat (trunc x).toNat else m.outOfRange x

/-- `PI`, as the driver has it. -/
def PI : K := 3.1415926

/-- `cosAngleValue[FF]` -/
def cosAngleValue (m : Platform K) (FF : ℕ) : K := m.cos ((FF : K) / 1000.0 * PI / 180.0)

/-- `sinAngleValue[FF]` -/
def sinAngleValue (m : Platform K) (FF : ℕ) : K := m.sin ((FF : K) / 1000.0 * PI / 180.0)

/-- `NegativeToPositive(value)`: the index of an angle. -/
def negativeToPositive (value : K) : ℤ :=
  let valueT := trunc (value * 1000)
  if 0 ≤ valueT then
    if valueT > 360000 then valueT.tmod 360000 else valueT
  else
    if valueT < -360000 then valueT.tmod (-360000) + 360000 else valueT + 360000

/-- The cosine and the sine of an angle, from the tables; `none` is a read outside of them. -/
def angleValues (m : Platform K) (value : K) : Option (K × K) :=
  let index := negativeToPositive value
  if 0 ≤ index ∧ index < 360000 then
    some (cosAngleValue m index.toNat, sinAngleValue m index.toNat)
  else none

end GetLidarData
end ShipMotion
