import Mathlib.Algebra.Order.Floor.Ring
import Mathlib.Tactic.Positivity
import ShipMotion.Utils.Json

/-!
# `buildJson`

A message of ship data: the document is built member by member, and `TwoDecimalWriter` stands
between the walk through it and rapidjson's `Writer`, whose text for a list of events is the
parameter `emit`. Numbers are exact; they have a sign apart from their magnitude, as zero has.
-/

namespace ShipMotion
namespace IndustrialMqttClient

open Utils Utils.Json

/-- The arguments of `buildJson`, with numbers in `N`. -/
structure ShipData (N : Type) where
  berthId : Text
  deviceIp : Text
  timestamp : Text
  shipSway : N
  shipSurge : N
  shipHeave : N
  shipRoll : N
  shipPitch : N
  shipYaw : N
  bowX : N
  bowY : N
  bowZ : N
  sternX : N
  sternY : N
  sternZ : N

/-- A string by its `c_str`: up to the first NUL. -/
def cStr (s : Text) : Text := s.takeWhile (· ≠ Char.ofNat 0)

/-- A finite floating-point number. -/
structure Double (K : Type) [Field K] [LinearOrder K] where
  neg : Bool
  magnitude : K
  nonneg : 0 ≤ magnitude

def Double.value {K : Type} [Field K] [LinearOrder K] (d : Double K) : K :=
  if d.neg then -d.magnitude else d.magnitude

variable {K : Type} [Field K] [LinearOrder K] [FloorRing K]

/-- `std::round` of a magnitude. The sign stays. -/
def stdRound (x : K) : ℤ := ⌊x + 0.5⌋

theorem stdRound_nonneg [IsStrictOrderedRing K] {x : K} (h : 0 ≤ x) : 0 ≤ stdRound x := by
  have hhalf : (0 : K) ≤ 0.5 := by norm_num
  exact Int.floor_nonneg.mpr (add_nonneg h hhalf)

/-- The nearest integer, the even one of two: how a stream rounds the last digit. -/
def roundHalfEven (x : K) : ℤ :=
  if x - ⌊x⌋ < 0.5 then ⌊x⌋
  else if 0.5 < x - ⌊x⌋ then ⌊x⌋ + 1
  else if ⌊x⌋ % 2 = 0 then ⌊x⌋
  else ⌊x⌋ + 1

/-- `d` at the given precision. -/
def atPrecision (precision : ℕ) (d : Double K) : Decimal where
  neg := d.neg
  mantissa := (roundHalfEven (d.magnitude * ((10 ^ precision : ℕ) : K))).toNat
  scale := precision

/-- `ss << std::fixed << std::setprecision(precision) << d`. -/
def fixed (precision : ℕ) (d : Double K) : Text := (atPrecision precision d).text

/-- `TwoDecimalWriter::Double`: the digits are handed to `Base::String`. -/
def double (d : Double K) : Event Decimal := .str (fixed 2 d)

/-- `TwoDecimalWriter`: `Double` is its own, every other event is that of `Writer`. -/
def twoDecimalWriter : Event (Double K) → Event Decimal := replaceNum double

variable [IsStrictOrderedRing K]

def keep2 (val : Double K) : Double K where
  neg := val.neg
  magnitude := stdRound (val.magnitude * 100.0) / 100.0
  nonneg := by
    have hscaled : 0 ≤ val.magnitude * 100.0 := mul_nonneg val.nonneg (by norm_num)
    exact div_nonneg (Int.cast_nonneg (stdRound_nonneg hscaled)) (by norm_num)

/-- `doc`, its members in the order they are added. -/
def document (a : ShipData (Double K)) : Json (Double K) :=
  .obj [
    ("berthId".toList, .str (cStr a.berthId)),
    ("deviceIp".toList, .str (cStr a.deviceIp)),
    ("timestamp".toList, .str (cStr a.timestamp)),
    ("shipSway".toList, .num (keep2 a.shipSway)),
    ("shipSurge".toList, .num (keep2 a.shipSurge)),
    ("shipHeave".toList, .num (keep2 a.shipHeave)),
    ("shipRoll".toList, .num (keep2 a.shipRoll)),
    ("shipPitch".toList, .num (keep2 a.shipPitch)),
    ("shipYaw".toList, .num (keep2 a.shipYaw)),
    ("bowAcceleration".toList,
      .arr [.num (keep2 a.bowX), .num (keep2 a.bowY), .num (keep2 a.bowZ)]),
    ("sternAcceleration".toList,
      .arr [.num (keep2 a.sternX), .num (keep2 a.sternY), .num (keep2 a.sternZ)])]

/-- `buildJson`. The text of the buffer is returned by its `c_str`. -/
def buildJson (emit : List (Event Decimal) → Text) (a : ShipData (Double K)) : Text :=
  cStr (emit ((events (document a)).map twoDecimalWriter))

end IndustrialMqttClient
end ShipMotion
