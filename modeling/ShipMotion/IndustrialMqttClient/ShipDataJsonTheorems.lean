import Mathlib.Data.List.TakeWhile
import Mathlib.Data.Rat.Floor
import Mathlib.Tactic.Linarith
import ShipMotion.IndustrialMqttClient.ShipDataJson
import ShipMotion.Utils.JsonTheorems

/-!
# What a message of ship data decodes to

The numbers of the document are the arguments rounded, and their texts have the right digits. But
`TwoDecimalWriter::Double` hands these digits to `Base::String`, so that the text between the
quotes is the number and the member is a string: no message decodes to numbers.
-/

namespace ShipMotion
namespace IndustrialMqttClient

open Utils Utils.Json

/-! ## The writer and the reader -/

/-- Standard JSON: what is written for a value is read as that value, a number by its digits, and
control characters are escaped. -/
structure StandardJson (emit : List (Event Decimal) → Text)
    (parse : Text → Option (Json Decimal)) : Prop where
  parse_emit : ∀ v, parse (emit (events v)) = some v
  printable : ∀ v, Printable (emit (events v))

theorem standardJson_write : StandardJson write parse := ⟨parse_write, printable_write⟩

/-! ## Strings -/

def NulFree (s : Text) : Prop := Char.ofNat 0 ∉ s

theorem cStr_of_nulFree {s : Text} (h : NulFree s) : cStr s = s := by
  refine List.takeWhile_eq_self_iff.mpr fun c hc => ?_
  have hne : c ≠ Char.ofNat 0 := fun heq => h (heq ▸ hc)
  simp [hne]

theorem nulFree_of_printable {s : Text} (h : Printable s) : NulFree s := by
  intro hmem
  have hcode := h _ hmem
  revert hcode
  decide

/-! ## Numbers -/

variable {K : Type} [Field K] [LinearOrder K] [FloorRing K]

/-- `y` is `x` rounded to two decimals, a half away from zero. -/
def RoundsTo (x y : K) : Prop :=
  ∃ n : ℤ, y = n / 100.0 ∧ |x - y| ≤ 0.005 ∧ (|x - y| = 0.005 → |x| < |y|)

omit [FloorRing K] in
/-- Rounding does not depend on the sign. -/
theorem RoundsTo.neg {x y : K} (h : RoundsTo x y) : RoundsTo (-x) (-y) := by
  obtain ⟨n, hn, hnear, htie⟩ := h
  have hdiff : |-x - -y| = |x - y| := by rw [neg_sub_neg, abs_sub_comm]
  refine ⟨-n, ?_, ?_, ?_⟩
  · rw [hn, Int.cast_neg, neg_div]
  · rw [hdiff]
    exact hnear
  · rw [hdiff, abs_neg, abs_neg]
    exact htie

section Rounding

variable [IsStrictOrderedRing K]

/-- The nearest integer is at most a half away, and just a half only if it is larger. -/
theorem stdRound_spec (x : K) :
    |x - stdRound x| ≤ 0.5 ∧ (|x - stdRound x| = 0.5 → x < stdRound x) := by
  have hlow := Int.floor_le (x + 0.5)
  have hupp := Int.lt_floor_add_one (x + 0.5)
  rw [stdRound]
  refine ⟨abs_le.mpr ⟨by linarith, by linarith⟩, fun htie => ?_⟩
  -- the floor of `x + 0.5` is never half below `x`: a tie goes up
  have hbelow : x - (⌊x + 0.5⌋ : K) = -0.5 := by
    rcases abs_eq (by norm_num : (0 : K) ≤ 0.5) |>.mp htie with h | h
    · linarith
    · exact h
  have hhalf : (0 : K) < 0.5 := by norm_num
  linarith

theorem magnitude_keep2_roundsTo (val : Double K) :
    RoundsTo val.magnitude (keep2 val).magnitude := by
  obtain ⟨hnear, htie⟩ := stdRound_spec (val.magnitude * 100.0)
  have hpos : (0 : K) < 100.0 := by norm_num
  have hdiff : val.magnitude - (keep2 val).magnitude
      = (val.magnitude * 100.0 - stdRound (val.magnitude * 100.0)) / 100.0 := by
    rw [keep2, sub_div, mul_div_cancel_right₀ _ hpos.ne']
  have habs : |val.magnitude - (keep2 val).magnitude|
      = |val.magnitude * 100.0 - stdRound (val.magnitude * 100.0)| / 100.0 := by
    rw [hdiff, abs_div, abs_of_pos hpos]
  have hhalf : (0.005 : K) = 0.5 / 100.0 := by norm_num
  refine ⟨stdRound (val.magnitude * 100.0), rfl, ?_, fun h => ?_⟩
  · rw [habs, hhalf]
    exact div_le_div_of_nonneg_right hnear hpos.le
  · rw [habs, hhalf, div_left_inj' hpos.ne'] at h
    rw [abs_of_nonneg val.nonneg, abs_of_nonneg (keep2 val).nonneg]
    exact (lt_div_iff₀ hpos).mpr (htie h)

theorem keep2_roundsTo (val : Double K) : RoundsTo val.value (keep2 val).value := by
  have hmagnitude := magnitude_keep2_roundsTo val
  have hneg : (keep2 val).neg = val.neg := rfl
  rw [Double.value, Double.value, hneg]
  cases val.neg with
  | true => exact hmagnitude.neg
  | false => exact hmagnitude

theorem roundHalfEven_intCast (n : ℤ) : roundHalfEven (n : K) = n := by
  have hhalf : (0 : K) < 0.5 := by norm_num
  rw [roundHalfEven, Int.floor_intCast, sub_self, if_pos hhalf]

/-- A number of the document has two decimals, and is printed as it is, with its sign. -/
theorem atPrecision_keep2 (val : Double K) :
    (atPrecision 2 (keep2 val)).value = (keep2 val).value := by
  have hhundred : ((10 ^ 2 : ℕ) : K) = 100.0 := by norm_num
  have hne : (100.0 : K) ≠ 0 := by norm_num
  have hscaled : 0 ≤ val.magnitude * 100.0 := mul_nonneg val.nonneg (by norm_num)
  have hround : roundHalfEven ((keep2 val).magnitude * ((10 ^ 2 : ℕ) : K))
      = stdRound (val.magnitude * 100.0) := by
    rw [hhundred, keep2, div_mul_cancel₀ _ hne, roundHalfEven_intCast]
  have hmantissa : ((atPrecision 2 (keep2 val)).mantissa : K)
      = stdRound (val.magnitude * 100.0) := by
    rw [atPrecision, hround, ← Int.cast_natCast, Int.toNat_of_nonneg (stdRound_nonneg hscaled)]
  have hscale : (atPrecision 2 (keep2 val)).scale = 2 := rfl
  have hmagnitude : (keep2 val).magnitude = stdRound (val.magnitude * 100.0) / 100.0 := rfl
  have hneg : (atPrecision 2 (keep2 val)).neg = (keep2 val).neg := rfl
  rw [Decimal.value, hmantissa, hscale, hhundred, Double.value, hmagnitude, hneg]
  split
  · exact neg_div _ _
  · rfl

theorem roundsTo_atPrecision (val : Double K) :
    RoundsTo val.value (atPrecision 2 (keep2 val)).value := by
  rw [atPrecision_keep2]
  exact keep2_roundsTo val

example : fixed 2 (keep2 (⟨true, 1.235, by norm_num⟩ : Double ℚ)) = "-1.24".toList := by
  decide +kernel

-- the sign of a number is printed when nothing else of it is left
example : fixed 2 (keep2 (⟨true, 0.001, by norm_num⟩ : Double ℚ)) = "-0.00".toList := by
  decide +kernel

end Rounding

/-! ## The message -/

/-- The member is the argument rounded, as a number is told in the message. -/
def Number (tell : Decimal → Json Decimal) (x : Double K) (member : Option (Json Decimal)) :
    Prop :=
  ∃ d : Decimal, member = some (tell d) ∧ RoundsTo x.value d.value

/-- The member is an array of three such numbers. -/
def Vector (tell : Decimal → Json Decimal) (x y z : Double K) (member : Option (Json Decimal)) :
    Prop :=
  ∃ dx dy dz : Decimal, member = some (.arr [tell dx, tell dy, tell dz]) ∧
    RoundsTo x.value dx.value ∧ RoundsTo y.value dy.value ∧ RoundsTo z.value dz.value

/-- The object has the arguments as its members, with numbers told by `tell`: `.num` for numbers
that are numbers. -/
structure Carries (tell : Decimal → Json Decimal) (a : ShipData (Double K)) (v : Json Decimal) :
    Prop where
  berthId : v.get? "berthId".toList = some (.str a.berthId)
  deviceIp : v.get? "deviceIp".toList = some (.str a.deviceIp)
  timestamp : v.get? "timestamp".toList = some (.str a.timestamp)
  shipSway : Number tell a.shipSway (v.get? "shipSway".toList)
  shipSurge : Number tell a.shipSurge (v.get? "shipSurge".toList)
  shipHeave : Number tell a.shipHeave (v.get? "shipHeave".toList)
  shipRoll : Number tell a.shipRoll (v.get? "shipRoll".toList)
  shipPitch : Number tell a.shipPitch (v.get? "shipPitch".toList)
  shipYaw : Number tell a.shipYaw (v.get? "shipYaw".toList)
  bowAcceleration : Vector tell a.bowX a.bowY a.bowZ (v.get? "bowAcceleration".toList)
  sternAcceleration : Vector tell a.sternX a.sternY a.sternZ (v.get? "sternAcceleration".toList)

structure ShipData.StringsNulFree (a : ShipData (Double K)) : Prop where
  berthId : NulFree a.berthId
  deviceIp : NulFree a.deviceIp
  timestamp : NulFree a.timestamp

variable [IsStrictOrderedRing K]

/-- The document with its numbers told by `tell`, at two decimals. -/
def told (tell : Decimal → Json Decimal) (a : ShipData (Double K)) : Json Decimal :=
  bindNum (fun d => tell (atPrecision 2 d)) (document a)

/-- Whatever stands for a number, each argument is found under its own name. -/
theorem carries_told (tell : Decimal → Json Decimal) {a : ShipData (Double K)}
    (ha : a.StringsNulFree) : Carries tell a (told tell a) where
  berthId := congrArg (fun s => some (Json.str s)) (cStr_of_nulFree ha.berthId)
  deviceIp := congrArg (fun s => some (Json.str s)) (cStr_of_nulFree ha.deviceIp)
  timestamp := congrArg (fun s => some (Json.str s)) (cStr_of_nulFree ha.timestamp)
  shipSway := ⟨_, rfl, roundsTo_atPrecision a.shipSway⟩
  shipSurge := ⟨_, rfl, roundsTo_atPrecision a.shipSurge⟩
  shipHeave := ⟨_, rfl, roundsTo_atPrecision a.shipHeave⟩
  shipRoll := ⟨_, rfl, roundsTo_atPrecision a.shipRoll⟩
  shipPitch := ⟨_, rfl, roundsTo_atPrecision a.shipPitch⟩
  shipYaw := ⟨_, rfl, roundsTo_atPrecision a.shipYaw⟩
  bowAcceleration := ⟨_, _, _, rfl, roundsTo_atPrecision a.bowX, roundsTo_atPrecision a.bowY,
    roundsTo_atPrecision a.bowZ⟩
  sternAcceleration := ⟨_, _, _, rfl, roundsTo_atPrecision a.sternX,
    roundsTo_atPrecision a.sternY, roundsTo_atPrecision a.sternZ⟩

/-- The text of a number, as a string. -/
def asString (d : Decimal) : Json Decimal := .str d.text

/-- The walk through the document, with `TwoDecimalWriter` in front, is one through the document
whose numbers are strings. -/
theorem map_twoDecimalWriter (a : ShipData (Double K)) :
    (events (document a)).map twoDecimalWriter = events (told asString a) :=
  map_replaceNum_events (f := fun d => asString (atPrecision 2 d)) (fun _ => trivial) (document a)

/-- What a message decodes to. -/
theorem parse_buildJson {emit : List (Event Decimal) → Text}
    {parse : Text → Option (Json Decimal)} (h : StandardJson emit parse) (a : ShipData (Double K)) :
    parse (buildJson emit a) = some (told asString a) := by
  rw [buildJson, map_twoDecimalWriter, cStr_of_nulFree (nulFree_of_printable (h.printable _)),
    h.parse_emit]

/-- A string in the place of the sway is no number. -/
theorem not_carries_told (a : ShipData (Double K)) : ¬ Carries .num a (told asString a) := by
  intro h
  obtain ⟨d, hd, -⟩ := h.shipSway
  have hstring : some (asString (atPrecision 2 (keep2 a.shipSway))) = some (.num d) := hd
  cases hstring

theorem buildJson_no_numbers {emit : List (Event Decimal) → Text}
    {parse : Text → Option (Json Decimal)} (h : StandardJson emit parse) (a : ShipData (Double K)) :
    ¬ ∃ v, parse (buildJson emit a) = some v ∧ Carries .num a v := by
  rintro ⟨v, hv, hcarries⟩
  rw [parse_buildJson h a, Option.some.injEq] at hv
  rw [← hv] at hcarries
  exact not_carries_told a hcarries

/-- **Ship data**: every message decodes to the strings it was given and to the digits of its
numbers rounded, but never to numbers. -/
theorem buildJson_decodes_to_strings
    {emit : List (Event Decimal) → Text} {parse : Text → Option (Json Decimal)}
    (h : StandardJson emit parse) {a : ShipData (Double K)} (ha : a.StringsNulFree) :
    (∃ v, parse (buildJson emit a) = some v ∧ Carries asString a v) ∧
      ¬ ∃ v, parse (buildJson emit a) = some v ∧ Carries .num a v :=
  ⟨⟨told asString a, parse_buildJson h a, carries_told asString ha⟩, buildJson_no_numbers h a⟩

def still : Double ℚ := ⟨false, 0, le_refl 0⟩

/-- A ship that has swayed 1.234 m and surged a millimetre back, at rest otherwise. -/
def swayed : ShipData (Double ℚ) :=
  ⟨"B1".toList, "10.0.0.7".toList, "08:00:00".toList, ⟨false, 1.234, by norm_num⟩,
    ⟨true, 0.001, by norm_num⟩, still, still, still, still, still, still, still, still, still,
    still⟩

theorem swayed_stringsNulFree : swayed.StringsNulFree where
  berthId := by unfold NulFree; decide
  deviceIp := by unfold NulFree; decide
  timestamp := by unfold NulFree; decide

theorem buildJson_decodes_to_strings_swayed :
    (∃ v, parse (buildJson write swayed) = some v ∧ Carries asString swayed v) ∧
      ¬ ∃ v, parse (buildJson write swayed) = some v ∧ Carries .num swayed v :=
  buildJson_decodes_to_strings standardJson_write swayed_stringsNulFree

/-- The sway of 1.23 m is not received as a number. -/
theorem buildJson_sway_no_number :
    ¬ ∃ v, parse (buildJson write swayed) = some v ∧ Carries .num swayed v :=
  buildJson_no_numbers standardJson_write swayed

end IndustrialMqttClient
end ShipMotion
