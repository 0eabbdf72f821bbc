import ShipMotion.Attitude
import ShipMotion.SixDofCalculator

/-!
# The position history of the outputter

The solver thread turns every result into the positions of bow and stern, keeps the last ten of
them, and takes the accelerations as second differences. Timestamps are subtracted in
`uint64_t`. The arithmetic of the accelerations is a parameter: that of the source has positions in
`float` and intervals in `double`, an exact one has both in one field.
-/

namespace ShipMotion
namespace DataOutputter

open Eigen SixDofCalculator

/-- `ShipPosRecord` -/
structure ShipPosRecord (K : Type) where
  ts : UInt64
  bow : Vector3 K
  stern : Vector3 K

def MAX_HIST : ℕ := 10

variable {K : Type}

/-- `while (pos_history_.size() > MAX_HIST) pos_history_.pop_front();` -/
def popFrontLoop : List (ShipPosRecord K) → List (ShipPosRecord K)
  | [] => []
  | oldest :: rest =>
    if (oldest :: rest).length > MAX_HIST then popFrontLoop rest else oldest :: rest

/-- `pushHistory(ts, bow, stern)` -/
def pushHistory (pos_history_ : List (ShipPosRecord K)) (ts : UInt64) (bow stern : Vector3 K) :
    List (ShipPosRecord K) :=
  popFrontLoop (pos_history_ ++ [⟨ts, bow, stern⟩])

/-- `calcShipBowSternPos(r)`; `unset` is what an unassigned `ship_length` reads as. -/
def calcShipBowSternPos [Field K] (m : Libm K) (pos_history_ : List (ShipPosRecord K))
    (r : SixDofResult K) (unset : K) : List (ShipPosRecord K) :=
  let t_center : Vector3 K := ![r.tx / 100.0, r.ty / 100.0, r.tz / 100.0]
  let R := eulerXYZToRot m r.rx r.ry r.rz
  let L := r.ship_length.getD unset
  let P_bow_body : Vector3 K := ![L / 2.0, 0.0, 0.0]
  let P_stern_body : Vector3 K := ![-L / 2.0, 0.0, 0.0]
  let bow_global := R.mulVec P_bow_body + t_center
  let stern_global := R.mulVec P_stern_body + t_center
  pushHistory pos_history_ r.timestamp bow_global stern_global

section Acceleration

/-- How numbers get from one type to the other in `getBowSternAcc`, where positions have one type
(`F`) and intervals another (`D`). -/
structure AccConversions (F D : Type) where
  ofUInt64 : UInt64 → D
  quotient : F → D → F

variable {F D : Type} [Zero F] [Add F] [Sub F] [Mul F] [OfScientific F]
  [Mul D] [Div D] [OfScientific D] [LT D] [DecidableLT D]

/-- `getBowSternAcc`: the accelerations of bow and stern, in cm/s². -/
def getBowSternAccIn (conv : AccConversions F D) (pos_history_ : List (ShipPosRecord F)) :
    Vector3 F × Vector3 F :=
  match pos_history_ with
  | h0 :: h1 :: h2 :: _ =>
    let dt_ms := conv.ofUInt64 (h2.ts - h1.ts)
    let dt := dt_ms / 1000.0
    let dt_sq := dt * dt
    if dt_sq < 1e-6 then (0, 0)
    else
      let second (p0 p1 p2 : Vector3 F) : Vector3 F := fun i =>
        conv.quotient (p2 i - 2.0 * p1 i + p0 i) dt_sq
      let a_bow_m := second h0.bow h1.bow h2.bow
      let a_stern_m := second h0.stern h1.stern h2.stern
      (fun i => a_bow_m i * 100.0, fun i => a_stern_m i * 100.0)
  | _ => (0, 0)

/-- Both types are one field. -/
def AccConversions.exact [Field K] : AccConversions K K where
  ofUInt64 n := (n.toNat : K)
  quotient x d := x / d

/-- `getBowSternAcc`, computed exactly. -/
def getBowSternAcc [Field K] [LinearOrder K] (pos_history_ : List (ShipPosRecord K)) :
    Vector3 K × Vector3 K :=
  getBowSternAccIn .exact pos_history_

instance zeroFloat32 : Zero Float32 := ⟨0.0⟩

/-- The conversion of a `double` to a `float`, to the nearest one. -/
def narrow (d : Float) : Float32 :=
  .ofModel <| .pack <| match d.toModel.unpack with
    | .finite sign mantissa exponent _ => .round .binary32 sign mantissa exponent
    | other => other

/-- The types of the source. A vector of `float`s is divided by the `double` as a `float`. -/
def AccConversions.ieee : AccConversions Float32 Float where
  ofUInt64 n := n.toFloat
  quotient x d := x / narrow d

end Acceleration

/-! ## What the history keeps -/

theorem popFrontLoop_suffix (l : List (ShipPosRecord K)) : popFrontLoop l <:+ l := by
  induction l with
  | nil => exact List.suffix_rfl
  | cons oldest rest ih =>
    rw [popFrontLoop]
    split
    · exact ih.trans (List.suffix_cons oldest rest)
    · exact List.suffix_rfl

/-- After a push the history ends in the new timestamp. -/
theorem pushHistory_suffix (pos_history_ : List (ShipPosRecord K)) (ts : UInt64)
    (bow stern : Vector3 K) :
    (pushHistory pos_history_ ts bow stern).map (·.ts) <:+ pos_history_.map (·.ts) ++ [ts] := by
  have h := (popFrontLoop_suffix (pos_history_ ++ [⟨ts, bow, stern⟩])).map (·.ts)
  rw [List.map_append, List.map_singleton] at h
  exact h

end DataOutputter
end ShipMotion
