import ShipMotion.Eigen

/-!
# Attitude: `getEulerAngles` and `eulerXYZToRot`

The calculator turns the rotation of the ship into three angles, and the outputter rebuilds a
rotation from the three angles it receives.
-/

namespace ShipMotion

open Eigen

variable {K : Type} [CommRing K] (m : Libm K)

/-- `getEulerAngles(R, roll, pitch, yaw)`, of the calculator. -/
def getEulerAngles (R : Matrix3 K) : K × K × K :=
  let roll := m.atan2 (R 2 1) (R 2 2)
  let pitch := m.asin (-R 2 0)
  let yaw := m.atan2 (R 0 1) (R 0 0)
  (roll, pitch, yaw)

/-- `eulerXYZToRot(rx, ry, rz)`, of the outputter. -/
def eulerXYZToRot (rx ry rz : K) : Matrix3 K :=
  let ax := angleAxis m rx unitX
  let ay := angleAxis m ry unitY
  let az := angleAxis m rz unitZ
  az * ay * ax

end ShipMotion
