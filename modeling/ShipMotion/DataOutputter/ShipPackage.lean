import ShipMotion.DataOutputter.PositionHistory

/-!
# The packages of the solver thread

For every result, `solveWorkerLoop` records the positions of bow and stern, takes the
accelerations from the history and builds a package for the MQTT thread. The text of a time is a
parameter.
-/

namespace ShipMotion
namespace DataOutputter

open Eigen SixDofCalculator

/-- `MqttShipData` -/
structure MqttShipData (K : Type) where
  berth_id : String
  lidar_ip : String
  time_str : String
  surge : K
  sway : K
  heave : K
  roll : K
  pitch : K
  yaw : K
  bX : K
  bY : K
  bZ : K
  sX : K
  sY : K
  sZ : K

/-- What `solveWorkerLoop` does with a result: the history after it, and the package. `put_time`
is `localtime` and `put_time` on a time in seconds; `unset` is what an unassigned `ship_length`
reads as. -/
def solveResult {K : Type} [Field K] [LinearOrder K] (m : Libm K) (put_time : UInt64 → String)
    (berth_id : String) (pos_history_ : List (ShipPosRecord K)) (r : SixDofResult K) (unset : K) :
    List (ShipPosRecord K) × MqttShipData K :=
  let pos_history_ := calcShipBowSternPos m pos_history_ r unset
  let (b, s) := getBowSternAcc pos_history_
  (pos_history_,
    { berth_id
      lidar_ip := r.lidar_ip
      time_str := put_time (r.timestamp / 1000)
      surge := r.tx
      sway := r.ty
      heave := r.tz
      roll := r.rx
      pitch := r.ry
      yaw := r.rz
      bX := b 0
      bY := b 1
      bZ := b 2
      sX := s 0
      sY := s 1
      sZ := s 2 })

end DataOutputter
end ShipMotion
