import Mathlib.Data.Fin.VecNotation
import ShipMotion.ConfigLoader
import ShipMotion.Utils.Loader
import ShipMotion.Utils.Yaml

/-!
# `loadMonitorConfig`

The global configuration and its loader. Members without an initializer, and what lies behind the
end of a vector, are memory: parameters. The loader writes the members in the order of the source
and stops at the first exception.
-/

namespace ShipMotion

open Utils (Yaml Loader Loading)
open Utils.Loader (read assign index member update)

/-- `MqttConfigParam` -/
structure MqttConfigParam where
  berth_id : String
  host : String
  port : Int32
  username : String
  password : String
  default_topic : String
  dev_status_topic : String
  qos : Int32
  reconnect_interval : Int32

/-- `RadarGlobalConfig`; durations in seconds. -/
structure RadarGlobalConfig (K : Type) [Field K] where
  lidarA_bg_pcd_path : String
  lidarB_bg_pcd_path : String
  dist_threshold : K
  cluster_eps : K
  cluster_min_points : Int32
  stable_frame_count : Int32
  stable_dist_threshold : K
  min_valid_ship_points : Int32
  lidarA : RadarExtrinsic K
  lidarB : RadarExtrinsic K
  base_update_interval_min : K
  mqtt_cfg : MqttConfigParam

variable {K : Type} [Field K]

/-- A configuration as it is constructed over what memory holds: strings are empty, the members
with an initializer have it. -/
def RadarGlobalConfig.construct (memory : RadarGlobalConfig K) : RadarGlobalConfig K :=
  { memory with
    lidarA_bg_pcd_path := ""
    lidarB_bg_pcd_path := ""
    lidarA := { memory.lidarA with rotate_y_deg := 0, rotate_x_deg := 0 }
    lidarB := { memory.lidarB with rotate_y_deg := 0, rotate_x_deg := 0 }
    base_update_interval_min := 300.0
    mqtt_cfg :=
      { memory.mqtt_cfg with
        berth_id := "", host := "", username := "", password := ""
        default_topic := "", dev_status_topic := "" } }

/-- How the text of a scalar is read as a number. -/
structure Scalars (K : Type) where
  double : String → Option K
  float : String → Option K
  int : String → Option Int32

/-- `node[key].as<T>()` -/
def getAs {T : Type} (node : Option Yaml) (key : String)
    (as : Option Yaml → Except Yaml.Exn T) : Except Yaml.Exn T := do
  let value ← Yaml.get node key
  as value

/-- `if (node[key]) member = node[key].as<T>();` -/
def assignIfDefined {C T : Type} (node : Option Yaml) (key : String)
    (as : Option Yaml → Except Yaml.Exn T) (write : T → C → C) : Loader Yaml.Exn C Unit := do
  let value ← read (Yaml.get node key)
  if value.isSome then assign (getAs node key as) write else pure ()

section Load

variable (scalars : Scalars K)

/-- The paths, the thresholds and the parameters of the test for a ship at rest. -/
def loadThresholds (root : Option Yaml) : Loader Yaml.Exn (RadarGlobalConfig K) Unit := do
  assign (getAs root "Abg_pcd_path" Yaml.asString) fun v c => { c with lidarA_bg_pcd_path := v }
  assign (getAs root "Bbg_pcd_path" Yaml.asString) fun v c => { c with lidarB_bg_pcd_path := v }
  assign (getAs root "dist_threshold" (Yaml.asNumber scalars.double)) fun v c =>
    { c with dist_threshold := v }
  assign (getAs root "cluster_eps" (Yaml.asNumber scalars.double)) fun v c =>
    { c with cluster_eps := v }
  assign (getAs root "cluster_min_points" (Yaml.asNumber scalars.int)) fun v c =>
    { c with cluster_min_points := v }
  assign (getAs root "stable_frame_count" (Yaml.asNumber scalars.int)) fun v c =>
    { c with stable_frame_count := v }
  assign (getAs root "stable_dist_threshold" (Yaml.asNumber scalars.double)) fun v c =>
    { c with stable_dist_threshold := v }
  assign (getAs root "min_valid_ship_points" (Yaml.asNumber scalars.int)) fun v c =>
    { c with min_valid_ship_points := v }

/-- The extrinsic of one radar, from its node. -/
def loadExtrinsic (behind : ℕ → K) (node : Option Yaml) :
    Loader Yaml.Exn (RadarExtrinsic K) Unit := do
  let arr ← read (getAs node "trans" (Yaml.asVector scalars.float))
  let x ← index arr behind 0
  let y ← index arr behind 1
  let z ← index arr behind 2
  update fun ext => { ext with trans := ![x, y, z] }
  assign (getAs node "rotate_z_deg" (Yaml.asNumber scalars.float)) fun v ext =>
    { ext with rotate_z_deg := v }
  assignIfDefined node "rotate_y_deg" (Yaml.asNumber scalars.float) fun v ext =>
    { ext with rotate_y_deg := v }
  assignIfDefined node "rotate_x_deg" (Yaml.asNumber scalars.float) fun v ext =>
    { ext with rotate_x_deg := v }

/-- The section `mqtt`, from its node. -/
def loadMqtt (mqtt_node : Option Yaml) : Loader Yaml.Exn MqttConfigParam Unit := do
  assign (getAs mqtt_node "host" Yaml.asString) fun v c => { c with host := v }
  assign (getAs mqtt_node "port" (Yaml.asNumber scalars.int)) fun v c => { c with port := v }
  assign (getAs mqtt_node "username" Yaml.asString) fun v c => { c with username := v }
  assign (getAs mqtt_node "password" Yaml.asString) fun v c => { c with password := v }
  assign (getAs mqtt_node "default_topic" Yaml.asString) fun v c => { c with default_topic := v }
  assign (getAs mqtt_node "dev_status_topic" Yaml.asString) fun v c =>
    { c with dev_status_topic := v }
  assign (getAs mqtt_node "qos" (Yaml.asNumber scalars.int)) fun v c => { c with qos := v }
  assign (getAs mqtt_node "reconnect_interval" (Yaml.asNumber scalars.int)) fun v c =>
    { c with reconnect_interval := v }
  assign (getAs mqtt_node "berth_id" Yaml.asString) fun v c => { c with berth_id := v }

/-- The optional section `mqtt`. -/
def loadMqttSection (root : Option Yaml) : Loader Yaml.Exn (RadarGlobalConfig K) Unit := do
  let mqtt_node ← read (Yaml.get root "mqtt")
  if mqtt_node.isSome then
    member (·.mqtt_cfg) (fun cfg c => { c with mqtt_cfg := cfg }) (loadMqtt scalars mqtt_node)
  else pure ()

/-- The body of the `try` block. -/
def loadMonitorBody (behindA behindB : ℕ → K) (file : Except Yaml.Exn Yaml) :
    Loader Yaml.Exn (RadarGlobalConfig K) Unit := do
  let tree ← read file
  let root := some tree
  loadThresholds scalars root
  let nodeA ← read (Yaml.get root "lidar_a")
  member (·.lidarA) (fun ext c => { c with lidarA := ext }) (loadExtrinsic scalars behindA nodeA)
  let nodeB ← read (Yaml.get root "lidar_b")
  member (·.lidarB) (fun ext c => { c with lidarB := ext }) (loadExtrinsic scalars behindB nodeB)
  assignIfDefined root "base_update_interval_min" (Yaml.asNumber scalars.double) fun v c =>
    { c with base_update_interval_min := v }
  loadMqttSection scalars root

/-- `loadMonitorConfig(yaml_path, outConfig)`: what it returns, and what it leaves in `outConfig`,
with the positions at which the vectors were indexed. -/
def loadMonitorConfig (behindA behindB : ℕ → K) (file : Except Yaml.Exn Yaml)
    (outConfig : RadarGlobalConfig K) : Bool × Loading (RadarGlobalConfig K) :=
  match loadMonitorBody scalars behindA behindB file ⟨outConfig, []⟩ with
  | .ok _ s => (true, s)
  | .error _ s => (false, s)

end Load
end ShipMotion
