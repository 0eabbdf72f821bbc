import ShipMotion.ConfigLoader.MonitorConfig

/-!
# `loadRegParam` and `loadLidarConfigs`

The loaders that read every member with a fallback: what the member is, for the parameters of the
registration, and a fixed value, for the radars. A value that is not there or cannot be converted
gives the fallback; only a key of a scalar is an exception. A file that is read gives a node that is
defined, so that the test of it does not fail.
-/

namespace ShipMotion

open Utils (Yaml Loader Loading)
open Utils.Loader (read member update)

variable {K : Type} [Field K]

/-- `LidarConfig` -/
structure LidarConfig where
  name : String
  lidar_ip : String
  local_ip : String
  dev_port : Int32
  data_port : Int32

/-- `AllLidarConfigs` -/
structure AllLidarConfigs where
  lidarA : LidarConfig
  lidarB : LidarConfig
  debug_save : Int32
  ship_monitor : Int32
  save_min : Int32

/-- A configuration as it is constructed over what memory holds: strings are empty, the switches
are `0`, and the ports have no initializer. -/
def AllLidarConfigs.construct (memory : AllLidarConfigs) : AllLidarConfigs where
  lidarA := { memory.lidarA with name := "", lidar_ip := "", local_ip := "" }
  lidarB := { memory.lidarB with name := "", lidar_ip := "", local_ip := "" }
  debug_save := 0
  ship_monitor := 0
  save_min := 0

/-- How the text of a scalar is read as a number or as a truth value. -/
structure RegScalars (K : Type) extends Scalars K where
  bool : String → Option Bool

/-- `member = node[key].as<T>(fallback)`, where the fallback may be what the record holds. -/
def assignOr {C T : Type} (node : Option Yaml) (key : String) (asOr : T → Option Yaml → T)
    (fallback : C → T) (write : T → C → C) : Loader Yaml.Exn C Unit := do
  let value ← read (Yaml.get node key)
  update fun c => write (asOr (fallback c) value) c

/-- A section that is loaded if it is there. -/
def loadSection {C D : Type} (root : Option Yaml) (key : String) (get : C → D) (set : D → C → C)
    (load : Option Yaml → Loader Yaml.Exn D Unit) : Loader Yaml.Exn C Unit := do
  let node ← read (Yaml.get root key)
  if node.isSome then member get set (load node) else pure ()

section Load

variable (scalars : RegScalars K)

/-- The voxel of NDT, from its node. -/
def loadNdtVoxel (voxel : Option Yaml) : Loader Yaml.Exn (NdtParam K) Unit := do
  assignOr voxel "x" (Yaml.asScalarOr scalars.double) (·.voxel_x) fun v p => { p with voxel_x := v }
  assignOr voxel "y" (Yaml.asScalarOr scalars.double) (·.voxel_y) fun v p => { p with voxel_y := v }
  assignOr voxel "z" (Yaml.asScalarOr scalars.double) (·.voxel_z) fun v p => { p with voxel_z := v }

/-- The other members of NDT, from their node. -/
def loadNdtMembers (ndtNode : Option Yaml) : Loader Yaml.Exn (NdtParam K) Unit := do
  assignOr ndtNode "max_iter" (Yaml.asScalarOr scalars.int) (·.max_iter) fun v p =>
    { p with max_iter := v }
  assignOr ndtNode "trans_eps" (Yaml.asScalarOr scalars.double) (·.trans_eps) fun v p =>
    { p with trans_eps := v }
  assignOr ndtNode "step_size" (Yaml.asScalarOr scalars.double) (·.step_size) fun v p =>
    { p with step_size := v }
  assignOr ndtNode "resolution" (Yaml.asScalarOr scalars.double) (·.resolution) fun v p =>
    { p with resolution := v }
  assignOr ndtNode "fit_thresh" (Yaml.asScalarOr scalars.double) (·.fit_thresh) fun v p =>
    { p with fit_thresh := v }

/-- The parameters of NDT, from their node. -/
def loadNdt (ndtNode : Option Yaml) : Loader Yaml.Exn (NdtParam K) Unit := do
  loadSection ndtNode "voxel" id (fun p _ => p) (loadNdtVoxel scalars)
  loadNdtMembers scalars ndtNode

/-- The voxel of GICP, from its node. -/
def loadGicpVoxel (voxel : Option Yaml) : Loader Yaml.Exn (GicpParam K) Unit := do
  assignOr voxel "x" (Yaml.asScalarOr scalars.double) (·.voxel_x) fun v p => { p with voxel_x := v }
  assignOr voxel "y" (Yaml.asScalarOr scalars.double) (·.voxel_y) fun v p => { p with voxel_y := v }
  assignOr voxel "z" (Yaml.asScalarOr scalars.double) (·.voxel_z) fun v p => { p with voxel_z := v }

/-- The other members of GICP, from their node. -/
def loadGicpMembers (gicpNode : Option Yaml) : Loader Yaml.Exn (GicpParam K) Unit := do
  assignOr gicpNode "use_reciprocal" (Yaml.asScalarOr scalars.bool) (·.use_reciprocal) fun v p =>
    { p with use_reciprocal := v }
  assignOr gicpNode "max_corr_dist" (Yaml.asScalarOr scalars.double) (·.max_corr_dist) fun v p =>
    { p with max_corr_dist := v }
  assignOr gicpNode "max_iter" (Yaml.asScalarOr scalars.int) (·.max_iter) fun v p =>
    { p with max_iter := v }
  assignOr gicpNode "trans_eps" (Yaml.asScalarOr scalars.double) (·.trans_eps) fun v p =>
    { p with trans_eps := v }
  assignOr gicpNode "euclid_eps" (Yaml.asScalarOr scalars.double) (·.euclid_eps) fun v p =>
    { p with euclid_eps := v }
  assignOr gicpNode "rot_eps" (Yaml.asScalarOr scalars.double) (·.rot_eps) fun v p =>
    { p with rot_eps := v }
  assignOr gicpNode "rand_num" (Yaml.asScalarOr scalars.int) (·.rand_num) fun v p =>
    { p with rand_num := v }
  assignOr gicpNode "fit_thresh" (Yaml.asScalarOr scalars.double) (·.fit_thresh) fun v p =>
    { p with fit_thresh := v }
  assignOr gicpNode "score_radius" (Yaml.asScalarOr scalars.double) (·.score_radius) fun v p =>
    { p with score_radius := v }

/-- The parameters of GICP, from their node. -/
def loadGicp (gicpNode : Option Yaml) : Loader Yaml.Exn (GicpParam K) Unit := do
  loadSection gicpNode "voxel" id (fun p _ => p) (loadGicpVoxel scalars)
  loadGicpMembers scalars gicpNode

/-- The body of the `try` block of `loadRegParam`. -/
def loadRegBody (file : Except Yaml.Exn Yaml) : Loader Yaml.Exn (RegParam K) Unit := do
  let tree ← read file
  let root := some tree
  loadSection root "ndt" (·.ndt) (fun ndt c => { c with ndt }) (loadNdt scalars)
  loadSection root "gicp" (·.gicp) (fun gicp c => { c with gicp }) (loadGicp scalars)

/-- `loadRegParam(cfgPath, outParam)`: what it returns, and what it leaves in `outParam`. -/
def loadRegParam (file : Except Yaml.Exn Yaml) (outParam : RegParam K) : Bool × RegParam K :=
  Loader.caught (loadRegBody scalars file) outParam

/-- The configuration of one radar, from its node. -/
def loadLidar (int : String → Option Int32) (node : Option Yaml) :
    Loader Yaml.Exn LidarConfig Unit := do
  assignOr node "name" Yaml.asStringOr (fun _ => "Unknown") fun v c => { c with name := v }
  assignOr node "dev_ip" Yaml.asStringOr (fun _ => "0.0.0.0") fun v c => { c with lidar_ip := v }
  assignOr node "local_ip" Yaml.asStringOr (fun _ => "0.0.0.0") fun v c => { c with local_ip := v }
  assignOr node "dev_port" (Yaml.asScalarOr int) (fun _ => 0) fun v c => { c with dev_port := v }
  assignOr node "data_port" (Yaml.asScalarOr int) (fun _ => 0) fun v c => { c with data_port := v }

/-- The switches at the top of the document. -/
def loadSwitches (int : String → Option Int32) (config : Option Yaml) :
    Loader Yaml.Exn AllLidarConfigs Unit := do
  assignOr config "debug_save" (Yaml.asScalarOr int) (fun _ => 0) fun v c =>
    { c with debug_save := v }
  assignOr config "ship_monitor" (Yaml.asScalarOr int) (fun _ => 0) fun v c =>
    { c with ship_monitor := v }
  assignOr config "save_min" (Yaml.asScalarOr int) (fun _ => 0) fun v c => { c with save_min := v }

/-- The body of the `try` block of `loadLidarConfigs`. -/
def loadLidarBody (int : String → Option Int32) (file : Except Yaml.Exn Yaml) :
    Loader Yaml.Exn AllLidarConfigs Unit := do
  let tree ← read file
  let config := some tree
  loadSwitches int config
  loadSection config "lidarA" (·.lidarA) (fun lidarA c => { c with lidarA }) (loadLidar int)
  loadSection config "lidarB" (·.lidarB) (fun lidarB c => { c with lidarB }) (loadLidar int)

/-- `loadLidarConfigs(configPath, outConfigs)`: what it returns, and what it leaves in
`outConfigs`. -/
def loadLidarConfigs (int : String → Option Int32) (file : Except Yaml.Exn Yaml)
    (outConfigs : AllLidarConfigs) : Bool × AllLidarConfigs :=
  Loader.caught (loadLidarBody int file) outConfigs

end Load
end ShipMotion
