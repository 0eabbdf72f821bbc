import Mathlib.Data.List.GetD
import ShipMotion.ConfigLoader.MonitorConfig

/-!
# Accepted monitor configurations

Whether a tree is accepted does not depend on memory. On an accepted tree each `trans` is indexed
at the first three positions, whatever its length, and all members are read or have a default,
but for the numbers of the MQTT section, which are left as memory has them when the tree has no
such section.
-/

namespace ShipMotion

open Utils (Yaml Loader Loading)
open Utils.Loader

/-! ## The blocks of the loader -/

/-- An optional member keeps its value when its node is undefined. -/
theorem always_assignIfDefined {C T : Type} {node : Option Yaml} {key : String}
    {as : Option Yaml → Except Yaml.Exn T} {write : T → C → C}
    (h : Succeeds (assignIfDefined node key as write) ()) :
    ∃ o : Option T, Always (assignIfDefined node key as write) () (o.elim id write) [] := by
  obtain ⟨value, hread, h⟩ := succeeds_bind h
  have hvalue := always_read (C := C) (succeeds_read hread)
  cases value with
  | none => exact ⟨none, hvalue.bind (always_pure ())⟩
  | some tree =>
    obtain ⟨v, hv⟩ := succeeds_assign h
    exact ⟨some v, hvalue.bind (always_assign hv)⟩

variable {K : Type} {scalars : Scalars K}

/-- The thresholds are read, the rest stays. -/
theorem always_loadThresholds [Field K] {root : Option Yaml}
    (h : Succeeds (loadThresholds scalars root) ()) :
    ∃ write : RadarGlobalConfig K → RadarGlobalConfig K,
      Always (loadThresholds scalars root) () write [] ∧
      ∀ c c', write c =
        { write c' with
          lidarA := c.lidarA, lidarB := c.lidarB
          base_update_interval_min := c.base_update_interval_min, mqtt_cfg := c.mqtt_cfg } := by
  obtain ⟨_, h₁, h⟩ := succeeds_assign_bind h
  obtain ⟨_, h₂, h⟩ := succeeds_assign_bind h
  obtain ⟨_, h₃, h⟩ := succeeds_assign_bind h
  obtain ⟨_, h₄, h⟩ := succeeds_assign_bind h
  obtain ⟨_, h₅, h⟩ := succeeds_assign_bind h
  obtain ⟨_, h₆, h⟩ := succeeds_assign_bind h
  obtain ⟨_, h₇, h⟩ := succeeds_assign_bind h
  obtain ⟨_, h₈⟩ := succeeds_assign h
  refine ⟨_, (always_assign h₁).bind ((always_assign h₂).bind ((always_assign h₃).bind
    ((always_assign h₄).bind ((always_assign h₅).bind ((always_assign h₆).bind
      ((always_assign h₇).bind (always_assign h₈))))))), ?_⟩
  exact fun c c' => rfl

/-- The whole section is read. -/
theorem always_loadMqtt {mqtt_node : Option Yaml} (h : Succeeds (loadMqtt scalars mqtt_node) ()) :
    ∃ write, Always (loadMqtt scalars mqtt_node) () write [] ∧ ∀ c c', write c = write c' := by
  obtain ⟨_, h₁, h⟩ := succeeds_assign_bind h
  obtain ⟨_, h₂, h⟩ := succeeds_assign_bind h
  obtain ⟨_, h₃, h⟩ := succeeds_assign_bind h
  obtain ⟨_, h₄, h⟩ := succeeds_assign_bind h
  obtain ⟨_, h₅, h⟩ := succeeds_assign_bind h
  obtain ⟨_, h₆, h⟩ := succeeds_assign_bind h
  obtain ⟨_, h₇, h⟩ := succeeds_assign_bind h
  obtain ⟨_, h₈, h⟩ := succeeds_assign_bind h
  obtain ⟨_, h₉⟩ := succeeds_assign h
  refine ⟨_, (always_assign h₁).bind ((always_assign h₂).bind ((always_assign h₃).bind
    ((always_assign h₄).bind ((always_assign h₅).bind ((always_assign h₆).bind
      ((always_assign h₇).bind ((always_assign h₈).bind (always_assign h₉)))))))), ?_⟩
  exact fun c c' => rfl

/-- The elements of `trans` in the node of a radar. -/
def transElems (node : Option Yaml) : List Yaml := Yaml.elems (Yaml.find? "trans" node)

theorem length_of_trans {node : Option Yaml} {decode : String → Option K} {arr : List K}
    (h : getAs node "trans" (Yaml.asVector decode) = .ok arr) :
    arr.length = (transElems node).length := by
  rw [getAs] at h
  cases hget : Yaml.get node "trans" with
  | error e =>
    rw [hget] at h
    cases h
  | ok value =>
    rw [hget] at h
    rw [transElems, ← Yaml.eq_find_of_get hget]
    exact Yaml.length_of_asVector h

variable [Field K]

/-- What was read for an extrinsic; the last two members may be undefined. -/
structure ReadExtrinsic (K : Type) where
  arr : List K
  rotate_z_deg : K
  rotate_y_deg : Option K
  rotate_x_deg : Option K

/-- The extrinsic that is filled with what was read. -/
def ReadExtrinsic.write (e : ReadExtrinsic K) (behind : ℕ → K) (ext : RadarExtrinsic K) :
    RadarExtrinsic K where
  trans := ![e.arr.getD 0 (behind 0), e.arr.getD 1 (behind 1), e.arr.getD 2 (behind 2)]
  rotate_z_deg := e.rotate_z_deg
  rotate_y_deg := e.rotate_y_deg.getD ext.rotate_y_deg
  rotate_x_deg := e.rotate_x_deg.getD ext.rotate_x_deg

/-- The positions at which a `trans` of a length is indexed. -/
def transIndexed (length : ℕ) : List (ℕ × ℕ) := [(0, length), (1, length), (2, length)]

theorem always_loadExtrinsic {behind : ℕ → K} {node : Option Yaml}
    (h : Succeeds (loadExtrinsic scalars behind node) ()) :
    ∃ e : ReadExtrinsic K, e.arr.length = (transElems node).length ∧
      ∀ behind, Always (loadExtrinsic scalars behind node) () (e.write behind)
        (transIndexed (transElems node).length) := by
  obtain ⟨arr, harr, h⟩ := succeeds_bind h
  obtain ⟨_, -, h⟩ := succeeds_bind h
  obtain ⟨_, -, h⟩ := succeeds_bind h
  obtain ⟨_, -, h⟩ := succeeds_bind h
  obtain ⟨_, -, h⟩ := succeeds_bind h
  obtain ⟨rotate_z_deg, hz, h⟩ := succeeds_assign_bind h
  obtain ⟨_, hy, hx⟩ := succeeds_bind h
  have harr := succeeds_read harr
  obtain ⟨rotate_y_deg, hy⟩ := always_assignIfDefined hy
  obtain ⟨rotate_x_deg, hx⟩ := always_assignIfDefined hx
  have hlength := length_of_trans harr
  refine ⟨⟨arr, rotate_z_deg, rotate_y_deg, rotate_x_deg⟩, hlength, fun behind => ?_⟩
  have hrun : Always (loadExtrinsic scalars behind node) () _ _ :=
    (always_read harr).bind ((always_index arr behind 0).bind
      ((always_index arr behind 1).bind ((always_index arr behind 2).bind
        ((always_update _).bind ((always_assign hz).bind (hy.bind hx))))))
  refine hrun.of_eq (fun ext => ?_) (by rw [← hlength]; rfl)
  cases rotate_y_deg <;> cases rotate_x_deg <;> rfl

/-! ## The loader -/

/-- What was read for a configuration: updates of the thresholds and of the MQTT section, the
extrinsics, and the interval if it is defined. -/
structure ReadMonitor (K : Type) [Field K] where
  thresholds : RadarGlobalConfig K → RadarGlobalConfig K
  lidarA : ReadExtrinsic K
  lidarB : ReadExtrinsic K
  interval : Option K
  mqtt : MqttConfigParam → MqttConfigParam

/-- The configuration that is filled with what was read. -/
def ReadMonitor.write (r : ReadMonitor K) (behindA behindB : ℕ → K) (c : RadarGlobalConfig K) :
    RadarGlobalConfig K :=
  { r.thresholds c with
    lidarA := r.lidarA.write behindA c.lidarA
    lidarB := r.lidarB.write behindB c.lidarB
    base_update_interval_min := r.interval.getD c.base_update_interval_min
    mqtt_cfg := r.mqtt c.mqtt_cfg }

/-- The elements of `trans` in the section of a radar. -/
def sectionTrans (tree : Yaml) (key : String) : List Yaml :=
  transElems (Yaml.find? key (some tree))

def mqttNode (tree : Yaml) : Option Yaml := Yaml.find? "mqtt" (some tree)

/-- What was read is that of a tree: the lengths of the vectors, all thresholds, and all of the
MQTT section or nothing of it. -/
structure ReadMonitor.IsOf (r : ReadMonitor K) (tree : Yaml) : Prop where
  lengthA : r.lidarA.arr.length = (sectionTrans tree "lidar_a").length
  lengthB : r.lidarB.arr.length = (sectionTrans tree "lidar_b").length
  thresholds : ∀ c c', r.thresholds c =
    { r.thresholds c' with
      lidarA := c.lidarA, lidarB := c.lidarB
      base_update_interval_min := c.base_update_interval_min, mqtt_cfg := c.mqtt_cfg }
  mqtt_of_isSome : (mqttNode tree).isSome = true → ∀ cfg cfg', r.mqtt cfg = r.mqtt cfg'
  mqtt_of_none : mqttNode tree = none → r.mqtt = id

/-- The positions at which the vectors of a tree are indexed. -/
def treeIndexed (tree : Yaml) : List (ℕ × ℕ) :=
  transIndexed (sectionTrans tree "lidar_a").length
    ++ transIndexed (sectionTrans tree "lidar_b").length

/-- The optional section is read as a whole, or left as it is. -/
theorem always_loadMqttSection {tree : Yaml}
    (h : Succeeds (loadMqttSection scalars (some tree) : Loader _ (RadarGlobalConfig K) _) ()) :
    ∃ write : MqttConfigParam → MqttConfigParam,
      ((mqttNode tree).isSome = true → ∀ cfg cfg', write cfg = write cfg') ∧
      (mqttNode tree = none → write = id) ∧
      Always (loadMqttSection scalars (some tree) : Loader _ (RadarGlobalConfig K) _) ()
        (fun c => { c with mqtt_cfg := write c.mqtt_cfg }) [] := by
  obtain ⟨mqtt_node, hnode, h⟩ := succeeds_bind h
  have hnode := succeeds_read hnode
  have heq : mqtt_node = mqttNode tree := Yaml.eq_find_of_get hnode
  rw [← heq]
  cases mqtt_node with
  | none =>
    have hrun : Always (loadMqttSection scalars (some tree) : Loader _ (RadarGlobalConfig K) _)
        () _ _ := (always_read hnode).bind (always_pure ())
    exact ⟨id, fun hsome => Bool.noConfusion hsome, fun _ => rfl, hrun⟩
  | some node =>
    rw [if_pos (Option.isSome_some)] at h
    obtain ⟨write, hmqtt, hconst⟩ := always_loadMqtt (succeeds_member h)
    have hrun : Always (loadMqttSection scalars (some tree) : Loader _ (RadarGlobalConfig K) _)
        () _ _ := (always_read hnode).bind (hmqtt.member.ite_pos rfl)
    exact ⟨write, fun _ => hconst, fun hnone => absurd hnone (Option.some_ne_none node), hrun⟩

/-- A run that succeeds has read everything from the tree, and so has a run over any memory. -/
theorem always_loadMonitorBody {behindA behindB : ℕ → K} {tree : Yaml}
    (h : Succeeds (loadMonitorBody scalars behindA behindB (.ok tree)) ()) :
    ∃ r : ReadMonitor K, r.IsOf tree ∧ ∀ behindA behindB,
      Always (loadMonitorBody scalars behindA behindB (.ok tree)) () (r.write behindA behindB)
        (treeIndexed tree) := by
  obtain ⟨tree', htree, h⟩ := succeeds_bind h
  obtain rfl : tree = tree' := Except.ok.inj (succeeds_read htree)
  obtain ⟨_, hthresholds, h⟩ := succeeds_bind h
  obtain ⟨nodeA, hnodeA, h⟩ := succeeds_bind h
  obtain ⟨_, hlidarA, h⟩ := succeeds_bind h
  obtain ⟨nodeB, hnodeB, h⟩ := succeeds_bind h
  obtain ⟨_, hlidarB, h⟩ := succeeds_bind h
  obtain ⟨_, hinterval, h⟩ := succeeds_bind h
  have hnodeA := succeeds_read hnodeA
  have hnodeB := succeeds_read hnodeB
  obtain ⟨thresholds, hthresholds, hrest⟩ := always_loadThresholds hthresholds
  obtain ⟨lidarA, hlengthA, hlidarA⟩ := always_loadExtrinsic (succeeds_member hlidarA)
  obtain ⟨lidarB, hlengthB, hlidarB⟩ := always_loadExtrinsic (succeeds_member hlidarB)
  obtain ⟨interval, hinterval⟩ := always_assignIfDefined hinterval
  obtain ⟨mqtt, hsome, hnone, hmqtt⟩ := always_loadMqttSection h
  obtain rfl : nodeA = Yaml.find? "lidar_a" (some tree) := Yaml.eq_find_of_get hnodeA
  obtain rfl : nodeB = Yaml.find? "lidar_b" (some tree) := Yaml.eq_find_of_get hnodeB
  refine ⟨⟨thresholds, lidarA, lidarB, interval, mqtt⟩,
    ⟨hlengthA, hlengthB, hrest, hsome, hnone⟩, fun behindA behindB => ?_⟩
  have hrun : Always (loadMonitorBody scalars behindA behindB (.ok tree)) () _ _ :=
    (always_read rfl).bind (hthresholds.bind ((always_read hnodeA).bind
      ((hlidarA behindA).member.bind ((always_read hnodeB).bind
        ((hlidarB behindB).member.bind (hinterval.bind hmqtt))))))
  refine hrun.of_eq (fun c => ?_) rfl
  -- the thresholds leave the members that are read after them
  have hkept := hrest c c
  have hA : (thresholds c).lidarA = c.lidarA := congrArg (·.lidarA) hkept
  have hB : (thresholds c).lidarB = c.lidarB := congrArg (·.lidarB) hkept
  have hI : (thresholds c).base_update_interval_min = c.base_update_interval_min :=
    congrArg (·.base_update_interval_min) hkept
  have hM : (thresholds c).mqtt_cfg = c.mqtt_cfg := congrArg (·.mqtt_cfg) hkept
  rw [ReadMonitor.write, ← hA, ← hB, ← hI, ← hM]
  cases interval <;> rfl

/-! ## Accepted trees -/

/-- On a tree that is accepted over some memory, what the loader leaves over any memory. -/
theorem loadMonitorConfig_of_accepted {behindA behindB : ℕ → K} {tree : Yaml}
    {outConfig : RadarGlobalConfig K}
    (h : (loadMonitorConfig scalars behindA behindB (.ok tree) outConfig).1 = true) :
    ∃ r : ReadMonitor K, r.IsOf tree ∧ ∀ behindA behindB outConfig,
      loadMonitorConfig scalars behindA behindB (.ok tree) outConfig
        = (true, ⟨r.write behindA behindB outConfig, treeIndexed tree⟩) := by
  have hsucceeds : Succeeds (loadMonitorBody scalars behindA behindB (.ok tree)) () := by
    rw [loadMonitorConfig] at h
    cases hrun : loadMonitorBody scalars behindA behindB (.ok tree) ⟨outConfig, []⟩ with
    | ok _ s => exact ⟨_, s, hrun⟩
    | error e s =>
      rw [hrun] at h
      exact Bool.noConfusion h
  obtain ⟨r, hr, hrun⟩ := always_loadMonitorBody hsucceeds
  refine ⟨r, hr, fun behindA behindB outConfig => ?_⟩
  rw [loadMonitorConfig, hrun]
  rfl

/-- The vectors are indexed at positions they have, and the configuration does not depend on
memory. -/
structure MonitorConfigComplete (scalars : Scalars K) (tree : Yaml) : Prop where
  in_range : ∀ behindA behindB (memory : RadarGlobalConfig K),
    ∀ access ∈ (loadMonitorConfig scalars behindA behindB (.ok tree) memory.construct).2.indexed,
      access.1 < access.2
  determined : ∀ behindA behindB (memory : RadarGlobalConfig K) behindA' behindB'
      (memory' : RadarGlobalConfig K),
    (loadMonitorConfig scalars behindA behindB (.ok tree) memory.construct).2.out
      = (loadMonitorConfig scalars behindA' behindB' (.ok tree) memory'.construct).2.out

theorem forall_transIndexed {length : ℕ} :
    (∀ access ∈ transIndexed length, access.1 < access.2) ↔ 3 ≤ length := by
  simp only [transIndexed, List.mem_cons, List.not_mem_nil, or_false, forall_eq_or_imp, forall_eq]
  omega

theorem forall_treeIndexed {tree : Yaml} : (∀ access ∈ treeIndexed tree, access.1 < access.2) ↔
    3 ≤ (sectionTrans tree "lidar_a").length ∧ 3 ≤ (sectionTrans tree "lidar_b").length := by
  rw [treeIndexed, List.forall_mem_append, forall_transIndexed, forall_transIndexed]

/-- Inside the vector, what lies behind it does not matter, and the two angles have a default. -/
theorem ReadExtrinsic.write_eq {e : ReadExtrinsic K} (h : 3 ≤ e.arr.length) (behind behind' : ℕ → K)
    {ext ext' : RadarExtrinsic K} (hy : ext.rotate_y_deg = ext'.rotate_y_deg)
    (hx : ext.rotate_x_deg = ext'.rotate_x_deg) : e.write behind ext = e.write behind' ext' := by
  have hget : ∀ i < 3, e.arr.getD i (behind i) = e.arr.getD i (behind' i) := by
    intro i hi
    rw [List.getD_eq_getElem _ _ (by omega), List.getD_eq_getElem _ _ (by omega)]
  rw [write, write, hget 0 (by omega), hget 1 (by omega), hget 2 (by omega), hy, hx]

/-- **Accepted configurations.** An accepted tree gives a complete configuration exactly when both
`trans` have three elements and there is an MQTT section. -/
theorem monitorConfigComplete_iff {behindA behindB : ℕ → K} {tree : Yaml}
    {outConfig : RadarGlobalConfig K}
    (h : (loadMonitorConfig scalars behindA behindB (.ok tree) outConfig).1 = true) :
    MonitorConfigComplete scalars tree ↔
      3 ≤ (sectionTrans tree "lidar_a").length ∧ 3 ≤ (sectionTrans tree "lidar_b").length ∧
        (mqttNode tree).isSome = true := by
  obtain ⟨r, hr, hload⟩ := loadMonitorConfig_of_accepted h
  constructor
  · intro hcomplete
    have hrange := hcomplete.in_range behindA behindB outConfig
    rw [hload] at hrange
    obtain ⟨hA, hB⟩ := forall_treeIndexed.mp hrange
    refine ⟨hA, hB, ?_⟩
    cases hnode : mqttNode tree with
    | some node => rfl
    | none =>
      -- over two memories with different ports
      let memory (port : Int32) : RadarGlobalConfig K :=
        { outConfig with mqtt_cfg := { outConfig.mqtt_cfg with port } }
      have heq := hcomplete.determined behindA behindB (memory 0) behindA behindB (memory 1)
      rw [hload, hload] at heq
      have hcfg : r.mqtt (memory 0).construct.mqtt_cfg = r.mqtt (memory 1).construct.mqtt_cfg :=
        congrArg (·.mqtt_cfg) heq
      rw [hr.mqtt_of_none hnode] at hcfg
      have hport : (0 : Int32) = 1 := congrArg (·.port) hcfg
      exact absurd hport (by decide)
  · rintro ⟨hA, hB, hmqtt⟩
    constructor
    · intro behindA behindB memory
      rw [hload]
      exact forall_treeIndexed.mpr ⟨hA, hB⟩
    · intro behindA behindB memory behindA' behindB' memory'
      rw [hload, hload]
      show r.write behindA behindB memory.construct = r.write behindA' behindB' memory'.construct
      rw [ReadMonitor.write, ReadMonitor.write,
        r.lidarA.write_eq (hr.lengthA ▸ hA) behindA behindA' rfl rfl,
        r.lidarB.write_eq (hr.lengthB ▸ hB) behindB behindB' rfl rfl,
        hr.mqtt_of_isSome hmqtt memory.construct.mqtt_cfg memory'.construct.mqtt_cfg,
        hr.thresholds memory.construct memory'.construct]
      rfl

/-! ## Two documents -/

/-- Numbers of the documents below, which are all `0`. -/
def zeroScalars : Scalars ℚ where
  double text := if text = "0" then some 0 else none
  float text := if text = "0" then some 0 else none
  int text := if text = "0" then some 0 else none

/-- A mapping with text keys. -/
def yamlMap (pairs : List (String × Yaml)) : Yaml :=
  .map (pairs.map fun p => (.scalar p.1, p.2))

/-- A section with the same text at all keys. -/
def textSection (keys : List String) (text : String) : List (String × Yaml) :=
  keys.map fun key => (key, .scalar text)

/-- A document with both radars and, behind them, other sections. -/
def radarDocument (others : List (String × Yaml)) : Yaml :=
  let radar := yamlMap
    [("trans", .seq (List.replicate 3 (.scalar "0"))), ("rotate_z_deg", .scalar "0")]
  yamlMap (textSection ["Abg_pcd_path", "Bbg_pcd_path"] "bg.pcd"
    ++ textSection ["dist_threshold", "cluster_eps", "cluster_min_points", "stable_frame_count",
      "stable_dist_threshold", "min_valid_ship_points"] "0"
    ++ [("lidar_a", radar), ("lidar_b", radar)] ++ others)

/-- An MQTT section. -/
def mqttSection : String × Yaml :=
  ("mqtt", yamlMap (textSection ["host", "username", "password", "default_topic",
    "dev_status_topic", "berth_id"] "x" ++ textSection ["port", "qos", "reconnect_interval"] "0"))

/-- A memory that holds `port` in all integers of the MQTT section. -/
def portMemory (port : Int32) : RadarGlobalConfig ℚ where
  lidarA_bg_pcd_path := ""
  lidarB_bg_pcd_path := ""
  dist_threshold := 0
  cluster_eps := 0
  cluster_min_points := 0
  stable_frame_count := 0
  stable_dist_threshold := 0
  min_valid_ship_points := 0
  lidarA := { trans := fun _ => 0, rotate_z_deg := 0 }
  lidarB := { trans := fun _ => 0, rotate_z_deg := 0 }
  base_update_interval_min := 0
  mqtt_cfg := ⟨"", "", port, "", "", "", "", port, port⟩

theorem monitorConfigComplete_iff_full :
    MonitorConfigComplete zeroScalars (radarDocument [mqttSection]) ↔
      3 ≤ (sectionTrans (radarDocument [mqttSection]) "lidar_a").length ∧
        3 ≤ (sectionTrans (radarDocument [mqttSection]) "lidar_b").length ∧
        (mqttNode (radarDocument [mqttSection])).isSome = true :=
  have haccepted : (loadMonitorConfig zeroScalars (fun _ => 0) (fun _ => 0)
      (.ok (radarDocument [mqttSection])) (portMemory 0).construct).1 = true := by decide +kernel
  monitorConfigComplete_iff haccepted

/-- A document without an MQTT section is accepted, and the port is what memory held. -/
theorem accepted_without_mqtt :
    (loadMonitorConfig zeroScalars (fun _ => 0) (fun _ => 0) (.ok (radarDocument []))
      (portMemory 0).construct).1 = true ∧
    ¬MonitorConfigComplete zeroScalars (radarDocument []) := by
  refine ⟨by decide +kernel, fun h => ?_⟩
  have heq := h.determined (fun _ => 0) (fun _ => 0) (portMemory 0) (fun _ => 0) (fun _ => 0)
    (portMemory 1)
  exact absurd (congrArg (·.mqtt_cfg.port) heq) (by decide +kernel)

end ShipMotion
