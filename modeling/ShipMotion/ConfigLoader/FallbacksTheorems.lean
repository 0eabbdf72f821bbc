import ShipMotion.ConfigLoader.Fallbacks

/-!
# What a document with fallbacks loads

Sections are loaded as a whole or not at all: the only accesses that can fail come before the first
assignment of a section. The parameters of the registration are merged with what the document has,
and loading a document again changes nothing. A document gives a complete radar configuration, one
that nothing else decides, exactly when both radars have a section.
-/

namespace ShipMotion

open Utils (Yaml Loader Loading)
open Utils.Yaml (find? isScalar asScalarOr asStringOr)
open Utils.Loader (Ends read member update)

/-! ## Members and sections -/

/-- A member with a fallback is assigned, unless its node is a scalar. -/
theorem ends_assignOr {C T : Type} {node : Option Yaml} (h : isScalar node = false) (key : String)
    (asOr : T → Option Yaml → T) (fallback : C → T) (write : T → C → C) :
    Ends (assignOr node key asOr fallback write) true fun c =>
      write (asOr (fallback c) (find? key node)) c := by
  rw [assignOr, Yaml.get_of_not_scalar h]
  exact Loader.ends_read_ok _ (Loader.ends_update _)

theorem ends_assignOr_scalar {C T : Type} {node : Option Yaml} (h : isScalar node = true)
    (key : String) (asOr : T → Option Yaml → T) (fallback : C → T) (write : T → C → C) :
    Ends (assignOr node key asOr fallback write) false id := by
  rw [assignOr, Yaml.get_of_scalar h]
  exact Loader.ends_read_error _ _

/-- A section that is not there leaves its member as it is. -/
theorem ends_loadSection {C D : Type} {root : Option Yaml} (hroot : isScalar root = false)
    (key : String) (get : C → D) (set : D → C → C) {load : Option Yaml → Loader Yaml.Exn D Unit}
    (ok : Option Yaml → Bool) (w : Option Yaml → D → D) (hset : ∀ c, set (get c) c = c)
    (hok : ok none = true) (hw : w none = id)
    (hload : ∀ tree, Ends (load (some tree)) (ok (some tree)) (w (some tree))) :
    Ends (loadSection root key get set load) (ok (find? key root)) fun c =>
      set (w (find? key root) (get c)) c := by
  rw [loadSection, Yaml.get_of_not_scalar hroot]
  refine Loader.ends_read_ok _ ?_
  cases find? key root with
  | none =>
    rw [hok, hw]
    exact Loader.ends_pure.of_eq fun c => (hset c).symm
  | some tree => exact (hload tree).member get set

theorem ends_loadSection_scalar {C D : Type} {root : Option Yaml} (hroot : isScalar root = true)
    (key : String) (get : C → D) (set : D → C → C) (load : Option Yaml → Loader Yaml.Exn D Unit) :
    Ends (loadSection root key get set load) false id := by
  rw [loadSection, Yaml.get_of_scalar hroot]
  exact Loader.ends_read_error _ _

/-! ## The parameters of the registration -/

section Reg

variable {K : Type} [Field K] (scalars : RegScalars K)

/-- Neither the node of a section nor its voxel is a scalar. -/
def opens (node : Option Yaml) : Bool := !isScalar node && !isScalar (find? "voxel" node)

/-- What the document has of the voxel, and what the parameters have of the rest. -/
def NdtParam.mergeVoxel (voxel : Option Yaml) (p : NdtParam K) : NdtParam K :=
  { p with
    voxel_x := asScalarOr scalars.double p.voxel_x (find? "x" voxel)
    voxel_y := asScalarOr scalars.double p.voxel_y (find? "y" voxel)
    voxel_z := asScalarOr scalars.double p.voxel_z (find? "z" voxel) }

/-- What the document has of the members, and what the parameters have of the rest. -/
def NdtParam.mergeMembers (node : Option Yaml) (p : NdtParam K) : NdtParam K :=
  { p with
    max_iter := asScalarOr scalars.int p.max_iter (find? "max_iter" node)
    trans_eps := asScalarOr scalars.double p.trans_eps (find? "trans_eps" node)
    step_size := asScalarOr scalars.double p.step_size (find? "step_size" node)
    resolution := asScalarOr scalars.double p.resolution (find? "resolution" node)
    fit_thresh := asScalarOr scalars.double p.fit_thresh (find? "fit_thresh" node) }

/-- What the document has of the parameters, and what they are of the others. -/
def NdtParam.merge (node : Option Yaml) (p : NdtParam K) : NdtParam K :=
  (p.mergeVoxel scalars (find? "voxel" node)).mergeMembers scalars node

@[inherit_doc NdtParam.mergeVoxel]
def GicpParam.mergeVoxel (voxel : Option Yaml) (p : GicpParam K) : GicpParam K :=
  { p with
    voxel_x := asScalarOr scalars.double p.voxel_x (find? "x" voxel)
    voxel_y := asScalarOr scalars.double p.voxel_y (find? "y" voxel)
    voxel_z := asScalarOr scalars.double p.voxel_z (find? "z" voxel) }

@[inherit_doc NdtParam.mergeMembers]
def GicpParam.mergeMembers (node : Option Yaml) (p : GicpParam K) : GicpParam K :=
  { p with
    use_reciprocal := asScalarOr scalars.bool p.use_reciprocal (find? "use_reciprocal" node)
    max_corr_dist := asScalarOr scalars.double p.max_corr_dist (find? "max_corr_dist" node)
    max_iter := asScalarOr scalars.int p.max_iter (find? "max_iter" node)
    trans_eps := asScalarOr scalars.double p.trans_eps (find? "trans_eps" node)
    euclid_eps := asScalarOr scalars.double p.euclid_eps (find? "euclid_eps" node)
    rot_eps := asScalarOr scalars.double p.rot_eps (find? "rot_eps" node)
    rand_num := asScalarOr scalars.int p.rand_num (find? "rand_num" node)
    fit_thresh := asScalarOr scalars.double p.fit_thresh (find? "fit_thresh" node)
    score_radius := asScalarOr scalars.double p.score_radius (find? "score_radius" node) }

@[inherit_doc NdtParam.merge]
def GicpParam.merge (node : Option Yaml) (p : GicpParam K) : GicpParam K :=
  (p.mergeVoxel scalars (find? "voxel" node)).mergeMembers scalars node

/-- A section that reads its voxel first. It is loaded as a whole if it is open, and else nothing is
assigned. -/
theorem ends_of_voxel {D : Type} {node : Option Yaml} {load : Option Yaml → Loader Yaml.Exn D Unit}
    {members : Loader Yaml.Exn D Unit} {wvoxel : Option Yaml → D → D} {wmembers : D → D}
    (hload : ∀ voxel, isScalar voxel = false → Ends (load voxel) true (wvoxel voxel))
    (hscalar : ∀ voxel, isScalar voxel = true → Ends (load voxel) false id)
    (hnone : wvoxel none = id) (hmembers : isScalar node = false → Ends members true wmembers) :
    Ends (loadSection node "voxel" id (fun p _ => p) load >>= fun _ => members) (opens node)
      (if opens node then wmembers ∘ wvoxel (find? "voxel" node) else id) := by
  cases hnode : isScalar node with
  | true =>
    have hopens : opens node = false := by rw [opens, hnode]; rfl
    rw [hopens]
    exact Loader.Ends.stop (ends_loadSection_scalar hnode "voxel" id (fun p _ => p) load) _
  | false =>
    have hopens : opens node = !isScalar (find? "voxel" node) := by
      rw [opens, hnode]
      rfl
    have hvoxel : ∀ tree, Ends (load (some tree)) (!isScalar (some tree))
        (if isScalar (some tree) then id else wvoxel (some tree)) := by
      intro tree
      cases htree : isScalar (some tree) with
      | true => exact hscalar _ htree
      | false => exact hload _ htree
    have hsection := ends_loadSection hnode "voxel" id (fun p _ => p)
      (fun voxel => !isScalar voxel)
      (fun voxel => if isScalar voxel then id else wvoxel voxel) (fun _ => rfl) rfl hnone hvoxel
    rw [hopens]
    cases hfound : isScalar (find? "voxel" node) with
    | true =>
      rw [hfound] at hsection
      exact hsection.stop _
    | false =>
      rw [hfound] at hsection
      exact hsection.bind (hmembers hnode)

theorem ends_loadNdt (node : Option Yaml) :
    Ends (loadNdt scalars node) (opens node)
      (if opens node then NdtParam.merge scalars node else id) := by
  have hload : ∀ voxel, isScalar voxel = false →
      Ends (loadNdtVoxel scalars voxel) true (NdtParam.mergeVoxel scalars voxel) := fun voxel h =>
    (ends_assignOr h _ _ _ _).bind ((ends_assignOr h _ _ _ _).bind (ends_assignOr h _ _ _ _))
  have hmembers : isScalar node = false →
      Ends (loadNdtMembers scalars node) true (NdtParam.mergeMembers scalars node) := fun h =>
    (ends_assignOr h _ _ _ _).bind ((ends_assignOr h _ _ _ _).bind
      ((ends_assignOr h _ _ _ _).bind ((ends_assignOr h _ _ _ _).bind (ends_assignOr h _ _ _ _))))
  exact ends_of_voxel hload (fun voxel h => (ends_assignOr_scalar h _ _ _ _).stop _) rfl hmembers

theorem ends_loadGicp (node : Option Yaml) :
    Ends (loadGicp scalars node) (opens node)
      (if opens node then GicpParam.merge scalars node else id) := by
  have hload : ∀ voxel, isScalar voxel = false →
      Ends (loadGicpVoxel scalars voxel) true (GicpParam.mergeVoxel scalars voxel) := fun voxel h =>
    (ends_assignOr h _ _ _ _).bind ((ends_assignOr h _ _ _ _).bind (ends_assignOr h _ _ _ _))
  have hmembers : isScalar node = false →
      Ends (loadGicpMembers scalars node) true (GicpParam.mergeMembers scalars node) := fun h =>
    (ends_assignOr h _ _ _ _).bind ((ends_assignOr h _ _ _ _).bind
      ((ends_assignOr h _ _ _ _).bind ((ends_assignOr h _ _ _ _).bind
        ((ends_assignOr h _ _ _ _).bind ((ends_assignOr h _ _ _ _).bind
          ((ends_assignOr h _ _ _ _).bind ((ends_assignOr h _ _ _ _).bind
            (ends_assignOr h _ _ _ _))))))))
  exact ends_of_voxel hload (fun voxel h => (ends_assignOr_scalar h _ _ _ _).stop _) rfl hmembers

/-- What `loadRegParam` makes of the parameters, when it is given a document. -/
def RegParam.merge (tree : Yaml) (p : RegParam K) : RegParam K where
  ndt := p.ndt.merge scalars (find? "ndt" (some tree))
  gicp := p.gicp.merge scalars (find? "gicp" (some tree))

/-- What is read and then is the fallback is read again. -/
theorem asScalarOr_asScalarOr {N : Type} (decode : String → Option N) (n : N) (node : Option Yaml) :
    asScalarOr decode (asScalarOr decode n node) node = asScalarOr decode n node := by
  match node with
  | some (.scalar text) =>
    show (decode text).getD ((decode text).getD n) = (decode text).getD n
    cases decode text with
    | none => rfl
    | some m => rfl
  | none | some .null | some (.seq _) | some (.map _) => rfl

theorem ndt_merge_merge (node : Option Yaml) (p : NdtParam K) :
    (p.merge scalars node).merge scalars node = p.merge scalars node := by
  simp only [NdtParam.merge, NdtParam.mergeMembers, NdtParam.mergeVoxel, asScalarOr_asScalarOr]

theorem gicp_merge_merge (node : Option Yaml) (p : GicpParam K) :
    (p.merge scalars node).merge scalars node = p.merge scalars node := by
  simp only [GicpParam.merge, GicpParam.mergeMembers, GicpParam.mergeVoxel, asScalarOr_asScalarOr]

/-- What a load leaves of the parameters, given the document. -/
def RegParam.load (tree : Yaml) (p : RegParam K) : RegParam K :=
  if isScalar (some tree) || !opens (find? "ndt" (some tree)) then p
  else if opens (find? "gicp" (some tree)) then p.merge scalars tree
  else { p with ndt := p.ndt.merge scalars (find? "ndt" (some tree)) }

theorem ends_loadRegBody (tree : Yaml) :
    Ends (loadRegBody scalars (.ok tree))
      (!isScalar (some tree) && opens (find? "ndt" (some tree)) && opens (find? "gicp" (some tree)))
      (RegParam.load scalars tree) := by
  refine Loader.ends_read_ok _ ?_
  cases hroot : isScalar (some tree) with
  | true =>
    refine ((ends_loadSection_scalar hroot _ _ _ _).stop _).of_eq fun p => ?_
    rw [RegParam.load, hroot]
    rfl
  | false =>
    have hndt := ends_loadSection hroot "ndt" (·.ndt)
      (fun ndt c => ({ c with ndt } : RegParam K)) opens
      (fun node => if opens node then NdtParam.merge scalars node else id) (fun _ => rfl) rfl rfl
      (fun tree => ends_loadNdt scalars (some tree))
    have hgicp := ends_loadSection hroot "gicp" (·.gicp)
      (fun gicp c => ({ c with gicp } : RegParam K)) opens
      (fun node => if opens node then GicpParam.merge scalars node else id) (fun _ => rfl) rfl rfl
      (fun tree => ends_loadGicp scalars (some tree))
    cases hopens : opens (find? "ndt" (some tree)) with
    | false =>
      rw [hopens] at hndt
      refine (hndt.stop _).of_eq fun p => ?_
      rw [RegParam.load, hroot, hopens]
      rfl
    | true =>
      rw [hopens] at hndt
      refine (hndt.bind hgicp).of_eq fun p => ?_
      rw [RegParam.load, hroot, hopens]
      cases opens (find? "gicp" (some tree)) with
      | true => rfl
      | false => rfl

/-- Sections that are merged are the same when they are merged again. -/
theorem load_load (tree : Yaml) (p : RegParam K) :
    (p.load scalars tree).load scalars tree = p.load scalars tree := by
  unfold RegParam.load
  split
  · rfl
  · split
    · simp only [RegParam.merge, ndt_merge_merge, gicp_merge_merge]
    · simp only [ndt_merge_merge]

/-- **The parameters after a load.** A file that cannot be read leaves them as they are, and so does
a document, or a section `ndt`, that is a scalar or has a scalar for its voxel. If only the section
`gicp` is like that, the call fails with the parameters of NDT merged. Otherwise both sections are
merged. Loading the file again changes nothing. -/
theorem loadRegParam_sections (file : Except Yaml.Exn Yaml) (outParam : RegParam K) :
    (loadRegParam scalars file outParam =
      match file with
      | .error _ => (false, outParam)
      | .ok tree =>
        if isScalar (some tree) || !opens (find? "ndt" (some tree)) then (false, outParam)
        else if opens (find? "gicp" (some tree)) then (true, outParam.merge scalars tree)
        else
          (false, { outParam with ndt := outParam.ndt.merge scalars (find? "ndt" (some tree)) })) ∧
    loadRegParam scalars file (loadRegParam scalars file outParam).2
      = loadRegParam scalars file outParam := by
  cases file with
  | error e => exact ⟨rfl, rfl⟩
  | ok tree =>
    have hload : ∀ p, loadRegParam scalars (.ok tree) p
        = (!isScalar (some tree) && opens (find? "ndt" (some tree))
            && opens (find? "gicp" (some tree)), p.load scalars tree) :=
      (ends_loadRegBody scalars tree).caught
    constructor
    · rw [hload]
      dsimp only
      unfold RegParam.load
      cases isScalar (some tree) with
      | true => rfl
      | false =>
        cases opens (find? "ndt" (some tree)) with
        | false => rfl
        | true =>
          cases opens (find? "gicp" (some tree)) with
          | true => rfl
          | false => rfl
    · rw [hload, hload, load_load]

end Reg

/-! ## The radars -/

section Lidar

variable (int : String → Option Int32)

/-- What a section says of a radar. -/
def LidarConfig.ofNode (node : Option Yaml) : LidarConfig where
  name := asStringOr "Unknown" (find? "name" node)
  lidar_ip := asStringOr "0.0.0.0" (find? "dev_ip" node)
  local_ip := asStringOr "0.0.0.0" (find? "local_ip" node)
  dev_port := asScalarOr int 0 (find? "dev_port" node)
  data_port := asScalarOr int 0 (find? "data_port" node)

/-- A radar keeps what it has if there is no section for it, or one that is a scalar. -/
def LidarConfig.load (node : Option Yaml) (c : LidarConfig) : LidarConfig :=
  if node.isNone || isScalar node then c else .ofNode int node

theorem ends_loadLidar (tree : Yaml) :
    Ends (loadLidar int (some tree)) (!isScalar (some tree))
      (LidarConfig.load int (some tree)) := by
  cases h : isScalar (some tree) with
  | true =>
    refine ((ends_assignOr_scalar h _ _ _ _).stop _).of_eq fun c => ?_
    rw [LidarConfig.load, h]
    rfl
  | false =>
    refine ((ends_assignOr h _ _ _ _).bind ((ends_assignOr h _ _ _ _).bind
      ((ends_assignOr h _ _ _ _).bind ((ends_assignOr h _ _ _ _).bind
        (ends_assignOr h _ _ _ _))))).of_eq fun c => ?_
    rw [LidarConfig.load, h]
    rfl

/-- The switches of a document. -/
def AllLidarConfigs.switches (tree : Yaml) (c : AllLidarConfigs) : AllLidarConfigs :=
  { c with
    debug_save := asScalarOr int 0 (find? "debug_save" (some tree))
    ship_monitor := asScalarOr int 0 (find? "ship_monitor" (some tree))
    save_min := asScalarOr int 0 (find? "save_min" (some tree)) }

/-- What a load leaves of the configuration, given a document that is not a scalar. The second radar
is not read if the first one is a scalar. -/
def AllLidarConfigs.load (tree : Yaml) (c : AllLidarConfigs) : AllLidarConfigs :=
  { c.switches int tree with
    lidarA := c.lidarA.load int (find? "lidarA" (some tree))
    lidarB :=
      if isScalar (find? "lidarA" (some tree)) then c.lidarB
      else c.lidarB.load int (find? "lidarB" (some tree)) }

theorem ends_loadLidarBody {tree : Yaml} (hroot : isScalar (some tree) = false) :
    Ends (loadLidarBody int (.ok tree))
      (!isScalar (find? "lidarA" (some tree)) && !isScalar (find? "lidarB" (some tree)))
      (AllLidarConfigs.load int tree) := by
  have hswitches : Ends (loadSwitches int (some tree)) true (AllLidarConfigs.switches int tree) :=
    (ends_assignOr hroot _ _ _ _).bind ((ends_assignOr hroot _ _ _ _).bind
      (ends_assignOr hroot _ _ _ _))
  have hlidarA := ends_loadSection hroot "lidarA" (·.lidarA)
    (fun lidarA c => ({ c with lidarA } : AllLidarConfigs)) (fun node => !isScalar node)
    (LidarConfig.load int) (fun _ => rfl) rfl rfl (ends_loadLidar int)
  have hlidarB := ends_loadSection hroot "lidarB" (·.lidarB)
    (fun lidarB c => ({ c with lidarB } : AllLidarConfigs)) (fun node => !isScalar node)
    (LidarConfig.load int) (fun _ => rfl) rfl rfl (ends_loadLidar int)
  refine Loader.ends_read_ok _ ?_
  cases hA : isScalar (find? "lidarA" (some tree)) with
  | true =>
    rw [hA] at hlidarA
    refine (hswitches.bind (hlidarA.stop _)).of_eq fun c => ?_
    rw [AllLidarConfigs.load, hA]
    rfl
  | false =>
    rw [hA] at hlidarA
    refine (hswitches.bind (hlidarA.bind hlidarB)).of_eq fun c => ?_
    rw [AllLidarConfigs.load, hA]
    rfl

/-- A configuration over memory in which every port is `port`. -/
def portsMemory (port : Int32) : AllLidarConfigs where
  lidarA := ⟨"", "", "", port, port⟩
  lidarB := ⟨"", "", "", port, port⟩
  debug_save := 0
  ship_monitor := 0
  save_min := 0

/-- A document that is a scalar fails, and leaves the configuration as it is. -/
theorem loadLidarConfigs_of_scalar {tree : Yaml} (hroot : isScalar (some tree) = true)
    (memory : AllLidarConfigs) : loadLidarConfigs int (.ok tree) memory = (false, memory) :=
  have hends : Ends (loadLidarBody int (.ok tree)) false id :=
    Loader.ends_read_ok _ (((ends_assignOr_scalar hroot _ _ _ _).stop _).stop _)
  hends.caught memory

/-- Any other one fails at a section that is a scalar only. -/
theorem loadLidarConfigs_of_not_scalar {tree : Yaml} (hroot : isScalar (some tree) = false)
    (memory : AllLidarConfigs) : loadLidarConfigs int (.ok tree) memory
      = (!isScalar (find? "lidarA" (some tree)) && !isScalar (find? "lidarB" (some tree)),
          memory.load int tree) :=
  (ends_loadLidarBody int hroot).caught memory

/-- A load that takes both sections, over two memories, tells whether both are there. -/
theorem sections_of_load_eq {tree : Yaml} (hA : isScalar (find? "lidarA" (some tree)) = false)
    (h : (portsMemory 0).construct.load int tree = (portsMemory 1).construct.load int tree) :
    find? "lidarA" (some tree) ≠ none ∧ find? "lidarB" (some tree) ≠ none := by
  constructor
  · intro ha
    have hport := congrArg (·.lidarA.dev_port) h
    simp only [AllLidarConfigs.load, ha] at hport
    cases hport
  · intro hb
    have hport := congrArg (·.lidarB.dev_port) h
    simp only [AllLidarConfigs.load, hA, hb] at hport
    cases hport

/-- **Complete radar configurations.** A document is taken and gives a configuration that does not
depend on what memory held before, exactly when it is not a scalar and both radars have a section
that is not a scalar. -/
theorem loadLidarConfigs_complete_iff (tree : Yaml) :
    (∃ c, ∀ memory : AllLidarConfigs,
      loadLidarConfigs int (.ok tree) memory.construct = (true, c)) ↔
      isScalar (some tree) = false ∧
      (∃ a, find? "lidarA" (some tree) = some a ∧ isScalar (some a) = false) ∧
      ∃ b, find? "lidarB" (some tree) = some b ∧ isScalar (some b) = false := by
  constructor
  · rintro ⟨c, hc⟩
    have hzero := hc (portsMemory 0)
    have hone := hc (portsMemory 1)
    cases hroot : isScalar (some tree) with
    | true =>
      rw [loadLidarConfigs_of_scalar int hroot] at hzero
      cases hzero
    | false =>
      rw [loadLidarConfigs_of_not_scalar int hroot, Prod.mk.injEq, Bool.and_eq_true,
        Bool.not_eq_true', Bool.not_eq_true'] at hzero hone
      obtain ⟨⟨hA, hB⟩, hczero⟩ := hzero
      obtain ⟨ha, hb⟩ := sections_of_load_eq int hA (hczero.trans hone.2.symm)
      obtain ⟨a, ha⟩ := Option.ne_none_iff_exists'.mp ha
      obtain ⟨b, hb⟩ := Option.ne_none_iff_exists'.mp hb
      exact ⟨rfl, ⟨a, ha, ha ▸ hA⟩, b, hb, hb ▸ hB⟩
  · rintro ⟨hroot, ⟨a, ha, hascalar⟩, b, hb, hbscalar⟩
    refine ⟨(portsMemory 0).construct.load int tree, fun memory => ?_⟩
    rw [loadLidarConfigs_of_not_scalar int hroot, ha, hb, hascalar, hbscalar]
    simp only [AllLidarConfigs.load, LidarConfig.load, ha, hb, hascalar, hbscalar]
    rfl

end Lidar
end ShipMotion
