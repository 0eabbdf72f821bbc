import ShipMotion.LidarBgDiff.SharedFilter

/-!
# What a call gets from the shared filter

A call that nobody interrupts is the sequential `extractForeground`. In a schedule it still is,
as long as the filter it runs has the input that the call itself has set; when the other
radar's thread sets the input in between, the call returns the other radar's foreground.
-/

namespace ShipMotion
namespace LidarBgDiff
namespace SharedFilter

open Utils

variable {K ι : Type} [Field K] [LinearOrder K] [DecidableEq ι]
variable {pcl : Pcl K} {objects : ι → State K}

/-! ## Calls without interruption -/

variable (pcl) in
omit [DecidableEq ι] in
/-- Behind the tests, a call returns the foreground points of the filtered cloud. -/
theorem extractForeground_eq {self : State K} {cloud : Cloud K}
    (h : (!self.bg_ready_ || cloud.isEmpty) = false) :
    extractForeground pcl self (some cloud)
      = (pcl.voxelFilter cloud).filter (isForeground pcl self) := by
  show (if (!self.bg_ready_ || cloud.isEmpty) = true then _ else _) = _
  rw [h]
  rfl

variable (pcl objects) in
/-- The search loop, step by step. -/
theorem exec_search {s : Threads K ι} {i : ι} {cloud rest out_cloud : Cloud K}
    (hpc : s.pc i = .search cloud rest out_cloud) :
    ∃ steps s', (∀ a ∈ steps, a = .step i) ∧ (system pcl objects).exec s steps = some s' ∧
      s'.finished = s.finished
        ++ [⟨i, some cloud, out_cloud ++ rest.filter (isForeground pcl (objects i))⟩] := by
  induction rest generalizing s out_cloud with
  | nil =>
    refine ⟨[.step i], s.finish i (some cloud) out_cloud, by simp, ?_, ?_⟩
    · show ((threadStep pcl (objects i) s i).bind _) = _
      rw [threadStep, hpc]
      rfl
    · rw [List.filter_nil, List.append_nil]
      rfl
  -- one step for this point, then the steps for the rest
  | cons pt rest ih =>
    obtain ⟨steps, s', hall, hexec, hfinished⟩ := ih (s := s.setPc i (.search cloud rest
      (if isForeground pcl (objects i) pt then out_cloud ++ [pt] else out_cloud)))
      (by rw [setPc_pc, if_pos rfl])
    refine ⟨.step i :: steps, s', ?_, ?_, ?_⟩
    · intro a ha
      rcases List.mem_cons.mp ha with rfl | ha
      · rfl
      · exact hall a ha
    · rw [LTS.exec_cons (t := s.setPc i (.search cloud rest
        (if isForeground pcl (objects i) pt then out_cloud ++ [pt] else out_cloud))) steps ?_]
      · exact hexec
      · show threadStep pcl (objects i) s i = _
        rw [threadStep, hpc]
    · rw [hfinished]
      show s.finished ++ _ = _
      cases hfar : isForeground pcl (objects i) pt with
      | true => rw [List.filter_cons_of_pos hfar, if_pos rfl, List.append_assoc]; rfl
      | false => rw [List.filter_cons_of_neg (by rw [hfar]; exact Bool.false_ne_true)]; rfl

/-- A call that nobody interrupts is the sequential `extractForeground`. -/
theorem exec_call {s : Threads K ι} {i : ι} (hpc : s.pc i = .idle) (in_cloud : Option (Cloud K)) :
    ∃ steps s', (∀ a ∈ steps, a = .step i) ∧
      (system pcl objects).exec s (.call i in_cloud :: steps) = some s' ∧
      s'.finished = s.finished
        ++ [⟨i, in_cloud, extractForeground pcl (objects i) in_cloud⟩] := by
  have hcall : step pcl objects s (.call i in_cloud)
      = some (callStep (objects i) s i in_cloud) := by
    rw [step, hpc]
  cases in_cloud with
  | none =>
    refine ⟨[], s.finish i none [], by simp, ?_, rfl⟩
    rw [LTS.exec_cons [] hcall]
    rfl
  | some cloud =>
    cases hready : !(objects i).bg_ready_ || cloud.isEmpty with
    | true =>
      have hout : extractForeground pcl (objects i) (some cloud) = [] := by
        show (if (!(objects i).bg_ready_ || cloud.isEmpty) = true then _ else _) = _
        rw [hready]
        rfl
      refine ⟨[], s.finish i (some cloud) [], by simp, ?_, ?_⟩
      · rw [LTS.exec_cons [] hcall, callStep, hready]
        rfl
      · rw [hout]
        rfl
    | false =>
      have hout := extractForeground_eq pcl hready
      have hset : callStep (objects i) s i (some cloud) = s.setPc i (.setInputCloud cloud) := by
        rw [callStep, hready]
        rfl
      -- after the input is set, the filter runs on this cloud
      let s₂ : Threads K ι := { s.setPc i (.setInputCloud cloud) with
        filter_input := some cloud }.setPc i (.filter cloud)
      have hinput : step pcl objects (s.setPc i (.setInputCloud cloud)) (.step i) = some s₂ := by
        show threadStep pcl (objects i) _ i = _
        rw [threadStep, setPc_pc, if_pos rfl]
      have hfilter : step pcl objects s₂ (.step i) =
          if (pcl.voxelFilter cloud).isEmpty then some (s₂.finish i (some cloud) [])
          else some (s₂.setPc i (.search cloud (pcl.voxelFilter cloud) [])) := by
        show threadStep pcl (objects i) _ i = _
        rw [threadStep, setPc_pc, if_pos rfl]
        rfl
      cases hempty : (pcl.voxelFilter cloud).isEmpty with
      | true =>
        rw [hempty] at hfilter
        refine ⟨[.step i, .step i], s₂.finish i (some cloud) [], by simp, ?_, ?_⟩
        · rw [LTS.exec_cons _ hcall, hset, LTS.exec_cons _ hinput, LTS.exec_cons _ hfilter]
          rfl
        · rw [hout, List.isEmpty_iff.mp hempty]
          rfl
      | false =>
        rw [hempty] at hfilter
        obtain ⟨steps, s', hall, hexec, hfinished⟩ := exec_search pcl objects
          (s := s₂.setPc i (.search cloud (pcl.voxelFilter cloud) [])) (by rw [setPc_pc, if_pos rfl])
        refine ⟨.step i :: .step i :: steps, s', ?_, ?_, ?_⟩
        · intro a ha
          rcases List.mem_cons.mp ha with rfl | ha
          · rfl
          · rcases List.mem_cons.mp ha with rfl | ha
            · rfl
            · exact hall a ha
        · rw [LTS.exec_cons _ hcall, hset, LTS.exec_cons _ hinput, LTS.exec_cons _ hfilter]
          exact hexec
        · rw [hfinished, hout]
          rfl

/-! ## Interleaved calls -/

/-- A thread that runs the filter finds the input that it has set itself. -/
def OwnInput (s : Threads K ι) : Action K ι → Prop
  | .step i => ∀ cloud ∈ filtering s i, s.filter_input = some cloud
  | .call _ _ => True

instance [DecidableEq K] (s : Threads K ι) : ∀ a, Decidable (OwnInput s a)
  | .step i => inferInstanceAs (Decidable (∀ cloud ∈ filtering s i, s.filter_input = some cloud))
  | .call _ _ => isTrue trivial

/-- What is still to come of a call leads to its sequential output. -/
def OnTrack (pcl : Pcl K) (self : State K) : Pc K → Prop
  | .idle => True
  | .setInputCloud cloud | .filter cloud =>
    extractForeground pcl self (some cloud)
      = (pcl.voxelFilter cloud).filter (isForeground pcl self)
  | .search cloud rest out_cloud =>
    extractForeground pcl self (some cloud) = out_cloud ++ rest.filter (isForeground pcl self)

/-- Every finished call returned its sequential output, every other call is on track to it. -/
structure Inv (pcl : Pcl K) (objects : ι → State K) (s : Threads K ι) : Prop where
  finished : ∀ c ∈ s.finished, c.out_cloud = extractForeground pcl (objects c.thread) c.in_cloud
  pending : ∀ i, OnTrack pcl (objects i) (s.pc i)

omit [DecidableEq ι] in
theorem inv_initial : Inv pcl objects (initial : Threads K ι) where
  finished := fun _ hc => absurd hc List.not_mem_nil
  pending := fun _ => trivial

/-- A thread moves on within its call. -/
theorem Inv.setPc {s : Threads K ι} (h : Inv pcl objects s) {i : ι} {pc : Pc K}
    (hpc : OnTrack pcl (objects i) pc) : Inv pcl objects (s.setPc i pc) where
  finished := h.finished
  pending := by
    intro j
    rw [setPc_pc]
    by_cases hj : j = i
    · rw [if_pos hj, hj]
      exact hpc
    · rw [if_neg hj]
      exact h.pending j

/-- A thread returns its sequential output. -/
theorem Inv.finish {s : Threads K ι} (h : Inv pcl objects s) {i : ι}
    {in_cloud : Option (Cloud K)} {out_cloud : Cloud K}
    (hout : out_cloud = extractForeground pcl (objects i) in_cloud) :
    Inv pcl objects (s.finish i in_cloud out_cloud) where
  finished := by
    intro c hc
    rcases List.mem_append.mp hc with hc | hc
    · exact h.finished c hc
    · rw [List.mem_singleton.mp hc]
      exact hout
  pending := by
    intro j
    rw [finish_pc]
    by_cases hj : j = i
    · rw [if_pos hj]
      trivial
    · rw [if_neg hj]
      exact h.pending j

/-- The tests at the head of a call. -/
theorem Inv.callStep {s : Threads K ι} (h : Inv pcl objects s) (i : ι)
    (in_cloud : Option (Cloud K)) : Inv pcl objects (callStep (objects i) s i in_cloud) := by
  cases in_cloud with
  | none => exact h.finish rfl
  | some cloud =>
    rw [SharedFilter.callStep]
    cases hready : !(objects i).bg_ready_ || cloud.isEmpty with
    | true =>
      refine h.finish ?_
      show [] = if (!(objects i).bg_ready_ || cloud.isEmpty) = true then _ else _
      rw [hready]
      rfl
    | false => exact h.setPc (extractForeground_eq pcl hready)

/-- A step keeps the invariant if the filter has the thread's own input. -/
theorem Inv.threadStep {s s' : Threads K ι} (h : Inv pcl objects s) {i : ι}
    (hown : OwnInput s (.step i)) (hstep : threadStep pcl (objects i) s i = some s') :
    Inv pcl objects s' := by
  have hpending := h.pending i
  unfold SharedFilter.threadStep at hstep
  cases hpc : s.pc i with
  | idle =>
    rw [hpc] at hstep
    cases hstep
  | setInputCloud cloud =>
    rw [hpc] at hstep hpending
    cases hstep
    have hset : Inv pcl objects { s with filter_input := some cloud } := ⟨h.finished, h.pending⟩
    exact hset.setPc hpending
  -- the only step that reads what is shared
  | filter cloud =>
    have hinput : s.filter_input = some cloud := by
      refine hown cloud ?_
      rw [filtering, hpc]
      rfl
    rw [hpc] at hstep hpending
    simp only [hinput] at hstep
    cases hempty : (pcl.voxelFilter cloud).isEmpty with
    | true =>
      rw [hempty] at hstep
      cases hstep
      refine h.finish (Eq.symm (hpending.trans ?_))
      rw [List.isEmpty_iff.mp hempty]
      rfl
    | false =>
      rw [hempty] at hstep
      cases hstep
      exact h.setPc hpending
  | search cloud rest out_cloud =>
    rw [hpc] at hstep hpending
    cases rest with
    | nil =>
      cases hstep
      refine h.finish (Eq.symm (hpending.trans ?_))
      exact List.append_nil out_cloud
    | cons pt rest =>
      cases hstep
      refine h.setPc (hpending.trans ?_)
      cases hfar : isForeground pcl (objects i) pt with
      | true => rw [List.filter_cons_of_pos hfar, if_pos rfl, List.append_assoc]; rfl
      | false => rw [List.filter_cons_of_neg (by rw [hfar]; exact Bool.false_ne_true)]; rfl

theorem Inv.step {s s' : Threads K ι} (h : Inv pcl objects s) {a : Action K ι}
    (hown : OwnInput s a) (hstep : step pcl objects s a = some s') : Inv pcl objects s' := by
  cases a with
  | call i in_cloud =>
    cases hpc : s.pc i with
    | idle =>
      simp only [SharedFilter.step, hpc] at hstep
      cases hstep
      exact h.callStep i in_cloud
    | _ =>
      simp only [SharedFilter.step, hpc] at hstep
      cases hstep
  | step i => exact h.threadStep hown hstep

/-- **Non-interference.** In every run in which each call runs the filter on the input it has set
itself, every finished call returned what it returns alone. -/
theorem calls_do_not_interfere {s : Threads K ι}
    (h : (system pcl objects).ReachableWith OwnInput s) :
    ∀ c ∈ s.finished, c.out_cloud = extractForeground pcl (objects c.thread) c.in_cloud := by
  have hinv : Inv pcl objects s := LTS.ReachableWith.invariant
    (fun _ hinit => by
      rw [show _ = initial from hinit]
      exact inv_initial)
    (fun _ _ _ hI hown hstep => hI.step hown hstep) h
  exact hinv.finished

/-- The two radars of the acquirer. -/
inductive Radar where
  | a | b
  deriving DecidableEq, Repr

/-- A filter that keeps every point, and a background at the origin. -/
def plainPcl : Pcl ℚ where
  voxelFilter := id
  nearestSqDist := fun _ pt => pt.x * pt.x + pt.y * pt.y + pt.z * pt.z
  extractClusters := fun _ _ _ => []
  extractIndices := fun cloud _ => cloud
  getMinMax3D := fun _ => (⟨0, 0, 0⟩, ⟨0, 0, 0⟩)
  sqrt := id

/-- An object with its background, for each radar. -/
def readyObject : State ℚ where
  dist_thresh_ := 0
  bg_kdtree_ := [⟨0, 0, 0⟩]
  bg_ready_ := true
  center_history_ := []
  stable_frame_cnt_ := 1
  stable_dist_thresh_ := 1
  min_valid_ship_pts_ := 1

/-- One point of the ship for each radar. -/
def cloudOf : Radar → Cloud ℚ
  | .a => [⟨1, 0, 0⟩]
  | .b => [⟨0, 1, 0⟩]

/-- The calls overlap, but each radar runs the filter right after setting its input. -/
def politeSchedule : List (Action ℚ Radar) :=
  [.call .a (some (cloudOf .a)), .call .b (some (cloudOf .b)), .step .a, .step .a, .step .b,
    .step .b, .step .a, .step .b, .step .b, .step .a]

def politeEnd : Threads ℚ Radar :=
  ((system plainPcl fun _ => readyObject).exec initial politeSchedule).get (by rfl)

theorem calls_do_not_interfere_politeEnd :
    politeEnd.finished.map (·.thread) = [.b, .a] ∧
    ∀ c ∈ politeEnd.finished, c.out_cloud = extractForeground plainPcl readyObject c.in_cloud := by
  have hinit : (system plainPcl fun _ : Radar => readyObject).ReachableWith OwnInput initial :=
    .init rfl
  have hreach : (system plainPcl fun _ : Radar => readyObject).ReachableWith OwnInput politeEnd :=
    hinit.exec (Option.some_get _).symm
      (show (system plainPcl fun _ : Radar => readyObject).Meets OwnInput initial politeSchedule by
        decide)
  exact ⟨by decide +kernel, calls_do_not_interfere hreach⟩

/-- Radar B sets its input between radar A's two filter calls. -/
def mixedSchedule : List (Action ℚ Radar) :=
  [.call .a (some (cloudOf .a)), .call .b (some (cloudOf .b)), .step .a, .step .b, .step .a,
    .step .a, .step .a]

def mixedEnd : Threads ℚ Radar :=
  ((system plainPcl fun _ => readyObject).exec initial mixedSchedule).get (by rfl)

/-- Radar A's call returns the point of radar B. -/
theorem call_returns_other_cloud :
    (system plainPcl fun _ : Radar => readyObject).Reachable mixedEnd ∧
    ⟨.a, some (cloudOf .a), cloudOf .b⟩ ∈ mixedEnd.finished ∧
    extractForeground plainPcl readyObject (some (cloudOf .a)) = cloudOf .a ∧
    cloudOf .a ≠ cloudOf .b := by
  refine ⟨LTS.reachable_of_exec rfl (Option.some_get _).symm, ?_, ?_, ?_⟩
  · decide +kernel
  · decide +kernel
  · decide

end SharedFilter
end LidarBgDiff
end ShipMotion
