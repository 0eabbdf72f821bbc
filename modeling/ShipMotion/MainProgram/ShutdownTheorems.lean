import ShipMotion.MainProgram.ProvenanceTheorems
import ShipMotion.SixDofCalculator.ShutdownTheorems

/-!
# The threads come to their end

After the signal, `main` clears one flag after the other and joins the threads behind it. Each of
them then tests its flag within a bounded number of steps: the outputter's loops wait nowhere, a
pass of `fuseLoop` has at most as many frames to send as the caches hold and tries each once more,
a radar's thread tries its frame once more, and the calculator comes to its end as in
`WorkerPool.stopVariant`. The threads that `main` does not wait for yet may go on in between.
-/

namespace ShipMotion
namespace MainProgram

open Utils PointCloudFuser SixDofCalculator DataOutputter

variable {K : Type}

/-! ## The steps that are left -/

/-- The steps of a radar's thread, once it is told to stop. -/
def RadarPc.toGo : RadarPc K → ℕ
  | .returned => 0
  | .test => 1
  | .retry _ => 2
  | .send _ => 3

/-- Those of `fuseLoop`; a pass has an exit for every frame at most. -/
def FuserPc.toGo (fuser : PointCloudFuser.State K) : FuserPc K → ℕ
  | .returned => 0
  | .test => 1
  | .emit exits => 2 * exits.length + 2
  | .retry _ exits => 2 * exits.length + 3
  | .takeB dataA =>
    2 * (fuser.cacheA_.length + dataA.toList.length + fuser.cacheB_.length + 1) + 3
  | .takeA => 2 * (fuser.cacheA_.length + fuser.cacheB_.length + 2) + 4

/-- Those of `outputLoop`; `pending` is the result it has taken. -/
def OutputPc.toGo (pending : Option (SixDofResult K)) : OutputPc → ℕ
  | .returned => 0
  | .test => 1
  | .body => if pending.isSome then 2 else 3

variable [Field K] {W : ℕ}

def SolverPc.toGo : SolverPc K → ℕ
  | .returned => 0
  | .test => 1
  | .push _ => 2
  | .body => 3

def MqttPc.toGo : MqttPc K → ℕ
  | .returned => 0
  | .test => 1
  | .publish _ => 2
  | .body => 3

omit [Field K] in
theorem RadarPc.toGo_le (pc : RadarPc K) : pc.toGo ≤ 3 := by
  cases pc <;> simp only [RadarPc.toGo] <;> omega

omit [Field K] in
theorem OutputPc.toGo_le (pending : Option (SixDofResult K)) (pc : OutputPc) :
    pc.toGo pending ≤ 3 := by
  cases pc with
  | body =>
    rw [OutputPc.toGo]
    split_ifs <;> omega
  | returned | test =>
    simp only [OutputPc.toGo]
    omega

omit [Field K] in
theorem SolverPc.toGo_le (pc : SolverPc K) : pc.toGo ≤ 3 := by
  cases pc <;> simp only [SolverPc.toGo] <;> omega

omit [Field K] in
theorem MqttPc.toGo_le (pc : MqttPc K) : pc.toGo ≤ 3 := by
  cases pc <;> simp only [MqttPc.toGo] <;> omega

/-- The most frames a pass of `fuseLoop` can send. -/
def passExits : ℕ := 2 * (maxCacheFrame + 1)

def fuserSteps : ℕ := 2 * passExits + 4

/-- The threads that `main` joins together. -/
inductive Part where
  | output
  | pool
  | fuser
  | radars
  | workers
  deriving DecidableEq

def Action.part : Action K W → Option Part
  | .output _ => some .output
  | .dispatcher _ | .worker _ _ => some .pool
  | .fuser _ => some .fuser
  | .radarA _ | .radarB _ => some .radars
  | .solver _ _ | .mqtt _ => some .workers
  | .main => none

/-- The threads that `main` waits for where it stands. -/
def MainPc.joins : MainPc → Option Part
  | .joinOutput => some .output
  | .stopCalculator => some .pool
  | .joinFuser => some .fuser
  | .joinRadars => some .radars
  | .joinWorkers => some .workers
  | _ => none

def Program.toGo (s : Program K W) : Part → ℕ
  | .output => s.outputPc.toGo s.results.pending
  | .pool => s.results.pool.left
  | .fuser => s.fuserPc.toGo s.fuser
  | .radars => s.radarA.pc.toGo + s.radarB.pc.toGo
  | .workers => s.solverPc.toGo + s.mqttPc.toGo

/-- The flag that the threads test. -/
def Program.running (s : Program K W) : Part → Bool
  | .output => s.outputRunning
  | .pool => !s.results.pool.stopper.cleared
  | .fuser => s.fuserRunning
  | .radars => s.acquirerRunning
  | .workers => s.workerRunning

/-- The steps of `main`, and those of the threads it will join later. -/
def MainPc.toGo (W : ℕ) : MainPc → ℕ
  | .running => WorkerPool.stopSteps W + fuserSteps + 25
  | .joinOutput => WorkerPool.stopSteps W + fuserSteps + 21
  | .stopCalculator => fuserSteps + 19
  | .stopFuser => fuserSteps + 18
  | .joinFuser => 17
  | .stopAcquirer => 16
  | .joinRadars => 9
  | .destroyOutputter => 8
  | .joinWorkers => 1
  | .joined => 0

/-- The steps up to the last join of `main`. -/
def Program.left (s : Program K W) : ℕ := s.mainPc.joins.elim 0 s.toGo + s.mainPc.toGo W

/-- The steps that `main` waits for where it stands, and its own. -/
def awaited (s : Program K W) (a : Action K W) : Bool :=
  match a.part with
  | none => s.mainPc ≠ .joined
  | some part => s.mainPc.joins = some part && !s.running part

/-! ## The threads -/

omit [Field K] in
theorem radarStep_toGo {frame : RawPointCloud K} {r r' : Radar K}
    (h : radarStep false frame r = some r') : r'.pc.toGo < r.pc.toGo := by
  unfold radarStep at h
  cases hpc : r.pc with
  | returned =>
    rw [hpc] at h
    cases h
  | send sending =>
    rw [hpc] at h
    rw [← Option.some.inj h]
    dsimp only
    split_ifs <;> simp only [RadarPc.toGo] <;> omega
  | test | retry sending =>
    rw [hpc] at h
    rw [← Option.some.inj h]
    exact Nat.lt_succ_self _

omit [Field K] in
theorem take_pc (r : Radar K) (unset : RawPointCloud K) : (r.take unset).1.pc = r.pc := by
  unfold Radar.take
  dsimp only
  split_ifs <;> rfl

omit [Field K] in
theorem length_take (r : Radar K) (unset : RawPointCloud K) :
    (r.take unset).2.toList.length ≤ 1 := by
  cases (r.take unset).2 with
  | none => exact Nat.zero_le _
  | some data => exact Nat.le_refl _

omit [Field K] in
/-- Every exit has a frame. -/
theorem length_exits_le (exits : List (Exit K)) :
    exits.length ≤ (exits.filterMap Exit.frameA).length + (exits.filterMap Exit.frameB).length := by
  induction exits with
  | nil => exact Nat.zero_le _
  | cons exit exits ih =>
    cases exit <;>
      simp only [List.filterMap_cons, Exit.frameA, Exit.frameB, List.length_cons] <;> omega

omit [Field K] in
theorem length_moveFrames (fuser : PointCloudFuser.State K) (d : Delivery K) :
    (moveFrames fuser d).1.length ≤
      fuser.cacheA_.length + d.dataA.toList.length
        + (fuser.cacheB_.length + d.dataB.toList.length) := by
  have hA := congrArg List.length (moveFrames_framesA fuser d)
  have hB := congrArg List.length (moveFrames_framesB fuser d)
  have hexits := length_exits_le (moveFrames fuser d).1
  rw [List.length_append, List.length_append] at hA hB
  omega

/-- The fuser keeps its caches short, and a pass has no more exits than they have frames. -/
structure FuserBounded (s : Program K W) : Prop where
  caches : Bounded s.fuser
  hand : s.fuserPc.inHand.length ≤ 1
  pending : s.fuserPc.pending.length ≤ passExits

theorem FuserBounded.takeB {s : Program K W} (h : FuserBounded s) {dataA : Option (RawPointCloud K)}
    (hpc : s.fuserPc = .takeB dataA) (radarB : Radar K) {dataB : Option (RawPointCloud K)}
    (hdataB : dataB.toList.length ≤ 1) : FuserBounded (fuserPass { s with radarB } dataA dataB) := by
  have hcaches := h.caches.moveFrames ⟨dataA, dataB, fun _ => []⟩
  have hlength := length_moveFrames s.fuser ⟨dataA, dataB, fun _ => []⟩
  have hhand : dataA.toList.length ≤ 1 := by
    have hold := h.hand
    rw [hpc] at hold
    exact hold
  obtain ⟨hA, hB⟩ := h.caches
  refine ⟨hcaches, Nat.zero_le _, hlength.trans ?_⟩
  unfold passExits
  dsimp only
  omega

variable [LinearOrder K] [FloorRing K] {pcl : Pcl K} {m : Libm K} {put_time : UInt64 → String}
variable {berth_id : String} {s t : Program K W}

theorem FuserBounded.step {a : Action K W} (h : FuserBounded s)
    (hmove : Moves pcl m put_time berth_id s a t) : FuserBounded t := by
  cases hmove with
  | fuserTest hpc =>
    refine ⟨h.caches, ?_, ?_⟩ <;> cases s.fuserRunning <;> exact Nat.zero_le _
  | takeA hpc => exact ⟨h.caches, length_take _ _, Nat.zero_le _⟩
  | takeB hpc => exact h.takeB hpc _ (length_take _ _)
  | passEnd hpc => exact ⟨h.caches, Nat.zero_le _, Nat.zero_le _⟩
  | silent hpc houtput =>
    have hpending := h.pending
    rw [hpc] at hpending
    exact ⟨h.caches, Nat.zero_le _, Nat.le_of_succ_le hpending⟩
  | @send unset exit exits fused hpc houtput =>
    have hpending := h.pending
    rw [hpc] at hpending
    cases hok : (s.rq_fuse_cloud.enqueue fused).2 with
    | true =>
      rw [sendFused_accepted hok]
      exact ⟨h.caches, Nat.zero_le _, Nat.le_of_succ_le hpending⟩
    | false =>
      rw [sendFused_refused hok]
      exact ⟨h.caches, Nat.zero_le _, hpending⟩
  | retry hpc =>
    have hpending := h.pending
    rw [hpc] at hpending
    refine ⟨h.caches, Nat.zero_le _, ?_⟩
    cases s.fuserRunning with
    | true => exact hpending
    | false => exact Nat.le_of_succ_le hpending
  | _ => exact ⟨h.caches, h.hand, h.pending⟩

theorem fuserBounded_of_reachable
    (h : (program pcl m put_time berth_id W).Reachable s) : FuserBounded s := by
  refine LTS.Reachable.invariant ?_ (fun _ _ _ hs hstep => hs.step (moves_of_step hstep)) h
  rintro s ⟨radarA, radarB, fuser, rq_fuse_cloud, results, mqtt_task_queue_, -, -, hA, hB, -, -, -,
    rfl⟩
  refine ⟨⟨?_, ?_⟩, Nat.zero_le _, Nat.zero_le _⟩
  · show fuser.cacheA_.length ≤ maxCacheFrame
    rw [hA]
    exact Nat.zero_le _
  · show fuser.cacheB_.length ≤ maxCacheFrame
    rw [hB]
    exact Nat.zero_le _

omit [LinearOrder K] [FloorRing K] in
theorem FuserBounded.toGo_le (h : FuserBounded s) : s.fuserPc.toGo s.fuser ≤ fuserSteps := by
  obtain ⟨⟨hA, hB⟩, hhand, hpending⟩ := h
  unfold fuserSteps passExits at *
  cases hpc : s.fuserPc with
  | takeB dataA =>
    rw [hpc] at hhand
    simp only [FuserPc.inHand, FuserPc.toGo] at hhand ⊢
    omega
  | emit exits =>
    rw [hpc] at hpending
    simp only [FuserPc.pending, FuserPc.toGo] at hpending ⊢
    omega
  | retry exit exits =>
    rw [hpc] at hpending
    simp only [FuserPc.pending, FuserPc.toGo, List.length_cons] at hpending ⊢
    omega
  | _ =>
    simp only [FuserPc.toGo]
    omega

omit [LinearOrder K] [FloorRing K] in
theorem fuserStep_toGo {unset : RawPointCloud K} (hrunning : s.fuserRunning = false)
    (h : fuserStep s unset = some t) : t.fuserPc.toGo t.fuser < s.fuserPc.toGo s.fuser := by
  unfold fuserStep at h
  cases hpc : s.fuserPc with
  | test =>
    rw [hpc] at h
    rw [← Option.some.inj h, hrunning]
    exact Nat.zero_lt_one
  | takeA =>
    rw [hpc] at h
    have hdata := length_take s.radarA unset
    rw [← Option.some.inj h]
    show (FuserPc.takeB (s.radarA.take unset).2).toGo s.fuser < FuserPc.takeA.toGo s.fuser
    simp only [FuserPc.toGo]
    omega
  | takeB dataA =>
    rw [hpc] at h
    have hdata := length_take s.radarB unset
    have hlength := length_moveFrames s.fuser ⟨dataA, (s.radarB.take unset).2, fun _ => []⟩
    rw [← Option.some.inj h]
    show 2 * (moveFrames s.fuser ⟨dataA, (s.radarB.take unset).2, fun _ => []⟩).1.length + 2
      < 2 * (s.fuser.cacheA_.length + dataA.toList.length + s.fuser.cacheB_.length + 1) + 3
    dsimp only at hlength
    omega
  | emit exits =>
    rw [hpc] at h
    cases exits with
    | nil =>
      rw [← Option.some.inj h]
      exact Nat.lt_succ_self _
    | cons exit exits =>
      dsimp only at h
      cases houtput : exit.output s.fuser.T_B2A_ with
      | none =>
        rw [houtput] at h
        rw [← Option.some.inj h]
        simp only [FuserPc.toGo, List.length_cons]
        omega
      | some fused =>
        rw [houtput] at h
        rw [← Option.some.inj h]
        cases hok : (s.rq_fuse_cloud.enqueue fused).2 with
        | true =>
          rw [sendFused_accepted hok]
          simp only [FuserPc.toGo, List.length_cons]
          omega
        | false =>
          rw [sendFused_refused hok]
          simp only [FuserPc.toGo, List.length_cons]
          omega
  | retry exit exits =>
    rw [hpc] at h
    rw [← Option.some.inj h, hrunning]
    simp only [Bool.false_eq_true, if_false, FuserPc.toGo]
    omega
  | returned =>
    rw [hpc] at h
    cases h

omit [LinearOrder K] [FloorRing K] in
theorem outputStep_toGo {r : SixDofResult K} (hrunning : s.outputRunning = false)
    (h : outputStep s r = some t) :
    t.outputPc.toGo t.results.pending < s.outputPc.toGo s.results.pending := by
  unfold outputStep at h
  cases hpc : s.outputPc with
  | test =>
    rw [hpc] at h
    rw [← Option.some.inj h, hrunning]
    exact Nat.zero_lt_one
  | body =>
    rw [hpc] at h
    obtain ⟨results, hresults, rfl⟩ := Option.map_eq_some_iff.mp h
    unfold ResultPipeline.outputStep at hresults
    cases hpending : s.results.pending with
    | none =>
      rw [hpending] at hresults
      dsimp only at hresults
      split_ifs at hresults with hok
      · rw [← Option.some.inj hresults]
        exact Nat.lt_succ_self _
      · rw [← Option.some.inj hresults, hpending]
        exact Nat.lt_add_of_pos_right Nat.two_pos
    | some data =>
      rw [hpending] at hresults
      obtain ⟨d, -, rfl⟩ := Option.map_eq_some_iff.mp hresults
      exact Nat.lt_succ_self _
  | returned =>
    rw [hpc] at h
    cases h

omit [FloorRing K] in
theorem solverStep_toGo {r : SixDofResult K} {unset : K} (hrunning : s.workerRunning = false)
    (h : solverStep m put_time berth_id s r unset = some t) :
    t.solverPc.toGo < s.solverPc.toGo := by
  unfold solverStep at h
  cases hpc : s.solverPc with
  | test =>
    rw [hpc] at h
    rw [← Option.some.inj h, hrunning]
    exact Nat.zero_lt_one
  | body =>
    rw [hpc] at h
    dsimp only at h
    split_ifs at h
    · rw [← Option.some.inj h]
      exact Nat.lt_succ_self _
    · rw [← Option.some.inj h]
      exact Nat.lt_add_of_pos_right Nat.two_pos
  | push mqtt_pkg =>
    rw [hpc] at h
    obtain ⟨d, -, rfl⟩ := Option.map_eq_some_iff.mp h
    exact Nat.lt_succ_self _
  | returned =>
    rw [hpc] at h
    cases h

omit [LinearOrder K] [FloorRing K] in
theorem mqttStep_toGo {connected : Bool} (hrunning : s.workerRunning = false)
    (h : mqttStep s connected = some t) : t.mqttPc.toGo < s.mqttPc.toGo := by
  unfold mqttStep at h
  cases hpc : s.mqttPc with
  | test =>
    rw [hpc] at h
    rw [← Option.some.inj h, hrunning]
    exact Nat.zero_lt_one
  | body =>
    rw [hpc] at h
    dsimp only at h
    split_ifs at h
    · rw [← Option.some.inj h]
      exact Nat.lt_succ_self _
    · rw [← Option.some.inj h]
      exact Nat.lt_add_of_pos_right Nat.two_pos
  | publish pkg =>
    rw [hpc] at h
    rw [← Option.some.inj h]
    exact Nat.lt_succ_self _
  | returned =>
    rw [hpc] at h
    cases h

/-! ## `main` -/

/-- How far `main` has come. -/
def MainPc.stage : MainPc → ℕ
  | .running => 0
  | .joinOutput => 1
  | .stopCalculator => 2
  | .stopFuser => 3
  | .joinFuser => 4
  | .stopAcquirer => 5
  | .joinRadars => 6
  | .destroyOutputter => 7
  | .joinWorkers => 8
  | .joined => 9

/-- What `main` does. -/
inductive MainMoves (s : Program K W) : Program K W → Prop where
  | signal : s.mainPc = .running →
      MainMoves s { s with outputRunning := false, mainPc := .joinOutput }
  | joinOutput : s.mainPc = .joinOutput → s.outputPc = .returned →
      MainMoves s { s with mainPc := .stopCalculator }
  | stopStep {pool} : s.mainPc = .stopCalculator →
      WorkerPool.stopStep s.results.pool = some pool → MainMoves s (s.setPool pool)
  | stopped : s.mainPc = .stopCalculator → s.results.pool.stopper = .returned →
      MainMoves s { s with mainPc := .stopFuser }
  | stopFuser : s.mainPc = .stopFuser →
      MainMoves s { s with fuserRunning := false, mainPc := .joinFuser }
  | joinFuser : s.mainPc = .joinFuser → s.fuserPc = .returned →
      MainMoves s { s with mainPc := .stopAcquirer }
  | stopAcquirer : s.mainPc = .stopAcquirer →
      MainMoves s { s with acquirerRunning := false, mainPc := .joinRadars }
  | joinRadars : s.mainPc = .joinRadars → s.radarA.pc = .returned → s.radarB.pc = .returned →
      MainMoves s { s with mainPc := .destroyOutputter }
  | destroyOutputter : s.mainPc = .destroyOutputter →
      MainMoves s { s with workerRunning := false, mainPc := .joinWorkers }
  | joinWorkers : s.mainPc = .joinWorkers → s.solverPc = .returned → s.mqttPc = .returned →
      MainMoves s { s with mainPc := .joined }

omit [LinearOrder K] [FloorRing K] in
theorem mainMoves_of_step (h : mainStep s = some t) : MainMoves s t := by
  unfold mainStep at h
  split at h
  · rename_i hpc
    exact Option.some.inj h ▸ .signal hpc
  · rename_i hpc
    split_ifs at h with hreturned
    exact Option.some.inj h ▸ .joinOutput hpc hreturned
  · rename_i hpc
    split_ifs at h with hreturned
    · exact Option.some.inj h ▸ .stopped hpc hreturned
    · obtain ⟨pool, hpool, rfl⟩ := Option.map_eq_some_iff.mp h
      exact .stopStep hpc hpool
  · rename_i hpc
    exact Option.some.inj h ▸ .stopFuser hpc
  · rename_i hpc
    split at h
    · rename_i hreturned
      exact Option.some.inj h ▸ .joinFuser hpc hreturned
    · cases h
  · rename_i hpc
    exact Option.some.inj h ▸ .stopAcquirer hpc
  · rename_i hpc
    split at h
    · rename_i hreturnedA hreturnedB
      exact Option.some.inj h ▸ .joinRadars hpc hreturnedA hreturnedB
    · cases h
  · rename_i hpc
    exact Option.some.inj h ▸ .destroyOutputter hpc
  · rename_i hpc
    split at h
    · rename_i hreturnedS hreturnedM
      exact Option.some.inj h ▸ .joinWorkers hpc hreturnedS hreturnedM
    · cases h
  · cases h

/-- The flags, as far as `main` has come. -/
structure Flags (s : Program K W) : Prop where
  output : s.outputRunning = decide (s.mainPc.stage < 1)
  fuser : s.fuserRunning = decide (s.mainPc.stage < 4)
  acquirer : s.acquirerRunning = decide (s.mainPc.stage < 6)
  worker : s.workerRunning = decide (s.mainPc.stage < 8)

omit [LinearOrder K] [FloorRing K] in
theorem Flags.main (h : Flags s) (hmove : MainMoves s t) : Flags t := by
  obtain ⟨houtput, hfuser, hacquirer, hworker⟩ := h
  cases hmove with
  | signal hpc =>
    rw [hpc] at hfuser hacquirer hworker
    exact ⟨rfl, hfuser, hacquirer, hworker⟩
  | stopFuser hpc =>
    rw [hpc] at houtput hacquirer hworker
    exact ⟨houtput, rfl, hacquirer, hworker⟩
  | stopAcquirer hpc =>
    rw [hpc] at houtput hfuser hworker
    exact ⟨houtput, hfuser, rfl, hworker⟩
  | destroyOutputter hpc =>
    rw [hpc] at houtput hfuser hacquirer
    exact ⟨houtput, hfuser, hacquirer, rfl⟩
  | stopStep hpc hpool => exact ⟨houtput, hfuser, hacquirer, hworker⟩
  | joinOutput hpc _ | stopped hpc _ | joinFuser hpc _ | joinRadars hpc _ _ | joinWorkers hpc _ _ =>
    rw [hpc] at houtput hfuser hacquirer hworker
    exact ⟨houtput, hfuser, hacquirer, hworker⟩

/-- The other threads leave the flags and `main` alone. -/
theorem Flags.other (h : Flags s) {a : Action K W} (hmove : Moves pcl m put_time berth_id s a t)
    (ha : a ≠ .main) : Flags t := by
  cases hmove with
  | flags | stopCalculator => exact absurd rfl ha
  | @send unset exit exits fused hpc houtput =>
    cases hok : (s.rq_fuse_cloud.enqueue fused).2 with
    | true =>
      rw [sendFused_accepted hok]
      exact ⟨h.output, h.fuser, h.acquirer, h.worker⟩
    | false =>
      rw [sendFused_refused hok]
      exact ⟨h.output, h.fuser, h.acquirer, h.worker⟩
  | _ => exact ⟨h.output, h.fuser, h.acquirer, h.worker⟩

theorem flags_of_reachable (h : (program pcl m put_time berth_id W).Reachable s) : Flags s := by
  refine LTS.Reachable.invariant ?_ (fun s a t hs hstep => ?_) h
  · rintro s
      ⟨radarA, radarB, fuser, rq_fuse_cloud, results, mqtt_task_queue_, -, -, -, -, -, -, -, rfl⟩
    exact ⟨rfl, rfl, rfl, rfl⟩
  · have hmove : Moves pcl m put_time berth_id s a t := moves_of_step hstep
    cases a with
    | main => exact hs.main (mainMoves_of_step hstep)
    | _ => exact hs.other hmove fun ha => by cases ha

/-! ## What is left falls -/

theorem main_falls (hs : (program pcl m put_time berth_id W).Reachable s) (h : MainMoves s t) :
    t.left < s.left := by
  have hpool := pool_reachable hs
  have hfuser := (fuserBounded_of_reachable hs).toGo_le
  cases h with
  | signal hpc =>
    have houtput := s.outputPc.toGo_le s.results.pending
    simp only [Program.left, hpc, MainPc.joins, Option.elim, Program.toGo, MainPc.toGo]
    omega
  | joinOutput hpc hreturned =>
    have hleft := WorkerPool.left_le hpool
    simp only [Program.left, hpc, MainPc.joins, Option.elim, Program.toGo, MainPc.toGo]
    omega
  | @stopStep pool hpc hstep =>
    have hfalls := WorkerPool.left_falls (a := .stop) hpool hstep rfl
    simp only [Program.left, hpc, MainPc.joins, Option.elim, Program.toGo, Program.setPool]
    omega
  | stopAcquirer hpc =>
    have hradarA := s.radarA.pc.toGo_le
    have hradarB := s.radarB.pc.toGo_le
    simp only [Program.left, hpc, MainPc.joins, Option.elim, Program.toGo, MainPc.toGo]
    omega
  | destroyOutputter hpc =>
    have hsolver := s.solverPc.toGo_le
    have hmqtt := s.mqttPc.toGo_le
    simp only [Program.left, hpc, MainPc.joins, Option.elim, Program.toGo, MainPc.toGo]
    omega
  | stopped hpc _ | stopFuser hpc | joinFuser hpc _ | joinRadars hpc _ _ | joinWorkers hpc _ _ =>
    simp only [Program.left, hpc, MainPc.joins, Option.elim, Program.toGo, MainPc.toGo]
    omega

/-- A thread that finds its flag cleared makes what is left of its part less. -/
theorem part_falls (hs : (program pcl m put_time berth_id W).Reachable s) {a : Action K W}
    (hstep : step pcl m put_time berth_id s a = some t) {part : Part} (hpart : a.part = some part)
    (hrunning : s.running part = false) : t.toGo part < s.toGo part := by
  have hpool := pool_reachable hs
  cases a with
  | radarA frame | radarB frame =>
    obtain rfl := Option.some.inj hpart
    obtain ⟨radar, hradar, rfl⟩ := Option.map_eq_some_iff.mp hstep
    rw [show s.acquirerRunning = false from hrunning] at hradar
    have hfalls := radarStep_toGo hradar
    simp only [Program.toGo]
    omega
  | fuser unset =>
    obtain rfl := Option.some.inj hpart
    exact fuserStep_toGo hrunning hstep
  | dispatcher unset =>
    obtain rfl := Option.some.inj hpart
    have hcleared : s.results.pool.stopper.cleared = true := Bool.not_eq_false' .. ▸ hrunning
    have hmove : Moves pcl m put_time berth_id s (.dispatcher unset) t := moves_of_step hstep
    cases hmove with
    | fetch hpc hdispatch => exact WorkerPool.left_falls (a := .dispatcher _) hpool hdispatch hcleared
    | dispatch hpc hdispatch =>
      exact WorkerPool.left_falls (a := .dispatcher none) hpool hdispatch hcleared
  | worker i now =>
    obtain rfl := Option.some.inj hpart
    have hcleared : s.results.pool.stopper.cleared = true := Bool.not_eq_false' .. ▸ hrunning
    obtain ⟨pool, hworker, rfl⟩ := Option.map_eq_some_iff.mp hstep
    exact WorkerPool.left_falls (a := .worker i now) hpool hworker hcleared
  | output r =>
    obtain rfl := Option.some.inj hpart
    exact outputStep_toGo hrunning hstep
  | solver r unset =>
    obtain rfl := Option.some.inj hpart
    have hfalls := solverStep_toGo hrunning hstep
    have hframe : t.mqttPc = s.mqttPc := by
      have hmove : Moves pcl m put_time berth_id s (.solver r unset) t := moves_of_step hstep
      cases hmove <;> rfl
    simp only [Program.toGo, hframe]
    omega
  | mqtt connected =>
    obtain rfl := Option.some.inj hpart
    have hfalls := mqttStep_toGo hrunning hstep
    have hframe : t.solverPc = s.solverPc := by
      have hmove : Moves pcl m put_time berth_id s (.mqtt connected) t := moves_of_step hstep
      cases hmove <;> rfl
    simp only [Program.toGo, hframe]
    omega
  | main => cases hpart

/-- The other threads leave it alone. -/
theorem part_frame {a : Action K W} (hmove : Moves pcl m put_time berth_id s a t)
    (ha : a ≠ .main) {part : Part} (hpart : a.part ≠ some part) : t.toGo part = s.toGo part := by
  cases part with
  | output =>
    cases hmove with
    | output | outputTest => exact absurd rfl hpart
    | solve =>
      simp only [Program.toGo, ResultPipeline.solveStep]
      split_ifs <;> rfl
    | _ => rfl
  | pool =>
    cases hmove with
    | fetch | dispatch | worker => exact absurd rfl hpart
    | stopCalculator => exact absurd rfl ha
    | solve =>
      simp only [Program.toGo, ResultPipeline.solveStep]
      split_ifs <;> rfl
    | @output r results outputPc hpc hresults =>
      have houtput : ResultPipeline.Moves pcl m s.results (.outputLoop 1 r) results :=
        ResultPipeline.moves_output hresults
      cases houtput <;> rfl
    | _ => rfl
  | fuser =>
    cases hmove with
    | fuserTest | takeA | takeB | passEnd | silent | send | retry => exact absurd rfl hpart
    | _ => rfl
  | radars =>
    cases hmove with
    | radarA | radarB => exact absurd rfl hpart
    | takeA | takeB => simp only [Program.toGo, fuserPass, take_pc]
    | _ => rfl
  | workers =>
    cases hmove with
    | solve | push | solverTest | mqttTake | mqttTest | publish => exact absurd rfl hpart
    | _ => rfl

theorem mainPc_frame {a : Action K W} (hmove : Moves pcl m put_time berth_id s a t)
    (ha : a ≠ .main) : t.mainPc = s.mainPc := by
  cases hmove with
  | flags | stopCalculator => exact absurd rfl ha
  | @send unset exit exits fused hpc houtput =>
    cases hok : (s.rq_fuse_cloud.enqueue fused).2 with
    | true => rw [sendFused_accepted hok]
    | false => rw [sendFused_refused hok]
  | _ => rfl

omit [LinearOrder K] [FloorRing K] in
/-- `main` joins the threads after it has cleared their flag. -/
theorem Flags.told (h : Flags s) {part : Part} (hjoins : s.mainPc.joins = some part)
    (hpart : part ≠ .pool) : s.running part = false := by
  obtain ⟨houtput, hfuser, hacquirer, hworker⟩ := h
  cases hpc : s.mainPc with
  | stopCalculator =>
    rw [hpc] at hjoins
    exact absurd (Option.some.inj hjoins).symm hpart
  | joinOutput | joinFuser | joinRadars | joinWorkers =>
    rw [hpc] at hjoins houtput hfuser hacquirer hworker
    obtain rfl := Option.some.inj hjoins
    assumption
  | _ =>
    rw [hpc] at hjoins
    cases hjoins

/-- Before `stop` has cleared `is_running_`, nothing is counted. -/
theorem pool_not_rises {a : Action K W}
    (hstep : step pcl m put_time berth_id s a = some t) (hpart : a.part = some .pool)
    (hrunning : s.running .pool = true) : t.toGo .pool ≤ s.toGo .pool := by
  have hcleared : s.results.pool.stopper.cleared = false := Bool.not_eq_true' .. ▸ hrunning
  cases a with
  | dispatcher unset =>
    have hmove : Moves pcl m put_time berth_id s (.dispatcher unset) t := moves_of_step hstep
    obtain ⟨answer, hpool⟩ : ∃ answer,
        WorkerPool.step pcl m s.results.pool (.dispatcher answer) = some t.results.pool := by
      cases hmove with
      | fetch hpc hdispatch => exact ⟨_, hdispatch⟩
      | dispatch hpc hdispatch => exact ⟨none, hdispatch⟩
    exact WorkerPool.left_not_rises hpool hcleared
  | worker i now =>
    obtain ⟨pool, hworker, rfl⟩ := Option.map_eq_some_iff.mp hstep
    exact WorkerPool.left_not_rises (a := .worker i now) hworker hcleared
  | _ => cases hpart

theorem left_falls (hs : (program pcl m put_time berth_id W).Reachable s) {a : Action K W}
    (hstep : step pcl m put_time berth_id s a = some t) (ha : awaited s a = true) :
    t.left < s.left := by
  unfold awaited at ha
  cases hpart : a.part with
  | none =>
    cases a with
    | main => exact main_falls hs (mainMoves_of_step hstep)
    | _ => cases hpart
  | some part =>
    rw [hpart] at ha
    dsimp only at ha
    rw [Bool.and_eq_true, decide_eq_true_eq, Bool.not_eq_true'] at ha
    have hfalls := part_falls hs hstep hpart ha.2
    have hmain : a ≠ .main := by
      rintro rfl
      cases hpart
    have hpc := mainPc_frame (moves_of_step hstep) hmain
    simp only [Program.left, hpc, ha.1, Option.elim]
    omega

theorem left_not_rises (hs : (program pcl m put_time berth_id W).Reachable s) {a : Action K W}
    (hstep : step pcl m put_time berth_id s a = some t) (ha : awaited s a = false) :
    t.left ≤ s.left := by
  unfold awaited at ha
  cases hpart : a.part with
  | none =>
    cases a with
    | main => exact Nat.le_of_lt (main_falls hs (mainMoves_of_step hstep))
    | _ => cases hpart
  | some part =>
    have hmain : a ≠ .main := by
      rintro rfl
      cases hpart
    have hmove : Moves pcl m put_time berth_id s a t := moves_of_step hstep
    have hpc := mainPc_frame hmove hmain
    cases hjoins : s.mainPc.joins with
    | none => simp only [Program.left, hpc, hjoins, Option.elim, Nat.le_refl]
    | some joined =>
      have htoGo : t.toGo joined ≤ s.toGo joined := by
        by_cases hsame : part = joined
        · -- threads that are joined and still run are those of the pool
          rw [hpart, hjoins, hsame] at ha
          dsimp only at ha
          rw [decide_eq_true rfl, Bool.true_and, Bool.not_eq_false'] at ha
          have hpool : joined = .pool := by
            by_contra hne
            rw [(flags_of_reachable hs).told hjoins hne] at ha
            cases ha
          rw [hpool] at ha hsame ⊢
          exact pool_not_rises hstep (hpart.trans (congrArg some hsame)) ha
        · refine Nat.le_of_eq (part_frame hmove hmain ?_)
          rw [hpart]
          exact fun heq => hsame (Option.some.inj heq)
      simp only [Program.left, hpc, hjoins, Option.elim]
      omega

/-! ## Somebody can move -/

omit [Field K] [LinearOrder K] [FloorRing K] in
theorem radarStep_enabled (is_running_ : Bool) (frame : RawPointCloud K) (r : Radar K) :
    r.pc = .returned ∨ ∃ r', radarStep is_running_ frame r = some r' := by
  cases hpc : r.pc with
  | returned => exact .inl rfl
  | _ => exact .inr ⟨_, by unfold radarStep; rw [hpc]⟩

omit [LinearOrder K] [FloorRing K] in
theorem fuserStep_enabled (s : Program K W) (unset : RawPointCloud K) :
    s.fuserPc = .returned ∨ ∃ t, fuserStep s unset = some t := by
  cases hpc : s.fuserPc with
  | returned => exact .inl rfl
  | emit exits =>
    right
    unfold fuserStep
    rw [hpc]
    cases exits with
    | nil => exact ⟨_, rfl⟩
    | cons exit exits =>
      dsimp only
      cases exit.output s.fuser.T_B2A_ <;> exact ⟨_, rfl⟩
  | _ => exact .inr ⟨_, by unfold fuserStep; rw [hpc]⟩

omit [LinearOrder K] [FloorRing K] in
theorem outputStep_enabled (s : Program K W) (r : SixDofResult K) :
    s.outputPc = .returned ∨ ∃ t, outputStep s r = some t := by
  cases hpc : s.outputPc with
  | returned => exact .inl rfl
  | test => exact .inr ⟨_, by unfold outputStep; rw [hpc]⟩
  | body =>
    have hresults : ∃ results, ResultPipeline.outputStep s.results 1 r = some results := by
      unfold ResultPipeline.outputStep
      cases s.results.pending with
      | none =>
        dsimp only
        split_ifs <;> exact ⟨_, rfl⟩
      | some data =>
        have hpush : ResultPipeline.pushRealTimeData 1 s.results.solve_task_queue_ data = some _ :=
          enqueueWithDropOld_capacity 0 s.results.solve_task_queue_ data _ _
        exact ⟨_, by dsimp only; rw [hpush]; rfl⟩
    obtain ⟨results, hresults⟩ := hresults
    exact .inr ⟨_, by unfold outputStep; rw [hpc]; dsimp only; rw [hresults]; rfl⟩

omit [FloorRing K] in
theorem solverStep_enabled (m : Libm K) (put_time : UInt64 → String) (berth_id : String)
    (s : Program K W) (r : SixDofResult K) (unset : K) :
    s.solverPc = .returned ∨ ∃ t, solverStep m put_time berth_id s r unset = some t := by
  cases hpc : s.solverPc with
  | returned => exact .inl rfl
  | test => exact .inr ⟨_, by unfold solverStep; rw [hpc]⟩
  | body =>
    right
    unfold solverStep
    rw [hpc]
    dsimp only
    split_ifs <;> exact ⟨_, rfl⟩
  | push mqtt_pkg =>
    have hpush : enqueueWithDropOld 1 s.mqtt_task_queue_ mqtt_pkg MQTT_DATA_MAX_QUEUE
        "MQTT业务数据队列" false = some _ :=
      enqueueWithDropOld_capacity 0 s.mqtt_task_queue_ mqtt_pkg _ _
    exact .inr ⟨_, by unfold solverStep; rw [hpc]; dsimp only; rw [hpush]; rfl⟩

omit [LinearOrder K] [FloorRing K] in
theorem mqttStep_enabled (s : Program K W) (connected : Bool) :
    s.mqttPc = .returned ∨ ∃ t, mqttStep s connected = some t := by
  cases hpc : s.mqttPc with
  | returned => exact .inl rfl
  | body =>
    right
    unfold mqttStep
    rw [hpc]
    dsimp only
    split_ifs <;> exact ⟨_, rfl⟩
  | _ => exact .inr ⟨_, by unfold mqttStep; rw [hpc]⟩

omit [LinearOrder K] [FloorRing K] in
/-- The dispatcher can move whatever `rq_fuse_cloud` has to give. -/
theorem dispatchStep_enabled (s : Program K W) (unset : FusedPointCloud K)
    {answer : Option (FusedPointCloud K)} {pool : WorkerPool.Pool K ringCapacity W}
    (h : WorkerPool.dispatcherStep s.results.pool answer = some pool) :
    ∃ t, dispatchStep s unset = some t := by
  have hnot : s.results.pool.dispatcher.hasReturned = false := by
    cases hpc : s.results.pool.dispatcher with
    | returned =>
      unfold WorkerPool.dispatcherStep at h
      rw [hpc] at h
      cases h
    | _ => rfl
  unfold dispatchStep
  split
  · dsimp only
    obtain ⟨pool, hpool⟩ := WorkerPool.dispatcherStep_enabled hnot
      (if (s.rq_fuse_cloud.dequeue unset).2.2 then some (s.rq_fuse_cloud.dequeue unset).2.1
        else none)
    exact ⟨_, congrArg (Option.map _) hpool⟩
  · obtain ⟨pool, hpool⟩ := WorkerPool.dispatcherStep_enabled hnot none
    exact ⟨_, congrArg (Option.map _) hpool⟩

/-- As long as `main` has not joined all threads, it can move, or a thread it waits for. -/
theorem enabled (hs : (program pcl m put_time berth_id W).Reachable s)
    (hmain : s.mainPc ≠ .joined) :
    ∃ a t, awaited s a = true ∧ step pcl m put_time berth_id s a = some t := by
  have hflags := flags_of_reachable hs
  have hmoves : ∀ t, mainStep s = some t →
      ∃ a t, awaited s a = true ∧ step pcl m put_time berth_id s a = some t :=
    fun t ht => ⟨.main, t, decide_eq_true hmain, ht⟩
  have hwaits : ∀ (a : Action K W) (part : Part) (t : Program K W), a.part = some part →
      s.mainPc.joins = some part → part ≠ .pool → step pcl m put_time berth_id s a = some t →
      ∃ a t, awaited s a = true ∧ step pcl m put_time berth_id s a = some t := by
    intro a part t hpart hjoins hne ht
    refine ⟨a, t, ?_, ht⟩
    unfold awaited
    rw [hpart]
    dsimp only
    rw [hflags.told hjoins hne, decide_eq_true hjoins]
    rfl
  cases hpc : s.mainPc with
  | running | stopFuser | stopAcquirer | destroyOutputter =>
    exact hmoves _ (by unfold mainStep; rw [hpc])
  | joined => exact absurd hpc hmain
  | joinOutput =>
    rcases outputStep_enabled s default with hreturned | ⟨t, ht⟩
    · exact hmoves _ (by unfold mainStep; rw [hpc]; dsimp only; rw [if_pos hreturned])
    · exact hwaits (.output default) .output t rfl (by rw [hpc]; rfl) (by decide) ht
  | joinFuser =>
    rcases fuserStep_enabled s ⟨"", "", 0, []⟩ with hreturned | ⟨t, ht⟩
    · exact hmoves _ (by unfold mainStep; rw [hpc]; dsimp only; rw [hreturned])
    · exact hwaits (.fuser _) .fuser t rfl (by rw [hpc]; rfl) (by decide) ht
  | joinRadars =>
    rcases radarStep_enabled s.acquirerRunning ⟨"", "", 0, []⟩ s.radarA with hA | ⟨radarA, ht⟩
    · rcases radarStep_enabled s.acquirerRunning ⟨"", "", 0, []⟩ s.radarB with hB | ⟨radarB, ht⟩
      · exact hmoves _ (by unfold mainStep; rw [hpc]; dsimp only; rw [hA, hB])
      · exact hwaits (.radarB _) .radars _ rfl (by rw [hpc]; rfl) (by decide)
          (congrArg (Option.map _) ht)
    · exact hwaits (.radarA _) .radars _ rfl (by rw [hpc]; rfl) (by decide)
        (congrArg (Option.map _) ht)
  | joinWorkers =>
    rcases solverStep_enabled m put_time berth_id s default 0 with hS | ⟨t, ht⟩
    · rcases mqttStep_enabled s true with hM | ⟨t, ht⟩
      · exact hmoves _ (by unfold mainStep; rw [hpc]; dsimp only; rw [hS, hM])
      · exact hwaits (.mqtt true) .workers t rfl (by rw [hpc]; rfl) (by decide) ht
    · exact hwaits (.solver default 0) .workers t rfl (by rw [hpc]; rfl) (by decide) ht
  | stopCalculator =>
    have hstops : ∀ pool, WorkerPool.stopStep s.results.pool = some pool →
        ∃ t, mainStep s = some t := by
      intro pool hpool
      unfold mainStep
      rw [hpc]
      dsimp only
      split_ifs
      · exact ⟨_, rfl⟩
      · exact ⟨_, by rw [hpool]; rfl⟩
    have hpool : ∀ (a : Action K W) (t : Program K W), a.part = some .pool →
        s.results.pool.stopper.cleared = true → step pcl m put_time berth_id s a = some t →
        ∃ a t, awaited s a = true ∧ step pcl m put_time berth_id s a = some t := by
      intro a t hpart hcleared ht
      refine ⟨a, t, ?_, ht⟩
      unfold awaited
      rw [hpart, hpc]
      dsimp only [Program.running]
      rw [hcleared]
      rfl
    by_cases hreturned : s.results.pool.stopper = .returned
    · exact hmoves _ (by unfold mainStep; rw [hpc]; dsimp only; rw [if_pos hreturned])
    · obtain ⟨a, pool, ha, hmove⟩ := (WorkerPool.stopVariant pcl m ringCapacity W).enabled
        s.results.pool (pool_reachable hs) hreturned
      cases a with
      | stop =>
        obtain ⟨t, ht⟩ := hstops pool hmove
        exact hmoves t ht
      | dispatcher answer =>
        obtain ⟨t, ht⟩ := dispatchStep_enabled s ⟨"", "", 0, [], 0⟩ hmove
        exact hpool (.dispatcher _) t rfl ha ht
      | worker i now => exact hpool (.worker i now) _ rfl ha (congrArg (Option.map _) hmove)
      | consume r => cases ha

/-! ## The end -/

theorem shutdownVariant (pcl : Pcl K) (m : Libm K) (put_time : UInt64 → String) (berth_id : String)
    (W : ℕ) :
    (program pcl m put_time berth_id W).Variant (program pcl m put_time berth_id W).Reachable
      (fun s => s.mainPc = .joined) awaited Program.left where
  keeps _ _ _ hs hstep := hs.step trivial hstep
  falls _ _ _ hs hstep ha := left_falls hs hstep ha
  not_rises _ _ _ hs hstep ha := left_not_rises hs hstep ha
  enabled _ hs hmain := enabled hs hmain

/-- The most steps that can be left, with the signal. -/
def shutdownSteps (W : ℕ) : ℕ := WorkerPool.stopSteps W + fuserSteps + 25

theorem left_le (hs : (program pcl m put_time berth_id W).Reachable s) :
    s.left ≤ shutdownSteps W := by
  have hpool := WorkerPool.left_le (pool_reachable hs)
  have hfuser := (fuserBounded_of_reachable hs).toGo_le
  have houtput := s.outputPc.toGo_le s.results.pending
  have hradarA := s.radarA.pc.toGo_le
  have hradarB := s.radarB.pc.toGo_le
  have hsolver := s.solverPc.toGo_le
  have hmqtt := s.mqttPc.toGo_le
  unfold Program.left shutdownSteps
  cases s.mainPc <;> simp only [MainPc.joins, Option.elim, Program.toGo, MainPc.toGo] <;> omega

/-- **The threads end.** From any reachable state a signal can bring `main` to its last join of a
thread, and in whatever order all threads move, `main` has joined all of them after a bounded number
of its steps and of steps of the threads that it waits for. -/
theorem main_joins (h : (program pcl m put_time berth_id W).Reachable s) :
    (∃ ls t, (program pcl m put_time berth_id W).exec s ls = some t ∧ t.mainPc = .joined ∧
      ls.length ≤ shutdownSteps W) ∧
    ∀ ls t, (program pcl m put_time berth_id W).exec s ls = some t →
      (program pcl m put_time berth_id W).awaitedSteps awaited s ls ≤ shutdownSteps W ∧
      ((program pcl m put_time berth_id W).awaitedSteps awaited s ls = shutdownSteps W →
        t.mainPc = .joined) := by
  have hvariant := shutdownVariant pcl m put_time berth_id W
  have hleft := left_le h
  refine ⟨?_, fun ls t hrun => ⟨?_, fun hmany => ?_⟩⟩
  · obtain ⟨ls, t, hrun, ht, hlength⟩ := hvariant.exists_schedule h
    exact ⟨ls, t, hrun, ht, hlength.trans hleft⟩
  · exact ((Nat.le_add_right _ _).trans (hvariant.awaitedSteps_le h hrun)).trans hleft
  · exact hvariant.done_of_awaitedSteps h hrun (hmany ▸ hleft)

/-- The signal comes while packages are being published. -/
theorem main_joins_threePackages :
    ∃ ls t, stillProgram.exec threePackages ls = some t ∧ t.mainPc = .joined ∧
      ls.length ≤ 481 := by
  have hreach : stillProgram.Reachable threePackages :=
    LTS.reachable_of_exec newProgram_init (Option.some_get _).symm
  exact (main_joins hreach).1

end MainProgram
end ShipMotion
