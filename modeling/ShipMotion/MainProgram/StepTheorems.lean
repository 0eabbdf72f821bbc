import ShipMotion.MainProgram
import ShipMotion.ResultPipelineTheorems

/-!
# The steps of the program

What a step of any thread can be, in one place. The calculator and the outputter inside of the
program take part in a run of their own.
-/

namespace ShipMotion
namespace MainProgram

open Utils LockFreeRingQueue PointCloudFuser SixDofCalculator DataOutputter

variable {K : Type} [Field K] {W : ℕ}

/-- The package `solveWorkerLoop` has built and not yet pushed. -/
def SolverPc.hand : SolverPc K → List (MqttShipData K)
  | .push mqtt_pkg => [mqtt_pkg]
  | _ => []

/-- The package `mqttWorkerLoop` has taken. -/
def MqttPc.hand : MqttPc K → List (MqttShipData K)
  | .publish pkg => [pkg]
  | _ => []

variable [LinearOrder K] [FloorRing K]

/-- The transitions of the threads. -/
inductive Moves (pcl : Pcl K) (m : Libm K) (put_time : UInt64 → String) (berth_id : String)
    (s : Program K W) : Action K W → Program K W → Prop where
  | radarA {frame radarA} : radarStep s.acquirerRunning frame s.radarA = some radarA →
      Moves pcl m put_time berth_id s (.radarA frame) { s with radarA }
  | radarB {frame radarB} : radarStep s.acquirerRunning frame s.radarB = some radarB →
      Moves pcl m put_time berth_id s (.radarB frame) { s with radarB }
  | fuserTest {unset} : s.fuserPc = .test →
      Moves pcl m put_time berth_id s (.fuser unset)
        { s with fuserPc := if s.fuserRunning then .takeA else .returned }
  | takeA {unset} : s.fuserPc = .takeA →
      Moves pcl m put_time berth_id s (.fuser unset)
        { s with radarA := (s.radarA.take unset).1, fuserPc := .takeB (s.radarA.take unset).2 }
  | takeB {unset dataA} : s.fuserPc = .takeB dataA →
      Moves pcl m put_time berth_id s (.fuser unset)
        (fuserPass { s with radarB := (s.radarB.take unset).1 } dataA (s.radarB.take unset).2)
  | passEnd {unset} : s.fuserPc = .emit [] →
      Moves pcl m put_time berth_id s (.fuser unset) { s with fuserPc := .test }
  | silent {unset exit exits} : s.fuserPc = .emit (exit :: exits) →
      exit.output s.fuser.T_B2A_ = none →
      Moves pcl m put_time berth_id s (.fuser unset) { s with fuserPc := .emit exits }
  | send {unset exit exits fused} : s.fuserPc = .emit (exit :: exits) →
      exit.output s.fuser.T_B2A_ = some fused →
      Moves pcl m put_time berth_id s (.fuser unset) (sendFused s exit exits fused)
  | retry {unset exit exits} : s.fuserPc = .retry exit exits →
      Moves pcl m put_time berth_id s (.fuser unset)
        { s with fuserPc := .emit (if s.fuserRunning then exit :: exits else exits) }
  | fetch {unset pool} : s.results.pool.dispatcher = .dequeue →
      WorkerPool.dispatcherStep s.results.pool
        (if (s.rq_fuse_cloud.dequeue unset).2.2 then some (s.rq_fuse_cloud.dequeue unset).2.1
          else none) = some pool →
      Moves pcl m put_time berth_id s (.dispatcher unset)
        ({ s with rq_fuse_cloud := (s.rq_fuse_cloud.dequeue unset).1 }.setPool pool)
  | dispatch {unset pool} : s.results.pool.dispatcher ≠ .dequeue →
      WorkerPool.dispatcherStep s.results.pool none = some pool →
      Moves pcl m put_time berth_id s (.dispatcher unset) (s.setPool pool)
  | worker {i now pool} : WorkerPool.workerStep pcl m s.results.pool i now = some pool →
      Moves pcl m put_time berth_id s (.worker i now) (s.setPool pool)
  | output {r results outputPc} : s.outputPc = .body →
      ResultPipeline.outputStep s.results 1 r = some results →
      Moves pcl m put_time berth_id s (.output r) { s with results, outputPc }
  | solve {r unset} : s.solverPc = .body → (s.results.solve_task_queue_.dequeue r).2.2 = true →
      Moves pcl m put_time berth_id s (.solver r unset)
        { s with
          results := ResultPipeline.solveStep m s.results r unset
          solverPc := .push (solveResult m put_time berth_id s.results.pos_history_
            (s.results.solve_task_queue_.dequeue r).2.1 unset).2
          packages := s.packages ++ [(solveResult m put_time berth_id s.results.pos_history_
            (s.results.solve_task_queue_.dequeue r).2.1 unset).2] }
  | push {r unset mqtt_pkg} : s.solverPc = .push mqtt_pkg →
      Moves pcl m put_time berth_id s (.solver r unset)
        { s with
          mqtt_task_queue_ := (s.mqtt_task_queue_.enqueue mqtt_pkg).1
          solverPc := .test }
  | mqttTake {connected} : s.mqttPc = .body → (s.mqtt_task_queue_.dequeue default).2.2 = true →
      Moves pcl m put_time berth_id s (.mqtt connected)
        { s with
          mqtt_task_queue_ := (s.mqtt_task_queue_.dequeue default).1
          mqttPc := .publish (s.mqtt_task_queue_.dequeue default).2.1 }
  | publish {connected pkg} : s.mqttPc = .publish pkg →
      Moves pcl m put_time berth_id s (.mqtt connected)
        { s with
          mqttPc := .test
          published := if connected then s.published ++ [pkg] else s.published }
  | solverTest {r unset solverPc} : s.solverPc.hand = [] → solverPc.hand = [] →
      Moves pcl m put_time berth_id s (.solver r unset) { s with solverPc }
  | mqttTest {connected mqttPc} : s.mqttPc.hand = [] → mqttPc.hand = [] →
      Moves pcl m put_time berth_id s (.mqtt connected) { s with mqttPc }
  | stopCalculator {pool} : WorkerPool.stopStep s.results.pool = some pool →
      Moves pcl m put_time berth_id s .main (s.setPool pool)
  | outputTest {r outputPc} :
      Moves pcl m put_time berth_id s (.output r) { s with outputPc }
  | flags {acquirerRunning fuserRunning outputRunning workerRunning mainPc} :
      Moves pcl m put_time berth_id s .main
        { s with acquirerRunning, fuserRunning, outputRunning, workerRunning, mainPc }

variable {pcl : Pcl K} {m : Libm K} {put_time : UInt64 → String} {berth_id : String}
variable {s t : Program K W}

theorem moves_fuser {unset : RawPointCloud K} (h : fuserStep s unset = some t) :
    Moves pcl m put_time berth_id s (.fuser unset) t := by
  unfold fuserStep at h
  split at h
  · rename_i hpc
    exact Option.some.inj h ▸ .fuserTest hpc
  · rename_i hpc
    exact Option.some.inj h ▸ .takeA hpc
  · rename_i hpc
    exact Option.some.inj h ▸ .takeB hpc
  · rename_i hpc
    exact Option.some.inj h ▸ .passEnd hpc
  · rename_i hpc
    split at h
    · rename_i hsilent
      exact Option.some.inj h ▸ .silent hpc hsilent
    · rename_i houtput
      exact Option.some.inj h ▸ .send hpc houtput
  · rename_i hpc
    exact Option.some.inj h ▸ .retry hpc
  · cases h

theorem moves_dispatch {unset : FusedPointCloud K} (h : dispatchStep s unset = some t) :
    Moves pcl m put_time berth_id s (.dispatcher unset) t := by
  unfold dispatchStep at h
  split at h
  · rename_i hpc
    obtain ⟨pool, hpool, rfl⟩ := Option.map_eq_some_iff.mp h
    exact .fetch hpc hpool
  · rename_i hpc
    obtain ⟨pool, hpool, rfl⟩ := Option.map_eq_some_iff.mp h
    exact .dispatch hpc hpool

theorem moves_output {r : SixDofResult K} (h : outputStep s r = some t) :
    Moves pcl m put_time berth_id s (.output r) t := by
  unfold outputStep at h
  split at h
  · exact Option.some.inj h ▸ .outputTest
  · rename_i hpc
    obtain ⟨results, hresults, rfl⟩ := Option.map_eq_some_iff.mp h
    exact .output hpc hresults
  · cases h

theorem moves_solver {r : SixDofResult K} {unset : K}
    (h : solverStep m put_time berth_id s r unset = some t) :
    Moves pcl m put_time berth_id s (.solver r unset) t := by
  unfold solverStep at h
  split at h
  · rename_i hpc
    refine Option.some.inj h ▸ .solverTest (by rw [hpc]; rfl) ?_
    split_ifs <;> rfl
  · rename_i hpc
    dsimp only at h
    split_ifs at h with hok
    · exact Option.some.inj h ▸ .solve hpc hok
    · exact Option.some.inj h ▸ .solverTest (by rw [hpc]; rfl) rfl
  · rename_i hpc
    obtain ⟨d, hd, rfl⟩ := Option.map_eq_some_iff.mp h
    -- on a ring of capacity `MQTT_DATA_MAX_QUEUE` the call is a plain `enqueue`
    have hplain : d = plainEnqueue s.mqtt_task_queue_ _ := eq_plainEnqueue hd
    rw [hplain]
    exact .push hpc
  · cases h

theorem moves_mqtt {connected : Bool} (h : mqttStep s connected = some t) :
    Moves pcl m put_time berth_id s (.mqtt connected) t := by
  unfold mqttStep at h
  split at h
  · rename_i hpc
    refine Option.some.inj h ▸ .mqttTest (by rw [hpc]; rfl) ?_
    split_ifs <;> rfl
  · rename_i hpc
    dsimp only at h
    split_ifs at h with hok
    · exact Option.some.inj h ▸ .mqttTake hpc hok
    · exact Option.some.inj h ▸ .mqttTest (by rw [hpc]; rfl) rfl
  · rename_i hpc
    exact Option.some.inj h ▸ .publish hpc
  · cases h

theorem moves_main (h : mainStep s = some t) : Moves pcl m put_time berth_id s .main t := by
  unfold mainStep at h
  split at h
  · exact Option.some.inj h ▸ .flags
  · split_ifs at h
    exact Option.some.inj h ▸ .flags
  · split_ifs at h
    · exact Option.some.inj h ▸ .flags
    · obtain ⟨pool, hpool, rfl⟩ := Option.map_eq_some_iff.mp h
      exact .stopCalculator hpool
  · exact Option.some.inj h ▸ .flags
  · split at h
    · exact Option.some.inj h ▸ .flags
    · cases h
  · exact Option.some.inj h ▸ .flags
  · split at h
    · exact Option.some.inj h ▸ .flags
    · cases h
  · exact Option.some.inj h ▸ .flags
  · split at h
    · exact Option.some.inj h ▸ .flags
    · cases h
  · cases h

theorem moves_of_step {a : Action K W} (h : step pcl m put_time berth_id s a = some t) :
    Moves pcl m put_time berth_id s a t := by
  cases a with
  | radarA frame =>
    obtain ⟨radarA, hstep, rfl⟩ := Option.map_eq_some_iff.mp h
    exact .radarA hstep
  | radarB frame =>
    obtain ⟨radarB, hstep, rfl⟩ := Option.map_eq_some_iff.mp h
    exact .radarB hstep
  | fuser unset => exact moves_fuser h
  | dispatcher unset => exact moves_dispatch h
  | worker i now =>
    obtain ⟨pool, hpool, rfl⟩ := Option.map_eq_some_iff.mp h
    exact .worker hpool
  | output r => exact moves_output h
  | solver r unset => exact moves_solver h
  | mqtt connected => exact moves_mqtt h
  | main => exact moves_main h

/-! ## The calculator and the outputter inside -/

/-- A step leaves the results alone, or is a step of theirs. -/
theorem Moves.results {a : Action K W} (h : Moves pcl m put_time berth_id s a t) :
    t.results = s.results ∨ ∃ b, ResultPipeline.step pcl m s.results b = some t.results := by
  cases h with
  | fetch hpc hpool => exact .inr ⟨.pool (.dispatcher _), congrArg (Option.map _) hpool⟩
  | dispatch hpc hpool => exact .inr ⟨.pool (.dispatcher none), congrArg (Option.map _) hpool⟩
  | worker hpool => exact .inr ⟨.pool (.worker _ _), congrArg (Option.map _) hpool⟩
  | stopCalculator hpool => exact .inr ⟨.pool .stop, congrArg (Option.map _) hpool⟩
  | output hpc hresults => exact .inr ⟨.outputLoop 1 _, hresults⟩
  | solve hpc hok => exact .inr ⟨.solveWorkerLoop _ _, rfl⟩
  | _ => exact .inl rfl

theorem results_reachable {ok : Program K W → Action K W → Prop}
    (h : (program pcl m put_time berth_id W).ReachableWith ok s) :
    (ResultPipeline.system pcl m ringCapacity W).Reachable s.results := by
  refine LTS.ReachableWith.simulate ?_ ?_ h
  · rintro s ⟨radarA, radarB, fuser, rq_fuse_cloud, results, mqtt_task_queue_, -, -, -, -, -, hinit, -,
      rfl⟩
    exact hinit
  · intro s a t _ hstep
    rcases (moves_of_step hstep).results with heq | ⟨b, hb⟩
    · exact .inl heq
    · exact .inr ⟨b, trivial, hb⟩

theorem pool_reachable {ok : Program K W → Action K W → Prop}
    (h : (program pcl m put_time berth_id W).ReachableWith ok s) :
    (WorkerPool.system pcl m ringCapacity W).Reachable s.results.pool := by
  refine LTS.ReachableWith.simulate (f := fun r => r.pool) ?_ ?_ (results_reachable h)
  · rintro results ⟨pool, solve_task_queue_, hpool, -, rfl⟩
    exact hpool
  · intro r a r' _ hstep
    cases ResultPipeline.moves_of_step hstep with
    | pool hpool hconsume => exact .inr ⟨_, trivial, hpool⟩
    | take hpending hdequeued => exact .inr ⟨.consume _, trivial, rfl⟩
    | push hpending => exact .inl rfl
    | solve hdequeued => exact .inl rfl
    | idle ha => exact .inl rfl

end MainProgram
end ShipMotion
