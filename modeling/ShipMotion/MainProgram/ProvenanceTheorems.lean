import Mathlib.Data.List.Forall2
import ShipMotion.MainProgram.StepTheorems
import ShipMotion.PointCloudFuser.RunTheorems

/-!
# Where the published packages come from

Each queue of the program has one producer and one consumer, or its results are numbered, so
whatever the interleaving: every package that is published belongs to a result of its own, every
result to a frame of its own that the fuser sent, and the frames of an exit of the fuser are frames
that the radars sent, in their order, and in no other exit.
-/

namespace ShipMotion
namespace MainProgram

open Utils LockFreeRingQueue PointCloudFuser SixDofCalculator DataOutputter

variable {K : Type}

/-! ## From the radars to the fuser -/

section Radars

/-- What a radar has put into its queue was taken or is still there. -/
def Radar.Accounted (r : Radar K) : Prop := r.arrived = r.taken ++ r.queue.contents

theorem Radar.Accounted.step {r r' : Radar K} (h : r.Accounted) {is_running_ : Bool}
    {frame : RawPointCloud K} (hstep : radarStep is_running_ frame r = some r') :
    r'.Accounted ∧ r'.taken = r.taken := by
  unfold radarStep at hstep
  split at hstep
  · exact Option.some.inj hstep ▸ ⟨h, rfl⟩
  · rename_i sending hpc
    obtain rfl := Option.some.inj hstep
    refine ⟨?_, rfl⟩
    show (if (r.queue.enqueue sending).2 then r.arrived ++ [sending] else r.arrived)
      = r.taken ++ (r.queue.enqueue sending).1.contents
    rw [contents_enqueue, ← List.append_assoc, ← h]
    cases (r.queue.enqueue sending).2 with
    | true => rfl
    | false => exact (List.append_nil _).symm
  · exact Option.some.inj hstep ▸ ⟨h, rfl⟩
  · cases hstep

theorem Radar.Accounted.take {r : Radar K} (h : r.Accounted) (unset : RawPointCloud K) :
    (r.take unset).1.Accounted ∧
      (r.take unset).1.taken = r.taken ++ (r.take unset).2.toList := by
  have hcontents := contents_dequeue r.queue unset
  unfold Radar.take Radar.Accounted
  dsimp only
  rw [h, hcontents]
  cases (r.queue.dequeue unset).2.2 with
  | true => exact ⟨(List.append_assoc _ _ _).symm, rfl⟩
  | false => exact ⟨rfl, (List.append_nil _).symm⟩

end Radars

/-- The frame of A that `fuseLoop` has in hand between its two calls. -/
def FuserPc.inHand : FuserPc K → List (RawPointCloud K)
  | .takeB dataA => dataA.toList
  | _ => []

/-- The exits that are still to be sent or reported. -/
def FuserPc.pending : FuserPc K → List (Exit K)
  | .emit exits => exits
  | .retry exit exits => exit :: exits
  | _ => []

variable [Field K] {W : ℕ}

/-- The frames of the radars leave through exits or are on their way to them; what was sent comes
from an exit; the calculator has it or `rq_fuse_cloud`. -/
structure Front (s : Program K W) : Prop where
  accountA : s.radarA.Accounted
  accountB : s.radarB.Accounted
  framesA : s.exits.filterMap Exit.frameA ++ s.fuser.cacheA_ ++ s.fuserPc.inHand = s.radarA.taken
  framesB : s.exits.filterMap Exit.frameB ++ s.fuser.cacheB_ = s.radarB.taken
  emitted : (s.sent.map Prod.fst ++ s.fuserPc.pending).Sublist s.exits
  outputs : ∀ p ∈ s.sent, p.1.output s.fuser.T_B2A_ = some p.2
  queued : s.sent.map Prod.snd = s.results.pool.dequeued ++ s.rq_fuse_cloud.contents

section Front

variable {s : Program K W}

theorem Front.takeA (h : Front s) (hpc : s.fuserPc = .takeA) (unset : RawPointCloud K) :
    Front { s with
      radarA := (s.radarA.take unset).1, fuserPc := .takeB (s.radarA.take unset).2 } := by
  obtain ⟨haccount, htaken⟩ := h.accountA.take unset
  have hframes := h.framesA
  have hemitted := h.emitted
  rw [hpc] at hframes hemitted
  rw [show (FuserPc.takeA : FuserPc K).inHand = [] from rfl, List.append_nil] at hframes
  refine { h with accountA := haccount, framesA := ?_, emitted := hemitted }
  rw [htaken, ← hframes]
  rfl

theorem Front.takeB (h : Front s) {dataA : Option (RawPointCloud K)}
    (hpc : s.fuserPc = .takeB dataA) (unset : RawPointCloud K) :
    Front (fuserPass { s with radarB := (s.radarB.take unset).1 } dataA
      (s.radarB.take unset).2) := by
  obtain ⟨haccount, htaken⟩ := h.accountB.take unset
  have hframesA := h.framesA
  have hemitted := h.emitted
  rw [hpc] at hframesA hemitted
  refine
    { accountA := h.accountA
      accountB := haccount
      framesA := ?_
      framesB := ?_
      emitted := ?_
      outputs := h.outputs
      queued := h.queued }
  · show (s.exits ++ (moveFrames s.fuser ⟨dataA, (s.radarB.take unset).2, fun _ => []⟩).1).filterMap
        Exit.frameA ++ (moveFrames s.fuser ⟨dataA, (s.radarB.take unset).2, fun _ => []⟩).2.1 ++ []
      = s.radarA.taken
    rw [List.filterMap_append, List.append_nil, List.append_assoc, moveFrames_framesA,
      ← hframesA, List.append_assoc]
    rfl
  · show (s.exits ++ (moveFrames s.fuser ⟨dataA, (s.radarB.take unset).2, fun _ => []⟩).1).filterMap
        Exit.frameB ++ (moveFrames s.fuser ⟨dataA, (s.radarB.take unset).2, fun _ => []⟩).2.2
      = (s.radarB.take unset).1.taken
    rw [List.filterMap_append, List.append_assoc, moveFrames_framesB, htaken, ← h.framesB,
      List.append_assoc]
  · rw [show (FuserPc.takeB dataA).pending = [] from rfl, List.append_nil] at hemitted
    exact hemitted.append (List.Sublist.refl _)

theorem sendFused_accepted {exit : Exit K} {exits : List (Exit K)} {fused : FusedPointCloud K}
    (hok : (s.rq_fuse_cloud.enqueue fused).2 = true) :
    sendFused s exit exits fused
      = { s with
          rq_fuse_cloud := (s.rq_fuse_cloud.enqueue fused).1
          fuserPc := .emit exits
          sent := s.sent ++ [(exit, fused)] } := by
  unfold sendFused
  simp only [hok, if_true]

theorem sendFused_refused {exit : Exit K} {exits : List (Exit K)} {fused : FusedPointCloud K}
    (hok : (s.rq_fuse_cloud.enqueue fused).2 = false) :
    sendFused s exit exits fused
      = { s with
          rq_fuse_cloud := (s.rq_fuse_cloud.enqueue fused).1
          fuserPc := .retry exit exits } := by
  unfold sendFused
  simp only [hok, Bool.false_eq_true, if_false]

theorem Front.send (h : Front s) {exit : Exit K} {exits : List (Exit K)}
    {fused : FusedPointCloud K} (hpc : s.fuserPc = .emit (exit :: exits))
    (houtput : exit.output s.fuser.T_B2A_ = some fused) : Front (sendFused s exit exits fused) := by
  have hframesA := h.framesA
  have hemitted := h.emitted
  have hcontents := contents_enqueue s.rq_fuse_cloud fused
  rw [hpc] at hframesA hemitted
  cases hok : (s.rq_fuse_cloud.enqueue fused).2 with
  | true =>
    rw [hok, if_pos rfl] at hcontents
    rw [sendFused_accepted hok]
    refine
      { h with
        framesA := hframesA
        emitted := ?_
        outputs := fun p hp => ?_
        queued := ?_ }
    · rw [List.map_append, List.append_assoc]
      exact hemitted
    · rcases List.mem_append.mp hp with hold | hnew
      · exact h.outputs p hold
      · rw [List.mem_singleton.mp hnew]
        exact houtput
    · rw [List.map_append, h.queued, hcontents, List.append_assoc]
      rfl
  | false =>
    rw [hok, if_neg Bool.false_ne_true, List.append_nil] at hcontents
    rw [sendFused_refused hok]
    refine { h with framesA := hframesA, emitted := hemitted, queued := ?_ }
    rw [hcontents, h.queued]

/-- A step of the pool that takes no frame. -/
theorem Front.setPool (h : Front s) {pool : WorkerPool.Pool K ringCapacity W}
    (hdequeued : pool.dequeued = s.results.pool.dequeued) : Front (s.setPool pool) := by
  refine { h with queued := ?_ }
  show s.sent.map Prod.snd = pool.dequeued ++ s.rq_fuse_cloud.contents
  rw [hdequeued, h.queued]

/-- Only a `dequeue` of the dispatcher takes a frame. -/
theorem dequeued_of_dispatcherStep {pool pool' : WorkerPool.Pool K ringCapacity W}
    {answer : Option (FusedPointCloud K)}
    (h : WorkerPool.dispatcherStep pool answer = some pool') :
    (pool.dispatcher = .dequeue → pool'.dequeued = pool.dequeued ++ answer.toList) ∧
    (pool.dispatcher ≠ .dequeue → pool'.dequeued = pool.dequeued) := by
  unfold WorkerPool.dispatcherStep at h
  split at h
  · rename_i hpc
    rw [hpc]
    exact Option.some.inj h ▸ ⟨(by rintro ⟨⟩), fun _ => rfl⟩
  · rename_i hpc
    refine ⟨fun _ => ?_, fun hne => absurd hpc hne⟩
    split at h
    · exact Option.some.inj h ▸ (List.append_nil _).symm
    · exact Option.some.inj h ▸ rfl
  · rename_i hpc
    rw [hpc]
    refine Option.some.inj h ▸ ⟨(by rintro ⟨⟩), fun _ => ?_⟩
    unfold WorkerPool.Pool.pushTask
    split_ifs <;> rfl
  · cases h

/-- The dispatcher takes what `rq_fuse_cloud` has. -/
theorem Front.fetch (h : Front s) {unset : FusedPointCloud K}
    {pool : WorkerPool.Pool K ringCapacity W} (hpc : s.results.pool.dispatcher = .dequeue)
    (hpool : WorkerPool.dispatcherStep s.results.pool
      (if (s.rq_fuse_cloud.dequeue unset).2.2 then some (s.rq_fuse_cloud.dequeue unset).2.1
        else none) = some pool) :
    Front ({ s with rq_fuse_cloud := (s.rq_fuse_cloud.dequeue unset).1 }.setPool pool) := by
  refine { h with queued := ?_ }
  show s.sent.map Prod.snd = pool.dequeued ++ (s.rq_fuse_cloud.dequeue unset).1.contents
  rw [h.queued, contents_dequeue s.rq_fuse_cloud unset, ((dequeued_of_dispatcherStep hpool).1 hpc)]
  cases (s.rq_fuse_cloud.dequeue unset).2.2 with
  | true => exact (List.append_assoc _ _ _).symm
  | false => rw [if_neg Bool.false_ne_true, if_neg Bool.false_ne_true, List.nil_append,
      Option.toList_none, List.append_nil]

variable [LinearOrder K] [FloorRing K] {pcl : Pcl K} {m : Libm K} {put_time : UInt64 → String}
variable {berth_id : String} {t : Program K W}

theorem dequeued_of_workerStep {pool pool' : WorkerPool.Pool K ringCapacity W} {i : Fin W} {now : ℤ}
    (h : WorkerPool.workerStep pcl m pool i now = some pool') : pool'.dequeued = pool.dequeued := by
  cases WorkerPool.moves_worker h <;> rfl

theorem Front.step {a : Action K W} (h : Front s) (hmove : Moves pcl m put_time berth_id s a t) :
    Front t := by
  cases hmove with
  | radarA hstep =>
    obtain ⟨haccount, htaken⟩ := h.accountA.step hstep
    exact { h with accountA := haccount, framesA := h.framesA.trans htaken.symm }
  | radarB hstep =>
    obtain ⟨haccount, htaken⟩ := h.accountB.step hstep
    exact { h with accountB := haccount, framesB := h.framesB.trans htaken.symm }
  | fuserTest hpc =>
    have hframesA := h.framesA
    have hemitted := h.emitted
    rw [hpc] at hframesA hemitted
    cases hrunning : s.fuserRunning <;> exact { h with framesA := hframesA, emitted := hemitted }
  | takeA hpc => exact h.takeA hpc _
  | takeB hpc => exact h.takeB hpc _
  | passEnd hpc =>
    have hframesA := h.framesA
    have hemitted := h.emitted
    rw [hpc] at hframesA hemitted
    exact { h with framesA := hframesA, emitted := hemitted }
  | silent hpc houtput =>
    have hframesA := h.framesA
    have hemitted := h.emitted
    rw [hpc] at hframesA hemitted
    refine { h with framesA := hframesA, emitted := List.Sublist.trans ?_ hemitted }
    exact (List.sublist_cons_self _ _).append_left _
  | send hpc houtput => exact h.send hpc houtput
  | retry hpc =>
    have hframesA := h.framesA
    have hemitted := h.emitted
    rw [hpc] at hframesA hemitted
    refine { h with framesA := hframesA, emitted := List.Sublist.trans ?_ hemitted }
    refine List.Sublist.append_left ?_ _
    cases s.fuserRunning with
    | true => exact List.Sublist.refl _
    | false => exact List.sublist_cons_self _ _
  | fetch hpc hpool => exact h.fetch hpc hpool
  | dispatch hpc hpool => exact h.setPool ((dequeued_of_dispatcherStep hpool).2 hpc)
  | worker hpool => exact h.setPool (dequeued_of_workerStep hpool)
  | @stopCalculator pool hpool =>
    have hstop : WorkerPool.Moves pcl m s.results.pool .stop pool := WorkerPool.moves_stop hpool
    exact h.setPool (by cases hstop <;> rfl)
  | @output r results outputPc hpc hresults =>
    have houtput : ResultPipeline.Moves pcl m s.results (.outputLoop 1 r) results :=
      ResultPipeline.moves_output hresults
    have hdequeued : results.pool.dequeued = s.results.pool.dequeued := by cases houtput <;> rfl
    refine { h with queued := ?_ }
    rw [h.queued, hdequeued]
  | solve hpc hok =>
    refine { h with queued := h.queued.trans ?_ }
    unfold ResultPipeline.solveStep
    dsimp only
    split_ifs <;> rfl
  | _ => exact { h with }

theorem front_of_reachable {ok : Program K W → Action K W → Prop}
    (h : (program pcl m put_time berth_id W).ReachableWith ok s) : Front s := by
  refine LTS.ReachableWith.invariant ?_ (fun _ _ _ hs _ hstep => hs.step (moves_of_step hstep)) h
  rintro s ⟨radarA, radarB, fuser, rq_fuse_cloud, results, mqtt_task_queue_, hA, hB, hcacheA, hcacheB,
    hfuse, hresults, -, rfl⟩
  obtain ⟨pool, solve_task_queue_, ⟨calculator, rq_sixdof_, -, rfl⟩, -, rfl⟩ := hresults
  refine
    { accountA := hA.symm
      accountB := hB.symm
      framesA := ?_
      framesB := hcacheB
      emitted := List.Sublist.refl _
      outputs := fun p hp => by cases hp
      queued := hfuse.symm }
  show [] ++ fuser.cacheA_ ++ [] = []
  rw [hcacheA]
  rfl

end Front

/-! ## From the calculator to the solver -/

section Results

variable [LinearOrder K] [FloorRing K] {pcl : Pcl K} {m : Libm K} {C : Capacity}

/-- A worker has done with a frame when its result is accepted. -/
def AcceptedWhenDone (s : WorkerPool.Pool K C W) : Prop :=
  (s.accepted.map Prod.fst).Sublist (s.executed.map Prod.snd)

theorem AcceptedWhenDone.step {s t : WorkerPool.Pool K C W} {a : WorkerPool.Action K W}
    (h : AcceptedWhenDone s) (hmove : WorkerPool.Moves pcl m s a t) : AcceptedWhenDone t := by
  cases hmove with
  | push hpc =>
    unfold WorkerPool.Pool.pushTask
    split_ifs <;> exact h
  | @retry i now seq res retry hpc hrefused hretry =>
    show ((if (s.rq_sixdof_.enqueue res).2 then s.accepted ++ [(seq, res)]
      else s.accepted).map Prod.fst).Sublist _
    rw [hrefused, if_neg Bool.false_ne_true]
    exact h
  | @finish i now seq res retry logged hpc =>
    show ((if (s.rq_sixdof_.enqueue res).2 then s.accepted ++ [(seq, res)]
      else s.accepted).map Prod.fst).Sublist ((s.executed ++ [(i, seq)]).map Prod.snd)
    rw [List.map_append]
    split_ifs
    · rw [List.map_append]
      exact List.Sublist.append h (List.Sublist.refl _)
    · exact h.trans (List.sublist_append_left _ _)
  | _ => exact h

/-- No frame has two results. -/
theorem accepted_once {s : WorkerPool.Pool K C W}
    (h : (WorkerPool.system pcl m C W).Reachable s) : (s.accepted.map Prod.fst).Nodup := by
  have hdone : AcceptedWhenDone s :=
    WorkerPool.invariant_of_moves (fun _ _ _ => List.Sublist.refl _)
      (fun _ _ _ hI _ hmove => hI.step hmove) h
  exact hdone.nodup (WorkerPool.ledger_inv h).executed_once

/-- What the solver has taken are accepted results, in order. -/
theorem solved_sublist {s : ResultPipeline.State K C W}
    (h : (ResultPipeline.system pcl m C W).Reachable s)
    (hpool : (WorkerPool.system pcl m C W).Reachable s.pool) :
    s.solved.Sublist (s.pool.accepted.map Prod.snd) := by
  have hinorder : ResultPipeline.InOrder s := by
    refine ResultPipeline.invariant_of_moves ?_ (fun _ _ _ hI hmove => hI.step hmove) h
    intro pool solve_task_queue_ hempty
    show ([] ++ solve_task_queue_.contents ++ []).Sublist _
    rw [hempty]
    exact List.nil_sublist _
  have hdelivers : s.pool.delivered ++ s.pool.rq_sixdof_.contents = s.pool.accepted.map Prod.snd :=
    WorkerPool.deliversAccepted hpool
  rw [← hdelivers]
  refine List.Sublist.trans ?_ (List.sublist_append_left _ _)
  refine List.Sublist.trans ?_ hinorder
  rw [List.append_assoc]
  exact List.sublist_append_left _ _

end Results

/-! ## From the solver to the broker -/

section Packages

variable [LinearOrder K] [FloorRing K]

/-- The package tells of the result. -/
structure Tells (put_time : UInt64 → String) (berth_id : String) (r : SixDofResult K)
    (pkg : MqttShipData K) : Prop where
  berth_id : pkg.berth_id = berth_id
  lidar_ip : pkg.lidar_ip = r.lidar_ip
  time_str : pkg.time_str = put_time (r.timestamp / 1000)
  motion : (pkg.surge, pkg.sway, pkg.heave) = (r.tx, r.ty, r.tz)
  rotation : (pkg.roll, pkg.pitch, pkg.yaw) = (r.rx, r.ry, r.rz)

variable {pcl : Pcl K} {m : Libm K} {put_time : UInt64 → String} {berth_id : String}
variable {s t : Program K W}

omit [FloorRing K] in
theorem tells_solveResult (m : Libm K) (put_time : UInt64 → String) (berth_id : String)
    (pos_history_ : List (ShipPosRecord K)) (r : SixDofResult K) (unset : K) :
    Tells put_time berth_id r (solveResult m put_time berth_id pos_history_ r unset).2 :=
  ⟨rfl, rfl, rfl, rfl, rfl⟩

/-- Every result that was solved has its package, and the packages keep their order. -/
structure Back (put_time : UInt64 → String) (berth_id : String) (s : Program K W) : Prop where
  told : List.Forall₂ (Tells put_time berth_id) s.results.solved s.packages
  onTheWay : (s.published ++ s.mqttPc.hand ++ s.mqtt_task_queue_.contents
    ++ s.solverPc.hand).Sublist s.packages

omit [LinearOrder K] [FloorRing K] in
/-- Results and packages are as they were. -/
theorem Back.of_same (h : Back put_time berth_id s) (hsolved : t.results.solved = s.results.solved)
    (hpackages : t.packages = s.packages) (hpublished : t.published = s.published)
    (hmqtt : t.mqttPc.hand = s.mqttPc.hand) (hqueue : t.mqtt_task_queue_ = s.mqtt_task_queue_)
    (hsolver : t.solverPc.hand = s.solverPc.hand) : Back put_time berth_id t := by
  refine ⟨?_, ?_⟩
  · rw [hsolved, hpackages]
    exact h.told
  · rw [hpublished, hmqtt, hqueue, hsolver, hpackages]
    exact h.onTheWay

theorem Back.step {a : Action K W} (h : Back put_time berth_id s)
    (hmove : Moves pcl m put_time berth_id s a t) : Back put_time berth_id t := by
  cases hmove with
  | @output r results outputPc hpc hresults =>
    have houtput : ResultPipeline.Moves pcl m s.results (.outputLoop 1 r) results :=
      ResultPipeline.moves_output hresults
    exact h.of_same (by cases houtput <;> rfl) rfl rfl rfl rfl rfl
  | @solve r unset hpc hok =>
    have hsolved : (ResultPipeline.solveStep m s.results r unset).solved
        = s.results.solved ++ [(s.results.solve_task_queue_.dequeue r).2.1] := by
      unfold ResultPipeline.solveStep
      simp only [hok, if_true]
    have honTheWay := h.onTheWay
    rw [hpc, show (SolverPc.body : SolverPc K).hand = [] from rfl, List.append_nil] at honTheWay
    refine ⟨?_, honTheWay.append (List.Sublist.refl _)⟩
    rw [hsolved]
    exact List.rel_append h.told (.cons (tells_solveResult m put_time berth_id _ _ _) .nil)
  | @push r unset mqtt_pkg hpc =>
    have honTheWay := h.onTheWay
    rw [hpc] at honTheWay
    refine ⟨h.told, List.Sublist.trans ?_ honTheWay⟩
    show (s.published ++ s.mqttPc.hand ++ (s.mqtt_task_queue_.enqueue mqtt_pkg).1.contents
      ++ []).Sublist _
    -- a full queue drops the package
    rw [contents_enqueue, List.append_nil, ← List.append_assoc]
    refine List.Sublist.append_left ?_ _
    split_ifs
    · exact List.Sublist.refl _
    · exact List.nil_sublist _
  | @mqttTake connected hpc hok =>
    have honTheWay := h.onTheWay
    rw [hpc, contents_dequeue s.mqtt_task_queue_ default, hok, if_pos rfl,
      show (MqttPc.body : MqttPc K).hand = [] from rfl, List.append_nil] at honTheWay
    refine ⟨h.told, ?_⟩
    rw [← List.append_assoc] at honTheWay
    exact honTheWay
  | @publish connected pkg hpc =>
    have honTheWay := h.onTheWay
    rw [hpc] at honTheWay
    refine ⟨h.told, List.Sublist.trans ?_ honTheWay⟩
    show ((if connected then s.published ++ [pkg] else s.published) ++ [] ++ _ ++ _).Sublist _
    rw [List.append_nil]
    refine List.Sublist.append_right (List.Sublist.append_right ?_ _) _
    split_ifs
    · exact List.Sublist.refl _
    · exact List.sublist_append_left _ _
  | solverTest hbefore hafter => exact h.of_same rfl rfl rfl rfl rfl (hafter.trans hbefore.symm)
  | mqttTest hbefore hafter => exact h.of_same rfl rfl rfl (hafter.trans hbefore.symm) rfl rfl
  | send hpc houtput => exact h.of_same rfl rfl rfl rfl rfl rfl
  | _ => exact h.of_same rfl rfl rfl rfl rfl rfl

theorem back_of_reachable {ok : Program K W → Action K W → Prop}
    (h : (program pcl m put_time berth_id W).ReachableWith ok s) : Back put_time berth_id s := by
  refine LTS.ReachableWith.invariant ?_ (fun _ _ _ hs _ hstep => hs.step (moves_of_step hstep)) h
  rintro s ⟨radarA, radarB, fuser, rq_fuse_cloud, results, mqtt_task_queue_, -, -, -, -, -, hresults,
    hmqtt, rfl⟩
  obtain ⟨pool, solve_task_queue_, -, -, rfl⟩ := hresults
  refine ⟨.nil, ?_⟩
  show ([] ++ [] ++ mqtt_task_queue_.contents ++ []).Sublist []
  rw [hmqtt]
  exact List.Sublist.refl _

omit [LinearOrder K] [FloorRing K] in
theorem Back.published_sublist (h : Back put_time berth_id s) :
    s.published.Sublist s.packages := by
  refine List.Sublist.trans ?_ h.onTheWay
  rw [List.append_assoc, List.append_assoc]
  exact List.sublist_append_left _ _

omit [LinearOrder K] [FloorRing K] in
/-- What is published belongs to some of the results solved, in their order. -/
theorem Back.published (h : Back put_time berth_id s) :
    ∃ solved, solved.Sublist s.results.solved ∧
      List.Forall₂ (Tells put_time berth_id) solved s.published := by
  have hsub := h.published_sublist
  have htold := h.told
  generalize s.results.solved = solved at htold ⊢
  generalize s.packages = packages at hsub htold
  generalize s.published = published at hsub ⊢
  induction hsub generalizing solved with
  | slnil => exact ⟨[], List.nil_sublist _, .nil⟩
  | cons pkg _ ih =>
    obtain ⟨r, rest, -, hrest, rfl⟩ := List.forall₂_cons_right_iff.mp htold
    obtain ⟨taken, htaken, hpairs⟩ := ih rest hrest
    exact ⟨taken, htaken.cons r, hpairs⟩
  | cons_cons pkg _ ih =>
    obtain ⟨r, rest, hr, hrest, rfl⟩ := List.forall₂_cons_right_iff.mp htold
    obtain ⟨taken, htaken, hpairs⟩ := ih rest hrest
    exact ⟨r :: taken, htaken.cons_cons r, .cons hr hpairs⟩

end Packages

/-! ## End to end -/

section EndToEnd

variable [LinearOrder K] [FloorRing K] {pcl : Pcl K} {m : Libm K} {put_time : UInt64 → String}
variable {berth_id : String} {s : Program K W}

/-- The frames of an exit, and what it sends. -/
theorem sent_of_accepted {ok : Program K W → Action K W → Prop}
    (h : (program pcl m put_time berth_id W).ReachableWith ok s) {p : ℕ × SixDofResult K}
    (hp : p ∈ s.results.pool.accepted) :
    ∃ exit fused, s.sent[p.1]? = some (exit, fused) ∧
      exit.output s.fuser.T_B2A_ = some fused ∧ p.2.timestamp = fused.timestamp := by
  have hfront := front_of_reachable h
  have hstamped := (WorkerPool.stamps (pool_reachable h)).accepted p hp
  obtain ⟨fused, hfused, htimestamp⟩ := Option.map_eq_some_iff.mp hstamped
  -- the frame number `p.1` of the dispatcher is the one that was sent as number `p.1`
  have hlt := (List.getElem?_eq_some_iff.mp hfused).1
  have hsent : (s.sent.map Prod.snd)[p.1]? = some fused := by
    rw [hfront.queued, List.getElem?_append_left hlt, hfused]
  rw [List.getElem?_map] at hsent
  obtain ⟨⟨exit, fused'⟩, hexit, rfl⟩ := Option.map_eq_some_iff.mp hsent
  exact ⟨exit, fused', hexit, hfront.outputs _ (List.mem_of_getElem? hexit), htimestamp.symm⟩

/-- **Provenance.** In every run of the program: the published packages tell of accepted results, in
their order, one result each; these have different frame numbers, and the result with a number has
the timestamp of the frame the fuser sent under it; everything the fuser sent is the output of its
exit, in the order of the exits; and the frames that left through the exits are the first ones the
radars sent, in their order. So no radar frame goes into two exits, no exit into two frames, no
frame into two packages. -/
theorem published_provenance {ok : Program K W → Action K W → Prop}
    (h : (program pcl m put_time berth_id W).ReachableWith ok s) :
    (∃ rows : List (ℕ × SixDofResult K),
      rows.Sublist s.results.pool.accepted ∧ (rows.map Prod.fst).Nodup ∧
      List.Forall₂ (Tells put_time berth_id) (rows.map Prod.snd) s.published ∧
      ∀ row ∈ rows, ∃ exit fused, s.sent[row.1]? = some (exit, fused) ∧
        exit.output s.fuser.T_B2A_ = some fused ∧ row.2.timestamp = fused.timestamp) ∧
    (s.sent.map Prod.fst).Sublist s.exits ∧
    (∀ p ∈ s.sent, p.1.output s.fuser.T_B2A_ = some p.2) ∧
    s.exits.filterMap Exit.frameA <+: s.radarA.arrived ∧
    s.exits.filterMap Exit.frameB <+: s.radarB.arrived := by
  have hfront := front_of_reachable h
  have hpool := pool_reachable h
  refine ⟨?_, ?_, hfront.outputs, ?_, ?_⟩
  · obtain ⟨solved, hsolved, htold⟩ := (back_of_reachable h).published
    have haccepted := hsolved.trans (solved_sublist (results_reachable h) hpool)
    obtain ⟨rows, hrows, rfl⟩ := List.sublist_map_iff.mp haccepted
    exact ⟨rows, hrows, (hrows.map Prod.fst).nodup (accepted_once hpool), htold,
      fun row hrow => sent_of_accepted h (hrows.subset hrow)⟩
  · exact (List.sublist_append_left _ _).trans hfront.emitted
  · rw [hfront.accountA, ← hfront.framesA, List.append_assoc, List.append_assoc]
    exact List.prefix_append _ _
  · rw [hfront.accountB, ← hfront.framesB, List.append_assoc]
    exact List.prefix_append _ _

end EndToEnd

/-! ## Three frames from each radar -/

/-- A frame of the acquirer, with one point. -/
def radarFrame (lidar_id : String) : RawPointCloud ℚ :=
  { lidar_ip := "", lidar_id, timestamp := acquirerStamp, cloud := [⟨1, 0, 0⟩] }

/-- A frame as the ring's buffer initialises it. -/
def noFused : FusedPointCloud ℚ := ⟨"", "", 0, [], 0⟩

/-- The program with one worker before the first frame. -/
def newProgram : Program ℚ 1 :=
  initial (.new ringCapacity (radarFrame "A")) (.new ringCapacity (radarFrame "B")) idleFuser
    (.new ringCapacity noFused)
    (ResultPipeline.initial
      (WorkerPool.initial SixDofCalculator.newCalculator (.new ringCapacity WorkerPool.noResult))
      (.new ResultPipeline.solveCapacity WorkerPool.noResult))
    (.new mqttCapacity default)

/-- With the libraries on a still ship. -/
def stillProgram : LTS (Program ℚ 1) (Action ℚ 1) :=
  program SixDofCalculator.stillPcl SixDofCalculator.stillLibm
    (fun seconds => toString seconds.toNat) "1" 1

theorem newProgram_init : stillProgram.init newProgram :=
  ⟨_, _, _, _, _, _, contents_new _, contents_new _, rfl, rfl, contents_new _,
    ⟨_, _, ⟨_, _, contents_new _, rfl⟩, contents_new _, rfl⟩, contents_new _, rfl⟩

/-- Three frames from each radar, one thread after the other. -/
def threeFrames : List (Action ℚ 1) :=
  List.replicate 6 (.radarA (radarFrame "A")) ++ List.replicate 6 (.radarB (radarFrame "B")) ++
    List.replicate 15 (.fuser (radarFrame "A")) ++ List.replicate 9 (.dispatcher noFused) ++
    List.replicate 15 (.worker 0 0) ++ List.replicate 9 (.output WorkerPool.noResult) ++
    List.replicate 9 (.solver WorkerPool.noResult 0) ++ List.replicate 9 (.mqtt true)

def threePackages : Program ℚ 1 :=
  (stillProgram.exec newProgram threeFrames).get (by decide +kernel)

theorem published_provenance_threePackages :
    ∃ rows : List (ℕ × SixDofResult ℚ), rows.length = 3 ∧ (rows.map Prod.fst).Nodup := by
  have hreach : stillProgram.Reachable threePackages :=
    LTS.reachable_of_exec newProgram_init (Option.some_get _).symm
  obtain ⟨rows, -, hnodup, htold, -⟩ := (published_provenance hreach).1
  have hlength : threePackages.published.length = 3 := by decide +kernel
  have hrows := htold.length_eq
  rw [List.length_map, hlength] at hrows
  exact ⟨rows, hrows, hnodup⟩

end MainProgram
end ShipMotion
