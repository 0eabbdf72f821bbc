import ShipMotion.LockFreeQueueTheorems
import ShipMotion.SixDofCalculator.WorkerPoolTheorems

/-!
# The order of the results

The workers take the tasks in order, but nothing orders their way through `base_mtx_` to
`rq_sixdof_`. Results come out in the order of their frames in the runs in which a worker's
result is accepted only while the other workers are idle or busy with later frames. A result
carries the timestamp of its frame, and `rq_sixdof_` delivers what it accepted, in order.
-/

namespace ShipMotion
namespace SixDofCalculator
namespace WorkerPool

open Utils LockFreeRingQueue

variable {K : Type} [Field K] [LinearOrder K] [FloorRing K] {C : Capacity} {W : ℕ}
variable {pcl : Pcl K} {m : Libm K} {s t : Pool K C W}

/-- The results are accepted in the order in which their frames were dequeued. -/
theorem accepted_in_order (h : (system pcl m C W).ReachableWith OldestFirst s) :
    (s.accepted.map Prod.fst).Pairwise (· < ·) := by
  have hrun : (TaskLedger.system (Fin W) MAX_QUEUE_SIZE).ReachableWith TaskLedger.OldestFirst
      (ledger s) := ledger_reachable (fun _ _ _ hok hfirst => hfirst hok) h
  exact TaskLedger.accepted_sorted (by decide) hrun

/-! ## Delivery -/

/-- What was delivered and what is still in the ring is what was accepted. -/
def DeliversAccepted (s : Pool K C W) : Prop :=
  s.delivered ++ s.rq_sixdof_.contents = s.accepted.map Prod.snd

omit [LinearOrder K] [FloorRing K] in
theorem DeliversAccepted.offer (h : DeliversAccepted s) (seq : ℕ) (res : SixDofResult K) :
    DeliversAccepted (s.offer seq res) := by
  show s.delivered ++ (s.rq_sixdof_.enqueue res).1.contents
    = (if (s.rq_sixdof_.enqueue res).2 then s.accepted ++ [(seq, res)]
        else s.accepted).map Prod.snd
  rw [contents_enqueue, ← List.append_assoc, h]
  -- a refused result is in neither list
  cases (s.rq_sixdof_.enqueue res).2 with
  | true => rw [if_pos rfl, if_pos rfl, List.map_append, List.map_singleton]
  | false =>
    rw [if_neg Bool.false_ne_true, if_neg Bool.false_ne_true, List.append_nil]

omit [LinearOrder K] [FloorRing K] in
theorem DeliversAccepted.consume (h : DeliversAccepted s) (r : SixDofResult K) :
    DeliversAccepted (s.consume r) := by
  show (if (s.rq_sixdof_.dequeue r).2.2 then s.delivered ++ [(s.rq_sixdof_.dequeue r).2.1]
    else s.delivered) ++ (s.rq_sixdof_.dequeue r).1.contents = s.accepted.map Prod.snd
  rw [← h, contents_dequeue s.rq_sixdof_ r]
  cases (s.rq_sixdof_.dequeue r).2.2 with
  | true => rw [if_pos rfl, if_pos rfl, List.append_assoc]
  | false => rw [if_neg Bool.false_ne_true, if_neg Bool.false_ne_true, List.nil_append]

theorem DeliversAccepted.step {a : Action K W} (h : DeliversAccepted s)
    (hmove : Moves pcl m s a t) : DeliversAccepted t := by
  cases hmove with
  | push hpc =>
    unfold Pool.pushTask
    split <;> exact h
  | retry hpc _ _ | finish hpc => exact h.offer _ _
  | consume => exact h.consume _
  | _ => exact h

theorem deliversAccepted {ok : Pool K C W → Action K W → Prop}
    (h : (system pcl m C W).ReachableWith ok s) : DeliversAccepted s :=
  invariant_of_moves (fun _ _ hempty => hempty) (fun _ _ _ hI _ hmove => hI.step hmove) h

/-! ## Timestamps -/

/-- A result has the timestamp of its frame. -/
theorem calculateSixDof_timestamp (pcl : Pcl K) (m : Libm K) (self : State K)
    (c : FusedPointCloud K) (now_tp : ℤ) :
    (calculateSixDof pcl m self c now_tp).2.1.timestamp = c.timestamp := by
  unfold calculateSixDof
  simp only
  cases registeredPair (updateBase pcl self c now_tp).1 c with
  | none => rfl
  | some pair =>
    simp only
    cases shipDockTransform (updateBase pcl self c now_tp).1 c.lidar_id
        (fineRegistrationGICP pcl pair.1.cloud pair.2.cloud
          (coarseRegistration pcl pair.1.cloud pair.2.cloud
            (updateBase pcl self c now_tp).1.regCfg_)
          (updateBase pcl self c now_tp).1.regCfg_).1 with
    | none => rfl
    | some T_ship_dock => rfl

/-- A task belongs to the dequeued frame of its number. -/
def Task.Of (dequeued : List (FusedPointCloud K)) (task : Task K) : Prop :=
  dequeued[task.seq]? = some task.c

/-- The frame number `seq` has this timestamp. -/
def Stamped (dequeued : List (FusedPointCloud K)) (seq : ℕ) (timestamp : UInt64) : Prop :=
  (dequeued[seq]?).map (·.timestamp) = some timestamp

/-- What a worker is busy with belongs to the frame of its number. -/
def WorkerPc.Of (dequeued : List (FusedPointCloud K)) : WorkerPc K → Prop
  | .readClock task | .lockBase task _ | .compute task _ => task.Of dequeued
  | .enqueue seq res _ => Stamped dequeued seq res.timestamp
  | .wait | .returned => True

def DispatcherPc.Of (dequeued : List (FusedPointCloud K)) : DispatcherPc K → Prop
  | .push task => task.Of dequeued
  | .testRunning | .dequeue | .returned => True

/-- Tasks carry their frames, results the timestamps of their frames. -/
structure Stamps (s : Pool K C W) : Prop where
  tasks : ∀ task ∈ s.tasks_, task.Of s.dequeued
  dispatcher : s.dispatcher.Of s.dequeued
  workers : ∀ i, (s.workers i).Of s.dequeued
  accepted : ∀ p ∈ s.accepted, Stamped s.dequeued p.1 p.2.timestamp

omit [Field K] [LinearOrder K] [FloorRing K] in
theorem Task.Of.concat {dequeued : List (FusedPointCloud K)} {task : Task K}
    (h : task.Of dequeued) (c : FusedPointCloud K) : task.Of (dequeued ++ [c]) := by
  have hlt := (List.getElem?_eq_some_iff.mp h).1
  rw [Task.Of, List.getElem?_append_left hlt]
  exact h

omit [Field K] [LinearOrder K] [FloorRing K] in
theorem Stamped.concat {dequeued : List (FusedPointCloud K)} {seq : ℕ} {timestamp : UInt64}
    (h : Stamped dequeued seq timestamp) (c : FusedPointCloud K) :
    Stamped (dequeued ++ [c]) seq timestamp := by
  obtain ⟨frame, hframe, -⟩ := Option.map_eq_some_iff.mp h
  have hlt := (List.getElem?_eq_some_iff.mp hframe).1
  rw [Stamped, List.getElem?_append_left hlt]
  exact h

omit [Field K] [LinearOrder K] [FloorRing K] in
theorem WorkerPc.Of.concat {dequeued : List (FusedPointCloud K)} {pc : WorkerPc K}
    (h : pc.Of dequeued) (c : FusedPointCloud K) : pc.Of (dequeued ++ [c]) := by
  cases pc with
  | readClock task | lockBase task _ | compute task _ => exact Task.Of.concat h c
  | enqueue seq res _ => exact Stamped.concat h c
  | wait | returned => trivial

omit [LinearOrder K] [FloorRing K] in
theorem Stamps.of_pc (h : Stamps s) {i : Fin W} {pc : WorkerPc K} (hpc : s.workers i = pc) :
    pc.Of s.dequeued := by
  rw [← hpc]
  exact h.workers i

omit [LinearOrder K] [FloorRing K] in
/-- Worker `i` moves on. -/
theorem Stamps.setWorker (h : Stamps s) {i : Fin W} {pc : WorkerPc K} (hpc : pc.Of s.dequeued) :
    Stamps (s.setWorker i pc) := by
  refine ⟨h.tasks, h.dispatcher, fun j => ?_, h.accepted⟩
  rw [setWorker_workers]
  by_cases hj : j = i
  · rw [if_pos hj]
    exact hpc
  · rw [if_neg hj]
    exact h.workers j

omit [LinearOrder K] [FloorRing K] in
theorem Stamps.pushTask (h : Stamps s) {task : Task K} (htask : task.Of s.dequeued) :
    Stamps (s.pushTask task) := by
  have hpush : ∀ kept, (∀ u ∈ kept, u ∈ s.tasks_) →
      ∀ u ∈ kept ++ [task], Task.Of s.dequeued u := by
    intro kept hkept u hu
    rcases List.mem_append.mp hu with hu | hu
    · exact h.tasks u (hkept u hu)
    · rw [List.mem_singleton.mp hu]
      exact htask
  unfold Pool.pushTask
  split
  · exact ⟨hpush _ fun u hu => List.mem_of_mem_drop hu, trivial, h.workers, h.accepted⟩
  · exact ⟨hpush _ fun u hu => hu, trivial, h.workers, h.accepted⟩

omit [LinearOrder K] [FloorRing K] in
theorem Stamps.offer (h : Stamps s) {seq : ℕ} {res : SixDofResult K}
    (hres : Stamped s.dequeued seq res.timestamp) : Stamps (s.offer seq res) := by
  refine ⟨h.tasks, h.dispatcher, h.workers, ?_⟩
  intro p hp
  rw [Pool.offer] at hp
  cases hanswer : (s.rq_sixdof_.enqueue res).2 with
  | false =>
    rw [hanswer] at hp
    exact h.accepted p hp
  | true =>
    rw [hanswer] at hp
    rcases List.mem_append.mp hp with hp | hp
    · exact h.accepted p hp
    · rw [List.mem_singleton.mp hp]
      exact hres

theorem Stamps.step {a : Action K W} (h : Stamps s) (hmove : Moves pcl m s a t) : Stamps t := by
  cases hmove with
  | testRunning hpc =>
    refine ⟨h.tasks, ?_, h.workers, h.accepted⟩
    show DispatcherPc.Of s.dequeued (if _ then _ else _)
    split <;> trivial
  | noFrame hpc => exact ⟨h.tasks, trivial, h.workers, h.accepted⟩
  | frame hpc =>
    -- the new frame gets the next number; older numbers keep their frames
    refine ⟨fun task htask => (h.tasks task htask).concat _, ?_, fun i => (h.workers i).concat _,
      fun p hp => (h.accepted p hp).concat _⟩
    show (s.dequeued ++ [_])[s.dequeued.length]? = some _
    rw [List.getElem?_append_right (Nat.le_refl _), Nat.sub_self, List.getElem?_cons_zero]
  | push hpc =>
    have htask := h.dispatcher
    rw [hpc] at htask
    exact h.pushTask htask
  | leave hpc _ _ => exact h.setWorker trivial
  | take hpc htasks =>
    rename_i i now task rest
    have hrest : Stamps { s with tasks_ := rest } := by
      refine ⟨fun u hu => h.tasks u ?_, h.dispatcher, h.workers, h.accepted⟩
      rw [htasks]
      exact List.mem_cons_of_mem _ hu
    have htask : task.Of s.dequeued := by
      apply h.tasks
      rw [htasks]
      exact List.mem_cons_self
    have hset : Stamps ({ s with tasks_ := rest }.setWorker i (.readClock task)) :=
      hrest.setWorker htask
    exact ⟨hset.tasks, hset.dispatcher, hset.workers, hset.accepted⟩
  | readClock hpc =>
    have htask := h.of_pc hpc
    exact h.setWorker htask
  | lockBase hpc hmtx =>
    rename_i i now task now_tp
    have hlocked : Stamps { s with base_mtx_ := some i } :=
      ⟨h.tasks, h.dispatcher, h.workers, h.accepted⟩
    have htask := h.of_pc hpc
    exact hlocked.setWorker htask
  | compute hpc hres =>
    rename_i i now task now_tp calculator res logged
    have htask : task.Of s.dequeued := h.of_pc hpc
    have hunlocked : Stamps { s with
        calculator, base_mtx_ := none, notices := s.notices ++ logged } :=
      ⟨h.tasks, h.dispatcher, h.workers, h.accepted⟩
    -- the result takes over the timestamp of the task
    refine hunlocked.setWorker ?_
    show (s.dequeued[task.seq]?).map (·.timestamp) = some res.timestamp
    rw [htask, Option.map_some, ← calculateSixDof_timestamp pcl m s.calculator task.c now_tp, hres]
  | retry hpc _ _ =>
    have hres := h.of_pc hpc
    exact (h.offer hres).setWorker hres
  | finish hpc =>
    rename_i i now seq res retry logged
    have hset : Stamps ((s.offer seq res).setWorker i .wait) :=
      (h.offer (h.of_pc hpc)).setWorker trivial
    exact ⟨hset.tasks, hset.dispatcher, hset.workers, hset.accepted⟩
  | clearRunning _ | closePool _ | joinWorker _ _ _ | joinedWorkers _ _ | joinDispatcher _ _ =>
    exact ⟨h.tasks, h.dispatcher, h.workers, h.accepted⟩
  | consume => exact ⟨h.tasks, h.dispatcher, h.workers, h.accepted⟩

theorem stamps {ok : Pool K C W → Action K W → Prop}
    (h : (system pcl m C W).ReachableWith ok s) : Stamps s := by
  refine invariant_of_moves ?_ (fun _ _ _ hI _ hmove => hI.step hmove) h
  intro calculator rq_sixdof_ _
  exact ⟨fun _ htask => absurd htask List.not_mem_nil, trivial, fun _ => trivial,
    fun _ hp => absurd hp List.not_mem_nil⟩

omit [Field K] [LinearOrder K] [FloorRing K] in
/-- Frames with increasing numbers have increasing timestamps. -/
theorem Stamped.le {dequeued : List (FusedPointCloud K)} {i j : ℕ} {a b : UInt64}
    (hsorted : (dequeued.map (·.timestamp)).Pairwise (· ≤ ·)) (hij : i < j)
    (ha : Stamped dequeued i a) (hb : Stamped dequeued j b) : a ≤ b := by
  rw [Stamped, ← List.getElem?_map] at ha hb
  obtain ⟨hi, rfl⟩ := List.getElem?_eq_some_iff.mp ha
  obtain ⟨hj, rfl⟩ := List.getElem?_eq_some_iff.mp hb
  exact List.pairwise_iff_getElem.mp hsorted i j hi hj hij

/-- Accepted in order, the results have non-decreasing timestamps if the frames have. -/
theorem accepted_timestamps (h : (system pcl m C W).ReachableWith OldestFirst s)
    (hsorted : (s.dequeued.map (·.timestamp)).Pairwise (· ≤ ·)) :
    (s.accepted.map fun p => p.2.timestamp).Pairwise (· ≤ ·) := by
  have hstamps := (stamps h).accepted
  have horder := List.pairwise_map.mp (accepted_in_order h)
  refine List.pairwise_map.mpr (List.Pairwise.imp_of_mem ?_ horder)
  intro p q hp hq hpq
  exact (hstamps p hp).le hsorted hpq (hstamps q hq)

end WorkerPool
end SixDofCalculator
end ShipMotion
