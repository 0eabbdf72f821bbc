import ShipMotion.ResultPipeline
import ShipMotion.SixDofCalculator.ResultOrderTheorems

/-!
# The position history is in the order of the frames

Behind `rq_sixdof_` every queue has one producer and one consumer, so the solver takes the
results in the order in which they were accepted, with gaps where a full queue refused one. With
results accepted oldest first, the history is sorted by time and the unsigned difference of two
of its timestamps does not wrap; with two workers that overtake each other it does.
-/

namespace ShipMotion
namespace ResultPipeline

open Utils LockFreeRingQueue SixDofCalculator DataOutputter WorkerPool

variable {K : Type} [Field K] {C : Capacity} {W : ℕ}

section Runs

variable [LinearOrder K] [FloorRing K] {pcl : Pcl K} {m : Libm K} {s t : State K C W}

/-- The condition on the pool's steps. -/
def OldestFirst (s : State K C W) : Action K W → Prop
  | .pool a => WorkerPool.OldestFirst s.pool a
  | .outputLoop _ _ | .solveWorkerLoop _ _ => True

instance (s : State K C W) : ∀ a, Decidable (OldestFirst s a)
  | .pool a => inferInstanceAs (Decidable (WorkerPool.OldestFirst s.pool a))
  | .outputLoop _ _ | .solveWorkerLoop _ _ => isTrue trivial

/-- The transitions of the outputter's threads, and those of the pool. -/
inductive Moves (pcl : Pcl K) (m : Libm K) (s : State K C W) : Action K W → State K C W → Prop where
  | pool {a pool} : WorkerPool.step pcl m s.pool a = some pool → (∀ r, a ≠ .consume r) →
      Moves pcl m s (.pool a) { s with pool }
  | take {fuel r} : s.pending = none → (s.pool.rq_sixdof_.dequeue r).2.2 = true →
      Moves pcl m s (.outputLoop fuel r)
        { s with pool := s.pool.consume r, pending := some (s.pool.rq_sixdof_.dequeue r).2.1 }
  | push {fuel r data} : s.pending = some data →
      Moves pcl m s (.outputLoop fuel r)
        { s with pending := none, solve_task_queue_ := (s.solve_task_queue_.enqueue data).1 }
  | solve {r unset} : (s.solve_task_queue_.dequeue r).2.2 = true →
      Moves pcl m s (.solveWorkerLoop r unset)
        { s with
          solve_task_queue_ := (s.solve_task_queue_.dequeue r).1
          pos_history_ :=
            calcShipBowSternPos m s.pos_history_ (s.solve_task_queue_.dequeue r).2.1 unset
          solved := s.solved ++ [(s.solve_task_queue_.dequeue r).2.1]
          accelerations := s.accelerations ++ [getBowSternAcc
            (calcShipBowSternPos m s.pos_history_ (s.solve_task_queue_.dequeue r).2.1 unset)] }
  | idle {a} : (∀ p, a ≠ .pool p) → Moves pcl m s a s

theorem moves_output {fuel : ℕ} {r : SixDofResult K} (h : outputStep s fuel r = some t) :
    Moves pcl m s (.outputLoop fuel r) t := by
  unfold outputStep at h
  cases hpending : s.pending with
  | none =>
    simp only [hpending] at h
    cases hok : (s.pool.rq_sixdof_.dequeue r).2.2 with
    | true =>
      simp only [hok, if_true, Option.some.injEq] at h
      rw [← h]
      exact .take hpending hok
    | false =>
      simp only [hok, Bool.false_eq_true, if_false, Option.some.injEq] at h
      rw [← h]
      exact .idle fun _ ha => by cases ha
  | some data =>
    simp only [hpending] at h
    obtain ⟨d, hd, rfl⟩ := Option.map_eq_some_iff.mp h
    -- on a ring of capacity `SOLVE_MAX_QUEUE` the call is a plain `enqueue`
    have hplain : d = plainEnqueue s.solve_task_queue_ data := eq_plainEnqueue hd
    rw [hplain]
    exact .push hpending

theorem moves_of_step {a : Action K W} (h : step pcl m s a = some t) : Moves pcl m s a t := by
  cases a with
  | pool a =>
    cases a with
    | consume r => cases h
    | _ =>
      obtain ⟨pool, hpool, rfl⟩ := Option.map_eq_some_iff.mp h
      exact .pool hpool fun _ ha => by cases ha
  | outputLoop fuel r => exact moves_output h
  | solveWorkerLoop r unset =>
    rw [step, Option.some.injEq] at h
    rw [← h, solveStep]
    cases hok : (s.solve_task_queue_.dequeue r).2.2 with
    | true =>
      simp only [hok, if_true]
      exact .solve hok
    | false =>
      simp only [hok, Bool.false_eq_true, if_false]
      exact .idle fun _ ha => by cases ha

/-- What holds of a new pipeline and is kept by every transition holds in every run. -/
theorem invariant_of_moves {ok : State K C W → Action K W → Prop} {I : State K C W → Prop}
    (hinit : ∀ pool solve_task_queue_, solve_task_queue_.contents = [] →
      I (initial pool solve_task_queue_))
    (hstep : ∀ s a t, I s → Moves pcl m s a t → I t)
    (h : (system pcl m C W).ReachableWith ok s) : I s := by
  refine LTS.ReachableWith.invariant ?_ ?_ h
  · intro s hs
    obtain ⟨pool, solve_task_queue_, -, hempty, rfl⟩ := hs
    exact hinit pool solve_task_queue_ hempty
  · intro s a t hI _ ht
    exact hstep s a t hI (moves_of_step ht)

/-- The pool inside takes part in a run of its own. -/
theorem pool_reachable (h : (system pcl m C W).ReachableWith OldestFirst s) :
    (WorkerPool.system pcl m C W).ReachableWith WorkerPool.OldestFirst s.pool := by
  refine LTS.ReachableWith.simulate ?_ ?_ h
  · intro s hinit
    obtain ⟨pool, solve_task_queue_, hpool, -, rfl⟩ := hinit
    exact hpool
  · intro s a t hok hstep
    cases moves_of_step hstep with
    | pool hpool hconsume => exact Or.inr ⟨_, hok, hpool⟩
    | take hpending hdequeued => exact Or.inr ⟨.consume _, trivial, rfl⟩
    | push hpending => exact Or.inl rfl
    | solve hdequeued => exact Or.inl rfl
    | idle ha => exact Or.inl rfl

omit [LinearOrder K] [FloorRing K] in
/-- Only `consume` delivers. -/
theorem delivered_of_moves [LinearOrder K] [FloorRing K] {s t : Pool K C W}
    {a : WorkerPool.Action K W} (hmove : WorkerPool.Moves pcl m s a t)
    (ha : ∀ r, a ≠ .consume r) : t.delivered = s.delivered := by
  cases hmove with
  | push hpc =>
    unfold Pool.pushTask
    split <;> rfl
  | consume => exact absurd rfl (ha _)
  | _ => rfl

/-! ## What reaches the solver -/

/-- The results on their way to the solver, and those it has taken, are delivered ones, in the
order of their delivery. -/
def InOrder (s : State K C W) : Prop :=
  (s.solved ++ s.solve_task_queue_.contents ++ s.pending.toList).Sublist s.pool.delivered

theorem InOrder.step {a : Action K W} (h : InOrder s) (hmove : Moves pcl m s a t) : InOrder t := by
  cases hmove with
  | pool hpool hconsume =>
    show List.Sublist _ _
    rw [delivered_of_moves (WorkerPool.moves_of_step hpool) hconsume]
    exact h
  | take hpending hdequeued =>
    rename_i fuel r
    -- the result moves from `rq_sixdof_` into the hand of `outputLoop`
    have hbefore : (s.solved ++ s.solve_task_queue_.contents).Sublist s.pool.delivered := by
      have hold := h
      rw [InOrder, hpending, Option.toList_none, List.append_nil] at hold
      exact hold
    show List.Sublist _ (if (s.pool.rq_sixdof_.dequeue r).2.2 then _ else _)
    rw [hdequeued, if_pos rfl]
    exact hbefore.append_right _
  | push hpending =>
    rename_i fuel r data
    have hold := h
    rw [InOrder, hpending, Option.toList_some] at hold
    show (s.solved ++ (s.solve_task_queue_.enqueue data).1.contents ++ []).Sublist _
    -- a full queue drops the result: a gap, but no change of order
    refine List.Sublist.trans ?_ hold
    rw [contents_enqueue, List.append_nil, ← List.append_assoc]
    refine List.Sublist.append_left ?_ _
    split
    · exact List.Sublist.refl _
    · exact List.nil_sublist _
  | solve hdequeued =>
    rename_i r unset
    have hold := h
    rw [InOrder, contents_dequeue s.solve_task_queue_ r, hdequeued, if_pos rfl] at hold
    show (s.solved ++ [_] ++ (s.solve_task_queue_.dequeue r).1.contents ++ _).Sublist _
    rw [List.append_assoc s.solved]
    exact hold
  | idle ha => exact h

/-- The history has the timestamps of the latest results. -/
def HistoryOfSolved (s : State K C W) : Prop :=
  s.pos_history_.map (·.ts) <:+ s.solved.map (·.timestamp)

theorem HistoryOfSolved.step {a : Action K W} (h : HistoryOfSolved s)
    (hmove : Moves pcl m s a t) : HistoryOfSolved t := by
  cases hmove with
  | solve hdequeued =>
    rename_i r unset
    refine (pushHistory_suffix s.pos_history_ _ _ _).trans ?_
    show _ <:+ (s.solved ++ [(s.solve_task_queue_.dequeue r).2.1]).map (·.timestamp)
    rw [List.map_append, List.map_singleton]
    obtain ⟨front, hfront⟩ := h
    exact ⟨front, by rw [← hfront, List.append_assoc]⟩
  | _ => exact h

/-- **Order preservation.** In every run in which results are accepted oldest first: they are
accepted in the order of their frames, `rq_sixdof_` delivers them in this order, and if the
frames are sorted by time, so are the results that the solver takes, and the unsigned difference
of the acceleration formula does not wrap. -/
theorem results_in_order (h : (system pcl m C W).ReachableWith OldestFirst s) :
    (s.pool.accepted.map Prod.fst).Pairwise (· < ·) ∧
    s.pool.delivered ++ s.pool.rq_sixdof_.contents = s.pool.accepted.map Prod.snd ∧
    ((s.pool.dequeued.map (·.timestamp)).Pairwise (· ≤ ·) →
      (s.solved.map (·.timestamp)).Pairwise (· ≤ ·) ∧
      ∀ h0 h1 h2 rest, s.pos_history_ = h0 :: h1 :: h2 :: rest →
        (h2.ts - h1.ts).toNat = h2.ts.toNat - h1.ts.toNat ∧ h1.ts ≤ h2.ts) := by
  have hpool := pool_reachable h
  have hdelivers := deliversAccepted hpool
  have hinorder : InOrder s := by
    refine invariant_of_moves ?_ (fun _ _ _ hI hmove => hI.step hmove) h
    intro pool solve_task_queue_ hempty
    show ([] ++ solve_task_queue_.contents ++ []).Sublist _
    rw [hempty]
    exact List.nil_sublist _
  have hhistory : HistoryOfSolved s :=
    invariant_of_moves (fun _ _ _ => List.suffix_rfl) (fun _ _ _ hI hmove => hI.step hmove) h
  refine ⟨accepted_in_order hpool, hdelivers, fun hframes => ?_⟩
  -- the solver's results are accepted ones, in order
  have hsub : s.solved.Sublist (s.pool.accepted.map Prod.snd) := by
    rw [← hdelivers]
    refine List.Sublist.trans ?_ (List.sublist_append_left _ _)
    refine List.Sublist.trans ?_ hinorder
    rw [List.append_assoc]
    exact List.sublist_append_left _ _
  have hsolved : (s.solved.map (·.timestamp)).Pairwise (· ≤ ·) := by
    have haccepted := accepted_timestamps hpool hframes
    refine haccepted.sublist ?_
    have hmap := hsub.map (·.timestamp)
    rw [List.map_map] at hmap
    exact hmap
  refine ⟨hsolved, fun h0 h1 h2 rest hrecords => ?_⟩
  have hsorted := hsolved.sublist hhistory.sublist
  rw [hrecords] at hsorted
  have hle : h1.ts ≤ h2.ts :=
    (List.pairwise_cons.mp (List.pairwise_cons.mp hsorted).2).1 h2.ts List.mem_cons_self
  exact ⟨UInt64.toNat_sub_of_le _ _ hle, hle⟩

end Runs

/-! ## Two workers -/

/-- Before the first frame, with the library on a still ship. -/
def newPipeline (W : ℕ) : State ℚ sixDofCapacity W :=
  initial (newPool W) (LockFreeRingQueue.new solveCapacity noResult)

def pipelineSystem (W : ℕ) : LTS (State ℚ sixDofCapacity W) (Action ℚ W) :=
  system stillPcl stillLibm sixDofCapacity W

theorem newPipeline_init (W : ℕ) : (pipelineSystem W).init (newPipeline W) :=
  ⟨newPool W, _, newPool_init W, LockFreeRingQueue.contents_new noResult, rfl⟩

/-- The dispatcher dequeues a frame and queues its task. -/
def dispatch (timestamp : UInt64) : List (Action ℚ 2) :=
  [.pool (.dispatcher none), .pool (.dispatcher (some (frameA timestamp))),
    .pool (.dispatcher none)]

/-- Worker `i` takes `n` steps. -/
def work (i : Fin 2) (n : ℕ) : List (Action ℚ 2) := List.replicate n (.pool (.worker i 0))

/-- The results reach the solver. -/
def output (n : ℕ) : List (Action ℚ 2) :=
  List.replicate (2 * n) (.outputLoop 1 noResult) ++
    List.replicate n (.solveWorkerLoop noResult 0)

/-- The second worker takes its frame while the first one is busy, and waits for it. -/
def orderlySchedule : List (Action ℚ 2) :=
  dispatch 1 ++ work firstWorker 5 ++ dispatch 2 ++ work firstWorker 1 ++ dispatch 3 ++
    work secondWorker 1 ++ work firstWorker 4 ++ work secondWorker 4 ++ output 3

def orderlyEnd : State ℚ sixDofCapacity 2 :=
  ((pipelineSystem 2).exec (newPipeline 2) orderlySchedule).get (by decide +kernel)

theorem results_in_order_orderlyEnd :
    orderlyEnd.pos_history_.map (·.ts) = [1, 2, 3] ∧
    (orderlyEnd.solved.map (·.timestamp)).Pairwise (· ≤ ·) := by
  have hinit : (pipelineSystem 2).ReachableWith OldestFirst (newPipeline 2) :=
    .init (newPipeline_init 2)
  have hreach : (pipelineSystem 2).ReachableWith OldestFirst orderlyEnd :=
    hinit.exec (Option.some_get _).symm
      (show (pipelineSystem 2).Meets OldestFirst (newPipeline 2) orderlySchedule by
        decide +kernel)
  exact ⟨by decide +kernel, ((results_in_order hreach).2.2 (by decide +kernel)).1⟩

/-- The second worker overtakes the first one on the way to `base_mtx_`. -/
def overtakingSchedule : List (Action ℚ 2) :=
  dispatch 1 ++ work firstWorker 5 ++ dispatch 2 ++ work firstWorker 1 ++ dispatch 3 ++
    work secondWorker 5 ++ work firstWorker 4 ++ output 3

def overtakenEnd : State ℚ sixDofCapacity 2 :=
  ((pipelineSystem 2).exec (newPipeline 2) overtakingSchedule).get (by decide +kernel)

/-- The frames are sorted by time, their results are not, and the difference between the two
newest records of the history wraps. -/
theorem results_overtake :
    (pipelineSystem 2).Reachable overtakenEnd ∧
    overtakenEnd.pool.dequeued.map (·.timestamp) = [1, 2, 3] ∧
    overtakenEnd.pool.accepted.map Prod.fst = [0, 2, 1] ∧
    overtakenEnd.pos_history_.map (·.ts) = [1, 3, 2] ∧
    ((2 : UInt64) - 3).toNat = 2 ^ 64 - 1 := by
  refine ⟨LTS.reachable_of_exec (newPipeline_init 2) (Option.some_get _).symm, ?_, ?_, ?_, ?_⟩
  all_goals decide +kernel

end ResultPipeline
end ShipMotion
