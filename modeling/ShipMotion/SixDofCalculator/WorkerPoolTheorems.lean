import ShipMotion.SixDofCalculator.WorkerPool
import ShipMotion.SixDofCalculatorTheorems
import ShipMotion.Utils.TaskLedger

/-!
# Task accounting and the drain at shutdown

The pool is a worker pool in the sense of `Utils.TaskLedger`: each of its steps is an event of
the ledger or none, so every frame is in one place. What `stop` leaves behind depends on the
dispatcher: it is joined last, and a task that it queues after the last worker has returned
stays in `tasks_`. In runs without such a push nothing is left.
-/

namespace ShipMotion
namespace SixDofCalculator
namespace WorkerPool

open Utils

variable {K : Type} [Field K] {C : Capacity} {W : ℕ}

/-! ## What a step can do -/

/-- The frame a worker is busy with. -/
def WorkerPc.holds : WorkerPc K → Option ℕ
  | .readClock task | .lockBase task _ | .compute task _ => some task.seq
  | .enqueue seq _ _ => some seq
  | .wait | .returned => none

/-- The result a worker is about to offer to `rq_sixdof_`, with the number of its frame. -/
def WorkerPc.offering : WorkerPc K → Option (ℕ × SixDofResult K)
  | .enqueue seq res _ => some (seq, res)
  | _ => none

def WorkerPc.hasReturned : WorkerPc K → Bool
  | .returned => true
  | _ => false

/-- The frame for which the dispatcher is about to queue a task. -/
def DispatcherPc.hand : DispatcherPc K → Option ℕ
  | .push task => some task.seq
  | _ => none

def DispatcherPc.hasReturned : DispatcherPc K → Bool
  | .returned => true
  | _ => false

theorem setWorker_workers (s : Pool K C W) (i j : Fin W) (pc : WorkerPc K) :
    (s.setWorker i pc).workers j = if j = i then pc else s.workers j :=
  Function.update_apply ..

section Moves

variable [LinearOrder K] [FloorRing K]

/-- The transitions of the pool, one constructor for each. -/
inductive Moves (pcl : Pcl K) (m : Libm K) (s : Pool K C W) : Action K W → Pool K C W → Prop where
  | testRunning {answer} : s.dispatcher = .testRunning →
      Moves pcl m s (.dispatcher answer)
        { s with dispatcher := if s.is_running_ then .dequeue else .returned }
  | noFrame : s.dispatcher = .dequeue →
      Moves pcl m s (.dispatcher none) { s with dispatcher := .testRunning }
  | frame {c} : s.dispatcher = .dequeue →
      Moves pcl m s (.dispatcher (some c))
        { s with
          dispatcher := .push ⟨s.dequeued.length, c⟩
          dequeued := s.dequeued ++ [c] }
  | push {answer task} : s.dispatcher = .push task →
      Moves pcl m s (.dispatcher answer) (s.pushTask task)
  | leave {i now} : s.workers i = .wait → s.tasks_ = [] → s.pool_running_ = false →
      Moves pcl m s (.worker i now) (s.setWorker i .returned)
  | take {i now task rest} : s.workers i = .wait → s.tasks_ = task :: rest →
      Moves pcl m s (.worker i now)
        { s with
          tasks_ := rest
          workers := Function.update s.workers i (.readClock task)
          started := s.started ++ [(i, task.seq)] }
  | readClock {i now task} : s.workers i = .readClock task →
      Moves pcl m s (.worker i now) (s.setWorker i (.lockBase task now))
  | lockBase {i now task now_tp} : s.workers i = .lockBase task now_tp → s.base_mtx_ = none →
      Moves pcl m s (.worker i now)
        ({ s with base_mtx_ := some i }.setWorker i (.compute task now_tp))
  | compute {i now task now_tp calculator res logged} : s.workers i = .compute task now_tp →
      calculateSixDof pcl m s.calculator task.c now_tp = (calculator, res, logged) →
      Moves pcl m s (.worker i now)
        ({ s with calculator, base_mtx_ := none, notices := s.notices ++ logged }.setWorker i
          (.enqueue task.seq res 0))
  | retry {i now seq res retry} : s.workers i = .enqueue seq res retry →
      (s.rq_sixdof_.enqueue res).2 = false → retry < MAX_RETRY_QUEUE →
      Moves pcl m s (.worker i now)
        ((s.offer seq res).setWorker i (.enqueue seq res (retry + 1)))
  | finish {i now seq res retry logged} : s.workers i = .enqueue seq res retry →
      Moves pcl m s (.worker i now) ((s.offer seq res).finishTask i seq logged)
  | clearRunning : s.stopper = .clearRunning →
      Moves pcl m s .stop { s with is_running_ := false, stopper := .closePool }
  | closePool : s.stopper = .closePool →
      Moves pcl m s .stop { s with pool_running_ := false, stopper := .joinWorkers 0 }
  | joinWorker {k} (h : k < W) : s.stopper = .joinWorkers k → s.workers ⟨k, h⟩ = .returned →
      Moves pcl m s .stop { s with stopper := .joinWorkers (k + 1) }
  | joinedWorkers {k} : W ≤ k → s.stopper = .joinWorkers k →
      Moves pcl m s .stop { s with stopper := .joinDispatcher }
  | joinDispatcher : s.stopper = .joinDispatcher → s.dispatcher = .returned →
      Moves pcl m s .stop { s with stopper := .returned }
  | consume {r} : Moves pcl m s (.consume r) (s.consume r)

variable {pcl : Pcl K} {m : Libm K} {s t : Pool K C W}

theorem moves_dispatcher {answer : Option (FusedPointCloud K)}
    (h : dispatcherStep s answer = some t) : Moves pcl m s (.dispatcher answer) t := by
  unfold dispatcherStep at h
  cases hpc : s.dispatcher with
  | testRunning =>
    rw [hpc] at h
    cases h
    exact .testRunning hpc
  | dequeue =>
    rw [hpc] at h
    cases answer with
    | none =>
      cases h
      exact .noFrame hpc
    | some c =>
      cases h
      exact .frame hpc
  | push task =>
    rw [hpc] at h
    cases h
    exact .push hpc
  | returned =>
    rw [hpc] at h
    cases h

theorem moves_takeTask {i : Fin W} {now : ℤ} (hpc : s.workers i = .wait)
    (h : s.takeTask i = some t) : Moves pcl m s (.worker i now) t := by
  unfold Pool.takeTask at h
  cases htasks : s.tasks_ with
  | nil =>
    cases hrunning : s.pool_running_ with
    | true =>
      rw [htasks, hrunning] at h
      cases h
    | false =>
      rw [htasks, hrunning] at h
      cases h
      exact .leave hpc htasks hrunning
  | cons task rest =>
    rw [htasks] at h
    cases h
    exact .take hpc htasks

theorem moves_tryEnqueue {i : Fin W} {now : ℤ} {seq : ℕ} {res : SixDofResult K} {retry : ℕ}
    (hpc : s.workers i = .enqueue seq res retry) :
    Moves pcl m s (.worker i now) (s.tryEnqueue i seq res retry) := by
  rw [Pool.tryEnqueue]
  by_cases hagain : (!(s.rq_sixdof_.enqueue res).2 && decide (retry < MAX_RETRY_QUEUE)) = true
  · rw [if_pos hagain]
    rw [Bool.and_eq_true, Bool.not_eq_true', decide_eq_true_eq] at hagain
    exact .retry hpc hagain.1 hagain.2
  · rw [if_neg hagain]
    exact .finish hpc

theorem moves_worker {i : Fin W} {now : ℤ} (h : workerStep pcl m s i now = some t) :
    Moves pcl m s (.worker i now) t := by
  unfold workerStep at h
  cases hpc : s.workers i with
  | wait =>
    rw [hpc] at h
    exact moves_takeTask hpc h
  | readClock task =>
    rw [hpc] at h
    cases h
    exact .readClock hpc
  | lockBase task now_tp =>
    rw [hpc] at h
    cases hmtx : s.base_mtx_ with
    | none =>
      simp only [hmtx] at h
      cases h
      exact .lockBase hpc hmtx
    | some j =>
      simp only [hmtx] at h
      cases h
  | compute task now_tp =>
    rw [hpc] at h
    cases h
    exact .compute hpc rfl
  | enqueue seq res retry =>
    rw [hpc] at h
    cases h
    exact moves_tryEnqueue hpc
  | returned =>
    rw [hpc] at h
    cases h

theorem moves_stop (h : stopStep s = some t) : Moves pcl m s .stop t := by
  unfold stopStep at h
  cases hpc : s.stopper with
  | clearRunning =>
    rw [hpc] at h
    cases h
    exact .clearRunning hpc
  | closePool =>
    rw [hpc] at h
    cases h
    exact .closePool hpc
  | joinWorkers k =>
    simp only [hpc] at h
    -- the loop over `workers_` ends after the last one
    by_cases hk : k < W
    · rw [dif_pos hk] at h
      cases hworker : s.workers ⟨k, hk⟩ with
      | returned =>
        simp only [hworker] at h
        cases h
        exact .joinWorker hk hpc hworker
      | _ =>
        simp only [hworker] at h
        cases h
    · rw [dif_neg hk] at h
      cases h
      exact .joinedWorkers (Nat.le_of_not_lt hk) hpc
  | joinDispatcher =>
    rw [hpc] at h
    cases hdispatcher : s.dispatcher with
    | returned =>
      simp only [hdispatcher] at h
      cases h
      rw [← hdispatcher]
      exact .joinDispatcher hpc hdispatcher
    | _ =>
      simp only [hdispatcher] at h
      cases h
  | returned =>
    rw [hpc] at h
    cases h

/-- Every step is one of the transitions. -/
theorem moves_of_step {a : Action K W} (h : step pcl m s a = some t) : Moves pcl m s a t := by
  cases a with
  | dispatcher answer => exact moves_dispatcher h
  | worker i now => exact moves_worker h
  | stop => exact moves_stop h
  | consume r =>
    cases h
    exact .consume

/-- What holds of a new pool and is kept by every transition holds in every run. -/
theorem invariant_of_moves {ok : Pool K C W → Action K W → Prop} {I : Pool K C W → Prop}
    (hinit : ∀ calculator rq_sixdof_, rq_sixdof_.contents = [] →
      I (initial calculator rq_sixdof_))
    (hstep : ∀ s a t, I s → ok s a → Moves pcl m s a t → I t)
    (h : (system pcl m C W).ReachableWith ok s) : I s := by
  refine LTS.ReachableWith.invariant ?_ ?_ h
  · intro s hs
    obtain ⟨calculator, rq_sixdof_, hempty, rfl⟩ := hs
    exact hinit calculator rq_sixdof_ hempty
  · intro s a t hI hok ht
    exact hstep s a t hI hok (moves_of_step ht)

/-! ## The pool as a ledger of tasks -/

/-- Where the frames are. -/
def ledger (s : Pool K C W) : TaskLedger (Fin W) :=
  { issued := s.dequeued.length
    hand := s.dispatcher.hand
    waiting := s.tasks_.map (·.seq)
    popped := s.popped
    holds := fun i => (s.workers i).holds
    started := s.started
    executed := s.executed
    accepted := s.accepted.map Prod.fst }

omit [LinearOrder K] [FloorRing K] in
/-- A worker that moves on with the same frame does nothing to the ledger. -/
theorem holds_update {i : Fin W} {pc : WorkerPc K} (h : pc.holds = (s.workers i).holds) :
    (fun j => (Function.update s.workers i pc j).holds) = fun j => (s.workers j).holds := by
  funext j
  rw [Function.update_apply]
  by_cases hj : j = i
  · rw [if_pos hj, h, hj]
  · rw [if_neg hj]

omit [LinearOrder K] [FloorRing K] in
/-- A worker takes a frame or gives it up. -/
theorem holds_update_eq (i : Fin W) (pc : WorkerPc K) :
    (fun j => (Function.update s.workers i pc j).holds)
      = Function.update (fun j => (s.workers j).holds) i pc.holds := by
  funext j
  rw [Function.update_apply, Function.update_apply]
  by_cases hj : j = i
  · rw [if_pos hj, if_pos hj]
  · rw [if_neg hj, if_neg hj]

omit [LinearOrder K] [FloorRing K] in
theorem ledger_pushTask {task : Task K} :
    ledger (s.pushTask task) = (ledger s).pushJob MAX_QUEUE_SIZE task.seq := by
  unfold Pool.pushTask TaskLedger.pushJob TaskLedger.excess
  by_cases hfull : MAX_QUEUE_SIZE ≤ s.tasks_.length
  · have hledger : MAX_QUEUE_SIZE ≤ (ledger s).waiting.length := by
      rw [ledger, List.length_map]
      exact hfull
    rw [if_pos hfull, if_pos hledger]
    simp only [ledger, Pool.popFront, DispatcherPc.hand, List.map_append, List.map_drop,
      List.map_take, List.map_cons, List.map_nil]
  · have hledger : ¬ MAX_QUEUE_SIZE ≤ (ledger s).waiting.length := by
      rw [ledger, List.length_map]
      exact hfull
    rw [if_neg hfull, if_neg hledger]
    simp only [ledger, DispatcherPc.hand, List.map_append, List.drop_zero, List.take_zero,
      List.append_nil, List.map_cons, List.map_nil]

/-- Results are accepted oldest first: when a result goes into `rq_sixdof_`, every other worker
is idle or busy with a later frame. -/
def OldestFirst (s : Pool K C W) : Action K W → Prop
  | .worker i _ =>
    ∀ offer ∈ (s.workers i).offering, (s.rq_sixdof_.enqueue offer.2).2 = true →
      ∀ j, j ≠ i → ∀ n ∈ (s.workers j).holds, offer.1 < n
  | .dispatcher _ | .stop | .consume _ => True

instance (s : Pool K C W) : ∀ a, Decidable (OldestFirst s a)
  | .worker i _ => inferInstanceAs (Decidable (∀ offer ∈ (s.workers i).offering, _))
  | .dispatcher _ | .stop | .consume _ => isTrue trivial

/-- Every step of the pool is an event of the ledger, or none. -/
theorem ledger_step {a : Action K W} (h : step pcl m s a = some t) :
    ledger t = ledger s ∨ ∃ e, (OldestFirst s a → (ledger s).OldestFirst e) ∧
      TaskLedger.step MAX_QUEUE_SIZE (ledger s) e = some (ledger t) := by
  cases moves_of_step h with
  | testRunning hpc =>
    left
    have hhand : (if s.is_running_ then DispatcherPc.dequeue else .returned : DispatcherPc K).hand
        = s.dispatcher.hand := by
      rw [hpc]
      cases s.is_running_ <;> rfl
    simp only [ledger, hhand]
  | noFrame hpc =>
    left
    simp only [ledger, hpc]
    rfl
  | frame hpc =>
    right
    refine ⟨.issue, fun _ => trivial, ?_⟩
    have hhand : (ledger s).hand = none := by
      show s.dispatcher.hand = none
      rw [hpc]
      rfl
    rw [TaskLedger.step_issue hhand]
    simp only [ledger, TaskLedger.issueJob, DispatcherPc.hand, List.length_append,
      List.length_singleton]
  | push hpc =>
    right
    refine ⟨.push, fun _ => trivial, ?_⟩
    rw [ledger_pushTask]
    apply TaskLedger.step_push
    show s.dispatcher.hand = _
    rw [hpc]
    rfl
  | leave hpc _ _ | readClock hpc | lockBase hpc _ | compute hpc _ =>
    left
    rw [ledger, Pool.setWorker, holds_update (by rw [hpc]; rfl)]
    rfl
  | take hpc htasks =>
    right
    rename_i i now task rest
    refine ⟨.take i, fun _ => trivial, ?_⟩
    have hidle : (ledger s).holds i = none := by
      show (s.workers i).holds = none
      rw [hpc]
      rfl
    have hwaiting : (ledger s).waiting = task.seq :: rest.map (·.seq) := by
      show s.tasks_.map (·.seq) = _
      rw [htasks, List.map_cons]
    rw [TaskLedger.step_take hidle hwaiting]
    simp only [ledger, TaskLedger.takeJob, holds_update_eq]
    rfl
  | retry hpc hrefused hretry =>
    -- a refused offer leaves the history of accepted results as it is
    left
    rw [ledger, Pool.setWorker, Pool.offer, holds_update (by rw [hpc]; rfl), hrefused]
    rfl
  -- the last attempt, accepted or not, ends the task
  | finish hpc =>
    right
    rename_i i now seq res retry logged
    have hholds : (ledger s).holds i = some seq := by
      show (s.workers i).holds = some seq
      rw [hpc]
      rfl
    refine ⟨.finish i (s.rq_sixdof_.enqueue res).2, ?_, ?_⟩
    · intro hok
      cases hanswer : (s.rq_sixdof_.enqueue res).2 with
      | false => trivial
      | true =>
        intro n hn j hj k hk
        rw [hholds, Option.mem_some_iff] at hn
        rw [← hn]
        refine hok (seq, res) ?_ hanswer j hj k hk
        rw [hpc]
        rfl
    · rw [TaskLedger.step_finish hholds]
      simp only [ledger, TaskLedger.finishJob, Pool.finishTask, Pool.offer, holds_update_eq,
        Option.some.injEq]
      cases (s.rq_sixdof_.enqueue res).2 with
      | false => rfl
      | true => simp only [if_true, List.map_append, List.map_cons, List.map_nil]; rfl
  | clearRunning | closePool | joinWorker | joinedWorkers | joinDispatcher | consume =>
    exact Or.inl rfl

/-- A run of the pool is one of the ledger, under what its condition says of the events. -/
theorem ledger_reachable {ok : Pool K C W → Action K W → Prop}
    {ok' : TaskLedger (Fin W) → TaskLedger.Event (Fin W) → Prop}
    (hok : ∀ s a e, ok s a → (OldestFirst s a → (ledger s).OldestFirst e) → ok' (ledger s) e)
    (h : (system pcl m C W).ReachableWith ok s) :
    (TaskLedger.system (Fin W) MAX_QUEUE_SIZE).ReachableWith ok' (ledger s) := by
  refine LTS.ReachableWith.simulate ?_ ?_ h
  · intro s hinit
    obtain ⟨calculator, rq_sixdof_, -, rfl⟩ := hinit
    rfl
  · intro s a t ha hstep
    rcases ledger_step hstep with heq | ⟨e, hfirst, hevent⟩
    · exact Or.inl heq
    · exact Or.inr ⟨e, hok s a e ha hfirst, hevent⟩

/-- The frames of every run are accounted for. -/
theorem ledger_inv {ok : Pool K C W → Action K W → Prop}
    (h : (system pcl m C W).ReachableWith ok s) :
    TaskLedger.Inv MAX_QUEUE_SIZE (ledger s) := by
  have hrun : (TaskLedger.system (Fin W) MAX_QUEUE_SIZE).ReachableWith (fun _ _ => True)
      (ledger s) := ledger_reachable (fun _ _ _ _ _ => trivial) h
  exact TaskLedger.inv_of_reachable (by decide) hrun

/-! ## What `stop` waits for -/

/-- How many workers `stop` has joined. -/
def joined (W : ℕ) : StopPc → ℕ
  | .clearRunning | .closePool => 0
  | .joinWorkers k => k
  | .joinDispatcher | .returned => W

/-- The threads that `stop` has joined have returned. -/
structure Joined (s : Pool K C W) : Prop where
  workers : ∀ j : Fin W, j.val < joined W s.stopper → (s.workers j).hasReturned = true
  dispatcher : s.stopper = .returned → s.dispatcher.hasReturned = true

omit [LinearOrder K] [FloorRing K] in
theorem pushTask_workers (s : Pool K C W) (task : Task K) :
    (s.pushTask task).workers = s.workers := by
  unfold Pool.pushTask
  split <;> rfl

omit [LinearOrder K] [FloorRing K] in
theorem pushTask_stopper (s : Pool K C W) (task : Task K) :
    (s.pushTask task).stopper = s.stopper := by
  unfold Pool.pushTask
  split <;> rfl

omit [Field K] [LinearOrder K] [FloorRing K] in
theorem hasReturned_update {workers : Fin W → WorkerPc K} {i j : Fin W} {pc : WorkerPc K}
    (hi : (workers i).hasReturned = false) (hj : (workers j).hasReturned = true) :
    (Function.update workers i pc j).hasReturned = true := by
  have hne : j ≠ i := by
    intro heq
    rw [heq, hi] at hj
    cases hj
  rw [Function.update_of_ne hne]
  exact hj

/-- A worker that has returned does not come back. -/
theorem Moves.hasReturned {a : Action K W} (h : Moves pcl m s a t) {j : Fin W}
    (hj : (s.workers j).hasReturned = true) : (t.workers j).hasReturned = true := by
  cases h with
  | push hpc =>
    rw [pushTask_workers]
    exact hj
  | leave hpc _ _ | take hpc _ | readClock hpc | lockBase hpc _ | compute hpc _ | retry hpc _ _
  | finish hpc =>
    refine hasReturned_update ?_ hj
    show (s.workers _).hasReturned = false
    rw [hpc]
    rfl
  | _ => exact hj

theorem Joined.step {a : Action K W} (h : Joined s) (hmove : Moves pcl m s a t) : Joined t := by
  have hworkers : ∀ j : Fin W, j.val < joined W s.stopper → (t.workers j).hasReturned = true :=
    fun j hj => hmove.hasReturned (h.workers j hj)
  cases hmove with
  | testRunning hpc | noFrame hpc | frame hpc =>
    refine ⟨hworkers, fun hstop => ?_⟩
    have hreturned := h.dispatcher hstop
    rw [hpc] at hreturned
    cases hreturned
  | push hpc =>
    refine ⟨by rwa [pushTask_stopper], fun hstop => ?_⟩
    rw [pushTask_stopper] at hstop
    have hreturned := h.dispatcher hstop
    rw [hpc] at hreturned
    cases hreturned
  | clearRunning hpc | closePool hpc =>
    exact ⟨fun j hj => absurd hj (Nat.not_lt_zero _), fun hstop => by cases hstop⟩
  -- the workers joined before, and the one joined now
  | joinWorker hk hpc hworker =>
    refine ⟨fun j hj => ?_, fun hstop => by cases hstop⟩
    rcases Nat.lt_succ_iff_lt_or_eq.mp hj with hlt | heq
    · exact h.workers j (by rw [hpc]; exact hlt)
    · rw [show j = ⟨_, hk⟩ from Fin.ext heq]
      show (s.workers _).hasReturned = true
      rw [hworker]
      rfl
  | joinedWorkers hk hpc =>
    refine ⟨fun j _ => ?_, fun hstop => by cases hstop⟩
    exact h.workers j (by rw [hpc]; exact Nat.lt_of_lt_of_le j.isLt hk)
  | joinDispatcher hpc hdispatcher =>
    refine ⟨fun j hj => h.workers j (by rw [hpc]; exact hj), fun _ => ?_⟩
    show s.dispatcher.hasReturned = true
    rw [hdispatcher]
    rfl
  | _ => exact ⟨hworkers, h.dispatcher⟩

/-! ## The drain -/

/-- Whenever the dispatcher queues a task, some worker has not returned yet. -/
def PushServed (s : Pool K C W) : Action K W → Prop
  | .dispatcher _ => s.dispatcher.hand.isSome = true → ∃ i, (s.workers i).hasReturned = false
  | _ => True

instance (s : Pool K C W) : ∀ a, Decidable (PushServed s a)
  | .dispatcher _ => inferInstanceAs (Decidable (_ → _))
  | .worker _ _ | .stop | .consume _ => isTrue trivial

/-- Workers leave an empty queue behind. -/
def Drained (s : Pool K C W) : Prop :=
  (∀ j, (s.workers j).hasReturned = true) → s.tasks_ = []

omit [LinearOrder K] [FloorRing K] in
/-- After a step of a worker that does not return, not all workers have. -/
theorem drained_of_update {i : Fin W} {pc : WorkerPc K} (hpc : pc.hasReturned = false)
    (hworkers : s.workers = Function.update t.workers i pc) : Drained s := by
  intro hall
  have hi := hall i
  rw [hworkers, Function.update_self, hpc] at hi
  cases hi

theorem Drained.step {a : Action K W} (h : Drained s) (hmove : Moves pcl m s a t)
    (hserved : PushServed s a) : Drained t := by
  cases hmove with
  | push hpc =>
    intro hall
    rw [pushTask_workers] at hall
    -- this is where the condition is needed
    obtain ⟨i, hi⟩ := hserved (by rw [hpc]; rfl)
    rw [hall i] at hi
    cases hi
  | leave hpc htasks hrunning => exact fun _ => htasks
  | take hpc htasks | readClock hpc | lockBase hpc hmtx | compute hpc hres | retry hpc _ _
  | finish hpc => exact drained_of_update (t := s) rfl rfl
  | _ => exact h

/-- A step pops a frame only when `tasks_` is full, and then the oldest that waits. -/
theorem Moves.popped {a : Action K W} (hmove : Moves pcl m s a t)
    (hbound : s.tasks_.length ≤ MAX_QUEUE_SIZE) :
    t.popped = s.popped ∨
      s.tasks_.length = MAX_QUEUE_SIZE ∧
        ∃ oldest rest, s.tasks_ = oldest :: rest ∧ t.popped = s.popped ++ [oldest.seq] := by
  cases hmove with
  | push hpc =>
    by_cases hfull : s.tasks_.length ≥ MAX_QUEUE_SIZE
    · right
      refine ⟨Nat.le_antisymm hbound hfull, ?_⟩
      rw [Pool.pushTask, if_pos hfull]
      cases htasks : s.tasks_ with
      | nil =>
        rw [htasks] at hfull
        exact absurd hfull (show ¬ 0 ≥ MAX_QUEUE_SIZE by decide)
      | cons oldest rest =>
        refine ⟨oldest, rest, rfl, ?_⟩
        simp only [Pool.popFront, htasks, List.take_succ_cons, List.take_zero, List.map_cons,
          List.map_nil]
    · left
      rw [Pool.pushTask, if_neg hfull]
  | _ => exact .inl rfl

/-- **Task accounting.** In every run in which no task is queued after the last worker has
returned: `tasks_` stays in bounds, no frame is started or executed twice, a step pops a frame only
when `tasks_` is full, and then the oldest that waits, so that popped frames are older than all that
wait; and when `stop` has returned, no task is left and every dequeued frame was executed or popped,
exactly once. -/
theorem tasks_accounted (h : (system pcl m C W).ReachableWith PushServed s) :
    s.tasks_.length ≤ MAX_QUEUE_SIZE ∧
    (s.started.map Prod.snd).Nodup ∧ (s.executed.map Prod.snd).Nodup ∧
    (∀ n ∈ s.popped, ∀ task ∈ s.tasks_, n < task.seq) ∧
    (∀ a t, step pcl m s a = some t → t.popped = s.popped ∨
      s.tasks_.length = MAX_QUEUE_SIZE ∧
        ∃ oldest rest, s.tasks_ = oldest :: rest ∧ t.popped = s.popped ++ [oldest.seq]) ∧
    (s.stopper = .returned → s.tasks_ = [] ∧
      (s.executed.map Prod.snd ++ s.popped).Perm (List.range s.dequeued.length)) := by
  have hledger := ledger_inv h
  -- all threads have returned when `stop` has
  have hjoined : Joined s := by
    refine invariant_of_moves ?_ (fun _ _ _ hI _ hmove => hI.step hmove) h
    intro calculator rq_sixdof_ _
    exact ⟨fun j hj => absurd hj (Nat.not_lt_zero _), fun hstop => by cases hstop⟩
  -- and the last worker left an empty queue, which stayed empty
  have hdrained : Drained s :=
    invariant_of_moves (fun _ _ _ _ => rfl) (fun _ _ _ hI hok hmove => hI.step hmove hok) h
  have hbound : s.tasks_.length ≤ MAX_QUEUE_SIZE := by
    rw [← List.length_map (f := fun task : Task K => task.seq)]
    exact hledger.bounded
  refine ⟨hbound, hledger.started_nodup, hledger.executed_once, ?_,
    fun a t hstep => (moves_of_step hstep).popped hbound, fun hstop => ?_⟩
  · intro n hn task htask
    exact hledger.popped_lt hn (List.mem_map_of_mem htask)
  · have hall : ∀ j, (s.workers j).hasReturned = true := by
      intro j
      refine hjoined.workers j ?_
      rw [hstop]
      exact j.isLt
    have htasks : s.tasks_ = [] := hdrained hall
    refine ⟨htasks, hledger.executed_or_popped ?_ ?_ ?_⟩
    · show s.dispatcher.hand = none
      have hreturned := hjoined.dispatcher hstop
      cases hpc : s.dispatcher with
      | returned => rfl
      | _ =>
        rw [hpc] at hreturned
        cases hreturned
    · show s.tasks_.map (·.seq) = []
      rw [htasks, List.map_nil]
    · intro j
      show (s.workers j).holds = none
      have hreturned := hall j
      cases hpc : s.workers j with
      | returned => rfl
      | _ =>
        rw [hpc] at hreturned
        cases hreturned

end Moves

/-! ## Two shutdowns -/

/-- The length of `rq_six_dof` in `main`. -/
def sixDofLength : ℕ := 100

def sixDofCapacity : Capacity := ⟨sixDofLength, by decide, by decide⟩

/-- `SixDofResult` as the ring's buffer initialises it. -/
def noResult : SixDofResult ℚ :=
  { timestamp := 0, tx := 0, ty := 0, tz := 0, rx := 0, ry := 0, rz := 0, confidence := 0 }

def newPool (W : ℕ) : Pool ℚ sixDofCapacity W :=
  initial newCalculator (LockFreeRingQueue.new sixDofCapacity noResult)

def poolSystem (W : ℕ) : LTS (Pool ℚ sixDofCapacity W) (Action ℚ W) :=
  system stillPcl stillLibm sixDofCapacity W

theorem newPool_init (W : ℕ) : (poolSystem W).init (newPool W) :=
  ⟨newCalculator, _, LockFreeRingQueue.contents_new noResult, rfl⟩

/-- A frame of radar A with one point. -/
def frameA (timestamp : UInt64) : FusedPointCloud ℚ := ⟨"", "A", timestamp, [⟨1, 0, 0⟩], 1⟩

def firstWorker : Fin 2 := ⟨0, Nat.two_pos⟩

def secondWorker : Fin 2 := ⟨1, Nat.one_lt_two⟩

/-- One frame is dequeued, queued and computed; then `stop` runs while the dispatcher is at its
loop test. -/
def orderlyShutdown : List (Action ℚ 2) :=
  [.dispatcher none, .dispatcher (some (frameA 1)), .dispatcher none] ++
    List.replicate 5 (.worker firstWorker 0) ++
    [.stop, .dispatcher none, .stop, .worker firstWorker 0, .worker secondWorker 0, .stop, .stop,
      .stop, .stop]

def orderlyEnd : Pool ℚ sixDofCapacity 2 :=
  ((poolSystem 2).exec (newPool 2) orderlyShutdown).get (by decide +kernel)

theorem tasks_accounted_orderlyEnd :
    orderlyEnd.stopper = .returned ∧ orderlyEnd.executed = [(firstWorker, 0)] ∧
      orderlyEnd.tasks_ = [] := by
  have hstop : orderlyEnd.stopper = .returned := by decide +kernel
  have hinit : (poolSystem 2).ReachableWith PushServed (newPool 2) := .init (newPool_init 2)
  have hreach : (poolSystem 2).ReachableWith PushServed orderlyEnd :=
    hinit.exec (Option.some_get _).symm
      (show (poolSystem 2).Meets PushServed (newPool 2) orderlyShutdown by decide +kernel)
  exact ⟨hstop, by decide +kernel, ((tasks_accounted hreach).2.2.2.2.2 hstop).1⟩

/-- The dispatcher passes its loop test before `stop` clears `is_running_`, and dequeues a frame
after the six workers have returned. -/
def lateDispatch : List (Action ℚ 6) :=
  [.dispatcher none, .stop, .stop,
    .worker 0 0, .worker 1 0, .worker 2 0, .worker 3 0, .worker 4 0, .worker 5 0,
    .stop, .stop, .stop, .stop, .stop, .stop, .stop,
    .dispatcher (some (frameA 1)), .dispatcher none, .dispatcher none, .stop]

def lateEnd : Pool ℚ sixDofCapacity 6 :=
  ((poolSystem 6).exec (newPool 6) lateDispatch).get (by decide +kernel)

/-- `stop` has returned, and the task of the frame is still in `tasks_`. -/
theorem task_left_behind :
    (poolSystem 6).Reachable lateEnd ∧ lateEnd.stopper = .returned ∧
    lateEnd.dequeued = [frameA 1] ∧ lateEnd.tasks_.map (·.seq) = [0] ∧
    lateEnd.executed = [] ∧ lateEnd.popped = [] := by
  refine ⟨LTS.reachable_of_exec (newPool_init 6) (Option.some_get _).symm, ?_, ?_, ?_, ?_, ?_⟩
  all_goals decide +kernel

end WorkerPool
end SixDofCalculator
end ShipMotion
