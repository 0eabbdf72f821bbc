import Mathlib.Algebra.BigOperators.Fin
import ShipMotion.SixDofCalculator.WorkerPoolTheorems
import ShipMotion.Utils.Progress

/-!
# The calculator comes to its end

Once `stop` has cleared `is_running_`, the dispatcher queues at most one more task, and every step
of a worker brings it closer to the end of its task or of its thread: `base_mtx_` is held only for
one computation, and a full `rq_sixdof_` is tried six times at most. So the steps of all threads
together are bounded, and as long as `stop` has not returned one of them can be taken.
-/

namespace ShipMotion
namespace SixDofCalculator
namespace WorkerPool

open Utils

variable {K : Type} [Field K] {C : Capacity} {W : ℕ}

/-! ## The steps that are left -/

/-- The steps of a task, from the one that takes it. -/
def taskSteps : ℕ := MAX_RETRY_QUEUE + 5

/-- The steps of the dispatcher, with those of the task it may still queue. -/
def DispatcherPc.toGo : DispatcherPc K → ℕ
  | .returned => 0
  | .testRunning => 1
  | .push _ => taskSteps + 2
  | .dequeue => taskSteps + 3

/-- The steps of a worker, without further tasks. -/
def WorkerPc.toGo : WorkerPc K → ℕ
  | .returned => 0
  | .wait => 1
  | .enqueue _ _ retry => MAX_RETRY_QUEUE - retry + 2
  | .compute _ _ => MAX_RETRY_QUEUE + 3
  | .lockBase _ _ => MAX_RETRY_QUEUE + 4
  | .readClock _ => MAX_RETRY_QUEUE + 5

/-- The steps of `stop`. -/
def StopPc.toGo (W : ℕ) : StopPc → ℕ
  | .returned => 0
  | .joinDispatcher => 1
  | .joinWorkers k => W - k + 2
  | .closePool => W + 3
  | .clearRunning => W + 4

/-- The steps of all threads. -/
def Pool.toGo (s : Pool K C W) : ℕ :=
  s.dispatcher.toGo + s.tasks_.length * taskSteps + (∑ i, (s.workers i).toGo) + s.stopper.toGo W

/-- `stop` has cleared `is_running_`. -/
def StopPc.cleared : StopPc → Bool
  | .clearRunning => false
  | _ => true

/-- `stop` has cleared `pool_running_`. -/
def StopPc.closed : StopPc → Bool
  | .clearRunning | .closePool => false
  | _ => true

omit [Field K] in
/-- One worker moves on. -/
theorem sum_toGo_update (workers : Fin W → WorkerPc K) (i : Fin W) (pc : WorkerPc K) :
    (∑ j, (Function.update workers i pc j).toGo) + (workers i).toGo
      = (∑ j, (workers j).toGo) + pc.toGo := by
  have hmove : (fun j => (Function.update workers i pc j).toGo)
      = Function.update (fun j => (workers j).toGo) i pc.toGo := by
    funext j
    rw [Function.update_apply, Function.update_apply]
    split_ifs <;> rfl
  rw [hmove, Finset.sum_update_of_mem (Finset.mem_univ i),
    ← Finset.add_sum_erase Finset.univ (fun j => (workers j).toGo) (Finset.mem_univ i),
    Finset.sdiff_singleton_eq_erase]
  omega

/-- A worker's step that makes it shorter. -/
theorem sum_toGo_lt {s : Pool K C W} {i : Fin W} {pc p : WorkerPc K} (hpc : s.workers i = pc)
    (hlt : p.toGo < pc.toGo) :
    ∑ j, (Function.update s.workers i p j).toGo < ∑ j, (s.workers j).toGo := by
  have hsum := sum_toGo_update s.workers i p
  rw [hpc] at hsum
  omega

section Runs

variable [LinearOrder K] [FloorRing K] {pcl : Pcl K} {m : Libm K} {s t : Pool K C W}

/-- The flags, as far as `stop` has come, and the holder of `base_mtx_`. -/
structure Stopping (s : Pool K C W) : Prop where
  cleared : s.stopper.cleared = true → s.is_running_ = false
  closed : s.stopper.closed = true → s.pool_running_ = false
  held : ∀ i, s.base_mtx_ = some i → ∃ task now_tp, s.workers i = .compute task now_tp

omit [LinearOrder K] [FloorRing K] in
/-- A worker that does not hold `base_mtx_` moves on. -/
theorem Stopping.held_update (h : Stopping s) {i : Fin W} {pc pc' : WorkerPc K}
    (hpc : s.workers i = pc) (hnot : ∀ task now_tp, pc ≠ .compute task now_tp) :
    ∀ j, s.base_mtx_ = some j →
      ∃ task now_tp, Function.update s.workers i pc' j = .compute task now_tp := by
  intro j hj
  obtain ⟨task, now_tp, hcompute⟩ := h.held j hj
  have hne : j ≠ i := by
    rintro rfl
    exact hnot task now_tp (hpc.symm.trans hcompute)
  exact ⟨task, now_tp, by rw [Function.update_of_ne hne, hcompute]⟩

theorem Stopping.step {a : Action K W} (h : Stopping s) (hmove : Moves pcl m s a t) :
    Stopping t := by
  cases hmove with
  | push hpc =>
    unfold Pool.pushTask
    split_ifs <;> exact ⟨h.cleared, h.closed, h.held⟩
  | leave hpc _ _ | take hpc _ | readClock hpc | retry hpc _ _ | finish hpc =>
    exact ⟨h.cleared, h.closed, h.held_update hpc fun _ _ hne => by cases hne⟩
  | @lockBase i now task now_tp hpc hmtx =>
    refine ⟨h.cleared, h.closed, fun j hj => ⟨task, now_tp, ?_⟩⟩
    obtain rfl := Option.some.inj hj
    exact Function.update_self ..
  | compute hpc hres => exact ⟨h.cleared, h.closed, fun _ hj => by cases hj⟩
  | clearRunning hpc => exact ⟨fun _ => rfl, (by rintro ⟨⟩), h.held⟩
  | closePool hpc => exact ⟨fun _ => h.cleared (by rw [hpc]; rfl), fun _ => rfl, h.held⟩
  | joinWorker _ hpc _ | joinedWorkers _ hpc | joinDispatcher hpc _ =>
    exact ⟨fun _ => h.cleared (by rw [hpc]; rfl), fun _ => h.closed (by rw [hpc]; rfl), h.held⟩
  | _ => exact ⟨h.cleared, h.closed, h.held⟩

theorem stopping_of_reachable {ok : Pool K C W → Action K W → Prop}
    (h : (system pcl m C W).ReachableWith ok s) : Stopping s :=
  invariant_of_moves
    (fun _ _ _ => ⟨(by rintro ⟨⟩), (by rintro ⟨⟩), fun _ hi => by cases hi⟩)
    (fun _ _ _ hI _ hmove => hI.step hmove) h

omit [LinearOrder K] [FloorRing K] in
/-- The number of tasks grows by one at most. -/
theorem length_pushTask (s : Pool K C W) (task : Task K) :
    (s.pushTask task).tasks_.length ≤ s.tasks_.length + 1 := by
  unfold Pool.pushTask Pool.popFront
  split_ifs
  · rw [List.length_append, List.length_drop, List.length_singleton]
    omega
  · exact Nat.le_of_eq List.length_append

/-- Without `is_running_`, every step but that of the consumer makes what is left less. -/
theorem Moves.toGo_lt {a : Action K W} (h : Moves pcl m s a t) (hcleared : s.is_running_ = false)
    (ha : ∀ r, a ≠ .consume r) : t.toGo < s.toGo := by
  unfold Pool.toGo
  cases h with
  | testRunning hpc =>
    rw [hcleared, if_neg Bool.false_ne_true, hpc]
    simp only [DispatcherPc.toGo]
    omega
  | noFrame hpc | frame hpc =>
    rw [hpc]
    simp only [DispatcherPc.toGo]
    omega
  | @push answer task hpc =>
    -- the steps of the task have been counted as the dispatcher's
    have htasks := Nat.mul_le_mul_right taskSteps (length_pushTask s task)
    have hdispatcher : (s.pushTask task).dispatcher.toGo = 1 := by
      unfold Pool.pushTask
      split_ifs <;> rfl
    rw [hpc, pushTask_workers, pushTask_stopper, hdispatcher]
    simp only [DispatcherPc.toGo, Nat.add_mul, Nat.one_mul] at htasks ⊢
    omega
  | leave hpc _ _ =>
    have hlt := sum_toGo_lt (p := .returned) hpc Nat.zero_lt_one
    exact Nat.add_lt_add_right (Nat.add_lt_add_left hlt _) _
  | @readClock i now task hpc =>
    have hlt := sum_toGo_lt (p := .lockBase task now) hpc (Nat.lt_succ_self _)
    exact Nat.add_lt_add_right (Nat.add_lt_add_left hlt _) _
  | @lockBase i now task now_tp hpc hmtx =>
    have hlt := sum_toGo_lt (p := .compute task now_tp) hpc (Nat.lt_succ_self _)
    exact Nat.add_lt_add_right (Nat.add_lt_add_left hlt _) _
  | @compute i now task now_tp calculator res logged hpc hres =>
    have hlt := sum_toGo_lt (p := .enqueue task.seq res 0) hpc (Nat.lt_succ_self _)
    exact Nat.add_lt_add_right (Nat.add_lt_add_left hlt _) _
  | @take i now task rest hpc htasks =>
    have hsum := sum_toGo_update s.workers i (.readClock task)
    rw [hpc] at hsum
    simp only [htasks, List.length_cons, Nat.add_mul, WorkerPc.toGo, taskSteps] at hsum ⊢
    omega
  | @retry i now seq res retry hpc hrefused hretry =>
    have hlt := sum_toGo_lt (s := s) (p := .enqueue seq res (retry + 1)) hpc
      (by simp only [WorkerPc.toGo]; omega)
    exact Nat.add_lt_add_right (Nat.add_lt_add_left hlt _) _
  | @finish i now seq res retry logged hpc =>
    have hlt := sum_toGo_lt (s := s) (p := .wait) hpc (by simp only [WorkerPc.toGo]; omega)
    exact Nat.add_lt_add_right (Nat.add_lt_add_left hlt _) _
  | clearRunning hpc | closePool hpc | joinedWorkers _ hpc =>
    rw [hpc]
    simp only [StopPc.toGo]
    omega
  | joinWorker hk hpc _ =>
    rw [hpc]
    simp only [StopPc.toGo]
    omega
  | joinDispatcher hpc _ =>
    rw [hpc]
    exact Nat.lt_succ_self _
  | consume => exact absurd rfl (ha _)

omit [LinearOrder K] [FloorRing K] in
theorem dispatcherStep_enabled (h : s.dispatcher.hasReturned = false)
    (answer : Option (FusedPointCloud K)) : ∃ t, dispatcherStep s answer = some t := by
  unfold dispatcherStep
  cases hpc : s.dispatcher with
  | testRunning => exact ⟨_, rfl⟩
  | dequeue => cases answer <;> exact ⟨_, rfl⟩
  | push task => exact ⟨_, rfl⟩
  | returned =>
    rw [hpc] at h
    cases h

variable (pcl m) in
/-- A worker with something to do can move, or the one that holds `base_mtx_` can. -/
theorem workerStep_enabled (h : Stopping s) (hdo : s.pool_running_ = false ∨ s.tasks_ ≠ [])
    {i : Fin W} (hi : (s.workers i).hasReturned = false) (now : ℤ) :
    ∃ j t, (j = i ∨ ∃ task now_tp, s.workers j = .compute task now_tp) ∧
      workerStep pcl m s j now = some t := by
  cases hpc : s.workers i with
  | wait =>
    refine ⟨i, ?_⟩
    unfold workerStep Pool.takeTask
    rw [hpc]
    dsimp only
    cases htasks : s.tasks_ with
    | nil =>
      have hclosed : s.pool_running_ = false := hdo.resolve_right fun hne => hne htasks
      exact ⟨_, .inl rfl, by rw [hclosed]; rfl⟩
    | cons task rest => exact ⟨_, .inl rfl, rfl⟩
  | lockBase task now_tp =>
    cases hmtx : s.base_mtx_ with
    | none => exact ⟨i, _, .inl rfl, by unfold workerStep; rw [hpc]; dsimp only; rw [hmtx]⟩
    | some j =>
      obtain ⟨task', now_tp', hcompute⟩ := h.held j hmtx
      exact ⟨j, _, .inr ⟨task', now_tp', hcompute⟩, by unfold workerStep; rw [hcompute]⟩
  | readClock task | compute task now_tp | enqueue seq res retry =>
    exact ⟨i, _, .inl rfl, by unfold workerStep; rw [hpc]⟩
  | returned =>
    rw [hpc] at hi
    cases hi

variable (pcl m) in
/-- As long as `stop` has not returned, it can move, or a thread it waits for. -/
theorem stop_enabled (h : Stopping s) (hstop : s.stopper ≠ .returned) :
    (∃ t, stopStep s = some t) ∨ (∃ i t, workerStep pcl m s i 0 = some t) ∨
    ∀ answer, ∃ t, dispatcherStep s answer = some t := by
  cases hpc : s.stopper with
  | clearRunning | closePool => exact .inl ⟨_, by unfold stopStep; rw [hpc]⟩
  | joinWorkers k =>
    by_cases hk : k < W
    · cases hreturned : (s.workers ⟨k, hk⟩).hasReturned with
      | true =>
        left
        unfold stopStep
        rw [hpc]
        dsimp only
        rw [dif_pos hk]
        cases hworker : s.workers ⟨k, hk⟩ with
        | returned => exact ⟨_, rfl⟩
        | _ =>
          rw [hworker] at hreturned
          cases hreturned
      | false =>
        have hclosed : s.pool_running_ = false := h.closed (by rw [hpc]; rfl)
        obtain ⟨i, t, -, ht⟩ := workerStep_enabled pcl m h (.inl hclosed) hreturned 0
        exact .inr (.inl ⟨i, t, ht⟩)
    · exact .inl ⟨_, by unfold stopStep; rw [hpc]; dsimp only; rw [dif_neg hk]⟩
  | joinDispatcher =>
    cases hreturned : s.dispatcher.hasReturned with
    | true =>
      left
      unfold stopStep
      rw [hpc]
      dsimp only
      cases hdispatcher : s.dispatcher with
      | returned => exact ⟨_, rfl⟩
      | _ =>
        rw [hdispatcher] at hreturned
        cases hreturned
    | false => exact .inr (.inr (dispatcherStep_enabled hreturned))
  | returned => exact absurd hpc hstop

omit [Field K] [LinearOrder K] [FloorRing K] in
theorem DispatcherPc.toGo_le (pc : DispatcherPc K) : pc.toGo ≤ taskSteps + 3 := by
  cases pc <;> simp only [DispatcherPc.toGo] <;> omega

omit [Field K] [LinearOrder K] [FloorRing K] in
theorem WorkerPc.toGo_le (pc : WorkerPc K) : pc.toGo ≤ taskSteps := by
  cases pc <;> simp only [WorkerPc.toGo, taskSteps] <;> omega

theorem StopPc.toGo_le (W : ℕ) (pc : StopPc) : pc.toGo W ≤ W + 4 := by
  cases pc <;> simp only [StopPc.toGo] <;> omega

/-- The most steps that can be left: one more task than `tasks_` can hold, and one for each worker. -/
def stopSteps (W : ℕ) : ℕ := (MAX_QUEUE_SIZE + 1 + W) * taskSteps + W + 7

theorem toGo_le {ok : Pool K C W → Action K W → Prop}
    (h : (system pcl m C W).ReachableWith ok s) : s.toGo ≤ stopSteps W := by
  have htasks : s.tasks_.length ≤ MAX_QUEUE_SIZE := by
    have hbounded := (ledger_inv h).bounded
    rw [ledger, List.length_map] at hbounded
    exact hbounded
  have hproduct := Nat.mul_le_mul_right taskSteps htasks
  have hworkers : ∑ i, (s.workers i).toGo ≤ W * taskSteps := by
    calc ∑ i, (s.workers i).toGo ≤ ∑ _i : Fin W, taskSteps :=
          Finset.sum_le_sum fun i _ => (s.workers i).toGo_le
      _ = W * taskSteps := by rw [Finset.sum_const, Finset.card_fin, smul_eq_mul]
  have hdispatcher := s.dispatcher.toGo_le
  have hstop := s.stopper.toGo_le W
  unfold Pool.toGo stopSteps
  simp only [Nat.add_mul, Nat.one_mul]
  omega

/-! ## A call of `stop` -/

/-- The steps that a call of `stop` waits for: its own and, after the first one, those of the
threads. -/
def awaited (s : Pool K C W) : Action K W → Bool
  | .stop => true
  | .dispatcher _ | .worker _ _ => s.stopper.cleared
  | .consume _ => false

/-- What is left of these. -/
def Pool.left (s : Pool K C W) : ℕ := if s.stopper.cleared then s.toGo else stopSteps W + 1

/-- Only `stop` moves on in its own code. -/
theorem Moves.stopper {a : Action K W} (h : Moves pcl m s a t) (ha : a ≠ .stop) :
    t.stopper = s.stopper := by
  cases h with
  | push hpc => exact pushTask_stopper ..
  | clearRunning | closePool | joinWorker | joinedWorkers | joinDispatcher => exact absurd rfl ha
  | _ => rfl

/-- A step of `stop` leaves `is_running_` cleared. -/
theorem Moves.cleared (h : Moves pcl m s .stop t) : t.stopper.cleared = true := by
  cases h <;> rfl

theorem Moves.consumed {r : SixDofResult K} (h : Moves pcl m s (.consume r) t) :
    t.toGo = s.toGo := by
  cases h
  rfl

theorem left_le {ok : Pool K C W → Action K W → Prop}
    (h : (system pcl m C W).ReachableWith ok s) : s.left ≤ stopSteps W + 1 := by
  unfold Pool.left
  split_ifs
  · exact Nat.le_succ_of_le (toGo_le h)
  · exact Nat.le_refl _

/-- Every step that is waited for leaves fewer of them. -/
theorem left_falls (hs : (system pcl m C W).Reachable s) {a : Action K W}
    (hstep : step pcl m s a = some t) (ha : awaited s a = true) : t.left < s.left := by
  have hmove := moves_of_step hstep
  have ht : t.toGo ≤ stopSteps W := toGo_le (hs.step trivial hstep)
  unfold Pool.left
  cases hcleared : s.stopper.cleared with
  | true =>
    have hrunning := (stopping_of_reachable hs).cleared hcleared
    have hlt : t.toGo < s.toGo := by
      refine hmove.toGo_lt hrunning ?_
      rintro r rfl
      cases ha
    have hstays : t.stopper.cleared = true := by
      by_cases hstop : a = .stop
      · rw [hstop] at hmove
        exact hmove.cleared
      · rw [hmove.stopper hstop, hcleared]
    rw [hstays]
    exact hlt
  | false =>
    cases a with
    | stop =>
      rw [hmove.cleared]
      exact Nat.lt_succ_of_le ht
    | dispatcher answer | worker i now => exact absurd (ha.symm.trans hcleared) (by rintro ⟨⟩)
    | consume r => cases ha

theorem left_not_rises {a : Action K W} (hstep : step pcl m s a = some t)
    (ha : awaited s a = false) : t.left ≤ s.left := by
  have hmove := moves_of_step hstep
  have hstopper : t.stopper = s.stopper := by
    refine hmove.stopper ?_
    rintro rfl
    cases ha
  unfold Pool.left
  rw [hstopper]
  cases a with
  | stop => cases ha
  | dispatcher answer | worker i now =>
    have hcleared : s.stopper.cleared = false := ha
    rw [hcleared]
    exact Nat.le_refl _
  | consume r => rw [hmove.consumed]

theorem stopVariant (pcl : Pcl K) (m : Libm K) (C : Capacity) (W : ℕ) :
    (system pcl m C W).Variant (system pcl m C W).Reachable (fun s => s.stopper = .returned)
      awaited Pool.left where
  keeps _ _ _ hs hstep := hs.step trivial hstep
  falls _ _ _ hs hstep ha := left_falls hs hstep ha
  not_rises _ _ _ _ hstep ha := left_not_rises hstep ha
  enabled s hs hstop := by
    by_cases hbefore : s.stopper = .clearRunning
    · exact ⟨.stop, _, rfl, by unfold system step stopStep; dsimp only; rw [hbefore]⟩
    · have hcleared : s.stopper.cleared = true := by
        cases hpc : s.stopper with
        | clearRunning => exact absurd hpc hbefore
        | _ => rfl
      rcases stop_enabled pcl m (stopping_of_reachable hs) hstop with
        ⟨t, ht⟩ | ⟨i, t, ht⟩ | hdispatcher
      · exact ⟨.stop, t, rfl, ht⟩
      · exact ⟨.worker i 0, t, hcleared, ht⟩
      · obtain ⟨t, ht⟩ := hdispatcher none
        exact ⟨.dispatcher none, t, hcleared, ht⟩

end Runs
end WorkerPool
end SixDofCalculator
end ShipMotion
