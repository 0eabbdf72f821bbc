import ShipMotion.SixDofCalculator.ShutdownTheorems
import ShipMotion.SixDofCalculator.SleepingWorkers

/-!
# No wakeup is lost

Every run with sleeping workers is a run of the pool, so what holds of its runs holds here. And the
workers sleep only while they have nothing to do: a queued task finds a worker that can move, and
when `stop` has called `notify_all` nobody sleeps any more, so that it returns as in
`WorkerPool.stopVariant`.
-/

namespace ShipMotion
namespace SixDofCalculator
namespace SleepingWorkers

open Utils WorkerPool

variable {K : Type} [Field K] {C : Capacity} {W : ℕ}

/-! ## What a step can do -/

section NotifyOne

variable {asleep awake : Fin W → Bool} {woken : Option (Fin W)}

/-- `notify_one` puts nobody to sleep. -/
theorem notifyOne_of_asleep (h : notifyOne asleep woken = some awake) {j : Fin W}
    (hj : awake j = true) : asleep j = true := by
  cases woken with
  | none =>
    rw [notifyOne] at h
    split_ifs at h with hall
    exact Option.some.inj h ▸ hj
  | some i =>
    rw [notifyOne] at h
    split_ifs at h with hi
    rw [← Option.some.inj h, Function.update_apply] at hj
    split_ifs at hj
    exact hj

/-- It wakes one of those asleep, or nobody is. -/
theorem notifyOne_wakes (h : notifyOne asleep woken = some awake) :
    (∃ i, asleep i = true ∧ awake i = false) ∨ ∀ i, awake i = false := by
  cases woken with
  | none =>
    rw [notifyOne] at h
    split_ifs at h with hall
    exact .inr (Option.some.inj h ▸ hall)
  | some i =>
    rw [notifyOne] at h
    split_ifs at h with hi
    refine .inl ⟨i, hi, ?_⟩
    rw [← Option.some.inj h, Function.update_self]

theorem notifyOne_none (h : ∀ i, asleep i = false) : notifyOne asleep none = some asleep := by
  rw [notifyOne, if_pos h]

end NotifyOne

variable [LinearOrder K] [FloorRing K] {pcl : Pcl K} {m : Libm K} {s t : State K C W}

/-- The transitions: those of the pool, with what they do to the sleepers, and those of `wait`. -/
inductive Moves (pcl : Pcl K) (m : Libm K) (s : State K C W) : Action K W → State K C W → Prop where
  | push {answer woken task pool awake} : s.pool.dispatcher = .push task →
      WorkerPool.dispatcherStep s.pool answer = some pool →
      notifyOne s.asleep woken = some awake →
      Moves pcl m s (.dispatcher answer woken) { s with pool, asleep := awake }
  | dispatcher {answer woken pool} : (∀ task, s.pool.dispatcher ≠ .push task) →
      WorkerPool.dispatcherStep s.pool answer = some pool →
      Moves pcl m s (.dispatcher answer woken) { s with pool }
  | worker {i now pool} : s.asleep i = false →
      WorkerPool.workerStep pcl m s.pool i now = some pool →
      Moves pcl m s (.worker i now) { s with pool }
  | block {i} : s.asleep i = false → s.pool.workers i = .wait → s.pool.pool_running_ = true →
      s.pool.tasks_ = [] →
      Moves pcl m s (.block i) { s with asleep := Function.update s.asleep i true }
  | wakeUp {i} : s.asleep i = true →
      Moves pcl m s (.wakeUp i) { s with asleep := Function.update s.asleep i false }
  | notifyAll : s.notifying = true →
      Moves pcl m s .stop { s with asleep := fun _ => false, notifying := false }
  | stop {pool} : s.notifying = false → WorkerPool.stopStep s.pool = some pool →
      Moves pcl m s .stop { s with pool, notifying := s.pool.stopper = .closePool }
  | consume {r} : Moves pcl m s (.consume r) { s with pool := s.pool.consume r }

theorem moves_of_step {a : Action K W} (h : step pcl m s a = some t) : Moves pcl m s a t := by
  cases a with
  | dispatcher answer woken =>
    show Moves pcl m s _ _
    have hstep : dispatcherStep s answer woken = some t := h
    unfold dispatcherStep at hstep
    split at hstep
    · rename_i task hpc
      obtain ⟨pool, hpool, hrest⟩ := Option.bind_eq_some_iff.mp hstep
      obtain ⟨awake, hawake, rfl⟩ := Option.map_eq_some_iff.mp hrest
      exact .push hpc hpool hawake
    · rename_i hpc
      obtain ⟨pool, hpool, rfl⟩ := Option.map_eq_some_iff.mp hstep
      exact .dispatcher hpc hpool
  | worker i now =>
    rw [step] at h
    split_ifs at h with hi
    obtain ⟨pool, hpool, rfl⟩ := Option.map_eq_some_iff.mp h
    exact .worker (Bool.eq_false_iff.mpr hi) hpool
  | block i =>
    rw [step] at h
    split_ifs at h with hi
    rw [Bool.and_eq_true, Bool.not_eq_true'] at hi
    obtain ⟨hawake, hwaits⟩ := hi
    unfold mustWait at hwaits
    split at hwaits
    · rename_i hpc
      rw [Bool.and_eq_true, List.isEmpty_iff] at hwaits
      exact Option.some.inj h ▸ .block hawake hpc hwaits.1 hwaits.2
    · cases hwaits
  | wakeUp i =>
    rw [step] at h
    split_ifs at h with hi
    exact Option.some.inj h ▸ .wakeUp hi
  | stop =>
    have hstep : stopStep s = some t := h
    unfold stopStep at hstep
    split_ifs at hstep with hnotifying
    · exact Option.some.inj hstep ▸ .notifyAll hnotifying
    · obtain ⟨pool, hpool, rfl⟩ := Option.map_eq_some_iff.mp hstep
      exact .stop (Bool.eq_false_iff.mpr hnotifying) hpool
  | consume r => exact Option.some.inj h ▸ .consume

/-! ## A run of the pool -/

/-- A step moves the pool, or leaves it alone. -/
theorem Moves.pool {a : Action K W} (h : Moves pcl m s a t) :
    t.pool = s.pool ∨ ∃ b, WorkerPool.step pcl m s.pool b = some t.pool := by
  cases h with
  | @push answer woken task pool awake hpc hpool hawake => exact .inr ⟨.dispatcher answer, hpool⟩
  | @dispatcher answer woken pool hpc hpool => exact .inr ⟨.dispatcher answer, hpool⟩
  | @worker i now pool hi hpool => exact .inr ⟨.worker i now, hpool⟩
  | stop hnotifying hpool => exact .inr ⟨.stop, hpool⟩
  | @consume r => exact .inr ⟨.consume r, rfl⟩
  | block | wakeUp | notifyAll => exact .inl rfl

theorem pool_reachable (h : (system pcl m C W).Reachable s) :
    (WorkerPool.system pcl m C W).Reachable s.pool := by
  refine LTS.ReachableWith.simulate ?_ (fun s a t _ hstep => ?_) h
  · intro s hinit
    exact hinit.1
  rcases (moves_of_step hstep).pool with heq | ⟨b, hb⟩
  · exact .inl heq
  · exact .inr ⟨b, trivial, hb⟩

/-! ## Who sleeps -/

/-- A worker that has not returned and does not sleep. -/
def Awake (s : State K C W) (i : Fin W) : Prop :=
  s.asleep i = false ∧ (s.pool.workers i).hasReturned = false

/-- Sleepers are in `wait`; queued tasks find a worker awake; and once `notify_all` has been called
nobody sleeps. -/
structure Sleepers (s : State K C W) : Prop where
  waiting : ∀ i, s.asleep i = true → s.pool.workers i = .wait
  served : s.pool.tasks_ ≠ [] → (∃ i, Awake s i) ∨ ∀ i, (s.pool.workers i).hasReturned = true
  notified : s.pool.stopper.closed = true → s.notifying = false → ∀ i, s.asleep i = false
  notifying : s.notifying = true → s.pool.stopper = .joinWorkers 0

omit [LinearOrder K] [FloorRing K] in
/-- A step of the pool without new tasks keeps the sleepers if it moves only workers that are awake. -/
theorem Sleepers.of_pool (h : Sleepers s) {pool : Pool K C W}
    (hworkers : ∀ i, s.asleep i = true → pool.workers i = s.pool.workers i)
    (hstopper : pool.stopper = s.pool.stopper)
    (hserved : pool.tasks_ ≠ [] → (∃ i, s.asleep i = false ∧ (pool.workers i).hasReturned = false) ∨
      ∀ i, (pool.workers i).hasReturned = true) :
    Sleepers { s with pool } where
  waiting i hi := (hworkers i hi).trans (h.waiting i hi)
  served := hserved
  notified hclosed hnotifying := h.notified (hstopper ▸ hclosed) hnotifying
  notifying hnotifying := hstopper.trans (h.notifying hnotifying)

/-- Worker `i`, who is awake, moves; it goes on, or there are no tasks. -/
theorem Sleepers.worker (h : Sleepers s) {i : Fin W} {now : ℤ} {pool : Pool K C W}
    (hi : s.asleep i = false) (hmove : WorkerPool.Moves pcl m s.pool (.worker i now) pool) :
    Sleepers { s with pool } := by
  have hother : ∀ pc, ∀ j, s.asleep j = true →
      Function.update s.pool.workers i pc j = s.pool.workers j := by
    intro pc j hj
    refine Function.update_of_ne ?_ _ _
    rintro rfl
    rw [hi] at hj
    cases hj
  have hgoesOn : ∀ pc : WorkerPc K, pc.hasReturned = false →
      ∃ j, s.asleep j = false ∧ (Function.update s.pool.workers i pc j).hasReturned = false :=
    fun pc hpc => ⟨i, hi, by rw [Function.update_self, hpc]⟩
  cases hmove with
  | leave hpc htasks _ => exact h.of_pool (hother _) rfl fun hne => absurd htasks hne
  | take | readClock | lockBase | compute | retry | finish =>
    exact h.of_pool (hother _) rfl fun _ => .inl (hgoesOn _ rfl)

omit [LinearOrder K] [FloorRing K] in
/-- A push wakes a sleeper, or everybody is awake. -/
theorem Sleepers.push (h : Sleepers s) {task : WorkerPool.Task K} {woken : Option (Fin W)}
    {awake : Fin W → Bool} (hawake : notifyOne s.asleep woken = some awake) :
    Sleepers { s with pool := s.pool.pushTask task, asleep := awake } where
  waiting i hi := by
    rw [pushTask_workers]
    exact h.waiting i (notifyOne_of_asleep hawake hi)
  served _ := by
    rw [pushTask_workers]
    rcases notifyOne_wakes hawake with ⟨i, hi, hwoken⟩ | hall
    · -- the one that `notify_one` wakes is in `wait`
      refine .inl ⟨i, hwoken, ?_⟩
      show ((s.pool.pushTask task).workers i).hasReturned = false
      rw [pushTask_workers, h.waiting i hi]
      rfl
    · by_cases hreturned : ∀ i, (s.pool.workers i).hasReturned = true
      · exact .inr hreturned
      · obtain ⟨i, hi⟩ := not_forall.mp hreturned
        refine .inl ⟨i, hall i, ?_⟩
        show ((s.pool.pushTask task).workers i).hasReturned = false
        rw [pushTask_workers]
        exact Bool.eq_false_iff.mpr hi
  notified hclosed hnotifying i := by
    rw [pushTask_stopper] at hclosed
    have hall := h.notified hclosed hnotifying
    by_contra hne
    have hi := notifyOne_of_asleep hawake (Bool.not_eq_false _ ▸ hne)
    rw [hall i] at hi
    cases hi
  notifying hnotifying := by
    rw [pushTask_stopper]
    exact h.notifying hnotifying

theorem Sleepers.step {a : Action K W} (h : Sleepers s) (hstopping : Stopping s.pool)
    (hmove : Moves pcl m s a t) : Sleepers t := by
  cases hmove with
  | @push answer woken task pool awake hpc hpool hawake =>
    unfold WorkerPool.dispatcherStep at hpool
    rw [hpc] at hpool
    exact Option.some.inj hpool ▸ h.push hawake
  | @dispatcher answer woken pool hpc hpool =>
    have hmoves : WorkerPool.Moves pcl m s.pool (.dispatcher answer) pool :=
      WorkerPool.moves_dispatcher hpool
    cases hmoves with
    | push hpush => exact absurd hpush (hpc _)
    | _ => exact ⟨h.waiting, h.served, h.notified, h.notifying⟩
  | worker hi hpool => exact h.worker hi (WorkerPool.moves_worker hpool)
  | @block i hi hpc hrunning htasks =>
    refine ⟨fun j hj => ?_, fun hne => absurd htasks hne, fun hclosed _ => ?_, h.notifying⟩
    · by_cases hij : j = i
      · rw [hij]
        exact hpc
      · have hold : s.asleep j = true := (Function.update_of_ne hij _ _).symm.trans hj
        exact h.waiting j hold
    · rw [hstopping.closed hclosed] at hrunning
      cases hrunning
  | @wakeUp i hi =>
    have hless : ∀ j, Function.update s.asleep i false j = true → s.asleep j = true := by
      intro j hj
      rw [Function.update_apply] at hj
      split_ifs at hj
      exact hj
    have hkeeps : ∀ j, s.asleep j = false → Function.update s.asleep i false j = false := by
      intro j hj
      rw [Function.update_apply]
      split_ifs
      · rfl
      · exact hj
    refine ⟨fun j hj => h.waiting j (hless j hj), fun hne => ?_,
      fun hclosed hnotifying j => hkeeps j (h.notified hclosed hnotifying j), h.notifying⟩
    rcases h.served hne with ⟨j, hj, hreturned⟩ | hreturned
    · exact .inl ⟨j, hkeeps j hj, hreturned⟩
    · exact .inr hreturned
  | notifyAll hnotifying =>
    refine ⟨(fun _ hi => by cases hi), fun hne => ?_, fun _ _ _ => rfl, (fun hno => by cases hno)⟩
    rcases h.served hne with ⟨j, hj, hreturned⟩ | hreturned
    · exact .inl ⟨j, rfl, hreturned⟩
    · exact .inr hreturned
  | @stop pool hnotifying hpool =>
    have hmoves : WorkerPool.Moves pcl m s.pool .stop pool := WorkerPool.moves_stop hpool
    cases hmoves with
    | clearRunning hpc =>
      rw [hpc]
      exact ⟨h.waiting, h.served, (by rintro ⟨⟩), (by rintro ⟨⟩)⟩
    | closePool hpc =>
      rw [hpc]
      exact ⟨h.waiting, h.served, (fun _ hno => by cases hno), fun _ => rfl⟩
    | joinWorker _ hpc _ | joinedWorkers _ hpc | joinDispatcher hpc _ =>
      have hall := h.notified (by rw [hpc]; rfl) hnotifying
      rw [hpc]
      exact ⟨h.waiting, h.served, fun _ _ => hall, (by rintro ⟨⟩)⟩
  | consume => exact ⟨h.waiting, h.served, h.notified, h.notifying⟩

theorem sleepers_of_reachable (h : (system pcl m C W).Reachable s) : Sleepers s := by
  induction h with
  | init hinit =>
    obtain ⟨⟨calculator, rq_sixdof_, -, hpool⟩, hasleep, hnotifying⟩ := hinit
    refine ⟨fun i hi => ?_, fun hne => ?_, fun _ _ => hasleep, fun hno => ?_⟩
    · rw [hasleep i] at hi
      cases hi
    · rw [hpool] at hne
      exact absurd rfl hne
    · rw [hnotifying] at hno
      cases hno
  | step hs _ hstep ih =>
    exact ih.step (stopping_of_reachable (pool_reachable hs)) (moves_of_step hstep)

/-- **No lost wakeup.** In every run, when a task is queued, a worker that does not sleep can move,
or all workers have returned. -/
theorem no_lost_wakeup (h : (system pcl m C W).Reachable s) (htasks : s.pool.tasks_ ≠ []) :
    (∃ i now t, step pcl m s (.worker i now) = some t) ∨
    ∀ i, (s.pool.workers i).hasReturned = true := by
  have hsleepers := sleepers_of_reachable h
  rcases hsleepers.served htasks with ⟨i, hi, hreturned⟩ | hreturned
  · obtain ⟨j, pool, hj, hpool⟩ := workerStep_enabled pcl m
      (stopping_of_reachable (pool_reachable h)) (.inr htasks) hreturned 0
    have hawake : s.asleep j = false := by
      rcases hj with rfl | ⟨task, now_tp, hcompute⟩
      · exact hi
      · by_contra hne
        -- a sleeper is in `wait`
        have hwait := hsleepers.waiting j (Bool.not_eq_false _ ▸ hne)
        rw [hcompute] at hwait
        cases hwait
    refine .inl ⟨j, 0, { s with pool }, ?_⟩
    rw [step, hawake, hpool]
    rfl
  · exact .inr hreturned

/-! ## A call of `stop` -/

/-- The steps that a call of `stop` waits for. -/
def awaited (s : State K C W) : Action K W → Bool
  | .stop => true
  | .dispatcher _ _ | .worker _ _ => s.pool.stopper.cleared
  | .block _ | .wakeUp _ | .consume _ => false

/-- What is left of these, with `notify_all`. -/
def State.left (s : State K C W) : ℕ :=
  s.pool.left + (s.notifying || !s.pool.stopper.closed).toNat

/-- The steps that `stop` does not take itself leave its own ones as they are. -/
theorem left_of_other {b : WorkerPool.Action K W} {pool : Pool K C W} {asleep : Fin W → Bool}
    (hmove : WorkerPool.step pcl m s.pool b = some pool) (hb : b ≠ .stop) :
    ({ s with pool, asleep } : State K C W).left
      = pool.left + (s.notifying || !s.pool.stopper.closed).toNat := by
  rw [State.left, (WorkerPool.moves_of_step hmove).stopper hb]

theorem left_falls (hs : (system pcl m C W).Reachable s) {a : Action K W}
    (hstep : step pcl m s a = some t) (ha : awaited s a = true) : t.left < s.left := by
  have hpool := pool_reachable hs
  cases moves_of_step hstep with
  | @push answer woken task pool awake hpc hdispatch hawake =>
    have hmove : WorkerPool.step pcl m s.pool (.dispatcher answer) = some pool := hdispatch
    rw [left_of_other hmove (by rintro ⟨⟩)]
    exact Nat.add_lt_add_right (WorkerPool.left_falls hpool hmove ha) _
  | @dispatcher answer woken pool hpc hdispatch =>
    have hmove : WorkerPool.step pcl m s.pool (.dispatcher answer) = some pool := hdispatch
    rw [left_of_other hmove (by rintro ⟨⟩)]
    exact Nat.add_lt_add_right (WorkerPool.left_falls hpool hmove ha) _
  | @worker i now pool hi hworker =>
    have hmove : WorkerPool.step pcl m s.pool (.worker i now) = some pool := hworker
    rw [left_of_other hmove (by rintro ⟨⟩)]
    exact Nat.add_lt_add_right (WorkerPool.left_falls hpool hmove ha) _
  | notifyAll hnotifying =>
    unfold State.left
    rw [hnotifying, (sleepers_of_reachable hs).notifying hnotifying]
    exact Nat.lt_succ_self _
  | @stop pool hnotifying hstop =>
    have hmove : WorkerPool.step pcl m s.pool .stop = some pool := hstop
    -- `notify_all` has been counted from the start on
    have hnotify : (decide (s.pool.stopper = .closePool) || !pool.stopper.closed).toNat
        ≤ (s.notifying || !s.pool.stopper.closed).toNat := by
      cases WorkerPool.moves_of_step hmove with
      | clearRunning hpc | closePool hpc | joinWorker _ hpc _ | joinedWorkers _ hpc
      | joinDispatcher hpc _ =>
        rw [hpc, hnotifying]
        exact Nat.le_refl _
    exact Nat.add_lt_add_of_lt_of_le (WorkerPool.left_falls hpool hmove rfl) hnotify
  | block | wakeUp | consume => cases ha

theorem left_not_rises {a : Action K W} (hstep : step pcl m s a = some t)
    (ha : awaited s a = false) : t.left ≤ s.left := by
  cases moves_of_step hstep with
  | @push answer woken task pool awake hpc hdispatch hawake =>
    have hmove : WorkerPool.step pcl m s.pool (.dispatcher answer) = some pool := hdispatch
    rw [left_of_other hmove (by rintro ⟨⟩)]
    exact Nat.add_le_add_right (WorkerPool.left_not_rises hmove ha) _
  | @dispatcher answer woken pool hpc hdispatch =>
    have hmove : WorkerPool.step pcl m s.pool (.dispatcher answer) = some pool := hdispatch
    rw [left_of_other hmove (by rintro ⟨⟩)]
    exact Nat.add_le_add_right (WorkerPool.left_not_rises hmove ha) _
  | @worker i now pool hi hworker =>
    have hmove : WorkerPool.step pcl m s.pool (.worker i now) = some pool := hworker
    rw [left_of_other hmove (by rintro ⟨⟩)]
    exact Nat.add_le_add_right (WorkerPool.left_not_rises hmove ha) _
  | notifyAll | stop => cases ha
  | block | wakeUp => exact Nat.le_refl _
  | @consume r =>
    have hmove : WorkerPool.step pcl m s.pool (.consume r) = some (s.pool.consume r) := rfl
    rw [left_of_other hmove (by rintro ⟨⟩)]
    exact Nat.add_le_add_right (WorkerPool.left_not_rises hmove rfl) _

/-- As long as `stop` has not returned, it can move, or a thread it waits for that does not sleep. -/
theorem enabled (hs : (system pcl m C W).Reachable s) (hstop : s.pool.stopper ≠ .returned) :
    ∃ a t, awaited s a = true ∧ step pcl m s a = some t := by
  cases hnotifying : s.notifying with
  | true => exact ⟨.stop, _, rfl, by rw [step, stopStep, if_pos hnotifying]⟩
  | false =>
    have hmoves : ∀ pool, WorkerPool.stopStep s.pool = some pool →
        ∃ a t, awaited s a = true ∧ step pcl m s a = some t := by
      intro pool hpool
      refine ⟨.stop, { s with pool, notifying := s.pool.stopper = .closePool }, rfl, ?_⟩
      rw [step, stopStep, hnotifying, if_neg Bool.false_ne_true, hpool]
      rfl
    cases hclosed : s.pool.stopper.closed with
    | false =>
      cases hpc : s.pool.stopper with
      | clearRunning | closePool => exact hmoves _ (by rw [WorkerPool.stopStep, hpc])
      | _ =>
        rw [hpc] at hclosed
        cases hclosed
    | true =>
      have hcleared : s.pool.stopper.cleared = true := by
        cases hpc : s.pool.stopper with
        | clearRunning =>
          rw [hpc] at hclosed
          cases hclosed
        | _ => rfl
      -- after `notify_all` nobody sleeps
      have hall := (sleepers_of_reachable hs).notified hclosed hnotifying
      rcases stop_enabled pcl m (stopping_of_reachable (pool_reachable hs)) hstop with
        ⟨pool, hpool⟩ | ⟨i, pool, hpool⟩ | hdispatcher
      · exact hmoves pool hpool
      · refine ⟨.worker i 0, { s with pool }, hcleared, ?_⟩
        rw [step, hall i, hpool]
        rfl
      · obtain ⟨pool, hpool⟩ := hdispatcher none
        cases hpc : s.pool.dispatcher with
        | push task =>
          refine ⟨.dispatcher none none, { s with pool }, hcleared, ?_⟩
          rw [step, dispatcherStep, hpc]
          dsimp only
          rw [hpool, notifyOne_none hall]
          rfl
        | _ =>
          refine ⟨.dispatcher none none, { s with pool }, hcleared, ?_⟩
          rw [step, dispatcherStep, hpc]
          dsimp only
          rw [hpool]
          rfl

theorem stopVariant (pcl : Pcl K) (m : Libm K) (C : Capacity) (W : ℕ) :
    (system pcl m C W).Variant (system pcl m C W).Reachable (fun s => s.pool.stopper = .returned)
      awaited State.left where
  keeps _ _ _ hs hstep := hs.step trivial hstep
  falls _ _ _ hs hstep ha := left_falls hs hstep ha
  not_rises _ _ _ _ hstep ha := left_not_rises hstep ha
  enabled _ hs hstop := enabled hs hstop

/-- **`stop` wakes everybody and returns.** From any reachable state, with any workers asleep, a call
of `stop` can be brought to its end; in whatever order the threads move and whoever is woken, it has
returned after a bounded number of its steps and of steps of the workers and the dispatcher. -/
theorem stop_wakes_and_returns (h : (system pcl m C W).Reachable s) :
    (∃ ls t, (system pcl m C W).exec s ls = some t ∧ t.pool.stopper = .returned ∧
      ls.length ≤ stopSteps W + 2) ∧
    ∀ ls t, (system pcl m C W).exec s ls = some t →
      (system pcl m C W).awaitedSteps awaited s ls ≤ stopSteps W + 2 ∧
      ((system pcl m C W).awaitedSteps awaited s ls = stopSteps W + 2 →
        t.pool.stopper = .returned) := by
  have hvariant := stopVariant pcl m C W
  have hleft : s.left ≤ stopSteps W + 1 + 1 :=
    Nat.add_le_add (WorkerPool.left_le (pool_reachable h)) (Bool.toNat_le _)
  refine ⟨?_, fun ls t hrun => ⟨?_, fun hmany => ?_⟩⟩
  · obtain ⟨ls, t, hrun, ht, hlength⟩ := hvariant.exists_schedule h
    exact ⟨ls, t, hrun, ht, hlength.trans hleft⟩
  · exact ((Nat.le_add_right _ _).trans (hvariant.awaitedSteps_le h hrun)).trans hleft
  · exact hvariant.done_of_awaitedSteps h hrun (hmany ▸ hleft)

/-! ## Two workers asleep -/

def sleepingSystem : LTS (State ℚ sixDofCapacity 2) (Action ℚ 2) :=
  system stillPcl stillLibm sixDofCapacity 2

def newState : State ℚ sixDofCapacity 2 :=
  { pool := newPool 2, asleep := fun _ => false, notifying := false }

theorem newState_init : sleepingSystem.init newState := ⟨newPool_init 2, fun _ => rfl, rfl⟩

/-- Both workers block; then a task is queued, and the second worker is woken. -/
def wakeSecond : List (Action ℚ 2) :=
  [.block firstWorker, .block secondWorker, .dispatcher none none,
    .dispatcher (some (frameA 1)) none, .dispatcher none (some secondWorker)]

def secondAwake : State ℚ sixDofCapacity 2 :=
  (sleepingSystem.exec newState wakeSecond).get (by decide +kernel)

theorem secondAwake_reachable : sleepingSystem.Reachable secondAwake :=
  LTS.reachable_of_exec newState_init (Option.some_get _).symm

theorem no_lost_wakeup_secondAwake :
    secondAwake.asleep firstWorker = true ∧
    ((∃ i now t, sleepingSystem.step secondAwake (.worker i now) = some t) ∨
      ∀ i, (secondAwake.pool.workers i).hasReturned = true) := by
  have htasks : secondAwake.pool.tasks_.length = 1 := by decide +kernel
  refine ⟨by decide +kernel, no_lost_wakeup secondAwake_reachable fun hnil => ?_⟩
  rw [hnil] at htasks
  cases htasks

theorem stop_wakes_and_returns_secondAwake :
    ∃ ls t, sleepingSystem.exec secondAwake ls = some t ∧ t.pool.stopper = .returned ∧
      ls.length ≤ 341 :=
  (stop_wakes_and_returns secondAwake_reachable).1

end SleepingWorkers
end SixDofCalculator
end ShipMotion
