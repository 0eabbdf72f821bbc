import ShipMotion.IndustrialMqttClientTheorems

/-!
# Restarts

`start` joins the old worker while it holds `mqtt_mutex_`, after it has reset `thread_exit_`. A
worker that has not seen `thread_exit_` by then waits for the mutex sooner or later, and the join
never returns. It does return if every `start` finds the old worker on its way out.
-/

namespace ShipMotion
namespace IndustrialMqttClient

open Utils

variable {ι : Type} [DecidableEq ι] {config_ : MqttConfig} {s t : Client ι}

/-- Some continuation lets the worker finish. -/
def CanFinish (config_ : MqttConfig) (s : Client ι) : Prop :=
  ∃ schedule t, (system ι config_).exec s schedule = some t ∧ t.worker = .finished

/-- A thread waits in `mqtt_thread_.join()` for a worker that can never finish. -/
def JoinStuck (config_ : MqttConfig) (s : Client ι) : Prop :=
  (∃ i, s.callers i = .start .join) ∧ ¬ CanFinish config_ s

/-- The positions in `start` behind the reset of `thread_exit_`. -/
def CallerPc.restarting : CallerPc → Bool
  | .start .setRunning | .start .clearAttempts | .start .testJoinable | .start .join
  | .start .spawn => true
  | _ => false

/-- There is no worker, or it does not test `thread_exit_` again. -/
def WorkerPc.leaving : WorkerPc → Bool
  | .notStarted | .exiting | .finished => true
  | _ => false

theorem CallerPc.restarting_inside {pc : CallerPc} (h : pc.restarting = true) :
    pc.role ≠ .outside := by
  cases pc with
  | start pc =>
    cases pc with
    | lock | testRunning | clearExit => cases h
    | _ => exact fun hrole => by cases hrole
  | _ => cases h

/-! ## What the threads do around a restart -/

theorem setCaller_callers (s : Client ι) (i j : ι) (pc : CallerPc) :
    (s.setCaller i pc).callers j = if j = i then pc else s.callers j :=
  Function.update_apply ..

/-- A step of a caller moves no other caller. -/
theorem CallerMoves.other {i j : ι} (h : CallerMoves s j t) (hij : i ≠ j) :
    t.callers i = s.callers i := by
  cases h with
  | start _ hmove => rw [setCaller_callers, if_neg hij, hmove.frame.2.1]
  | stop _ hmove => rw [setCaller_callers, if_neg hij, hmove.frame.2.1]
  | publish _ hmove => rw [setCaller_callers, if_neg hij, hmove.frame.2.1]

/-- A thread that is outside while another one holds the mutex can only find out whether it is
connected. -/
theorem CallerMoves.of_owned {j : ι} (howner : s.mqtt_mutex_ ≠ none)
    (hrole : (s.callers j).role = .outside) (h : CallerMoves s j t) :
    t.worker = s.worker ∧ t.thread_exit_ = s.thread_exit_ := by
  cases h with
  | start hpc hmove =>
    rw [hpc] at hrole
    cases hmove with
    | lock hfree => exact absurd hfree howner
    | _ => cases hrole
  | stop hpc hmove =>
    rw [hpc] at hrole
    cases hmove with
    | lock hfree => exact absurd hfree howner
    | _ => cases hrole
  | publish hpc hmove =>
    rw [hpc] at hrole
    cases hmove with
    | lock hfree => exact absurd hfree howner
    | send => cases hrole
    | notConnected | isConnected => exact ⟨rfl, rfl⟩

/-- A step of the worker that leaves flag and callers alone; it does not get a worker on its way
out back, nor, with the flag reset, one that is not out. -/
structure ExitFrame (s t : Client ι) : Prop where
  exit : t.thread_exit_ = s.thread_exit_
  callers : t.callers = s.callers
  present : t.worker ≠ .notStarted
  leaving : s.worker.leaving = true → t.worker.leaving = true
  looping : s.thread_exit_ = false → s.worker.leaving = false → t.worker.leaving = false

omit [DecidableEq ι] in
theorem ExitFrame.within (hexit : t.thread_exit_ = s.thread_exit_)
    (hcallers : t.callers = s.callers) (hs : s.worker.leaving = false)
    (ht : t.worker.leaving = false) : ExitFrame s t where
  exit := hexit
  callers := hcallers
  present := by
    intro hworker
    rw [hworker] at ht
    cases ht
  leaving := by
    intro hleaving
    rw [hs] at hleaving
    cases hleaving
  looping := fun _ _ => ht

omit [DecidableEq ι] in
/-- A test of `thread_exit_`. -/
theorem ExitFrame.test {pc : WorkerPc} (hs : s.worker.leaving = false)
    (hpc : pc.leaving = false) :
    ExitFrame s (s.setWorker (if s.thread_exit_ then .exiting else pc)) := by
  cases hexit : s.thread_exit_ with
  | false => exact .within rfl rfl hs hpc
  | true =>
    refine ⟨rfl, rfl, fun hworker => (by cases hworker), fun _ => rfl, fun hreset => ?_⟩
    rw [hexit] at hreset
    cases hreset

omit [DecidableEq ι] in
/-- While another thread holds the mutex, the worker does nothing else. -/
theorem WorkerMoves.of_owned {ok : Bool} (howner : s.mqtt_mutex_ ≠ none)
    (hrole : s.worker.role = .outside) (h : WorkerMoves s ok t) : ExitFrame s t := by
  cases h with
  | testExit hpc | testBreak hpc => exact .test (by rw [hpc]; rfl) rfl
  | lockNew _ hfree | lockFail _ hfree | lockRun _ hfree => exact absurd hfree howner
  | created hpc | notCreated hpc | sleepLocked hpc | configure hpc | freeFail hpc
  | freeRun hpc =>
    rw [hpc] at hrole
    cases hrole
  | stop hpc hmove =>
    rw [hpc] at hrole
    cases hmove with
    | lock hfree => exact absurd hfree howner
    | _ => cases hrole
  | exiting hpc =>
    refine ⟨rfl, rfl, fun hworker => (by cases hworker), fun _ => rfl, fun _ hleaving => ?_⟩
    rw [hpc] at hleaving
    cases hleaving
  | connected hpc _ | notConnected hpc | giveUp hpc | reconnect hpc | callConnect hpc | sleep hpc
  | callRun hpc | running hpc | clearConnected hpc =>
    exact .within rfl rfl (by rw [hpc]; rfl) rfl

/-- How a thread gets to a position behind the reset. -/
theorem CallerMoves.restarting {i : ι} (h : CallerMoves s i t)
    (ht : (t.callers i).restarting = true) :
    (s.callers i = .start .clearExit ∧ t.thread_exit_ = false ∧ t.worker = s.worker ∧
      t.callers i ≠ .start .join) ∨
    ((s.callers i).restarting = true ∧ t.thread_exit_ = s.thread_exit_ ∧
      (t.worker = s.worker ∧ (t.callers i = .start .join → s.worker ≠ .notStarted) ∨
        t.worker = .notStarted ∧ t.callers i ≠ .start .join)) := by
  cases h with
  | @stop pc u next hpc hmove =>
    rw [setCaller_callers, if_pos rfl] at ht
    cases next <;> cases ht
  | @publish pc u next hpc hmove =>
    rw [setCaller_callers, if_pos rfl] at ht
    cases next <;> cases ht
  | start hpc hmove =>
    rw [setCaller_callers, if_pos rfl] at ht ⊢
    rw [hpc]
    cases hmove with
    | lock | isRunning | notRunning | spawn => cases ht
    -- the reset itself, or a step behind it
    | clearExit => exact Or.inl ⟨rfl, rfl, rfl, fun hjoin => by cases hjoin⟩
    | setRunning | clearAttempts | notJoinable _ =>
      exact Or.inr ⟨rfl, rfl, Or.inl ⟨rfl, fun hjoin => by cases hjoin⟩⟩
    | joinable hworker => exact Or.inr ⟨rfl, rfl, Or.inl ⟨rfl, fun _ => hworker⟩⟩
    | join => exact Or.inr ⟨rfl, rfl, Or.inr ⟨rfl, fun hjoin => by cases hjoin⟩⟩

/-! ## When a restart gets stuck -/

/-- Behind the reset the flag stays reset, and a join waits for a worker that is there. -/
structure ResetInv (s : Client ι) : Prop where
  exit : ∀ i, (s.callers i).restarting = true → s.thread_exit_ = false
  present : ∀ i, s.callers i = .start .join → s.worker ≠ .notStarted

omit [DecidableEq ι] in
/-- A thread behind the reset holds the mutex, and everybody else is outside. -/
theorem outside_of_restarting (hguard : (guard s).Inv) {i : ι}
    (hi : (s.callers i).restarting = true) :
    s.mqtt_mutex_ ≠ none ∧ s.worker.role = .outside ∧
    ∀ j, j ≠ i → (s.callers j).role = .outside := by
  have hinside : (guard s).role (.caller i) ≠ .outside := CallerPc.restarting_inside hi
  refine ⟨?_, ?_, ?_⟩
  · rw [show s.mqtt_mutex_ = some (.caller i) from hguard.exclusive _ hinside]
    exact fun hnone => by cases hnone
  · exact hguard.outside_of_ne hinside (u := .worker) fun heq => by cases heq
  · intro j hj
    exact hguard.outside_of_ne hinside (u := .caller j) fun heq => hj (ThreadId.caller.inj heq)

/-- Nobody else brings a thread behind the reset. -/
theorem restarting_of_step {a : Action ι} {i : ι} (ha : ∀ mid, a ≠ .caller i mid)
    (h : step config_ s a = some t) (ht : (t.callers i).restarting = true) :
    (s.callers i).restarting = true := by
  cases a with
  | call j f =>
    obtain ⟨-, rfl⟩ := call_eq_some h
    rw [setCaller_callers] at ht
    by_cases hij : i = j
    · rw [if_pos hij] at ht
      cases f <;> cases ht
    · rwa [if_neg hij] at ht
  | caller j mid =>
    have hij : i ≠ j := by
      intro heq
      exact ha mid (by rw [heq])
    rw [(moves_caller h).other hij] at ht
    exact ht
  | worker ok =>
    rw [(moves_worker h).callers_eq] at ht
    exact ht
  | event type =>
    cases h
    cases type <;> exact ht

/-- A step of another thread while thread `i` is behind the reset. -/
theorem step_while_restarting {a : Action ι} {i : ι} (hguard : (guard s).Inv)
    (hi : (s.callers i).restarting = true) (ha : ∀ mid, a ≠ .caller i mid)
    (h : step config_ s a = some t) :
    t.callers i = s.callers i ∧ t.thread_exit_ = s.thread_exit_ ∧
    (t.worker = s.worker ∨ ExitFrame s t) := by
  -- thread `i` holds the mutex all the time
  obtain ⟨howner, hworker, hothers⟩ := outside_of_restarting hguard hi
  cases a with
  | call j f =>
    obtain ⟨hpc, rfl⟩ := call_eq_some h
    have hij : i ≠ j := by
      intro heq
      rw [heq, hpc] at hi
      cases hi
    exact ⟨by rw [setCaller_callers, if_neg hij], rfl, Or.inl rfl⟩
  | caller j mid =>
    have hij : i ≠ j := by
      intro heq
      exact ha mid (by rw [heq])
    have hmove := moves_caller h
    obtain ⟨hsame, hexit⟩ := hmove.of_owned howner (hothers j (Ne.symm hij))
    exact ⟨hmove.other hij, hexit, Or.inl hsame⟩
  | worker ok =>
    have hframe := (moves_worker h).of_owned howner hworker
    exact ⟨by rw [hframe.callers], hframe.exit, Or.inr hframe⟩
  | event type =>
    cases h
    cases type <;> exact ⟨rfl, rfl, Or.inl rfl⟩

/-- How a thread comes to be behind the reset. -/
theorem restarting_cases {a : Action ι} {i : ι} (hguard : (guard s).Inv)
    (h : step config_ s a = some t) (ht : (t.callers i).restarting = true) :
    (∃ mid, a = .caller i mid ∧ s.callers i = .start .clearExit ∧ t.thread_exit_ = false ∧
      t.worker = s.worker ∧ t.callers i ≠ .start .join) ∨
    ((s.callers i).restarting = true ∧ t.thread_exit_ = s.thread_exit_ ∧
      (t.worker = s.worker ∧
          (t.callers i = .start .join → s.callers i = .start .join ∨ s.worker ≠ .notStarted) ∨
        t.worker = .notStarted ∧ t.callers i ≠ .start .join ∨ ExitFrame s t)) := by
  by_cases ha : ∃ mid, a = .caller i mid
  · obtain ⟨mid, rfl⟩ := ha
    rcases (moves_caller h).restarting ht with hreset | ⟨hi, hexit, hworker⟩
    · exact Or.inl ⟨mid, rfl, hreset⟩
    · refine Or.inr ⟨hi, hexit, ?_⟩
      rcases hworker with ⟨hsame, hjoin⟩ | hnone
      · exact Or.inl ⟨hsame, fun hat => Or.inr (hjoin hat)⟩
      · exact Or.inr (Or.inl hnone)
  · have hother : ∀ mid, a ≠ .caller i mid := fun mid heq => ha ⟨mid, heq⟩
    have hi := restarting_of_step hother h ht
    obtain ⟨hcallers, hexit, hworker⟩ := step_while_restarting hguard hi hother h
    refine Or.inr ⟨hi, hexit, ?_⟩
    rcases hworker with hsame | hframe
    · exact Or.inl ⟨hsame, fun hat => Or.inl (hcallers ▸ hat)⟩
    · exact Or.inr (Or.inr hframe)

theorem ResetInv.step {a : Action ι} (h : ResetInv s) (hguard : (guard s).Inv)
    (hstep : step config_ s a = some t) : ResetInv t where
  exit := by
    intro i hi
    rcases restarting_cases hguard hstep hi with ⟨_, -, -, hexit, -⟩ | ⟨hi, hexit, -⟩
    · exact hexit
    · rw [hexit]
      exact h.exit i hi
  present := by
    intro i hi
    rcases restarting_cases hguard hstep (by rw [hi]; rfl) with
      ⟨_, -, -, -, -, hjoin⟩ | ⟨-, -, ⟨hsame, hjoin⟩ | ⟨-, hjoin⟩ | hframe⟩
    · exact absurd hi hjoin
    · rw [hsame]
      rcases hjoin hi with hi | hpresent
      · exact h.present i hi
      · exact hpresent
    · exact absurd hi hjoin
    · exact hframe.present

omit [DecidableEq ι] in
theorem resetInv_initial : ResetInv (initial : Client ι) where
  exit := fun _ hi => by cases hi
  present := fun _ hi => by cases hi

/-- What holds in all runs. -/
theorem guard_resetInv {ok : Client ι → Action ι → Prop}
    (h : (system ι config_).ReachableWith ok s) : (guard s).Inv ∧ ResetInv s := by
  refine LTS.ReachableWith.invariant (I := fun s => (guard s).Inv ∧ ResetInv s) ?_ ?_ h
  · intro s hinit
    rw [show s = initial from hinit]
    exact ⟨guard_initial, resetInv_initial⟩
  · intro s a t hI _ hstep
    exact ⟨guard_inv_step hI.1 hstep, hI.2.step hI.1 hstep⟩

/-- A worker that is not on its way out when `start` waits for it. -/
structure Looping (i : ι) (s : Client ι) : Prop where
  guard : (guard s).Inv
  join : s.callers i = .start .join
  exit : s.thread_exit_ = false
  worker : s.worker.leaving = false

theorem Looping.step {a : Action ι} {i : ι} (h : Looping i s)
    (hstep : step config_ s a = some t) : Looping i t := by
  have hi : (s.callers i).restarting = true := by rw [h.join]; rfl
  have hother : ∀ mid, a ≠ .caller i mid := by
    intro mid heq
    -- the join itself waits
    have hworker : s.worker ≠ .finished := by
      intro hfinished
      have hleaving := h.worker
      rw [hfinished] at hleaving
      cases hleaving
    rw [heq] at hstep
    have hstep : callerStep s i mid = some t := hstep
    simp only [callerStep, h.join, startStep, if_neg hworker, Option.map_none,
      reduceCtorEq] at hstep
  obtain ⟨hcallers, hexit, hworker⟩ := step_while_restarting h.guard hi hother hstep
  refine ⟨guard_inv_step h.guard hstep, by rw [hcallers]; exact h.join,
    by rw [hexit]; exact h.exit, ?_⟩
  rcases hworker with hsame | hframe
  · rw [hsame]
    exact h.worker
  · exact hframe.looping h.exit h.worker

/-- A join returns in some continuation exactly if the worker it waits for is on its way out. -/
theorem canFinish_iff {ok : Client ι → Action ι → Prop} {i : ι}
    (h : (system ι config_).ReachableWith ok s) (hjoin : s.callers i = .start .join) :
    CanFinish config_ s ↔ s.worker.leaving = true := by
  obtain ⟨hguard, hreset⟩ := guard_resetInv h
  constructor
  · intro hfinish
    -- a looping worker keeps looping under every schedule
    by_contra hleaving
    obtain ⟨schedule, t, hrun, ht⟩ := hfinish
    have hlooping : Looping i s :=
      ⟨hguard, hjoin, hreset.exit i (by rw [hjoin]; rfl), Bool.eq_false_iff.mpr hleaving⟩
    have hend : Looping i t :=
      LTS.exec_invariant (fun _ _ _ hI hstep => hI.step hstep) hlooping hrun
    have hworker := hend.worker
    rw [ht] at hworker
    cases hworker
  · intro hleaving
    -- on its way out it needs one step at most, and no mutex
    cases hpc : s.worker with
    | notStarted => exact absurd hpc (hreset.present i hjoin)
    | finished => exact ⟨[], s, rfl, hpc⟩
    | exiting =>
      refine ⟨[.worker true], s.setWorker .finished, ?_, rfl⟩
      rw [LTS.exec_cons (t := s.setWorker .finished) []]
      · rfl
      · show workerStep config_ s true = _
        rw [workerStep, hpc]
    | _ =>
      rw [hpc] at hleaving
      cases hleaving

/-! ## Restarts that do not get stuck -/

/-- When `start` resets `thread_exit_`, the old worker does not exist, or it has read that the
flag was set and does not test it again. -/
def RestartsAfterExit (s : Client ι) : Action ι → Prop
  | .caller i _ => s.callers i = .start .clearExit → s.worker.leaving = true
  | .call _ _ | .worker _ | .event _ => True

instance (s : Client ι) : ∀ a, Decidable (RestartsAfterExit s a)
  | .caller _ _ => inferInstanceAs (Decidable (_ → _))
  | .call _ _ | .worker _ | .event _ => isTrue trivial

/-- Behind the reset the worker is on its way out. -/
def LeavingInv (s : Client ι) : Prop :=
  ∀ i, (s.callers i).restarting = true → s.worker.leaving = true

theorem LeavingInv.step {a : Action ι} (h : LeavingInv s) (hguard : (guard s).Inv)
    (hok : RestartsAfterExit s a) (hstep : step config_ s a = some t) : LeavingInv t := by
  intro i hi
  rcases restarting_cases hguard hstep hi with
    ⟨mid, rfl, hclear, -, hsame, -⟩ | ⟨hi, -, ⟨hsame, -⟩ | ⟨hnone, -⟩ | hframe⟩
  · rw [hsame]
    exact hok hclear
  · rw [hsame]
    exact h i hi
  · rw [hnone]
    rfl
  · exact hframe.leaving (h i hi)

/-- **Restarts.** In every run in which `start` resets `thread_exit_` only when the old worker is
on its way out, no join waits for a worker that can never finish. -/
theorem restart_not_stuck (h : (system ι config_).ReachableWith RestartsAfterExit s) :
    ¬ JoinStuck config_ s := by
  have hboth : (guard s).Inv ∧ LeavingInv s := by
    refine LTS.ReachableWith.invariant (I := fun s => (guard s).Inv ∧ LeavingInv s) ?_ ?_ h
    · intro s hinit
      rw [show s = initial from hinit]
      exact ⟨guard_initial, fun _ hi => by cases hi⟩
    · intro s a t hI hok hstep
      exact ⟨guard_inv_step hI.1 hstep, hI.2.step hI.1 hok hstep⟩
  intro hstuck
  obtain ⟨⟨i, hjoin⟩, hfinish⟩ := hstuck
  exact hfinish ((canFinish_iff h hjoin).mpr (hboth.2 i (by rw [hjoin]; rfl)))

/-- The client is stopped before the worker has created a handle, and the worker returns before
the next `start`, which waits in its join. -/
def restartAfterExit : List (Action Unit) :=
  callAnd .start 7 ++ callAnd .stop 7 ++ works 2 ++ callAnd .start 6

def restartedEnd : Client Unit :=
  ((system Unit {}).exec initial restartAfterExit).get (by decide)

theorem restart_not_stuck_restartedEnd :
    restartedEnd.callers () = .start .join ∧ ¬ JoinStuck {} restartedEnd := by
  have hinit : (system Unit {}).ReachableWith RestartsAfterExit (initial : Client Unit) :=
    .init rfl
  have hreach : (system Unit {}).ReachableWith RestartsAfterExit restartedEnd :=
    hinit.exec (Option.some_get _).symm
      (show (system Unit {}).Meets RestartsAfterExit initial restartAfterExit by decide)
  exact ⟨by decide, restart_not_stuck hreach⟩

/-- A connected client is stopped, `mqtt_client_run` returns, and the client is started again
before the worker gets the mutex. -/
def restartBeforeExit : List (Action Unit) :=
  callAnd .start 7 ++ works 7 ++ callAnd .stop 9 ++ works 1 ++ callAnd .start 6

def deadlocked : Client Unit :=
  ((system Unit {}).exec initial restartBeforeExit).get (by decide)

/-- `start` holds the mutex and waits in its join, the worker waits for the mutex. -/
theorem restart_deadlocks :
    (system Unit {}).Reachable deadlocked ∧ deadlocked.worker = .lockRun ∧
    deadlocked.mqtt_mutex_ = some (.caller ()) ∧ JoinStuck {} deadlocked := by
  have hreach : (system Unit {}).Reachable deadlocked :=
    LTS.reachable_of_exec rfl (Option.some_get _).symm
  have hjoin : deadlocked.callers () = .start .join := by decide
  refine ⟨hreach, by decide, by decide, ⟨(), hjoin⟩, ?_⟩
  rw [canFinish_iff hreach hjoin]
  decide

end IndustrialMqttClient
end ShipMotion
