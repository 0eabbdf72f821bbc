import ShipMotion.IndustrialMqttClient.FlagTheorems

/-!
# The reconnect budget

`reconnect` counts the connections that dropped since the last CONNACK and stops the client when
there were `max_reconnect_attempts` of them. A connection that fails at once starts over without
calling `reconnect`, so it is not counted. Along every schedule, the calls of
`mqtt_client_connect` and what the counter leaves to be made grow with such failures only.
-/

namespace ShipMotion
namespace IndustrialMqttClient

open Utils

variable {ι : Type} [DecidableEq ι] {config_ : MqttConfig} {s t : Client ι} {N : ℕ}

/-! ## What happens after the last CONNACK -/

/-- No CONNACK arrives, and no `start` gets past its test: the client is not restarted. -/
def Undisturbed (s : Client ι) : Action ι → Prop
  | .event type => type ≠ .connack
  | .caller i _ => ∀ pc, s.callers i = .start pc →
      pc = .lock ∨ (pc = .testRunning ∧ s.is_running_ = true)
  | .call _ _ | .worker _ => True

/-- `mqtt_client_connect` returns, and not 0. -/
def failsAtOnce (s : Client ι) : Action ι → Bool
  | .worker false =>
    match s.worker with
    | .connecting _ => true
    | _ => false
  | _ => false

/-- The calls of `mqtt_client_connect` that fail at once along a schedule. -/
def failedConnects (config_ : MqttConfig) : Client ι → List (Action ι) → ℕ
  | _, [] => 0
  | s, a :: schedule =>
    match step config_ s a with
    | some t => (failsAtOnce s a).toNat + failedConnects config_ t schedule
    | none => 0

/-- The connections that a worker may still start, from its position on, when none of them fails
at once. -/
def WorkerPc.remaining (N : ℕ) (thread_exit_ : Bool) (reconnect_attempts_ : ℕ) : WorkerPc → ℕ
  | .testExit => if thread_exit_ then 0 else N - reconnect_attempts_ + 1
  | .lockNew | .create | .sleepLocked | .configure | .callConnect
  | .lockFail | .freeFail | .sleep => N - reconnect_attempts_ + 1
  | .connecting _ | .callRun | .running _ | .lockRun | .freeRun | .clearConnected | .testBreak
  | .reconnect => N - reconnect_attempts_
  | .stop _ | .exiting | .finished | .notStarted => 0

def remaining (N : ℕ) (s : Client ι) : ℕ :=
  s.worker.remaining N s.thread_exit_ s.reconnect_attempts_

/-! ## One step -/

theorem WorkerPc.remaining_le (N : ℕ) (exit : Bool) (attempts : ℕ) (pc : WorkerPc) :
    pc.remaining N exit attempts ≤ N - attempts + 1 := by
  cases pc with
  | testExit =>
    rw [WorkerPc.remaining]
    split <;> omega
  | stop | exiting | finished | notStarted => exact Nat.zero_le _
  | connecting | callRun | running | lockRun | freeRun | clearConnected | testBreak | reconnect =>
    exact Nat.le_succ _
  | _ => exact Nat.le_refl _

/-- Setting `thread_exit_` leaves no more to be made. -/
theorem WorkerPc.remaining_exit_le (N : ℕ) (exit : Bool) (attempts : ℕ) (pc : WorkerPc) :
    pc.remaining N true attempts ≤ pc.remaining N exit attempts := by
  cases pc with
  | testExit => exact Nat.zero_le _
  | _ => exact Nat.le_refl _

omit [DecidableEq ι] in
/-- `stop` writes neither the counter nor the history, and `thread_exit_` only to set it. -/
theorem StopMoves.counters {self : ThreadId ι} {pc : StopPc} {next : Option StopPc}
    (h : StopMoves s self pc t next) :
    t.reconnect_attempts_ = s.reconnect_attempts_ ∧
      (t.thread_exit_ = s.thread_exit_ ∨ t.thread_exit_ = true) := by
  cases h with
  | setExit => exact ⟨rfl, .inr rfl⟩
  | _ => exact ⟨rfl, .inl rfl⟩

omit [DecidableEq ι] in
/-- A step of `reconnect`: the client is stopped, or one more attempt is counted. -/
theorem reconnect_cases (s : Client ι) (hmax : config_.max_reconnect_attempts = N) (hN : 0 < N) :
    (N ≤ s.reconnect_attempts_ ∧ reconnect config_ s = s.setWorker (.stop .lock)) ∨
    (s.reconnect_attempts_ < N ∧
      reconnect config_ s = (s.setAttempts (s.reconnect_attempts_ + 1)).setWorker .testExit) := by
  by_cases hlimit : N ≤ s.reconnect_attempts_
  · refine .inl ⟨hlimit, ?_⟩
    rw [reconnect, hmax, if_pos ⟨by omega, by omega⟩]
  · refine .inr ⟨by omega, ?_⟩
    rw [reconnect, hmax, if_neg (by omega)]

omit [DecidableEq ι] in
/-- `stop` returns at its test or at its end. -/
theorem stop_returns {self : ThreadId ι} {pc : StopPc} (h : stopStep s self pc = some (t, none)) :
    (pc = .testRunning ∧ s.is_running_ = false ∨ pc = .callback) ∧
      t.thread_exit_ = s.thread_exit_ ∧ t.is_running_ = s.is_running_ := by
  cases pc with
  | lock =>
    obtain ⟨-, heq⟩ := map_lock_eq_some h
    cases heq
  | testRunning =>
    rw [stopStep] at h
    cases hrunning : s.is_running_ with
    | true =>
      rw [hrunning, if_pos rfl] at h
      cases h
    | false =>
      rw [hrunning, if_neg Bool.false_ne_true] at h
      cases h
      exact ⟨.inl ⟨rfl, rfl⟩, rfl, hrunning⟩
  | testHandle =>
    rw [stopStep] at h
    split at h <;> cases h
  | callback =>
    cases h
    exact ⟨.inr rfl, rfl, rfl⟩
  | setExit | clearRunning | free | clearHandle | clearConnected => cases h

omit [DecidableEq ι] in
/-- When a `stop` of the worker returns, the client has been stopped. -/
theorem stopped_of_returns (hguard : (guard s).Inv) (hflags : FlagInv s) {pc : StopPc}
    (hpc : s.worker = .stop pc) (h : stopStep s .worker pc = some (t, none)) :
    t.thread_exit_ = true ∧ t.is_running_ = false := by
  have hworker := hflags.worker
  rw [hpc] at hworker
  obtain ⟨hwhere, hexit, hrunning⟩ := stop_returns h
  rw [hexit, hrunning]
  rcases hwhere with ⟨rfl, hnot⟩ | rfl
  · refine ⟨?_, hnot⟩
    have hpresent : s.worker ≠ .notStarted := by
      rw [hpc]
      exact fun heq => by cases heq
    refine (hflags.stopped hpresent hnot).resolve_right fun ⟨i, hi⟩ => ?_
    -- the worker is inside, so no `start` is between its writes
    have hinside := inside_of_worker hpc fun hrole => by cases hrole
    have hout : (s.callers i).role = .outside :=
      hguard.outside_of_ne (t := .worker) hinside (u := .caller i) fun heq => by cases heq
    rw [hi] at hout
    cases hout
  · exact hworker

/-- The step lemma for the callers: nobody else gives the worker more to make. -/
theorem remaining_caller {i : ι} {mid : ℤ} (hok : Undisturbed s (.caller i mid))
    (h : CallerMoves s i t) :
    t.connects = s.connects ∧ remaining N t ≤ remaining N s := by
  cases h with
  | @publish pc u next hpc hmove =>
    refine ⟨hmove.frame.1.2.2, ?_⟩
    cases hmove <;> exact Nat.le_refl _
  | @stop pc u next hpc hmove =>
    obtain ⟨hworker, -, hconnects⟩ := hmove.frame
    obtain ⟨hattempts, hexit⟩ := hmove.counters
    refine ⟨hconnects, ?_⟩
    show u.worker.remaining N u.thread_exit_ u.reconnect_attempts_ ≤ remaining N s
    rw [hworker, hattempts, remaining]
    rcases hexit with hexit | hexit
    · exact Nat.le_of_eq (congrArg (s.worker.remaining N · s.reconnect_attempts_) hexit)
    · rw [hexit]
      exact WorkerPc.remaining_exit_le ..
  | @start pc u next hpc hmove =>
    refine ⟨hmove.frame.1.2.2, ?_⟩
    -- `start` does not get past its test
    rcases hok pc hpc with rfl | ⟨rfl, -⟩
    · cases hmove
      exact Nat.le_refl _
    · cases hmove <;> exact Nat.le_refl _

omit [DecidableEq ι] in
/-- The worker at `reconnect` does not get more to make. -/
theorem remaining_reconnect (hmax : config_.max_reconnect_attempts = N) (hN : 0 < N)
    (hpc : s.worker = .reconnect) :
    remaining N (reconnect config_ s) ≤ remaining N s := by
  rw [remaining, remaining, hpc]
  rcases reconnect_cases s hmax hN with ⟨-, heq⟩ | ⟨hlt, heq⟩
  · rw [heq]
    exact Nat.zero_le _
  · rw [heq]
    show (if s.thread_exit_ then 0 else N - (s.reconnect_attempts_ + 1) + 1)
      ≤ N - s.reconnect_attempts_
    split <;> omega

omit [DecidableEq ι] in
/-- A `stop` of the worker leaves it nothing to make. -/
theorem remaining_worker_stop {ok : Bool} {pc : StopPc} (hguard : (guard s).Inv)
    (hflags : FlagInv s) (hpc : s.worker = .stop pc) (h : workerStep config_ s ok = some t) :
    t.connects = s.connects ∧ remaining N t = 0 := by
  rw [workerStep, hpc] at h
  obtain ⟨⟨u, next⟩, hstop, rfl⟩ := Option.map_eq_some_iff.mp h
  refine ⟨(moves_stop hstop).frame.2.2, ?_⟩
  cases next with
  | some pc' => rfl
  | none =>
    show (if u.thread_exit_ then 0 else _) = 0
    rw [(stopped_of_returns hguard hflags hpc hstop).1, if_pos rfl]

omit [DecidableEq ι] in
/-- The step lemma for the worker: what is made and what remains to be made grow only by a
connection that fails at once. -/
theorem connects_remaining_worker {ok : Bool} (hmax : config_.max_reconnect_attempts = N)
    (hN : 0 < N) (hguard : (guard s).Inv) (hflags : FlagInv s)
    (h : workerStep config_ s ok = some t) :
    t.connects.length + remaining N t
      ≤ s.connects.length + remaining N s + (failsAtOnce s (.worker ok)).toNat := by
  cases moves_worker h with
  | stop hpc _ =>
    obtain ⟨hconnects, hzero⟩ := remaining_worker_stop (N := N) hguard hflags hpc h
    rw [hconnects, hzero]
    omega
  | reconnect hpc =>
    rw [workerStep, hpc] at h
    have hle := remaining_reconnect hmax hN hpc
    rw [Option.some.inj h] at hle
    show s.connects.length + _ ≤ _
    omega
  | notConnected hpc =>
    -- only an answer other than 0 leads here
    cases ok with
    | true =>
      rw [workerStep, hpc] at h
      exact absurd (congrArg (·.worker) (Option.some.inj h)) fun heq => by cases heq
    | false =>
      have hfails : failsAtOnce s (.worker false) = true := by rw [failsAtOnce, hpc]
      rw [hfails, remaining, remaining, hpc]
      show s.connects.length + (N - s.reconnect_attempts_ + 1)
        ≤ s.connects.length + (N - s.reconnect_attempts_) + 1
      omega
  | callConnect hpc =>
    rw [remaining, remaining, hpc]
    show (s.connects ++ [_]).length + (N - s.reconnect_attempts_)
      ≤ s.connects.length + (N - s.reconnect_attempts_ + 1) + _
    rw [List.length_append, List.length_singleton]
    omega
  | testExit hpc =>
    rw [remaining, remaining, hpc]
    show s.connects.length + (if s.thread_exit_ then WorkerPc.exiting else .lockNew).remaining N
      s.thread_exit_ s.reconnect_attempts_
      ≤ s.connects.length + (if s.thread_exit_ then 0 else N - s.reconnect_attempts_ + 1) + _
    cases s.thread_exit_ with
    | true => exact Nat.le_add_right _ _
    | false => exact Nat.le_add_right _ _
  | testBreak hpc =>
    rw [remaining, remaining, hpc]
    show s.connects.length + (if s.thread_exit_ then WorkerPc.exiting else .reconnect).remaining N
      s.thread_exit_ s.reconnect_attempts_
      ≤ s.connects.length + (N - s.reconnect_attempts_) + _
    cases s.thread_exit_ with
    | true =>
      show s.connects.length + 0 ≤ _
      omega
    | false => exact Nat.le_add_right _ _
  | sleepLocked hpc | sleep hpc =>
    rw [remaining, remaining, hpc]
    show s.connects.length + (if s.thread_exit_ then 0 else N - s.reconnect_attempts_ + 1)
      ≤ s.connects.length + (N - s.reconnect_attempts_ + 1) + _
    split <;> omega
  | giveUp hpc | exiting hpc =>
    show s.connects.length + 0 ≤ _
    omega
  | lockNew hpc | created hpc | notCreated hpc | configure hpc | lockFail hpc | freeFail hpc
  | connected hpc | callRun hpc | running hpc | lockRun hpc | freeRun hpc | clearConnected hpc =>
    rw [remaining, remaining, hpc]
    exact Nat.le_add_right _ _

/-- The step lemma. -/
theorem connects_remaining_step {a : Action ι} (hmax : config_.max_reconnect_attempts = N)
    (hN : 0 < N) (hguard : (guard s).Inv) (hflags : FlagInv s) (hok : Undisturbed s a)
    (h : step config_ s a = some t) :
    t.connects.length + remaining N t
      ≤ s.connects.length + remaining N s + (failsAtOnce s a).toNat := by
  cases a with
  | call i f =>
    obtain ⟨-, rfl⟩ := call_eq_some h
    exact Nat.le_add_right _ _
  | caller i mid =>
    obtain ⟨hconnects, hle⟩ := remaining_caller (N := N) hok (moves_caller h)
    rw [hconnects]
    omega
  | worker ok => exact connects_remaining_worker hmax hN hguard hflags h
  | event type =>
    cases h
    cases type with
    | connack => exact absurd rfl hok
    | disconnect | other => exact Nat.le_add_right _ _

/-! ## Runs -/

/-- The run lemma. -/
theorem connects_remaining_exec (hmax : config_.max_reconnect_attempts = N) (hN : 0 < N)
    {schedule : List (Action ι)} (hguard : (guard s).Inv) (hflags : FlagInv s)
    (hrun : (system ι config_).exec s schedule = some t)
    (hquiet : (system ι config_).Meets Undisturbed s schedule) :
    t.connects.length + remaining N t
      ≤ s.connects.length + remaining N s + failedConnects config_ s schedule := by
  induction schedule generalizing s with
  | nil =>
    cases hrun
    exact Nat.le_refl _
  | cons a schedule ih =>
    obtain ⟨u, hstep, hrest⟩ := Option.bind_eq_some_iff.mp hrun
    have hone := connects_remaining_step hmax hN hguard hflags hquiet.1 hstep
    have hmore := ih (guard_inv_step hguard hstep) (hflags.step hguard hstep) hrest
      (hquiet.2 u hstep)
    have hfailed : failedConnects config_ s (a :: schedule)
        = (failsAtOnce s a).toNat + failedConnects config_ u schedule := by
      have hstep : step config_ s a = some u := hstep
      rw [failedConnects, hstep]
    rw [hfailed]
    omega

/-- The counter does not pass the limit. -/
theorem attempts_step {a : Action ι} (hmax : config_.max_reconnect_attempts = N) (hN : 0 < N)
    (hle : s.reconnect_attempts_ ≤ N) (h : step config_ s a = some t) :
    t.reconnect_attempts_ ≤ N := by
  cases a with
  | call i f =>
    obtain ⟨-, rfl⟩ := call_eq_some h
    exact hle
  | caller i mid =>
    cases moves_caller h with
    | start _ hmove => cases hmove <;> first | exact hle | exact Nat.zero_le _
    | stop _ hmove =>
      show Client.reconnect_attempts_ _ ≤ N
      rw [Client.setCaller, hmove.counters.1]
      exact hle
    | publish _ hmove => cases hmove <;> exact hle
  | worker ok =>
    have h : workerStep config_ s ok = some t := h
    cases moves_worker h with
    | reconnect hpc =>
      rw [workerStep, hpc] at h
      rw [← Option.some.inj h]
      rcases reconnect_cases s hmax hN with ⟨-, heq⟩ | ⟨hlt, heq⟩
      · rw [heq]
        exact hle
      · rw [heq]
        exact hlt
    | stop _ hmove =>
      show Client.reconnect_attempts_ _ ≤ N
      rw [Client.setWorker, hmove.counters.1]
      exact hle
    | _ => exact hle
  | event type =>
    cases h
    cases type with
    | connack => exact Nat.zero_le _
    | disconnect | other => exact hle

theorem attempts_le (hmax : config_.max_reconnect_attempts = N) (hN : 0 < N)
    (h : (system ι config_).Reachable s) : s.reconnect_attempts_ ≤ N := by
  refine LTS.Reachable.invariant (I := fun s => s.reconnect_attempts_ ≤ N) ?_ ?_ h
  · intro s hinit
    rw [show s = initial from hinit]
    exact Nat.zero_le _
  · exact fun s a t hle hstep => attempts_step hmax hN hle hstep

/-- From `s` to `t` the worker has made `N + 1` connections at most; when it has made them all it
stops the client, and when its `stop` returns the client has been stopped. -/
structure WithinBudget (config_ : MqttConfig) (N : ℕ) (s t : Client ι) : Prop where
  connects_le : t.connects.length ≤ s.connects.length + (N + 1)
  gives_up : t.connects.length = s.connects.length + (N + 1) → t.worker = .reconnect →
    ∀ ok, step config_ t (.worker ok) = some (t.setWorker (.stop .lock))
  stopped : ∀ pc ok u, t.worker = .stop pc → step config_ t (.worker ok) = some u →
    u.worker = .testExit → u.thread_exit_ = true ∧ u.is_running_ = false

/-- **The reconnect budget.** In every run, after any point from which on no CONNACK arrives and
the client is not restarted: as long as no more connections fail at once than the counter had
counted at that point, the worker makes `N + 1` further connections at most before it stops the
client. -/
theorem reconnect_within_budget (hN : 0 < N) (hmax : config_.max_reconnect_attempts = N)
    (hs : (system ι config_).Reachable s) {schedule : List (Action ι)}
    (hrun : (system ι config_).exec s schedule = some t)
    (hquiet : (system ι config_).Meets Undisturbed s schedule)
    (hfails : failedConnects config_ s schedule ≤ s.reconnect_attempts_) :
    WithinBudget config_ N s t := by
  obtain ⟨hguard, hflags⟩ := guard_flagInv hs
  obtain ⟨hguardT, hflagsT⟩ := guard_flagInv (hs.exec hrun LTS.meets_true)
  have hbudget := connects_remaining_exec hmax hN hguard hflags hrun hquiet
  have hcounter := attempts_le hmax hN hs
  have hstart : remaining N s ≤ N - s.reconnect_attempts_ + 1 := WorkerPc.remaining_le ..
  refine ⟨by omega, fun hall hpc ok => ?_, fun pc ok u hpc hstep hhead => ?_⟩
  · -- nothing remains to be made
    have hnone : remaining N t = N - t.reconnect_attempts_ := by
      rw [remaining, hpc]
      rfl
    show workerStep config_ t ok = _
    rw [workerStep, hpc]
    rcases reconnect_cases t hmax hN with ⟨-, heq⟩ | ⟨hlt, -⟩
    · exact congrArg some heq
    · omega
  · have hstep : workerStep config_ t ok = some u := hstep
    rw [workerStep, hpc] at hstep
    obtain ⟨⟨u', next⟩, hstop, rfl⟩ := Option.map_eq_some_iff.mp hstep
    cases next with
    | some pc' => cases hhead
    | none =>
      show u'.thread_exit_ = true ∧ u'.is_running_ = false
      exact stopped_of_returns hguardT hflagsT hpc hstop

/-! ## One failure more -/

/-- The worker is at its loop test and does not have to exit, and nobody holds the mutex. -/
structure AtHead (s : Client ι) : Prop where
  worker : s.worker = .testExit
  exit : s.thread_exit_ = false
  mutex : s.mqtt_mutex_ = none

/-- The worker alone, with these answers of libhv. -/
def alone (answers : List Bool) : List (Action ι) := answers.map .worker

theorem meets_alone (s : Client ι) (answers : List Bool) :
    (system ι config_).Meets Undisturbed s (alone answers) := by
  induction answers generalizing s with
  | nil => trivial
  | cons ok answers ih => exact ⟨trivial, fun t _ => ih t⟩

theorem failedConnects_append {schedule schedule' : List (Action ι)}
    (h : (system ι config_).exec s schedule = some t) :
    failedConnects config_ s (schedule ++ schedule')
      = failedConnects config_ s schedule + failedConnects config_ t schedule' := by
  induction schedule generalizing s with
  | nil =>
    cases h
    exact (Nat.zero_add _).symm
  | cons a schedule ih =>
    obtain ⟨u, hstep, hrest⟩ := Option.bind_eq_some_iff.mp h
    have hstep : step config_ s a = some u := hstep
    rw [List.cons_append, failedConnects, failedConnects, hstep]
    show _ + failedConnects config_ u (schedule ++ schedule') = _
    rw [ih hrest, Nat.add_assoc]

/-- The worker alone gets from a state to another, and so many of its connections fail at once. -/
def Leads (config_ : MqttConfig) (failed : ℕ) (s t : Client ι) : Prop :=
  ∃ answers, (system ι config_).exec s (alone answers) = some t ∧
    failedConnects config_ s (alone answers) = failed

theorem Leads.trans {u : Client ι} {n n' : ℕ} (h : Leads config_ n s u)
    (h' : Leads config_ n' u t) : Leads config_ (n + n') s t := by
  obtain ⟨answers, hrun, rfl⟩ := h
  obtain ⟨answers', hrun', rfl⟩ := h'
  refine ⟨answers ++ answers', ?_, ?_⟩
  · rw [alone, List.map_append]
    exact (LTS.exec_append hrun).trans hrun'
  · rw [alone, List.map_append]
    exact failedConnects_append hrun

/-- A connection that fails at once brings the worker back to its loop test. -/
theorem leads_failed (config_ : MqttConfig) (h : AtHead s) :
    ∃ t, Leads config_ 1 s t ∧ AtHead t ∧ t.reconnect_attempts_ = s.reconnect_attempts_ ∧
      t.connects.length = s.connects.length + 1 := by
  obtain ⟨_, _, _, _, _, attempts, _, _, _, _, connects, _, _⟩ := s
  obtain ⟨hworker, hexit, hmutex⟩ := h
  cases hworker
  cases hexit
  cases hmutex
  refine ⟨_, ⟨[true, true, true, true, true, false, true, true, true], rfl, rfl⟩,
    ⟨rfl, rfl, rfl⟩, rfl, ?_⟩
  exact List.length_append

/-- A connection that is made and drops brings the worker to `reconnect`. -/
theorem leads_dropped (config_ : MqttConfig) (h : AtHead s) :
    ∃ t, Leads config_ 0 s t ∧ t.worker = .reconnect ∧ t.thread_exit_ = false ∧
      t.mqtt_mutex_ = none ∧ t.reconnect_attempts_ = s.reconnect_attempts_ ∧
      t.connects.length = s.connects.length + 1 := by
  obtain ⟨_, _, _, _, _, attempts, _, _, _, _, connects, _, _⟩ := s
  obtain ⟨hworker, hexit, hmutex⟩ := h
  cases hworker
  cases hexit
  cases hmutex
  refine ⟨_, ⟨List.replicate 12 true, rfl, rfl⟩, rfl, rfl, rfl, rfl, ?_⟩
  exact List.length_append

/-- And it is counted, up to the limit. -/
theorem leads_counted (hmax : config_.max_reconnect_attempts = N) (hN : 0 < N) (h : AtHead s)
    (hlt : s.reconnect_attempts_ < N) :
    ∃ t, Leads config_ 0 s t ∧ AtHead t ∧ t.reconnect_attempts_ = s.reconnect_attempts_ + 1 ∧
      t.connects.length = s.connects.length + 1 := by
  obtain ⟨u, hdrop, hpc, hexit, hmutex, hattempts, hconnects⟩ := leads_dropped config_ h
  have hlast : Leads config_ 0 u (reconnect config_ u) := by
    have hstep : step config_ u (.worker true) = some (reconnect config_ u) := by
      show workerStep config_ u true = _
      rw [workerStep, hpc]
    refine ⟨[true], LTS.exec_cons [] hstep, ?_⟩
    rw [alone, List.map_singleton, failedConnects, hstep, failsAtOnce]
    · rfl
    · exact fun heq => by cases heq
  rcases reconnect_cases u hmax hN with ⟨hle, -⟩ | ⟨-, heq⟩
  · omega
  · rw [heq] at hlast
    refine ⟨_, hdrop.trans hlast, ⟨rfl, hexit, hmutex⟩, ?_, hconnects⟩
    exact congrArg (· + 1) hattempts

/-- Any number of connections that fail at once. -/
theorem leads_failed_many (config_ : MqttConfig) (h : AtHead s) (n : ℕ) :
    ∃ t, Leads config_ n s t ∧ AtHead t ∧ t.reconnect_attempts_ = s.reconnect_attempts_ ∧
      t.connects.length = s.connects.length + n := by
  induction n with
  | zero => exact ⟨s, ⟨[], rfl, rfl⟩, h, rfl, rfl⟩
  | succ n ih =>
    obtain ⟨u, hfirst, hu, hattempts, hconnects⟩ := ih
    obtain ⟨t, hlast, ht, hattempts', hconnects'⟩ := leads_failed config_ hu
    exact ⟨t, hfirst.trans hlast, ht, hattempts'.trans hattempts, by omega⟩

/-- All connections that the counter has left, one after another, and one more. -/
theorem leads_used_up (hmax : config_.max_reconnect_attempts = N) (hN : 0 < N) {n : ℕ}
    (h : AtHead s) (hn : s.reconnect_attempts_ + n = N) :
    ∃ t, Leads config_ 0 s t ∧ t.connects.length = s.connects.length + (n + 1) := by
  induction n generalizing s with
  | zero =>
    obtain ⟨t, hdrop, -, -, -, -, hconnects⟩ := leads_dropped config_ h
    exact ⟨t, hdrop, hconnects⟩
  | succ n ih =>
    obtain ⟨u, hfirst, hu, hattempts, hconnects⟩ := leads_counted hmax hN h (by omega)
    obtain ⟨t, hlast, hconnects'⟩ := ih hu (by omega)
    exact ⟨t, hfirst.trans hlast, by omega⟩

/-- The condition on failures is exact: from any loop head, one failure more than the counter had
counted makes room for one connection more than the budget. -/
theorem budget_exceeded (hmax : config_.max_reconnect_attempts = N) (hN : 0 < N)
    (hs : (system ι config_).Reachable s) (h : AtHead s) :
    ∃ schedule t, (system ι config_).exec s schedule = some t ∧
      (system ι config_).Meets Undisturbed s schedule ∧
      failedConnects config_ s schedule = s.reconnect_attempts_ + 1 ∧
      t.connects.length = s.connects.length + (N + 2) := by
  obtain ⟨u, hfailed, hu, hattempts, hconnects⟩ :=
    leads_failed_many config_ h (s.reconnect_attempts_ + 1)
  have hle := attempts_le hmax hN hs
  obtain ⟨t, hdropped, hconnects'⟩ :=
    leads_used_up hmax hN (n := N - s.reconnect_attempts_) hu (by omega)
  obtain ⟨answers, hrun, hcount⟩ := hfailed.trans hdropped
  exact ⟨alone answers, t, hrun, meets_alone s answers, hcount, by omega⟩

/-! ## Two runs with one reconnect -/

instance (s : Client ι) : ∀ a, Decidable (Undisturbed s a)
  | .event type => inferInstanceAs (Decidable (type ≠ .connack))
  | .caller i _ =>
    match h : s.callers i with
    | .start pc =>
      decidable_of_iff (pc = .lock ∨ (pc = .testRunning ∧ s.is_running_ = true))
        ⟨fun hpc pc' heq => by cases h.symm.trans heq; exact hpc, fun hall => hall pc h⟩
    | .idle | .stop _ | .publish _ => isTrue fun pc heq => by cases h.symm.trans heq
  | .call _ _ | .worker _ => isTrue trivial

/-- The client has been started, with one reconnect. -/
def startedOnce : Client Unit :=
  ((system Unit ⟨1⟩).exec initial (callAnd .start 7)).get (by decide)

theorem startedOnce_reachable : (system Unit ⟨1⟩).Reachable startedOnce :=
  LTS.reachable_of_exec rfl (Option.some_get _).symm

/-- Two connections drop, and the worker stops the client. -/
def droppedTwice : Client Unit :=
  ((system Unit ⟨1⟩).exec startedOnce (works 34)).get (by decide)

theorem reconnect_within_budget_droppedTwice : droppedTwice.connects.length = 2 ∧
    droppedTwice.worker = .exiting ∧ WithinBudget ⟨1⟩ 1 startedOnce droppedTwice :=
  ⟨by decide, by decide,
    reconnect_within_budget Nat.one_pos rfl startedOnce_reachable (Option.some_get _).symm
      (by decide) (by decide)⟩

/-- The steps of a connection that fails at once. -/
def failsOnce : List (Action Unit) := works 5 ++ .worker false :: works 3

/-- Three connections fail at once: none is counted, and the worker goes on. -/
theorem failed_connects_uncounted :
    (system Unit ⟨1⟩).Reachable startedOnce ∧
    (system Unit ⟨1⟩).Meets Undisturbed startedOnce (failsOnce ++ failsOnce ++ failsOnce) ∧
    ∃ t, (system Unit ⟨1⟩).exec startedOnce (failsOnce ++ failsOnce ++ failsOnce) = some t ∧
      t.connects.length = startedOnce.connects.length + 3 ∧ t.worker = .testExit ∧
      t.thread_exit_ = false ∧ ¬WithinBudget ⟨1⟩ 1 startedOnce t := by
  refine ⟨startedOnce_reachable, by decide, _, (Option.some_get (by decide)).symm, by decide,
    by decide, by decide, fun h => ?_⟩
  exact absurd h.connects_le (by decide)

end IndustrialMqttClient
end ShipMotion
