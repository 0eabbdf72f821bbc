import ShipMotion.IndustrialMqttClient
import ShipMotion.Utils.GuardedHandle

/-!
# The lifetime of the handle

`mqtt_cli_` under `mqtt_mutex_` is a guarded handle in the sense of `Utils.GuardedHandle`, so no
handle is freed twice. But the worker passes the handle to `mqtt_client_connect` and
`mqtt_client_run` without the mutex, and `stop` may free it in between or meanwhile. In runs in
which it does not, the worker only uses live handles.
-/

namespace ShipMotion
namespace IndustrialMqttClient

open Utils

variable {ι : Type} [DecidableEq ι] {config_ : MqttConfig} {s t : Client ι}

/-! ## What a step can do -/

omit [DecidableEq ι] in
/-- A step that begins with taking the mutex. -/
theorem map_lock_eq_some {α : Type} {self : ThreadId ι} {f : Client ι → α} {a : α}
    (h : (s.lock self).map f = some a) :
    s.mqtt_mutex_ = none ∧ a = f { s with mqtt_mutex_ := some self } := by
  unfold Client.lock at h
  cases hfree : s.mqtt_mutex_ with
  | none =>
    simp only [hfree, Option.map_some, Option.some.injEq] at h
    exact ⟨rfl, h.symm⟩
  | some u => simp only [hfree, Option.map_none, reduceCtorEq] at h

/-- The steps of `stop`, with the new position if the call has not returned. -/
inductive StopMoves (s : Client ι) (self : ThreadId ι) :
    StopPc → Client ι → Option StopPc → Prop where
  | lock : s.mqtt_mutex_ = none →
      StopMoves s self .lock { s with mqtt_mutex_ := some self } (some .testRunning)
  | notRunning : StopMoves s self .testRunning s.unlock none
  | isRunning : StopMoves s self .testRunning s (some .setExit)
  | setExit : StopMoves s self .setExit (s.setExit true) (some .clearRunning)
  | clearRunning : StopMoves s self .clearRunning (s.setRunning false) (some .testHandle)
  | handle {cli} : s.mqtt_cli_ = some cli → StopMoves s self .testHandle s (some (.free cli))
  | noHandle : StopMoves s self .testHandle s (some .clearConnected)
  | free {cli} : StopMoves s self (.free cli) (s.free cli) (some .clearHandle)
  | clearHandle : StopMoves s self .clearHandle s.nullHandle (some .clearConnected)
  | clearConnected : StopMoves s self .clearConnected (s.setConnected false) (some .callback)
  | callback : StopMoves s self .callback (s.callback false).unlock none

omit [DecidableEq ι] in
theorem moves_stop {self : ThreadId ι} {pc : StopPc} {next : Option StopPc}
    (h : stopStep s self pc = some (t, next)) : StopMoves s self pc t next := by
  -- the positions with a branch first, the straight ones at the end
  cases pc with
  | lock =>
    obtain ⟨hfree, heq⟩ := map_lock_eq_some h
    cases heq
    exact .lock hfree
  | testRunning =>
    rw [stopStep] at h
    split at h
    · cases h
      exact .isRunning
    · cases h
      exact .notRunning
  | testHandle =>
    rw [stopStep] at h
    cases hcli : s.mqtt_cli_ with
    | none =>
      simp only [hcli] at h
      cases h
      exact .noHandle
    | some cli =>
      simp only [hcli] at h
      cases h
      exact .handle hcli
  | _ =>
    cases h
    constructor

/-- The steps of `start`. -/
inductive StartMoves (s : Client ι) (i : ι) :
    StartPc → Client ι → Option StartPc → Prop where
  | lock : s.mqtt_mutex_ = none →
      StartMoves s i .lock { s with mqtt_mutex_ := some (.caller i) } (some .testRunning)
  | isRunning : StartMoves s i .testRunning s.unlock none
  | notRunning : StartMoves s i .testRunning s (some .clearExit)
  | clearExit : StartMoves s i .clearExit (s.setExit false) (some .setRunning)
  | setRunning : StartMoves s i .setRunning (s.setRunning true) (some .clearAttempts)
  | clearAttempts : StartMoves s i .clearAttempts (s.setAttempts 0) (some .testJoinable)
  | notJoinable : s.worker = .notStarted → StartMoves s i .testJoinable s (some .spawn)
  | joinable : s.worker ≠ .notStarted → StartMoves s i .testJoinable s (some .join)
  | join : s.worker = .finished → StartMoves s i .join (s.setWorker .notStarted) (some .spawn)
  | spawn : s.worker = .notStarted → StartMoves s i .spawn (s.setWorker .testExit).unlock none

omit [DecidableEq ι] in
theorem moves_start {i : ι} {pc : StartPc} {next : Option StartPc}
    (h : startStep s i pc = some (t, next)) : StartMoves s i pc t next := by
  cases pc with
  | lock =>
    obtain ⟨hfree, heq⟩ := map_lock_eq_some h
    cases heq
    exact .lock hfree
  | testRunning =>
    rw [startStep] at h
    split at h
    · cases h
      exact .isRunning
    · cases h
      exact .notRunning
  | testJoinable =>
    rw [startStep] at h
    by_cases hworker : s.worker = .notStarted
    · rw [if_pos hworker] at h
      cases h
      exact .notJoinable hworker
    · rw [if_neg hworker] at h
      cases h
      exact .joinable hworker
  | join =>
    rw [startStep] at h
    by_cases hworker : s.worker = .finished
    · rw [if_pos hworker] at h
      cases h
      exact .join hworker
    · rw [if_neg hworker] at h
      cases h
  | spawn =>
    rw [startStep] at h
    by_cases hworker : s.worker = .notStarted
    · rw [if_pos hworker] at h
      cases h
      exact .spawn hworker
    · rw [if_neg hworker] at h
      cases h
  | _ =>
    cases h
    constructor

/-- The steps of `publish`; what they answer is left open. -/
inductive PublishMoves (s : Client ι) (i : ι) :
    PublishPc → Client ι → Option PublishPc → Prop where
  | notConnected {code} : PublishMoves s i .testConnected (s.answer i code) none
  | isConnected : PublishMoves s i .testConnected s (some .lock)
  | lock : s.mqtt_mutex_ = none →
      PublishMoves s i .lock { s with mqtt_mutex_ := some (.caller i) } (some .send)
  | send {code} : PublishMoves s i .send (s.answer i code).unlock none

omit [DecidableEq ι] in
theorem moves_publish {i : ι} {mid : ℤ} {pc : PublishPc} {next : Option PublishPc}
    (h : publishStep s i mid pc = some (t, next)) : PublishMoves s i pc t next := by
  cases pc with
  | testConnected =>
    rw [publishStep] at h
    split at h
    · cases h
      exact .isConnected
    · cases h
      exact .notConnected
  | lock =>
    obtain ⟨hfree, heq⟩ := map_lock_eq_some h
    cases heq
    exact .lock hfree
  | send =>
    rw [publishStep] at h
    split at h
    · cases h
      exact .send
    · cases h
      exact .send

/-- The steps of a caller within its call. -/
inductive CallerMoves (s : Client ι) (i : ι) : Client ι → Prop where
  | start {pc t next} : s.callers i = .start pc → StartMoves s i pc t next →
      CallerMoves s i (t.setCaller i (next.elim .idle .start))
  | stop {pc t next} : s.callers i = .stop pc → StopMoves s (.caller i) pc t next →
      CallerMoves s i (t.setCaller i (next.elim .idle .stop))
  | publish {pc t next} : s.callers i = .publish pc → PublishMoves s i pc t next →
      CallerMoves s i (t.setCaller i (next.elim .idle .publish))

theorem moves_caller {i : ι} {mid : ℤ} (h : callerStep s i mid = some t) :
    CallerMoves s i t := by
  unfold callerStep at h
  cases hpc : s.callers i with
  | idle =>
    rw [hpc] at h
    cases h
  | start pc =>
    simp only [hpc] at h
    obtain ⟨⟨u, next⟩, hstep, rfl⟩ := Option.map_eq_some_iff.mp h
    exact .start hpc (moves_start hstep)
  | stop pc =>
    simp only [hpc] at h
    obtain ⟨⟨u, next⟩, hstep, rfl⟩ := Option.map_eq_some_iff.mp h
    exact .stop hpc (moves_stop hstep)
  | publish pc =>
    simp only [hpc] at h
    obtain ⟨⟨u, next⟩, hstep, rfl⟩ := Option.map_eq_some_iff.mp h
    exact .publish hpc (moves_publish hstep)

/-- The steps of the worker. -/
inductive WorkerMoves (s : Client ι) (ok : Bool) : Client ι → Prop where
  | testExit : s.worker = .testExit →
      WorkerMoves s ok (s.setWorker (if s.thread_exit_ then .exiting else .lockNew))
  | lockNew : s.worker = .lockNew → s.mqtt_mutex_ = none →
      WorkerMoves s ok ({ s with mqtt_mutex_ := some .worker }.setWorker .create)
  | created : s.worker = .create → WorkerMoves s ok (s.newHandle.setWorker .configure)
  | notCreated : s.worker = .create → WorkerMoves s ok (s.nullHandle.setWorker .sleepLocked)
  | sleepLocked : s.worker = .sleepLocked → WorkerMoves s ok (s.unlock.setWorker .testExit)
  | configure : s.worker = .configure → WorkerMoves s ok (s.unlock.setWorker .callConnect)
  | callConnect : s.worker = .callConnect →
      WorkerMoves s ok (s.connect.setWorker (.connecting s.mqtt_cli_))
  | connected {cli} : s.worker = .connecting cli → ok = true →
      WorkerMoves s ok (s.setWorker .callRun)
  | notConnected {cli} : s.worker = .connecting cli → WorkerMoves s ok (s.setWorker .lockFail)
  | lockFail : s.worker = .lockFail → s.mqtt_mutex_ = none →
      WorkerMoves s ok ({ s with mqtt_mutex_ := some .worker }.setWorker .freeFail)
  | freeFail : s.worker = .freeFail → WorkerMoves s ok (s.dispose.unlock.setWorker .sleep)
  | sleep : s.worker = .sleep → WorkerMoves s ok (s.setWorker .testExit)
  | callRun : s.worker = .callRun → WorkerMoves s ok (s.setWorker (.running s.mqtt_cli_))
  | running {cli} : s.worker = .running cli → WorkerMoves s ok (s.setWorker .lockRun)
  | lockRun : s.worker = .lockRun → s.mqtt_mutex_ = none →
      WorkerMoves s ok ({ s with mqtt_mutex_ := some .worker }.setWorker .freeRun)
  | freeRun : s.worker = .freeRun → WorkerMoves s ok (s.dispose.unlock.setWorker .clearConnected)
  | clearConnected : s.worker = .clearConnected →
      WorkerMoves s ok ((s.setConnected false).setWorker .testBreak)
  | testBreak : s.worker = .testBreak →
      WorkerMoves s ok (s.setWorker (if s.thread_exit_ then .exiting else .reconnect))
  | giveUp : s.worker = .reconnect → WorkerMoves s ok (s.setWorker (.stop .lock))
  | reconnect {attempts} : s.worker = .reconnect →
      WorkerMoves s ok ((s.setAttempts attempts).setWorker .testExit)
  | stop {pc t next} : s.worker = .stop pc → StopMoves s .worker pc t next →
      WorkerMoves s ok (t.setWorker (next.elim .testExit .stop))
  | exiting : s.worker = .exiting → WorkerMoves s ok (s.setWorker .finished)

omit [DecidableEq ι] in
theorem moves_worker {ok : Bool} (h : workerStep config_ s ok = some t) : WorkerMoves s ok t := by
  unfold workerStep at h
  cases hpc : s.worker with
  | notStarted | finished =>
    rw [hpc] at h
    cases h
  | lockNew =>
    rw [hpc] at h
    obtain ⟨hfree, rfl⟩ := map_lock_eq_some h
    exact .lockNew hpc hfree
  | lockFail =>
    rw [hpc] at h
    obtain ⟨hfree, rfl⟩ := map_lock_eq_some h
    exact .lockFail hpc hfree
  | lockRun =>
    rw [hpc] at h
    obtain ⟨hfree, rfl⟩ := map_lock_eq_some h
    exact .lockRun hpc hfree
  | create =>
    rw [hpc] at h
    cases ok with
    | true =>
      cases h
      exact .created hpc
    | false =>
      cases h
      exact .notCreated hpc
  | connecting cli =>
    rw [hpc] at h
    cases h
    cases ok with
    | true => exact .connected hpc rfl
    | false => exact .notConnected hpc
  | reconnect =>
    rw [hpc] at h
    cases h
    unfold reconnect
    split
    · exact .giveUp hpc
    · exact .reconnect hpc
  | stop pc =>
    rw [hpc] at h
    obtain ⟨⟨u, next⟩, hstep, rfl⟩ := Option.map_eq_some_iff.mp h
    exact .stop hpc (moves_stop hstep)
  | testExit => rw [hpc] at h; cases h; exact .testExit hpc
  | sleepLocked => rw [hpc] at h; cases h; exact .sleepLocked hpc
  | configure => rw [hpc] at h; cases h; exact .configure hpc
  | callConnect => rw [hpc] at h; cases h; exact .callConnect hpc
  | freeFail => rw [hpc] at h; cases h; exact .freeFail hpc
  | sleep => rw [hpc] at h; cases h; exact .sleep hpc
  | callRun => rw [hpc] at h; cases h; exact .callRun hpc
  | running cli => rw [hpc] at h; cases h; exact .running hpc
  | freeRun => rw [hpc] at h; cases h; exact .freeRun hpc
  | clearConnected => rw [hpc] at h; cases h; exact .clearConnected hpc
  | testBreak => rw [hpc] at h; cases h; exact .testBreak hpc
  | exiting => rw [hpc] at h; cases h; exact .exiting hpc

theorem call_eq_some {i : ι} {f : Call} (h : step config_ s (.call i f) = some t) :
    s.callers i = .idle ∧ t = s.setCaller i (entry f) := by
  rw [step] at h
  cases hpc : s.callers i with
  | idle =>
    simp only [hpc, Option.some.injEq] at h
    exact ⟨rfl, h.symm⟩
  | _ => simp only [hpc, reduceCtorEq] at h

/-! ## The client as a guarded handle -/

def StartPc.role : StartPc → Role
  | .lock => .outside
  | _ => .inside

def StopPc.role : StopPc → Role
  | .lock => .outside
  | .free cli => .freeing cli
  | .clearHandle => .clearing
  | _ => .inside

def PublishPc.role : PublishPc → Role
  | .send => .inside
  | .testConnected | .lock => .outside

def CallerPc.role : CallerPc → Role
  | .idle => .outside
  | .start pc => pc.role
  | .stop pc => pc.role
  | .publish pc => pc.role

def WorkerPc.role : WorkerPc → Role
  | .create | .sleepLocked | .configure | .freeFail | .freeRun => .inside
  | .stop pc => pc.role
  | _ => .outside

/-- What a thread is doing with `mqtt_mutex_`. -/
def role (s : Client ι) : ThreadId ι → Role
  | .caller i => (s.callers i).role
  | .worker => s.worker.role

omit [DecidableEq ι] in
/-- A caller is inside `mqtt_mutex_` at a position inside. -/
theorem inside_of_caller {i : ι} {pc : CallerPc} (hpc : s.callers i = pc)
    (h : pc.role ≠ .outside) : role s (.caller i) ≠ .outside := by
  rw [← hpc] at h
  exact h

omit [DecidableEq ι] in
theorem inside_of_worker {pc : WorkerPc} (hpc : s.worker = pc) (h : pc.role ≠ .outside) :
    role s .worker ≠ .outside := by
  rw [← hpc] at h
  exact h

def guard (s : Client ι) : GuardedHandle (ThreadId ι) :=
  { owner := s.mqtt_mutex_, role := role s, slot := s.mqtt_cli_, created := s.created
    freed := s.freed }

theorem guard_setCaller (s : Client ι) (i : ι) (pc : CallerPc) :
    guard (s.setCaller i pc) = (guard s).setRole (.caller i) pc.role := by
  have hrole : role (s.setCaller i pc) = Function.update (role s) (.caller i) pc.role := by
    funext u
    rw [Function.update_apply]
    cases u with
    | caller j =>
      show (Function.update s.callers i pc j).role = _
      rw [Function.update_apply]
      by_cases hj : j = i
      · rw [if_pos hj, if_pos (congrArg ThreadId.caller hj)]
      · rw [if_neg hj, if_neg fun h => hj (ThreadId.caller.inj h)]
        rfl
    | worker => rfl
  rw [guard, hrole]
  rfl

theorem guard_setWorker (s : Client ι) (pc : WorkerPc) :
    guard (s.setWorker pc) = (guard s).setRole .worker pc.role := by
  have hrole : role (s.setWorker pc) = Function.update (role s) .worker pc.role := by
    funext u
    rw [Function.update_apply]
    cases u <;> rfl
  rw [guard, hrole]
  rfl

/-- A worker that neither held nor gets the mutex does nothing to the handle. -/
theorem guard_setWorker_outside {pc : WorkerPc} (h : s.worker.role = .outside)
    (hpc : pc.role = .outside) : guard (s.setWorker pc) = guard s := by
  rw [guard_setWorker, hpc]
  exact GuardedHandle.setRole_eq_self h

/-- A step of the guarded handle, or none. -/
def MayStep (g g' : GuardedHandle (ThreadId ι)) : Prop := g' = g ∨ GuardedHandle.Step g g'

/-- A step of `stop`, up to the new position of its thread. -/
theorem StopMoves.guard {self : ThreadId ι} {pc : StopPc} {next : Option StopPc}
    (h : StopMoves s self pc t next) (hrole : (guard s).role self = pc.role) :
    MayStep (guard s) ((guard t).setRole self (next.elim .outside StopPc.role)) := by
  cases h with
  | lock hfree => exact Or.inr (.acquire hrole hfree)
  | handle hcli => exact Or.inr (.prepare hrole hcli)
  | free => exact Or.inr (.free hrole)
  | clearHandle => exact Or.inr (.clear hrole)
  | notRunning | callback => exact Or.inr (.release hrole)
  | isRunning | setExit | clearRunning | noHandle | clearConnected =>
    exact Or.inl (GuardedHandle.setRole_eq_self hrole)

/-- A step of `start`, up to the new position of its thread. -/
theorem StartMoves.guard {i : ι} {pc : StartPc} {next : Option StartPc}
    (h : StartMoves s i pc t next) (hrole : (guard s).role (.caller i) = pc.role) :
    MayStep (guard s) ((guard t).setRole (.caller i) (next.elim .outside StartPc.role)) := by
  cases h with
  | lock hfree => exact Or.inr (.acquire hrole hfree)
  | isRunning => exact Or.inr (.release hrole)
  | join hworker =>
    rw [guard_setWorker_outside (by rw [hworker]; rfl) rfl]
    exact Or.inl (GuardedHandle.setRole_eq_self hrole)
  | spawn hworker =>
    show MayStep _ ((IndustrialMqttClient.guard (s.unlock.setWorker .testExit)).setRole _ _)
    rw [guard_setWorker_outside (s := s.unlock) (by rw [Client.unlock, hworker]; rfl) rfl]
    exact Or.inr (.release hrole)
  | notRunning | clearExit | setRunning | clearAttempts | notJoinable _ | joinable _ =>
    exact Or.inl (GuardedHandle.setRole_eq_self hrole)

/-- A step of `publish`, up to the new position of its thread. -/
theorem PublishMoves.guard {i : ι} {pc : PublishPc} {next : Option PublishPc}
    (h : PublishMoves s i pc t next) (hrole : (guard s).role (.caller i) = pc.role) :
    MayStep (guard s) ((guard t).setRole (.caller i) (next.elim .outside PublishPc.role)) := by
  cases h with
  | lock hfree => exact Or.inr (.acquire hrole hfree)
  | send => exact Or.inr (.release hrole)
  | notConnected | isConnected => exact Or.inl (GuardedHandle.setRole_eq_self hrole)

/-- A step of a caller. -/
theorem CallerMoves.guard {i : ι} (h : CallerMoves s i t) : MayStep (guard s) (guard t) := by
  have hrole : (IndustrialMqttClient.guard s).role (.caller i) = (s.callers i).role := rfl
  cases h with
  | @start pc u next hpc hmove =>
    rw [hpc] at hrole
    rw [guard_setCaller]
    have hguard := hmove.guard hrole
    cases next <;> exact hguard
  | @stop pc u next hpc hmove =>
    rw [hpc] at hrole
    rw [guard_setCaller]
    have hguard := hmove.guard hrole
    cases next <;> exact hguard
  | @publish pc u next hpc hmove =>
    rw [hpc] at hrole
    rw [guard_setCaller]
    have hguard := hmove.guard hrole
    cases next <;> exact hguard

/-- A step of the worker. -/
theorem WorkerMoves.guard {ok : Bool} (h : WorkerMoves s ok t) :
    MayStep (guard s) (guard t) := by
  have hrole : (IndustrialMqttClient.guard s).role .worker = s.worker.role := rfl
  cases h with
  | testExit hpc | testBreak hpc =>
    left
    apply guard_setWorker_outside (by rw [hpc]; rfl)
    split <;> rfl
  | lockNew hpc hfree | lockFail hpc hfree | lockRun hpc hfree =>
    rw [hpc] at hrole
    rw [guard_setWorker]
    exact Or.inr (.acquire hrole hfree)
  | created hpc =>
    rw [hpc] at hrole
    have hsame : IndustrialMqttClient.guard (s.newHandle.setWorker .configure)
        = IndustrialMqttClient.guard s.newHandle := by
      rw [guard_setWorker]
      exact GuardedHandle.setRole_eq_self hrole
    rw [hsame]
    exact Or.inr (.create hrole)
  | notCreated hpc =>
    rw [hpc] at hrole
    have hsame : IndustrialMqttClient.guard (s.nullHandle.setWorker .sleepLocked)
        = IndustrialMqttClient.guard s.nullHandle := by
      rw [guard_setWorker]
      exact GuardedHandle.setRole_eq_self hrole
    rw [hsame]
    exact Or.inr (.forget hrole)
  | sleepLocked hpc | configure hpc =>
    rw [hpc] at hrole
    rw [guard_setWorker]
    exact Or.inr (.release hrole)
  | freeFail hpc | freeRun hpc =>
    rw [hpc] at hrole
    rw [guard_setWorker]
    exact Or.inr (.dispose hrole)
  -- outside the mutex the handle stays what it is
  | callConnect hpc =>
    exact Or.inl (guard_setWorker_outside (s := s.connect) (by rw [Client.connect, hpc]; rfl) rfl)
  | clearConnected hpc =>
    exact Or.inl (guard_setWorker_outside (s := s.setConnected false)
      (by rw [Client.setConnected, hpc]; rfl) rfl)
  | reconnect hpc =>
    exact Or.inl (guard_setWorker_outside (s := s.setAttempts _)
      (by rw [Client.setAttempts, hpc]; rfl) rfl)
  | connected hpc _ | notConnected hpc | sleep hpc | callRun hpc | running hpc | giveUp hpc
  | exiting hpc =>
    exact Or.inl (guard_setWorker_outside (by rw [hpc]; rfl) rfl)
  | @stop pc u next hpc hmove =>
    rw [hpc] at hrole
    rw [guard_setWorker]
    have hguard := hmove.guard hrole
    cases next <;> exact hguard

/-- A step of any thread is a step of the guarded handle, or none. -/
theorem step_guard {a : Action ι} (h : step config_ s a = some t) :
    MayStep (guard s) (guard t) := by
  cases a with
  | call i f =>
    obtain ⟨hpc, rfl⟩ := call_eq_some h
    left
    rw [guard_setCaller]
    apply GuardedHandle.setRole_eq_self
    show (s.callers i).role = _
    rw [hpc]
    cases f <;> rfl
  | caller i mid => exact (moves_caller h).guard
  | worker ok => exact (moves_worker h).guard
  | event type =>
    cases h
    cases type <;> exact Or.inl rfl

omit [DecidableEq ι] in
theorem guard_initial : (guard (initial : Client ι)).Inv :=
  GuardedHandle.inv_idle (fun u => by cases u <;> rfl) rfl rfl

theorem guard_inv_step {a : Action ι} (h : (guard s).Inv) (hstep : step config_ s a = some t) :
    (guard t).Inv := by
  rcases step_guard hstep with heq | hguard
  · rw [heq]
    exact h
  · exact h.step hguard

/-! ## The handle in use -/

def WorkerPc.usesHandle : WorkerPc → Bool
  | .callConnect | .callRun | .running _ => true
  | _ => false

def CallerPc.frees : CallerPc → Bool
  | .stop (.free _) => true
  | _ => false

/-- The handle of a call of `mqtt_client_connect` that has not returned. -/
def WorkerPc.connectingTo : WorkerPc → Option ℕ
  | .connecting cli => cli
  | _ => none

/-- A `stop` frees the handle only while the worker is neither about to pass it on nor in
`mqtt_client_run`, and when `mqtt_client_connect` returns 0, its handle has not been freed. -/
def KeepsHandle (s : Client ι) : Action ι → Prop
  | .caller i _ => (s.callers i).frees = true → s.worker.usesHandle = false
  | .worker ok => ok = true → ∀ cli ∈ s.worker.connectingTo, cli ∉ s.freed
  | .call _ _ | .event _ => True

instance (s : Client ι) : ∀ a, Decidable (KeepsHandle s a)
  | .caller _ _ => inferInstanceAs (Decidable (_ → _))
  | .worker ok => inferInstanceAs (Decidable (ok = true → ∀ cli ∈ s.worker.connectingTo, _))
  | .call _ _ | .event _ => isTrue trivial

/-- The handle of the client exists and has not been freed. -/
def Live (s : Client ι) : Prop := ∃ cli, s.mqtt_cli_ = some cli ∧ cli ∉ s.freed

/-- What holds of the handle while the worker is at this position. -/
def UseOk (s : Client ι) : WorkerPc → Prop
  | .configure | .callConnect | .callRun => Live s
  | .connecting cli => ∃ h, cli = some h ∧ (h ∉ s.freed → s.mqtt_cli_ = some h)
  | .running cli => Live s ∧ cli = s.mqtt_cli_
  | _ => True

/-- The handles passed to `mqtt_client_connect` were live then, the one in use still is. -/
structure UseInv (s : Client ι) : Prop where
  use : UseOk s s.worker
  connects : ∀ c ∈ s.connects, ∃ cli, c.cli = some cli ∧ cli ∉ c.freed

omit [DecidableEq ι] in
/-- `stop` does not touch the threads. -/
theorem StopMoves.frame {self : ThreadId ι} {pc : StopPc} {next : Option StopPc}
    (h : StopMoves s self pc t next) :
    t.worker = s.worker ∧ t.callers = s.callers ∧ t.connects = s.connects := by
  cases h <;> exact ⟨rfl, rfl, rfl⟩

omit [DecidableEq ι] in
/-- Only two steps of `stop` touch the handle. -/
theorem StopMoves.handle_cases {self : ThreadId ι} {pc : StopPc} {next : Option StopPc}
    (h : StopMoves s self pc t next) :
    (t.mqtt_cli_ = s.mqtt_cli_ ∧ t.freed = s.freed) ∨
    (∃ cli, pc = .free cli ∧ t = s.free cli) ∨ (pc = .clearHandle ∧ t = s.nullHandle) := by
  cases h with
  | free => exact Or.inr (Or.inl ⟨_, rfl, rfl⟩)
  | clearHandle => exact Or.inr (Or.inr ⟨rfl, rfl⟩)
  | _ => exact Or.inl ⟨rfl, rfl⟩

omit [DecidableEq ι] in
/-- `start` touches neither the handle nor the callers, and replaces an old worker by a new one. -/
theorem StartMoves.frame {i : ι} {pc : StartPc} {next : Option StartPc}
    (h : StartMoves s i pc t next) :
    (t.mqtt_cli_ = s.mqtt_cli_ ∧ t.freed = s.freed ∧ t.connects = s.connects) ∧
    t.callers = s.callers ∧
    (t.worker = s.worker ∨ t.worker = .notStarted ∨ t.worker = .testExit) := by
  cases h with
  | join => exact ⟨⟨rfl, rfl, rfl⟩, rfl, Or.inr (Or.inl rfl)⟩
  | spawn => exact ⟨⟨rfl, rfl, rfl⟩, rfl, Or.inr (Or.inr rfl)⟩
  | _ => exact ⟨⟨rfl, rfl, rfl⟩, rfl, Or.inl rfl⟩

omit [DecidableEq ι] in
/-- `publish` touches neither the handle nor the threads. -/
theorem PublishMoves.frame {i : ι} {pc : PublishPc} {next : Option PublishPc}
    (h : PublishMoves s i pc t next) :
    (t.mqtt_cli_ = s.mqtt_cli_ ∧ t.freed = s.freed ∧ t.connects = s.connects) ∧
    t.callers = s.callers ∧ t.worker = s.worker := by
  cases h <;> exact ⟨⟨rfl, rfl, rfl⟩, rfl, rfl⟩

omit [DecidableEq ι] in
/-- Where the worker moves, there is one. -/
theorem WorkerMoves.present {ok : Bool} (h : WorkerMoves s ok t) : s.worker ≠ .notStarted := by
  intro hnone
  cases h with
  | lockNew hpc _ | lockFail hpc _ | lockRun hpc _ | connected hpc _ | stop hpc _ | testExit hpc
  | created hpc | notCreated hpc | sleepLocked hpc | configure hpc | callConnect hpc
  | notConnected hpc | freeFail hpc | sleep hpc | callRun hpc | running hpc | freeRun hpc
  | clearConnected hpc | testBreak hpc | giveUp hpc | reconnect hpc | exiting hpc =>
    rw [hnone] at hpc
    cases hpc

omit [DecidableEq ι] in
/-- The worker does not touch the callers. -/
theorem WorkerMoves.callers_eq {ok : Bool} (h : WorkerMoves s ok t) : t.callers = s.callers := by
  cases h with
  | stop _ hmove => exact hmove.frame.2.1
  | _ => rfl

omit [DecidableEq ι] in
/-- `UseOk` is about the handle and the freed ones only. -/
theorem UseOk.congr {pc : WorkerPc} (h : UseOk s pc) (hcli : t.mqtt_cli_ = s.mqtt_cli_)
    (hfreed : t.freed = s.freed) : UseOk t pc := by
  unfold UseOk Live at *
  rw [hcli, hfreed]
  exact h

omit [DecidableEq ι] in
/-- A `stop` frees the handle: the worker is not using it. -/
theorem UseOk.free {pc : WorkerPc} {cli : ℕ} (h : UseOk s pc) (huses : pc.usesHandle = false)
    (hconfigure : pc ≠ .configure) : UseOk (s.free cli) pc := by
  cases pc with
  | configure => exact absurd rfl hconfigure
  | callConnect | callRun | running _ => cases huses
  | connecting c =>
    obtain ⟨handle, hc, hslot⟩ := h
    exact ⟨handle, hc, fun hlive => hslot fun hmem => hlive (List.mem_append_left _ hmem)⟩
  | _ => trivial

omit [DecidableEq ι] in
/-- A `stop` empties the slot, whose handle it has freed: the worker is not using it. -/
theorem UseOk.nullHandle {pc : WorkerPc} (h : UseOk s pc)
    (hdead : ∀ cli ∈ s.mqtt_cli_, cli ∈ s.freed) : UseOk s.nullHandle pc := by
  have hnotLive : ¬ Live s := by
    intro hlive
    obtain ⟨cli, hcli, hmem⟩ := hlive
    exact hmem (hdead cli hcli)
  cases pc with
  | configure | callConnect | callRun => exact absurd h hnotLive
  | running c => exact absurd h.1 hnotLive
  | connecting c =>
    obtain ⟨handle, hc, hslot⟩ := h
    exact ⟨handle, hc, fun hlive => absurd (hdead handle (hslot hlive)) hlive⟩
  | _ => trivial

omit [DecidableEq ι] in
/-- `UseInv` where only handle, worker and histories are looked at. -/
theorem UseInv.of_frame (h : UseInv s) (huse : UseOk t t.worker)
    (hconnects : t.connects = s.connects) : UseInv t where
  use := huse
  connects := by
    rw [hconnects]
    exact h.connects

theorem UseInv.callerStep {i : ι} {mid : ℤ} (h : UseInv s) (hguard : (guard s).Inv)
    (hkeeps : KeepsHandle s (.caller i mid)) (hmove : CallerMoves s i t) : UseInv t := by
  cases hmove with
  | @start pc u next hpc hmove =>
    obtain ⟨⟨hcli, hfreed, hconnects⟩, -, hworker⟩ := hmove.frame
    refine h.of_frame ?_ hconnects
    show UseOk _ u.worker
    -- a new worker, or none, uses no handle
    rcases hworker with hworker | hworker | hworker
    · rw [hworker]
      exact h.use.congr hcli hfreed
    · rw [hworker]
      trivial
    · rw [hworker]
      trivial
  | @publish pc u next hpc hmove =>
    obtain ⟨⟨hcli, hfreed, hconnects⟩, -, hworker⟩ := hmove.frame
    refine h.of_frame ?_ hconnects
    show UseOk _ u.worker
    rw [hworker]
    exact h.use.congr hcli hfreed
  | @stop pc u next hpc hmove =>
    obtain ⟨hworker, -, hconnects⟩ := hmove.frame
    refine h.of_frame ?_ hconnects
    show UseOk _ u.worker
    rw [hworker]
    rcases hmove.handle_cases with ⟨hcli, hfreed⟩ | ⟨cli, rfl, rfl⟩ | ⟨rfl, rfl⟩
    · exact h.use.congr hcli hfreed
    · have hfree : UseOk (s.free cli) s.worker := by
        refine h.use.free (hkeeps (by rw [hpc]; rfl)) ?_
        intro hconfigure
        -- the worker configures under the mutex, which this `stop` holds
        have hout := hguard.outside_of_ne (t := .caller i) (u := .worker)
          (inside_of_caller hpc fun hrole => by cases hrole)
          (fun hne => by cases hne)
        rw [show (guard s).role .worker = s.worker.role from rfl, hconfigure] at hout
        cases hout
      exact hfree.congr rfl rfl
    · have hfits := hguard.fits (.caller i)
      rw [show (guard s).role (.caller i) = (s.callers i).role from rfl, hpc] at hfits
      exact (h.use.nullHandle hfits).congr rfl rfl

omit [DecidableEq ι] in
theorem UseInv.workerStep {ok : Bool} (h : UseInv s) (hguard : (guard s).Inv)
    (hkeeps : KeepsHandle s (.worker ok)) (hmove : WorkerMoves s ok t) : UseInv t := by
  have huse := h.use
  cases hmove with
  | testExit | testBreak =>
    refine h.of_frame ?_ rfl
    show UseOk _ (if s.thread_exit_ then _ else _)
    split <;> trivial
  | created =>
    -- a new handle is none of the freed ones
    exact ⟨⟨s.created, rfl, fun hmem => Nat.lt_irrefl _ (hguard.freed_lt _ hmem)⟩, h.connects⟩
  | configure hpc =>
    rw [hpc] at huse
    exact ⟨huse, h.connects⟩
  | callConnect hpc =>
    rw [hpc] at huse
    obtain ⟨cli, hcli, hlive⟩ := huse
    refine ⟨⟨cli, hcli, fun _ => hcli⟩, ?_⟩
    intro c hc
    rcases List.mem_append.mp hc with hc | hc
    · exact h.connects c hc
    · rw [List.mem_singleton.mp hc]
      exact ⟨cli, hcli, hlive⟩
  | connected hpc hok =>
    rw [hpc] at huse
    obtain ⟨handle, hcli, hslot⟩ := huse
    -- the answer 0 comes with a handle that is still live
    have hlive : handle ∉ s.freed := by
      apply hkeeps hok handle
      rw [hpc, hcli]
      rfl
    exact ⟨⟨handle, hslot hlive, hlive⟩, h.connects⟩
  | callRun hpc =>
    rw [hpc] at huse
    exact ⟨⟨huse, rfl⟩, h.connects⟩
  | @stop pc u next hpc hmove =>
    refine h.of_frame ?_ hmove.frame.2.2
    cases next <;> trivial
  | lockNew | notCreated | sleepLocked | notConnected | lockFail | freeFail | sleep | running
  | lockRun | freeRun | clearConnected | giveUp | reconnect | exiting =>
    exact ⟨trivial, h.connects⟩

theorem UseInv.step {a : Action ι} (h : UseInv s) (hguard : (guard s).Inv)
    (hkeeps : KeepsHandle s a) (hstep : step config_ s a = some t) : UseInv t := by
  cases a with
  | call i f =>
    obtain ⟨-, rfl⟩ := call_eq_some hstep
    exact h.of_frame (h.use.congr rfl rfl) rfl
  | caller i mid => exact h.callerStep hguard hkeeps (moves_caller hstep)
  | worker ok => exact h.workerStep hguard hkeeps (moves_worker hstep)
  | event type =>
    cases hstep
    cases type <;> exact h.of_frame (h.use.congr rfl rfl) rfl

/-- **Handle lifetime.** In every run in which `stop` frees the handle only while the worker does
not use it: every handle passed to `mqtt_client_connect` was a live one, so is the one on which
`mqtt_client_run` is executing, and no handle is freed twice. -/
theorem handle_lifetime (h : (system ι config_).ReachableWith KeepsHandle s) :
    (∀ c ∈ s.connects, ∃ cli, c.cli = some cli ∧ cli ∉ c.freed) ∧
    (∀ run, s.worker = .running run → ∃ cli, run = some cli ∧ cli ∉ s.freed) ∧
    s.freed.Nodup := by
  have hboth : (guard s).Inv ∧ UseInv s := by
    -- the mutex argument of `GuardedHandle` and the use of the handle go together
    refine LTS.ReachableWith.invariant (I := fun s => (guard s).Inv ∧ UseInv s) ?_ ?_ h
    · intro s hinit
      rw [show s = initial from hinit]
      exact ⟨guard_initial, trivial, fun _ hc => absurd hc List.not_mem_nil⟩
    · intro s a t hI hok hstep
      exact ⟨guard_inv_step hI.1 hstep, hI.2.step hI.1 hok hstep⟩
  refine ⟨hboth.2.connects, ?_, hboth.1.freed_nodup⟩
  intro run hrun
  have huse := hboth.2.use
  rw [hrun] at huse
  obtain ⟨⟨cli, hcli, hlive⟩, hrunning⟩ := huse
  exact ⟨cli, hrunning.trans hcli, hlive⟩

/-- A call, and steps of the calling thread. -/
def callAnd (f : Call) (n : ℕ) : List (Action Unit) :=
  .call () f :: List.replicate n (.caller () 0)

/-- Steps of the worker, on which libhv succeeds. -/
def works (n : ℕ) : List (Action Unit) := List.replicate n (.worker true)

/-- The connection drops and the worker releases the handle before `stop` is called. -/
def droppedThenStopped : List (Action Unit) :=
  callAnd .start 7 ++ works 10 ++ callAnd .stop 7 ++ works 3

def droppedEnd : Client Unit :=
  ((system Unit {}).exec initial droppedThenStopped).get (by decide)

theorem handle_lifetime_droppedEnd :
    droppedEnd.connects = [⟨some 0, []⟩] ∧ droppedEnd.freed.Nodup := by
  have hinit : (system Unit {}).ReachableWith KeepsHandle (initial : Client Unit) := .init rfl
  have hreach : (system Unit {}).ReachableWith KeepsHandle droppedEnd :=
    hinit.exec (Option.some_get _).symm
      (show (system Unit {}).Meets KeepsHandle initial droppedThenStopped by decide)
  exact ⟨by decide, (handle_lifetime hreach).2.2⟩

/-- `stop` is called while the client is connected, up to `mqtt_client_free`. -/
def stoppedWhileRunning : Client Unit :=
  ((system Unit {}).exec initial (callAnd .start 7 ++ works 7 ++ callAnd .stop 6)).get (by decide)

/-- `stop` is called when the worker has created the handle, then the worker connects. -/
def stoppedBeforeConnect : Client Unit :=
  ((system Unit {}).exec initial (callAnd .start 7 ++ works 4 ++ callAnd .stop 9 ++ works 1)).get
    (by decide)

/-- `mqtt_client_run` is executing on a freed handle; null is passed to `mqtt_client_connect`. -/
theorem handle_freed_in_use :
    ((system Unit {}).Reachable stoppedWhileRunning ∧
      stoppedWhileRunning.worker = .running (some 0) ∧ 0 ∈ stoppedWhileRunning.freed) ∧
    ((system Unit {}).Reachable stoppedBeforeConnect ∧
      stoppedBeforeConnect.connects = [⟨none, [0]⟩]) := by
  refine ⟨⟨LTS.reachable_of_exec rfl (Option.some_get _).symm, ?_, ?_⟩,
    LTS.reachable_of_exec rfl (Option.some_get _).symm, ?_⟩
  all_goals decide

end IndustrialMqttClient
end ShipMotion
