import Mathlib.Data.Int.Notation
import Mathlib.Data.Nat.Notation
import Mathlib.Logic.Function.Basic
import ShipMotion.Utils.TransitionSystem

/-!
# `IndustrialMqttClient`

`start`, `stop` and `publish` are called from any threads `ι`; `mqttWorkThread` creates a client
handle, connects, runs it, frees it and starts over. `mqtt_mutex_` is held in `start`, `stop` and
`publishInternal`, and around the creation and the two releases of the handle, but not while the
worker connects or runs. A schedule decides which thread takes its next step: an acquisition
of the mutex, a read or write of a member, or a call of libhv with its answer; libhv may report
an event at any time.

Handles are numbered as they are created. `freed` and `connects` are histories: the handles
passed to `mqtt_client_free`, and those passed to `mqtt_client_connect`, each with the handles
freed by then.
-/

namespace ShipMotion
namespace IndustrialMqttClient

/-- The part of the configuration that decides what the threads do; `-1` is without a limit. -/
structure MqttConfig where
  max_reconnect_attempts : ℤ := -1

inductive ThreadId (ι : Type) where
  | caller (i : ι)
  | worker
  deriving DecidableEq

/-- Where a thread stands in `start`. -/
inductive StartPc where
  | lock | testRunning | clearExit | setRunning | clearAttempts | testJoinable | join | spawn
  deriving DecidableEq

/-- Where a thread stands in `stop`. -/
inductive StopPc where
  | lock | testRunning | setExit | clearRunning | testHandle
  | free (cli : ℕ)
  | clearHandle | clearConnected | callback
  deriving DecidableEq

/-- Where a thread stands in `publish`. -/
inductive PublishPc where
  | testConnected | lock | send
  deriving DecidableEq

inductive CallerPc where
  | idle
  | start (pc : StartPc)
  | stop (pc : StopPc)
  | publish (pc : PublishPc)
  deriving DecidableEq

/-- Where the worker stands in `mqttWorkThread`, or that there is none. -/
inductive WorkerPc where
  | notStarted
  | testExit
  | lockNew | create | sleepLocked | configure
  | callConnect
  | connecting (cli : Option ℕ)
  | lockFail | freeFail | sleep
  | callRun
  | running (cli : Option ℕ)
  | lockRun | freeRun | clearConnected | testBreak
  | reconnect
  | stop (pc : StopPc)
  | exiting | finished
  deriving DecidableEq

/-- A call of `mqtt_client_connect`: its handle, and the handles freed by then. -/
structure ConnectCall where
  cli : Option ℕ
  freed : List ℕ
  deriving DecidableEq

/-- The members, the positions of the threads, and the histories; `conn_status` are the calls of
`conn_callback_`, `answers` what `publish` returned. -/
structure Client (ι : Type) where
  mqtt_mutex_ : Option (ThreadId ι)
  mqtt_cli_ : Option ℕ
  is_connected_ : Bool
  is_running_ : Bool
  thread_exit_ : Bool
  reconnect_attempts_ : ℕ
  worker : WorkerPc
  callers : ι → CallerPc
  created : ℕ
  freed : List ℕ
  connects : List ConnectCall
  conn_status : List Bool
  answers : List (ι × ℤ)

inductive Call where
  | start | stop | publish
  deriving DecidableEq

inductive MqttEvent where
  | connack | disconnect | other
  deriving DecidableEq

/-- What a schedule may do next. `ok` is the answer of libhv to the worker: that a handle was
created, or that `mqtt_client_connect` returned 0; `mid` is the answer to a `publish`. -/
inductive Action (ι : Type) where
  | call (i : ι) (f : Call)
  | caller (i : ι) (mid : ℤ)
  | worker (ok : Bool)
  | event (type : MqttEvent)
  deriving DecidableEq

variable {ι : Type} [DecidableEq ι]

def Client.setCaller (s : Client ι) (i : ι) (pc : CallerPc) : Client ι :=
  { s with callers := Function.update s.callers i pc }

def Client.setWorker (s : Client ι) (pc : WorkerPc) : Client ι := { s with worker := pc }

/-- Acquire `mqtt_mutex_`, if nobody holds it. -/
def Client.lock (s : Client ι) (self : ThreadId ι) : Option (Client ι) :=
  match s.mqtt_mutex_ with
  | none => some { s with mqtt_mutex_ := some self }
  | some _ => none

def Client.unlock (s : Client ι) : Client ι := { s with mqtt_mutex_ := none }

/-- `mqtt_cli_ = mqtt_client_new(nullptr)`, when it succeeds. -/
def Client.newHandle (s : Client ι) : Client ι :=
  { s with mqtt_cli_ := some s.created, created := s.created + 1 }

/-- `mqtt_cli_ = nullptr` -/
def Client.nullHandle (s : Client ι) : Client ι := { s with mqtt_cli_ := none }

/-- `mqtt_client_connect(mqtt_cli_, ..)` -/
def Client.connect (s : Client ι) : Client ι :=
  { s with connects := s.connects ++ [⟨s.mqtt_cli_, s.freed⟩] }

/-- `mqtt_client_free(cli)` -/
def Client.free (s : Client ι) (cli : ℕ) : Client ι := { s with freed := s.freed ++ [cli] }

/-- `mqtt_client_free(mqtt_cli_); mqtt_cli_ = nullptr;`, where freeing null does nothing. -/
def Client.dispose (s : Client ι) : Client ι :=
  { s with freed := s.freed ++ s.mqtt_cli_.toList, mqtt_cli_ := none }

/-- `is_connected_ = connected` -/
def Client.setConnected (s : Client ι) (connected : Bool) : Client ι :=
  { s with is_connected_ := connected }

/-- `conn_callback_(connected)` -/
def Client.callback (s : Client ι) (connected : Bool) : Client ι :=
  { s with conn_status := s.conn_status ++ [connected] }

/-- `reconnect_attempts_ = attempts` -/
def Client.setAttempts (s : Client ι) (attempts : ℕ) : Client ι :=
  { s with reconnect_attempts_ := attempts }

/-- `thread_exit_ = exit` -/
def Client.setExit (s : Client ι) (exit : Bool) : Client ι := { s with thread_exit_ := exit }

/-- `is_running_ = running` -/
def Client.setRunning (s : Client ι) (running : Bool) : Client ι :=
  { s with is_running_ := running }

def Client.answer (s : Client ι) (i : ι) (code : ℤ) : Client ι :=
  { s with answers := s.answers ++ [(i, code)] }

/-- The next step of `stop`, called by the thread `self`; afterwards no position is left if
the call has returned. -/
def stopStep (s : Client ι) (self : ThreadId ι) : StopPc → Option (Client ι × Option StopPc)
  | .lock => (s.lock self).map fun s => (s, some .testRunning)
  -- `mqtt_mutex_` is held from here to the end of the call
  | .testRunning => if s.is_running_ then some (s, some .setExit) else some (s.unlock, none)
  | .setExit => some (s.setExit true, some .clearRunning)
  | .clearRunning => some (s.setRunning false, some .testHandle)
  | .testHandle =>
    match s.mqtt_cli_ with
    | some cli => some (s, some (.free cli))
    | none => some (s, some .clearConnected)
  | .free cli => some (s.free cli, some .clearHandle) -- after disconnect and stop
  | .clearHandle => some (s.nullHandle, some .clearConnected)
  | .clearConnected => some (s.setConnected false, some .callback)
  | .callback => some ((s.callback false).unlock, none)

/-- The next step of `start`, called by the thread `i`. -/
def startStep (s : Client ι) (i : ι) : StartPc → Option (Client ι × Option StartPc)
  | .lock => (s.lock (.caller i)).map fun s => (s, some .testRunning)
  | .testRunning => if s.is_running_ then some (s.unlock, none) else some (s, some .clearExit)
  | .clearExit => some (s.setExit false, some .setRunning)
  | .setRunning => some (s.setRunning true, some .clearAttempts)
  | .clearAttempts => some (s.setAttempts 0, some .testJoinable)
  | .testJoinable => some (s, some (if s.worker = .notStarted then .spawn else .join))
  | .join => if s.worker = .finished then some (s.setWorker .notStarted, some .spawn) else none
  | .spawn =>
    -- assigning to a joinable thread would terminate the program
    if s.worker = .notStarted then some ((s.setWorker .testExit).unlock, none) else none

/-- The next step of `publish`, called by the thread `i`. -/
def publishStep (s : Client ι) (i : ι) (mid : ℤ) :
    PublishPc → Option (Client ι × Option PublishPc)
  | .testConnected => if s.is_connected_ then some (s, some .lock) else some (s.answer i (-1), none)
  | .lock => (s.lock (.caller i)).map fun s => (s, some .send)
  -- `mid` is what libhv answers; a positive one becomes 0
  | .send =>
    match s.mqtt_cli_ with
    | none => some ((s.answer i (-2)).unlock, none)
    | some _ => some ((s.answer i (if mid ≤ 0 then mid else 0)).unlock, none)

/-- The next step of the thread `i`, within its call. -/
def callerStep (s : Client ι) (i : ι) (mid : ℤ) : Option (Client ι) :=
  match s.callers i with
  | .idle => none
  | .start pc =>
    (startStep s i pc).map fun (s, next) => s.setCaller i (next.elim .idle .start)
  | .stop pc =>
    (stopStep s (.caller i) pc).map fun (s, next) => s.setCaller i (next.elim .idle .stop)
  | .publish pc =>
    (publishStep s i mid pc).map fun (s, next) => s.setCaller i (next.elim .idle .publish)

/-- `reconnect`, up to a call of `stop`. -/
def reconnect (config_ : MqttConfig) (s : Client ι) : Client ι :=
  if config_.max_reconnect_attempts > 0 ∧
      (s.reconnect_attempts_ : ℤ) ≥ config_.max_reconnect_attempts then
    s.setWorker (.stop .lock)
  else (s.setAttempts (s.reconnect_attempts_ + 1)).setWorker .testExit

/-- The next step of `mqttWorkThread`. -/
def workerStep (config_ : MqttConfig) (s : Client ι) (ok : Bool) : Option (Client ι) :=
  match s.worker with
  | .notStarted => none
  | .testExit => some (s.setWorker (if s.thread_exit_ then .exiting else .lockNew))
  | .lockNew => (s.lock .worker).map (·.setWorker .create)
  | .create =>
    if ok then some (s.newHandle.setWorker .configure)
    else some (s.nullHandle.setWorker .sleepLocked)
  | .sleepLocked => some (s.unlock.setWorker .testExit)
  | .configure => some (s.unlock.setWorker .callConnect)
  -- the mutex is free again: `stop` may change `mqtt_cli_` in between
  | .callConnect => some (s.connect.setWorker (.connecting s.mqtt_cli_))
  | .connecting _ => some (s.setWorker (if ok then .callRun else .lockFail))
  | .lockFail => (s.lock .worker).map (·.setWorker .freeFail)
  | .freeFail => some (s.dispose.unlock.setWorker .sleep)
  | .sleep => some (s.setWorker .testExit)
  | .callRun => some (s.setWorker (.running s.mqtt_cli_))
  | .running _ => some (s.setWorker .lockRun)
  -- the connection is gone, or `stop` was called
  | .lockRun => (s.lock .worker).map (·.setWorker .freeRun)
  | .freeRun => some (s.dispose.unlock.setWorker .clearConnected)
  | .clearConnected => some ((s.setConnected false).setWorker .testBreak)
  | .testBreak => some (s.setWorker (if s.thread_exit_ then .exiting else .reconnect))
  | .reconnect => some (reconnect config_ s)
  | .stop pc =>
    (stopStep s .worker pc).map fun (s, next) => s.setWorker (next.elim .testExit .stop)
  | .exiting => some (s.setWorker .finished)
  | .finished => none

/-- `onMqttEvent` -/
def onMqttEvent (s : Client ι) : MqttEvent → Client ι
  | .connack => ((s.setConnected true).setAttempts 0).callback true
  | .disconnect => (s.setConnected false).callback false
  | .other => s

def entry : Call → CallerPc
  | .start => .start .lock
  | .stop => .stop .lock
  | .publish => .publish .testConnected

def step (config_ : MqttConfig) (s : Client ι) : Action ι → Option (Client ι)
  | .call i f =>
    match s.callers i with
    | .idle => some (s.setCaller i (entry f))
    | _ => none
  | .caller i mid => callerStep s i mid
  | .worker ok => workerStep config_ s ok
  | .event type => some (onMqttEvent s type)

/-- After the constructor. -/
def initial : Client ι :=
  { mqtt_mutex_ := none, mqtt_cli_ := none, is_connected_ := false, is_running_ := false
    thread_exit_ := false, reconnect_attempts_ := 0, worker := .notStarted
    callers := fun _ => .idle, created := 0, freed := [], connects := [], conn_status := []
    answers := [] }

/-- All interleavings of calls by the threads `ι` with the worker. -/
def system (ι : Type) [DecidableEq ι] (config_ : MqttConfig) :
    Utils.LTS (Client ι) (Action ι) where
  init s := s = initial
  step := step config_

end IndustrialMqttClient
end ShipMotion
