import ShipMotion.DataOutputter.DropOld
import ShipMotion.Utils.DottedQuad
import ShipMotion.Utils.JsonDump

/-!
# From an error report to the broker

`reportError` hands an error to the push callback, which is `pushRealTimeError`: the alarm made of
it goes through `err_task_queue_` to `mqttWorkerLoop`, which in each pass first publishes a package
of ship data, if there is one, and then an alarm. Any number of threads report; a schedule
interleaves them with the solver, which offers packages to a queue built with its limit as capacity,
and with the steps of `mqttWorkerLoop`. A call on a queue is one step. The clock, the local time of
a second as text and the answers of `isConnected` are part of the schedule or parameters; log lines
and the wait for a task are left out.
-/

namespace ShipMotion

open Utils Utils.Json

/-! ## The text of an alarm -/

namespace IndustrialMqttClient

/-- `j`: the members of an object are in the order of their keys. -/
def deviceStatus (deviceIp timestamp : Text) (deviceStatus : ℕ) : Json Decimal :=
  .obj [
    ("deviceIp".toList, .str deviceIp),
    ("deviceStatus".toList, .num ⟨false, deviceStatus, 0⟩),
    ("timestamp".toList, .str timestamp)]

/-- `buildDeviceStatusJson` -/
def buildDeviceStatusJson (deviceIp timestamp : Text) (status : ℕ) : Text :=
  dump 4 0 (deviceStatus deviceIp timestamp status)

end IndustrialMqttClient

namespace DataOutputter

/-- `((\d{1,3}\.){3}\d{1,3})` -/
def ipv4_regex : Regex Char := Regex.dotted Regex.upToThreeDigits

def ExtractIpByRegex (msg : Text) : Text := ((ipv4_regex.search msg).map (·.word)).getD []

structure DeviceErrMsg where
  ip : Text
  time_str : Text
  err_code : ℕ
  deriving DecidableEq

instance : Inhabited DeviceErrMsg := ⟨⟨[], [], 0⟩⟩

def MQTT_ERR_MAX_QUEUE : ℕ := 100

/-- `err_task_queue_` is built with the limit as its capacity. -/
def errCapacity : Capacity := ⟨MQTT_ERR_MAX_QUEUE, by decide, by decide⟩

/-- The alarm that `pushRealTimeError` makes of an error in the second `now`. -/
def alarmOf (put_time : ℕ → Text) (now : ℕ) (err : SystemError) : DeviceErrMsg :=
  { ip := ExtractIpByRegex err.message.toList
    time_str := put_time now
    err_code := err.level.toNat }

/-- `enqueueWithDropOld(err_task_queue_, msg, ..)` at the end of `pushRealTimeError`. -/
def offerAlarm (err_task_queue_ : LockFreeRingQueue errCapacity DeviceErrMsg) (msg : DeviceErrMsg) :
    Option (DropOldResult errCapacity DeviceErrMsg) :=
  enqueueWithDropOld 1 err_task_queue_ msg MQTT_ERR_MAX_QUEUE "MQTT错误告警队列" true

/-! ## The threads -/

namespace AlarmChannel

/-- What is published. -/
inductive Message (T : Type) where
  | shipData (pkg : T)
  | deviceStatus (statusJson : Text)

/-- The alarm a message is the text of. -/
def Message.alarm? {T : Type} : Message T → Option Text
  | .shipData _ => none
  | .deviceStatus statusJson => some statusJson

/-- Where `mqttWorkerLoop` stands. -/
inductive MqttPc (T : Type) where
  | test
  | takeData
  | publishData (pkg : T)
  | takeError
  | publishError (err_msg : DeviceErrMsg)
  | returned

/-- The manager, the errors whose callback has yet to run, the two queues, and histories: the
alarms offered, those the queue took, those taken out of it, and what was published. -/
structure State (C : Capacity) (T : Type) where
  manager : SystemStateManager
  calls : List SystemError
  mqtt_task_queue_ : LockFreeRingQueue C T
  err_task_queue_ : LockFreeRingQueue errCapacity DeviceErrMsg
  worker_running_ : Bool
  pc : MqttPc T
  reported : List SystemError
  accepted : List DeviceErrMsg
  taken : List DeviceErrMsg
  published : List (Message T)

inductive Action (T : Type) where
  | report (now : ℕ) (report : ErrorReport)
  | push (i : ℕ) (now : ℕ)
  | offer (pkg : T)
  | mqtt (connected : Bool)
  | stop

variable {C : Capacity} {T : Type} [Inhabited T]

/-- The errors that are handed to the push callback. -/
def pushes (calls : List ErrorCallback) : List SystemError :=
  calls.filterMap fun call => match call with
    | .push err => some err
    | .writeDB _ => none

/-- `reportError`, up to the call of the push callback. -/
def reportStep (s : State C T) (now : ℕ) (report : ErrorReport) : State C T :=
  let (manager, calls) := s.manager.reportError now report
  { s with
    manager
    calls := s.calls ++ pushes calls
    reported := s.reported ++ pushes calls }

/-- `pushRealTimeError` of a thread whose call is the `i`-th one open. -/
def pushStep (put_time : ℕ → Text) (s : State C T) (i now : ℕ) : Option (State C T) :=
  match s.calls[i]? with
  | none => none
  | some err =>
    let msg := alarmOf put_time now err
    (offerAlarm s.err_task_queue_ msg).map fun d =>
      { s with
        calls := s.calls.eraseIdx i
        err_task_queue_ := d.queue
        accepted := if d.ok then s.accepted ++ [msg] else s.accepted }

/-- The next step of `mqttWorkerLoop`. -/
def mqttStep (s : State C T) (connected : Bool) : Option (State C T) :=
  match s.pc with
  | .test => some { s with pc := if s.worker_running_ then .takeData else .returned }
  | .takeData =>
    let (mqtt_task_queue_, pkg, ok) := s.mqtt_task_queue_.dequeue default
    some { s with mqtt_task_queue_, pc := if ok then .publishData pkg else .takeError }
  | .publishData pkg =>
    some { s with
      pc := .takeError
      published := if connected then s.published ++ [.shipData pkg] else s.published }
  | .takeError =>
    let (err_task_queue_, err_msg, ok) := s.err_task_queue_.dequeue default
    some { s with
      err_task_queue_
      pc := if ok then .publishError err_msg else .test
      taken := if ok then s.taken ++ [err_msg] else s.taken }
  | .publishError err_msg =>
    let statusJson :=
      IndustrialMqttClient.buildDeviceStatusJson err_msg.ip err_msg.time_str err_msg.err_code
    some { s with
      pc := .test
      published := if connected then s.published ++ [.deviceStatus statusJson] else s.published }
  | .returned => none

def step (put_time : ℕ → Text) (s : State C T) : Action T → Option (State C T)
  | .report now report => some (reportStep s now report)
  | .push i now => pushStep put_time s i now
  | .offer pkg =>
    (enqueueWithDropOld 1 s.mqtt_task_queue_ pkg C.val "MQTT业务数据队列" false).map fun d =>
      { s with mqtt_task_queue_ := d.queue }
  | .mqtt connected => mqttStep s connected
  | .stop => some { s with worker_running_ := false }

/-- After the constructor of `ConcreteDataOutputter`. -/
def initial (manager : SystemStateManager) (mqtt_task_queue_ : LockFreeRingQueue C T)
    (err_task_queue_ : LockFreeRingQueue errCapacity DeviceErrMsg) : State C T :=
  { manager, calls := [], mqtt_task_queue_, err_task_queue_, worker_running_ := true, pc := .test
    reported := [], accepted := [], taken := [], published := [] }

/-- All interleavings; the error queue is empty at first. -/
def system (put_time : ℕ → Text) (C : Capacity) (T : Type) [Inhabited T] :
    LTS (State C T) (Action T) where
  init s := ∃ manager mqtt_task_queue_ err_task_queue_, err_task_queue_.contents = [] ∧
    s = initial manager mqtt_task_queue_ err_task_queue_
  step := step put_time

/-! ## What the program reports -/

/-- The reports of the compiled program; those of a radar that times out and of a registration that
fails are compiled out. -/
inductive Reported : ErrorReport → Prop where
  | initFailed : Reported ⟨.outputter, .statusError, "MQTT 客户端初始化失败"⟩
  | disconnected : Reported ⟨.outputter, .statusWarning, "MQTT 连接断开，自动重连中"⟩
  | dropped {drop_cnt : ℕ} {queue_name : String} {is_low_prio : Bool} {report : ErrorReport} :
      queue_name ∈ ["船体解算队列", "MQTT业务数据队列", "MQTT错误告警队列"] →
      .reportError report ∈ dropNotices drop_cnt queue_name is_low_prio → Reported report
  | notWritten : Reported ⟨.outputter, .statusError, "数据库写入异常"⟩
  | notSent : Reported ⟨.outputter, .statusWarning, "MQTT业务数据组装/发送异常"⟩
  | mismatch : Reported ⟨.fuser, .statusWarning, "雷达点云时间戳失配"⟩

/-- The reports of a step are among those of the program. -/
def OfProgram (_ : State C T) : Action T → Prop
  | .report _ report => Reported report
  | _ => True

end AlarmChannel
end DataOutputter
end ShipMotion
