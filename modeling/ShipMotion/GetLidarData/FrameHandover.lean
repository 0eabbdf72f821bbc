import ShipMotion.GetLidarData.LidarRun
import ShipMotion.Utils.Mailbox
import ShipMotion.Utils.TransitionSystem

/-!
# The handover of frames between threads

`LidarRun` parses in a thread of its own. Two more threads receive datagrams and tell how that goes,
and the user's thread asks for frames. They share the members under `m_mutex`, but `sendLidarData`
takes the mutex twice, once for what it says of the frame and once for the frame itself, and
`getLidarPerFrameDate` reads `isSuccessfulFlag` after it has given the mutex back. A schedule
interleaves the critical sections, and the accesses outside of them.

Histories keep what was received and parsed, what was said, the frames with the place of their
verdict in what was said, and the answers.
-/

namespace ShipMotion
namespace GetLidarData

open Utils

/-- A record as the loop over the records sees it, with its points. -/
abbrev EchoRecord (K : Type) := Head × Option (List (MuchLidarData K))

/-- The flag and the text that concern the data packets. -/
abbrev Said := Bool × String

def Feedback.said (self : Feedback) : Said := (self.isSuccessfulFlag, self.mDataInfoString)

/-- Where `LidarRun` stands; `rest` are the records of the packet that are still to be read, the
verdict is what was said of the frame that is to be published, and where. -/
inductive ParserPc (K : Type) where
  | wait
  | records (data : Packet) (rest : List (EchoRecord K))
  | verdict (data : Packet) (rest : List (EchoRecord K))
  | publish (data : Packet) (rest : List (EchoRecord K)) (verdict : Said) (verdictAt : ℕ)
  | returned

/-- A frame handed over, and the place of its verdict in what was said. -/
structure Published (K : Type) where
  frame : Frame K
  verdictAt : ℕ

/-- What the locked part of `getLidarPerFrameDate` got; `taken` is the frame, `takenAt` the last
thing said before. -/
structure Take (K : Type) where
  preFrameData : Option (List (MuchLidarData K))
  Info : String
  taken : Option (Published K)
  takenAt : ℕ

/-- The answer of a call, with the flag and the last thing said before it was read. -/
structure Answer (K : Type) where
  take : Take K
  flag : Bool
  readAt : ℕ

/-- Where the user's thread stands; `ready` has seen `isFrameOK`. -/
inductive CallerPc (K : Type) where
  | idle
  | ready
  | taken (take : Take K)

/-- The members the threads share, where they stand, and the histories. -/
structure Driver (K : Type) where
  members : State K
  allDataValue : List Packet
  isQuit : Bool
  parser : ParserPc K
  caller : CallerPc K
  received : List Packet
  parsed : List Packet
  said : List Said
  box : Mailbox (Published K)
  answers : List (Answer K)

/-- The next step of a thread. -/
inductive DriverAction where
  | receive (pData : List UInt8)
  | message (strValue : String) (gValue : ℕ)
  | parse
  | poll
  | take
  | answer
  | lidarStop

section Assembly

variable {K : Type}

/-- The marker of a frame is counted. -/
def countMarker (r : Head) (s : Assembly K) : Assembly K :=
  if isMarker r then { s with count := s.count + 1 } else s

/-- What `sendLidarData` does before it takes the mutex for the frame. -/
def giveVerdict (s : Assembly K) : Assembly K :=
  { s with feedback := frameFeedback s, m_DistanceIsNotZero := 0 }

/-- The critical section of `sendLidarData` for the frame, of which `verdict` was said. -/
def publish (verdict : Said) (s : Assembly K) : Assembly K :=
  { s with
    LidarPerFrameDatePer := some s.LidarPerFrameDatePrt_Get
    LidarPerFrameDatePrt_Get := []
    isFrameOK := true
    frames := s.frames ++ [⟨s.LidarPerFrameDatePrt_Get, verdict.1, verdict.2⟩] }

/-- What the loop over the records does after `sendLidarData`. -/
def nextFrame (s : Assembly K) : Assembly K := { s with count := 0, m_messageCount := 0 }

end Assembly

namespace Driver

variable {K : Type}

def setAssembly (s : Driver K) (assembly : Assembly K) : Driver K :=
  { s with members := { s.members with assembly } }

def feedback (s : Driver K) : Feedback := s.members.assembly.feedback

/-- The history after a step in which something may have been said. -/
def hear (s : Driver K) : Driver K :=
  if s.said.getLast? = some s.feedback.said then s
  else { s with said := s.said ++ [s.feedback.said] }

/-- The place of the last thing said. -/
def lastSaid (s : Driver K) : ℕ := s.said.length - 1

/-- `messFunction` of any thread. -/
def message (s : Driver K) (strValue : String) (gValue : ℕ) : Driver K :=
  (s.setAssembly { s.members.assembly with
    feedback := s.feedback.messFunction strValue gValue }).hear

/-- The critical section of `getLidarPerFrameDate`. -/
def takeFrame (s : Driver K) : Driver K :=
  { s.setAssembly { s.members.assembly with isFrameOK := false, LidarPerFrameDatePer := none } with
    box := s.box.take
    caller := .taken
      { preFrameData := s.members.assembly.LidarPerFrameDatePer
        Info := s.feedback.mDataInfoString
        taken := s.box.slot
        takenAt := s.lastSaid } }

/-- The next step of the user's thread in or before `getLidarPerFrameDate`. -/
def callerStep (s : Driver K) : DriverAction → Option (Driver K)
  | .poll =>
    match s.caller with
    | .idle => some (if s.members.assembly.isFrameOK then { s with caller := .ready } else s)
    | _ => none
  | .take =>
    match s.caller with
    | .taken _ => none
    | _ => some s.takeFrame
  | .answer =>
    match s.caller with
    | .taken take =>
      some { s with
        caller := .idle
        answers := s.answers ++ [⟨take, s.feedback.isSuccessfulFlag, s.lastSaid⟩] }
    | _ => none
  | _ => none

end Driver

section Run

variable {K : Type} [Field K] [LinearOrder K] [FloorRing K]

/-- The records of a data packet. -/
def echoRecords (m : Platform K) (self : Settings K) (lastAllTimestamp : UInt64) (data : Packet) :
    List (EchoRecord K) :=
  if 2 = (data 1205).toNat then
    (List.finRange EchoFormat.double.records).map fun k =>
      (EchoFormat.double.head data k, doublePoints m self (packetTime data) lastAllTimestamp data k)
  else
    (List.finRange EchoFormat.single.records).map fun k =>
      (EchoFormat.single.head data k, singlePoints m self (packetTime data) lastAllTimestamp data k)

/-- `LidarRun` has taken a packet. -/
def Driver.startPacket (m : Platform K) (s : Driver K) (data : Packet) : Driver K :=
  let s := { s with parsed := s.parsed ++ [data] }
  if isDevicePacket data then
    { s with members := { s.members with settings := s.members.settings.devicePacket data } }
  else
    let settings := s.members.settings.dataPacket data
    { s with
      members := { s.members with settings }
      parser := .records data (echoRecords m settings s.members.lastAllTimestamp data) }

/-- The next step of `LidarRun`. -/
def Driver.parseStep (m : Platform K) (s : Driver K) : Option (Driver K) :=
  match s.parser with
  | .wait =>
    if s.isQuit then some { s with allDataValue := [], parser := .returned }
    else
      match s.allDataValue with
      | [] => some s
      | data :: allDataValue => some ({ s with allDataValue }.startPacket m data)
  | .records data [] =>
    some { s with
      members := { s.members with lastAllTimestamp := packetTime data }
      parser := .wait }
  | .records data ((r, points) :: rest) =>
    let counted := countMarker r s.members.assembly
    if counted.count = 1 then
      some { s.setAssembly (stackFrame s.members.settings.m_StackFrame counted) with
        parser := .verdict data rest }
    else
      (echoStep s.members.settings r points s.members.assembly).map fun assembly =>
        { s.setAssembly assembly with parser := .records data rest }.hear
  | .verdict data rest =>
    let s := s.setAssembly (giveVerdict s.members.assembly)
    some { s with
      said := s.said ++ [s.feedback.said]
      parser := .publish data rest s.feedback.said s.said.length }
  | .publish data rest verdict verdictAt =>
    let frame := ⟨s.members.assembly.LidarPerFrameDatePrt_Get, verdict.1, verdict.2⟩
    some { s.setAssembly (nextFrame (publish verdict s.members.assembly)) with
      box := s.box.put ⟨frame, verdictAt⟩
      parser := .records data rest }
  | .returned => none

/-- `CollectionDataArrive` in a thread that receives. -/
def Driver.receive (s : Driver K) (pData : List UInt8) : Driver K :=
  { s with
    allDataValue := s.allDataValue ++ (collectionDataArrive pData).toList
    received := s.received ++ (collectionDataArrive pData).toList }

def Driver.step (m : Platform K) (s : Driver K) : DriverAction → Option (Driver K)
  | .receive pData => some (s.receive pData)
  | .message strValue gValue => some (s.message strValue gValue)
  | .parse => s.parseStep m
  | .lidarStop => some { s with isQuit := true }
  | a => s.callerStep a

/-- After the constructor and `LidarStart`. -/
def Driver.initial (feedback : Feedback) : Driver K :=
  { members := .initial feedback, allDataValue := [], isQuit := false, parser := .wait
    caller := .idle, received := [], parsed := [], said := [feedback.said], box := .empty
    answers := [] }

/-- All interleavings of the parser, the threads that receive, and a thread that asks for
frames. -/
def driver (m : Platform K) (feedback : Feedback) : LTS (Driver K) DriverAction where
  init s := s = .initial feedback
  step := Driver.step m

end Run
end GetLidarData
end ShipMotion
