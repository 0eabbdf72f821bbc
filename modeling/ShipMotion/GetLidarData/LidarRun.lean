import ShipMotion.GetLidarData.EchoPackets

/-!
# The frames of `GetLidarData_LS`

The points of the records are collected in `LidarPerFrameDatePrt_Get`. At a marker the collected
points are handed over as a frame; a lidar that stacks two frames puts the points of the last one
before them. What is handed over is kept in the history `frames`.
-/

namespace ShipMotion
namespace GetLidarData

/-- What `sendLidarData` hands over, and what it says about it. -/
structure Frame (K : Type) where
  points : List (MuchLidarData K)
  isSuccessfulFlag : Bool
  mDataInfoString : String

/-- The members the collection of points works on. -/
structure Assembly (K : Type) where
  count : ℕ
  m_messageCount : ℕ
  m_DistanceIsNotZero : ℕ
  LidarPerFrameDatePrt_Get : List (MuchLidarData K)
  PointCloudLastData : List (MuchLidarData K)
  feedback : Feedback
  LidarPerFrameDatePer : Option (List (MuchLidarData K))
  isFrameOK : Bool
  frames : List (Frame K)

/-- After the constructor; `feedback` is what memory held. -/
def Assembly.initial {K : Type} (feedback : Feedback) : Assembly K :=
  { count := 0, m_messageCount := 0, m_DistanceIsNotZero := 0, LidarPerFrameDatePrt_Get := []
    PointCloudLastData := [], feedback, LidarPerFrameDatePer := none, isFrameOK := false
    frames := [] }

/-- The number of points above which a frame takes no more. -/
def maxFramePoints : ℕ := 3000000

section Assembly

variable {K : Type}

/-- What is said of the frame that is handed over. -/
def frameFeedback (s : Assembly K) : Feedback :=
  if s.m_DistanceIsNotZero < 20 then
    s.feedback.messFunction "Data error!!! All lidar distanceValue are 0!" 10032
  else
    { s.feedback with
      isSuccessfulFlag := true, mDataInfoString := "Obtaining data successfully!" }

/-- `sendLidarData` -/
def sendLidarData (s : Assembly K) : Assembly K :=
  let feedback := frameFeedback s
  { s with
    feedback
    m_DistanceIsNotZero := 0
    LidarPerFrameDatePer := some s.LidarPerFrameDatePrt_Get
    LidarPerFrameDatePrt_Get := []
    isFrameOK := true
    frames := s.frames ++
      [⟨s.LidarPerFrameDatePrt_Get, feedback.isSuccessfulFlag, feedback.mDataInfoString⟩] }

/-- The points of the last frame go before those of this one, which is then the last. -/
def stackFrame (m_StackFrame : ℕ) (s : Assembly K) : Assembly K :=
  if m_StackFrame > 1 then
    let tempPointCloud := s.LidarPerFrameDatePrt_Get
    { s with
      LidarPerFrameDatePrt_Get := s.PointCloudLastData ++ s.LidarPerFrameDatePrt_Get
      PointCloudLastData := tempPointCloud }
  else s

/-- One pass of the loop over the records; `points` are those of the record. -/
def echoStep [Field K] [LinearOrder K] (self : Settings K) (r : Head)
    (points : Option (List (MuchLidarData K))) (s : Assembly K) : Option (Assembly K) :=
  let s := if isMarker r then { s with count := s.count + 1 } else s
  if s.count = 1 then
    some { sendLidarData (stackFrame self.m_StackFrame s) with count := 0, m_messageCount := 0 }
  else if s.LidarPerFrameDatePrt_Get.length > maxFramePoints then
    if s.m_messageCount = 1 then some s
    else
      some { s with
        feedback := s.feedback.messFunction "Frame synchronization failure!!!" 10031
        m_messageCount := 1 }
  else if s.count = 0 then
    let tDistance : K := rawDistance r
    let s :=
      if s.m_DistanceIsNotZero > 30 then s
      else if |tDistance - 0| > 0.00000001 then
        { s with m_DistanceIsNotZero := s.m_DistanceIsNotZero + 1 }
      else s
    if tDistance ≤ 0 then some s
    else
      points.map fun points =>
        { s with LidarPerFrameDatePrt_Get := s.LidarPerFrameDatePrt_Get ++ points }
  else some s

/-- The loop over the records of a packet. -/
def echoLoop [Field K] [LinearOrder K] (self : Settings K) (f : EchoFormat) (data : Packet)
    (points : Fin f.records → Option (List (MuchLidarData K))) (s : Assembly K) :
    Option (Assembly K) :=
  (List.finRange f.records).foldlM (fun s k => echoStep self (f.head data k) (points k) s) s

end Assembly

/-- What `LidarRun` works on. -/
structure State (K : Type) where
  settings : Settings K
  lastAllTimestamp : UInt64
  assembly : Assembly K

section Run

variable {K : Type} [Field K] [LinearOrder K] [FloorRing K]

/-- After the constructor. -/
def State.initial (feedback : Feedback) : State K :=
  { settings := .initial, lastAllTimestamp := 0, assembly := .initial feedback }

/-- `handleSingleEcho(data)` -/
def handleSingleEcho (m : Platform K) (s : State K) (allTimestamp : UInt64) (data : Packet) :
    Option (Assembly K) :=
  echoLoop s.settings .single data
    (singlePoints m s.settings allTimestamp s.lastAllTimestamp data) s.assembly

/-- `handleDoubleEcho(data)` -/
def handleDoubleEcho (m : Platform K) (s : State K) (allTimestamp : UInt64) (data : Packet) :
    Option (Assembly K) :=
  echoLoop s.settings .double data
    (doublePoints m s.settings allTimestamp s.lastAllTimestamp data) s.assembly

/-- What `LidarRun` does with a packet. -/
def lidarRunStep (m : Platform K) (s : State K) (data : Packet) : Option (State K) :=
  if isDevicePacket data then some { s with settings := s.settings.devicePacket data }
  else
    let allTimestamp := packetTime data
    let s := { s with settings := s.settings.dataPacket data }
    let assembly :=
      if 2 = (data 1205).toNat then handleDoubleEcho m s allTimestamp data
      else handleSingleEcho m s allTimestamp data
    assembly.map fun assembly => { s with assembly, lastAllTimestamp := allTimestamp }

/-- `LidarRun`, over the datagrams that arrive. -/
def lidarRun (m : Platform K) (s : State K) (datagrams : List (List UInt8)) : Option (State K) :=
  (datagrams.filterMap collectionDataArrive).foldlM (lidarRunStep m) s

end Run
end GetLidarData
end ShipMotion
