import ShipMotion.GetLidarData.AngleTableTheorems
import ShipMotion.GetLidarData.LidarRun
import ShipMotion.Utils.Mealy
import ShipMotion.Utils.Segments

/-!
# Frames are segments of the record stream

What the records of a run are (a marker, points, or nothing) is one stream, whatever packets carried
them. The frames that `LidarRun` hands over are the closed segments of the stream between markers:
the points of a segment up to the limit, with the last segment before them if the lidar stacks
frames, and marked as good if twenty of the records or more had a distance.
-/

namespace ShipMotion
namespace GetLidarData

open Utils

/-- What a record is to the collection of points; a marker says whether frames are stacked. -/
inductive Item (K : Type) where
  | marker (stacked : Bool)
  | echo (points : List (MuchLidarData K))
  | dark

namespace Item

variable {K : Type}

def separator : Item K → Option Bool
  | marker stacked => some stacked
  | _ => none

def points : Item K → List (MuchLidarData K)
  | echo points => points
  | _ => []

/-- The record has a distance. -/
def isEcho : Item K → Bool
  | echo _ => true
  | _ => false

end Item

/-! ## The stream of records -/

section Stream

variable {K : Type} [Field K] [LinearOrder K] [FloorRing K]

/-- The record with the head `r`; `points` are its points. -/
def recordItem (self : Settings K) (r : Head) (points : Option (List (MuchLidarData K))) :
    Option (Item K) :=
  if isMarker r then some (.marker (decide (self.m_StackFrame > 1)))
  else if rawDistance r = 0 then some .dark
  else points.map .echo

/-- The records of a packet. -/
def packetItems (self : Settings K) (f : EchoFormat) (data : Packet)
    (points : Fin f.records → Option (List (MuchLidarData K))) : Option (List (Item K)) :=
  (List.finRange f.records).mapM fun k => recordItem self (f.head data k) (points k)

/-- What the records depend on. -/
structure Reader (K : Type) where
  settings : Settings K
  lastAllTimestamp : UInt64

/-- The records of a packet, and the reader after it. -/
def readPacket (m : Platform K) (s : Reader K) (data : Packet) :
    Option (Reader K × List (Item K)) :=
  if isDevicePacket data then some ({ s with settings := s.settings.devicePacket data }, [])
  else
    let allTimestamp := packetTime data
    let settings := s.settings.dataPacket data
    let items :=
      if 2 = (data 1205).toNat then
        packetItems settings .double data
          (doublePoints m settings allTimestamp s.lastAllTimestamp data)
      else
        packetItems settings .single data
          (singlePoints m settings allTimestamp s.lastAllTimestamp data)
    items.map fun items => (⟨settings, allTimestamp⟩, items)

/-- The records of a list of packets. -/
def readPackets (m : Platform K) : Reader K → List Packet → Option (List (Item K))
  | _, [] => some []
  | s, data :: rest => do
    let (s, items) ← readPacket m s data
    let more ← readPackets m s rest
    some (items ++ more)

/-- The records of all datagrams of a run from the constructor. -/
def recordStream (m : Platform K) (datagrams : List (List UInt8)) : Option (List (Item K)) :=
  readPackets m ⟨.initial, 0⟩ (datagrams.filterMap collectionDataArrive)

end Stream

/-! ## Frames from segments -/

section Frames

variable {K : Type}

/-- The records with a distance. -/
def echoes (items : List (Item K)) : ℕ := items.countP Item.isEcho

/-- The points of a segment; above the limit no more are taken. -/
def subFrame (items : List (Item K)) : List (MuchLidarData K) :=
  items.foldl (fun points item =>
    if points.length > maxFramePoints then points else points ++ item.points) []

/-- The frame of a closed segment, after the last segment that was stacked. -/
def closeFrame (last : List (MuchLidarData K)) (segment : List (Item K) × Bool) :
    List (MuchLidarData K) × Frame K :=
  let points := subFrame segment.1
  let good : Bool := 20 ≤ echoes segment.1
  (if segment.2 then points else last,
    { points := if segment.2 then last ++ points else points
      isSuccessfulFlag := good
      mDataInfoString :=
        if good then "Obtaining data successfully!"
        else "Data error!!! All lidar distanceValue are 0!" })

/-- The frames of the closed segments. -/
def framesOf (segments : List (List (Item K) × Bool)) : List (Frame K) :=
  Mealy.outputs closeFrame [] segments

theorem subFrame_concat (items : List (Item K)) (item : Item K) :
    subFrame (items ++ [item]) =
      if (subFrame items).length > maxFramePoints then subFrame items
      else subFrame items ++ item.points := by
  unfold subFrame
  rw [List.foldl_append]
  rfl

theorem echoes_concat (items : List (Item K)) (item : Item K) :
    echoes (items ++ [item]) = echoes items + if item.isEcho then 1 else 0 := by
  unfold echoes
  rw [List.countP_append, List.countP_singleton]

/-- Below the limit a segment keeps all its points. -/
theorem subFrame_of_le (items : List (Item K)) (h : (subFrame items).length ≤ maxFramePoints) :
    subFrame items = items.flatMap Item.points := by
  induction items using List.reverseRecOn with
  | nil => rfl
  | append_singleton items item ih =>
    rw [subFrame_concat] at h ⊢
    rw [List.flatMap_append, List.flatMap_singleton]
    split_ifs at h ⊢ with hfull
    · omega
    · rw [ih (by omega)]

/-- A segment keeps the points of its first records. -/
theorem subFrame_initial (items : List (Item K)) : subFrame items <+: items.flatMap Item.points := by
  induction items using List.reverseRecOn with
  | nil => exact List.prefix_rfl
  | append_singleton items item ih =>
    rw [subFrame_concat, List.flatMap_append, List.flatMap_singleton]
    split_ifs with hfull
    · exact ih.trans (List.prefix_append _ _)
    · rw [subFrame_of_le items (by omega)]

/-- A segment with no more points than the limit keeps them all. -/
theorem subFrame_of_room {items : List (Item K)}
    (h : (items.flatMap Item.points).length ≤ maxFramePoints) :
    subFrame items = items.flatMap Item.points :=
  subFrame_of_le items ((subFrame_initial items).length_le.trans h)

/-- A record gives two points at most. -/
def Item.AtMostTwo (item : Item K) : Prop := item.points.length ≤ 2

/-- The limit is exceeded by the points of one record at most. -/
theorem length_subFrame_le {items : List (Item K)} (h : ∀ item ∈ items, item.AtMostTwo) :
    (subFrame items).length ≤ maxFramePoints + 2 := by
  induction items using List.reverseRecOn with
  | nil => exact Nat.zero_le _
  | append_singleton items item ih =>
    have hitem := h item (List.mem_append_right _ (List.mem_singleton_self item))
    have hrest := ih fun i hi => h i (List.mem_append_left _ hi)
    rw [subFrame_concat]
    split_ifs with hfull
    · exact hrest
    · rw [List.length_append]
      unfold Item.AtMostTwo at hitem
      omega

end Frames

/-! ## The collection keeps up with the stream -/

section Assembly

variable {K : Type}

/-- The collection holds what the split of the stream read so far says. The counter of records
with a distance stops at 31, and misses those that come when the frame is over the limit, which
needs more than 20 of them. -/
structure Assembled (s : Assembly K) (sp : Segments.Split (Item K) Bool) : Prop where
  count : s.count = 0
  frames : s.frames = framesOf sp.closed
  last : s.PointCloudLastData = Mealy.finalState closeFrame [] sp.closed
  current : s.LidarPerFrameDatePrt_Get = subFrame sp.rest
  lit : ∃ n ≤ echoes sp.rest, s.m_DistanceIsNotZero = min 31 n ∧
    s.LidarPerFrameDatePrt_Get.length ≤ 2 * n ∧
    (s.LidarPerFrameDatePrt_Get.length ≤ maxFramePoints → n = echoes sp.rest)

theorem assembled_initial (feedback : Feedback) :
    Assembled (.initial feedback : Assembly K) .empty :=
  ⟨rfl, rfl, rfl, rfl, 0, Nat.zero_le _, rfl, Nat.zero_le _, fun _ => rfl⟩

/-- Twenty records with a distance are counted exactly when there are as many. -/
theorem Assembled.good_iff {s : Assembly K} {sp : Segments.Split (Item K) Bool}
    (h : Assembled s sp) : s.m_DistanceIsNotZero < 20 ↔ ¬20 ≤ echoes sp.rest := by
  obtain ⟨n, hn, hcount, hlength, hexact⟩ := h.lit
  by_cases hfull : s.LidarPerFrameDatePrt_Get.length ≤ maxFramePoints
  · have := hexact hfull
    omega
  · unfold maxFramePoints at hfull
    omega

theorem frameFeedback_of_lt {s : Assembly K} (h : s.m_DistanceIsNotZero < 20) :
    frameFeedback s = { s.feedback with
      isSuccessfulFlag := false
      mDataInfoString := "Data error!!! All lidar distanceValue are 0!" } := by
  unfold frameFeedback
  rw [if_pos h]
  rfl

theorem frameFeedback_of_le {s : Assembly K} (h : 20 ≤ s.m_DistanceIsNotZero) :
    frameFeedback s = { s.feedback with
      isSuccessfulFlag := true, mDataInfoString := "Obtaining data successfully!" } := by
  unfold frameFeedback
  rw [if_neg (by omega)]

/-- What is handed over at a marker. -/
theorem frames_sendLidarData (m_StackFrame : ℕ) (s : Assembly K) :
    (sendLidarData (stackFrame m_StackFrame s)).frames = s.frames ++
      [⟨if m_StackFrame > 1 then s.PointCloudLastData ++ s.LidarPerFrameDatePrt_Get
        else s.LidarPerFrameDatePrt_Get,
        (frameFeedback s).isSuccessfulFlag, (frameFeedback s).mDataInfoString⟩] := by
  unfold stackFrame sendLidarData
  split_ifs <;> rfl

theorem last_sendLidarData (m_StackFrame : ℕ) (s : Assembly K) :
    (sendLidarData (stackFrame m_StackFrame s)).PointCloudLastData =
      if m_StackFrame > 1 then s.LidarPerFrameDatePrt_Get else s.PointCloudLastData := by
  unfold stackFrame sendLidarData
  split_ifs <;> rfl

/-- The frame that is handed over is the one the open segment closes to. -/
theorem Assembled.closeFrame_eq {s : Assembly K} {sp : Segments.Split (Item K) Bool}
    (h : Assembled s sp) (m_StackFrame : ℕ) :
    (closeFrame s.PointCloudLastData (sp.rest, decide (m_StackFrame > 1))).2 =
      ⟨if m_StackFrame > 1 then s.PointCloudLastData ++ s.LidarPerFrameDatePrt_Get
        else s.LidarPerFrameDatePrt_Get,
        (frameFeedback s).isSuccessfulFlag, (frameFeedback s).mDataInfoString⟩ := by
  unfold closeFrame
  rw [h.current]
  by_cases hgood : 20 ≤ echoes sp.rest
  · have hcount : 20 ≤ s.m_DistanceIsNotZero := by
      have := h.good_iff
      omega
    simp [frameFeedback_of_le hcount, hgood]
  · simp [frameFeedback_of_lt (h.good_iff.mpr hgood), hgood]

/-- Over the limit a record changes the messages only. -/
theorem Assembled.over_limit {s : Assembly K} {sp : Segments.Split (Item K) Bool}
    (h : Assembled s sp) (hfull : s.LidarPerFrameDatePrt_Get.length > maxFramePoints)
    (item : Item K) (feedback : Feedback) (m_messageCount : ℕ) :
    Assembled { s with feedback, m_messageCount } ⟨sp.closed, sp.rest ++ [item]⟩ := by
  obtain ⟨n, hn, hcount, hlength, -⟩ := h.lit
  refine ⟨h.count, h.frames, h.last, ?_, n, ?_, hcount, hlength, fun hle => ?_⟩
  · rw [subFrame_concat, ← h.current, if_pos hfull]
  · rw [echoes_concat]
    omega
  · dsimp only at hle
    omega

/-- Below the limit a record without a distance changes nothing, and one with a distance adds its
points and is counted. -/
theorem Assembled.below_limit {s : Assembly K} {sp : Segments.Split (Item K) Bool}
    (h : Assembled s sp) (hroom : s.LidarPerFrameDatePrt_Get.length ≤ maxFramePoints)
    {item : Item K} (hitem : item.AtMostTwo) (hpoints : item.isEcho = false → item.points = [])
    {m_DistanceIsNotZero : ℕ}
    (hlit : m_DistanceIsNotZero =
      if item.isEcho then min 31 (s.m_DistanceIsNotZero + 1) else s.m_DistanceIsNotZero) :
    Assembled
      { s with
        m_DistanceIsNotZero
        LidarPerFrameDatePrt_Get := s.LidarPerFrameDatePrt_Get ++ item.points }
      ⟨sp.closed, sp.rest ++ [item]⟩ := by
  obtain ⟨n, hn, hcount, hlength, hexact⟩ := h.lit
  have hn' := hexact hroom
  refine ⟨h.count, h.frames, h.last, ?_, echoes (sp.rest ++ [item]), le_rfl, ?_, ?_, fun _ => rfl⟩
  · rw [subFrame_concat, ← h.current, if_neg (by omega)]
  · rw [echoes_concat]
    dsimp only
    split_ifs at hlit ⊢ <;> omega
  · rw [echoes_concat]
    dsimp only
    rw [List.length_append]
    unfold Item.AtMostTwo at hitem
    split_ifs with hecho
    · omega
    · rw [hpoints (by simpa using hecho), List.length_nil]
      omega

variable [Field K] [LinearOrder K]

/-- At a marker the open segment is handed over. -/
theorem Assembled.marker {s : Assembly K} {sp : Segments.Split (Item K) Bool}
    (h : Assembled s sp) (self : Settings K) {r : Head} (hr : isMarker r = true)
    (points : Option (List (MuchLidarData K))) :
    ∃ t, echoStep self r points s = some t ∧
      Assembled t ⟨sp.closed ++ [(sp.rest, decide (self.m_StackFrame > 1))], []⟩ := by
  unfold echoStep
  rw [if_pos hr]
  dsimp only
  rw [if_pos (by rw [h.count])]
  refine ⟨_, rfl, rfl, ?_, ?_, ?_, 0, Nat.zero_le _, ?_, ?_, fun _ => rfl⟩
  case _ =>
    rw [framesOf, Mealy.outputs_concat, ← h.last, h.closeFrame_eq, ← framesOf, ← h.frames]
    exact frames_sendLidarData self.m_StackFrame { s with count := s.count + 1 }
  case _ =>
    have hlast := last_sendLidarData self.m_StackFrame { s with count := s.count + 1 }
    rw [Mealy.finalState_concat, ← h.last]
    refine hlast.trans ?_
    simp [closeFrame, h.current]
  case _ => rfl
  case _ => rfl
  case _ => exact Nat.zero_le _

variable [IsStrictOrderedRing K]

/-- The counter of records with a distance goes up to 31. -/
theorem countLit_eq {s : Assembly K} (hle : s.m_DistanceIsNotZero ≤ 31) (n : ℕ) :
    (if s.m_DistanceIsNotZero > 30 then s
      else if |(n : K) - 0| > 0.00000001 then
        { s with m_DistanceIsNotZero := s.m_DistanceIsNotZero + 1 }
      else s) =
      { s with m_DistanceIsNotZero :=
          if n = 0 then s.m_DistanceIsNotZero else min 31 (s.m_DistanceIsNotZero + 1) } := by
  by_cases hn : n = 0
  · have hsmall : ¬|((n : ℕ) : K) - 0| > 0.00000001 := by
      rw [hn]
      norm_num
    rw [if_neg hsmall, ite_self, if_pos hn]
  · have hlarge : |((n : ℕ) : K) - 0| > 0.00000001 := by
      have hone : (1 : K) ≤ n := by exact_mod_cast Nat.one_le_iff_ne_zero.mpr hn
      rw [sub_zero, abs_of_nonneg (by linarith)]
      norm_num
      linarith
    rw [if_pos hlarge, if_neg hn]
    split_ifs with hfull
    · rw [show min 31 (s.m_DistanceIsNotZero + 1) = s.m_DistanceIsNotZero by omega]
    · rw [show min 31 (s.m_DistanceIsNotZero + 1) = s.m_DistanceIsNotZero + 1 by omega]

/-- Every record is taken in as the stream says. -/
theorem Assembled.echoStep {s : Assembly K} {sp : Segments.Split (Item K) Bool}
    (h : Assembled s sp) {self : Settings K} {r : Head}
    {points : Option (List (MuchLidarData K))} {item : Item K}
    (hitem : recordItem self r points = some item) (htwo : item.AtMostTwo) :
    ∃ t, GetLidarData.echoStep self r points s = some t ∧
      Assembled t (sp.add Item.separator item) := by
  unfold recordItem at hitem
  by_cases hr : isMarker r = true
  · rw [if_pos hr, Option.some.injEq] at hitem
    rw [← hitem]
    exact h.marker self hr points
  rw [if_neg hr] at hitem
  -- the record is no separator
  have hsep : item.separator = none := by
    split_ifs at hitem
    · cases hitem
      rfl
    · obtain ⟨ps, -, rfl⟩ := Option.map_eq_some_iff.mp hitem
      rfl
  rw [Segments.Split.add_of_none hsep]
  unfold GetLidarData.echoStep
  rw [if_neg hr]
  dsimp only
  rw [if_neg (by rw [h.count]; decide)]
  by_cases hfull : s.LidarPerFrameDatePrt_Get.length > maxFramePoints
  · rw [if_pos hfull]
    by_cases hmessage : s.m_messageCount = 1
    · rw [if_pos hmessage]
      exact ⟨_, rfl, h.over_limit hfull item s.feedback s.m_messageCount⟩
    · rw [if_neg hmessage]
      exact ⟨_, rfl, h.over_limit hfull item _ 1⟩
  have hle : s.m_DistanceIsNotZero ≤ 31 := by
    obtain ⟨n, -, hcount, -⟩ := h.lit
    omega
  have hroom := not_lt.mp hfull
  rw [if_neg hfull, if_pos h.count, countLit_eq hle]
  by_cases hdistance : rawDistance r = 0
  · -- a record without a distance leaves the frame as it is
    rw [if_pos hdistance, Option.some.injEq] at hitem
    rw [hdistance, if_pos (by simp)]
    subst hitem
    have hsame := h.below_limit hroom htwo (fun _ => rfl)
      (show s.m_DistanceIsNotZero = if (Item.dark : Item K).isEcho then _ else _ from rfl)
    rw [show (Item.dark : Item K).points = [] from rfl, List.append_nil] at hsame
    exact ⟨_, rfl, hsame⟩
  · rw [if_neg hdistance] at hitem
    obtain ⟨ps, hps, rfl⟩ := Option.map_eq_some_iff.mp hitem
    have hpos : ¬((rawDistance r : ℕ) : K) ≤ 0 := by
      have : (1 : K) ≤ rawDistance r := by exact_mod_cast Nat.one_le_iff_ne_zero.mpr hdistance
      linarith
    rw [if_neg hpos, if_neg hdistance, hps]
    exact ⟨_, rfl, h.below_limit hroom htwo (fun hecho => by cases hecho) rfl⟩

end Assembly

/-! ## A run -/

section Run

variable {K : Type} [Field K] [LinearOrder K] [FloorRing K]

theorem length_singlePoints {m : Platform K} {self : Settings K}
    {allTimestamp lastAllTimestamp : UInt64} {data : Packet} {k : Fin EchoFormat.single.records}
    {ps : List (MuchLidarData K)}
    (h : singlePoints m self allTimestamp lastAllTimestamp data k = some ps) : ps.length ≤ 2 := by
  obtain ⟨v, -, hv⟩ := Option.bind_eq_some_iff.mp h
  cases hv
  exact Nat.le_succ 1

theorem length_doublePoints {m : Platform K} {self : Settings K}
    {allTimestamp lastAllTimestamp : UInt64} {data : Packet} {k : Fin EchoFormat.double.records}
    {ps : List (MuchLidarData K)}
    (h : doublePoints m self allTimestamp lastAllTimestamp data k = some ps) : ps.length ≤ 2 := by
  obtain ⟨v, -, hv⟩ := Option.bind_eq_some_iff.mp h
  cases hv
  exact le_rfl

omit [Field K] [LinearOrder K] [FloorRing K] in
theorem recordItem_atMostTwo {self : Settings K} {r : Head}
    {points : Option (List (MuchLidarData K))} {item : Item K}
    (h : recordItem self r points = some item) (htwo : ∀ ps ∈ points, ps.length ≤ 2) :
    item.AtMostTwo := by
  unfold recordItem at h
  split_ifs at h
  · cases h
    exact Nat.zero_le _
  · cases h
    exact Nat.zero_le _
  · obtain ⟨ps, hps, rfl⟩ := Option.map_eq_some_iff.mp h
    exact htwo ps hps

omit [Field K] [LinearOrder K] [FloorRing K] in
/-- The records of a packet can be read when their points can be computed. -/
theorem packetItems_isSome {self : Settings K} {f : EchoFormat} {data : Packet}
    {points : Fin f.records → Option (List (MuchLidarData K))}
    (hpoints : ∀ k, ∃ ps, points k = some ps) :
    ∃ items, packetItems self f data points = some items := by
  have hread : ∀ k, ∃ item, recordItem self (f.head data k) (points k) = some item := by
    intro k
    obtain ⟨ps, hps⟩ := hpoints k
    unfold recordItem
    rw [hps]
    split_ifs <;> exact ⟨_, rfl⟩
  choose item hitem using hread
  unfold packetItems
  generalize List.finRange f.records = ks
  induction ks with
  | nil => exact ⟨[], rfl⟩
  | cons k ks ih =>
    obtain ⟨items, hitems⟩ := ih
    refine ⟨item k :: items, ?_⟩
    rw [List.mapM_cons, hitem, hitems]
    rfl

variable [IsStrictOrderedRing K]

omit [FloorRing K] in
/-- The loop over the records takes in the records of the packet. -/
theorem Assembled.echoLoop {s : Assembly K} {sp : Segments.Split (Item K) Bool}
    (h : Assembled s sp) {self : Settings K} {f : EchoFormat} {data : Packet}
    {points : Fin f.records → Option (List (MuchLidarData K))} {items : List (Item K)}
    (hitems : packetItems self f data points = some items)
    (htwo : ∀ k, ∀ ps ∈ points k, ps.length ≤ 2) :
    ∃ t, GetLidarData.echoLoop self f data points s = some t ∧
      Assembled t (items.foldl (Segments.Split.add Item.separator) sp) :=
  Segments.foldlM_split
    (fun _ _ k _ hs hitem => hs.echoStep hitem (recordItem_atMostTwo hitem (htwo k))) h hitems

/-- A packet can be read, and is taken in as it is read. -/
theorem Assembled.lidarRunStep {s : State K} {sp : Segments.Split (Item K) Bool}
    (h : Assembled s.assembly sp) (hs : s.settings.Ranged) (m : Platform K) (data : Packet) :
    ∃ t items, GetLidarData.lidarRunStep m s data = some t ∧
      readPacket m ⟨s.settings, s.lastAllTimestamp⟩ data
        = some (⟨t.settings, t.lastAllTimestamp⟩, items) ∧
      t.settings.Ranged ∧
      Assembled t.assembly (items.foldl (Segments.Split.add Item.separator) sp) := by
  unfold GetLidarData.lidarRunStep readPacket
  dsimp only
  by_cases hdevice : isDevicePacket data = true
  · rw [if_pos hdevice, if_pos hdevice]
    exact ⟨_, [], rfl, rfl, hs.devicePacket data, h⟩
  rw [if_neg hdevice, if_neg hdevice]
  have hdata := hs.dataPacket data
  by_cases hdouble : 2 = (data 1205).toNat
  · obtain ⟨items, hitems⟩ : ∃ items,
        packetItems (s.settings.dataPacket data) .double data _ = some items :=
      packetItems_isSome (hdata.doublePoints m (packetTime data) s.lastAllTimestamp data)
    obtain ⟨t, ht, hassembled⟩ := h.echoLoop hitems fun k ps hps => length_doublePoints hps
    refine ⟨⟨s.settings.dataPacket data, packetTime data, t⟩, items, ?_, ?_, hdata, hassembled⟩
    · rw [if_pos hdouble, handleDoubleEcho, ht]
      rfl
    · rw [if_pos hdouble, hitems]
      rfl
  · obtain ⟨items, hitems⟩ : ∃ items,
        packetItems (s.settings.dataPacket data) .single data _ = some items :=
      packetItems_isSome (hdata.singlePoints m (packetTime data) s.lastAllTimestamp data)
    obtain ⟨t, ht, hassembled⟩ := h.echoLoop hitems fun k ps hps => length_singlePoints hps
    refine ⟨⟨s.settings.dataPacket data, packetTime data, t⟩, items, ?_, ?_, hdata, hassembled⟩
    · rw [if_neg hdouble, handleSingleEcho, ht]
      rfl
    · rw [if_neg hdouble, hitems]
      rfl

/-- Over a list of packets the collection keeps up with the records read. -/
theorem Assembled.foldlM {s : State K} {sp : Segments.Split (Item K) Bool}
    (h : Assembled s.assembly sp) (hs : s.settings.Ranged) (m : Platform K)
    (packets : List Packet) :
    ∃ t items, packets.foldlM (GetLidarData.lidarRunStep m) s = some t ∧
      readPackets m ⟨s.settings, s.lastAllTimestamp⟩ packets = some items ∧
      Assembled t.assembly (items.foldl (Segments.Split.add Item.separator) sp) := by
  induction packets generalizing s sp with
  | nil => exact ⟨s, [], rfl, rfl, h⟩
  | cons data packets ih =>
    obtain ⟨u, items, hu, hread, hranged, hassembled⟩ := h.lidarRunStep hs m data
    obtain ⟨t, more, ht, hmore, hfinal⟩ := ih hassembled hranged
    refine ⟨t, items ++ more, ?_, ?_, ?_⟩
    · rw [List.foldlM_cons, hu]
      exact ht
    · unfold readPackets
      rw [hread, Option.bind_eq_bind, Option.bind_some]
      dsimp only
      rw [hmore]
      rfl
    · rw [List.foldl_append]
      exact hfinal

/-- A run from the constructor keeps up with its record stream. -/
theorem lidarRun_assembled (m : Platform K) (feedback : Feedback)
    (datagrams : List (List UInt8)) :
    ∃ t items, lidarRun m (.initial feedback) datagrams = some t ∧
      recordStream m datagrams = some items ∧
      Assembled t.assembly (Segments.split Item.separator items) :=
  (assembled_initial feedback).foldlM (s := .initial feedback) .initial m
    (datagrams.filterMap collectionDataArrive)

/-- **Frames.** Whatever datagrams arrive after the constructor, the parser reads nothing outside
of its tables, and the frames it hands over are those of the closed segments of the record stream;
what it has collected are the points of the open one. -/
theorem lidarRun_frames (m : Platform K) (feedback : Feedback) (datagrams : List (List UInt8)) :
    ∃ t items, lidarRun m (.initial feedback) datagrams = some t ∧
      recordStream m datagrams = some items ∧
      t.assembly.frames = framesOf (Segments.split Item.separator items).closed ∧
      t.assembly.LidarPerFrameDatePrt_Get
        = subFrame (Segments.split Item.separator items).rest := by
  obtain ⟨t, items, ht, hitems, hassembled⟩ := lidarRun_assembled m feedback datagrams
  exact ⟨t, items, ht, hitems, hassembled.frames, hassembled.current⟩

end Run

/-! ## Two packets with markers -/

section Samples

/-- A library that computes exactly. -/
noncomputable def exactMath : Platform ℝ :=
  { toLibm := Libm.real, sqrt := Real.sqrt, outOfRange := fun _ => 0 }

/-- The records of a packet: three with a distance, a marker before the last of them, and nothing
behind it. -/
def sampleHead (k : ℕ) : Head :=
  if k = 2 then ![0xff, 0xaa, 0xbb, 0xcc, 0xdd, 0, 0, 0]
  else if k < 4 then ![0, 0, 0, 0, 0, 0x27, 0x10, 100]
  else fun _ => 0

/-- The packet with these records, of one echo each, at a second of PTP. -/
def samplePacket (second : UInt8) : Packet := fun i =>
  if (i : ℕ) < 1192 then sampleHead (i / 8 : ℕ) ⟨(i : ℕ) % 8, Nat.mod_lt _ (by decide)⟩
  else [0, 0, 0xff, 0, 0, 0, 0, second, 0, 0, 0, 0, 0, 1].getD (i - 1192 : ℕ) 0

/-- Two of them, a second apart. -/
def sampleDatagrams : List (List UInt8) :=
  [List.ofFn (samplePacket 1), List.ofFn (samplePacket 2)]

theorem collect_sampleDatagrams :
    sampleDatagrams.filterMap collectionDataArrive = [samplePacket 1, samplePacket 2] := by
  unfold sampleDatagrams
  simp only [List.filterMap_cons, collectionDataArrive_ofFn, List.filterMap_nil]

theorem head_samplePacket (second : UInt8) (k : Fin EchoFormat.single.records) :
    EchoFormat.single.head (samplePacket second) k = sampleHead k := by
  funext j
  have hk : (k : ℕ) < 149 := k.isLt
  have hrow : (8 * (k : ℕ) + j) / 8 = k ∧ (8 * (k : ℕ) + j) % 8 = j := by omega
  have hlt : 8 * (k : ℕ) + j < 1192 := by omega
  calc samplePacket second ⟨8 * k + j, by omega⟩
      = sampleHead ((8 * k + j) / 8) ⟨(8 * (k : ℕ) + j) % 8, Nat.mod_lt _ (by decide)⟩ := if_pos hlt
    _ = sampleHead k j := by simp only [hrow]

section Items

variable {K : Type}

/-- A record of the packet, with its point. -/
def sampleItem (k : ℕ) (p : MuchLidarData K) : Item K :=
  if k = 2 then .marker false else if k < 4 then .echo [p] else .dark

/-- The records behind the last point. -/
def darkItems : List (Item K) := List.replicate 145 .dark

theorem flatMap_points_darkItems : (darkItems : List (Item K)).flatMap Item.points = [] := by
  rw [List.flatMap_eq_nil_iff]
  intro item hitem
  rw [List.eq_of_mem_replicate hitem]
  rfl

theorem echoes_darkItems : echoes (darkItems : List (Item K)) = 0 := by
  unfold echoes
  rw [List.countP_eq_zero]
  intro item hitem
  rw [List.eq_of_mem_replicate hitem]
  exact Bool.false_ne_true

/-- The records of the packet, with the points of the first, the second and the fourth. -/
def sampleItems (a b c : MuchLidarData K) : List (Item K) :=
  [.echo [a], .echo [b], .marker false, .echo [c]] ++ darkItems

theorem recordItem_sampleHead {self : Settings K} (hself : self.m_StackFrame = 1) (k : ℕ)
    (p : MuchLidarData K) :
    recordItem self (sampleHead k) (some [p]) = some (sampleItem k p) := by
  unfold recordItem sampleHead sampleItem
  rw [hself]
  split_ifs <;> first | rfl | contradiction

theorem split_sampleItems (a b c d e f : MuchLidarData K) :
    Segments.split Item.separator (sampleItems a b c ++ sampleItems d e f) =
      ⟨[([.echo [a], .echo [b]], false),
        (.echo [c] :: darkItems ++ [.echo [d], .echo [e]], false)],
        .echo [f] :: darkItems⟩ := by
  have hdark : ∀ item ∈ (darkItems : List (Item K)), item.separator = none := by
    intro item hitem
    rw [List.eq_of_mem_replicate hitem]
    rfl
  unfold sampleItems
  rw [Segments.split_append, Segments.split_append, Segments.foldl_add_of_none hdark,
    List.foldl_append, Segments.foldl_add_of_none hdark]
  simp [Segments.split, Segments.Split.add, Segments.Split.empty, Item.separator]

/-- The frames of the two packets: the second goes on behind the first. -/
theorem framesOf_sampleItems (a b c d e f : MuchLidarData K) :
    framesOf (Segments.split Item.separator (sampleItems a b c ++ sampleItems d e f)).closed =
      [⟨[a, b], false, "Data error!!! All lidar distanceValue are 0!"⟩,
        ⟨[c, d, e], false, "Data error!!! All lidar distanceValue are 0!"⟩] := by
  have hpoints : (Item.echo [c] :: darkItems ++ [Item.echo [d], Item.echo [e]]).flatMap Item.points
      = [c, d, e] := by
    rw [List.flatMap_append, List.flatMap_cons, flatMap_points_darkItems]
    rfl
  have hechoes : echoes (.echo [c] :: darkItems ++ [.echo [d], .echo [e]]) = 3 := by
    unfold echoes
    rw [List.countP_append, List.countP_cons, ← echoes, echoes_darkItems]
    rfl
  have hsub : subFrame (.echo [c] :: darkItems ++ [.echo [d], .echo [e]]) = [c, d, e] := by
    have hroom : [c, d, e].length ≤ maxFramePoints := by simp [maxFramePoints]
    rw [subFrame_of_room (hpoints ▸ hroom), hpoints]
  rw [split_sampleItems]
  unfold framesOf Mealy.outputs closeFrame Mealy.outputs
  rw [hsub, hechoes]
  rfl

theorem subFrame_sampleItems (a b c d e f : MuchLidarData K) :
    subFrame (Segments.split Item.separator (sampleItems a b c ++ sampleItems d e f)).rest
      = [f] := by
  have hpoints : (Item.echo [f] :: darkItems).flatMap Item.points = [f] := by
    rw [List.flatMap_cons, flatMap_points_darkItems]
    rfl
  have hroom : [f].length ≤ maxFramePoints := by simp [maxFramePoints]
  rw [split_sampleItems, subFrame_of_room (hpoints ▸ hroom), hpoints]

variable [Field K] [LinearOrder K] [FloorRing K] [IsStrictOrderedRing K]

theorem packetItems_samplePacket (m : Platform K) (allTimestamp lastAllTimestamp : UInt64)
    (second : UInt8) :
    ∃ p : Fin EchoFormat.single.records → MuchLidarData K,
      packetItems .initial .single (samplePacket second)
        (singlePoints m .initial allTimestamp lastAllTimestamp (samplePacket second))
        = some (sampleItems (p ⟨0, by decide⟩) (p ⟨1, by decide⟩) (p ⟨3, by decide⟩)) ∧
      ∀ k, (p k).Mtimestamp_nsce
        = pointTime m allTimestamp lastAllTimestamp EchoFormat.single.records k := by
  choose p hp htime using
    Settings.Ranged.initial.singlePoint m allTimestamp lastAllTimestamp (samplePacket second)
  have hread : ∀ k : Fin EchoFormat.single.records,
      recordItem .initial (EchoFormat.single.head (samplePacket second) k)
        (singlePoints m .initial allTimestamp lastAllTimestamp (samplePacket second) k)
        = some (sampleItem k (p k)) := by
    intro k
    rw [head_samplePacket, hp]
    exact recordItem_sampleHead rfl k (p k)
  refine ⟨p, ?_, htime⟩
  unfold packetItems
  rw [funext hread]
  exact List.mapM_pure.trans rfl

end Items

/-- The stream of the two packets; the points of each are spread over the second before it. -/
theorem recordStream_sampleDatagrams :
    ∃ p q : Fin EchoFormat.single.records → MuchLidarData ℝ,
      recordStream exactMath sampleDatagrams =
        some (sampleItems (p ⟨0, by decide⟩) (p ⟨1, by decide⟩) (p ⟨3, by decide⟩)
          ++ sampleItems (q ⟨0, by decide⟩) (q ⟨1, by decide⟩) (q ⟨3, by decide⟩)) ∧
      (∀ k, (p k).Mtimestamp_nsce
        = pointTime exactMath 1000000000 0 EchoFormat.single.records k) ∧
      ∀ k, (q k).Mtimestamp_nsce
        = pointTime exactMath 2000000000 1000000000 EchoFormat.single.records k := by
  obtain ⟨p, hp, hptime⟩ := packetItems_samplePacket exactMath 1000000000 0 1
  obtain ⟨q, hq, hqtime⟩ := packetItems_samplePacket exactMath 2000000000 1000000000 2
  refine ⟨p, q, ?_, hptime, hqtime⟩
  have hfirst : packetTime (samplePacket 1) = 1000000000 := by decide
  have hsecond : packetTime (samplePacket 2) = 2000000000 := by decide
  have hsettings : ∀ second, (Settings.initial : Settings ℝ).dataPacket (samplePacket second)
      = .initial := by
    intro second
    have hbyte : samplePacket second 1204 = 0 := by simp [samplePacket]
    unfold Settings.dataPacket
    rw [hbyte, if_neg fun h => absurd h.1 (by decide)]
  have hdata : ∀ second, ¬isDevicePacket (samplePacket second) = true := fun _ => Bool.false_ne_true
  have hsingle : ∀ second, ¬2 = (samplePacket second 1205).toNat := by
    intro second
    have hbyte : samplePacket second 1205 = 1 := by simp [samplePacket]
    rw [hbyte]
    decide
  unfold recordStream
  rw [collect_sampleDatagrams]
  simp only [readPackets, readPacket, if_neg (hdata _), if_neg (hsingle _), hsettings, hfirst,
    hsecond, hp, hq, Option.map_some, Option.bind_eq_bind, Option.bind_some, List.append_nil]

theorem lidarRun_frames_sampleDatagrams :
    ∃ t items, lidarRun exactMath (.initial ⟨false, "", ""⟩) sampleDatagrams = some t ∧
      recordStream exactMath sampleDatagrams = some items ∧
      t.assembly.frames = framesOf (Segments.split Item.separator items).closed ∧
      t.assembly.LidarPerFrameDatePrt_Get
        = subFrame (Segments.split Item.separator items).rest ∧
      t.assembly.frames.map (fun frame => (frame.points.length, frame.isSuccessfulFlag))
        = [(2, false), (3, false)] ∧
      t.assembly.LidarPerFrameDatePrt_Get.length = 1 := by
  obtain ⟨t, items, ht, hitems, hframes, hcurrent⟩ :=
    lidarRun_frames exactMath ⟨false, "", ""⟩ sampleDatagrams
  obtain ⟨p, q, hstream, -⟩ := recordStream_sampleDatagrams
  refine ⟨t, items, ht, hitems, hframes, hcurrent, ?_⟩
  rw [hstream, Option.some.injEq] at hitems
  rw [hframes, hcurrent, ← hitems, framesOf_sampleItems, subFrame_sampleItems]
  exact ⟨rfl, rfl⟩

end Samples
end GetLidarData
end ShipMotion
