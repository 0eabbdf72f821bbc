import ShipMotion.GetLidarData.FrameHandover
import ShipMotion.GetLidarData.FrameTheorems

/-!
# The parser does what it would do alone

The collection of points does not depend on what the parser shares with other threads. So however
the threads interleave, the parser stands where `lidarRunStep` over the packets it has taken would
stand, but for the records of the packet that are still to be read.
-/

namespace ShipMotion
namespace GetLidarData

open Utils

variable {K : Type}

/-! ## What the collection of points depends on -/

section Collection

/-- The members the collection of points works on are the same; what is shared with the user's
thread may differ. -/
structure SameCollection (s t : Assembly K) : Prop where
  count : s.count = t.count
  messages : s.m_messageCount = t.m_messageCount
  lit : s.m_DistanceIsNotZero = t.m_DistanceIsNotZero
  current : s.LidarPerFrameDatePrt_Get = t.LidarPerFrameDatePrt_Get
  last : s.PointCloudLastData = t.PointCloudLastData
  frames : (s.frames.map fun f => f.points) = t.frames.map fun f => f.points

theorem SameCollection.refl (s : Assembly K) : SameCollection s s := ⟨rfl, rfl, rfl, rfl, rfl, rfl⟩

theorem SameCollection.trans {s t u : Assembly K} (hst : SameCollection s t)
    (htu : SameCollection t u) : SameCollection s u where
  count := hst.count.trans htu.count
  messages := hst.messages.trans htu.messages
  lit := hst.lit.trans htu.lit
  current := hst.current.trans htu.current
  last := hst.last.trans htu.last
  frames := hst.frames.trans htu.frames

variable {s t : Assembly K}

theorem SameCollection.stackFrame (h : SameCollection s t) (m_StackFrame : ℕ) :
    SameCollection (stackFrame m_StackFrame s) (stackFrame m_StackFrame t) := by
  unfold GetLidarData.stackFrame
  split_ifs
  · exact
      { h with
        current := by simp only [h.current, h.last]
        last := h.current }
  · exact h

theorem SameCollection.countMarker (h : SameCollection s t) (r : Head) :
    SameCollection (countMarker r s) (countMarker r t) := by
  unfold GetLidarData.countMarker
  split_ifs
  · exact { h with count := congrArg (· + 1) h.count }
  · exact h

theorem SameCollection.nextFrame (h : SameCollection s t) :
    SameCollection (nextFrame s) (nextFrame t) :=
  { h with count := rfl, messages := rfl }

theorem SameCollection.publish (h : SameCollection s t) (verdict verdict' : Said) :
    SameCollection (publish verdict s) (publish verdict' t) :=
  { h with
    current := rfl
    frames := by
      simp only [GetLidarData.publish, List.map_append, List.map_cons, List.map_nil, h.frames,
        h.current] }

theorem SameCollection.giveVerdict (h : SameCollection s t) :
    SameCollection (giveVerdict s) (giveVerdict t) :=
  { h with lit := rfl }

/-- `sendLidarData` is its two critical sections, one after the other. -/
theorem sendLidarData_eq (s : Assembly K) :
    sendLidarData s = publish (giveVerdict s).feedback.said (giveVerdict s) := rfl

theorem SameCollection.sendLidarData (h : SameCollection s t) :
    SameCollection (sendLidarData s) (sendLidarData t) := by
  rw [sendLidarData_eq, sendLidarData_eq]
  exact h.giveVerdict.publish _ _

/-- What the user's thread sees stays, but for what is said. -/
structure KeepsShared (s t : Assembly K) : Prop where
  frames : t.frames = s.frames
  isFrameOK : t.isFrameOK = s.isFrameOK
  pending : t.LidarPerFrameDatePer = s.LidarPerFrameDatePer

theorem keepsShared_countMarker (r : Head) (s : Assembly K) : KeepsShared s (countMarker r s) := by
  unfold countMarker
  split_ifs <;> exact ⟨rfl, rfl, rfl⟩

theorem keepsShared_stackFrame (m_StackFrame : ℕ) (s : Assembly K) :
    KeepsShared s (stackFrame m_StackFrame s) := by
  unfold stackFrame
  split_ifs <;> exact ⟨rfl, rfl, rfl⟩

theorem KeepsShared.trans {s t u : Assembly K} (hst : KeepsShared s t) (htu : KeepsShared t u) :
    KeepsShared s u :=
  ⟨htu.frames.trans hst.frames, htu.isFrameOK.trans hst.isFrameOK, htu.pending.trans hst.pending⟩

variable [Field K] [LinearOrder K]

/-- A record with a distance is counted. -/
def countDistance (K : Type) [Field K] [LinearOrder K] {L : Type} (r : Head) (s : Assembly L) :
    Assembly L :=
  if s.m_DistanceIsNotZero > 30 then s
  else if |(rawDistance r : K) - 0| > 0.00000001 then
    { s with m_DistanceIsNotZero := s.m_DistanceIsNotZero + 1 }
  else s

/-- What a record does that hands over no frame. -/
def collect (r : Head) (points : Option (List (MuchLidarData K))) (s : Assembly K) :
    Option (Assembly K) :=
  if s.LidarPerFrameDatePrt_Get.length > maxFramePoints then
    if s.m_messageCount = 1 then some s
    else
      some { s with
        feedback := s.feedback.messFunction "Frame synchronization failure!!!" 10031
        m_messageCount := 1 }
  else if s.count = 0 then
    let s := countDistance K r s
    if (rawDistance r : K) ≤ 0 then some s
    else
      points.map fun points =>
        { s with LidarPerFrameDatePrt_Get := s.LidarPerFrameDatePrt_Get ++ points }
  else some s

theorem echoStep_eq (self : Settings K) (r : Head) (points : Option (List (MuchLidarData K)))
    (s : Assembly K) :
    echoStep self r points s
      = if (countMarker r s).count = 1 then
          some (nextFrame (sendLidarData (stackFrame self.m_StackFrame (countMarker r s))))
        else collect r points (countMarker r s) := rfl

theorem SameCollection.countDistance (h : SameCollection s t) (r : Head) :
    SameCollection (countDistance K r s) (countDistance K r t) := by
  unfold GetLidarData.countDistance
  have hlit : (t.m_DistanceIsNotZero > 30) = (s.m_DistanceIsNotZero > 30) := by rw [h.lit]
  simp only [hlit]
  split_ifs
  · exact h
  · exact { h with lit := congrArg (· + 1) h.lit }
  · exact h

theorem keepsShared_countDistance (r : Head) (s : Assembly K) :
    KeepsShared s (countDistance K r s) := by
  unfold countDistance
  split_ifs <;> exact ⟨rfl, rfl, rfl⟩

theorem SameCollection.collect (h : SameCollection s t) {r : Head}
    {points : Option (List (MuchLidarData K))} {u : Assembly K} (hu : collect r points s = some u) :
    ∃ v, GetLidarData.collect r points t = some v ∧ SameCollection u v := by
  unfold GetLidarData.collect at hu ⊢
  have hlength : (t.LidarPerFrameDatePrt_Get.length > maxFramePoints)
      = (s.LidarPerFrameDatePrt_Get.length > maxFramePoints) := by rw [h.current]
  have hmessages : (t.m_messageCount = 1) = (s.m_messageCount = 1) := by rw [h.messages]
  have hcount : (t.count = 0) = (s.count = 0) := by rw [h.count]
  simp only [hlength, hmessages, hcount]
  split_ifs at hu ⊢
  · exact ⟨t, rfl, Option.some.inj hu ▸ h⟩
  · obtain rfl := Option.some.inj hu
    exact ⟨_, rfl, { h with messages := rfl }⟩
  · exact ⟨_, rfl, Option.some.inj hu ▸ h.countDistance r⟩
  · obtain ⟨ps, rfl, rfl⟩ := Option.map_eq_some_iff.mp hu
    have hsame := h.countDistance r
    exact ⟨_, rfl, { hsame with current := congrArg (· ++ ps) hsame.current }⟩
  · exact ⟨t, rfl, Option.some.inj hu ▸ h⟩

theorem keepsShared_collect {r : Head} {points : Option (List (MuchLidarData K))}
    {u : Assembly K} (hu : collect r points s = some u) : KeepsShared s u := by
  unfold collect at hu
  split_ifs at hu
  · exact Option.some.inj hu ▸ ⟨rfl, rfl, rfl⟩
  · exact Option.some.inj hu ▸ ⟨rfl, rfl, rfl⟩
  · exact Option.some.inj hu ▸ keepsShared_countDistance r s
  · obtain ⟨ps, -, rfl⟩ := Option.map_eq_some_iff.mp hu
    exact { keepsShared_countDistance r s with }
  · exact Option.some.inj hu ▸ ⟨rfl, rfl, rfl⟩

theorem SameCollection.echoStep (h : SameCollection s t) {self : Settings K} {r : Head}
    {points : Option (List (MuchLidarData K))} {u : Assembly K}
    (hu : echoStep self r points s = some u) :
    ∃ v, echoStep self r points t = some v ∧ SameCollection u v := by
  rw [echoStep_eq] at hu ⊢
  have hcounted := h.countMarker r
  rw [← hcounted.count]
  split_ifs at hu ⊢
  · obtain rfl := Option.some.inj hu
    exact ⟨_, rfl, (hcounted.stackFrame _).sendLidarData.nextFrame⟩
  · exact hcounted.collect hu

/-- The rest of the records of a packet. -/
def runRecords (self : Settings K) (rest : List (EchoRecord K)) (s : Assembly K) :
    Option (Assembly K) :=
  rest.foldlM (fun s r => echoStep self r.1 r.2 s) s

theorem runRecords_cons (self : Settings K) (r : EchoRecord K) (rest : List (EchoRecord K))
    (s : Assembly K) :
    runRecords self (r :: rest) s = (echoStep self r.1 r.2 s).bind (runRecords self rest) :=
  List.foldlM_cons

theorem SameCollection.runRecords {self : Settings K} {rest : List (EchoRecord K)}
    {s t u : Assembly K} (h : SameCollection s t) (hu : runRecords self rest s = some u) :
    ∃ v, runRecords self rest t = some v ∧ SameCollection u v := by
  induction rest generalizing s t with
  | nil => exact ⟨t, rfl, Option.some.inj hu ▸ h⟩
  | cons r rest ih =>
    rw [runRecords_cons] at hu ⊢
    obtain ⟨s', hs', hu⟩ := Option.bind_eq_some_iff.mp hu
    obtain ⟨t', ht', hsame⟩ := h.echoStep hs'
    rw [ht', Option.bind_some]
    exact ih hsame hu

theorem frames_echoStep {self : Settings K} {r : Head} {points : Option (List (MuchLidarData K))}
    {u : Assembly K} (hu : echoStep self r points s = some u) : s.frames <+: u.frames := by
  rw [echoStep_eq] at hu
  have hmarker := (keepsShared_countMarker r s).frames
  split_ifs at hu
  · obtain rfl := Option.some.inj hu
    have hstack := (keepsShared_stackFrame self.m_StackFrame (countMarker r s)).frames
    exact ⟨_, congrArg (· ++ _) (hstack.trans hmarker).symm⟩
  · rw [(keepsShared_collect hu).frames, hmarker]

theorem frames_runRecords {self : Settings K} {rest : List (EchoRecord K)} {s u : Assembly K}
    (hu : runRecords self rest s = some u) : s.frames <+: u.frames := by
  induction rest generalizing s with
  | nil => exact Option.some.inj hu ▸ List.prefix_rfl
  | cons r rest ih =>
    rw [runRecords_cons] at hu
    obtain ⟨s', hs', hu⟩ := Option.bind_eq_some_iff.mp hu
    exact (frames_echoStep hs').trans (ih hu)

end Collection

/-! ## The steps -/

namespace Driver

@[simp] theorem setAssembly_members (s : Driver K) (assembly : Assembly K) :
    (s.setAssembly assembly).members = { s.members with assembly } := rfl

theorem hear_eq (s : Driver K) : ∃ said, s.hear = { s with said } := by
  unfold hear
  split_ifs
  · exact ⟨s.said, rfl⟩
  · exact ⟨_, rfl⟩

@[simp] theorem hear_members (s : Driver K) : s.hear.members = s.members := by
  obtain ⟨said, h⟩ := s.hear_eq
  rw [h]

@[simp] theorem hear_pc (s : Driver K) : s.hear.parser = s.parser := by
  obtain ⟨said, h⟩ := s.hear_eq
  rw [h]

@[simp] theorem hear_caller (s : Driver K) : s.hear.caller = s.caller := by
  obtain ⟨said, h⟩ := s.hear_eq
  rw [h]

@[simp] theorem hear_parsed (s : Driver K) : s.hear.parsed = s.parsed := by
  obtain ⟨said, h⟩ := s.hear_eq
  rw [h]

@[simp] theorem hear_box (s : Driver K) : s.hear.box = s.box := by
  obtain ⟨said, h⟩ := s.hear_eq
  rw [h]

@[simp] theorem hear_answers (s : Driver K) : s.hear.answers = s.answers := by
  obtain ⟨said, h⟩ := s.hear_eq
  rw [h]

end Driver

section Steps

variable [Field K] [LinearOrder K] [FloorRing K] {m : Platform K} {s t : Driver K}

/-- What a step of any thread can be. -/
inductive DriverMoves (m : Platform K) (s : Driver K) : Driver K → Prop where
  | idle : DriverMoves m s s
  | receive (packets : List Packet) :
      DriverMoves m s { s with
        allDataValue := s.allDataValue ++ packets
        received := s.received ++ packets }
  | stop : DriverMoves m s { s with isQuit := true }
  | quit (hpc : s.parser = .wait) :
      DriverMoves m s { s with allDataValue := [], parser := .returned }
  | message (strValue : String) (gValue : ℕ) : DriverMoves m s (s.message strValue gValue)
  | packet {data : Packet} {allDataValue : List Packet} (hpc : s.parser = .wait)
      (hqueue : s.allDataValue = data :: allDataValue) :
      DriverMoves m s ({ s with allDataValue }.startPacket m data)
  | packetEnd (data : Packet) (hpc : s.parser = .records data []) :
      DriverMoves m s { s with
        members := { s.members with lastAllTimestamp := packetTime data }
        parser := .wait }
  | marker {data : Packet} {r : Head} {points : Option (List (MuchLidarData K))}
      {rest : List (EchoRecord K)} (hpc : s.parser = .records data ((r, points) :: rest))
      (hcount : (countMarker r s.members.assembly).count = 1) :
      DriverMoves m s { s.setAssembly
          (stackFrame s.members.settings.m_StackFrame (countMarker r s.members.assembly)) with
        parser := .verdict data rest }
  | record {data : Packet} {r : Head} {points : Option (List (MuchLidarData K))}
      {rest : List (EchoRecord K)} {assembly : Assembly K}
      (hpc : s.parser = .records data ((r, points) :: rest))
      (hcount : (countMarker r s.members.assembly).count ≠ 1)
      (hstep : echoStep s.members.settings r points s.members.assembly = some assembly) :
      DriverMoves m s { s.setAssembly assembly with parser := .records data rest }.hear
  | verdict {data : Packet} {rest : List (EchoRecord K)} (hpc : s.parser = .verdict data rest) :
      DriverMoves m s { s.setAssembly (giveVerdict s.members.assembly) with
        said := s.said ++ [(giveVerdict s.members.assembly).feedback.said]
        parser := .publish data rest (giveVerdict s.members.assembly).feedback.said s.said.length }
  | publish {data : Packet} {rest : List (EchoRecord K)} {verdict : Said} {verdictAt : ℕ}
      (hpc : s.parser = .publish data rest verdict verdictAt) :
      DriverMoves m s { s.setAssembly (nextFrame (publish verdict s.members.assembly)) with
        box := s.box.put
          ⟨⟨s.members.assembly.LidarPerFrameDatePrt_Get, verdict.1, verdict.2⟩, verdictAt⟩
        parser := .records data rest }
  | ready (hcaller : s.caller = .idle) (hok : s.members.assembly.isFrameOK = true) :
      DriverMoves m s { s with caller := .ready }
  | take (hcaller : s.caller = .idle ∨ s.caller = .ready) : DriverMoves m s s.takeFrame
  | answer {take : Take K} (hcaller : s.caller = .taken take) :
      DriverMoves m s { s with
        caller := .idle
        answers := s.answers ++ [⟨take, s.feedback.isSuccessfulFlag, s.lastSaid⟩] }

theorem moves_parse (h : s.parseStep m = some t) : DriverMoves m s t := by
  unfold Driver.parseStep at h
  split at h
  · rename_i hpc
    split_ifs at h
    · exact Option.some.inj h ▸ .quit hpc
    · split at h
      · exact Option.some.inj h ▸ .idle
      · rename_i hqueue
        exact Option.some.inj h ▸ .packet hpc hqueue
  · rename_i data hpc
    exact Option.some.inj h ▸ .packetEnd data hpc
  · rename_i hpc
    dsimp only at h
    split_ifs at h with hcount
    · exact Option.some.inj h ▸ .marker hpc hcount
    · obtain ⟨assembly, hstep, rfl⟩ := Option.map_eq_some_iff.mp h
      exact .record hpc hcount hstep
  · rename_i hpc
    exact Option.some.inj h ▸ .verdict hpc
  · rename_i hpc
    exact Option.some.inj h ▸ .publish hpc
  · cases h

theorem moves_caller {a : DriverAction} (h : s.callerStep a = some t) : DriverMoves m s t := by
  unfold Driver.callerStep at h
  split at h
  · split at h
    · rename_i hcaller
      have hmove := Option.some.inj h
      split_ifs at hmove with hok
      · exact hmove ▸ .ready hcaller hok
      · exact hmove ▸ .idle
    · cases h
  · split at h
    · cases h
    · rename_i hcaller
      refine Option.some.inj h ▸ .take ?_
      cases hpc : s.caller with
      | idle => exact .inl rfl
      | ready => exact .inr rfl
      | taken take => exact absurd hpc (hcaller take)
  · split at h
    · rename_i hcaller
      exact Option.some.inj h ▸ .answer hcaller
    · cases h
  · cases h

theorem moves_driver {a : DriverAction} (h : s.step m a = some t) : DriverMoves m s t := by
  cases a with
  | receive pData => exact Option.some.inj h ▸ .receive _
  | message strValue gValue => exact Option.some.inj h ▸ .message strValue gValue
  | parse => exact moves_parse h
  | lidarStop => exact Option.some.inj h ▸ .stop
  | poll => exact moves_caller (a := .poll) h
  | take => exact moves_caller (a := .take) h
  | answer => exact moves_caller (a := .answer) h

/-- What every step keeps, every run keeps. -/
theorem driver_invariant {feedback : Feedback} {I : Driver K → Prop} (hinit : I (.initial feedback))
    (hmoves : ∀ s t, I s → DriverMoves m s t → I t) (h : (driver m feedback).Reachable s) : I s :=
  h.invariant (fun _ hs => hs ▸ hinit) fun s _ t hI hst => hmoves s t hI (moves_driver hst)

end Steps

/-! ## The parser alone -/

section Parser

variable [Field K] [LinearOrder K]

/-- What the parser will have collected when it is through with the packet. -/
def ParserPc.finish (self : Settings K) : ParserPc K → Assembly K → Option (Assembly K)
  | .records _ rest, s => runRecords self rest s
  | .verdict _ rest, s => runRecords self rest (nextFrame (sendLidarData s))
  | .publish _ rest said _, s => runRecords self rest (nextFrame (GetLidarData.publish said s))
  | .wait, s | .returned, s => some s

/-- The time of the last packet, when the parser is through with this one. -/
def ParserPc.time (lastAllTimestamp : UInt64) : ParserPc K → UInt64
  | .records data _ | .verdict data _ | .publish data _ _ _ => packetTime data
  | .wait | .returned => lastAllTimestamp

theorem SameCollection.finish {self : Settings K} {pc : ParserPc K} {s t u : Assembly K}
    (h : SameCollection s t) (hu : pc.finish self s = some u) :
    ∃ v, pc.finish self t = some v ∧ SameCollection u v := by
  cases pc with
  | records data rest => exact h.runRecords hu
  | verdict data rest => exact h.sendLidarData.nextFrame.runRecords hu
  | publish data rest verdict verdictAt => exact (h.publish _ _).nextFrame.runRecords hu
  | wait | returned => exact ⟨t, rfl, Option.some.inj hu ▸ h⟩

theorem frames_finish {self : Settings K} {pc : ParserPc K} {s u : Assembly K}
    (hu : pc.finish self s = some u) : s.frames <+: u.frames := by
  cases pc with
  | records data rest => exact frames_runRecords hu
  | verdict data rest => exact (List.prefix_append _ _).trans (frames_runRecords hu)
  | publish data rest verdict verdictAt =>
    exact (List.prefix_append _ _).trans (frames_runRecords hu)
  | wait | returned => exact Option.some.inj hu ▸ List.prefix_rfl

variable [FloorRing K]

/-- A data packet is its records, one after the other. -/
theorem lidarRunStep_data (m : Platform K) (s : State K) {data : Packet}
    (h : ¬isDevicePacket data = true) :
    lidarRunStep m s data
      = (runRecords (s.settings.dataPacket data)
          (echoRecords m (s.settings.dataPacket data) s.lastAllTimestamp data) s.assembly).map
        fun assembly => ⟨s.settings.dataPacket data, packetTime data, assembly⟩ := by
  unfold lidarRunStep
  rw [if_neg h]
  unfold runRecords echoRecords handleDoubleEcho handleSingleEcho echoLoop
  dsimp only
  split_ifs <;> rw [List.foldlM_map]

/-- The parser is where it would be if it were alone, but for what is left of the packet. -/
structure Alone (m : Platform K) (feedback : Feedback) (s : Driver K) (t : State K) (u : Assembly K) :
    Prop where
  run : s.parsed.foldlM (lidarRunStep m) (.initial feedback) = some t
  settings : t.settings = s.members.settings
  time : t.lastAllTimestamp = s.parser.time s.members.lastAllTimestamp
  finish : s.parser.finish s.members.settings s.members.assembly = some u
  same : SameCollection t.assembly u

variable {m : Platform K} {feedback : Feedback} {s s' : Driver K} {t : State K} {u : Assembly K}

/-- Other threads do not disturb the parser. -/
theorem Alone.of_same (h : Alone m feedback s t u) (hparsed : s'.parsed = s.parsed)
    (hparser : s'.parser = s.parser) (hsettings : s'.members.settings = s.members.settings)
    (htime : s'.members.lastAllTimestamp = s.members.lastAllTimestamp)
    (hsame : SameCollection s.members.assembly s'.members.assembly) :
    ∃ u', Alone m feedback s' t u' := by
  obtain ⟨u', hu', hfinal⟩ := hsame.finish h.finish
  refine ⟨u', ?_, ?_, ?_, ?_, h.same.trans hfinal⟩
  · rw [hparsed, h.run]
  · rw [hsettings, h.settings]
  · rw [hparser, htime, h.time]
  · rw [hparser, hsettings, hu']

/-- A step of the parser within a packet. -/
theorem Alone.of_finish (h : Alone m feedback s t u) (hparsed : s'.parsed = s.parsed)
    (hsettings : s'.members.settings = s.members.settings)
    (htime : s'.parser.time s'.members.lastAllTimestamp
      = s.parser.time s.members.lastAllTimestamp)
    (hfinish : s'.parser.finish s.members.settings s'.members.assembly
      = s.parser.finish s.members.settings s.members.assembly) :
    Alone m feedback s' t u := by
  refine ⟨?_, ?_, ?_, ?_, h.same⟩
  · rw [hparsed, h.run]
  · rw [hsettings, h.settings]
  · rw [htime, h.time]
  · rw [hsettings, hfinish, h.finish]

/-- The parser takes a packet. -/
theorem Alone.packet [IsStrictOrderedRing K] (h : Alone m feedback s t u) (hpc : s.parser = .wait)
    (data : Packet) (allDataValue : List Packet) :
    ∃ t' u', Alone m feedback ({ s with allDataValue }.startPacket m data) t' u' := by
  obtain ⟨t', -, hrun, -⟩ := (assembled_initial feedback).foldlM (s := .initial feedback)
    .initial m (s.parsed ++ [data])
  have hstep : lidarRunStep m t data = some t' := by
    simpa [List.foldlM_append, h.run] using hrun
  have htime := h.time
  have hfinish := h.finish
  rw [hpc] at htime hfinish
  obtain rfl := Option.some.inj hfinish
  unfold Driver.startPacket
  by_cases hdevice : isDevicePacket data = true
  · rw [lidarRunStep, if_pos hdevice] at hstep
    obtain rfl := Option.some.inj hstep
    simp only [hdevice, if_true]
    refine ⟨_, s.members.assembly, hrun, ?_, ?_, ?_, h.same⟩
    · simp only [h.settings]
    · simp only [hpc, htime]
    · rw [hpc]
      rfl
  · rw [lidarRunStep_data m t hdevice, h.settings, htime] at hstep
    obtain ⟨v, hv, rfl⟩ := Option.map_eq_some_iff.mp hstep
    obtain ⟨u', hu', hsame⟩ := h.same.runRecords hv
    simp only [hdevice]
    exact ⟨_, u', hrun, rfl, rfl, hu', hsame⟩

/-- However the threads interleave, the parser does what it would do alone. -/
theorem alone_of_reachable [IsStrictOrderedRing K] (h : (driver m feedback).Reachable s) :
    ∃ t u, Alone m feedback s t u := by
  refine driver_invariant (I := fun s => ∃ t u, Alone m feedback s t u) ?_ ?_ h
  · exact ⟨.initial feedback, _, rfl, rfl, rfl, rfl, .refl _⟩
  rintro s s' ⟨t, u, halone⟩ hmove
  cases hmove with
  | idle => exact ⟨t, u, halone⟩
  | receive packets => exact ⟨t, halone.of_same rfl rfl rfl rfl (.refl _)⟩
  | stop => exact ⟨t, halone.of_same rfl rfl rfl rfl (.refl _)⟩
  | quit hpc => exact ⟨t, u, halone.of_finish rfl rfl (by rw [hpc]; rfl) (by rw [hpc]; rfl)⟩
  | message strValue gValue =>
    refine ⟨t, halone.of_same ?_ ?_ ?_ ?_ ?_⟩ <;> unfold Driver.message
    · exact Driver.hear_parsed _
    · exact Driver.hear_pc _
    · rw [Driver.hear_members, Driver.setAssembly_members]
    · rw [Driver.hear_members, Driver.setAssembly_members]
    · rw [Driver.hear_members, Driver.setAssembly_members]
      exact ⟨rfl, rfl, rfl, rfl, rfl, rfl⟩
  | packet hpc => exact halone.packet hpc _ _
  | packetEnd data hpc => exact ⟨t, u, halone.of_finish rfl rfl (by rw [hpc]; rfl) (by rw [hpc]; rfl)⟩
  | @marker data r points rest hpc hcount =>
    refine ⟨t, u, halone.of_finish rfl rfl (by rw [hpc]; rfl) ?_⟩
    rw [hpc]
    exact ((runRecords_cons _ _ _ _).trans
      (by rw [echoStep_eq, if_pos hcount, Option.bind_some]; rfl)).symm
  | @record data r points rest assembly hpc hcount hstep =>
    refine ⟨t, u, halone.of_finish (Driver.hear_parsed _) ?_ ?_ ?_⟩
    · rw [Driver.hear_members]
      rfl
    · rw [Driver.hear_members, Driver.hear_pc, hpc]
      rfl
    · rw [Driver.hear_members, Driver.hear_pc, hpc]
      exact ((runRecords_cons _ _ _ _).trans (by rw [hstep, Option.bind_some]; rfl)).symm
  | verdict hpc => exact ⟨t, u, halone.of_finish rfl rfl (by rw [hpc]; rfl) (by rw [hpc]; rfl)⟩
  | publish hpc => exact ⟨t, u, halone.of_finish rfl rfl (by rw [hpc]; rfl) (by rw [hpc]; rfl)⟩
  | ready => exact ⟨t, halone.of_same rfl rfl rfl rfl (.refl _)⟩
  | take => exact ⟨t, halone.of_same rfl rfl rfl rfl ⟨rfl, rfl, rfl, rfl, rfl, rfl⟩⟩
  | answer => exact ⟨t, halone.of_same rfl rfl rfl rfl (.refl _)⟩

end Parser

end GetLidarData
end ShipMotion
