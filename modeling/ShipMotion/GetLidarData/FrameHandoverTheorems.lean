import ShipMotion.GetLidarData.ParserThreadTheorems

/-!
# No frame is handed over twice

However the threads interleave, the frames that are published are those the parser alone would hand
over, `isFrameOK` says that one is waiting, and the user gets the frames in order and none of them
twice. What the user is told with a frame is the last thing said before the answer, which is the
frame's own verdict unless something was said since.
-/

namespace ShipMotion
namespace GetLidarData

open Utils

variable {K : Type}

/-! ## The frame that waits -/

section Box

/-- What the calls got so far, the running one included. -/
def Driver.takes (s : Driver K) : List (Take K) :=
  s.answers.map (fun a => a.take) ++
    match s.caller with
    | .taken take => [take]
    | _ => []

/-- The frame that waits is the one in the box, and what was taken went to the user. -/
structure Boxed (s : Driver K) : Prop where
  frames : (s.box.puts.map fun p => p.frame) = s.members.assembly.frames
  pending : (s.box.slot.map fun p => p.frame.points) = s.members.assembly.LidarPerFrameDatePer
  isFrameOK : s.members.assembly.isFrameOK = s.box.slot.isSome
  ready : s.caller = .ready → s.box.slot.isSome
  takes : s.takes.filterMap (fun take => take.taken) = s.box.takes
  got : ∀ take ∈ s.takes, take.preFrameData = take.taken.map fun p => p.frame.points

variable {s t : Driver K}

theorem Boxed.of_keeps (h : Boxed s) (hbox : t.box = s.box) (hcaller : t.caller = s.caller)
    (hanswers : t.answers = s.answers)
    (hkeeps : KeepsShared s.members.assembly t.members.assembly) : Boxed t := by
  have htakes : t.takes = s.takes := by unfold Driver.takes; rw [hcaller, hanswers]
  refine ⟨?_, ?_, ?_, ?_, ?_, ?_⟩
  · rw [hbox, h.frames, hkeeps.frames]
  · rw [hbox, h.pending, hkeeps.pending]
  · rw [hbox, hkeeps.isFrameOK, h.isFrameOK]
  · rw [hbox, hcaller]
    exact h.ready
  · rw [htakes, h.takes, hbox]
  · rw [htakes]
    exact h.got

theorem Boxed.publish (h : Boxed s) (verdict : Said) (verdictAt : ℕ) (pc : ParserPc K) :
    Boxed { s.setAssembly (nextFrame (publish verdict s.members.assembly)) with
      box := s.box.put
        ⟨⟨s.members.assembly.LidarPerFrameDatePrt_Get, verdict.1, verdict.2⟩, verdictAt⟩
      parser := pc } where
  frames := by
    rw [Mailbox.puts_put, List.map_append, h.frames]
    rfl
  pending := rfl
  isFrameOK := rfl
  ready _ := rfl
  takes := h.takes.trans (Mailbox.takes_put _ _).symm
  got := h.got

theorem Boxed.take (h : Boxed s) (hcaller : s.caller = .idle ∨ s.caller = .ready) :
    Boxed s.takeFrame where
  frames := by
    rw [Driver.takeFrame, Mailbox.puts_take, h.frames]
    rfl
  pending := rfl
  isFrameOK := rfl
  ready hready := by cases hready
  takes := by
    have hbefore : s.takes = s.answers.map fun a => a.take := by
      unfold Driver.takes
      rcases hcaller with hcaller | hcaller <;> rw [hcaller, List.append_nil]
    have htakes := h.takes
    rw [hbefore] at htakes
    unfold Driver.takeFrame Driver.takes
    rw [List.filterMap_append, Mailbox.takes_take, ← htakes]
    cases s.box.slot <;> rfl
  got := by
    have hbefore : ∀ a ∈ s.answers, a.take ∈ s.takes := fun a ha =>
      List.mem_append_left _ (List.mem_map_of_mem ha)
    unfold Driver.takeFrame Driver.takes
    simp only [List.mem_append, List.mem_map, List.mem_singleton]
    rintro take (⟨a, ha, rfl⟩ | rfl)
    · exact h.got _ (hbefore a ha)
    · exact h.pending.symm

theorem Boxed.answer (h : Boxed s) {take : Take K} (hcaller : s.caller = .taken take)
    (flag : Bool) (readAt : ℕ) :
    Boxed { s with caller := .idle, answers := s.answers ++ [⟨take, flag, readAt⟩] } := by
  have htakes : Driver.takes { s with
      caller := .idle, answers := s.answers ++ [⟨take, flag, readAt⟩] } = s.takes := by
    unfold Driver.takes
    rw [hcaller, List.map_append, List.append_nil]
    rfl
  exact
    { h with
      ready := fun hready => by cases hready
      takes := by rw [htakes]; exact h.takes
      got := by rw [htakes]; exact h.got }

variable [Field K] [LinearOrder K] [FloorRing K] {m : Platform K}

omit [LinearOrder K] [FloorRing K] in
theorem boxed_initial (feedback : Feedback) : Boxed (.initial feedback : Driver K) where
  frames := rfl
  pending := rfl
  isFrameOK := rfl
  ready h := by cases h
  takes := rfl
  got _ h := by cases h

theorem Boxed.step (h : Boxed s) (hmove : DriverMoves m s t) : Boxed t := by
  cases hmove with
  | idle | receive | stop | quit | packetEnd =>
    exact h.of_keeps rfl rfl rfl ⟨rfl, rfl, rfl⟩
  | message strValue gValue =>
    unfold Driver.message
    refine h.of_keeps (Driver.hear_box _) (Driver.hear_caller _) (Driver.hear_answers _) ?_
    rw [Driver.hear_members]
    exact ⟨rfl, rfl, rfl⟩
  | packet hpc =>
    unfold Driver.startPacket
    dsimp only
    split_ifs <;> exact h.of_keeps rfl rfl rfl ⟨rfl, rfl, rfl⟩
  | @marker data r points rest hpc hcount =>
    exact h.of_keeps rfl rfl rfl
      ((keepsShared_countMarker r _).trans (keepsShared_stackFrame _ _))
  | @record data r points rest assembly hpc hcount hstep =>
    refine h.of_keeps (Driver.hear_box _) (Driver.hear_caller _) (Driver.hear_answers _) ?_
    rw [Driver.hear_members]
    rw [echoStep_eq, if_neg hcount] at hstep
    exact (keepsShared_countMarker r _).trans (keepsShared_collect hstep)
  | verdict hpc => exact h.of_keeps rfl rfl rfl ⟨rfl, rfl, rfl⟩
  | publish hpc => exact h.publish _ _ _
  | ready hcaller hok =>
    have htakes : Driver.takes { s with caller := .ready } = s.takes := by
      unfold Driver.takes
      rw [hcaller]
    exact
      { h with
        ready := fun _ => h.isFrameOK.symm.trans hok
        takes := by rw [htakes]; exact h.takes
        got := by rw [htakes]; exact h.got }
  | take hcaller => exact h.take hcaller
  | answer hcaller => exact h.answer hcaller _ _

end Box

/-! ## What is said with a frame -/

section Said

/-- The verdict that was given of a frame. -/
def Frame.said (frame : Frame K) : Said := (frame.isSuccessfulFlag, frame.mDataInfoString)

/-- What was read of the last thing said is where the histories say it is. -/
structure Heard (s : Driver K) : Prop where
  last : s.said.getLast? = some s.feedback.said
  verdict : ∀ data rest verdict verdictAt,
    s.parser = .publish data rest verdict verdictAt → s.said[verdictAt]? = some verdict
  frames : ∀ p ∈ s.box.puts, s.said[p.verdictAt]? = some p.frame.said
  takes : ∀ take ∈ s.takes, (∃ flag, s.said[take.takenAt]? = some (flag, take.Info)) ∧
    ∀ p ∈ take.taken, s.said[p.verdictAt]? = some p.frame.said ∧ p.verdictAt ≤ take.takenAt
  answers : ∀ a ∈ s.answers, a.take.takenAt ≤ a.readAt ∧
    ∃ Info, s.said[a.readAt]? = some (a.flag, Info)

variable {s t : Driver K}

theorem Heard.at_last (h : Heard s) : s.said[s.lastSaid]? = some s.feedback.said := by
  rw [Driver.lastSaid, ← List.getLast?_eq_getElem?]
  exact h.last

theorem le_lastSaid {i : ℕ} {x : Said} (h : s.said[i]? = some x) : i ≤ s.lastSaid := by
  have := (List.getElem?_eq_some_iff.mp h).1
  unfold Driver.lastSaid
  omega

/-- The history only grows. -/
theorem getElem?_of_isPrefix {said said' : List Said} (h : said <+: said') {i : ℕ} {x : Said}
    (hi : said[i]? = some x) : said'[i]? = some x := by
  obtain ⟨more, rfl⟩ := h
  rw [List.getElem?_append_left (List.getElem?_eq_some_iff.mp hi).1, hi]

theorem Heard.of_grown (h : Heard s) (hsaid : s.said <+: t.said)
    (hlast : t.said.getLast? = some t.feedback.said)
    (hverdict : ∀ data rest verdict verdictAt,
      t.parser = .publish data rest verdict verdictAt → t.said[verdictAt]? = some verdict)
    (hframes : ∀ p ∈ t.box.puts, p ∈ s.box.puts ∨ t.said[p.verdictAt]? = some p.frame.said)
    (htakes : t.takes = s.takes) (hanswers : t.answers = s.answers) : Heard t where
  last := hlast
  verdict := hverdict
  frames p hp := (hframes p hp).elim
    (fun hold => getElem?_of_isPrefix hsaid (h.frames p hold)) id
  takes take htake := by
    rw [htakes] at htake
    obtain ⟨⟨flag, hflag⟩, hfrom⟩ := h.takes take htake
    exact ⟨⟨flag, getElem?_of_isPrefix hsaid hflag⟩, fun p hp =>
      ⟨getElem?_of_isPrefix hsaid (hfrom p hp).1, (hfrom p hp).2⟩⟩
  answers a ha := by
    rw [hanswers] at ha
    obtain ⟨hle, Info, hread⟩ := h.answers a ha
    exact ⟨hle, Info, getElem?_of_isPrefix hsaid hread⟩

/-- Nothing is said, and no frame moves. -/
theorem Heard.of_silent (h : Heard s) (hsaid : t.said = s.said)
    (hfeedback : t.feedback.said = s.feedback.said)
    (hparser : ∀ data rest verdict verdictAt, t.parser ≠ .publish data rest verdict verdictAt)
    (hbox : t.box = s.box) (htakes : t.takes = s.takes) (hanswers : t.answers = s.answers) :
    Heard t :=
  h.of_grown (by rw [hsaid]) (by rw [hsaid, hfeedback, h.last])
    (fun data rest verdict verdictAt hpc => absurd hpc (hparser data rest verdict verdictAt))
    (fun p hp => .inl (by rwa [hbox] at hp)) htakes hanswers

/-- Something may be said. -/
theorem Heard.hear (h : Heard s) (assembly : Assembly K) (pc : ParserPc K)
    (hpc : ∀ data rest verdict verdictAt, pc = .publish data rest verdict verdictAt →
      s.parser = .publish data rest verdict verdictAt) :
    Heard { s.setAssembly assembly with parser := pc }.hear := by
  have hsaid : s.said <+: Driver.said { s.setAssembly assembly with parser := pc }.hear := by
    unfold Driver.hear
    split_ifs
    · exact List.prefix_rfl
    · exact List.prefix_append _ _
  refine h.of_grown hsaid ?_ ?_ ?_ ?_ (Driver.hear_answers _)
  · unfold Driver.hear
    split_ifs with hlast
    · exact hlast
    · exact List.getLast?_concat
  · intro data rest verdict verdictAt hverdict
    rw [Driver.hear_pc] at hverdict
    exact getElem?_of_isPrefix hsaid (h.verdict _ _ _ _ (hpc _ _ _ _ hverdict))
  · intro p hp
    rw [Driver.hear_box] at hp
    exact .inl hp
  · unfold Driver.takes
    rw [Driver.hear_answers, Driver.hear_caller]
    rfl

theorem Heard.take (h : Heard s) : Heard s.takeFrame where
  last := h.last
  verdict := h.verdict
  frames p hp := by
    rw [Driver.takeFrame, Mailbox.puts_take] at hp
    exact h.frames p hp
  takes take htake := by
    unfold Driver.takeFrame Driver.takes at htake
    rcases List.mem_append.mp htake with hold | hnew
    · exact h.takes take (List.mem_append_left _ hold)
    · obtain rfl := List.mem_singleton.mp hnew
      refine ⟨⟨_, h.at_last⟩, fun p hp => ?_⟩
      have hfrom := h.frames p (List.mem_append_right _ (Option.mem_toList.mpr hp))
      exact ⟨hfrom, le_lastSaid hfrom⟩
  answers := h.answers

theorem Heard.answer (h : Heard s) {take : Take K} (hcaller : s.caller = .taken take) :
    Heard { s with
      caller := .idle
      answers := s.answers ++ [⟨take, s.feedback.isSuccessfulFlag, s.lastSaid⟩] } where
  last := h.last
  verdict := h.verdict
  frames := h.frames
  takes taken htaken := by
    refine h.takes taken ?_
    unfold Driver.takes at htaken ⊢
    rw [hcaller]
    simpa using htaken
  answers a ha := by
    rcases List.mem_append.mp ha with hold | hnew
    · exact h.answers a hold
    · obtain rfl := List.mem_singleton.mp hnew
      refine ⟨?_, _, h.at_last⟩
      have hmem : take ∈ s.takes := by
        unfold Driver.takes
        rw [hcaller]
        exact List.mem_append_right _ (List.mem_singleton.mpr rfl)
      obtain ⟨⟨flag, hflag⟩, -⟩ := h.takes take hmem
      exact le_lastSaid hflag

variable [Field K] [LinearOrder K] [FloorRing K] {m : Platform K}

omit [LinearOrder K] [FloorRing K] in
theorem heard_initial (feedback : Feedback) : Heard (.initial feedback : Driver K) where
  last := rfl
  verdict _ _ _ _ h := by cases h
  frames _ h := by cases h
  takes _ h := by cases h
  answers _ h := by cases h

theorem Heard.step (h : Heard s) (hmove : DriverMoves m s t) : Heard t := by
  cases hmove with
  | idle | receive | stop => exact { h with }
  | quit | packetEnd => exact h.of_silent rfl rfl (fun _ _ _ _ hpc => by cases hpc) rfl rfl rfl
  | message strValue gValue =>
    exact h.hear _ s.parser fun _ _ _ _ hpc => hpc
  | packet hpc =>
    unfold Driver.startPacket
    dsimp only
    split_ifs
    · refine h.of_silent rfl rfl (fun _ _ _ _ hpublish => ?_) rfl rfl rfl
      rw [hpc] at hpublish
      cases hpublish
    · exact h.of_silent rfl rfl (fun _ _ _ _ hpublish => by cases hpublish) rfl rfl rfl
  | @marker data r points rest hpc hcount =>
    refine h.of_silent rfl ?_ (fun _ _ _ _ hpublish => by cases hpublish) rfl rfl rfl
    unfold Driver.feedback stackFrame countMarker
    dsimp only [Driver.setAssembly_members]
    split_ifs <;> rfl
  | @record data r points rest assembly hpc hcount hstep =>
    exact h.hear _ _ fun _ _ _ _ hpublish => by cases hpublish
  | @verdict data rest hpc =>
    refine h.of_grown (List.prefix_append _ _) List.getLast?_concat ?_ (fun p hp => .inl hp) rfl rfl
    intro data' rest' verdict verdictAt hpublish
    cases hpublish
    exact List.getElem?_concat_length
  | @publish data rest verdict verdictAt hpc =>
    refine h.of_grown List.prefix_rfl h.last (fun _ _ _ _ hpublish => by cases hpublish) ?_ rfl rfl
    intro p hp
    rw [Mailbox.puts_put] at hp
    rcases List.mem_append.mp hp with hold | hnew
    · exact .inl hold
    · obtain rfl := List.mem_singleton.mp hnew
      exact .inr (h.verdict _ _ _ _ hpc)
  | ready hcaller hok =>
    refine { h with takes := fun take htake => h.takes take ?_ }
    unfold Driver.takes at htake ⊢
    rw [hcaller]
    exact htake
  | take => exact h.take
  | answer hcaller => exact h.answer hcaller

end Said

/-! ## The handover -/

section Handover

variable {s t : Driver K}

/-- Packets are parsed in the order in which they arrive. -/
structure Queued (s : Driver K) : Prop where
  inOrder : s.parsed <+: s.received
  all : s.parser ≠ .returned → s.received = s.parsed ++ s.allDataValue

theorem Queued.of_same (h : Queued s) (hparsed : t.parsed = s.parsed)
    (hreceived : t.received = s.received) (hqueue : t.allDataValue = s.allDataValue)
    (hpc : s.parser ≠ .returned ∨ t.parser = .returned) : Queued t where
  inOrder := by
    rw [hparsed, hreceived]
    exact h.inOrder
  all hrunning := by
    rw [hparsed, hreceived, hqueue]
    exact h.all (hpc.resolve_right hrunning)

variable [Field K] [LinearOrder K] [FloorRing K] {m : Platform K}

theorem Queued.step (h : Queued s) (hmove : DriverMoves m s t) : Queued t := by
  have halive : s.parser ≠ .returned ∨ s.parser = .returned := (em _).symm
  cases hmove with
  | idle | stop | ready | take | answer => exact { h with }
  | receive packets =>
    refine ⟨h.inOrder.trans (List.prefix_append _ _), fun hpc => ?_⟩
    rw [h.all hpc, List.append_assoc]
  | quit hpc => exact ⟨h.inOrder, fun hreturned => absurd rfl hreturned⟩
  | message strValue gValue =>
    obtain ⟨said, hsaid⟩ := Driver.hear_eq (s.setAssembly { s.members.assembly with
      feedback := s.feedback.messFunction strValue gValue })
    unfold Driver.message
    rw [hsaid]
    exact { h with }
  | @packet data allDataValue hpc hqueue =>
    have hreceived : s.received = (s.parsed ++ [data]) ++ allDataValue := by
      rw [h.all (by simp [hpc]), hqueue, List.append_assoc]
      rfl
    unfold Driver.startPacket
    dsimp only
    split_ifs <;> exact ⟨⟨_, hreceived.symm⟩, fun _ => hreceived⟩
  | packetEnd data hpc | marker hpc hcount | verdict hpc | publish hpc =>
    exact h.of_same rfl rfl rfl (.inl (by simp [hpc]))
  | @record data r points rest assembly hpc hcount hstep =>
    obtain ⟨said, hsaid⟩ := Driver.hear_eq
      { s.setAssembly assembly with parser := ParserPc.records data rest }
    rw [hsaid]
    exact h.of_same rfl rfl rfl (.inl (by simp [hpc]))

variable {feedback : Feedback}

/-- While `LidarRun` runs, nothing keeps it from its next step. -/
theorem Alone.parseStep_isSome {u : Assembly K} {t : State K} (h : Alone m feedback s t u)
    (hpc : s.parser ≠ .returned) : (s.parseStep m).isSome := by
  have hfinish := h.finish
  unfold Driver.parseStep
  split
  · split_ifs
    · rfl
    · split <;> rfl
  · rfl
  · rename_i r points rest hrecords
    dsimp only
    split_ifs with hcount
    · rfl
    · rw [hrecords] at hfinish
      obtain ⟨v, hv, -⟩ := Option.bind_eq_some_iff.mp ((runRecords_cons _ _ _ _).symm.trans hfinish)
      rw [hv]
      rfl
  · rfl
  · rfl
  · rename_i hreturned
    exact absurd hreturned hpc

variable [IsStrictOrderedRing K]

/-- **No frame is lost or doubled by the threads.** However the parser, the threads that receive and
the user's thread interleave: packets are parsed in the order in which they arrive, and the parser
can always go on; the frames published so far are the first of those it would hand over alone, all
of them between packets; the user got frames in that order, and none of them twice; `isFrameOK` says
that a frame waits, and after it was seen the next call gets one. -/
theorem handover (m : Platform K) (feedback : Feedback) (h : (driver m feedback).Reachable s) :
    s.parsed <+: s.received ∧
    (s.parser ≠ .returned → (s.parseStep m).isSome) ∧
    (∃ t, s.parsed.foldlM (lidarRunStep m) (.initial feedback) = some t ∧
      (s.members.assembly.frames.map fun f => f.points) <+: t.assembly.frames.map (fun f => f.points) ∧
      (s.parser = .wait →
        (s.members.assembly.frames.map fun f => f.points)
          = t.assembly.frames.map fun f => f.points)) ∧
    ((s.takes.filterMap fun take => take.preFrameData).Sublist
      (s.members.assembly.frames.map fun f => f.points)) ∧
    (s.members.assembly.isFrameOK = s.members.assembly.LidarPerFrameDatePer.isSome) ∧
    (s.caller = .ready → s.members.assembly.LidarPerFrameDatePer.isSome) := by
  obtain ⟨t, u, halone⟩ := alone_of_reachable h
  have hboxed : Boxed s :=
    driver_invariant (boxed_initial feedback) (fun _ _ hs hmove => hs.step hmove) h
  have hqueued : Queued s := driver_invariant ⟨List.prefix_rfl, fun _ => rfl⟩
    (fun _ _ hs hmove => hs.step hmove) h
  have hpending : s.box.slot.isSome = s.members.assembly.LidarPerFrameDatePer.isSome := by
    rw [← hboxed.pending, Option.isSome_map]
  have hframes : (s.members.assembly.frames.map fun f => f.points)
      = s.box.puts.map fun p => p.frame.points := by
    rw [← hboxed.frames, List.map_map]
    rfl
  refine ⟨hqueued.inOrder, halone.parseStep_isSome, ⟨t, halone.run, ?_, fun hpc => ?_⟩, ?_, ?_, ?_⟩
  · rw [halone.same.frames]
    exact (frames_finish halone.finish).map _
  · have hfinish := halone.finish
    rw [hpc] at hfinish
    rw [halone.same.frames, Option.some.inj hfinish]
  · have htaken : (s.takes.filterMap fun take => take.preFrameData)
        = (s.takes.filterMap fun take => take.taken).map fun p => p.frame.points := by
      rw [List.map_filterMap]
      exact List.filterMap_congr fun take htake => hboxed.got take htake
    rw [htaken, hboxed.takes, hframes]
    exact s.box.takes_sublist.map _
  · rw [hboxed.isFrameOK, hpending]
  · rw [← hpending]
    exact hboxed.ready

omit [IsStrictOrderedRing K] in
/-- **What the user is told.** In every run, with every frame the user gets: `Info` is the text of
the last thing said before the frame was taken, the flag that of the last thing said before it was
read, which is no earlier; the frame's own verdict was said before both. If nothing was said since,
the answer is the frame's own verdict. -/
theorem answers_said (m : Platform K) (feedback : Feedback) (h : (driver m feedback).Reachable s)
    {a : Answer K} (ha : a ∈ s.answers) {p : Published K} (hp : p ∈ a.take.taken) :
    p.frame ∈ s.members.assembly.frames ∧
    a.take.preFrameData = some p.frame.points ∧
    s.said[p.verdictAt]? = some (p.frame.isSuccessfulFlag, p.frame.mDataInfoString) ∧
    p.verdictAt ≤ a.take.takenAt ∧ a.take.takenAt ≤ a.readAt ∧
    (∃ flag, s.said[a.take.takenAt]? = some (flag, a.take.Info)) ∧
    (∃ Info, s.said[a.readAt]? = some (a.flag, Info)) ∧
    (a.readAt = p.verdictAt →
      a.flag = p.frame.isSuccessfulFlag ∧ a.take.Info = p.frame.mDataInfoString) := by
  have hboxed : Boxed s :=
    driver_invariant (boxed_initial feedback) (fun _ _ hs hmove => hs.step hmove) h
  have hheard : Heard s :=
    driver_invariant (heard_initial feedback) (fun _ _ hs hmove => hs.step hmove) h
  have htake : a.take ∈ s.takes := List.mem_append_left _ (List.mem_map_of_mem ha)
  obtain ⟨⟨flag, hflag⟩, hfrom⟩ := hheard.takes _ htake
  obtain ⟨hsaid, hle⟩ := hfrom p hp
  obtain ⟨hle', Info, hread⟩ := hheard.answers a ha
  have hmem : p ∈ s.box.puts := s.box.takes_sublist.subset
    (hboxed.takes ▸ List.mem_filterMap.mpr ⟨a.take, htake, hp⟩)
  refine ⟨?_, ?_, hsaid, hle, hle', ⟨flag, hflag⟩, ⟨Info, hread⟩, fun hsame => ?_⟩
  · rw [← hboxed.frames]
    exact List.mem_map_of_mem hmem
  · rw [hboxed.got _ htake, hp]
    rfl
  · have htakenAt : a.take.takenAt = p.verdictAt := by omega
    rw [hsame, hsaid, Option.some.injEq] at hread
    rw [htakenAt, hsaid, Option.some.injEq] at hflag
    exact ⟨(congrArg Prod.fst hread).symm, (congrArg Prod.snd hflag).symm⟩

end Handover

/-! ## A frame without points -/

section Marker

/-- A library that is asked for nothing. -/
def noMath : Platform ℚ :=
  { sin := id, cos := id, asin := id, atan2 := fun _ _ => 0, pi := 3, sqrt := id
    outOfRange := fun _ => 0 }

/-- A packet whose first record ends a frame. -/
def markerPacket : Packet := fun i => ([0xff, 0xaa, 0xbb, 0xcc, 0xdd] : List UInt8).getD i 0

def startedDriver : Driver ℚ := .initial ⟨false, "", ""⟩

/-- The packet has arrived. -/
def markerArrived : Driver ℚ :=
  { startedDriver with allDataValue := [markerPacket], received := [markerPacket] }

/-- The frame is published, and the user asks for it. -/
def markerEnd : Driver ℚ :=
  ((driver noMath ⟨false, "", ""⟩).exec markerArrived
    [.parse, .parse, .parse, .parse, .poll, .take, .answer]).get rfl

theorem markerEnd_reachable : (driver noMath ⟨false, "", ""⟩).Reachable markerEnd := by
  have harrived : (driver noMath ⟨false, "", ""⟩).step startedDriver
      (.receive (List.ofFn markerPacket)) = some markerArrived := by
    refine congrArg some ?_
    unfold Driver.receive
    rw [collectionDataArrive_ofFn]
    rfl
  have hrun : (driver noMath ⟨false, "", ""⟩).exec startedDriver
      (.receive (List.ofFn markerPacket) ::
        [.parse, .parse, .parse, .parse, .poll, .take, .answer]) = some markerEnd :=
    (LTS.exec_cons _ harrived).trans (Option.some_get _).symm
  exact LTS.reachable_of_exec rfl hrun

theorem handover_markerEnd :
    markerEnd.parsed <+: markerEnd.received ∧
    (markerEnd.parser ≠ .returned → (markerEnd.parseStep noMath).isSome) ∧
    (∃ t, markerEnd.parsed.foldlM (lidarRunStep noMath) (.initial ⟨false, "", ""⟩) = some t ∧
      (markerEnd.members.assembly.frames.map fun f => f.points)
        <+: t.assembly.frames.map (fun f => f.points) ∧
      (markerEnd.parser = .wait →
        (markerEnd.members.assembly.frames.map fun f => f.points)
          = t.assembly.frames.map fun f => f.points)) ∧
    ((markerEnd.takes.filterMap fun take => take.preFrameData).Sublist
      (markerEnd.members.assembly.frames.map fun f => f.points)) ∧
    (markerEnd.members.assembly.isFrameOK
      = markerEnd.members.assembly.LidarPerFrameDatePer.isSome) ∧
    (markerEnd.caller = .ready → markerEnd.members.assembly.LidarPerFrameDatePer.isSome) :=
  handover noMath ⟨false, "", ""⟩ markerEnd_reachable

/-- The frame has no points, and is said to be bad. -/
def markerFrame : Published ℚ := ⟨⟨[], false, "Data error!!! All lidar distanceValue are 0!"⟩, 1⟩

def markerAnswer : Answer ℚ :=
  { take := ⟨some [], "Data error!!! All lidar distanceValue are 0!", some markerFrame, 1⟩
    flag := false
    readAt := 1 }

theorem answers_said_markerEnd :
    markerFrame.frame ∈ markerEnd.members.assembly.frames ∧
    markerAnswer.take.preFrameData = some markerFrame.frame.points ∧
    markerEnd.said[markerFrame.verdictAt]?
      = some (markerFrame.frame.isSuccessfulFlag, markerFrame.frame.mDataInfoString) ∧
    markerFrame.verdictAt ≤ markerAnswer.take.takenAt ∧
    markerAnswer.take.takenAt ≤ markerAnswer.readAt ∧
    (∃ flag, markerEnd.said[markerAnswer.take.takenAt]? = some (flag, markerAnswer.take.Info)) ∧
    (∃ Info, markerEnd.said[markerAnswer.readAt]? = some (markerAnswer.flag, Info)) ∧
    (markerAnswer.readAt = markerFrame.verdictAt →
      markerAnswer.flag = markerFrame.frame.isSuccessfulFlag ∧
        markerAnswer.take.Info = markerFrame.frame.mDataInfoString) := by
  have hanswers : markerEnd.answers = [markerAnswer] := rfl
  refine answers_said noMath ⟨false, "", ""⟩ markerEnd_reachable ?_ rfl
  rw [hanswers]
  exact List.mem_singleton.mpr rfl

end Marker
end GetLidarData
end ShipMotion
