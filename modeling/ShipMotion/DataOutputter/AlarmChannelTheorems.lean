import Mathlib.Data.List.Perm.Subperm
import ShipMotion.DataOutputter.AlarmChannel
import ShipMotion.Utils.Progress

/-!
# What becomes of an error report

Which address an alarm names; that the alarms published are the reported errors, none twice, in the
order in which the error queue took them; and that ship data, which goes first in each pass, does
not hold an alarm up.
-/

namespace ShipMotion
namespace DataOutputter

open Utils Utils.Json Regex

/-! ## The address -/

theorem reads_ipv4_regex {before w after : Text} :
    ipv4_regex.Reads before w after ↔ IsQuad UpToThreeDigits w :=
  reads_dotted readsOnly_upToThreeDigits

/-- **The address of a message.** Nothing is found exactly when no part of the message is an
address; otherwise the result is an address, none starts before it, and none that starts where it
does is longer. -/
theorem ExtractIpByRegex_spec (msg : Text) :
    (ExtractIpByRegex msg = [] ∧
      ∀ before w after, msg = before ++ (w ++ after) → ¬ IsQuad UpToThreeDigits w) ∨
    ∃ before after, msg = before ++ (ExtractIpByRegex msg ++ after) ∧
      IsQuad UpToThreeDigits (ExtractIpByRegex msg) ∧
      ∀ start w rest, msg = start ++ (w ++ rest) → IsQuad UpToThreeDigits w →
        before.length < start.length ∨
        start.length = before.length ∧ w.length ≤ (ExtractIpByRegex msg).length := by
  cases hsearch : ipv4_regex.search msg with
  | none =>
    left
    refine ⟨by rw [ExtractIpByRegex, hsearch]; rfl, ?_⟩
    intro before w after hmsg hw
    exact search_eq_none_iff.mp hsearch before w after hmsg (reads_ipv4_regex.mpr hw)
  | some found =>
    right
    obtain ⟨hmsg, hhead, hnone⟩ := search_eq_some hsearch
    have hword : ExtractIpByRegex msg = found.word := by rw [ExtractIpByRegex, hsearch]; rfl
    rw [hword]
    refine ⟨found.before, found.after, hmsg, reads_ipv4_regex.mp (reads_of_head hhead), ?_⟩
    intro start w rest hstart hw
    rw [hmsg] at hstart
    rcases List.append_eq_append_iff.mp hstart with ⟨s, hs, htext⟩ | ⟨s, hs, htext⟩
    · cases s with
      | nil =>
        right
        rw [hs, List.append_nil]
        exact ⟨rfl, length_le_preferred hhead htext hw⟩
      | cons x s =>
        left
        rw [hs, List.length_append]
        exact Nat.lt_add_of_pos_right (Nat.succ_pos s.length)
    · cases s with
      | nil =>
        right
        rw [List.append_nil] at hs
        rw [hs]
        exact ⟨rfl, length_le_preferred hhead htext.symm hw⟩
      | cons x s =>
        -- the search would have found what starts before
        have hearlier := hnone start (x :: s) hs (List.cons_ne_nil x s)
        exact absurd (reads_ipv4_regex.mpr hw) (ends_eq_nil_iff.mp hearlier w rest htext.symm)

theorem printable_ExtractIpByRegex (msg : Text) : Printable (ExtractIpByRegex msg) := by
  rcases ExtractIpByRegex_spec msg with ⟨hnil, _⟩ | ⟨_, _, _, hquad, _⟩
  · rw [hnil]
    exact printable_nil
  · obtain ⟨a, b, c, d, hword, ha, hb, hc, hd⟩ := hquad
    have hdot : 32 ≤ Char.toNat '.' := by decide
    rw [hword, printable_append, printable_cons, printable_append, printable_cons, printable_append,
      printable_cons]
    exact ⟨printable_of_isDigit ha.2.2, hdot, printable_of_isDigit hb.2.2, hdot,
      printable_of_isDigit hc.2.2, hdot, printable_of_isDigit hd.2.2⟩

/-- Without an address in the message the alarm names none. -/
theorem ExtractIpByRegex_eq_nil {msg : Text} (h : msg.count '.' < 3) :
    ExtractIpByRegex msg = [] := by
  rw [ExtractIpByRegex, ipv4_regex, search_dotted_eq_none readsOnly_upToThreeDigits h]
  rfl

/-! ## The text of an alarm -/

namespace AlarmChannel

/-- What `mqttWorkerLoop` publishes of an alarm. -/
def statusText (err_msg : DeviceErrMsg) : Text :=
  IndustrialMqttClient.buildDeviceStatusJson err_msg.ip err_msg.time_str err_msg.err_code

/-- The text is read as the members it was made of. -/
theorem parseSpaced_statusText {err_msg : DeviceErrMsg} (hip : Printable err_msg.ip)
    (htime : Printable err_msg.time_str) :
    parseSpaced (statusText err_msg) = some
      (IndustrialMqttClient.deviceStatus err_msg.ip err_msg.time_str err_msg.err_code) := by
  apply parseSpaced_dump
  have hkeys : Printable "deviceIp".toList ∧ Printable "deviceStatus".toList ∧
      Printable "timestamp".toList :=
    ⟨printable_of_all rfl, printable_of_all rfl, printable_of_all rfl⟩
  exact ⟨hkeys.1, hip, hkeys.2.1, trivial, hkeys.2.2, htime, trivial⟩

/-! ## Steps -/

variable {C : Capacity} {T : Type} [Inhabited T] {put_time : ℕ → Text} {s t : State C T}

/-- The alarm that `mqttWorkerLoop` has taken and not yet published. -/
def MqttPc.hand : MqttPc T → List DeviceErrMsg
  | .publishError err_msg => [err_msg]
  | _ => []

/-- The alarms among the published messages. -/
def State.alarms (s : State C T) : List Text := s.published.filterMap Message.alarm?

/-- After `pushRealTimeError` of the `i`-th open call. -/
def pushed (s : State C T) (i : ℕ) (msg : DeviceErrMsg) : State C T :=
  { s with
    calls := s.calls.eraseIdx i
    err_task_queue_ := (s.err_task_queue_.enqueue msg).1
    accepted := if (s.err_task_queue_.enqueue msg).2 then s.accepted ++ [msg] else s.accepted }

/-- What a step can do to the alarms. -/
inductive Moves (put_time : ℕ → Text) (s : State C T) : Action T → State C T → Prop
  | report {now : ℕ} {report : ErrorReport} :
      Moves put_time s (.report now report) (reportStep s now report)
  | push {i now : ℕ} {err : SystemError} : s.calls[i]? = some err →
      Moves put_time s (.push i now) (pushed s i (alarmOf put_time now err))
  | data {connected : Bool} {mqtt_task_queue_ : LockFreeRingQueue C T} {pc : MqttPc T}
      {published : List (Message T)} : s.pc.hand = [] → pc.hand = [] →
      published.filterMap Message.alarm? = s.alarms →
      (pc = .returned → s.worker_running_ = false) →
      Moves put_time s (.mqtt connected) { s with mqtt_task_queue_, pc, published }
  | stop : Moves put_time s .stop { s with worker_running_ := false }
  | offer {pkg : T} {mqtt_task_queue_ : LockFreeRingQueue C T} :
      Moves put_time s (.offer pkg) { s with mqtt_task_queue_ }
  | take {connected : Bool} : s.pc = .takeError →
      (s.err_task_queue_.dequeue default).2.2 = true →
      Moves put_time s (.mqtt connected)
        { s with
          err_task_queue_ := (s.err_task_queue_.dequeue default).1
          pc := .publishError (s.err_task_queue_.dequeue default).2.1
          taken := s.taken ++ [(s.err_task_queue_.dequeue default).2.1] }
  | takeNone {connected : Bool} : s.pc = .takeError →
      (s.err_task_queue_.dequeue default).2.2 = false →
      Moves put_time s (.mqtt connected)
        { s with err_task_queue_ := (s.err_task_queue_.dequeue default).1, pc := .test }
  | publish {connected : Bool} {err_msg : DeviceErrMsg} : s.pc = .publishError err_msg →
      Moves put_time s (.mqtt connected)
        { s with
          pc := .test
          published :=
            if connected then s.published ++ [.deviceStatus (statusText err_msg)] else s.published }

theorem offerAlarm_eq (err_task_queue_ : LockFreeRingQueue errCapacity DeviceErrMsg)
    (msg : DeviceErrMsg) :
    offerAlarm err_task_queue_ msg = some (plainEnqueue err_task_queue_ msg) :=
  enqueueWithDropOld_capacity 0 err_task_queue_ msg _ _

theorem moves_of_mqttStep {connected : Bool} (h : mqttStep s connected = some t) :
    Moves put_time s (.mqtt connected) t := by
  unfold mqttStep at h
  split at h
  · rename_i hpc
    rw [← Option.some.inj h]
    refine .data (by rw [hpc]; rfl) ?_ rfl ?_
    · split
      · rfl
      · rfl
    · intro hreturned
      split at hreturned
      · cases hreturned
      · rename_i hstopped
        exact Bool.eq_false_of_not_eq_true hstopped
  · rename_i hpc
    dsimp only at h
    rw [← Option.some.inj h]
    cases (s.mqtt_task_queue_.dequeue default).2.2 with
    | true => exact .data (by rw [hpc]; rfl) rfl rfl (fun hreturned => by cases hreturned)
    | false => exact .data (by rw [hpc]; rfl) rfl rfl (fun hreturned => by cases hreturned)
  · rename_i pkg hpc
    rw [← Option.some.inj h]
    refine .data (by rw [hpc]; rfl) rfl ?_ (fun hreturned => by cases hreturned)
    split
    · rw [List.filterMap_append]
      exact List.append_nil _
    · rfl
  · rename_i hpc
    dsimp only at h
    rw [← Option.some.inj h]
    cases hok : (s.err_task_queue_.dequeue default).2.2 with
    | true => exact .take hpc hok
    | false => exact .takeNone hpc hok
  · rename_i err_msg hpc
    rw [← Option.some.inj h]
    exact .publish hpc
  · cases h

theorem moves_of_step {a : Action T} (h : step put_time s a = some t) : Moves put_time s a t := by
  cases a with
  | report now report =>
    rw [← Option.some.inj h]
    exact .report
  | push i now =>
    replace h : pushStep put_time s i now = some t := h
    unfold pushStep at h
    split at h
    · cases h
    · rename_i err hcall
      dsimp only at h
      rw [offerAlarm_eq, Option.map_some] at h
      rw [← Option.some.inj h]
      exact .push hcall
  | offer pkg =>
    obtain ⟨d, _, rfl⟩ := Option.map_eq_some_iff.mp h
    exact .offer
  | stop =>
    rw [← Option.some.inj h]
    exact .stop
  | mqtt connected => exact moves_of_mqttStep h

/-! ## None is made up, none comes twice -/

/-- How the alarms stand between the reports and the broker: `made` has the errors that became
accepted alarms, with the second in which each did. -/
structure Inv (put_time : ℕ → Text) (s : State C T) (made : List (ℕ × SystemError))
    (settled : List DeviceErrMsg) : Prop where
  distinct : (made.map Prod.snd ++ s.calls).Subperm s.reported
  accepted : s.accepted = made.map fun m => alarmOf put_time m.1 m.2
  fifo : s.accepted = s.taken ++ s.err_task_queue_.contents
  taken : s.taken = settled ++ s.pc.hand
  published : s.alarms.Sublist (settled.map statusText)

omit [Inhabited T] in
theorem Inv.report {made : List (ℕ × SystemError)} {settled : List DeviceErrMsg}
    (h : Inv put_time s made settled) (now : ℕ) (report : ErrorReport) :
    Inv put_time (reportStep s now report) made settled := by
  refine ⟨?_, h.accepted, h.fifo, h.taken, h.published⟩
  show (_ ++ (s.calls ++ _)).Subperm (s.reported ++ _)
  rw [← List.append_assoc]
  exact h.distinct.append (List.Subperm.refl _)

omit [Inhabited T] in
/-- The call that runs is no longer open. -/
theorem perm_calls {i : ℕ} {err : SystemError} (hcall : s.calls[i]? = some err) :
    (err :: s.calls.eraseIdx i).Perm s.calls := by
  obtain ⟨hi, hget⟩ := List.getElem?_eq_some_iff.mp hcall
  rw [← hget]
  exact List.getElem_cons_eraseIdx_perm hi

omit [Inhabited T] in
theorem Inv.push {made : List (ℕ × SystemError)} {settled : List DeviceErrMsg}
    (h : Inv put_time s made settled) {i now : ℕ} {err : SystemError}
    (hcall : s.calls[i]? = some err) :
    ∃ made', Inv put_time (pushed s i (alarmOf put_time now err)) made' settled := by
  have hcontents := s.err_task_queue_.contents_enqueue (alarmOf put_time now err)
  cases hok : (s.err_task_queue_.enqueue (alarmOf put_time now err)).2 with
  | true =>
    refine ⟨made ++ [(now, err)], ?_, ?_, ?_, h.taken, h.published⟩
    · have hperm : ((made ++ [(now, err)]).map Prod.snd ++ s.calls.eraseIdx i).Perm
          (made.map Prod.snd ++ s.calls) := by
        rw [List.map_append, List.append_assoc]
        exact (perm_calls hcall).append_left _
      exact hperm.subperm.trans h.distinct
    · show (if _ then _ else _) = _
      rw [hok, if_pos rfl, h.accepted, List.map_append]
      rfl
    · show (if _ then _ else _) = s.taken ++ (s.err_task_queue_.enqueue _).1.contents
      rw [hcontents, hok, if_pos rfl, if_pos rfl, h.fifo, List.append_assoc]
  | false =>
    refine ⟨made, ?_, ?_, ?_, h.taken, h.published⟩
    · have hsublist :
          (made.map Prod.snd ++ s.calls.eraseIdx i).Sublist (made.map Prod.snd ++ s.calls) :=
        (List.eraseIdx_sublist s.calls i).append_left _
      exact hsublist.subperm.trans h.distinct
    · show (if _ then _ else _) = _
      rw [hok, if_neg Bool.false_ne_true, h.accepted]
    · show (if _ then _ else _) = s.taken ++ (s.err_task_queue_.enqueue _).1.contents
      rw [hcontents, hok, if_neg Bool.false_ne_true, if_neg Bool.false_ne_true, List.append_nil,
        h.fifo]

/-- The broker is connected in the step. -/
def Connected (_ : State C T) (a : Action T) : Prop := a ≠ .mqtt false

omit [Inhabited T] in
/-- A step keeps the invariant, and if the broker is connected, every alarm settled is published. -/
theorem Inv.step {made : List (ℕ × SystemError)} {settled : List DeviceErrMsg} {a : Action T}
    (h : Inv put_time s made settled) (hmove : Moves put_time s a t) :
    ∃ made' settled', Inv put_time t made' settled' ∧ (Connected s a →
      s.alarms = settled.map statusText → t.alarms = settled'.map statusText) := by
  cases hmove with
  | report => exact ⟨made, settled, h.report _ _, fun _ hall => hall⟩
  | push hcall =>
    obtain ⟨made', hmade⟩ := h.push hcall
    exact ⟨made', settled, hmade, fun _ hall => hall⟩
  | data hhand hhand' hsame _ =>
    have htaken : s.taken = settled ++ [] := hhand ▸ h.taken
    refine ⟨made, settled, ⟨h.distinct, h.accepted, h.fifo, ?_, ?_⟩, ?_⟩
    · rw [hhand']
      exact htaken
    · show (List.filterMap _ _).Sublist _
      rw [hsame]
      exact h.published
    · intro _ hall
      exact hsame.trans hall
  | stop =>
    exact ⟨made, settled, ⟨h.distinct, h.accepted, h.fifo, h.taken, h.published⟩,
      fun _ hall => hall⟩
  | offer =>
    exact ⟨made, settled, ⟨h.distinct, h.accepted, h.fifo, h.taken, h.published⟩,
      fun _ hall => hall⟩
  | take hpc hok =>
    have hcontents := s.err_task_queue_.contents_dequeue default
    have htaken : s.taken = settled := by
      rw [h.taken, hpc]
      exact List.append_nil _
    rw [hok, if_pos rfl] at hcontents
    refine ⟨made, settled, ⟨h.distinct, h.accepted, ?_, ?_, h.published⟩, fun _ hall => hall⟩
    · show s.accepted = s.taken ++ [_] ++ _
      rw [h.fifo, hcontents, List.append_assoc]
    · show s.taken ++ [_] = settled ++ [_]
      rw [htaken]
  | takeNone hpc hok =>
    have hcontents := s.err_task_queue_.contents_dequeue default
    rw [hok, if_neg Bool.false_ne_true, List.nil_append] at hcontents
    refine ⟨made, settled, ⟨h.distinct, h.accepted, ?_, ?_, h.published⟩, fun _ hall => hall⟩
    · show s.accepted = s.taken ++ (s.err_task_queue_.dequeue default).1.contents
      rw [h.fifo, hcontents]
    · rw [h.taken, hpc]
      rfl
  | @publish connected err_msg hpc =>
    have htaken : s.taken = settled ++ [err_msg] := by
      rw [h.taken, hpc]
      rfl
    refine ⟨made, settled ++ [err_msg], ⟨h.distinct, h.accepted, h.fifo, ?_, ?_⟩, ?_⟩
    · show s.taken = settled ++ [err_msg] ++ []
      rw [htaken, List.append_nil]
    · rw [List.map_append, State.alarms]
      split
      · rw [List.filterMap_append]
        exact h.published.append (List.Sublist.refl _)
      · exact h.published.trans (List.sublist_append_left _ _)
    · intro hconnected hall
      cases connected with
      | false => exact absurd rfl hconnected
      | true =>
        show (s.published ++ [_]).filterMap Message.alarm? = _
        rw [List.filterMap_append, List.map_append, ← hall]
        rfl

theorem inv_of_reachable {ok : State C T → Action T → Prop}
    (h : (system put_time C T).ReachableWith ok s) :
    ∃ made settled, Inv put_time s made settled ∧
      ((∀ s a, ok s a → Connected s a) → s.alarms = settled.map statusText) := by
  refine LTS.ReachableWith.invariant (I := fun s => ∃ made settled, Inv put_time s made settled ∧
    ((∀ s a, ok s a → Connected s a) → s.alarms = settled.map statusText)) ?_ ?_ h
  · rintro s ⟨manager, mqtt_task_queue_, err_task_queue_, hempty, rfl⟩
    refine ⟨[], [], ⟨List.Subperm.refl _, rfl, ?_, rfl, List.Sublist.refl _⟩, fun _ => rfl⟩
    exact hempty.symm
  · rintro s a t ⟨made, settled, hinv, hall⟩ hok hstep
    obtain ⟨made', settled', ht, hall'⟩ := hinv.step (moves_of_step hstep)
    exact ⟨made', settled', ht, fun hconnected => hall' (hconnected s a hok) (hall hconnected)⟩

theorem mem_doPush {manager : SystemStateManager} {err err' : SystemError}
    (h : .push err' ∈ manager.doPush err) : err' = err ∧ err.need_push = true := by
  unfold SystemStateManager.doPush at h
  split at h
  · rename_i hneeded
    rw [Bool.and_eq_true] at hneeded
    exact ⟨ErrorCallback.push.inj (List.mem_singleton.mp h), hneeded.2⟩
  · cases h

theorem push_not_mem_doWriteDB {manager : SystemStateManager} {err err' : SystemError} :
    .push err' ∉ manager.doWriteDB err := by
  intro h
  unfold SystemStateManager.doWriteDB at h
  split at h
  · cases List.mem_singleton.mp h
  · cases h

/-- A call of the push callback is about an error, and about the one reported. -/
theorem mem_pushes {manager : SystemStateManager} {now : ℕ} {report : ErrorReport}
    {err : SystemError}
    (h : err ∈ pushes (manager.reportError now report).2) :
    err.level ≠ .statusOk ∧ err.message = report.msg := by
  obtain ⟨call, hcall, hpush⟩ := List.mem_filterMap.mp h
  cases call with
  | writeDB err' => cases hpush
  | push err' =>
    have heq : err' = err := Option.some.inj hpush
    subst heq
    rcases List.mem_append.mp hcall with hcall | hcall
    · obtain ⟨rfl, hneeded⟩ := mem_doPush hcall
      exact ⟨bne_iff_ne.mp hneeded, rfl⟩
    · exact absurd hcall push_not_mem_doWriteDB

omit [Inhabited T] in
/-- Only reports add to the errors reported. -/
theorem reported_of_moves {a : Action T} {P : SystemError → Prop} (hmove : Moves put_time s a t)
    (hs : ∀ err ∈ s.reported, P err)
    (hreport : ∀ now report, a = .report now report →
      ∀ err ∈ pushes (s.manager.reportError now report).2, P err) :
    ∀ err ∈ t.reported, P err := by
  cases hmove with
  | @report now report =>
    intro err herr
    rcases List.mem_append.mp herr with herr | herr
    · exact hs err herr
    · exact hreport now report rfl err herr
  | _ => exact hs

theorem level_of_reachable {ok : State C T → Action T → Prop}
    (h : (system put_time C T).ReachableWith ok s) : ∀ err ∈ s.reported, err.level ≠ .statusOk := by
  refine LTS.ReachableWith.invariant
    (I := fun s => ∀ err ∈ s.reported, err.level ≠ .statusOk) ?_ ?_ h
  · rintro s ⟨manager, mqtt_task_queue_, err_task_queue_, _, rfl⟩ err herr
    cases herr
  · intro s a t hs _ hstep
    exact reported_of_moves (moves_of_step hstep) hs fun _ _ _ _ herr => (mem_pushes herr).1

/-- The members of the alarm made of an error. -/
def statusOf (put_time : ℕ → Text) (made : ℕ × SystemError) : Json Decimal :=
  IndustrialMqttClient.deviceStatus (ExtractIpByRegex made.2.message.toList) (put_time made.1)
    made.2.level.toNat

/-- **The alarms published.** In every run the texts published are read as alarms of errors that
were reported, none of them twice and none for an OK status, in the order in which the error queue
took them. While the broker is connected in every step, none that the queue took is left out. -/
theorem published_alarms {ok : State C T → Action T → Prop}
    (h : (system put_time C T).ReachableWith ok s) (htime : ∀ now, Printable (put_time now)) :
    (∃ shown : List (ℕ × SystemError), (shown.map Prod.snd).Subperm s.reported ∧
      (shown.map fun m => alarmOf put_time m.1 m.2).Sublist s.accepted ∧
      (∀ m ∈ shown, m.2.level ≠ .statusOk) ∧
      s.alarms.map parseSpaced = shown.map fun m => some (statusOf put_time m)) ∧
    ((∀ s a, ok s a → Connected s a) →
      s.alarms ++ (s.pc.hand ++ s.err_task_queue_.contents).map statusText
        = s.accepted.map statusText) := by
  obtain ⟨made, settled, hinv, hall⟩ := inv_of_reachable h
  have hqueue : s.accepted = settled ++ (s.pc.hand ++ s.err_task_queue_.contents) := by
    rw [hinv.fifo, hinv.taken, List.append_assoc]
  constructor
  · have hsettled : settled.Sublist s.accepted := by
      rw [hqueue]
      exact List.sublist_append_left _ _
    have halarms : s.alarms.Sublist (made.map fun m => statusText (alarmOf put_time m.1 m.2)) := by
      have hmade := hinv.published.trans (hsettled.map statusText)
      rw [hinv.accepted, List.map_map] at hmade
      exact hmade
    obtain ⟨shown, hshown, heq⟩ := List.sublist_map_iff.mp halarms
    have hreported : (shown.map Prod.snd).Subperm s.reported :=
      ((hshown.map Prod.snd).trans (List.sublist_append_left _ _)).subperm.trans hinv.distinct
    refine ⟨shown, hreported, ?_, ?_, ?_⟩
    · rw [hinv.accepted]
      exact hshown.map _
    · intro m hm
      exact level_of_reachable h m.2 (hreported.subset (List.mem_map_of_mem hm))
    · rw [heq, List.map_map]
      apply List.map_congr_left
      intro m _
      exact parseSpaced_statusText (printable_ExtractIpByRegex _) (htime m.1)
  · intro hconnected
    rw [hall hconnected, hqueue]
    simp only [List.map_append]

/-- A mismatch is reported, pushed and published. -/
def mismatchRun : List (Action ℕ) :=
  [.report 5 ⟨.fuser, .statusWarning, "雷达点云时间戳失配"⟩, .push 0 7,
    .mqtt true, .mqtt true, .mqtt true, .mqtt true]

def someTime (_ : ℕ) : Text := "2025-01-01 00:00:07".toList

theorem printable_someTime (now : ℕ) : Printable (someTime now) := printable_of_all rfl

def mismatchStart : State errCapacity ℕ :=
  initial ⟨.running, false, ⟨.outputter, .statusOk, "", 0, false⟩, true, true⟩
    (LockFreeRingQueue.new errCapacity 0) (LockFreeRingQueue.new errCapacity default)

theorem mismatchStart_init : (system someTime errCapacity ℕ).init mismatchStart :=
  ⟨_, _, _, rfl, rfl⟩

def mismatchEnd : State errCapacity ℕ :=
  ((system someTime errCapacity ℕ).exec mismatchStart mismatchRun).get rfl

theorem mismatchEnd_reachable : (system someTime errCapacity ℕ).Reachable mismatchEnd :=
  LTS.reachable_of_exec mismatchStart_init (Option.some_get _).symm

theorem published_alarms_mismatchEnd : mismatchEnd.alarms.length = 1 ∧
    ∃ shown : List (ℕ × SystemError), (shown.map Prod.snd).Subperm mismatchEnd.reported ∧
      mismatchEnd.alarms.map parseSpaced = shown.map fun m => some (statusOf someTime m) := by
  obtain ⟨⟨shown, hshown, _, _, hread⟩, _⟩ :=
    published_alarms mismatchEnd_reachable printable_someTime
  exact ⟨rfl, shown, hshown, hread⟩

/-! ## The alarms of this program -/

theorem count_dot_toString (n : ℕ) : (toString n).toList.count '.' = 0 := by
  have hdigits : (toString n).toList = Nat.toDigits 10 n := by
    show (Nat.repr n).toList = Nat.toDigits 10 n
    rw [Nat.repr, String.toList_ofList]
  rw [hdigits, List.count_eq_zero]
  intro hdot
  have hdigit := Nat.isDigit_of_mem_toDigits (by decide) (by decide) hdot
  cases hdigit

/-- No report of the program has an address in its message. -/
theorem count_dot_of_reported {report : ErrorReport} (h : Reported report) :
    report.msg.toList.count '.' < 3 := by
  cases h with
  | dropped hname hreport =>
    unfold dropNotices at hreport
    dsimp only at hreport
    split at hreport
    · split at hreport
      · simp at hreport
      · simp only [List.mem_cons, List.not_mem_nil, or_false, reduceCtorEq, false_or,
          Notice.reportError.injEq] at hreport
        simp only [List.mem_cons, List.not_mem_nil, or_false] at hname
        rw [hreport]
        simp only [String.toList_append, List.count_append, count_dot_toString]
        rcases hname with rfl | rfl | rfl <;> decide
    · cases hreport
  | _ => decide

/-- **No alarm names a device.** As compiled, the program reports no error with an address in its
message: whatever its threads report and when, the `deviceIp` of every alarm published is empty. -/
theorem alarms_name_no_device (h : (system put_time C T).ReachableWith OfProgram s)
    (htime : ∀ now, Printable (put_time now)) :
    ∀ statusJson ∈ s.alarms, ∃ now status,
      parseSpaced statusJson
        = some (IndustrialMqttClient.deviceStatus [] (put_time now) status) := by
  have hreported : ∀ err ∈ s.reported, err.message.toList.count '.' < 3 := by
    refine LTS.ReachableWith.invariant
      (I := fun s => ∀ err ∈ s.reported, err.message.toList.count '.' < 3) ?_ ?_ h
    · rintro s ⟨manager, mqtt_task_queue_, err_task_queue_, _, rfl⟩ err herr
      cases herr
    · intro s a t hs hok hstep
      refine reported_of_moves (moves_of_step hstep) hs ?_
      rintro now report rfl err herr
      rw [(mem_pushes herr).2]
      exact count_dot_of_reported hok
  obtain ⟨⟨shown, hshown, _, _, hread⟩, _⟩ := published_alarms h htime
  intro statusJson hmem
  have hparsed : parseSpaced statusJson ∈ s.alarms.map parseSpaced := List.mem_map_of_mem hmem
  rw [hread] at hparsed
  obtain ⟨m, hm, hstatus⟩ := List.mem_map.mp hparsed
  have hnone : ExtractIpByRegex m.2.message.toList = [] :=
    ExtractIpByRegex_eq_nil (hreported m.2 (hshown.subset (List.mem_map_of_mem hm)))
  refine ⟨m.1, m.2.level.toNat, ?_⟩
  rw [← hstatus, statusOf, hnone]

theorem alarms_name_no_device_mismatchEnd : mismatchEnd.alarms.length = 1 ∧
    ∀ statusJson ∈ mismatchEnd.alarms, ∃ now status,
      parseSpaced statusJson
        = some (IndustrialMqttClient.deviceStatus [] (someTime now) status) := by
  have hmeets : (system someTime errCapacity ℕ).Meets OfProgram mismatchStart mismatchRun :=
    ⟨.mismatch, fun _ _ => ⟨trivial, fun _ _ => ⟨trivial, fun _ _ => ⟨trivial, fun _ _ =>
      ⟨trivial, fun _ _ => ⟨trivial, fun _ _ => trivial⟩⟩⟩⟩⟩⟩
  have hreachable : (system someTime errCapacity ℕ).ReachableWith OfProgram mismatchEnd :=
    (LTS.ReachableWith.init mismatchStart_init).exec (Option.some_get _).symm hmeets
  exact ⟨rfl, alarms_name_no_device hreachable printable_someTime⟩

/-! ## Ship data does not hold an alarm up -/

/-- How many steps `mqttWorkerLoop` makes at most until it has asked the error queue again. -/
def MqttPc.toTake : MqttPc T → ℕ
  | .takeError => 1
  | .publishData _ => 2
  | .takeData => 3
  | .test => 4
  | .publishError _ => 5
  | .returned => 0

/-- The first `n` accepted alarms are not all taken, and `mqttWorkerLoop` still runs. -/
def State.waiting (n : ℕ) (s : State C T) : Bool := s.taken.length < n && s.worker_running_

/-- What is left to do until they are. -/
def State.left (n : ℕ) (s : State C T) : ℕ :=
  if s.waiting n then 5 * (n - s.taken.length - 1) + s.pc.toTake else 0

/-- The steps that such an alarm waits for. -/
def awaited (n : ℕ) (s : State C T) : Action T → Bool
  | .mqtt _ => s.waiting n
  | _ => false

/-- The queue has what was accepted and not taken, and only a stopped thread has returned. -/
structure Serves (n : ℕ) (s : State C T) : Prop where
  fifo : s.accepted = s.taken ++ s.err_task_queue_.contents
  enough : n ≤ s.accepted.length
  returned : s.pc = .returned → s.worker_running_ = false

omit [Inhabited T] in
theorem left_lt {n : ℕ} (hs : s.waiting n = true) (hpos : 0 < s.pc.toTake)
    (h : t.waiting n = true → 5 * (n - t.taken.length - 1) + t.pc.toTake
      < 5 * (n - s.taken.length - 1) + s.pc.toTake) : t.left n < s.left n := by
  rw [State.left, State.left, if_pos hs]
  split
  · rename_i ht
    exact h ht
  · omega

omit [Inhabited T] in
/-- A step inside a pass. -/
theorem left_lt_of_pc {n : ℕ} (hs : s.waiting n = true) (htaken : t.taken = s.taken)
    (hpc : t.pc.toTake < s.pc.toTake) : t.left n < s.left n := by
  apply left_lt hs (Nat.zero_lt_of_lt hpc)
  intro _
  rw [htaken]
  exact Nat.add_lt_add_left hpc _

/-- Every step of `mqttWorkerLoop` brings it nearer to the next alarm. -/
theorem left_mqttStep {n : ℕ} {connected : Bool} (h : Serves n s) (hs : s.waiting n = true)
    (hstep : mqttStep s connected = some t) : t.left n < s.left n := by
  have hwaiting : s.taken.length < n ∧ s.worker_running_ = true := by
    rw [State.waiting, Bool.and_eq_true, decide_eq_true_eq] at hs
    exact hs
  unfold mqttStep at hstep
  split at hstep
  · rename_i hpc
    rw [hwaiting.2, if_pos rfl, Option.some.injEq] at hstep
    rw [← hstep]
    refine left_lt_of_pc hs ?_ ?_
    · rfl
    · rw [hpc]
      exact Nat.lt_succ_self 3
  · rename_i hpc
    dsimp only at hstep
    rw [← Option.some.inj hstep]
    refine left_lt_of_pc hs ?_ ?_
    · rfl
    · rw [hpc]
      dsimp only
      split
      · exact Nat.lt_succ_self 2
      · exact Nat.lt_trans (Nat.lt_succ_self 1) (Nat.lt_succ_self 2)
  · rename_i pkg hpc
    rw [← Option.some.inj hstep]
    refine left_lt_of_pc hs ?_ ?_
    · rfl
    · rw [hpc]
      exact Nat.lt_succ_self 1
  · rename_i hpc
    dsimp only at hstep
    rw [← Option.some.inj hstep]
    cases hok : (s.err_task_queue_.dequeue default).2.2 with
    | true =>
      apply left_lt hs (by rw [hpc]; exact Nat.one_pos)
      intro ht
      rw [State.waiting, Bool.and_eq_true, decide_eq_true_eq] at ht
      have hlength : (s.taken ++ [(s.err_task_queue_.dequeue default).2.1]).length < n := ht.1
      rw [List.length_append, List.length_singleton] at hlength
      show 5 * (n - (s.taken ++ [_]).length - 1) + 5 < _
      rw [List.length_append, List.length_singleton, hpc, MqttPc.toTake]
      omega
    | false =>
      -- an alarm is missing, so that the queue is not empty
      have hempty : s.err_task_queue_.contents = [] := by
        obtain ⟨hpop, _, hsome⟩ := s.err_task_queue_.dequeue_refines default
        rw [hok] at hsome
        cases hheld : s.err_task_queue_.contents with
        | nil => rfl
        | cons x rest =>
          rw [hheld] at hsome
          cases hsome
      have hall := h.enough
      rw [h.fifo, hempty, List.append_nil] at hall
      omega
  · rename_i err_msg hpc
    rw [← Option.some.inj hstep]
    refine left_lt_of_pc hs ?_ ?_
    · rfl
    · rw [hpc]
      exact Nat.lt_succ_self 4
  · cases hstep

omit [Inhabited T] in
/-- What `mqttWorkerLoop` does not do itself takes nothing and does not start it again. -/
theorem left_of_other {n : ℕ} {a : Action T} (hmove : Moves put_time s a t)
    (ha : ∀ connected, a ≠ .mqtt connected) : t.left n ≤ s.left n := by
  cases hmove with
  | stop =>
    have hstopped : ({ s with worker_running_ := false } : State C T).waiting n = false := by
      rw [State.waiting, Bool.and_false]
    rw [State.left, hstopped, if_neg Bool.false_ne_true]
    exact Nat.zero_le _
  | data => exact absurd rfl (ha _)
  | take => exact absurd rfl (ha _)
  | takeNone => exact absurd rfl (ha _)
  | publish => exact absurd rfl (ha _)
  | _ => exact Nat.le_refl _

omit [Inhabited T] in
theorem Serves.step {n : ℕ} {a : Action T} (h : Serves n s) (hmove : Moves put_time s a t) :
    Serves n t := by
  cases hmove with
  | report => exact ⟨h.fifo, h.enough, h.returned⟩
  | @push i now err hcall =>
    have hcontents := s.err_task_queue_.contents_enqueue (alarmOf put_time now err)
    refine ⟨?_, ?_, h.returned⟩
    · show (if _ then _ else _) = s.taken ++ (s.err_task_queue_.enqueue _).1.contents
      rw [hcontents]
      split
      · rw [h.fifo, List.append_assoc]
      · rw [h.fifo, List.append_nil]
    · have henough := h.enough
      show n ≤ (if _ then _ else _ : List DeviceErrMsg).length
      split
      · rw [List.length_append]
        omega
      · exact henough
  | data _ _ _ hreturned => exact ⟨h.fifo, h.enough, hreturned⟩
  | stop => exact ⟨h.fifo, h.enough, fun _ => rfl⟩
  | offer => exact ⟨h.fifo, h.enough, h.returned⟩
  | take hpc hok =>
    have hcontents := s.err_task_queue_.contents_dequeue default
    rw [hok, if_pos rfl] at hcontents
    refine ⟨?_, h.enough, fun hreturned => by cases hreturned⟩
    show s.accepted = s.taken ++ [_] ++ _
    rw [h.fifo, hcontents, List.append_assoc]
  | takeNone hpc hok =>
    have hcontents := s.err_task_queue_.contents_dequeue default
    rw [hok, if_neg Bool.false_ne_true, List.nil_append] at hcontents
    refine ⟨?_, h.enough, fun hreturned => by cases hreturned⟩
    show s.accepted = s.taken ++ (s.err_task_queue_.dequeue default).1.contents
    rw [h.fifo, hcontents]
  | publish hpc => exact ⟨h.fifo, h.enough, fun hreturned => by cases hreturned⟩

omit [Inhabited T] in
/-- Once taken an alarm stays taken, and a stopped thread stays stopped. -/
theorem waiting_of_moves {n : ℕ} {a : Action T} (hmove : Moves put_time s a t)
    (ht : t.waiting n = true) : s.waiting n = true := by
  cases hmove with
  | stop =>
    rw [State.waiting, Bool.and_false] at ht
    cases ht
  | take =>
    rw [State.waiting, Bool.and_eq_true, decide_eq_true_eq, List.length_append] at ht
    rw [State.waiting, Bool.and_eq_true, decide_eq_true_eq]
    exact ⟨Nat.lt_of_le_of_lt (Nat.le_add_right _ _) ht.1, ht.2⟩
  | _ => exact ht

/-- The alarms that are still to be taken when `mqttWorkerLoop` is waited for. -/
theorem takeVariant (put_time : ℕ → Text) (C : Capacity) (n : ℕ) :
    (system put_time C T).Variant (Serves n)
      (fun s => n ≤ s.taken.length ∨ s.worker_running_ = false) (awaited n) (State.left n) where
  keeps s a t hs hstep := hs.step (moves_of_step hstep)
  falls s a t hs hstep ha := by
    cases a with
    | mqtt connected => exact left_mqttStep hs ha hstep
    | _ => cases ha
  not_rises s a t hs hstep ha := by
    have hmove : Moves put_time s a t := moves_of_step hstep
    cases a with
    | mqtt connected =>
      -- nothing is waited for any more, and it stays so
      have hno : s.waiting n = false := ha
      have hstays : t.waiting n = false := by
        have hmono := waiting_of_moves (n := n) hmove
        cases ht : t.waiting n with
        | false => rfl
        | true =>
          rw [hmono ht] at hno
          cases hno
      rw [State.left, hstays, if_neg Bool.false_ne_true]
      exact Nat.zero_le _
    | _ => exact left_of_other hmove (by rintro _ ⟨⟩)
  enabled s hs hwaiting := by
    rw [not_or, Nat.not_le, Bool.not_eq_false] at hwaiting
    have hs' : s.waiting n = true := by
      rw [State.waiting, Bool.and_eq_true, decide_eq_true_eq]
      exact hwaiting
    refine ⟨.mqtt true, ?_⟩
    have hruns : (mqttStep s true).isSome = true := by
      unfold mqttStep
      split
      · rfl
      · rfl
      · rfl
      · rfl
      · rfl
      · rename_i hpc
        have hstopped := hs.returned hpc
        rw [hwaiting.2] at hstopped
        cases hstopped
    obtain ⟨t, ht⟩ := Option.isSome_iff_exists.mp hruns
    exact ⟨t, hs', ht⟩

theorem serves_of_reachable {ok : State C T → Action T → Prop} {n : ℕ}
    (h : (system put_time C T).ReachableWith ok s) (hn : n ≤ s.accepted.length) : Serves n s := by
  have hzero : Serves 0 s := by
    refine LTS.ReachableWith.invariant ?_ (fun s a t hs _ hstep => hs.step (moves_of_step hstep)) h
    rintro s ⟨manager, mqtt_task_queue_, err_task_queue_, hempty, rfl⟩
    exact ⟨hempty.symm, Nat.zero_le _, fun hreturned => by cases hreturned⟩
  exact ⟨hzero.fifo, hn, hzero.returned⟩

/-- **No alarm starves.** From every reachable state, the first `n` alarms that the error queue took
are taken out within five steps of `mqttWorkerLoop` for each that is still there, however much ship
data, which goes first, and however many other alarms come in meanwhile, unless it is stopped. -/
theorem alarm_not_starved {ok : State C T → Action T → Prop} {n : ℕ}
    (h : (system put_time C T).ReachableWith ok s) (hn : n ≤ s.accepted.length)
    {ls : List (Action T)}
    (hrun : (system put_time C T).exec s ls = some t) :
    (system put_time C T).awaitedSteps (awaited n) s ls ≤ 5 * (n - s.taken.length) ∧
    ((system put_time C T).awaitedSteps (awaited n) s ls = 5 * (n - s.taken.length) →
      n ≤ t.taken.length ∨ t.worker_running_ = false) := by
  have hvariant := takeVariant (T := T) put_time C n
  have hserves := serves_of_reachable h hn
  have hleft : s.left n ≤ 5 * (n - s.taken.length) := by
    have hpc : s.pc.toTake ≤ 5 := by
      unfold MqttPc.toTake
      split <;> omega
    unfold State.left
    split
    · rename_i hs
      rw [State.waiting, Bool.and_eq_true, decide_eq_true_eq] at hs
      omega
    · exact Nat.zero_le _
  constructor
  · exact ((Nat.le_add_right _ _).trans (hvariant.awaitedSteps_le hserves hrun)).trans hleft
  · intro hmany
    exact hvariant.done_of_awaitedSteps hserves hrun (hmany ▸ hleft)

/-- The alarm is accepted, and `mqttWorkerLoop` has not moved yet. -/
def mismatchAccepted : State errCapacity ℕ :=
  ((system someTime errCapacity ℕ).exec mismatchStart (mismatchRun.take 2)).get rfl

theorem alarm_not_starved_mismatch :
    (system someTime errCapacity ℕ).awaitedSteps (awaited 1) mismatchAccepted (mismatchRun.drop 2)
      ≤ 5 ∧
    mismatchEnd.taken.length = 1 := by
  have hreachable : (system someTime errCapacity ℕ).Reachable mismatchAccepted :=
    LTS.reachable_of_exec mismatchStart_init (Option.some_get _).symm
  have hrun : (system someTime errCapacity ℕ).exec mismatchAccepted (mismatchRun.drop 2)
      = some mismatchEnd := rfl
  exact ⟨(alarm_not_starved (n := 1) hreachable (Nat.le_refl 1) hrun).1, rfl⟩

end AlarmChannel
end DataOutputter
end ShipMotion
