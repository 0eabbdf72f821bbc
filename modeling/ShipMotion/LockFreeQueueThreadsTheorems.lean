import Mathlib.Data.Multiset.AddSub
import Mathlib.Data.Fintype.Basic
import ShipMotion.LockFreeQueueTheorems
import ShipMotion.LockFreeQueueThreads

/-!
# What the queue guarantees its threads

`enqueue` reserves its slot with a plain load of `tail_` and publishes it with a later
store, so everything rests on one fact about the moment of the buffer write: the slot is
still the one at `tail_`, it is free, and nobody else has written it and not yet published
(`SlotReserved`). The file has

* for a call that nobody interrupts, that it is the sequential operation;
* `Inv`, preserved by every step that meets `SlotReserved`;
* for one producer, that `SlotReserved` always holds, and with it the queue contract;
* for several producers, exact delivery along runs that meet `SlotReserved`, and a schedule
  of two producers that does not.
-/

namespace ShipMotion

open LockFreeRingQueue

namespace Threads

variable {C : Capacity} {T ι : Type} [DecidableEq ι]

/-! ## Calls without interruption -/

/-- A call of `enqueue` that nobody interrupts is the sequential `enqueue`. -/
theorem exec_enqueue {s : Threads C T ι} {i : ι} {ret : Option Bool}
    (hidle : s.producers i = .idle ret) (data : T) :
    ∃ steps s', (∀ a ∈ steps, a = .stepEnqueue i) ∧
      (system C T ι).exec s (.callEnqueue i data :: steps) = some s' ∧
      s'.queue = (s.queue.enqueue data).1 ∧
      s'.producers i = .idle (some (s.queue.enqueue data).2) ∧
      s'.enqueued = s.enqueued ++ if (s.queue.enqueue data).2 then [data] else [] := by
  have hcall : s.step (.callEnqueue i data) = some (s.setProducer i (.loadTail data)) := by
    simp only [step, hidle]
  by_cases hfull : nextIndex s.queue.tail_ = s.queue.head_
  · -- the two loads
    refine ⟨[.stepEnqueue i, .stepEnqueue i], ?_⟩
    rw [Utils.LTS.exec_cons _ hcall, enqueue_of_full data hfull]
    simp [Utils.LTS.exec, system, step, stepEnqueue, hfull]
  · -- the two loads, the write and the store
    refine ⟨[.stepEnqueue i, .stepEnqueue i, .stepEnqueue i, .stepEnqueue i], ?_⟩
    rw [Utils.LTS.exec_cons _ hcall, enqueue_of_room data hfull]
    simp [Utils.LTS.exec, system, step, stepEnqueue, hfull]

/-- A call of `dequeue` that nobody interrupts is the sequential `dequeue`. -/
theorem exec_dequeue {s : Threads C T ι} {ret : Option Bool} (hidle : s.consumer = .idle ret)
    (data : T) :
    ∃ steps s', (∀ a ∈ steps, a = .stepDequeue) ∧
      (system C T ι).exec s (.callDequeue :: steps) = some s' ∧
      s'.queue = (s.queue.dequeue data).1 ∧
      s'.consumer = .idle (some (s.queue.dequeue data).2.2) ∧
      s'.dequeued = s.dequeued ++
        if (s.queue.dequeue data).2.2 then [(s.queue.dequeue data).2.1] else [] := by
  have hcall : s.step .callDequeue = some { s with consumer := .loadHead } := by
    simp only [step, hidle]
  by_cases hempty : s.queue.head_ = s.queue.tail_
  · refine ⟨[.stepDequeue, .stepDequeue], ?_⟩
    rw [Utils.LTS.exec_cons _ hcall]
    simp [Utils.LTS.exec, system, step, stepDequeue, dequeue, hempty]
  · refine ⟨[.stepDequeue, .stepDequeue, .stepDequeue, .stepDequeue], ?_⟩
    rw [Utils.LTS.exec_cons _ hcall]
    simp [Utils.LTS.exec, system, step, stepDequeue, dequeue, hempty]

/-! ## The invariant -/

/-- A thread that is about to write `buffer_` holds the slot at `tail_`, that slot is free,
and no thread is between its write and its store. -/
def SlotReserved (s : Threads C T ι) : Action ι T → Prop
  | .stepEnqueue i => ∀ t ∈ s.writing i,
      t = s.queue.tail_ ∧ nextIndex t ≠ s.queue.head_ ∧ ∀ j, s.written j = none
  | _ => True

instance [Fintype ι] (s : Threads C T ι) : ∀ a, Decidable (SlotReserved s a)
  | .stepEnqueue i => inferInstanceAs (Decidable (∀ t ∈ s.writing i,
      t = s.queue.tail_ ∧ nextIndex t ≠ s.queue.head_ ∧ ∀ j, s.written j = none))
  | .callEnqueue _ _ => isTrue trivial
  | .callDequeue => isTrue trivial
  | .stepDequeue => isTrue trivial

/-- The histories and the contents agree; the one thread that has written a slot will
publish exactly that slot; the consumer's `current_head` is current. -/
structure Inv (s : Threads C T ι) : Prop where
  fifo : s.enqueued = s.dequeued ++ s.queue.contents
  written : ∀ i d t, s.producers i = .storeTail d t →
    t = s.queue.tail_ ∧ s.queue.buffer_ t = d ∧ nextIndex t ≠ s.queue.head_
  written_unique : ∀ i d t j d' t', s.producers i = .storeTail d t →
    s.producers j = .storeTail d' t' → i = j
  loading : ∀ h, s.consumer = .loadTail h → h = s.queue.head_
  reading : ∀ h, s.consumer = .readBuffer h → h = s.queue.head_ ∧ h ≠ s.queue.tail_
  releasing : ∀ h d, s.consumer = .storeHead h d →
    h = s.queue.head_ ∧ h ≠ s.queue.tail_ ∧ d = s.queue.buffer_ h

omit [DecidableEq ι] in
theorem of_writing {s : Threads C T ι} {i : ι} {t : Fin C.val} (h : s.writing i = some t) :
    ∃ d, s.producers i = .writeBuffer d t := by
  unfold writing at h
  split at h
  · rename_i hpc
    cases h
    exact ⟨_, hpc⟩
  · cases h

omit [DecidableEq ι] in
theorem inv_initial (default : T) : Inv (initial default : Threads C T ι) where
  fifo := by simp [initial]
  written := by simp [initial]
  written_unique := by simp [initial]
  loading := by simp [initial]
  reading := by simp [initial]
  releasing := by simp [initial]

/-- A producer's move that changes neither the queue nor the histories, and does not leave
the producer with a written slot, keeps the invariant. -/
theorem Inv.setProducer {s : Threads C T ι} (h : Inv s) (i : ι) {pc : EnqueuePc C T}
    (hpc : ∀ d t, pc ≠ .storeTail d t) : Inv (s.setProducer i pc) where
  fifo := h.fifo
  written := by
    intro j d t hj
    rcases eq_or_of_setProducer hj with ⟨_, e⟩ | ⟨_, hj⟩
    · exact absurd e (hpc d t)
    · exact h.written j d t hj
  written_unique := by
    intro j d t k d' t' hj hk
    rcases eq_or_of_setProducer hj with ⟨_, e⟩ | ⟨_, hj⟩
    · exact absurd e (hpc d t)
    rcases eq_or_of_setProducer hk with ⟨_, e⟩ | ⟨_, hk⟩
    · exact absurd e (hpc d' t')
    exact h.written_unique j d t k d' t' hj hk
  loading := h.loading
  reading := h.reading
  releasing := h.releasing

/-- The buffer write, when the slot is reserved. -/
theorem Inv.enqueueWrite {s : Threads C T ι} (h : Inv s) {i : ι} {d : T} {t : Fin C.val}
    (hpc : s.producers i = .writeBuffer d t) (hok : SlotReserved s (.stepEnqueue i)) :
    Inv ({ s with queue := s.queue.writeBuffer t d }.setProducer i (.storeTail d t)) := by
  obtain ⟨rfl, hroom, hwritten⟩ := hok t (by simp [writing, hpc])
  -- nobody else is between its write and its store, so the new `written` slot is the only one
  have hnone : ∀ j d' t', s.producers j ≠ .storeTail d' t' := fun j d' t' hj => by
    simpa [Threads.written, hj] using hwritten j
  refine ⟨?_, ?_, ?_, h.loading, h.reading, ?_⟩
  · -- the slot is not yet between `head_` and `tail_`
    rw [setProducer_enqueued, setProducer_dequeued, setProducer_queue, contents_writeBuffer_tail]
    exact h.fifo
  · intro j d' t' hj
    rcases eq_or_of_setProducer hj with ⟨_, e⟩ | ⟨_, hj⟩
    · cases e
      exact ⟨rfl, writeBuffer_buffer_self _ _ _, hroom⟩
    · exact absurd hj (hnone j d' t')
  · intro j d' t' k d'' t'' hj hk
    rcases eq_or_of_setProducer hj with ⟨hji, _⟩ | ⟨_, hj⟩
    · rcases eq_or_of_setProducer hk with ⟨hki, _⟩ | ⟨_, hk⟩
      · rw [hji, hki]
      · exact absurd hk (hnone k d'' t'')
    · exact absurd hj (hnone j d' t')
  · intro hd d' hc
    obtain ⟨hhead, hne, hval⟩ := h.releasing hd d' hc
    -- the consumer's slot is not the one at `tail_`, so the write does not touch it
    exact ⟨hhead, hne, hval.trans (writeBuffer_buffer_of_ne _ _ hne).symm⟩

/-- The store of `tail_` publishes the written value. -/
theorem Inv.enqueueStore {s : Threads C T ι} (h : Inv s) {i : ι} {d : T} {t : Fin C.val}
    (hpc : s.producers i = .storeTail d t) :
    Inv ({ s with
      queue := s.queue.storeTail (nextIndex t)
      enqueued := s.enqueued ++ [d] }.setProducer i (.idle (some true))) := by
  -- the slot at `tail_` holds the value, and the next one is not `head_`
  obtain ⟨rfl, hval, hroom⟩ := h.written i d t hpc
  have hnone : ∀ j d' t', j ≠ i → s.producers j ≠ .storeTail d' t' := fun j d' t' hji hj =>
    hji (h.written_unique j d' t' i d _ hj hpc)
  refine ⟨?_, ?_, ?_, h.loading, ?_, ?_⟩
  · show s.enqueued ++ [d] = s.dequeued ++ (s.queue.storeTail (nextIndex s.queue.tail_)).contents
    rw [contents_storeTail_next hroom, hval, h.fifo, List.append_assoc]
  · intro j d' t' hj
    rcases eq_or_of_setProducer hj with ⟨_, e⟩ | ⟨hji, hj⟩
    · cases e
    · exact absurd hj (hnone j d' t' hji)
  · intro j d' t' k d'' t'' hj _
    rcases eq_or_of_setProducer hj with ⟨_, e⟩ | ⟨hji, hj⟩
    · cases e
    · exact absurd hj (hnone j d' t' hji)
  · -- `tail_` moves to a slot that is not `head_`, so the consumer's slot stays behind it
    intro hd hc
    have hhead : hd = s.queue.head_ := (h.reading hd hc).1
    exact ⟨hhead, fun e => hroom (e.symm.trans hhead)⟩
  · intro hd d' hc
    obtain ⟨hhead, _, hbuf⟩ := h.releasing hd d' hc
    exact ⟨hhead, fun e => hroom (e.symm.trans hhead), hbuf⟩

omit [DecidableEq ι] in
/-- The store of `head_` drops exactly the value handed out. -/
theorem Inv.dequeueStore {s : Threads C T ι} (h : Inv s) {hd : Fin C.val} {d : T}
    (hpc : s.consumer = .storeHead hd d) :
    Inv { s with
      queue := s.queue.storeHead (nextIndex hd)
      consumer := .idle (some true)
      dequeued := s.dequeued ++ [d] } := by
  obtain ⟨rfl, hne, hval⟩ := h.releasing hd d hpc
  refine ⟨?_, ?_, h.written_unique, ?_, ?_, ?_⟩
  · show s.enqueued = (s.dequeued ++ [d]) ++ (s.queue.storeHead (nextIndex s.queue.head_)).contents
    rw [h.fifo, contents_eq_cons hne, hval, List.append_assoc, List.singleton_append]
  · -- `head_` moves one slot on; it would have to come from `tail_` to meet the slot after it
    intro i d' t hi
    obtain ⟨htail, hbuf, _⟩ := h.written i d' t hi
    refine ⟨htail, hbuf, fun e => hne ?_⟩
    exact (nextIndex_injective (htail ▸ e)).symm
  · intro _ hc
    cases hc
  · intro _ hc
    cases hc
  · intro _ _ hc
    cases hc

/-- Every step whose write, if it makes one, is to a reserved slot keeps the invariant. -/
theorem Inv.step {s s' : Threads C T ι} {a : Action ι T} (h : Inv s) (hok : SlotReserved s a)
    (hstep : s.step a = some s') : Inv s' := by
  -- one case for each access; those of a producer before its write change only its position
  cases moves_of_step hstep with
  | callEnqueue _ => exact h.setProducer _ (by simp)
  | enqueueLoadTail _ => exact h.setProducer _ (by simp)
  | enqueueFull _ _ => exact h.setProducer _ (by simp)
  | enqueueLoadHead _ _ => exact h.setProducer _ (by simp)
  | enqueueWrite hpc => exact h.enqueueWrite hpc hok
  | enqueueStore hpc => exact h.enqueueStore hpc
  | callDequeue _ => exact ⟨h.fifo, h.written, h.written_unique, by simp, by simp, by simp⟩
  | dequeueLoadHead _ => exact ⟨h.fifo, h.written, h.written_unique, by simp, by simp, by simp⟩
  | dequeueEmpty _ _ => exact ⟨h.fifo, h.written, h.written_unique, by simp, by simp, by simp⟩
  | dequeueLoadTail hpc hne =>
    have hhead := h.loading _ hpc
    exact ⟨h.fifo, h.written, h.written_unique, by simp, by simpa using ⟨hhead, hne⟩, by simp⟩
  | dequeueRead hpc =>
    obtain ⟨hhead, hne⟩ := h.reading _ hpc
    exact ⟨h.fifo, h.written, h.written_unique, by simp, by simp, by simpa using ⟨hhead, hne⟩⟩
  | dequeueStore hpc => exact h.dequeueStore hpc

theorem inv_of_reachableWith {s : Threads C T ι}
    (h : (system C T ι).ReachableWith SlotReserved s) : Inv s := by
  refine h.invariant ?_ fun s a s' hs hok hstep => hs.step hok hstep
  rintro s ⟨default, rfl⟩
  exact inv_initial default

omit [DecidableEq ι] in
/-- As many values are enqueued and not yet dequeued as the ring holds. -/
theorem Inv.length_enqueued {s : Threads C T ι} (h : Inv s) :
    s.enqueued.length = s.dequeued.length + s.queue.contents.length := by
  rw [h.fifo, List.length_append]

/-! ## One producer -/

/-- With one producer, the tail it loaded stays current, and the room it saw stays. -/
structure Fresh (s : Threads C T ι) : Prop where
  loaded : ∀ i d t, s.producers i = .loadHead d t → t = s.queue.tail_
  roomy : ∀ i d t, s.producers i = .writeBuffer d t →
    t = s.queue.tail_ ∧ nextIndex t ≠ s.queue.head_

omit [DecidableEq ι] in
theorem Fresh.slotReserved [Subsingleton ι] {s : Threads C T ι} (h : Fresh s) (a : Action ι T) :
    SlotReserved s a := by
  cases a with
  | stepEnqueue i =>
    intro t hw
    obtain ⟨d, hpc⟩ := of_writing hw
    obtain ⟨htail, hroom⟩ := h.roomy i d t hpc
    refine ⟨htail, hroom, fun j => ?_⟩
    rw [Subsingleton.elim j i]
    simp [written, hpc]
  | callEnqueue i data => trivial
  | callDequeue => trivial
  | stepDequeue => trivial

/-- With one producer, the producer that moved is the only one. -/
theorem Fresh.setProducer [Subsingleton ι] {s : Threads C T ι} {i : ι} {pc : EnqueuePc C T}
    (hload : ∀ d t, pc = .loadHead d t → t = s.queue.tail_)
    (hwrite : ∀ d t, pc = .writeBuffer d t → t = s.queue.tail_ ∧ nextIndex t ≠ s.queue.head_) :
    Fresh (s.setProducer i pc) := by
  refine ⟨fun j d t hj => ?_, fun j d t hj => ?_⟩
  · rw [Subsingleton.elim j i, setProducer_self] at hj
    exact hload d t hj
  · rw [Subsingleton.elim j i, setProducer_self] at hj
    exact hwrite d t hj

theorem Fresh.step [Subsingleton ι] {s s' : Threads C T ι} {a : Action ι T} (h : Fresh s)
    (hI : Inv s) (hstep : s.step a = some s') : Fresh s' := by
  cases moves_of_step hstep with
  | callEnqueue _ => exact .setProducer (by simp) (by simp)
  | enqueueLoadTail _ => exact .setProducer (by simp) (by simp)
  | enqueueFull _ _ => exact .setProducer (by simp) (by simp)
  | enqueueLoadHead hpc hroom =>
    -- the only producer loaded `tail_` and is the only one to store it
    have htail := h.loaded _ _ _ hpc
    exact .setProducer (by simp) (by simpa using ⟨htail, hroom⟩)
  | enqueueWrite _ => exact .setProducer (by simp) (by simp)
  | enqueueStore _ => exact .setProducer (by simp) (by simp)
  | callDequeue _ => exact ⟨h.loaded, h.roomy⟩
  | dequeueLoadHead _ => exact ⟨h.loaded, h.roomy⟩
  | dequeueEmpty _ _ => exact ⟨h.loaded, h.roomy⟩
  | dequeueLoadTail _ _ => exact ⟨h.loaded, h.roomy⟩
  | dequeueRead _ => exact ⟨h.loaded, h.roomy⟩
  | dequeueStore hpc =>
    obtain ⟨rfl, hne, _⟩ := hI.releasing _ _ hpc
    refine ⟨h.loaded, fun i d t hi => ?_⟩
    obtain ⟨htail, _⟩ := h.roomy i d t hi
    -- `head_` moved, but only to where `tail_` cannot follow without having been behind it
    exact ⟨htail, fun e => hne (nextIndex_injective (htail ▸ e)).symm⟩

/-- One producer never writes a slot it has not reserved. -/
theorem single_producer {s : Threads C T Unit} (h : (system C T Unit).Reachable s) :
    Inv s ∧ Fresh s := by
  refine Utils.LTS.Reachable.invariant (I := fun s => Inv s ∧ Fresh s) ?_ ?_ h
  · rintro s ⟨default, rfl⟩
    exact ⟨inv_initial default, by simp [initial], by simp [initial]⟩
  · rintro s a s' ⟨hI, hF⟩ hstep
    exact ⟨hI.step (hF.slotReserved a) hstep, hF.step hI hstep⟩

omit [DecidableEq ι] in
theorem Inv.reading_eq {s : Threads C T ι} (h : Inv s) {hd : Fin C.val}
    (hr : s.reading = some hd) : hd = s.queue.head_ ∧ hd ≠ s.queue.tail_ := by
  unfold Threads.reading at hr
  split at hr
  · rename_i hc
    cases hr
    exact h.reading _ hc
  · rename_i hc
    cases hr
    obtain ⟨hhead, hne, _⟩ := h.releasing _ _ hc
    exact ⟨hhead, hne⟩
  · cases hr

omit [DecidableEq ι] in
theorem Fresh.writing_eq {s : Threads C T ι} (h : Fresh s) {i : ι} {t : Fin C.val}
    (hw : s.writing i = some t) : t = s.queue.tail_ := by
  obtain ⟨d, hpc⟩ := of_writing hw
  exact (h.roomy i d t hpc).1

/-- An `enqueue` answers false only from its load of a `head_` just ahead of its tail. -/
theorem full_of_returns_false {s s' : Threads C T ι} {i : ι}
    (hstep : s.step (.stepEnqueue i) = some s') (hret : s'.producers i = .idle (some false)) :
    ∃ d t, s.producers i = .loadHead d t ∧ nextIndex t = s.queue.head_ := by
  cases moves_of_step hstep with
  | enqueueFull hpc hfull => exact ⟨_, _, hpc, hfull⟩
  | _ => simp at hret

/-- A `dequeue` answers false only from its load of a `tail_` equal to its head. -/
theorem empty_of_returns_false {s s' : Threads C T ι}
    (hstep : s.step .stepDequeue = some s') (hret : s'.consumer = .idle (some false)) :
    ∃ h, s.consumer = .loadTail h ∧ h = s.queue.tail_ := by
  cases moves_of_step hstep with
  | dequeueEmpty hpc hempty => exact ⟨_, hpc, hempty⟩
  | _ => simp at hret

/-- **One producer, one consumer.** In every reachable state the values handed out are a
prefix of the values accepted, at most `capacity_ - 1` are in between, the slot about to be
written is not the consumer's slot; and a call answers false only if the ring was full, or
empty, at the load it decided on. -/
theorem spsc_contract {s : Threads C T Unit} (h : (system C T Unit).Reachable s) :
    s.dequeued <+: s.enqueued ∧
    s.enqueued.length - s.dequeued.length ≤ C.val - 1 ∧
    (∀ t hd, s.writing () = some t → s.reading = some hd → t ≠ hd) ∧
    (∀ s', s.step (.stepEnqueue ()) = some s' → s'.producers () = .idle (some false) →
      s.enqueued.length = s.dequeued.length + (C.val - 1)) ∧
    (∀ s', s.step .stepDequeue = some s' → s'.consumer = .idle (some false) →
      s.enqueued = s.dequeued) := by
  obtain ⟨hI, hF⟩ := single_producer h
  refine ⟨⟨s.queue.contents, hI.fifo.symm⟩, ?_, ?_, ?_, ?_⟩
  · have hlen := hI.length_enqueued
    have hlt := length_contents_lt s.queue
    omega
  · intro t hd hw hr e
    have htail := hF.writing_eq hw
    obtain ⟨_, hne⟩ := hI.reading_eq hr
    exact hne (e.symm.trans htail)
  · intro s' hstep hret
    obtain ⟨d, t, hpc, hfull⟩ := full_of_returns_false hstep hret
    have htail := hF.loaded () d t hpc
    subst htail
    rw [hI.length_enqueued, nextIndex_tail_eq_head_iff.mp hfull]
  · intro s' hstep hret
    obtain ⟨hd, hpc, hempty⟩ := empty_of_returns_false hstep hret
    have hnil : s.queue.contents = [] :=
      contents_eq_nil_iff.mpr ((hI.loading hd hpc).symm.trans hempty)
    rw [hI.fifo, hnil, List.append_nil]

/-- A queue of two slots, filled, found full, and half emptied. -/
def spscSchedule : List (Action Unit ℕ) :=
  [.callEnqueue () 7, .stepEnqueue (), .stepEnqueue (), .stepEnqueue (), .stepEnqueue (),
    .callEnqueue () 8, .callDequeue, .stepEnqueue (), .stepDequeue, .stepEnqueue (),
    .stepDequeue, .stepDequeue, .callEnqueue () 9, .stepDequeue]

def spscEnd : Threads ⟨2, by decide, by decide⟩ ℕ Unit :=
  ((system ⟨2, by decide, by decide⟩ ℕ Unit).exec (initial 0) spscSchedule).get (by rfl)

theorem spsc_contract_spscEnd : spscEnd.dequeued = [7] ∧ spscEnd.dequeued <+: spscEnd.enqueued :=
  ⟨rfl, (spsc_contract (Utils.LTS.reachable_of_exec ⟨0, rfl⟩ (Option.some_get _).symm)).1⟩

/-! ## Several producers -/

/-- What several producers and one consumer rely on: nothing is handed out twice or out of
thin air, and between calls the ring holds exactly the accepted values not yet handed out.
Values are counted, so equal values of different calls are kept apart. -/
structure ExactDelivery (s : Threads C T ι) : Prop where
  at_most_once : (s.dequeued : Multiset T) ≤ s.enqueued
  delivers : ∀ s', s.step .stepDequeue = some s' → s'.consumer = .idle (some true) →
    ∃ x rest, s'.dequeued = s.dequeued ++ [x] ∧
      (s.enqueued : Multiset T) = (s.dequeued : Multiset T) + x ::ₘ rest
  quiescent : (∀ i, ∃ ret, s.producers i = .idle ret) → (∃ ret, s.consumer = .idle ret) →
    (s.queue.contents + s.dequeued : Multiset T) = s.enqueued

theorem Inv.exactDelivery {s : Threads C T ι} (h : Inv s) : ExactDelivery s where
  at_most_once := by
    rw [h.fifo, ← Multiset.coe_add]
    exact Multiset.le_add_right _ _
  delivers := by
    intro s' hstep hret
    cases moves_of_step hstep with
    | dequeueStore hpc =>
      obtain ⟨rfl, hne, rfl⟩ := h.releasing _ _ hpc
      refine ⟨_, (s.queue.storeHead (nextIndex s.queue.head_)).contents, rfl, ?_⟩
      rw [h.fifo, contents_eq_cons hne, ← Multiset.coe_add, Multiset.cons_coe]
    | _ => simp at hret
  quiescent := by
    intro _ _
    rw [h.fifo, ← Multiset.coe_add, Multiset.add_comm]

/-- **Several producers, one consumer.** Delivery is exact in every state of every run in
which each buffer write goes to a reserved slot. -/
theorem pool_delivery {W : ℕ} {s : Threads C T (Fin W)}
    (h : (system C T (Fin W)).ReachableWith SlotReserved s) : ExactDelivery s :=
  (inv_of_reachableWith h).exactDelivery

/-- Two workers whose calls overlap, harmlessly: the second loads `tail_` after the first has
stored it. -/
def politeSchedule : List (Action (Fin 2) ℕ) :=
  [.callEnqueue 0 7, .callEnqueue 1 8, .stepEnqueue 0, .stepEnqueue 0, .stepEnqueue 0,
    .stepEnqueue 0, .stepEnqueue 1, .stepEnqueue 1, .stepEnqueue 1, .stepEnqueue 1]

/-- The capacity of `rq_six_dof`. -/
def sixDofCapacity : Capacity := ⟨100, by decide, by decide⟩

def politeEnd : Threads sixDofCapacity ℕ (Fin 2) :=
  ((system sixDofCapacity ℕ (Fin 2)).exec (initial 0) politeSchedule).get (by rfl)

theorem pool_delivery_politeEnd : ExactDelivery politeEnd := by
  have hinit : (system sixDofCapacity ℕ (Fin 2)).ReachableWith SlotReserved (initial 0) :=
    .init ⟨0, rfl⟩
  exact pool_delivery (hinit.exec (Option.some_get _).symm
    (show (system _ _ _).Meets SlotReserved (initial 0) politeSchedule by decide))

/-- Two workers that load the same `tail_`: both write its slot, both move `tail_` past it,
both return true. -/
def overlappingSchedule : List (Action (Fin 2) ℕ) :=
  [.callEnqueue 0 7, .callEnqueue 1 8, .stepEnqueue 0, .stepEnqueue 1, .stepEnqueue 0,
    .stepEnqueue 1, .stepEnqueue 0, .stepEnqueue 1, .stepEnqueue 0, .stepEnqueue 1]

def overlappingEnd : Threads sixDofCapacity ℕ (Fin 2) :=
  ((system sixDofCapacity ℕ (Fin 2)).exec (initial 0) overlappingSchedule).get (by rfl)

theorem overlappingEnd_enqueued : overlappingEnd.enqueued = [7, 8] := by rfl

theorem overlappingEnd_contents : overlappingEnd.queue.contents = [8] := by decide

/-- The first worker's accepted result is gone: the ring holds one value for two accepted. -/
theorem pool_loses_result :
    ¬ ∀ (W : ℕ) (C : Capacity) (T : Type) (s : Threads C T (Fin W)), 1 ≤ W →
      (system C T (Fin W)).Reachable s → ExactDelivery s := by
  intro h
  have hreach : (system sixDofCapacity ℕ (Fin 2)).Reachable overlappingEnd :=
    Utils.LTS.reachable_of_exec ⟨0, rfl⟩ (Option.some_get _).symm
  have hexact := h 2 sixDofCapacity ℕ overlappingEnd (by decide) hreach
  have hidle : ∀ i, ∃ ret, overlappingEnd.producers i = .idle ret := by
    intro i
    refine ⟨some true, ?_⟩
    match i with
    | 0 => rfl
    | 1 => rfl
  have hcount := congrArg Multiset.card (hexact.quiescent hidle ⟨none, rfl⟩)
  rw [overlappingEnd_enqueued, overlappingEnd_contents] at hcount
  exact absurd hcount (by decide)

end Threads
end ShipMotion
