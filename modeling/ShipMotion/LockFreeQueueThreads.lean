import ShipMotion.LockFreeQueue
import ShipMotion.Utils.TransitionSystem

/-!
# Threads on a `LockFreeRingQueue`

`enqueue` and `dequeue` as the threads execute them: a call, then one atomic load, buffer
access or store at a time. Any number of threads enqueue, one dequeues, and a schedule
decides who moves; memory is sequentially consistent.

The source's `next_tail` is a local computed from `current_tail`, so only `current_tail` is
part of a thread's position. Two histories record what the calls returned: the values whose
`enqueue` returned true, in the order of the returns, and the values handed out by `dequeue`.
-/

namespace ShipMotion

open LockFreeRingQueue

/-- Where a thread stands in `enqueue`. An idle thread remembers its last answer. -/
inductive EnqueuePc (C : Capacity) (T : Type) where
  | idle (ret : Option Bool)
  | loadTail (data : T)
  | loadHead (data : T) (current_tail : Fin C.val)
  | writeBuffer (data : T) (current_tail : Fin C.val)
  | storeTail (data : T) (current_tail : Fin C.val)

/-- Where the consumer stands in `dequeue`. -/
inductive DequeuePc (C : Capacity) (T : Type) where
  | idle (ret : Option Bool)
  | loadHead
  | loadTail (current_head : Fin C.val)
  | readBuffer (current_head : Fin C.val)
  | storeHead (current_head : Fin C.val) (data : T)

/-- What a schedule may do next: start a call, or let a thread take its next access. -/
inductive Action (ι T : Type) where
  | callEnqueue (i : ι) (data : T)
  | stepEnqueue (i : ι)
  | callDequeue
  | stepDequeue

/-- The shared queue, the threads' positions and the two histories. -/
structure Threads (C : Capacity) (T ι : Type) where
  queue : LockFreeRingQueue C T
  producers : ι → EnqueuePc C T
  consumer : DequeuePc C T
  enqueued : List T
  dequeued : List T

namespace Threads

variable {C : Capacity} {T ι : Type} [DecidableEq ι]

/-- Before the first call. -/
def initial (default : T) : Threads C T ι :=
  { queue := new C default
    producers := fun _ => .idle none
    consumer := .idle none
    enqueued := []
    dequeued := [] }

def setProducer (s : Threads C T ι) (i : ι) (pc : EnqueuePc C T) : Threads C T ι :=
  { s with producers := Function.update s.producers i pc }

/-- One access of thread `i` in `enqueue`. -/
def stepEnqueue (s : Threads C T ι) (i : ι) : Option (Threads C T ι) :=
  match s.producers i with
  | .idle _ => none
  | .loadTail data => some (s.setProducer i (.loadHead data s.queue.tail_))
  | .loadHead data current_tail =>
    if nextIndex current_tail = s.queue.head_ then some (s.setProducer i (.idle (some false)))
    else some (s.setProducer i (.writeBuffer data current_tail))
  | .writeBuffer data current_tail =>
    some ({ s with queue := s.queue.writeBuffer current_tail data }.setProducer i
      (.storeTail data current_tail))
  | .storeTail data current_tail =>
    some ({ s with
      queue := s.queue.storeTail (nextIndex current_tail)
      enqueued := s.enqueued ++ [data] }.setProducer i (.idle (some true)))

/-- One access of the consumer in `dequeue`. -/
def stepDequeue (s : Threads C T ι) : Option (Threads C T ι) :=
  match s.consumer with
  | .idle _ => none
  | .loadHead => some { s with consumer := .loadTail s.queue.head_ }
  | .loadTail current_head =>
    if current_head = s.queue.tail_ then some { s with consumer := .idle (some false) }
    else some { s with consumer := .readBuffer current_head }
  | .readBuffer current_head =>
    some { s with consumer := .storeHead current_head (s.queue.buffer_ current_head) }
  | .storeHead current_head data =>
    some { s with
      queue := s.queue.storeHead (nextIndex current_head)
      consumer := .idle (some true)
      dequeued := s.dequeued ++ [data] }

def step (s : Threads C T ι) : Action ι T → Option (Threads C T ι)
  | .callEnqueue i data =>
    match s.producers i with
    | .idle _ => some (s.setProducer i (.loadTail data))
    | _ => none
  | .stepEnqueue i => s.stepEnqueue i
  | .callDequeue =>
    match s.consumer with
    | .idle _ => some { s with consumer := .loadHead }
    | _ => none
  | .stepDequeue => s.stepDequeue

/-- The slot a thread has reserved and is about to write. -/
def writing (s : Threads C T ι) (i : ι) : Option (Fin C.val) :=
  match s.producers i with
  | .writeBuffer _ current_tail => some current_tail
  | _ => none

/-- The slot a thread has written and not yet published. -/
def written (s : Threads C T ι) (i : ι) : Option (Fin C.val) :=
  match s.producers i with
  | .storeTail _ current_tail => some current_tail
  | _ => none

/-- The slot of a consumer that passed its emptiness test: about to be read, or read and not
yet released. -/
def reading (s : Threads C T ι) : Option (Fin C.val) :=
  match s.consumer with
  | .readBuffer current_head => some current_head
  | .storeHead current_head _ => some current_head
  | _ => none

/-- All interleavings of the threads `ι`, all of them enqueueing, with one consumer. -/
def system (C : Capacity) (T ι : Type) [DecidableEq ι] : Utils.LTS (Threads C T ι) (Action ι T) where
  init s := ∃ default, s = initial default
  step := step

/-! ## What a step can do -/

/-- The accesses one by one, each with the position it is taken from. -/
inductive Moves (s : Threads C T ι) : Action ι T → Threads C T ι → Prop where
  | callEnqueue {i : ι} {ret : Option Bool} {data : T} (hpc : s.producers i = .idle ret) :
      Moves s (.callEnqueue i data) (s.setProducer i (.loadTail data))
  | enqueueLoadTail {i : ι} {data : T} (hpc : s.producers i = .loadTail data) :
      Moves s (.stepEnqueue i) (s.setProducer i (.loadHead data s.queue.tail_))
  | enqueueFull {i : ι} {data : T} {t : Fin C.val} (hpc : s.producers i = .loadHead data t)
      (hfull : nextIndex t = s.queue.head_) :
      Moves s (.stepEnqueue i) (s.setProducer i (.idle (some false)))
  | enqueueLoadHead {i : ι} {data : T} {t : Fin C.val} (hpc : s.producers i = .loadHead data t)
      (hroom : nextIndex t ≠ s.queue.head_) :
      Moves s (.stepEnqueue i) (s.setProducer i (.writeBuffer data t))
  | enqueueWrite {i : ι} {data : T} {t : Fin C.val} (hpc : s.producers i = .writeBuffer data t) :
      Moves s (.stepEnqueue i)
        ({ s with queue := s.queue.writeBuffer t data }.setProducer i (.storeTail data t))
  | enqueueStore {i : ι} {data : T} {t : Fin C.val} (hpc : s.producers i = .storeTail data t) :
      Moves s (.stepEnqueue i)
        ({ s with
          queue := s.queue.storeTail (nextIndex t)
          enqueued := s.enqueued ++ [data] }.setProducer i (.idle (some true)))
  | callDequeue {ret : Option Bool} (hpc : s.consumer = .idle ret) :
      Moves s .callDequeue { s with consumer := .loadHead }
  | dequeueLoadHead (hpc : s.consumer = .loadHead) :
      Moves s .stepDequeue { s with consumer := .loadTail s.queue.head_ }
  | dequeueEmpty {h : Fin C.val} (hpc : s.consumer = .loadTail h) (hempty : h = s.queue.tail_) :
      Moves s .stepDequeue { s with consumer := .idle (some false) }
  | dequeueLoadTail {h : Fin C.val} (hpc : s.consumer = .loadTail h) (hne : h ≠ s.queue.tail_) :
      Moves s .stepDequeue { s with consumer := .readBuffer h }
  | dequeueRead {h : Fin C.val} (hpc : s.consumer = .readBuffer h) :
      Moves s .stepDequeue { s with consumer := .storeHead h (s.queue.buffer_ h) }
  | dequeueStore {h : Fin C.val} {data : T} (hpc : s.consumer = .storeHead h data) :
      Moves s .stepDequeue
        { s with
          queue := s.queue.storeHead (nextIndex h)
          consumer := .idle (some true)
          dequeued := s.dequeued ++ [data] }

theorem moves_of_stepEnqueue {s s' : Threads C T ι} {i : ι} (h : s.stepEnqueue i = some s') :
    Moves s (.stepEnqueue i) s' := by
  unfold stepEnqueue at h
  split at h
  · cases h
  · rename_i hpc
    cases h
    exact .enqueueLoadTail hpc
  · rename_i hpc
    split at h
    · rename_i hfull
      cases h
      exact .enqueueFull hpc hfull
    · rename_i hroom
      cases h
      exact .enqueueLoadHead hpc hroom
  · rename_i hpc
    cases h
    exact .enqueueWrite hpc
  · rename_i hpc
    cases h
    exact .enqueueStore hpc

theorem moves_of_stepDequeue {s s' : Threads C T ι} (h : s.stepDequeue = some s') :
    Moves s .stepDequeue s' := by
  unfold stepDequeue at h
  split at h
  · cases h
  · rename_i hpc
    cases h
    exact .dequeueLoadHead hpc
  · rename_i hpc
    split at h
    · rename_i hempty
      cases h
      exact .dequeueEmpty hpc hempty
    · rename_i hne
      cases h
      exact .dequeueLoadTail hpc hne
  · rename_i hpc
    cases h
    exact .dequeueRead hpc
  · rename_i hpc
    cases h
    exact .dequeueStore hpc

/-- Every step is one of the listed accesses. -/
theorem moves_of_step {s s' : Threads C T ι} {a : Action ι T} (h : s.step a = some s') :
    Moves s a s' := by
  cases a with
  | callEnqueue i data =>
    simp only [step] at h
    split at h
    · rename_i hpc
      cases h
      exact .callEnqueue hpc
    · cases h
  | stepEnqueue i => exact moves_of_stepEnqueue h
  | callDequeue =>
    simp only [step] at h
    split at h
    · rename_i hpc
      cases h
      exact .callDequeue hpc
    · cases h
  | stepDequeue => exact moves_of_stepDequeue h

@[simp] theorem setProducer_queue (s : Threads C T ι) (i : ι) (pc : EnqueuePc C T) :
    (s.setProducer i pc).queue = s.queue := rfl

@[simp] theorem setProducer_consumer (s : Threads C T ι) (i : ι) (pc : EnqueuePc C T) :
    (s.setProducer i pc).consumer = s.consumer := rfl

@[simp] theorem setProducer_enqueued (s : Threads C T ι) (i : ι) (pc : EnqueuePc C T) :
    (s.setProducer i pc).enqueued = s.enqueued := rfl

@[simp] theorem setProducer_dequeued (s : Threads C T ι) (i : ι) (pc : EnqueuePc C T) :
    (s.setProducer i pc).dequeued = s.dequeued := rfl

@[simp] theorem setProducer_self (s : Threads C T ι) (i : ι) (pc : EnqueuePc C T) :
    (s.setProducer i pc).producers i = pc := Function.update_self ..

theorem setProducer_of_ne (s : Threads C T ι) {i j : ι} (pc : EnqueuePc C T) (h : j ≠ i) :
    (s.setProducer i pc).producers j = s.producers j := Function.update_of_ne h ..

/-- A thread is at a given position after `setProducer` if it was there before, or if it is
the thread that moved. -/
theorem eq_or_of_setProducer {s : Threads C T ι} {i j : ι} {pc pc' : EnqueuePc C T}
    (h : (s.setProducer i pc).producers j = pc') :
    (j = i ∧ pc = pc') ∨ (j ≠ i ∧ s.producers j = pc') := by
  by_cases hj : j = i
  · subst hj
    exact .inl ⟨rfl, by rwa [setProducer_self] at h⟩
  · exact .inr ⟨hj, by rwa [setProducer_of_ne s pc hj] at h⟩

end Threads
end ShipMotion
