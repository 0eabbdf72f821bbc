import Mathlib.Data.List.Basic

/-!
# `LockFreeRingQueue` in machine words

The same class as in `LockFreeQueue`, with the members as the code has them: a vector, and words
of 64 bits that nothing keeps below the capacity but the operations. All arithmetic wraps.
-/

namespace ShipMotion

/-- The members of `LockFreeRingQueue<T>`. -/
structure WordQueue (T : Type) where
  capacity_ : UInt64
  buffer_ : List T
  head_ : UInt64
  tail_ : UInt64

namespace WordQueue

variable {T : Type}

/-- The constructor; the vector's elements are value-initialised. -/
def new (capacity : UInt64) (default : T) : Except String (WordQueue T) :=
  if capacity = 0 then .error "Queue capacity must be greater than 0"
  else .ok ⟨capacity, List.replicate capacity.toNat default, 0, 0⟩

/-- `enqueue(data)` -/
def enqueue (q : WordQueue T) (data : T) : WordQueue T × Bool :=
  let current_tail := q.tail_
  let next_tail := (current_tail + 1) % q.capacity_
  if next_tail = q.head_ then (q, false)
  else
    ({ q with buffer_ := q.buffer_.set current_tail.toNat data, tail_ := next_tail }, true)

/-- `dequeue(data)`: the queue, the caller's variable afterwards, and the answer. -/
def dequeue (q : WordQueue T) (data : T) : WordQueue T × T × Bool :=
  let current_head := q.head_
  if current_head = q.tail_ then (q, data, false)
  else
    ({ q with head_ := (current_head + 1) % q.capacity_ },
      q.buffer_.getD current_head.toNat data, true)

/-- `size()` -/
def size (q : WordQueue T) : UInt64 :=
  let current_head := q.head_
  let current_tail := q.tail_
  (current_tail - current_head + q.capacity_) % q.capacity_

/-- `empty()` -/
def empty (q : WordQueue T) : Bool := q.head_ = q.tail_

/-- `full()` -/
def full (q : WordQueue T) : Bool :=
  let next_tail := (q.tail_ + 1) % q.capacity_
  next_tail = q.head_

/-! ## Calls -/

inductive Call (T : Type) where
  | enqueue (data : T)
  | dequeue (data : T)

inductive Answer (T : Type) where
  | enqueued (ok : Bool)
  | dequeued (data : T) (ok : Bool)

/-- One call. -/
def call (q : WordQueue T) : Call T → WordQueue T × Answer T
  | .enqueue data =>
    let (q, ok) := q.enqueue data
    (q, .enqueued ok)
  | .dequeue data =>
    let (q, data, ok) := q.dequeue data
    (q, .dequeued data ok)

/-- The elements held after a call, by what it answered: one more at the end, or one less at the
front. -/
def heldAfter (held : List T) : Call T → Answer T → List T
  | .enqueue data, .enqueued true => held ++ [data]
  | .dequeue _, .dequeued _ true => held.tail
  | _, _ => held

/-- One call, with a record of the elements held. -/
def recordedCall (s : WordQueue T × List T) (c : Call T) : (WordQueue T × List T) × Answer T :=
  let (q, answer) := s.1.call c
  ((q, heldAfter s.2 c answer), answer)

end WordQueue
end ShipMotion
