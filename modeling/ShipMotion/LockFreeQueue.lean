import Mathlib.Algebra.Group.Nat.Defs
import ShipMotion.Utils.RingWindow

/-!
# `LockFreeRingQueue`

The ring buffer between every two stages of the pipeline: `capacity_` slots, `head_` the
next slot to read, `tail_` the next slot to write, all index arithmetic in `size_t`. One
slot always stays free, so that `head_ == tail_` means empty and nothing else.

The operations here run one after another; `LockFreeQueueThreads` runs their loads, buffer
accesses and stores one at a time.
-/

namespace ShipMotion

/-- The capacities the constructor accepts: a `size_t` other than `0`. -/
structure Capacity where
  val : ℕ
  pos : 0 < val
  lt_word : val < 2 ^ 64

/-- The constructor's check of its `size_t` argument. -/
def Capacity.ofSize (capacity : ℕ) (h : capacity < 2 ^ 64) : Except String Capacity :=
  if h0 : capacity = 0 then .error "Queue capacity must be greater than 0"
  else .ok ⟨capacity, Nat.pos_of_ne_zero h0, h⟩

/-- The queue's fields. The indices never leave the buffer, by type. -/
structure LockFreeRingQueue (C : Capacity) (T : Type) where
  buffer_ : Fin C.val → T
  head_ : Fin C.val
  tail_ : Fin C.val

namespace LockFreeRingQueue

variable {C : Capacity} {T : Type}

/-- `buffer_(capacity)` value-initialises every slot; both indices start at `0`. -/
def new (C : Capacity) (default : T) : LockFreeRingQueue C T :=
  { buffer_ := fun _ => default, head_ := ⟨0, C.pos⟩, tail_ := ⟨0, C.pos⟩ }

/-- `(i + 1) % capacity_`, the sum taken in `size_t`. -/
def nextIndex (i : Fin C.val) : Fin C.val := ⟨(i.val + 1) % 2 ^ 64 % C.val, Nat.mod_lt _ C.pos⟩

/-- `buffer_[i] = data` -/
def writeBuffer (q : LockFreeRingQueue C T) (i : Fin C.val) (data : T) : LockFreeRingQueue C T :=
  { q with buffer_ := Function.update q.buffer_ i data }

/-- `tail_.store(i)` -/
def storeTail (q : LockFreeRingQueue C T) (i : Fin C.val) : LockFreeRingQueue C T :=
  { q with tail_ := i }

/-- `head_.store(i)` -/
def storeHead (q : LockFreeRingQueue C T) (i : Fin C.val) : LockFreeRingQueue C T :=
  { q with head_ := i }

/-- `enqueue(data)` -/
def enqueue (q : LockFreeRingQueue C T) (data : T) : LockFreeRingQueue C T × Bool :=
  let current_tail := q.tail_
  let next_tail := nextIndex current_tail
  if next_tail = q.head_ then (q, false)
  else ((q.writeBuffer current_tail data).storeTail next_tail, true)

/-- `dequeue(data)`: the queue, the caller's variable afterwards, and the answer. -/
def dequeue (q : LockFreeRingQueue C T) (data : T) : LockFreeRingQueue C T × T × Bool :=
  let current_head := q.head_
  if current_head = q.tail_ then (q, data, false)
  else (q.storeHead (nextIndex current_head), q.buffer_ current_head, true)

/-- `(current_tail - current_head + capacity_) % capacity_`, in `size_t` throughout. -/
def size (q : LockFreeRingQueue C T) : ℕ :=
  ((q.tail_.val + (2 ^ 64 - q.head_.val)) % 2 ^ 64 + C.val) % 2 ^ 64 % C.val

/-- `empty()` -/
def empty (q : LockFreeRingQueue C T) : Bool := q.head_ = q.tail_

/-- `full()` -/
def full (q : LockFreeRingQueue C T) : Bool := nextIndex q.tail_ = q.head_

/-- The values held, oldest first: the slots from `head_` to `tail_`. -/
def contents (q : LockFreeRingQueue C T) : List T :=
  Utils.RingWindow.window q.buffer_ q.head_ q.tail_

/-! ## What the accesses change -/

@[simp] theorem writeBuffer_head_ (q : LockFreeRingQueue C T) (i : Fin C.val) (data : T) :
    (q.writeBuffer i data).head_ = q.head_ := rfl

@[simp] theorem writeBuffer_tail_ (q : LockFreeRingQueue C T) (i : Fin C.val) (data : T) :
    (q.writeBuffer i data).tail_ = q.tail_ := rfl

@[simp] theorem storeTail_head_ (q : LockFreeRingQueue C T) (i : Fin C.val) :
    (q.storeTail i).head_ = q.head_ := rfl

@[simp] theorem storeTail_tail_ (q : LockFreeRingQueue C T) (i : Fin C.val) :
    (q.storeTail i).tail_ = i := rfl

@[simp] theorem storeTail_buffer_ (q : LockFreeRingQueue C T) (i : Fin C.val) :
    (q.storeTail i).buffer_ = q.buffer_ := rfl

@[simp] theorem storeHead_head_ (q : LockFreeRingQueue C T) (i : Fin C.val) :
    (q.storeHead i).head_ = i := rfl

@[simp] theorem storeHead_tail_ (q : LockFreeRingQueue C T) (i : Fin C.val) :
    (q.storeHead i).tail_ = q.tail_ := rfl

@[simp] theorem storeHead_buffer_ (q : LockFreeRingQueue C T) (i : Fin C.val) :
    (q.storeHead i).buffer_ = q.buffer_ := rfl

@[simp] theorem writeBuffer_buffer_self (q : LockFreeRingQueue C T) (i : Fin C.val) (data : T) :
    (q.writeBuffer i data).buffer_ i = data := Function.update_self ..

theorem writeBuffer_buffer_of_ne (q : LockFreeRingQueue C T) {i j : Fin C.val} (data : T)
    (h : j ≠ i) : (q.writeBuffer i data).buffer_ j = q.buffer_ j := Function.update_of_ne h ..

/-- The `size_t` sum in `nextIndex` never wraps: indices stay below a `size_t` capacity. -/
theorem nextIndex_eq_next (i : Fin C.val) : nextIndex i = Utils.RingWindow.next i := by
  have hi : i.val + 1 < 2 ^ 64 := by
    have := i.isLt
    have := C.lt_word
    omega
  apply Fin.ext
  simp only [nextIndex, Utils.RingWindow.next, Nat.mod_eq_of_lt hi]

theorem nextIndex_injective : Function.Injective (nextIndex : Fin C.val → Fin C.val) := by
  intro i j h
  rw [nextIndex_eq_next, nextIndex_eq_next] at h
  exact Utils.RingWindow.next_injective h

/-! ## What the accesses do to the contents -/

theorem contents_eq_nil_iff {q : LockFreeRingQueue C T} : q.contents = [] ↔ q.head_ = q.tail_ :=
  Utils.RingWindow.window_eq_nil_iff

theorem length_contents_lt (q : LockFreeRingQueue C T) : q.contents.length < C.val := by
  rw [contents, Utils.RingWindow.length_window]
  exact Utils.RingWindow.dist_lt _ _

/-- The full test: `next_tail` meets `head_` exactly when `capacity_ - 1` values are held. -/
theorem nextIndex_tail_eq_head_iff {q : LockFreeRingQueue C T} :
    nextIndex q.tail_ = q.head_ ↔ q.contents.length = C.val - 1 := by
  rw [nextIndex_eq_next, contents, Utils.RingWindow.length_window,
    Utils.RingWindow.next_eq_iff_dist]

/-- Writing the slot at `tail_` is invisible until `tail_` moves. -/
@[simp] theorem contents_writeBuffer_tail (q : LockFreeRingQueue C T) (data : T) :
    (q.writeBuffer q.tail_ data).contents = q.contents :=
  Utils.RingWindow.window_update _ _ _ _

/-- Moving `tail_` over a free slot publishes that slot's value. -/
theorem contents_storeTail_next {q : LockFreeRingQueue C T} (h : nextIndex q.tail_ ≠ q.head_) :
    (q.storeTail (nextIndex q.tail_)).contents = q.contents ++ [q.buffer_ q.tail_] := by
  rw [nextIndex_eq_next] at *
  exact Utils.RingWindow.window_snoc q.buffer_ h

/-- The oldest value is in the slot at `head_`, and moving `head_` drops exactly it. -/
theorem contents_eq_cons {q : LockFreeRingQueue C T} (h : q.head_ ≠ q.tail_) :
    q.contents = q.buffer_ q.head_ :: (q.storeHead (nextIndex q.head_)).contents := by
  rw [nextIndex_eq_next]
  exact Utils.RingWindow.window_cons q.buffer_ h

@[simp] theorem contents_new (default : T) : (new C default).contents = [] :=
  contents_eq_nil_iff.mpr rfl

end LockFreeRingQueue
end ShipMotion
