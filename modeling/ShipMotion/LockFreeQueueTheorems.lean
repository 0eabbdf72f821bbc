import ShipMotion.LockFreeQueue
import ShipMotion.Utils.BoundedFifo

/-!
# `LockFreeRingQueue` refines a bounded FIFO

Called one after another, `enqueue` and `dequeue` act on the contents as `push` and `pop` of
a FIFO bounded by `capacity_ - 1`.
-/

namespace ShipMotion
namespace LockFreeRingQueue

variable {C : Capacity} {T : Type}

open Utils (BoundedFifo.push BoundedFifo.pop)

theorem length_contents_lt_iff {q : LockFreeRingQueue C T} :
    q.contents.length < C.val - 1 ↔ nextIndex q.tail_ ≠ q.head_ := by
  have hlt := length_contents_lt q
  rw [Ne, nextIndex_tail_eq_head_iff]
  omega

theorem enqueue_of_room {q : LockFreeRingQueue C T} (data : T)
    (h : nextIndex q.tail_ ≠ q.head_) :
    q.enqueue data = ((q.writeBuffer q.tail_ data).storeTail (nextIndex q.tail_), true) :=
  if_neg h

theorem enqueue_of_full {q : LockFreeRingQueue C T} (data : T)
    (h : nextIndex q.tail_ = q.head_) : q.enqueue data = (q, false) :=
  if_pos h

/-- `enqueue` is the `push` of a FIFO that holds at most `capacity_ - 1` values. -/
theorem enqueue_refines (q : LockFreeRingQueue C T) (data : T) :
    ((q.enqueue data).1.contents, (q.enqueue data).2)
      = BoundedFifo.push (C.val - 1) q.contents data := by
  by_cases hfull : nextIndex q.tail_ = q.head_
  · have hlen : ¬ q.contents.length < C.val - 1 := fun h => length_contents_lt_iff.mp h hfull
    rw [enqueue_of_full data hfull, Utils.BoundedFifo.push_of_not_lt data hlen]
  · have hlen : q.contents.length < C.val - 1 := length_contents_lt_iff.mpr hfull
    rw [enqueue_of_room data hfull, Utils.BoundedFifo.push_of_lt data hlen]
    -- the written slot is the one `tail_` moves over
    have hpub := contents_storeTail_next (q := q.writeBuffer q.tail_ data) hfull
    rw [contents_writeBuffer_tail, writeBuffer_tail_, writeBuffer_buffer_self] at hpub
    rw [hpub]

/-- `dequeue` is `pop`; the caller's variable changes only when there was a value. -/
theorem dequeue_refines (q : LockFreeRingQueue C T) (data : T) :
    (q.dequeue data).1.contents = (BoundedFifo.pop q.contents).1 ∧
    (q.dequeue data).2.1 = (BoundedFifo.pop q.contents).2.getD data ∧
    (q.dequeue data).2.2 = (BoundedFifo.pop q.contents).2.isSome := by
  unfold dequeue
  by_cases hempty : q.head_ = q.tail_
  · -- nothing held: `pop` refuses as well
    have hnil : q.contents = [] := contents_eq_nil_iff.mpr hempty
    simp only [if_pos hempty, hnil, BoundedFifo.pop]
    exact ⟨trivial, rfl, rfl⟩
  · rw [contents_eq_cons hempty]
    simp only [if_neg hempty, BoundedFifo.pop]
    exact ⟨trivial, rfl, rfl⟩

/-- The contents after an `enqueue`, by its answer. -/
theorem contents_enqueue (q : LockFreeRingQueue C T) (data : T) :
    (q.enqueue data).1.contents
      = q.contents ++ if (q.enqueue data).2 then [data] else [] := by
  have h := enqueue_refines q data
  by_cases hroom : q.contents.length < C.val - 1
  · rw [Utils.BoundedFifo.push_of_lt data hroom, Prod.mk.injEq] at h
    rw [h.1, h.2, if_pos rfl]
  · rw [Utils.BoundedFifo.push_of_not_lt data hroom, Prod.mk.injEq] at h
    rw [h.1, h.2, if_neg Bool.false_ne_true, List.append_nil]

/-- The contents before a `dequeue`, by its answer. -/
theorem contents_dequeue (q : LockFreeRingQueue C T) (data : T) :
    q.contents
      = (if (q.dequeue data).2.2 then [(q.dequeue data).2.1] else [])
        ++ (q.dequeue data).1.contents := by
  obtain ⟨hcontents, hdata, hok⟩ := dequeue_refines q data
  rw [hcontents, hdata, hok]
  cases q.contents with
  | nil => rfl
  | cons x rest => rfl

/-- `size()` is a remainder modulo `capacity_`. -/
theorem size_lt (q : LockFreeRingQueue C T) : q.size < C.val := Nat.mod_lt _ C.pos

end LockFreeRingQueue
end ShipMotion
