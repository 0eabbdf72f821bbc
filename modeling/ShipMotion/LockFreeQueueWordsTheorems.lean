import Mathlib.Data.List.OfFn
import ShipMotion.LockFreeQueueTheorems
import ShipMotion.LockFreeQueueWords
import ShipMotion.Utils.Mealy

/-!
# The observers of `LockFreeRingQueue`

The members in words stand for a ring queue whose indices are below the capacity by type, and the
operations keep them so. With a capacity of at most `2 ^ 63` the sum in `size()` does not
overflow a second time, so that all observers tell the elements held.
-/

namespace ShipMotion

namespace LockFreeRingQueue

variable {C : Capacity} {T : Type}

/-- `size()` is the number of elements held: the difference may have wrapped, the sum with a
capacity of at most `2 ^ 63` undoes it or stays below `2 ^ 64`. -/
theorem size_eq_length (hC : C.val ≤ 2 ^ 63) (q : LockFreeRingQueue C T) :
    q.size = q.contents.length := by
  have hhead := q.head_.isLt
  have htail := q.tail_.isLt
  rw [contents, Utils.RingWindow.length_window, size, Utils.RingWindow.dist]
  by_cases hle : q.head_.val ≤ q.tail_.val
  · have hdiff : (q.tail_.val + (2 ^ 64 - q.head_.val)) % 2 ^ 64 = q.tail_.val - q.head_.val := by
      omega
    have hsum : (q.tail_.val - q.head_.val + C.val) % 2 ^ 64
        = q.tail_.val - q.head_.val + C.val := by omega
    rw [if_pos hle, hdiff, hsum, Nat.add_mod_right, Nat.mod_eq_of_lt (by omega)]
  · have hsum : ((q.tail_.val + (2 ^ 64 - q.head_.val)) % 2 ^ 64 + C.val) % 2 ^ 64
        = C.val - (q.head_.val - q.tail_.val) := by omega
    rw [if_neg hle, hsum, Nat.mod_eq_of_lt (by omega)]

end LockFreeRingQueue

namespace WordQueue

open LockFreeRingQueue (nextIndex)

variable {C : Capacity} {T : Type} {q : LockFreeRingQueue C T} {w : WordQueue T}

/-- The words stand for the ring queue `q`. -/
structure Represents (q : LockFreeRingQueue C T) (w : WordQueue T) : Prop where
  capacity : w.capacity_.toNat = C.val
  buffer : w.buffer_ = List.ofFn q.buffer_
  head : w.head_.toNat = q.head_.val
  tail : w.tail_.toNat = q.tail_.val

theorem set_ofFn {n : ℕ} (f : Fin n → T) (i : Fin n) (data : T) :
    (List.ofFn f).set i.val data = List.ofFn (Function.update f i data) := by
  refine List.ext_getElem (by simp) fun k hk hk' => ?_
  simp only [List.getElem_set, List.getElem_ofFn, Function.update_apply, Fin.ext_iff,
    eq_comm (a := i.val)]

/-- The step of an index in words. -/
theorem next_toNat {i : UInt64} {j : Fin C.val} {capacity : UInt64}
    (hcapacity : capacity.toNat = C.val) (hi : i.toNat = j.val) :
    ((i + 1) % capacity).toNat = (nextIndex j).val := by
  rw [UInt64.toNat_mod, UInt64.toNat_add, hcapacity, hi]
  rfl

theorem eq_iff_of_toNat {i i' : UInt64} {j j' : Fin C.val} (h : i.toNat = j.val)
    (h' : i'.toNat = j'.val) : i = i' ↔ j = j' := by
  rw [← UInt64.toNat_inj, h, h', Fin.ext_iff]

/-- The full test in words. -/
theorem Represents.next_tail_iff (h : Represents q w) :
    (w.tail_ + 1) % w.capacity_ = w.head_ ↔ nextIndex q.tail_ = q.head_ :=
  eq_iff_of_toNat (next_toNat h.capacity h.tail) h.head

theorem Represents.head_iff (h : Represents q w) : w.head_ = w.tail_ ↔ q.head_ = q.tail_ :=
  eq_iff_of_toNat h.head h.tail

/-! ## The operations -/

theorem Represents.enqueue (h : Represents q w) (data : T) :
    Represents (q.enqueue data).1 (w.enqueue data).1 ∧
      (w.enqueue data).2 = (q.enqueue data).2 := by
  by_cases hfull : nextIndex q.tail_ = q.head_
  · rw [LockFreeRingQueue.enqueue_of_full data hfull, WordQueue.enqueue,
      if_pos (h.next_tail_iff.mpr hfull)]
    exact ⟨h, rfl⟩
  · rw [LockFreeRingQueue.enqueue_of_room data hfull, WordQueue.enqueue,
      if_neg (mt h.next_tail_iff.mp hfull)]
    refine ⟨⟨h.capacity, ?_, h.head, next_toNat h.capacity h.tail⟩, rfl⟩
    show w.buffer_.set w.tail_.toNat data = List.ofFn (Function.update q.buffer_ q.tail_ data)
    rw [h.buffer, h.tail, set_ofFn]

theorem Represents.dequeue (h : Represents q w) (data : T) :
    Represents (q.dequeue data).1 (w.dequeue data).1 ∧
      (w.dequeue data).2 = (q.dequeue data).2 := by
  by_cases hempty : q.head_ = q.tail_
  · rw [LockFreeRingQueue.dequeue, if_pos hempty, WordQueue.dequeue,
      if_pos (h.head_iff.mpr hempty)]
    exact ⟨h, rfl⟩
  · rw [LockFreeRingQueue.dequeue, if_neg hempty, WordQueue.dequeue,
      if_neg (mt h.head_iff.mp hempty)]
    refine ⟨⟨h.capacity, h.buffer, next_toNat h.capacity h.head, h.tail⟩, ?_⟩
    -- the index is inside the vector
    have hread : w.buffer_.getD w.head_.toNat data = q.buffer_ q.head_ := by
      rw [h.buffer, h.head, List.getD_eq_getElem?_getD, List.getElem?_ofFn, dif_pos q.head_.isLt]
      rfl
    show (w.buffer_.getD w.head_.toNat data, true) = _
    rw [hread]

theorem Represents.size (h : Represents q w) : w.size.toNat = q.size := by
  show ((w.tail_ - w.head_ + w.capacity_) % w.capacity_).toNat = _
  rw [UInt64.toNat_mod, UInt64.toNat_add, UInt64.toNat_sub, h.capacity, h.head, h.tail,
    LockFreeRingQueue.size, Nat.add_comm (2 ^ 64 - _)]

/-- The constructor makes an empty ring queue. -/
theorem represents_new {capacity : UInt64} (hcapacity : capacity.toNat = C.val) (default : T) :
    WordQueue.new capacity default
        = .ok ⟨capacity, List.replicate capacity.toNat default, 0, 0⟩ ∧
      Represents (LockFreeRingQueue.new C default)
        ⟨capacity, List.replicate capacity.toNat default, 0, 0⟩ := by
  have hne : capacity ≠ 0 := by
    rintro rfl
    exact absurd hcapacity C.pos.ne
  refine ⟨if_neg hne, ⟨hcapacity, ?_, rfl, rfl⟩⟩
  rw [hcapacity]
  exact (List.ofFn_const C.val default).symm

/-! ## Runs -/

/-- What the words stand for holds what the record says. -/
def Holds (C : Capacity) (s : WordQueue T × List T) : Prop :=
  ∃ q : LockFreeRingQueue C T, Represents q s.1 ∧ q.contents = s.2

/-- The step lemma: a call keeps the indices below the capacity, and the record true. -/
theorem Holds.recordedCall {s : WordQueue T × List T} (h : Holds C s) (c : Call T) :
    Holds C (recordedCall s c).1 := by
  obtain ⟨q, hrep, hheld⟩ := h
  cases c with
  | enqueue data =>
    obtain ⟨hnext, hanswer⟩ := hrep.enqueue data
    refine ⟨(q.enqueue data).1, hnext, ?_⟩
    show _ = heldAfter s.2 (.enqueue data) (.enqueued (s.1.enqueue data).2)
    rw [LockFreeRingQueue.contents_enqueue, hanswer, hheld]
    cases (q.enqueue data).2 with
    | true => rfl
    | false => exact List.append_nil s.2
  | dequeue data =>
    obtain ⟨hnext, hanswer⟩ := hrep.dequeue data
    refine ⟨(q.dequeue data).1, hnext, ?_⟩
    show _ = heldAfter s.2 (.dequeue data)
      (.dequeued (s.1.dequeue data).2.1 (s.1.dequeue data).2.2)
    have hcontents := LockFreeRingQueue.contents_dequeue q data
    rw [hanswer, ← hheld, hcontents]
    cases (q.dequeue data).2.2 with
    | true => rfl
    | false => rfl

/-- What the observers tell of a queue that holds `held`. -/
structure Observed (w : WordQueue T) (held : List T) : Prop where
  head_lt : w.head_.toNat < w.capacity_.toNat
  tail_lt : w.tail_.toNat < w.capacity_.toNat
  size_eq : w.size.toNat = held.length
  size_lt : w.size.toNat < w.capacity_.toNat
  empty_iff : w.empty = true ↔ held.length = 0
  full_iff : w.full = true ↔ held.length = w.capacity_.toNat - 1
  refused_iff : ∀ data, w.full = true ↔ (w.enqueue data).2 = false
  enqueue_refused : ∀ data, (w.enqueue data).2 = false → (w.enqueue data).1 = w
  dequeue_refused : ∀ data, (w.dequeue data).2.2 = false →
    (w.dequeue data).1 = w ∧ (w.dequeue data).2.1 = data
  dequeue_front : ∀ data, (w.dequeue data).2.2 = true → held.head? = some (w.dequeue data).2.1

theorem Represents.observed (h : Represents q w) (hC : C.val ≤ 2 ^ 63) :
    Observed w q.contents where
  head_lt := by rw [h.head, h.capacity]; exact q.head_.isLt
  tail_lt := by rw [h.tail, h.capacity]; exact q.tail_.isLt
  size_eq := by rw [h.size, LockFreeRingQueue.size_eq_length hC]
  size_lt := by rw [h.size, h.capacity]; exact LockFreeRingQueue.size_lt q
  empty_iff := by
    rw [WordQueue.empty, decide_eq_true_eq, h.head_iff, List.length_eq_zero_iff,
      LockFreeRingQueue.contents_eq_nil_iff]
  full_iff := by
    rw [WordQueue.full, decide_eq_true_eq, h.next_tail_iff, h.capacity,
      LockFreeRingQueue.nextIndex_tail_eq_head_iff]
  refused_iff := by
    intro data
    rw [WordQueue.full, decide_eq_true_eq, WordQueue.enqueue]
    split
    · rename_i hfull
      exact iff_of_true hfull rfl
    · rename_i hroom
      exact iff_of_false hroom Bool.noConfusion
  enqueue_refused := by
    intro data
    rw [WordQueue.enqueue]
    split
    · exact fun _ => rfl
    · exact Bool.noConfusion
  dequeue_refused := by
    intro data
    rw [WordQueue.dequeue]
    split
    · exact fun _ => ⟨rfl, rfl⟩
    · exact Bool.noConfusion
  dequeue_front := by
    intro data hok
    have hanswer := (h.dequeue data).2
    have hcontents := LockFreeRingQueue.contents_dequeue q data
    rw [hanswer] at hok ⊢
    rw [hcontents, if_pos hok]
    rfl

/-- **The observers.** For every capacity from `1` to `2 ^ 63`, after every sequence of calls from
the constructor, the indices are below the capacity, `size`, `empty` and `full` tell the number
of elements held, and a refused call changes nothing. -/
theorem observers_exact {capacity : UInt64} (hpos : 1 ≤ capacity.toNat)
    (hle : capacity.toNat ≤ 2 ^ 63) (default : T) (calls : List (Call T)) :
    ∃ w, WordQueue.new capacity default = .ok w ∧
      Observed (Utils.Mealy.finalState recordedCall (w, []) calls).1
        (Utils.Mealy.finalState recordedCall (w, []) calls).2 := by
  let C : Capacity := ⟨capacity.toNat, hpos, capacity.toNat_lt⟩
  obtain ⟨hnew, hrep⟩ := represents_new (C := C) rfl default
  refine ⟨_, hnew, ?_⟩
  have hempty : Holds C (⟨capacity, List.replicate capacity.toNat default, 0, 0⟩, []) :=
    ⟨_, hrep, LockFreeRingQueue.contents_new default⟩
  obtain ⟨q, hq, hheld⟩ := Utils.Mealy.finalState_induction (J := Holds C)
    (fun s c h => Holds.recordedCall h c) hempty calls
  rw [← hheld]
  exact hq.observed hle

theorem observers_exact_three : ∃ w, WordQueue.new 3 (0 : ℕ) = .ok w ∧
    Observed (Utils.Mealy.finalState recordedCall (w, [])
        [.enqueue 7, .enqueue 8, .enqueue 9, .dequeue 0, .enqueue 9]).1
      (Utils.Mealy.finalState recordedCall (w, [])
        [.enqueue 7, .enqueue 8, .enqueue 9, .dequeue 0, .enqueue 9]).2 :=
  observers_exact (by decide) (by decide) 0 _

end WordQueue
end ShipMotion
