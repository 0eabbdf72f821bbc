import ShipMotion.LockFreeQueueTheorems
import ShipMotion.SystemStateManager
import ShipMotion.Utils.TransitionSystem

/-!
# The outputter's drop-oldest policy

`ConcreteDataOutputter::enqueueWithDropOld` makes room by dropping the oldest values while
the queue's size is at least `max_size`, reports how many it dropped, and enqueues. All its
queues are built with capacity `max_size`, and such a ring never holds more than
`max_size - 1` values: the loop never runs, and on a full ring the offered item is refused.
-/

namespace ShipMotion
namespace DataOutputter

open LockFreeRingQueue

variable {C : Capacity} {T : Type} [Inhabited T]

/-- `while (queue.size() >= max_size) { queue.dequeue(trash); drop_cnt++; }`, with the number
of loop tests bounded by the fuel. -/
def dropLoop (max_size : ℕ) : ℕ → LockFreeRingQueue C T → ℕ → Option (LockFreeRingQueue C T × ℕ)
  | 0, _, _ => none
  | fuel + 1, queue, drop_cnt =>
    if max_size ≤ queue.size then
      dropLoop max_size fuel (queue.dequeue default).1 ((drop_cnt + 1) % 2 ^ 64)
    else some (queue, drop_cnt)

/-- The overflow notices; nothing is said when nothing was dropped. -/
def dropNotices (drop_cnt : ℕ) (queue_name : String) (is_low_prio : Bool) : List Notice :=
  let log := "队列[" ++ queue_name ++ "]溢出，丢弃老旧数据条数:" ++ toString drop_cnt
  if drop_cnt > 0 then
    if is_low_prio then [.log .warn "DATA_OUTPUT" (log ++ "（低优先级告警包）")]
    else [.log .error "DATA_OUTPUT" (log ++ "，存在内存溢出风险！"),
      .reportError ⟨.outputter, .statusWarning, log⟩]
  else []

/-- What a call leaves behind: the queue, its answer, its `drop_cnt` and its notices. -/
structure DropOldResult (C : Capacity) (T : Type) where
  queue : LockFreeRingQueue C T
  ok : Bool
  drop_cnt : ℕ
  notices : List Notice

/-- `enqueueWithDropOld(queue, item, max_size, queue_name, is_low_prio)` -/
def enqueueWithDropOld (fuel : ℕ) (queue : LockFreeRingQueue C T) (item : T) (max_size : ℕ)
    (queue_name : String) (is_low_prio : Bool) : Option (DropOldResult C T) :=
  (dropLoop max_size fuel queue 0).map fun (queue, drop_cnt) =>
    { queue := (queue.enqueue item).1
      ok := (queue.enqueue item).2
      drop_cnt
      notices := dropNotices drop_cnt queue_name is_low_prio ++ [.notifyOne] }

/-- The calls made on one outputter queue: offers, and `dequeue` by the consumer. -/
inductive QueueCall (T : Type) where
  | enqueueWithDropOld (fuel : ℕ) (item : T)
  | dequeue

/-- All call sequences on a ring built with the capacity that the calls pass as `max_size`. -/
def outputterQueue (C : Capacity) (T : Type) [Inhabited T] (queue_name : String)
    (is_low_prio : Bool) : Utils.LTS (LockFreeRingQueue C T) (QueueCall T) where
  init queue := queue = new C default
  step queue
    | .enqueueWithDropOld fuel item =>
      (enqueueWithDropOld fuel queue item C.val queue_name is_low_prio).map (·.queue)
    | .dequeue => some (queue.dequeue default).1

/-! ## The policy -/

/-- What drop-oldest promises of a call on `queue`: it comes back true, the item is newest,
what is left of the old contents is a suffix, `drop_cnt` counts exactly what is gone, and the
count is reported. -/
structure KeepsNewest (queue : LockFreeRingQueue C T) (item : T) (queue_name : String)
    (is_low_prio : Bool) (r : DropOldResult C T) : Prop where
  ok : r.ok = true
  contents : r.queue.contents = queue.contents.drop r.drop_cnt ++ [item]
  counted : r.drop_cnt ≤ queue.contents.length
  reported : dropNotices r.drop_cnt queue_name is_low_prio <+: r.notices

/-- A call that terminates and keeps the promise. -/
def MeetsDropOld (queue : LockFreeRingQueue C T) (item : T) (queue_name : String)
    (is_low_prio : Bool) : Prop :=
  ∃ fuel r, enqueueWithDropOld fuel queue item C.val queue_name is_low_prio = some r ∧
    KeepsNewest queue item queue_name is_low_prio r

/-- With `max_size` the ring's own capacity, the first loop test already fails. -/
theorem dropLoop_capacity (fuel : ℕ) (queue : LockFreeRingQueue C T) (drop_cnt : ℕ) :
    dropLoop C.val (fuel + 1) queue drop_cnt = some (queue, drop_cnt) := by
  rw [dropLoop, if_neg (Nat.not_le_of_lt queue.size_lt)]

/-- The call is then a plain `enqueue`. -/
def plainEnqueue (queue : LockFreeRingQueue C T) (item : T) : DropOldResult C T :=
  { queue := (queue.enqueue item).1
    ok := (queue.enqueue item).2
    drop_cnt := 0
    notices := [.notifyOne] }

theorem enqueueWithDropOld_capacity (fuel : ℕ) (queue : LockFreeRingQueue C T) (item : T)
    (queue_name : String) (is_low_prio : Bool) :
    enqueueWithDropOld (fuel + 1) queue item C.val queue_name is_low_prio =
      some (plainEnqueue queue item) := by
  rw [enqueueWithDropOld, dropLoop_capacity]
  rfl

theorem eq_plainEnqueue {fuel : ℕ} {queue : LockFreeRingQueue C T} {item : T}
    {queue_name : String} {is_low_prio : Bool} {r : DropOldResult C T}
    (h : enqueueWithDropOld fuel queue item C.val queue_name is_low_prio = some r) :
    r = plainEnqueue queue item := by
  cases fuel with
  | zero => cases h
  | succ fuel =>
    rw [enqueueWithDropOld_capacity, Option.some.injEq] at h
    exact h.symm

omit [Inhabited T] in
theorem keepsNewest_plainEnqueue_iff {queue : LockFreeRingQueue C T} {item : T}
    {queue_name : String} {is_low_prio : Bool} :
    KeepsNewest queue item queue_name is_low_prio (plainEnqueue queue item) ↔
      queue.contents.length < C.val - 1 := by
  have href := enqueue_refines queue item
  constructor
  · intro h
    rw [← Utils.BoundedFifo.push_snd_iff (x := item), ← href]
    exact h.ok
  · intro hroom
    rw [Utils.BoundedFifo.push_of_lt item hroom, Prod.mk.injEq] at href
    exact ⟨href.2, href.1, Nat.zero_le _, List.nil_prefix⟩

/-- A call terminates and keeps its promise exactly when the ring is not full. -/
theorem meetsDropOld_iff_room {queue : LockFreeRingQueue C T} {item : T} {queue_name : String}
    {is_low_prio : Bool} :
    MeetsDropOld queue item queue_name is_low_prio ↔ queue.contents.length < C.val - 1 := by
  constructor
  · rintro ⟨fuel, r, hcall, hkeeps⟩
    rw [eq_plainEnqueue hcall] at hkeeps
    exact keepsNewest_plainEnqueue_iff.mp hkeeps
  · intro hroom
    refine ⟨1, _, enqueueWithDropOld_capacity 0 queue item queue_name is_low_prio, ?_⟩
    exact keepsNewest_plainEnqueue_iff.mpr hroom

/-- On a full ring the offered item is refused, and no notice says so. -/
theorem enqueueWithDropOld_full (fuel : ℕ) {queue : LockFreeRingQueue C T} (item : T)
    (queue_name : String) (is_low_prio : Bool) (hfull : queue.contents.length = C.val - 1) :
    enqueueWithDropOld (fuel + 1) queue item C.val queue_name is_low_prio =
      some { queue, ok := false, drop_cnt := 0, notices := [.notifyOne] } := by
  rw [enqueueWithDropOld_capacity, plainEnqueue,
    enqueue_of_full item (nextIndex_tail_eq_head_iff.mpr hfull)]

/-- `P` holds of the queue and the item of every offer. -/
def EveryOffer (P : LockFreeRingQueue C T → T → Prop) (queue : LockFreeRingQueue C T) :
    QueueCall T → Prop
  | .enqueueWithDropOld _ item => P queue item
  | .dequeue => True

/-- **When drop-oldest holds.** Along every call sequence from the constructor on, every
offer terminates and keeps its promise if and only if none of them finds the ring full, that
is, holding `capacity - 1` values. -/
theorem dropOld_runs_iff (queue_name : String) (is_low_prio : Bool) (calls : List (QueueCall T)) :
    (outputterQueue C T queue_name is_low_prio).Meets
        (EveryOffer fun queue item => MeetsDropOld queue item queue_name is_low_prio)
        (new C default) calls ↔
      (outputterQueue C T queue_name is_low_prio).Meets
        (EveryOffer fun queue _ => queue.contents.length < C.val - 1)
        (new C default) calls := by
  refine Utils.LTS.meets_congr fun queue call => ?_
  cases call with
  | enqueueWithDropOld fuel item => exact meetsDropOld_iff_room
  | dequeue => exact Iff.rfl

/-- Two offers to a ring of capacity two: the first fills it, the second is lost. -/
theorem dropOld_loses_item :
    ¬ ∀ (C : Capacity) (T : Type) [Inhabited T] (queue_name : String) (is_low_prio : Bool)
      (calls : List (QueueCall T)), 2 ≤ C.val →
      (outputterQueue C T queue_name is_low_prio).Meets
        (EveryOffer fun queue item => MeetsDropOld queue item queue_name is_low_prio)
        (new C default) calls := by
  intro h
  have hrun := h ⟨2, by decide, by decide⟩ ℕ "DB任务队列" false
    [.enqueueWithDropOld 1 7, .enqueueWithDropOld 1 8] le_rfl
  have hsecond := (hrun.2 _ rfl).1
  have hroom := meetsDropOld_iff_room.mp hsecond
  exact absurd hroom (by decide)

end DataOutputter
end ShipMotion
