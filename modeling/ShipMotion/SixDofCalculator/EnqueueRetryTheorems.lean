import Mathlib.Tactic.Common
import ShipMotion.SixDofCalculator.WorkerPool

/-!
# The retries of a worker task

A task of `calcLoop` puts its result into `rq_sixdof_` and tries again while the queue is full.
The loop gives up when `retry` has reached the bound, and `retry` is also what the test for the
log looks at after the loop. It reaches the bound when the last attempt is made, whatever that
attempt answers.

What the consumer does between the attempts is an arbitrary sequence of answers of `enqueue`;
attempt `k` is made with `retry = k`. The sleeps between the attempts are left out.
-/

namespace ShipMotion
namespace SixDofCalculator
namespace EnqueueRetry

open WorkerPool (MAX_RETRY_QUEUE Pool)

/-! ## The task -/

/-- What is logged when a result was not enqueued within `max_retry` retries. -/
def enqueueFailed (max_retry : ℕ) : Notice :=
  .log .error "SIX_DOF_CALCULATOR"
    ("六自由度结果入队失败，可能导致监测数据丢失" ++ toString max_retry ++ "次")

/-- The loop `while (!enqueue(res) && retry < max_retry)` from a value of `retry` on: the answers
it got, and `retry` after it. -/
def enqueueLoop (max_retry : ℕ) (answers : ℕ → Bool) (retry : ℕ) : List Bool × ℕ :=
  if !answers retry && decide (retry < max_retry) then
    let (rest, retry') := enqueueLoop max_retry answers (retry + 1)
    (answers retry :: rest, retry')
  else
    ([answers retry], retry)
termination_by max_retry - retry
decreasing_by
  simp_all only [Bool.and_eq_true, decide_eq_true_eq]
  omega

/-- The part of the task that follows `calculateSixDof`: the answers of `enqueue` that it got,
and what it logged. -/
def enqueueResult (max_retry : ℕ) (answers : ℕ → Bool) : List Bool × List Notice :=
  let (asked, retry) := enqueueLoop max_retry answers 0
  (asked, if retry ≥ max_retry then [enqueueFailed max_retry] else [])

/-! ## The loop -/

variable {max_retry : ℕ} {answers : ℕ → Bool}

theorem enqueueLoop_of_refused {retry : ℕ} (hfull : answers retry = false)
    (hlt : retry < max_retry) :
    enqueueLoop max_retry answers retry
      = (false :: (enqueueLoop max_retry answers (retry + 1)).1,
          (enqueueLoop max_retry answers (retry + 1)).2) := by
  rw [enqueueLoop, hfull, decide_eq_true hlt]
  rfl

theorem enqueueLoop_of_accepted {retry : ℕ} (hput : answers retry = true) :
    enqueueLoop max_retry answers retry = ([true], retry) := by
  rw [enqueueLoop, hput]
  rfl

theorem enqueueLoop_last : enqueueLoop max_retry answers max_retry
    = ([answers max_retry], max_retry) := by
  rw [enqueueLoop, decide_eq_false (lt_irrefl max_retry), Bool.and_false]
  rfl

/-- Where the loop ends, `n` turns on: all earlier attempts were refused, and the last one was
accepted or had the bound. -/
theorem enqueueLoop_ends (answers : ℕ → Bool) {n retry : ℕ} (hbound : retry + n = max_retry) :
    ∃ k, retry ≤ k ∧ k ≤ max_retry ∧ (∀ j, retry ≤ j → j < k → answers j = false) ∧
      (answers k = true ∨ k = max_retry) ∧
      enqueueLoop max_retry answers retry
        = (List.replicate (k - retry) false ++ [answers k], k) := by
  induction n generalizing retry with
  | zero =>
    obtain rfl : retry = max_retry := hbound
    refine ⟨retry, le_rfl, le_rfl, fun j hle hlt => absurd hlt (by omega), .inr rfl, ?_⟩
    rw [enqueueLoop_last, Nat.sub_self]
    rfl
  | succ n ih =>
    cases hanswer : answers retry with
    | true =>
      refine ⟨retry, le_rfl, by omega, fun j hle hlt => absurd hlt (by omega), .inl hanswer, ?_⟩
      rw [enqueueLoop_of_accepted hanswer, Nat.sub_self, hanswer]
      rfl
    | false =>
      obtain ⟨k, hle, hk, hrefused, hend, hloop⟩ := ih (by omega : retry + 1 + n = max_retry)
      refine ⟨k, by omega, hk, fun j hj hlt => ?_, hend, ?_⟩
      · by_cases heq : j = retry
        · rw [heq, hanswer]
        · exact hrefused j (by omega) hlt
      · have hlength : k - retry = k - (retry + 1) + 1 := by omega
        rw [enqueueLoop_of_refused hanswer (by omega), hloop, hlength, List.replicate_succ]
        rfl

/-- A step of a worker at its attempt is a turn of this loop with the answer of the queue. -/
theorem tryEnqueue_turn {K : Type} [Field K] {C : Capacity} {W : ℕ} (s : Pool K C W) (i : Fin W)
    (seq : ℕ) (res : SixDofResult K) (retry : ℕ)
    (hanswer : answers retry = (s.rq_sixdof_.enqueue res).2) :
    s.tryEnqueue i seq res retry
      = if !answers retry && decide (retry < MAX_RETRY_QUEUE) then
          (s.offer seq res).setWorker i (.enqueue seq res (retry + 1))
        else
          (s.offer seq res).finishTask i seq
            (if retry ≥ MAX_RETRY_QUEUE then [enqueueFailed MAX_RETRY_QUEUE] else []) := by
  rw [hanswer]
  rfl

/-! ## The report -/

/-- The task makes at most `max_retry + 1` attempts, one of them at most puts the result into the
queue, and the failure is logged exactly when none did. -/
structure ReportMatches (max_retry : ℕ) (answers : ℕ → Bool) : Prop where
  attempts_le : (enqueueResult max_retry answers).1.length ≤ max_retry + 1
  put_le_one : (enqueueResult max_retry answers).1.count true ≤ 1
  logged_iff : enqueueFailed max_retry ∈ (enqueueResult max_retry answers).2 ↔
    (enqueueResult max_retry answers).1.count true = 0

theorem count_true_attempts (n : ℕ) (last : Bool) :
    (List.replicate n false ++ [last]).count true = if last then 1 else 0 := by
  rw [List.count_append, List.count_replicate, List.count_singleton, if_neg (by decide), zero_add]
  cases last with
  | true => rfl
  | false => rfl

theorem enqueueFailed_mem_iff {retry : ℕ} :
    enqueueFailed max_retry ∈ (if retry ≥ max_retry then [enqueueFailed max_retry] else []) ↔
      max_retry ≤ retry := by
  by_cases hle : max_retry ≤ retry
  · rw [if_pos hle]
    exact iff_of_true (List.mem_singleton_self _) hle
  · rw [if_neg hle]
    exact iff_of_false List.not_mem_nil hle

/-- **The report of a failure.** For every bound and every sequence of answers, the report is
right unless the queue is full for all attempts but the last permitted one and takes the result
then: that result is put, and its loss is logged. -/
theorem reportMatches_iff (max_retry : ℕ) (answers : ℕ → Bool) :
    ReportMatches max_retry answers ↔
      ¬((∀ k < max_retry, answers k = false) ∧ answers max_retry = true) := by
  obtain ⟨k, -, hk, hrefused, hend, hloop⟩ :=
    enqueueLoop_ends answers (Nat.zero_add max_retry)
  have hresult : enqueueResult max_retry answers
      = (List.replicate k false ++ [answers k],
          if k ≥ max_retry then [enqueueFailed max_retry] else []) := by
    rw [enqueueResult, hloop]
    rfl
  have hcount : (enqueueResult max_retry answers).1.count true = if answers k then 1 else 0 := by
    rw [hresult, count_true_attempts]
  have hlogged : enqueueFailed max_retry ∈ (enqueueResult max_retry answers).2 ↔
      max_retry ≤ k := by
    rw [hresult, enqueueFailed_mem_iff]
  constructor
  · rintro h ⟨hfull, hput⟩
    -- all attempts but the last were refused, so the loop ended at the bound
    have hlast : k = max_retry := by
      by_contra hne
      have hlt : k < max_retry := by omega
      have haccepted := hend.resolve_right hne
      rw [hfull k hlt] at haccepted
      exact Bool.noConfusion haccepted
    have hzero := h.logged_iff.mp (hlogged.mpr hlast.ge)
    rw [hcount, hlast, hput] at hzero
    exact absurd hzero (by decide)
  · intro h
    refine ⟨?_, ?_, ?_⟩
    · rw [hresult, List.length_append, List.length_replicate, List.length_singleton]
      omega
    · rw [hcount]
      split <;> omega
    · rw [hlogged, hcount]
      by_cases hlast : max_retry ≤ k
      · obtain rfl : k = max_retry := by omega
        have hlost : answers k = false := by
          by_contra hput
          exact h ⟨fun j hj => hrefused j (Nat.zero_le j) hj, by simpa using hput⟩
        rw [hlost]
        exact iff_of_true hlast rfl
      · have haccepted := hend.resolve_right (by omega)
        rw [haccepted]
        exact iff_of_false hlast (by decide)

/-- The queue is full for five attempts and has room at the sixth: the result is in the queue, and
the log says that it was lost. -/
theorem reported_lost_but_put : ¬ReportMatches MAX_RETRY_QUEUE (fun k => decide (k = 5)) := by
  intro h
  have hzero := h.logged_iff.mp (by decide +kernel)
  exact absurd hzero (by decide +kernel)

end EnqueueRetry
end SixDofCalculator
end ShipMotion
