import Mathlib.Data.List.Nodup
import Mathlib.Data.List.Perm.Basic
import ShipMotion.Utils.TransitionSystem

/-!
# The ledger of a worker pool

A dispatcher takes jobs in, one at a time, and appends them to a bounded waiting list; when
the list is at its bound, its oldest job is popped first. Workers take jobs off the front and
finish them whenever they like; what a job produces may be accepted or not. Jobs are numbered
in the order in which they are taken in, and the ledger says where every one of them is.

No job is in two places, and none is lost (`Inv.accounted`). Their results come out in the
order of the jobs if a result is accepted only when every other worker is busy with a later job
(`accepted_sorted`).
-/

namespace ShipMotion.Utils

/-- Where the jobs are; `ι` names the workers. -/
structure TaskLedger (ι : Type) where
  issued : ℕ
  hand : Option ℕ
  waiting : List ℕ
  popped : List ℕ
  holds : ι → Option ℕ
  started : List (ι × ℕ)
  executed : List (ι × ℕ)
  accepted : List ℕ

namespace TaskLedger

variable {ι : Type} [DecidableEq ι]

inductive Event (ι : Type) where
  | issue
  | push
  | take (i : ι)
  | finish (i : ι) (ok : Bool)

/-- Before the first job. -/
def empty (ι : Type) : TaskLedger ι :=
  { issued := 0, hand := none, waiting := [], popped := [], holds := fun _ => none
    started := [], executed := [], accepted := [] }

/-- The dispatcher takes in the next job. -/
def issueJob (s : TaskLedger ι) : TaskLedger ι :=
  { s with hand := some s.issued, issued := s.issued + 1 }

/-- How many jobs a push pops: the oldest one, when the waiting list is at its bound. -/
def excess (bound : ℕ) (waiting : List ℕ) : ℕ := if bound ≤ waiting.length then 1 else 0

/-- The dispatcher appends job `n`. -/
def pushJob (bound : ℕ) (s : TaskLedger ι) (n : ℕ) : TaskLedger ι :=
  { s with
    hand := none
    waiting := s.waiting.drop (excess bound s.waiting) ++ [n]
    popped := s.popped ++ s.waiting.take (excess bound s.waiting) }

/-- Worker `i` takes job `n` and leaves `rest`. -/
def takeJob (s : TaskLedger ι) (i : ι) (n : ℕ) (rest : List ℕ) : TaskLedger ι :=
  { s with
    waiting := rest
    holds := Function.update s.holds i (some n)
    started := s.started ++ [(i, n)] }

/-- Worker `i` finishes job `n`. -/
def finishJob (s : TaskLedger ι) (i : ι) (n : ℕ) (ok : Bool) : TaskLedger ι :=
  { s with
    holds := Function.update s.holds i none
    executed := s.executed ++ [(i, n)]
    accepted := if ok then s.accepted ++ [n] else s.accepted }

def step (bound : ℕ) (s : TaskLedger ι) : Event ι → Option (TaskLedger ι)
  | .issue =>
    match s.hand with
    | none => some s.issueJob
    | some _ => none
  | .push => s.hand.map (pushJob bound s)
  | .take i =>
    match s.holds i, s.waiting with
    | none, n :: rest => some (s.takeJob i n rest)
    | _, _ => none
  | .finish i ok => (s.holds i).map fun n => s.finishJob i n ok

/-- All runs of a pool with the workers `ι`. -/
def system (ι : Type) [DecidableEq ι] (bound : ℕ) : LTS (TaskLedger ι) (Event ι) where
  init s := s = empty ι
  step := step bound

theorem takeJob_holds (s : TaskLedger ι) (i j : ι) (n : ℕ) (rest : List ℕ) :
    (s.takeJob i n rest).holds j = if j = i then some n else s.holds j :=
  Function.update_apply ..

theorem finishJob_holds (s : TaskLedger ι) (i j : ι) (n : ℕ) (ok : Bool) :
    (s.finishJob i n ok).holds j = if j = i then none else s.holds j :=
  Function.update_apply ..

theorem step_issue {bound : ℕ} {s : TaskLedger ι} (hhand : s.hand = none) :
    step bound s .issue = some s.issueJob := by
  rw [step, hhand]

theorem step_push {bound : ℕ} {s : TaskLedger ι} {n : ℕ} (hhand : s.hand = some n) :
    step bound s .push = some (s.pushJob bound n) := by
  rw [step, hhand, Option.map_some]

theorem step_take {bound : ℕ} {s : TaskLedger ι} {i : ι} {n : ℕ} {rest : List ℕ}
    (hidle : s.holds i = none) (hwaiting : s.waiting = n :: rest) :
    step bound s (.take i) = some (s.takeJob i n rest) := by
  simp only [step, hidle, hwaiting]

theorem step_finish {bound : ℕ} {s : TaskLedger ι} {i : ι} {n : ℕ} (hholds : s.holds i = some n)
    (ok : Bool) : step bound s (.finish i ok) = some (s.finishJob i n ok) := by
  rw [step, hholds, Option.map_some]

/-- What one event can do. -/
theorem step_cases {bound : ℕ} {s t : TaskLedger ι} {e : Event ι} (h : step bound s e = some t) :
    (e = .issue ∧ s.hand = none ∧ t = s.issueJob) ∨
    (∃ n, e = .push ∧ s.hand = some n ∧ t = s.pushJob bound n) ∨
    (∃ i n rest, e = .take i ∧ s.holds i = none ∧ s.waiting = n :: rest ∧
      t = s.takeJob i n rest) ∨
    (∃ i ok n, e = .finish i ok ∧ s.holds i = some n ∧ t = s.finishJob i n ok) := by
  cases e with
  | issue =>
    cases hhand : s.hand with
    | none =>
      simp only [step, hhand, Option.some.injEq] at h
      exact Or.inl ⟨rfl, rfl, h.symm⟩
    | some n => simp only [step, hhand, reduceCtorEq] at h
  | push =>
    obtain ⟨n, hhand, rfl⟩ := Option.map_eq_some_iff.mp h
    exact Or.inr (Or.inl ⟨n, rfl, hhand, rfl⟩)
  | take i =>
    cases hholds : s.holds i with
    | none =>
      cases hwaiting : s.waiting with
      | nil => simp only [step, hholds, hwaiting, reduceCtorEq] at h
      | cons n rest =>
        simp only [step, hholds, hwaiting, Option.some.injEq] at h
        exact Or.inr (Or.inr (Or.inl ⟨i, n, rest, rfl, hholds, rfl, h.symm⟩))
    | some n => simp only [step, hholds, reduceCtorEq] at h
  | finish i ok =>
    obtain ⟨n, hholds, rfl⟩ := Option.map_eq_some_iff.mp h
    exact Or.inr (Or.inr (Or.inr ⟨i, ok, n, rfl, hholds, rfl⟩))

/-! ## Every job is in one place -/

/-- Every job is started, popped, waiting or in the dispatcher's hand, exactly one of these;
the started ones are in the order of the jobs and before all that still wait, so are the
popped ones; and a started job is executed or held by the worker that took it. -/
structure Inv (bound : ℕ) (s : TaskLedger ι) : Prop where
  accounted : (s.started.map Prod.snd ++ s.popped ++ (s.waiting ++ s.hand.toList)).Perm
    (List.range s.issued)
  bounded : s.waiting.length ≤ bound
  started_sorted : (s.started.map Prod.snd ++ (s.waiting ++ s.hand.toList)).Pairwise (· < ·)
  popped_sorted : (s.popped ++ (s.waiting ++ s.hand.toList)).Pairwise (· < ·)
  running : ∀ i n, (i, n) ∈ s.started ↔ (i, n) ∈ s.executed ∨ s.holds i = some n
  executed_nodup : s.executed.Nodup
  fresh : ∀ i n, s.holds i = some n → (i, n) ∉ s.executed

omit [DecidableEq ι] in
theorem inv_empty (bound : ℕ) : Inv bound (empty ι) where
  accounted := List.Perm.nil
  bounded := Nat.zero_le _
  started_sorted := List.Pairwise.nil
  popped_sorted := List.Pairwise.nil
  running := fun i n => by simp [empty]
  executed_nodup := List.nodup_nil
  fresh := fun i n h => by simp [empty] at h

/-- A list of earlier numbers, extended by the next number. -/
theorem sorted_append_issued {l : List ℕ} {n : ℕ} (hl : l.Pairwise (· < ·)) (hlt : ∀ m ∈ l, m < n) :
    (l ++ [n]).Pairwise (· < ·) := by
  refine List.pairwise_append.mpr ⟨hl, List.pairwise_singleton _ _, ?_⟩
  intro m hm k hk
  rw [List.mem_singleton.mp hk]
  exact hlt m hm

omit [DecidableEq ι] in
/-- The jobs of the ledger are those issued so far. -/
theorem Inv.mem_lt {bound : ℕ} {s : TaskLedger ι} (h : Inv bound s) {n : ℕ}
    (hn : n ∈ s.started.map Prod.snd ++ s.popped ++ (s.waiting ++ s.hand.toList)) :
    n < s.issued :=
  List.mem_range.mp (h.accounted.mem_iff.mp hn)

omit [DecidableEq ι] in
theorem Inv.issueJob {bound : ℕ} {s : TaskLedger ι} (h : Inv bound s) (hhand : s.hand = none) :
    Inv bound s.issueJob := by
  have haccounted := h.accounted
  have hstarted := h.started_sorted
  have hpopped := h.popped_sorted
  have hmem : ∀ m, m ∈ s.started.map Prod.snd ++ s.popped ++ (s.waiting ++ s.hand.toList) →
      m < s.issued := fun m hm => h.mem_lt hm
  rw [hhand, Option.toList_none, List.append_nil] at haccounted hstarted hpopped hmem
  refine ⟨?_, h.bounded, ?_, ?_, h.running, h.executed_nodup, h.fresh⟩
  · show (_ ++ _ ++ (_ ++ [s.issued])).Perm (List.range (s.issued + 1))
    rw [← List.append_assoc, List.range_succ]
    exact haccounted.append_right _
  · show (_ ++ (_ ++ [s.issued])).Pairwise (· < ·)
    rw [← List.append_assoc]
    refine sorted_append_issued hstarted fun m hm => hmem m ?_
    simp only [List.mem_append] at hm ⊢
    tauto
  · show (_ ++ (_ ++ [s.issued])).Pairwise (· < ·)
    rw [← List.append_assoc]
    refine sorted_append_issued hpopped fun m hm => hmem m ?_
    simp only [List.mem_append] at hm ⊢
    tauto

/-- A push drops at most the oldest job and keeps the bound. -/
theorem length_push_le {bound : ℕ} (hbound : 0 < bound) {waiting : List ℕ}
    (h : waiting.length ≤ bound) (n : ℕ) :
    (waiting.drop (excess bound waiting) ++ [n]).length ≤ bound := by
  rw [List.length_append, List.length_drop, List.length_singleton, excess]
  split <;> omega

omit [DecidableEq ι] in
theorem Inv.pushJob {bound : ℕ} (hbound : 0 < bound) {s : TaskLedger ι} (h : Inv bound s) {n : ℕ}
    (hhand : s.hand = some n) : Inv bound (s.pushJob bound n) := by
  have haccounted := h.accounted
  have hstarted := h.started_sorted
  have hpopped := h.popped_sorted
  rw [hhand, Option.toList_some] at haccounted hstarted hpopped
  set k := excess bound s.waiting
  -- popping moves the front of the waiting list, nothing else
  have hsplit : s.popped ++ s.waiting.take k ++ (s.waiting.drop k ++ [n] ++ [])
      = s.popped ++ (s.waiting ++ [n]) := by
    rw [List.append_nil, List.append_assoc, ← List.append_assoc (s.waiting.take k),
      List.take_append_drop]
  refine ⟨?_, length_push_le hbound h.bounded n, ?_, ?_, h.running, h.executed_nodup, h.fresh⟩
  · show (_ ++ (s.popped ++ s.waiting.take k) ++ (s.waiting.drop k ++ [n] ++ [])).Perm _
    rw [List.append_assoc, hsplit, ← List.append_assoc]
    exact haccounted
  · show (_ ++ (s.waiting.drop k ++ [n] ++ [])).Pairwise (· < ·)
    rw [List.append_nil]
    exact hstarted.sublist (((List.drop_sublist k _).append_right _).append_left _)
  · show (s.popped ++ s.waiting.take k ++ (s.waiting.drop k ++ [n] ++ [])).Pairwise (· < ·)
    rw [hsplit]
    exact hpopped

theorem Inv.takeJob {bound : ℕ} {s : TaskLedger ι} (h : Inv bound s) {i : ι} {n : ℕ}
    {rest : List ℕ} (hidle : s.holds i = none) (hwaiting : s.waiting = n :: rest) :
    Inv bound (s.takeJob i n rest) := by
  have haccounted := h.accounted
  have hbounded := h.bounded
  have hstarted := h.started_sorted
  have hpopped := h.popped_sorted
  rw [hwaiting] at haccounted hbounded hstarted hpopped
  -- the job was not started before
  have hnew : ∀ j, (j, n) ∉ s.started := by
    intro j hj
    have hlt := (List.pairwise_append.mp hstarted).2.2 n (List.mem_map_of_mem hj) n
      (List.mem_append_left _ List.mem_cons_self)
    exact Nat.lt_irrefl n hlt
  refine ⟨?_, Nat.le_of_succ_le hbounded, ?_, ?_, ?_, h.executed_nodup, ?_⟩
  · show (List.map Prod.snd (s.started ++ [(i, n)]) ++ s.popped ++ (rest ++ s.hand.toList)).Perm _
    refine List.Perm.trans ?_ haccounted
    rw [List.map_append, List.append_assoc, List.append_assoc, List.append_assoc]
    refine List.Perm.append_left _ ?_
    show (n :: (s.popped ++ (rest ++ s.hand.toList))).Perm _
    exact List.perm_middle.symm
  · show (List.map Prod.snd (s.started ++ [(i, n)]) ++ (rest ++ s.hand.toList)).Pairwise (· < ·)
    rw [List.map_append, List.append_assoc]
    exact hstarted
  · exact hpopped.sublist (((List.sublist_cons_self n rest).append_right _).append_left _)
  · intro j k
    rw [takeJob_holds]
    show (j, k) ∈ s.started ++ [(i, n)] ↔ (j, k) ∈ s.executed ∨ _
    rw [List.mem_append, List.mem_singleton, h.running, Prod.mk.injEq]
    by_cases hj : j = i
    · rw [if_pos hj, hj, hidle, Option.some.injEq]
      simp only [reduceCtorEq, or_false, true_and]
      rw [eq_comm]
    · rw [if_neg hj]
      simp only [hj, false_and, or_false]
  · intro j k hk hexec
    rw [takeJob_holds] at hk
    by_cases hj : j = i
    · rw [if_pos hj, Option.some.injEq] at hk
      rw [hk] at hnew
      exact hnew j ((h.running j k).mpr (Or.inl hexec))
    · rw [if_neg hj] at hk
      exact h.fresh j k hk hexec

theorem Inv.finishJob {bound : ℕ} {s : TaskLedger ι} (h : Inv bound s) {i : ι} {n : ℕ}
    (hholds : s.holds i = some n) (ok : Bool) : Inv bound (s.finishJob i n ok) := by
  -- only the job and its worker change places
  refine ⟨h.accounted, h.bounded, h.started_sorted, h.popped_sorted, ?_, ?_, ?_⟩
  · intro j k
    rw [finishJob_holds]
    show (j, k) ∈ s.started ↔ (j, k) ∈ s.executed ++ [(i, n)] ∨ _
    rw [h.running, List.mem_append, List.mem_singleton, Prod.mk.injEq]
    by_cases hj : j = i
    · rw [if_pos hj, hj, hholds, Option.some.injEq]
      simp only [reduceCtorEq, or_false, true_and]
      rw [eq_comm]
    · rw [if_neg hj]
      simp only [hj, false_and, or_false]
  · refine List.nodup_append.mpr ⟨h.executed_nodup, List.nodup_singleton _, ?_⟩
    intro p hp q hq heq
    rw [heq, List.mem_singleton.mp hq] at hp
    exact h.fresh i n hholds hp
  · intro j k hk hexec
    rw [finishJob_holds] at hk
    by_cases hj : j = i
    · rw [if_pos hj] at hk
      cases hk
    · rw [if_neg hj] at hk
      rcases List.mem_append.mp hexec with hexec | hexec
      · exact h.fresh j k hk hexec
      · rw [List.mem_singleton, Prod.mk.injEq] at hexec
        exact hj hexec.1

theorem Inv.step {bound : ℕ} (hbound : 0 < bound) {s t : TaskLedger ι} {e : Event ι}
    (h : Inv bound s) (hstep : step bound s e = some t) : Inv bound t := by
  rcases step_cases hstep with ⟨-, hhand, rfl⟩ | ⟨n, -, hhand, rfl⟩ |
    ⟨i, n, rest, -, hidle, hwaiting, rfl⟩ | ⟨i, ok, n, -, hholds, rfl⟩
  · exact h.issueJob hhand
  · exact h.pushJob hbound hhand
  · exact h.takeJob hidle hwaiting
  · exact h.finishJob hholds ok

theorem inv_of_reachable {bound : ℕ} (hbound : 0 < bound) {ok : TaskLedger ι → Event ι → Prop}
    {s : TaskLedger ι} (h : (system ι bound).ReachableWith ok s) : Inv bound s :=
  LTS.ReachableWith.invariant
    (fun s hs => by
      rw [show s = empty ι from hs]
      exact inv_empty bound)
    (fun _ _ _ hI _ hstep => hI.step hbound hstep) h

/-! ## What the invariant says -/

variable {bound : ℕ} {s : TaskLedger ι}

omit [DecidableEq ι] in
/-- No job is started twice. -/
theorem Inv.started_nodup (h : Inv bound s) : (s.started.map Prod.snd).Nodup :=
  (List.pairwise_append.mp h.started_sorted).1.imp fun hlt => Nat.ne_of_lt hlt

omit [DecidableEq ι] in
/-- No job is executed twice. -/
theorem Inv.executed_once (h : Inv bound s) : (s.executed.map Prod.snd).Nodup := by
  have hstarted : ∀ p ∈ s.executed, p ∈ s.started :=
    fun p hp => (h.running p.1 p.2).mpr (Or.inl hp)
  apply h.executed_nodup.map_on
  intro p hp q hq heq
  exact List.inj_on_of_nodup_map h.started_nodup (hstarted p hp) (hstarted q hq) heq

omit [DecidableEq ι] in
/-- A popped job was older than all that wait. -/
theorem Inv.popped_lt (h : Inv bound s) {m n : ℕ} (hm : m ∈ s.popped) (hn : n ∈ s.waiting) :
    m < n :=
  (List.pairwise_append.mp h.popped_sorted).2.2 m hm n (List.mem_append_left _ hn)

omit [DecidableEq ι] in
/-- Once nothing is on its way, every job was executed or popped, exactly once. -/
theorem Inv.executed_or_popped (h : Inv bound s) (hhand : s.hand = none) (hwaiting : s.waiting = [])
    (hidle : ∀ i, s.holds i = none) :
    (s.executed.map Prod.snd ++ s.popped).Perm (List.range s.issued) := by
  have haccounted := h.accounted
  rw [hhand, hwaiting, Option.toList_none, List.append_nil, List.append_nil] at haccounted
  -- nothing is held, so the started jobs are the executed ones
  have hperm : s.executed.Perm s.started := by
    refine (List.perm_ext_iff_of_nodup h.executed_nodup (List.Nodup.of_map _ h.started_nodup)).mpr ?_
    intro p
    rw [h.running p.1 p.2, hidle p.1]
    simp only [reduceCtorEq, or_false]
  exact ((hperm.map Prod.snd).append_right _).trans haccounted

/-! ## Results in the order of the jobs -/

/-- A result is accepted only when all other workers hold later jobs. -/
def OldestFirst (s : TaskLedger ι) : Event ι → Prop
  | .finish i true => ∀ n ∈ s.holds i, ∀ j, j ≠ i → ∀ m ∈ s.holds j, n < m
  | _ => True

/-- Accepted results belong to executed jobs, are sorted, and precede all that is running. -/
structure OrderInv (s : TaskLedger ι) : Prop where
  executed : ∀ n ∈ s.accepted, ∃ i, (i, n) ∈ s.executed
  sorted : s.accepted.Pairwise (· < ·)
  running : ∀ n ∈ s.accepted, ∀ i m, s.holds i = some m → n < m

theorem OrderInv.takeJob (hinv : Inv bound s) (h : OrderInv s) {i : ι} {n : ℕ}
    {rest : List ℕ} (hwaiting : s.waiting = n :: rest) : OrderInv (s.takeJob i n rest) := by
  refine ⟨h.executed, h.sorted, ?_⟩
  intro a ha j m hm
  rw [takeJob_holds] at hm
  by_cases hj : j = i
  · rw [if_pos hj, Option.some.injEq] at hm
    -- the job was waiting, so all started ones are older
    obtain ⟨w, hw⟩ := h.executed a ha
    have hstarted := List.mem_map_of_mem (f := Prod.snd) ((hinv.running w a).mpr (Or.inl hw))
    have hin : m ∈ s.waiting ++ s.hand.toList := by
      rw [hwaiting, ← hm]
      exact List.mem_append_left _ List.mem_cons_self
    exact (List.pairwise_append.mp hinv.started_sorted).2.2 a hstarted m hin
  · rw [if_neg hj] at hm
    exact h.running a ha j m hm

theorem OrderInv.finishJob (h : OrderInv s) {i : ι} {n : ℕ} (hholds : s.holds i = some n)
    {ok : Bool} (hok : ok = true → ∀ j, j ≠ i → ∀ m ∈ s.holds j, n < m) :
    OrderInv (s.finishJob i n ok) := by
  -- a job that is still held is held by another worker
  have hother : ∀ j m, (s.finishJob i n ok).holds j = some m → j ≠ i ∧ s.holds j = some m := by
    intro j m hm
    rw [finishJob_holds] at hm
    by_cases hj : j = i
    · rw [if_pos hj] at hm
      cases hm
    · rw [if_neg hj] at hm
      exact ⟨hj, hm⟩
  cases ok with
  | false =>
    refine ⟨?_, h.sorted, ?_⟩
    · intro a ha
      obtain ⟨w, hw⟩ := h.executed a ha
      exact ⟨w, List.mem_append_left _ hw⟩
    · intro a ha j m hm
      exact h.running a ha j m (hother j m hm).2
  | true =>
    refine ⟨?_, ?_, ?_⟩
    · intro a ha
      rcases List.mem_append.mp ha with ha | ha
      · obtain ⟨w, hw⟩ := h.executed a ha
        exact ⟨w, List.mem_append_left _ hw⟩
      · rw [List.mem_singleton.mp ha]
        exact ⟨i, List.mem_append_right _ List.mem_cons_self⟩
    · exact sorted_append_issued h.sorted fun a ha => h.running a ha i n hholds
    · intro a ha j m hm
      obtain ⟨hj, hm⟩ := hother j m hm
      rcases List.mem_append.mp ha with ha | ha
      · exact h.running a ha j m hm
      · rw [List.mem_singleton.mp ha]
        exact hok rfl j hj m hm

/-- Results that are accepted oldest first are accepted in the order of their jobs. -/
theorem accepted_sorted (hbound : 0 < bound)
    (h : (system ι bound).ReachableWith OldestFirst s) : s.accepted.Pairwise (· < ·) := by
  have hboth : Inv bound s ∧ OrderInv s := by
    refine LTS.ReachableWith.invariant (I := fun s => Inv bound s ∧ OrderInv s) ?_ ?_ h
    · intro s hs
      rw [show s = empty ι from hs]
      exact ⟨inv_empty bound, by simp [empty], List.Pairwise.nil, by simp [empty]⟩
    · intro s e t ⟨hinv, hord⟩ hok hstep
      refine ⟨hinv.step hbound hstep, ?_⟩
      rcases step_cases hstep with ⟨-, -, rfl⟩ | ⟨n, -, -, rfl⟩ |
        ⟨i, n, rest, -, -, hwaiting, rfl⟩ | ⟨i, ok, n, rfl, hholds, rfl⟩
      · exact ⟨hord.executed, hord.sorted, hord.running⟩
      · exact ⟨hord.executed, hord.sorted, hord.running⟩
      · exact hord.takeJob hinv hwaiting
      · refine hord.finishJob hholds ?_
        intro htrue
        subst htrue
        exact hok n hholds
  exact hboth.2.sorted

end TaskLedger
end ShipMotion.Utils
