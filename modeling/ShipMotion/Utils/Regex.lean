import Mathlib.Data.List.Basic

/-!
# Regular expressions

Expressions without captures and without unbounded repetition, matched as a backtracking matcher
does: `ends` has the places where a match can end in the order in which they are tried, so that the
first of them is the match a search reports. `Reads` says the same without the order: which words an
expression can read between what is before and what is after them.
-/

namespace ShipMotion.Utils

/-- A place in a text: what is before it, the nearest first, and what is after it. -/
structure Cursor (α : Type) where
  before : List α
  after : List α
  deriving DecidableEq

inductive Regex (α : Type) where
  | empty
  | char (accepts : α → Bool)
  | boundary (word : α → Bool)
  | seq (r s : Regex α)
  | alt (r s : Regex α)

namespace Regex

variable {α : Type}

/-- Exactly one of the two sides of the place is part of a word. -/
def atBoundary (word : α → Bool) (c : Cursor α) : Bool :=
  c.before.head?.any word != c.after.head?.any word

/-- Where a match that starts at the place can end, the preferred end first. -/
def ends : Regex α → Cursor α → List (Cursor α)
  | .empty, c => [c]
  | .char accepts, ⟨before, x :: after⟩ => if accepts x then [⟨x :: before, after⟩] else []
  | .char _, ⟨_, []⟩ => []
  | .boundary word, c => if atBoundary word c then [c] else []
  | .seq r s, c => (r.ends c).flatMap s.ends
  | .alt r s, c => r.ends c ++ s.ends c

/-- `r{n}` -/
def times (r : Regex α) : ℕ → Regex α
  | 0 => .empty
  | n + 1 => .seq r (times r n)

/-- `r{0,n}`, as many as possible first. -/
def upTo (r : Regex α) : ℕ → Regex α
  | 0 => .empty
  | n + 1 => .alt (.seq r (upTo r n)) .empty

/-- `r{m,n}` -/
def between (r : Regex α) (m n : ℕ) : Regex α := .seq (times r m) (upTo r (n - m))

/-- `r?` -/
def opt (r : Regex α) : Regex α := upTo r 1

/-- The expression matches the whole text. -/
def matchesAll (r : Regex α) (text : List α) : Bool :=
  (r.ends ⟨[], text⟩).any fun c => c.after.isEmpty

/-- A match of a search, with what is before and after it. -/
structure Found (α : Type) where
  before : List α
  word : List α
  after : List α
  deriving DecidableEq

/-- The preferred match that starts at the place. -/
def matchAt (r : Regex α) (before after : List α) : Option (Found α) :=
  (r.ends ⟨before, after⟩).head?.map fun c =>
    ⟨before.reverse, after.take (after.length - c.after.length), c.after⟩

/-- The match of the first place, from here on, where one starts. -/
def searchFrom (r : Regex α) : List α → List α → Option (Found α)
  | before, [] => r.matchAt before []
  | before, x :: after => (r.matchAt before (x :: after)).or (searchFrom r (x :: before) after)

def search (r : Regex α) (text : List α) : Option (Found α) := r.searchFrom [] text

/-! ## What an expression reads -/

/-- The expression can read `w` between `before`, the nearest first, and `after`. -/
def Reads : Regex α → List α → List α → List α → Prop
  | .empty, _, w, _ => w = []
  | .char accepts, _, w, _ => ∃ x, w = [x] ∧ accepts x = true
  | .boundary word, before, w, after => w = [] ∧ atBoundary word ⟨before, after⟩ = true
  | .seq r s, before, w, after =>
    ∃ u v, w = u ++ v ∧ r.Reads before u (v ++ after) ∧ s.Reads (u.reverse ++ before) v after
  | .alt r s, before, w, after => r.Reads before w after ∨ s.Reads before w after

theorem mem_ends_of_reads {r : Regex α} {before w after : List α} (h : r.Reads before w after) :
    ⟨w.reverse ++ before, after⟩ ∈ r.ends ⟨before, w ++ after⟩ := by
  induction r generalizing before w after with
  | empty =>
    have hw : w = [] := h
    subst hw
    exact List.mem_singleton.mpr rfl
  | char accepts =>
    obtain ⟨x, rfl, hx⟩ := h
    show _ ∈ (if accepts x then _ else _)
    rw [if_pos hx]
    exact List.mem_singleton.mpr rfl
  | boundary word =>
    obtain ⟨rfl, hword⟩ := h
    show _ ∈ (if atBoundary word ⟨before, after⟩ then _ else _)
    rw [if_pos hword]
    exact List.mem_singleton.mpr rfl
  | seq r s ihr ihs =>
    obtain ⟨u, v, rfl, hu, hv⟩ := h
    have hmiddle := ihr hu
    have hend := ihs hv
    rw [List.append_assoc]
    apply List.mem_flatMap.mpr
    refine ⟨_, hmiddle, ?_⟩
    rw [List.reverse_append, List.append_assoc]
    exact hend
  | alt r s ihr ihs =>
    apply List.mem_append.mpr
    rcases h with h | h
    · exact Or.inl (ihr h)
    · exact Or.inr (ihs h)

theorem reads_of_mem_ends {r : Regex α} {c d : Cursor α} (h : d ∈ r.ends c) :
    ∃ w, c.after = w ++ d.after ∧ d.before = w.reverse ++ c.before ∧
      r.Reads c.before w d.after := by
  induction r generalizing c d with
  | empty =>
    rw [List.mem_singleton.mp h]
    exact ⟨[], rfl, rfl, rfl⟩
  | char accepts =>
    obtain ⟨before, after⟩ := c
    cases after with
    | nil => exact absurd h List.not_mem_nil
    | cons x after =>
      simp only [ends] at h
      split at h
      · rename_i hx
        rw [List.mem_singleton.mp h]
        exact ⟨[x], rfl, rfl, x, rfl, hx⟩
      · exact absurd h List.not_mem_nil
  | boundary word =>
    simp only [ends] at h
    split at h
    · rename_i hword
      rw [List.mem_singleton.mp h]
      exact ⟨[], rfl, rfl, rfl, hword⟩
    · exact absurd h List.not_mem_nil
  | seq r s ihr ihs =>
    obtain ⟨e, he, hd⟩ := List.mem_flatMap.mp h
    obtain ⟨u, hu, hbefore, hr⟩ := ihr he
    obtain ⟨v, hv, hbefore', hs⟩ := ihs hd
    refine ⟨u ++ v, ?_, ?_, u, v, rfl, ?_, ?_⟩
    · rw [hu, hv, List.append_assoc]
    · rw [hbefore', hbefore, List.reverse_append, List.append_assoc]
    · rw [← hv]
      exact hr
    · rw [← hbefore]
      exact hs
  | alt r s ihr ihs =>
    rcases List.mem_append.mp h with h | h
    · obtain ⟨w, hw, hbefore, hr⟩ := ihr h
      exact ⟨w, hw, hbefore, Or.inl hr⟩
    · obtain ⟨w, hw, hbefore, hs⟩ := ihs h
      exact ⟨w, hw, hbefore, Or.inr hs⟩

theorem matchesAll_iff {r : Regex α} {text : List α} :
    r.matchesAll text = true ↔ r.Reads [] text [] := by
  rw [matchesAll, List.any_eq_true]
  constructor
  · rintro ⟨c, hc, hafter⟩
    obtain ⟨w, hw, _, hr⟩ := reads_of_mem_ends hc
    rw [List.isEmpty_iff.mp hafter] at hw hr
    rw [show text = w from hw.trans (List.append_nil w)]
    exact hr
  · intro h
    have hmem := mem_ends_of_reads h
    rw [List.append_nil] at hmem
    exact ⟨_, hmem, rfl⟩

/-- No match starts at the place. -/
theorem ends_eq_nil_iff {r : Regex α} {before after : List α} :
    r.ends ⟨before, after⟩ = [] ↔ ∀ w rest, after = w ++ rest → ¬ r.Reads before w rest := by
  constructor
  · rintro h w rest rfl hr
    have hmem := mem_ends_of_reads hr
    rw [h] at hmem
    exact absurd hmem List.not_mem_nil
  · intro h
    apply List.eq_nil_iff_forall_not_mem.mpr
    intro c hc
    obtain ⟨w, hw, _, hr⟩ := reads_of_mem_ends hc
    exact h w c.after hw hr

/-! ## Searching -/

/-- No match starts before `rest`, the text being `pre ++ rest` from the place on. -/
def NoneBefore (r : Regex α) (before pre rest : List α) : Prop :=
  ∀ u v, pre = u ++ v → v ≠ [] → r.ends ⟨u.reverse ++ before, v ++ rest⟩ = []

theorem noneBefore_nil (r : Regex α) (before rest : List α) : r.NoneBefore before [] rest := by
  intro u v huv hv
  exact absurd (List.append_eq_nil_iff.mp huv.symm).2 hv

theorem noneBefore_cons {r : Regex α} {before pre rest : List α} {x : α} :
    r.NoneBefore before (x :: pre) rest ↔
      r.ends ⟨before, x :: (pre ++ rest)⟩ = [] ∧ r.NoneBefore (x :: before) pre rest := by
  constructor
  · intro h
    refine ⟨h [] (x :: pre) rfl (List.cons_ne_nil x pre), ?_⟩
    intro u v huv hv
    have hlater := h (x :: u) v (by rw [huv, List.cons_append]) hv
    rw [List.reverse_cons, List.append_assoc] at hlater
    exact hlater
  · rintro ⟨hhere, hlater⟩ u v huv hv
    cases u with
    | nil =>
      rw [List.nil_append] at huv
      rw [← huv]
      exact hhere
    | cons y u =>
      rw [List.cons_append, List.cons.injEq] at huv
      rw [← huv.1, List.reverse_cons, List.append_assoc]
      exact hlater u v huv.2 hv

theorem matchAt_eq_none_iff {r : Regex α} {before after : List α} :
    r.matchAt before after = none ↔ r.ends ⟨before, after⟩ = [] := by
  rw [matchAt, Option.map_eq_none_iff, List.head?_eq_none_iff]

theorem reads_of_head {r : Regex α} {before w after : List α}
    (h : (r.ends ⟨before, w ++ after⟩).head? = some ⟨w.reverse ++ before, after⟩) :
    r.Reads before w after := by
  obtain ⟨u, hu, _, hr⟩ := reads_of_mem_ends (List.mem_of_mem_head? h)
  have huw : w = u := List.append_cancel_right hu
  rw [huw]
  exact hr

/-- What is found at a place is the preferred match there. -/
theorem matchAt_eq_some {r : Regex α} {before after : List α} {found : Found α}
    (h : r.matchAt before after = some found) :
    found.before = before.reverse ∧ after = found.word ++ found.after ∧
      (r.ends ⟨before, after⟩).head? = some ⟨found.word.reverse ++ before, found.after⟩ := by
  obtain ⟨c, hc, rfl⟩ := Option.map_eq_some_iff.mp h
  obtain ⟨w, hw, hbefore, _⟩ := reads_of_mem_ends (List.mem_of_mem_head? hc)
  have hword : after.take (after.length - c.after.length) = w := by
    rw [show after = w ++ c.after from hw, List.length_append, Nat.add_sub_cancel, List.take_left]
  dsimp only
  rw [hword, ← hbefore]
  exact ⟨rfl, hw, hc⟩

/-- The preferred match where it stands, with none that starts earlier. -/
def Leftmost (r : Regex α) (before after : List α) (found : Found α) : Prop :=
  ∃ pre, found.before = before.reverse ++ pre ∧ after = pre ++ (found.word ++ found.after) ∧
    (r.ends ⟨pre.reverse ++ before, found.word ++ found.after⟩).head? =
      some ⟨found.word.reverse ++ (pre.reverse ++ before), found.after⟩ ∧
    r.NoneBefore before pre (found.word ++ found.after)

theorem leftmost_of_matchAt {r : Regex α} {before after : List α} {found : Found α}
    (h : r.matchAt before after = some found) : r.Leftmost before after found := by
  obtain ⟨hbefore, hafter, hhead⟩ := matchAt_eq_some h
  rw [hafter] at hhead
  exact ⟨[], by rw [hbefore, List.append_nil], hafter, hhead, noneBefore_nil r before _⟩

theorem leftmost_of_searchFrom {r : Regex α} {before after : List α} {found : Found α}
    (h : r.searchFrom before after = some found) : r.Leftmost before after found := by
  induction after generalizing before with
  | nil => exact leftmost_of_matchAt h
  | cons x after ih =>
    rw [searchFrom] at h
    rcases Option.or_eq_some_iff.mp h with hmatch | ⟨hno, hlater⟩
    · exact leftmost_of_matchAt hmatch
    · obtain ⟨pre, hbefore, hafter, hhead, hnone⟩ := ih hlater
      refine ⟨x :: pre, ?_, ?_, ?_, ?_⟩
      · rw [hbefore, List.reverse_cons, List.append_assoc, List.singleton_append]
      · rw [List.cons_append, ← hafter]
      · rw [List.reverse_cons, List.append_assoc, List.singleton_append]
        exact hhead
      · rw [noneBefore_cons, ← hafter]
        exact ⟨matchAt_eq_none_iff.mp hno, hnone⟩

theorem search_eq_some {r : Regex α} {text : List α} {found : Found α}
    (h : r.search text = some found) :
    text = found.before ++ (found.word ++ found.after) ∧
      (r.ends ⟨found.before.reverse, found.word ++ found.after⟩).head? =
        some ⟨found.word.reverse ++ found.before.reverse, found.after⟩ ∧
      r.NoneBefore [] found.before (found.word ++ found.after) := by
  obtain ⟨pre, hbefore, hafter, hhead, hnone⟩ := leftmost_of_searchFrom h
  rw [List.reverse_nil, List.nil_append] at hbefore
  rw [List.append_nil] at hhead
  rw [hbefore]
  exact ⟨hafter, hhead, hnone⟩

/-- A search finds nothing exactly when there is nothing to read anywhere. -/
theorem search_eq_none_iff {r : Regex α} {text : List α} :
    r.search text = none ↔
      ∀ before w after, text = before ++ (w ++ after) → ¬ r.Reads before.reverse w after := by
  have hfrom : ∀ before after, r.searchFrom before after = none ↔
      ∀ pre w rest, after = pre ++ (w ++ rest) → ¬ r.Reads (pre.reverse ++ before) w rest := by
    intro before after
    induction after generalizing before with
    | nil =>
      rw [searchFrom, matchAt_eq_none_iff, ends_eq_nil_iff]
      constructor
      · intro h pre w rest heq
        obtain ⟨hpre, hrest⟩ := List.append_eq_nil_iff.mp heq.symm
        rw [hpre]
        exact h w rest hrest.symm
      · intro h w rest heq
        exact h [] w rest heq
    | cons x after ih =>
      rw [searchFrom, Option.or_eq_none_iff, ih, matchAt_eq_none_iff, ends_eq_nil_iff]
      constructor
      · rintro ⟨hhere, hlater⟩ pre w rest heq
        cases pre with
        | nil => exact hhere w rest heq
        | cons y pre =>
          rw [List.cons_append, List.cons.injEq] at heq
          rw [← heq.1, List.reverse_cons, List.append_assoc]
          exact hlater pre w rest heq.2
      · intro h
        refine ⟨fun w rest heq => h [] w rest heq, ?_⟩
        intro pre w rest heq
        have hnot := h (x :: pre) w rest (by rw [heq, List.cons_append])
        rw [List.reverse_cons, List.append_assoc] at hnot
        exact hnot
  rw [search, hfrom]
  constructor
  · intro h before w after heq
    have hnot := h before w after heq
    rw [List.append_nil] at hnot
    exact hnot
  · intro h pre w rest heq
    rw [List.append_nil]
    exact h pre w rest heq

/-! ## Repetition of a character -/

theorem reads_times_char {accepts : α → Bool} {n : ℕ} {before w after : List α} :
    (times (.char accepts) n).Reads before w after ↔ w.length = n ∧ ∀ x ∈ w, accepts x = true := by
  induction n generalizing before w with
  | zero =>
    show w = [] ↔ _
    rw [List.length_eq_zero_iff]
    constructor
    · rintro rfl
      exact ⟨rfl, fun x hx => absurd hx List.not_mem_nil⟩
    · intro h
      exact h.1
  | succ n ih =>
    constructor
    · rintro ⟨u, v, rfl, ⟨x, rfl, hx⟩, hv⟩
      obtain ⟨hlength, hall⟩ := ih.mp hv
      refine ⟨by rw [List.singleton_append, List.length_cons, hlength], ?_⟩
      intro y hy
      rcases List.mem_cons.mp hy with rfl | hy
      · exact hx
      · exact hall y hy
    · rintro ⟨hlength, hall⟩
      obtain ⟨x, v, rfl⟩ := List.exists_cons_of_length_eq_add_one hlength
      refine ⟨[x], v, rfl, ⟨x, rfl, hall x List.mem_cons_self⟩, ih.mpr ⟨?_, ?_⟩⟩
      · exact Nat.succ.inj hlength
      · intro y hy
        exact hall y (List.mem_cons_of_mem x hy)

theorem reads_upTo_char {accepts : α → Bool} {n : ℕ} {before w after : List α} :
    (upTo (.char accepts) n).Reads before w after ↔ w.length ≤ n ∧ ∀ x ∈ w, accepts x = true := by
  induction n generalizing before w with
  | zero =>
    show w = [] ↔ _
    rw [Nat.le_zero, List.length_eq_zero_iff]
    constructor
    · rintro rfl
      exact ⟨rfl, fun x hx => absurd hx List.not_mem_nil⟩
    · intro h
      exact h.1
  | succ n ih =>
    constructor
    · rintro (⟨u, v, rfl, ⟨x, rfl, hx⟩, hv⟩ | hnil)
      · obtain ⟨hlength, hall⟩ := ih.mp hv
        refine ⟨Nat.succ_le_succ hlength, ?_⟩
        intro y hy
        rcases List.mem_cons.mp hy with rfl | hy
        · exact hx
        · exact hall y hy
      · have hw : w = [] := hnil
        rw [hw]
        exact ⟨Nat.zero_le _, fun x hx => absurd hx List.not_mem_nil⟩
    · rintro ⟨hlength, hall⟩
      cases w with
      | nil => exact Or.inr rfl
      | cons x v =>
        refine Or.inl ⟨[x], v, rfl, ⟨x, rfl, hall x List.mem_cons_self⟩, ih.mpr ⟨?_, ?_⟩⟩
        · exact Nat.le_of_succ_le_succ hlength
        · intro y hy
          exact hall y (List.mem_cons_of_mem x hy)

theorem reads_between_char {accepts : α → Bool} {m n : ℕ} {before w after : List α} (hmn : m ≤ n) :
    (between (.char accepts) m n).Reads before w after ↔
      m ≤ w.length ∧ w.length ≤ n ∧ ∀ x ∈ w, accepts x = true := by
  constructor
  · rintro ⟨u, v, rfl, hu, hv⟩
    obtain ⟨hulength, hu⟩ := reads_times_char.mp hu
    obtain ⟨hvlength, hv⟩ := reads_upTo_char.mp hv
    rw [List.length_append]
    refine ⟨by omega, by omega, ?_⟩
    intro x hx
    rcases List.mem_append.mp hx with hx | hx
    · exact hu x hx
    · exact hv x hx
  · rintro ⟨hm, hn, hall⟩
    refine ⟨w.take m, w.drop m, (List.take_append_drop m w).symm, reads_times_char.mpr ⟨?_, ?_⟩,
      reads_upTo_char.mpr ⟨?_, ?_⟩⟩
    · rw [List.length_take]
      omega
    · intro x hx
      exact hall x (List.mem_of_mem_take hx)
    · rw [List.length_drop]
      omega
    · intro x hx
      exact hall x (List.mem_of_mem_drop hx)

/-! ## The preferred end -/

/-- The preferred end of a sequence is behind the preferred ends of its parts, if the second part
can go on from there. -/
theorem head_ends_seq {r s : Regex α} {c d e : Cursor α} (hr : (r.ends c).head? = some d)
    (hs : (s.ends d).head? = some e) : ((Regex.seq r s).ends c).head? = some e := by
  obtain ⟨ds, hds⟩ := List.head?_eq_some_iff.mp hr
  obtain ⟨es, hes⟩ := List.head?_eq_some_iff.mp hs
  show ((r.ends c).flatMap s.ends).head? = some e
  rw [hds, List.flatMap_cons, hes, List.cons_append]
  rfl

/-- What is read in one way only is the preferred way. -/
theorem head_ends_of_unique {r : Regex α} {before w after : List α} (h : r.Reads before w after)
    (hunique : ∀ u rest, w ++ after = u ++ rest → r.Reads before u rest → u = w) :
    (r.ends ⟨before, w ++ after⟩).head? = some ⟨w.reverse ++ before, after⟩ := by
  have hmem := mem_ends_of_reads h
  cases hends : r.ends ⟨before, w ++ after⟩ with
  | nil =>
    rw [hends] at hmem
    exact absurd hmem List.not_mem_nil
  | cons c cs =>
    have hc : c ∈ r.ends ⟨before, w ++ after⟩ := by
      rw [hends]
      exact List.mem_cons_self
    obtain ⟨u, hu, hbefore, hr⟩ := reads_of_mem_ends hc
    have huw : u = w := hunique u c.after hu hr
    rw [huw] at hu hbefore
    have hafter : after = c.after := List.append_cancel_left hu
    rw [List.head?_cons, hafter, ← hbefore]

theorem head_ends_times_char {accepts : α → Bool} (before after : List α) {w : List α}
    (hall : ∀ x ∈ w, accepts x = true) :
    ((times (.char accepts) w.length).ends ⟨before, w ++ after⟩).head? =
      some ⟨w.reverse ++ before, after⟩ := by
  refine head_ends_of_unique (reads_times_char.mpr ⟨rfl, hall⟩) ?_
  intro u rest heq hu
  exact (List.append_inj heq (reads_times_char.mp hu).1.symm).1.symm

/-- The preferred end of `p{0,n}` is behind as many characters as there are, up to `n`. -/
theorem head_ends_upTo_char {accepts : α → Bool} {n : ℕ} (before : List α) {w after : List α}
    (hlength : w.length ≤ n) (hall : ∀ x ∈ w, accepts x = true)
    (hstops : w.length = n ∨ ∀ x ∈ after.head?, accepts x = false) :
    ((upTo (.char accepts) n).ends ⟨before, w ++ after⟩).head?
      = some ⟨w.reverse ++ before, after⟩ := by
  induction n generalizing before w with
  | zero =>
    rw [List.length_eq_zero_iff.mp (Nat.le_zero.mp hlength)]
    rfl
  | succ n ih =>
    show (((Regex.seq (.char accepts) (upTo (.char accepts) n)).ends _) ++ _).head? = _
    cases w with
    | nil =>
      -- nothing is left to read, so the sequence has no end and the empty match is the first one
      have hno : (Regex.char accepts).ends ⟨before, after⟩ = [] := by
        cases after with
        | nil => rfl
        | cons x after =>
          have hx : accepts x = false := by
            rcases hstops with h | h
            · exact absurd h (Nat.succ_ne_zero n).symm
            · exact h x rfl
          rw [ends, hx]
          rfl
      show ((((Regex.char accepts).ends ⟨before, after⟩).flatMap _) ++ _).head? = _
      rw [hno]
      rfl
    | cons x w =>
      have hx : accepts x = true := hall x List.mem_cons_self
      have hchar : ((Regex.char accepts).ends ⟨before, x :: (w ++ after)⟩).head? =
          some ⟨x :: before, w ++ after⟩ := by
        rw [ends, if_pos hx]
        rfl
      have hrest := ih (x :: before) (Nat.le_of_succ_le_succ hlength)
        (fun y hy => hall y (List.mem_cons_of_mem x hy)) (hstops.imp_left Nat.succ.inj)
      rw [List.head?_append, List.cons_append, head_ends_seq hchar hrest, Option.some_or,
        List.reverse_cons, List.append_assoc, List.singleton_append]

/-- The preferred end of `p{m,n}` is behind as many characters as there are, up to `n`. -/
theorem head_ends_between_char {accepts : α → Bool} {m n : ℕ} (before : List α) {w after : List α}
    (hm : m ≤ w.length) (hn : w.length ≤ n) (hall : ∀ x ∈ w, accepts x = true)
    (hstops : w.length = n ∨ ∀ x ∈ after.head?, accepts x = false) :
    ((between (.char accepts) m n).ends ⟨before, w ++ after⟩).head? =
      some ⟨w.reverse ++ before, after⟩ := by
  have htake : (w.take m).length = m := by
    rw [List.length_take]
    omega
  have htimes := head_ends_times_char before (w.drop m ++ after)
    (fun x hx => hall x (List.mem_of_mem_take (i := m) hx))
  have hlast : (w.drop m).length ≤ n - m := by
    rw [List.length_drop]
    omega
  have hupTo := head_ends_upTo_char ((w.take m).reverse ++ before) hlast
    (fun x hx => hall x (List.mem_of_mem_drop hx))
    (hstops.imp_left fun h => by rw [List.length_drop, h])
  rw [htake, ← List.append_assoc, List.take_append_drop] at htimes
  rw [← List.append_assoc, ← List.reverse_append, List.take_append_drop] at hupTo
  exact head_ends_seq htimes hupTo

/-- As many characters at the head of a text as there are, up to `n`. -/
theorem exists_run (accepts : α → Bool) (n : ℕ) (text : List α) :
    ∃ w after, text = w ++ after ∧ w.length ≤ n ∧ (∀ x ∈ w, accepts x = true) ∧
      (w.length = n ∨ ∀ x ∈ after.head?, accepts x = false) := by
  induction n generalizing text with
  | zero => exact ⟨[], text, rfl, Nat.le_refl _, fun x hx => absurd hx List.not_mem_nil, Or.inl rfl⟩
  | succ n ih =>
    cases text with
    | nil => exact ⟨[], [], rfl, Nat.zero_le _, fun x hx => absurd hx List.not_mem_nil,
        Or.inr fun x hx => absurd hx (Option.not_mem_none x)⟩
    | cons x text =>
      cases hx : accepts x with
      | false =>
        refine ⟨[], x :: text, rfl, Nat.zero_le _, fun y hy => absurd hy List.not_mem_nil,
          Or.inr ?_⟩
        intro y hy
        rw [← Option.some.inj hy]
        exact hx
      | true =>
        obtain ⟨w, after, rfl, hlength, hall, hstops⟩ := ih text
        refine ⟨x :: w, after, rfl, Nat.succ_le_succ hlength, ?_, ?_⟩
        · exact List.forall_mem_cons.mpr ⟨hx, hall⟩
        · exact hstops.imp_left (congrArg Nat.succ)

/-- No other run at the head of the same text is longer. -/
theorem length_le_run {accepts : α → Bool} {n : ℕ} {w u after rest : List α}
    (heq : u ++ rest = w ++ after) (hlength : u.length ≤ n) (hall : ∀ x ∈ u, accepts x = true)
    (hstops : w.length = n ∨ ∀ x ∈ after.head?, accepts x = false) : u.length ≤ w.length := by
  rcases hstops with hfull | hstops
  · omega
  · rcases List.append_eq_append_iff.mp heq with ⟨s, hs, _⟩ | ⟨s, hs, hafter⟩
    · rw [hs, List.length_append]
      omega
    · cases s with
      | nil => exact Nat.le_of_eq (congrArg List.length (hs.trans (List.append_nil w)))
      | cons x s =>
        have hx : accepts x = true := by
          apply hall
          rw [hs]
          simp
        have hx' : accepts x = false := by
          apply hstops
          rw [hafter]
          rfl
        rw [hx] at hx'
        cases hx'

end Regex
end ShipMotion.Utils
