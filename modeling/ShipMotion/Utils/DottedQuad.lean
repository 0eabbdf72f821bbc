import ShipMotion.Utils.Regex

/-!
# Four words with dots between them

The shape of an IPv4 address in the dotted notation, for any expression that reads one of its four
words, and the preferred match where the words are digits.
-/

namespace ShipMotion.Utils
namespace Regex

/-- The dot between two words. -/
def dot : Regex Char := .char (· == '.')

/-- `(?:g\.){3}g` -/
def dotted (g : Regex Char) : Regex Char := .seq (times (.seq g dot) 3) g

/-- Four words that meet `G`, with a dot between each two. -/
def IsQuad (G : List Char → Prop) (w : List Char) : Prop :=
  ∃ a b c d, w = a ++ '.' :: (b ++ '.' :: (c ++ '.' :: d)) ∧ G a ∧ G b ∧ G c ∧ G d

variable {g : Regex Char} {G : List Char → Prop}

/-- `g` reads the words that meet `G`, wherever they stand. -/
def ReadsOnly (g : Regex Char) (G : List Char → Prop) : Prop :=
  ∀ before w after, g.Reads before w after ↔ G w

theorem reads_dot {before w after : List Char} : dot.Reads before w after ↔ w = ['.'] := by
  constructor
  · rintro ⟨x, rfl, hx⟩
    rw [beq_iff_eq.mp hx]
  · rintro rfl
    exact ⟨'.', rfl, rfl⟩

theorem reads_word_dot (hg : ReadsOnly g G) {before w after : List Char} :
    (Regex.seq g dot).Reads before w after ↔ ∃ u, w = u ++ ['.'] ∧ G u := by
  constructor
  · rintro ⟨u, v, rfl, hu, hv⟩
    exact ⟨u, by rw [reads_dot.mp hv], (hg ..).mp hu⟩
  · rintro ⟨u, rfl, hu⟩
    exact ⟨u, ['.'], rfl, (hg ..).mpr hu, reads_dot.mpr rfl⟩

theorem reads_dotted (hg : ReadsOnly g G) {before w after : List Char} :
    (dotted g).Reads before w after ↔ IsQuad G w := by
  constructor
  · rintro ⟨_, d, rfl, ⟨_, _, rfl, hfirst, _, _, rfl, hsecond, _, _, rfl, hthird, rfl⟩, hlast⟩
    obtain ⟨a, rfl, ha⟩ := (reads_word_dot hg).mp hfirst
    obtain ⟨b, rfl, hb⟩ := (reads_word_dot hg).mp hsecond
    obtain ⟨c, rfl, hc⟩ := (reads_word_dot hg).mp hthird
    exact ⟨a, b, c, d, by simp, ha, hb, hc, (hg ..).mp hlast⟩
  · rintro ⟨a, b, c, d, rfl, ha, hb, hc, hd⟩
    refine ⟨a ++ ['.'] ++ (b ++ ['.'] ++ (c ++ ['.'] ++ [])), d, by simp, ?_, (hg ..).mpr hd⟩
    exact ⟨_, _, rfl, (reads_word_dot hg).mpr ⟨a, rfl, ha⟩, _, _, rfl,
      (reads_word_dot hg).mpr ⟨b, rfl, hb⟩, _, _, rfl, (reads_word_dot hg).mpr ⟨c, rfl, hc⟩, rfl⟩

/-! ## Words of digits -/

/-- `\d{1,3}` -/
def upToThreeDigits : Regex Char := between (.char Char.isDigit) 1 3

def UpToThreeDigits (w : List Char) : Prop :=
  1 ≤ w.length ∧ w.length ≤ 3 ∧ ∀ x ∈ w, x.isDigit = true

theorem readsOnly_upToThreeDigits : ReadsOnly upToThreeDigits UpToThreeDigits := by
  intro before w after
  exact reads_between_char (by omega)

theorem dot_not_isDigit : Char.isDigit '.' = false := rfl

/-- Digits up to a dot are read in one way. -/
theorem digits_dot_unique {u v s t : List Char} (hu : ∀ x ∈ u, x.isDigit = true)
    (hv : ∀ x ∈ v, x.isDigit = true) (h : u ++ '.' :: s = v ++ '.' :: t) : u = v ∧ s = t := by
  induction u generalizing v with
  | nil =>
    cases v with
    | nil => exact ⟨rfl, (List.cons.inj h).2⟩
    | cons y v =>
      have hy := hv y List.mem_cons_self
      rw [← (List.cons.inj h).1, dot_not_isDigit] at hy
      cases hy
  | cons x u ih =>
    cases v with
    | nil =>
      have hx := hu x List.mem_cons_self
      rw [(List.cons.inj h).1, dot_not_isDigit] at hx
      cases hx
    | cons y v =>
      obtain ⟨hxy, hrest⟩ := List.cons.inj h
      obtain ⟨huv, hst⟩ := ih (fun z hz => hu z (List.mem_cons_of_mem x hz))
        (fun z hz => hv z (List.mem_cons_of_mem y hz)) hrest
      exact ⟨by rw [hxy, huv], hst⟩

theorem head_ends_word_dot (before after : List Char) {u : List Char} (hu : UpToThreeDigits u) :
    ((Regex.seq upToThreeDigits dot).ends ⟨before, u ++ '.' :: after⟩).head? =
      some ⟨'.' :: (u.reverse ++ before), after⟩ := by
  have hreads : (Regex.seq upToThreeDigits dot).Reads before (u ++ ['.']) after :=
    (reads_word_dot readsOnly_upToThreeDigits).mpr ⟨u, rfl, hu⟩
  have hhead := head_ends_of_unique hreads (by
    intro _ rest heq hother
    obtain ⟨v, rfl, hv⟩ := (reads_word_dot readsOnly_upToThreeDigits).mp hother
    rw [List.append_assoc, List.append_assoc] at heq
    rw [(digits_dot_unique hu.2.2 hv.2.2 heq).1])
  rw [List.append_assoc, List.reverse_append] at hhead
  exact hhead

/-- The preferred end of an address is behind as many digits of its last word as there are, up to
three. -/
theorem head_ends_dotted_words (before : List Char) {a b c d after : List Char}
    (ha : UpToThreeDigits a) (hb : UpToThreeDigits b) (hc : UpToThreeDigits c)
    (hd : UpToThreeDigits d) (hstops : d.length = 3 ∨ ∀ x ∈ after.head?, x.isDigit = false) :
    ((dotted upToThreeDigits).ends
        ⟨before, (a ++ '.' :: (b ++ '.' :: (c ++ '.' :: d))) ++ after⟩).head? =
      some ⟨(a ++ '.' :: (b ++ '.' :: (c ++ '.' :: d))).reverse ++ before, after⟩ := by
  have hfirst := head_ends_word_dot before (b ++ '.' :: (c ++ '.' :: (d ++ after))) ha
  have hsecond :=
    head_ends_word_dot ('.' :: (a.reverse ++ before)) (c ++ '.' :: (d ++ after)) hb
  have hthird :=
    head_ends_word_dot ('.' :: (b.reverse ++ '.' :: (a.reverse ++ before))) (d ++ after) hc
  have hlast := head_ends_between_char
    ('.' :: (c.reverse ++ '.' :: (b.reverse ++ '.' :: (a.reverse ++ before))))
    hd.1 hd.2.1 hd.2.2 hstops
  have hdots : ((times (.seq upToThreeDigits dot) 3).ends
      ⟨before, a ++ '.' :: (b ++ '.' :: (c ++ '.' :: (d ++ after)))⟩).head? =
      some ⟨'.' :: (c.reverse ++ '.' :: (b.reverse ++ '.' :: (a.reverse ++ before))), d ++ after⟩ :=
    head_ends_seq hfirst (head_ends_seq hsecond (head_ends_seq hthird rfl))
  have hall := head_ends_seq hdots hlast
  simp only [List.append_assoc, List.cons_append, List.reverse_append, List.reverse_cons,
    List.nil_append]
  exact hall

/-- No address at the same place is longer than the preferred one. -/
theorem length_le_preferred {before w u after rest : List Char}
    (hhead : ((dotted upToThreeDigits).ends ⟨before, w ++ after⟩).head? =
      some ⟨w.reverse ++ before, after⟩)
    (heq : w ++ after = u ++ rest) (hu : IsQuad UpToThreeDigits u) : u.length ≤ w.length := by
  obtain ⟨a, b, c, d, rfl, ha, hb, hc, hd⟩ := hu
  obtain ⟨e, rest', hrun, helength, heall, hestops⟩ := exists_run Char.isDigit 3 (d ++ rest)
  have hde : d.length ≤ e.length := length_le_run hrun hd.2.1 hd.2.2 hestops
  have he : UpToThreeDigits e := ⟨Nat.le_trans hd.1 hde, helength, heall⟩
  have hpreferred := head_ends_dotted_words before ha hb hc he hestops
  have htext : w ++ after = (a ++ '.' :: (b ++ '.' :: (c ++ '.' :: e))) ++ rest' := by
    rw [heq]
    simp [hrun]
  rw [htext, hpreferred, Option.some.injEq, Cursor.mk.injEq] at hhead
  have hw : w = a ++ '.' :: (b ++ '.' :: (c ++ '.' :: e)) :=
    List.reverse_injective (List.append_cancel_right hhead.1).symm
  rw [hw]
  simp only [List.length_append, List.length_cons]
  omega

/-! ## Nothing to find -/

/-- With fewer than three dots there is no address. -/
theorem search_dotted_eq_none (hg : ReadsOnly g G) {text : List Char} (h : text.count '.' < 3) :
    (dotted g).search text = none := by
  apply search_eq_none_iff.mpr
  intro before w after htext hw
  obtain ⟨a, b, c, d, rfl, _⟩ := (reads_dotted hg).mp hw
  rw [htext] at h
  simp only [List.count_append, List.count_cons_self] at h
  omega

end Regex
end ShipMotion.Utils
