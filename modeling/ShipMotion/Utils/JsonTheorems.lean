import Mathlib.Data.List.Induction
import Mathlib.Tactic.Ring
import ShipMotion.Utils.Json

/-!
# What is written is read

The text that the writer makes of the events of a value is parsed as that value. The writer's
separators depend on its levels, so that the text of a value is first given by recursion on the
value (`render`); the parser is shown to read that text, inside any text that may follow.
-/

namespace ShipMotion.Utils
namespace Json

variable {N M : Type}

/-! ## The text of a value -/

/-- What stands before the next element or member. -/
def comma (first : Bool) : Text := if first then [] else [',']

mutual

/-- The text of a value. -/
def render : Json Decimal → Text
  | .null => ['n', 'u', 'l', 'l']
  | .bool b => boolText b
  | .num n => n.text
  | .str s => quote s
  | .arr elems => '[' :: (renderElems true elems ++ [']'])
  | .obj members => '{' :: (renderMembers true members ++ ['}'])

def renderElems : Bool → List (Json Decimal) → Text
  | _, [] => []
  | first, v :: vs => comma first ++ (render v ++ renderElems false vs)

def renderMembers : Bool → List (Text × Json Decimal) → Text
  | _, [] => []
  | first, (k, v) :: ms => comma first ++ (quote k ++ ':' :: (render v ++ renderMembers false ms))

end

/-! ## The writer -/

/-- The separator in an array. -/
theorem separator_array (n : ℕ) (levels : List Level) :
    separator (⟨true, n⟩ :: levels) = comma (n = 0) := by
  by_cases h : n = 0 <;> simp [separator, comma, h]

/-- The separators of a member in an object. -/
theorem separator_key {n : ℕ} (hn : n % 2 = 0) (levels : List Level) :
    separator (⟨false, n⟩ :: levels) = comma (n = 0) := by
  by_cases h : n = 0 <;> simp [separator, comma, h, hn]

theorem separator_member {n : ℕ} (hn : n % 2 = 0) (levels : List Level) :
    separator (⟨false, n + 1⟩ :: levels) = [':'] := by
  have hodd : ¬ (n + 1) % 2 = 0 := by omega
  simp [separator, hodd]

mutual

/-- The events of a value are written as its text, and count as one value. -/
theorem writeFrom_events (v : Json Decimal) (levels : List Level) (es : List (Event Decimal)) :
    writeFrom levels (events v ++ es)
      = separator levels ++ (render v ++ writeFrom (counted levels) es) := by
  match v with
  | .null => rfl
  | .bool b => rfl
  | .num n => rfl
  | .str s => rfl
  | .arr elems =>
    rw [events, List.cons_append, List.append_assoc, writeFrom,
      writeFrom_eventsElems elems 0 (counted levels)]
    simp [writeFrom, render]
  | .obj members =>
    rw [events, List.cons_append, List.append_assoc, writeFrom,
      writeFrom_eventsMembers members (n := 0) rfl (counted levels)]
    simp [writeFrom, render]

theorem writeFrom_eventsElems (vs : List (Json Decimal)) (n : ℕ) (levels : List Level)
    (es : List (Event Decimal)) :
    writeFrom (⟨true, n⟩ :: levels) (eventsElems vs ++ es)
      = renderElems (n = 0) vs ++ writeFrom (⟨true, n + vs.length⟩ :: levels) es := by
  match vs with
  | [] => rfl
  | v :: vs =>
    rw [eventsElems, List.append_assoc, writeFrom_events v, separator_array, counted,
      writeFrom_eventsElems vs (n + 1), renderElems, List.length_cons]
    have hcount : n + 1 + vs.length = n + (vs.length + 1) := by omega
    simp [hcount]

theorem writeFrom_eventsMembers (ms : List (Text × Json Decimal)) {n : ℕ} (hn : n % 2 = 0)
    (levels : List Level) (es : List (Event Decimal)) :
    writeFrom (⟨false, n⟩ :: levels) (eventsMembers ms ++ es)
      = renderMembers (n = 0) ms ++ writeFrom (⟨false, n + 2 * ms.length⟩ :: levels) es := by
  match ms with
  | [] => rfl
  | (k, v) :: ms =>
    have hn' : (n + 2) % 2 = 0 := by omega
    rw [eventsMembers, List.cons_append, List.append_assoc, writeFrom, separator_key hn, counted,
      writeFrom_events v, separator_member hn, counted, writeFrom_eventsMembers ms hn',
      renderMembers, List.length_cons]
    have hcount : n + 2 + 2 * ms.length = n + 2 * (ms.length + 1) := by omega
    simp [hcount]

end

theorem write_events (v : Json Decimal) : write (events v) = render v := by
  have h := writeFrom_events v [] []
  rw [List.append_nil, writeFrom, List.append_nil] at h
  exact h

/-! ## Numbers -/

theorem digitChar_facts : ∀ d, d < 10 →
    (digitChar d).isDigit = true ∧ digitValue (digitChar d) = d := by decide

theorem length_digits (width n : ℕ) : (digits width n).length = width := by
  induction width generalizing n with
  | zero => rfl
  | succ width ih => rw [digits, List.length_append, ih, List.length_singleton]

theorem digits_isDigit {width n : ℕ} : ∀ c ∈ digits width n, c.isDigit = true := by
  induction width generalizing n with
  | zero => exact fun c hc => absurd hc List.not_mem_nil
  | succ width ih =>
    intro c hc
    rcases List.mem_append.mp hc with hc | hc
    · exact ih c hc
    · rw [List.mem_singleton.mp hc]
      exact (digitChar_facts _ (Nat.mod_lt n (by decide))).1

/-- Reading digits continues the number read so far. -/
theorem natValue_append (cs ds : Text) :
    natValue (cs ++ ds) = natValue cs * 10 ^ ds.length + natValue ds := by
  induction ds using List.reverseRecOn with
  | nil => simp [natValue]
  | append_singleton ds d ih =>
    have hsnoc : ∀ l : Text, natValue (l ++ [d]) = 10 * natValue l + digitValue d := by
      intro l
      rw [natValue, List.foldl_append]
      rfl
    rw [← List.append_assoc, hsnoc, hsnoc, ih, List.length_append, List.length_singleton, pow_succ]
    ring

theorem natValue_digits (width n : ℕ) : natValue (digits width n) = n % 10 ^ width := by
  induction width generalizing n with
  | zero => rw [pow_zero, Nat.mod_one]; rfl
  | succ width ih =>
    have hlast : natValue [digitChar (n % 10)] = n % 10 := by
      have h := (digitChar_facts _ (Nat.mod_lt n (by decide : 0 < 10))).2
      show 10 * 0 + digitValue (digitChar (n % 10)) = n % 10
      rw [h, Nat.mul_zero, Nat.zero_add]
    rw [digits, natValue_append, ih, hlast, List.length_singleton, pow_one, pow_succ',
      Nat.mod_mul]
    ring

theorem natValue_natDigits (n : ℕ) : natValue (natDigits n) = n := by
  rw [natDigits, natValue_digits]
  exact Nat.mod_eq_of_lt (Nat.lt_pow_succ_log_self (by decide) n)

/-- A text that does not continue a number. -/
def NumberEnds (r : Text) : Prop := ∀ c cs, r = c :: cs → c.isDigit = false ∧ c ≠ '.'

theorem spanDigits_append {ds r : Text} (hds : ∀ c ∈ ds, c.isDigit = true)
    (hr : ∀ c cs, r = c :: cs → c.isDigit = false) : spanDigits (ds ++ r) = (ds, r) := by
  have hnone : r.takeWhile (·.isDigit) = [] ∧ r.dropWhile (·.isDigit) = r := by
    cases r with
    | nil => exact ⟨rfl, rfl⟩
    | cons c cs =>
      have hc : ¬ c.isDigit = true := by rw [hr c cs rfl]; exact Bool.false_ne_true
      exact ⟨List.takeWhile_cons_of_neg hc, List.dropWhile_cons_of_neg hc⟩
  rw [spanDigits, List.takeWhile_append_of_pos hds, hnone.1, List.append_nil,
    List.dropWhile_append_of_pos hds, hnone.2]

theorem parseFraction_fraction (n scale : ℕ) {r : Text} (hr : NumberEnds r) :
    parseFraction (fraction n scale ++ r) = some (digits scale n, r) := by
  cases scale with
  | zero =>
    rw [fraction, List.nil_append, digits]
    cases r with
    | nil => rfl
    | cons c cs =>
      have hc := (hr c cs rfl).2
      rw [parseFraction]
      intro cs' h
      exact hc (List.cons.inj h).1
  | succ scale =>
    have hne : digits (scale + 1) n ≠ [] := by
      intro h
      have hlen := length_digits (scale + 1) n
      rw [h] at hlen
      cases hlen
    rw [fraction, List.cons_append, parseFraction,
      spanDigits_append digits_isDigit fun c cs h => (hr c cs h).1]
    simp [hne]

theorem parseUnsigned_text (n scale : ℕ) {r : Text} (hr : NumberEnds r) :
    parseUnsigned (natDigits (n / 10 ^ scale) ++ (fraction n scale ++ r)) = some ((n, scale), r) := by
  have hpoint : ∀ c cs, fraction n scale ++ r = c :: cs → c.isDigit = false := by
    intro c cs h
    cases scale with
    | zero => exact (hr c cs h).1
    | succ scale =>
      rw [fraction, List.cons_append, List.cons.injEq] at h
      rw [← h.1]
      rfl
  have hne : (natDigits (n / 10 ^ scale)).isEmpty = false := by
    rw [List.isEmpty_eq_false_iff]
    intro h
    have hlen := length_digits (Nat.log 10 (n / 10 ^ scale) + 1) (n / 10 ^ scale)
    rw [← natDigits, h] at hlen
    cases hlen
  have hvalue : natValue (natDigits (n / 10 ^ scale) ++ digits scale n) = n := by
    rw [natValue_append, natValue_natDigits, natValue_digits, length_digits]
    exact Nat.div_add_mod' n (10 ^ scale)
  rw [parseUnsigned, spanDigits_append (by exact digits_isDigit) hpoint]
  dsimp only
  rw [hne, if_neg Bool.false_ne_true, parseFraction_fraction n scale hr, Option.map_some]
  dsimp only
  rw [hvalue, length_digits]

/-- The text of a number is no sign. -/
theorem natDigits_cons (n : ℕ) : ∃ c cs, natDigits n = c :: cs ∧ c.isDigit = true := by
  have hlen := length_digits (Nat.log 10 n + 1) n
  cases h : natDigits n with
  | nil =>
    rw [← natDigits, h] at hlen
    cases hlen
  | cons c cs =>
    refine ⟨c, cs, rfl, ?_⟩
    have hmem : c ∈ digits (Nat.log 10 n + 1) n := by
      rw [← natDigits, h]
      exact List.mem_cons_self
    exact digits_isDigit c hmem

/-- Without a sign, a number is read as its digits say. -/
theorem parseNumber_of_isDigit {c : Char} {cs r : Text} {n scale : ℕ} (hc : c.isDigit = true)
    (h : parseUnsigned (c :: cs) = some ((n, scale), r)) :
    parseNumber (c :: cs) = some (⟨false, n, scale⟩, r) := by
  rw [parseNumber, h, Option.map_some]
  intro cs' heq
  rw [(List.cons.inj heq).1] at hc
  cases hc

theorem parseNumber_text (d : Decimal) {r : Text} (hr : NumberEnds r) :
    parseNumber (d.text ++ r) = some (d, r) := by
  obtain ⟨neg, mantissa, scale⟩ := d
  have hparse := parseUnsigned_text mantissa scale hr
  cases neg with
  | true =>
    rw [Decimal.text, if_pos rfl, List.append_assoc, List.append_assoc, List.singleton_append,
      parseNumber, hparse, Option.map_some]
  | false =>
    obtain ⟨c, cs, hcons, hdigit⟩ := natDigits_cons (mantissa / 10 ^ scale)
    rw [hcons, List.cons_append] at hparse
    rw [Decimal.text, if_neg Bool.false_ne_true, List.nil_append, List.append_assoc, hcons,
      List.cons_append, parseNumber_of_isDigit hdigit hparse]

/-! ## Strings -/

theorem hexValue_hexChar : ∀ d, d < 16 → hexValue (hexChar d) = some d := by decide

/-- What stands for a character inside a string: a letter after a backslash, a code, or the
character. -/
theorem escape_cases (c : Char) :
    (∃ e, escape c = ['\\', e] ∧ unescape e = some c ∧ e ≠ 'u' ∧ 32 ≤ e.toNat) ∨
    (c.toNat < 32 ∧ escape c
      = ['\\', 'u', '0', '0', hexChar (c.toNat / 16), hexChar (c.toNat % 16)]) ∨
    (escape c = [c] ∧ c ≠ '"' ∧ c ≠ '\\' ∧ 32 ≤ c.toNat) := by
  have hchar : ∀ n, c.toNat = n → c = Char.ofNat n := by
    rintro n rfl
    exact (Char.ofNat_toNat c).symm
  unfold escape
  split
  · subst_vars
    exact .inl ⟨_, rfl, rfl, by decide⟩
  split
  · subst_vars
    exact .inl ⟨_, rfl, rfl, by decide⟩
  split
  · rename_i h
    exact .inl ⟨_, rfl, congrArg some (hchar 8 h).symm, by decide⟩
  split
  · rename_i h
    exact .inl ⟨_, rfl, congrArg some (hchar 9 h).symm, by decide⟩
  split
  · rename_i h
    exact .inl ⟨_, rfl, congrArg some (hchar 10 h).symm, by decide⟩
  split
  · rename_i h
    exact .inl ⟨_, rfl, congrArg some (hchar 12 h).symm, by decide⟩
  split
  · rename_i h
    exact .inl ⟨_, rfl, congrArg some (hchar 13 h).symm, by decide⟩
  split
  · rename_i h
    exact .inr (.inl ⟨h, rfl⟩)
  · rename_i hquote hslash _ _ _ _ _ hprint
    exact .inr (.inr ⟨rfl, hquote, hslash, not_lt.mp hprint⟩)

theorem parseString_unescape {e c : Char} (he : unescape e = some c) (hu : e ≠ 'u') (cs : Text) :
    parseString ('\\' :: e :: cs) = (parseString cs).map fun (s, r) => (c :: s, r) := by
  rw [parseString, he]
  intro h3 h2 h1 h0 cs' heq
  exact absurd heq hu

theorem parseString_of_printable {c : Char} (hquote : c ≠ '"') (hslash : c ≠ '\\')
    (hprint : 32 ≤ c.toNat) (cs : Text) :
    parseString (c :: cs) = (parseString cs).map fun (s, r) => (c :: s, r) := by
  rw [parseString.eq_def]
  split
  · rename_i heq
    cases heq
  · rename_i heq
    exact absurd (List.cons.inj heq).1 hquote
  · rename_i heq
    exact absurd (List.cons.inj heq).1 hslash
  · rename_i heq
    exact absurd (List.cons.inj heq).1 hslash
  · rename_i heq
    rw [List.cons.injEq] at heq
    rw [← heq.1, ← heq.2, if_neg (not_lt.mpr hprint)]

/-- An escaped character is read as itself. -/
theorem parseString_escape (c : Char) (cs : Text) :
    parseString (escape c ++ cs) = (parseString cs).map fun (s, r) => (c :: s, r) := by
  rcases escape_cases c with ⟨e, hescape, he, hu, -⟩ | ⟨hlow, hescape⟩ |
      ⟨hescape, hquote, hslash, hprint⟩
  · rw [hescape]
    exact parseString_unescape he hu cs
  · have h1 := hexValue_hexChar (c.toNat / 16) (by omega)
    have h0 := hexValue_hexChar (c.toNat % 16) (by omega)
    have hzero : hexValue '0' = some 0 := rfl
    have hcode : 4096 * 0 + 256 * 0 + 16 * (c.toNat / 16) + c.toNat % 16 = c.toNat := by omega
    simp only [hescape, List.cons_append, List.nil_append, parseString, h1, h0, hzero, hcode,
      Char.ofNat_toNat]
  · rw [hescape]
    exact parseString_of_printable hquote hslash hprint cs

theorem parseString_quote (s cs : Text) :
    parseString (s.flatMap escape ++ '"' :: cs) = some (s, cs) := by
  induction s with
  | nil => rfl
  | cons c s ih =>
    rw [List.flatMap_cons, List.append_assoc, parseString_escape, ih]
    rfl

/-! ## Values -/

theorem numberEnds_cons {c : Char} {cs : Text} (hdigit : c.isDigit = false) (hpoint : c ≠ '.') :
    NumberEnds (c :: cs) := by
  intro d ds h
  rw [← (List.cons.inj h).1]
  exact ⟨hdigit, hpoint⟩

theorem numberEnds_nil : NumberEnds [] := fun c cs h => by cases h

/-- The characters that a value does not begin with, apart from those of the other values. -/
def isNumberHead (c : Char) : Prop := c = '-' ∨ c.isDigit = true

theorem Decimal.text_cons (d : Decimal) : ∃ c cs, d.text = c :: cs ∧ isNumberHead c := by
  by_cases hneg : d.neg = true
  · rw [Decimal.text, if_pos hneg]
    exact ⟨'-', _, rfl, .inl rfl⟩
  · obtain ⟨c, cs, hcons, hdigit⟩ := natDigits_cons (d.mantissa / 10 ^ d.scale)
    rw [Decimal.text, if_neg hneg, hcons]
    exact ⟨c, _, rfl, .inr hdigit⟩

theorem isNumberHead.ne {c d : Char} (h : isNumberHead c) (hminus : d ≠ '-')
    (hdigit : d.isDigit = false) : c ≠ d := by
  rintro rfl
  rcases h with h | h
  · exact hminus h
  · rw [h] at hdigit
    cases hdigit

/-- No value begins with a closing bracket. -/
theorem render_cons (v : Json Decimal) : ∃ c cs, render v = c :: cs ∧ c ≠ ']' := by
  cases v with
  | null => exact ⟨_, _, rfl, by decide⟩
  | bool b =>
    cases b
    · exact ⟨'f', _, rfl, by decide⟩
    · exact ⟨'t', _, rfl, by decide⟩
  | num d =>
    obtain ⟨c, cs, hcons, hhead⟩ := d.text_cons
    exact ⟨c, cs, hcons, hhead.ne (by decide) rfl⟩
  | str s => exact ⟨'"', _, rfl, by decide⟩
  | arr elems => exact ⟨'[', _, rfl, by decide⟩
  | obj members => exact ⟨'{', _, rfl, by decide⟩

theorem length_render_pos (v : Json Decimal) : 0 < (render v).length := by
  obtain ⟨c, cs, hcons, -⟩ := render_cons v
  rw [hcons]
  exact Nat.succ_pos _

/-- What follows an element or a member ends a number. -/
theorem numberEnds_elems (vs : List (Json Decimal)) (r : Text) :
    NumberEnds (renderElems false vs ++ ']' :: r) := by
  cases vs with
  | nil => exact numberEnds_cons rfl (by decide)
  | cons v vs => exact numberEnds_cons rfl (by decide)

theorem numberEnds_members (ms : List (Text × Json Decimal)) (r : Text) :
    NumberEnds (renderMembers false ms ++ '}' :: r) := by
  cases ms with
  | nil => exact numberEnds_cons rfl (by decide)
  | cons m ms => exact numberEnds_cons rfl (by decide)

/-- One element, after a comma unless it is the first. -/
theorem parseElems_cons {fuel : ℕ} {first : Bool} {c : Char} {cs r r' : Text} {v : Json Decimal}
    {vs : List (Json Decimal)} (hne : c ≠ ']') (hv : parseValue fuel (c :: cs) = some (v, r))
    (hvs : parseElems fuel false r = some (vs, r')) :
    parseElems (fuel + 1) first (comma first ++ c :: cs) = some (v :: vs, r') := by
  cases first with
  | true => simp [comma, parseElems, hne, hv, hvs]
  | false => simp [comma, parseElems, expect, hv, hvs]

/-- One member, after a comma unless it is the first. -/
theorem parseMembers_cons {fuel : ℕ} {first : Bool} {cs r r' r'' : Text} {k : Text}
    {v : Json Decimal} {ms : List (Text × Json Decimal)}
    (hk : parseString cs = some (k, ':' :: r)) (hv : parseValue fuel r = some (v, r'))
    (hms : parseMembers fuel false r' = some (ms, r'')) :
    parseMembers (fuel + 1) first (comma first ++ '"' :: cs) = some ((k, v) :: ms, r'') := by
  cases first with
  | true => simp [comma, parseMembers, expect, hk, hv, hms]
  | false => simp [comma, parseMembers, expect, hk, hv, hms]

mutual

/-- **Round trip.** With enough fuel the text of a value is read as that value, and what follows
is left. -/
theorem parseValue_render (v : Json Decimal) {fuel : ℕ} {r : Text}
    (hfuel : (render v).length ≤ fuel) (hr : NumberEnds r) :
    parseValue fuel (render v ++ r) = some (v, r) := by
  obtain ⟨fuel, rfl⟩ : ∃ n, fuel = n + 1 := by
    have hpos := length_render_pos v
    exact ⟨fuel - 1, by omega⟩
  match v with
  | .null => simp [render, parseValue, expect]
  | .bool true => simp [render, boolText, parseValue, expect]
  | .bool false => simp [render, boolText, parseValue, expect]
  | .num d =>
    obtain ⟨c, cs, hcons, hhead⟩ := d.text_cons
    have hnumber := parseNumber_text d hr
    rw [hcons, List.cons_append] at hnumber
    rw [render, hcons, List.cons_append, parseValue, if_neg (hhead.ne (by decide) rfl),
      if_neg (hhead.ne (by decide) rfl), if_neg (hhead.ne (by decide) rfl),
      if_neg (hhead.ne (by decide) rfl), if_neg (hhead.ne (by decide) rfl),
      if_neg (hhead.ne (by decide) rfl), hnumber]
    rfl
  | .str s =>
    rw [render, quote, List.cons_append, List.append_assoc, List.singleton_append, parseValue,
      if_pos rfl, parseString_quote]
    rfl
  | .arr elems =>
    rw [render, List.length_cons, List.length_append, List.length_singleton] at hfuel
    rw [render, List.cons_append, List.append_assoc, List.singleton_append, parseValue,
      if_neg (by decide), if_pos rfl, parseElems_render elems true (by omega)]
    rfl
  | .obj members =>
    rw [render, List.length_cons, List.length_append, List.length_singleton] at hfuel
    rw [render, List.cons_append, List.append_assoc, List.singleton_append, parseValue,
      if_neg (by decide), if_neg (by decide), if_pos rfl, parseMembers_render members true (by omega)]
    rfl

theorem parseElems_render (vs : List (Json Decimal)) (first : Bool) {fuel : ℕ} {r : Text}
    (hfuel : (renderElems first vs).length + 1 ≤ fuel) :
    parseElems fuel first (renderElems first vs ++ ']' :: r) = some (vs, r) := by
  obtain ⟨fuel, rfl⟩ : ∃ n, fuel = n + 1 := ⟨fuel - 1, by omega⟩
  match vs with
  | [] => simp [renderElems, parseElems]
  | v :: vs =>
    obtain ⟨c, cs, hcons, hne⟩ := render_cons v
    have hpos := length_render_pos v
    rw [renderElems, List.length_append, List.length_append] at hfuel
    have hfuelv : (render v).length ≤ fuel := by omega
    have hfuels : (renderElems false vs).length + 1 ≤ fuel := by omega
    have hvalue := parseValue_render v hfuelv (numberEnds_elems vs r)
    have helems := parseElems_render vs false (r := r) hfuels
    rw [hcons, List.cons_append] at hvalue
    rw [renderElems, List.append_assoc, List.append_assoc, hcons, List.cons_append]
    exact parseElems_cons hne hvalue helems

theorem parseMembers_render (ms : List (Text × Json Decimal)) (first : Bool) {fuel : ℕ} {r : Text}
    (hfuel : (renderMembers first ms).length + 1 ≤ fuel) :
    parseMembers fuel first (renderMembers first ms ++ '}' :: r) = some (ms, r) := by
  obtain ⟨fuel, rfl⟩ : ∃ n, fuel = n + 1 := ⟨fuel - 1, by omega⟩
  match ms with
  | [] => simp [renderMembers, parseMembers]
  | (k, v) :: ms =>
    rw [renderMembers, List.length_append, List.length_append, List.length_cons,
      List.length_append] at hfuel
    have hpos := length_render_pos v
    have hfuelv : (render v).length ≤ fuel := by omega
    have hfuels : (renderMembers false ms).length + 1 ≤ fuel := by omega
    have hvalue := parseValue_render v hfuelv (numberEnds_members ms r)
    have hmembers := parseMembers_render ms false (r := r) hfuels
    rw [renderMembers, quote]
    simp only [List.cons_append, List.append_assoc, List.nil_append]
    exact parseMembers_cons (parseString_quote k _) hvalue hmembers

end

/-- What the writer makes of the events of a value is parsed as that value. -/
theorem parse_write (v : Json Decimal) : parse (write (events v)) = some v := by
  have h := parseValue_render v le_rfl numberEnds_nil
  rw [List.append_nil] at h
  rw [write_events, parse, h]

/-! ## A walk with the numbers replaced -/

/-- The event of a value that is no array and no object. -/
def scalarEvent : Json N → Event N
  | .bool b => .bool b
  | .num n => .num n
  | .str s => .str s
  | _ => .null

/-- The value has no parts. -/
def IsScalar : Json N → Prop
  | .arr _ => False
  | .obj _ => False
  | _ => True

theorem events_of_isScalar {v : Json N} (h : IsScalar v) : events v = [scalarEvent v] := by
  cases v with
  | arr elems => exact h.elim
  | obj members => exact h.elim
  | _ => rfl

mutual

/-- Replacing each number on the walk is a walk through the value with its numbers replaced. -/
theorem map_replaceNum_events {f : N → Json M} (hf : ∀ n, IsScalar (f n)) (v : Json N) :
    (events v).map (replaceNum fun n => scalarEvent (f n)) = events (bindNum f v) := by
  match v with
  | .null => rfl
  | .bool b => rfl
  | .num n => rw [bindNum, events_of_isScalar (hf n)]; rfl
  | .str s => rfl
  | .arr elems =>
    rw [events, List.map_cons, List.map_append, map_replaceNum_eventsElems hf elems, bindNum,
      events]
    rfl
  | .obj members =>
    rw [events, List.map_cons, List.map_append, map_replaceNum_eventsMembers hf members, bindNum,
      events]
    rfl

theorem map_replaceNum_eventsElems {f : N → Json M} (hf : ∀ n, IsScalar (f n))
    (vs : List (Json N)) :
    (eventsElems vs).map (replaceNum fun n => scalarEvent (f n))
      = eventsElems (bindElems f vs) := by
  match vs with
  | [] => rfl
  | v :: vs =>
    rw [eventsElems, List.map_append, map_replaceNum_events hf v, map_replaceNum_eventsElems hf vs,
      bindElems, eventsElems]

theorem map_replaceNum_eventsMembers {f : N → Json M} (hf : ∀ n, IsScalar (f n))
    (ms : List (Text × Json N)) :
    (eventsMembers ms).map (replaceNum fun n => scalarEvent (f n))
      = eventsMembers (bindMembers f ms) := by
  match ms with
  | [] => rfl
  | (k, v) :: ms =>
    rw [eventsMembers, List.map_cons, List.map_append, map_replaceNum_events hf v,
      map_replaceNum_eventsMembers hf ms, bindMembers, eventsMembers]
    rfl

end

/-! ## Printable text -/

/-- No control character stands in the text. -/
def Printable (t : Text) : Prop := ∀ c ∈ t, 32 ≤ c.toNat

theorem printable_append {s t : Text} : Printable (s ++ t) ↔ Printable s ∧ Printable t :=
  List.forall_mem_append

theorem printable_cons {c : Char} {t : Text} : Printable (c :: t) ↔ 32 ≤ c.toNat ∧ Printable t :=
  List.forall_mem_cons

theorem printable_nil : Printable [] := List.forall_mem_nil _

theorem printable_of_all {t : Text} (h : t.all (fun c => 32 ≤ c.toNat) = true) : Printable t := by
  simpa [Printable] using h

theorem printable_of_isDigit {t : Text} (h : ∀ c ∈ t, c.isDigit = true) : Printable t := by
  intro c hc
  have hdigit := h c hc
  simp only [Char.isDigit, Bool.and_eq_true, decide_eq_true_eq] at hdigit
  have hlow : (48 : ℕ) ≤ c.toNat := hdigit.1
  omega

theorem printable_text (d : Decimal) : Printable d.text := by
  have hfraction : Printable (fraction d.mantissa d.scale) := by
    cases hscale : d.scale with
    | zero => exact printable_nil
    | succ scale => exact printable_cons.mpr ⟨by decide, printable_of_isDigit digits_isDigit⟩
  have hsign : Printable (if d.neg then ['-'] else []) := by
    by_cases h : d.neg = true
    · rw [if_pos h]
      exact printable_cons.mpr ⟨by decide, printable_nil⟩
    · rw [if_neg h]
      exact printable_nil
  exact printable_append.mpr
    ⟨printable_append.mpr ⟨hsign, printable_of_isDigit digits_isDigit⟩, hfraction⟩

theorem printable_hexChar : ∀ d, d < 16 → 32 ≤ (hexChar d).toNat := by decide

theorem printable_escape (c : Char) : Printable (escape c) := by
  rcases escape_cases c with ⟨e, hescape, -, -, he⟩ | ⟨hlow, hescape⟩ | ⟨hescape, -, -, hprint⟩
  · simp [hescape, Printable, he]
  · have h1 := printable_hexChar (c.toNat / 16) (by omega)
    have h0 := printable_hexChar (c.toNat % 16) (by omega)
    simp [hescape, Printable, h1, h0]
  · simp [hescape, Printable, hprint]

theorem printable_quote (s : Text) : Printable (quote s) := by
  have hbody : Printable (s.flatMap escape) := by
    intro c hc
    obtain ⟨a, -, ha⟩ := List.mem_flatMap.mp hc
    exact printable_escape a c ha
  exact printable_cons.mpr ⟨by decide,
    printable_append.mpr ⟨hbody, printable_cons.mpr ⟨by decide, printable_nil⟩⟩⟩

theorem printable_comma (first : Bool) : Printable (comma first) := by
  cases first with
  | true => exact printable_nil
  | false => exact printable_cons.mpr ⟨by decide, printable_nil⟩

mutual

theorem printable_render (v : Json Decimal) : Printable (render v) := by
  match v with
  | .null => exact printable_of_all rfl
  | .bool true => exact printable_of_all rfl
  | .bool false => exact printable_of_all rfl
  | .num n => exact printable_text n
  | .str s => exact printable_quote s
  | .arr elems =>
    rw [render, printable_cons, printable_append]
    exact ⟨by decide, printable_renderElems true elems, printable_cons.mpr ⟨by decide, printable_nil⟩⟩
  | .obj members =>
    rw [render, printable_cons, printable_append]
    exact ⟨by decide, printable_renderMembers true members,
      printable_cons.mpr ⟨by decide, printable_nil⟩⟩

theorem printable_renderElems (first : Bool) (vs : List (Json Decimal)) :
    Printable (renderElems first vs) := by
  match vs with
  | [] => exact printable_nil
  | v :: vs =>
    rw [renderElems, printable_append, printable_append]
    exact ⟨printable_comma first, printable_render v, printable_renderElems false vs⟩

theorem printable_renderMembers (first : Bool) (ms : List (Text × Json Decimal)) :
    Printable (renderMembers first ms) := by
  match ms with
  | [] => exact printable_nil
  | (k, v) :: ms =>
    rw [renderMembers, printable_append, printable_append, printable_cons, printable_append]
    exact ⟨printable_comma first, printable_quote k, by decide, printable_render v,
      printable_renderMembers false ms⟩

end

/-- The text of a value has no control character: they are written by their escapes. -/
theorem printable_write (v : Json Decimal) : Printable (write (events v)) := by
  rw [write_events]
  exact printable_render v

end Json
end ShipMotion.Utils
