import ShipMotion.Utils.JsonTheorems

/-!
# Indented JSON

The text of a value over several lines, one element or member a line and deeper ones further in,
and a reader that passes over the white space outside strings before it parses. Below 32 a
character is escaped with small letters here, unlike in the compact writer, so that the round trip
speaks of strings without such characters.
-/

namespace ShipMotion.Utils
namespace Json

/-! ## The writer -/

def lowerHexChar (d : ℕ) : Char := if d < 10 then Char.ofNat (48 + d) else Char.ofNat (87 + d)

/-- A character inside a string. -/
def dumpEscaped (c : Char) : Text :=
  if c.toNat = 8 then ['\\', 'b']
  else if c.toNat = 9 then ['\\', 't']
  else if c.toNat = 10 then ['\\', 'n']
  else if c.toNat = 12 then ['\\', 'f']
  else if c.toNat = 13 then ['\\', 'r']
  else if c = '"' then ['\\', '"']
  else if c = '\\' then ['\\', '\\']
  else if c.toNat ≤ 31 then
    ['\\', 'u', '0', '0', lowerHexChar (c.toNat / 16), lowerHexChar (c.toNat % 16)]
  else [c]

def dumpString (s : Text) : Text := '"' :: (s.flatMap dumpEscaped ++ ['"'])

def indentString (n : ℕ) : Text := List.replicate n ' '

/-- What ends the line of the element or member before. -/
def newline (first : Bool) : Text := if first then [] else [',', '\n']

mutual

/-- The text of a value whose lines are `current_indent` further in, deeper ones by `indent_step`
more each. -/
def dump (indent_step current_indent : ℕ) : Json Decimal → Text
  | .null => ['n', 'u', 'l', 'l']
  | .bool b => boolText b
  | .num n => n.text
  | .str s => dumpString s
  | .arr [] => ['[', ']']
  | .arr (v :: vs) =>
    '[' :: '\n' :: (dumpElems indent_step (current_indent + indent_step) true (v :: vs)
      ++ '\n' :: (indentString current_indent ++ [']']))
  | .obj [] => ['{', '}']
  | .obj (m :: ms) =>
    '{' :: '\n' :: (dumpMembers indent_step (current_indent + indent_step) true (m :: ms)
      ++ '\n' :: (indentString current_indent ++ ['}']))

def dumpElems (indent_step new_indent : ℕ) : Bool → List (Json Decimal) → Text
  | _, [] => []
  | first, v :: vs =>
    newline first ++ (indentString new_indent
      ++ (dump indent_step new_indent v ++ dumpElems indent_step new_indent false vs))

def dumpMembers (indent_step new_indent : ℕ) : Bool → List (Text × Json Decimal) → Text
  | _, [] => []
  | first, (k, v) :: ms =>
    newline first ++ (indentString new_indent ++ (dumpString k ++ ':' :: ' ' ::
      (dump indent_step new_indent v ++ dumpMembers indent_step new_indent false ms)))

end

/-! ## The reader -/

/-- Where a reader stands in a text. -/
inductive Place where
  | outside
  | inString
  | escaped

def isWhiteSpace (c : Char) : Bool := c = ' ' || c = '\n' || c = '\t' || c = '\r'

/-- The text without the white space outside its strings. -/
def compact : Place → Text → Text
  | _, [] => []
  | .outside, c :: cs =>
    if isWhiteSpace c then compact .outside cs
    else if c = '"' then c :: compact .inString cs
    else c :: compact .outside cs
  | .inString, c :: cs =>
    if c = '"' then c :: compact .outside cs
    else if c = '\\' then c :: compact .escaped cs
    else c :: compact .inString cs
  | .escaped, c :: cs => c :: compact .inString cs

/-- The value that a whole text with white space is. -/
def parseSpaced (cs : Text) : Option (Json Decimal) := parse (compact .outside cs)

/-! ## What is dumped is read -/

/-- A text without white space and quotes. -/
def Solid (t : Text) : Prop := ∀ c ∈ t, isWhiteSpace c = false ∧ c ≠ '"'

theorem compact_solid {t : Text} (ht : Solid t) (r : Text) :
    compact .outside (t ++ r) = t ++ compact .outside r := by
  induction t with
  | nil => rfl
  | cons c t ih =>
    obtain ⟨hspace, hquote⟩ := ht c List.mem_cons_self
    rw [List.cons_append, compact, hspace, if_neg Bool.false_ne_true, if_neg hquote,
      ih fun d hd => ht d (List.mem_cons_of_mem c hd), List.cons_append]

theorem compact_indentString (n : ℕ) (r : Text) :
    compact .outside (indentString n ++ r) = compact .outside r := by
  induction n with
  | zero => rfl
  | succ n ih =>
    show compact .outside (indentString n ++ r) = _
    exact ih

theorem compact_newline (first : Bool) (r : Text) :
    compact .outside (newline first ++ r) = comma first ++ compact .outside r := by
  cases first
  · rfl
  · rfl

theorem compact_plain {c : Char} (hquote : c ≠ '"') (hslash : c ≠ '\\') (r : Text) :
    compact .inString (c :: r) = c :: compact .inString r := by
  rw [compact, if_neg hquote, if_neg hslash]

/-- An escape is taken over as it is. -/
theorem compact_escape (c : Char) (r : Text) :
    compact .inString (escape c ++ r) = escape c ++ compact .inString r := by
  have hhex : ∀ d, d < 16 → hexChar d ≠ '"' ∧ hexChar d ≠ '\\' := by decide
  rcases escape_cases c with ⟨e, hescape, _⟩ | ⟨hlow, hescape⟩ | ⟨hescape, hquote, hslash, _⟩
  · rw [hescape]
    rfl
  · obtain ⟨hquote1, hslash1⟩ := hhex (c.toNat / 16) (by omega)
    obtain ⟨hquote0, hslash0⟩ := hhex (c.toNat % 16) (by omega)
    rw [hescape]
    show '\\' :: 'u' :: compact .inString ('0' :: '0' :: _ :: _ :: r) = _
    rw [compact_plain (by decide) (by decide), compact_plain (by decide) (by decide),
      compact_plain hquote1 hslash1, compact_plain hquote0 hslash0]
    rfl
  · rw [hescape]
    exact compact_plain hquote hslash r

theorem compact_quote (s r : Text) :
    compact .outside (quote s ++ r) = quote s ++ compact .outside r := by
  have hbody : compact .inString (s.flatMap escape ++ '"' :: r)
      = s.flatMap escape ++ '"' :: compact .outside r := by
    induction s with
    | nil => rfl
    | cons c s ih =>
      rw [List.flatMap_cons, List.append_assoc, compact_escape, ih, List.append_assoc]
  show '"' :: compact .inString (s.flatMap escape ++ ['"'] ++ r) = _
  rw [List.append_assoc, List.singleton_append, hbody, quote, List.cons_append, List.append_assoc,
    List.singleton_append]

theorem dumpEscaped_eq_escape {c : Char} (hc : 32 ≤ c.toNat) : dumpEscaped c = escape c := by
  have h8 : c.toNat ≠ 8 := by omega
  have h9 : c.toNat ≠ 9 := by omega
  have h10 : c.toNat ≠ 10 := by omega
  have h12 : c.toNat ≠ 12 := by omega
  have h13 : c.toNat ≠ 13 := by omega
  have h31 : ¬ c.toNat ≤ 31 := by omega
  have h32 : ¬ c.toNat < 32 := by omega
  simp [dumpEscaped, escape, h8, h9, h10, h12, h13, h31, h32]

theorem dumpString_eq_quote {s : Text} (hs : Printable s) : dumpString s = quote s := by
  have hbody : s.flatMap dumpEscaped = s.flatMap escape := by
    induction s with
    | nil => rfl
    | cons c s ih =>
      obtain ⟨hc, hs⟩ := printable_cons.mp hs
      rw [List.flatMap_cons, List.flatMap_cons, dumpEscaped_eq_escape hc, ih hs]
  rw [dumpString, quote, hbody]

mutual

/-- The strings and keys of a value have no control characters. -/
def PrintableStrings : Json Decimal → Prop
  | .str s => Printable s
  | .arr elems => PrintableElems elems
  | .obj members => PrintableMembers members
  | _ => True

def PrintableElems : List (Json Decimal) → Prop
  | [] => True
  | v :: vs => PrintableStrings v ∧ PrintableElems vs

def PrintableMembers : List (Text × Json Decimal) → Prop
  | [] => True
  | (k, v) :: ms => Printable k ∧ PrintableStrings v ∧ PrintableMembers ms

end

theorem solid_of_all {t : Text} (h : t.all (fun c => !isWhiteSpace c && c ≠ '"') = true) :
    Solid t := by
  intro c hc
  have hall := List.all_eq_true.mp h c hc
  simp only [Bool.and_eq_true, Bool.not_eq_true', decide_eq_true_eq] at hall
  exact hall

theorem solid_of_isDigit {t : Text} (h : ∀ c ∈ t, c.isDigit = true) : Solid t := by
  intro c hc
  have hdigit := h c hc
  constructor
  · by_contra hspace
    rw [Bool.not_eq_false] at hspace
    simp only [isWhiteSpace, Bool.or_eq_true, decide_eq_true_eq] at hspace
    rcases hspace with ((rfl | rfl) | rfl) | rfl <;> cases hdigit
  · rintro rfl
    cases hdigit

theorem solid_append {s t : Text} (hs : Solid s) (ht : Solid t) : Solid (s ++ t) :=
  List.forall_mem_append.mpr ⟨hs, ht⟩

theorem solid_text (d : Decimal) : Solid d.text := by
  have hsign : Solid (if d.neg then ['-'] else []) := by
    split
    · exact solid_of_all rfl
    · exact solid_of_all rfl
  have hfraction : Solid (fraction d.mantissa d.scale) := by
    cases d.scale with
    | zero => exact solid_of_all rfl
    | succ scale =>
      exact List.forall_mem_cons.mpr ⟨by decide, solid_of_isDigit digits_isDigit⟩
  exact solid_append (solid_append hsign (solid_of_isDigit digits_isDigit)) hfraction

mutual

/-- Without its white space a dumped value is the compact text of the value. -/
theorem compact_dump (v : Json Decimal) (hv : PrintableStrings v) (step indent : ℕ) (r : Text) :
    compact .outside (dump step indent v ++ r) = render v ++ compact .outside r := by
  match v with
  | .null => rfl
  | .bool b =>
    cases b
    · rfl
    · rfl
  | .num n => exact compact_solid (solid_text n) r
  | .str s =>
    rw [dump, dumpString_eq_quote hv]
    exact compact_quote s r
  | .arr [] => rfl
  | .arr (v :: vs) =>
    have helems := compact_dumpElems (v :: vs) hv step (indent + step) true
      ('\n' :: (indentString indent ++ ']' :: r))
    rw [dump, render]
    simp only [List.cons_append, List.append_assoc, List.nil_append]
    show '[' :: compact .outside (dumpElems _ _ _ _ ++ _) = _
    rw [helems]
    show '[' :: (_ ++ compact .outside (indentString indent ++ _)) = _
    rw [compact_indentString]
    rfl
  | .obj [] => rfl
  | .obj (m :: ms) =>
    have hmembers := compact_dumpMembers (m :: ms) hv step (indent + step) true
      ('\n' :: (indentString indent ++ '}' :: r))
    rw [dump, render]
    simp only [List.cons_append, List.append_assoc, List.nil_append]
    show '{' :: compact .outside (dumpMembers _ _ _ _ ++ _) = _
    rw [hmembers]
    show '{' :: (_ ++ compact .outside (indentString indent ++ _)) = _
    rw [compact_indentString]
    rfl

theorem compact_dumpElems (vs : List (Json Decimal)) (hvs : PrintableElems vs) (step indent : ℕ)
    (first : Bool) (r : Text) :
    compact .outside (dumpElems step indent first vs ++ r)
      = renderElems first vs ++ compact .outside r := by
  match vs with
  | [] => rfl
  | v :: vs =>
    rw [dumpElems, renderElems]
    simp only [List.append_assoc]
    rw [compact_newline, compact_indentString, compact_dump v hvs.1,
      compact_dumpElems vs hvs.2]

theorem compact_dumpMembers (ms : List (Text × Json Decimal)) (hms : PrintableMembers ms)
    (step indent : ℕ) (first : Bool) (r : Text) :
    compact .outside (dumpMembers step indent first ms ++ r)
      = renderMembers first ms ++ compact .outside r := by
  match ms with
  | [] => rfl
  | (k, v) :: ms =>
    obtain ⟨hk, hv, hms⟩ := hms
    rw [dumpMembers, renderMembers, dumpString_eq_quote hk]
    simp only [List.append_assoc, List.cons_append]
    rw [compact_newline, compact_indentString, compact_quote]
    show _ ++ (_ ++ ':' :: compact .outside (dump _ _ v ++ _)) = _
    rw [compact_dump v hv, compact_dumpMembers ms hms]

end

/-- What is dumped is read. -/
theorem parseSpaced_dump {v : Json Decimal} (hv : PrintableStrings v) (step : ℕ) :
    parseSpaced (dump step 0 v) = some v := by
  have hcompact := compact_dump v hv step 0 []
  rw [List.append_nil, compact, List.append_nil] at hcompact
  rw [parseSpaced, hcompact, ← write_events, parse_write]

end Json
end ShipMotion.Utils
