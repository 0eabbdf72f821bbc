import Mathlib.Algebra.Field.Defs
import Mathlib.Algebra.Group.Basic
import Mathlib.Algebra.Ring.Nat
import Mathlib.Data.Nat.Log

/-!
# JSON

Values, the events of a walk through a value, a writer of events and a parser of the text. The
writer keeps one level for each open array or object, and puts a comma or a colon before a
value by the number of values the level has so far. Text is compact: no white space, numbers
without exponent. A character is a code unit of the text, a byte or a code point.
-/

namespace ShipMotion.Utils

/-- A value, with numbers of the type `N`. -/
inductive Json (N : Type) where
  | null
  | bool (b : Bool)
  | num (n : N)
  | str (s : List Char)
  | arr (elems : List (Json N))
  | obj (members : List (List Char × Json N))

namespace Json

abbrev Text : Type := List Char

/-- What a walk through a value calls. -/
inductive Event (N : Type) where
  | null
  | bool (b : Bool)
  | num (n : N)
  | str (s : Text)
  | key (s : Text)
  | startObject
  | endObject
  | startArray
  | endArray

variable {N M : Type}

/-- The first member of an object with the given key. -/
def get? (k : Text) : Json N → Option (Json N)
  | .obj members => (members.find? fun m => m.1 = k).map (·.2)
  | _ => none

mutual

/-- The events of a walk through a value. -/
def events : Json N → List (Event N)
  | .null => [.null]
  | .bool b => [.bool b]
  | .num n => [.num n]
  | .str s => [.str s]
  | .arr elems => .startArray :: (eventsElems elems ++ [.endArray])
  | .obj members => .startObject :: (eventsMembers members ++ [.endObject])

def eventsElems : List (Json N) → List (Event N)
  | [] => []
  | v :: vs => events v ++ eventsElems vs

def eventsMembers : List (Text × Json N) → List (Event N)
  | [] => []
  | (k, v) :: ms => .key k :: (events v ++ eventsMembers ms)

end

/-- A handler that forwards every event but a number, which it replaces. -/
def replaceNum (f : N → Event M) : Event N → Event M
  | .null => .null
  | .bool b => .bool b
  | .num n => f n
  | .str s => .str s
  | .key s => .key s
  | .startObject => .startObject
  | .endObject => .endObject
  | .startArray => .startArray
  | .endArray => .endArray

mutual

/-- The value with each number replaced by a value. -/
def bindNum (f : N → Json M) : Json N → Json M
  | .null => .null
  | .bool b => .bool b
  | .num n => f n
  | .str s => .str s
  | .arr elems => .arr (bindElems f elems)
  | .obj members => .obj (bindMembers f members)

def bindElems (f : N → Json M) : List (Json N) → List (Json M)
  | [] => []
  | v :: vs => bindNum f v :: bindElems f vs

def bindMembers (f : N → Json M) : List (Text × Json N) → List (Text × Json M)
  | [] => []
  | (k, v) :: ms => (k, bindNum f v) :: bindMembers f ms

end

/-! ## Numbers -/

/-- The number `mantissa / 10 ^ scale` with its sign, written with `scale` digits after the point.
Zero has a sign too. -/
structure Decimal where
  neg : Bool
  mantissa : ℕ
  scale : ℕ
  deriving DecidableEq

def Decimal.value {K : Type} [Field K] (d : Decimal) : K :=
  (if d.neg then -(d.mantissa : K) else d.mantissa) / ((10 ^ d.scale : ℕ) : K)

def digitChar (d : ℕ) : Char := Char.ofNat (48 + d)

def digitValue (c : Char) : ℕ := c.toNat - 48

/-- The last `width` digits of a number, the highest first. -/
def digits : ℕ → ℕ → Text
  | 0, _ => []
  | width + 1, n => digits width (n / 10) ++ [digitChar (n % 10)]

/-- All digits of a number. -/
def natDigits (n : ℕ) : Text := digits (Nat.log 10 n + 1) n

def fraction (n : ℕ) : ℕ → Text
  | 0 => []
  | scale + 1 => '.' :: digits (scale + 1) n

def Decimal.text (d : Decimal) : Text :=
  (if d.neg then ['-'] else [])
    ++ natDigits (d.mantissa / 10 ^ d.scale) ++ fraction d.mantissa d.scale

/-! ## The writer -/

def hexChar (d : ℕ) : Char := if d < 10 then Char.ofNat (48 + d) else Char.ofNat (55 + d)

/-- A character inside a string. -/
def escape (c : Char) : Text :=
  if c = '"' then ['\\', '"']
  else if c = '\\' then ['\\', '\\']
  else if c.toNat = 8 then ['\\', 'b']
  else if c.toNat = 9 then ['\\', 't']
  else if c.toNat = 10 then ['\\', 'n']
  else if c.toNat = 12 then ['\\', 'f']
  else if c.toNat = 13 then ['\\', 'r']
  else if c.toNat < 32 then ['\\', 'u', '0', '0', hexChar (c.toNat / 16), hexChar (c.toNat % 16)]
  else [c]

def quote (s : Text) : Text := '"' :: (s.flatMap escape ++ ['"'])

/-- An open array or object, and how many values it has so far; keys count as values. -/
structure Level where
  inArray : Bool
  valueCount : ℕ

/-- What is put before a value. -/
def separator : List Level → Text
  | [] => []
  | level :: _ =>
    if level.valueCount = 0 then []
    else if level.inArray || level.valueCount % 2 = 0 then [',']
    else [':']

/-- One more value in the innermost level. -/
def counted : List Level → List Level
  | [] => []
  | level :: levels => { level with valueCount := level.valueCount + 1 } :: levels

def boolText (b : Bool) : Text := if b then ['t', 'r', 'u', 'e'] else ['f', 'a', 'l', 's', 'e']

/-- The text of a list of events inside the given levels. -/
def writeFrom : List Level → List (Event Decimal) → Text
  | _, [] => []
  | levels, .null :: es => separator levels ++ (['n', 'u', 'l', 'l'] ++ writeFrom (counted levels) es)
  | levels, .bool b :: es => separator levels ++ (boolText b ++ writeFrom (counted levels) es)
  | levels, .num n :: es => separator levels ++ (n.text ++ writeFrom (counted levels) es)
  | levels, .str s :: es => separator levels ++ (quote s ++ writeFrom (counted levels) es)
  | levels, .key s :: es => separator levels ++ (quote s ++ writeFrom (counted levels) es)
  | levels, .startObject :: es =>
    separator levels ++ '{' :: writeFrom (⟨false, 0⟩ :: counted levels) es
  | levels, .startArray :: es =>
    separator levels ++ '[' :: writeFrom (⟨true, 0⟩ :: counted levels) es
  | levels, .endObject :: es => '}' :: writeFrom levels.tail es
  | levels, .endArray :: es => ']' :: writeFrom levels.tail es

def write (es : List (Event Decimal)) : Text := writeFrom [] es

/-! ## The parser -/

/-- The rest of the text after the character `c`. -/
def expect (c : Char) : Text → Option Text
  | [] => none
  | d :: cs => if d = c then some cs else none

/-- The digits at the head of a text, and the rest. -/
def spanDigits (cs : Text) : Text × Text := (cs.takeWhile (·.isDigit), cs.dropWhile (·.isDigit))

def natValue (cs : Text) : ℕ := cs.foldl (fun n c => 10 * n + digitValue c) 0

/-- The digits after the point, if there is one. -/
def parseFraction : Text → Option (Text × Text)
  | '.' :: cs => let (ds, r) := spanDigits cs; if ds.isEmpty then none else some (ds, r)
  | cs => some ([], cs)

def parseUnsigned (cs : Text) : Option ((ℕ × ℕ) × Text) :=
  let (whole, cs) := spanDigits cs
  if whole.isEmpty then none
  else (parseFraction cs).map fun (frac, r) => ((natValue (whole ++ frac), frac.length), r)

def parseNumber : Text → Option (Decimal × Text)
  | '-' :: cs => (parseUnsigned cs).map fun ((n, scale), r) => (⟨true, n, scale⟩, r)
  | cs => (parseUnsigned cs).map fun ((n, scale), r) => (⟨false, n, scale⟩, r)

def hexValue (c : Char) : Option ℕ :=
  if 48 ≤ c.toNat ∧ c.toNat ≤ 57 then some (c.toNat - 48)
  else if 65 ≤ c.toNat ∧ c.toNat ≤ 70 then some (c.toNat - 55)
  else if 97 ≤ c.toNat ∧ c.toNat ≤ 102 then some (c.toNat - 87)
  else none

/-- The character that a letter after a backslash stands for. -/
def unescape (e : Char) : Option Char :=
  if e = '"' ∨ e = '\\' ∨ e = '/' then some e
  else if e = 'b' then some (Char.ofNat 8)
  else if e = 't' then some (Char.ofNat 9)
  else if e = 'n' then some (Char.ofNat 10)
  else if e = 'f' then some (Char.ofNat 12)
  else if e = 'r' then some (Char.ofNat 13)
  else none

/-- The rest of a string after its opening quote, and the text after the closing one. -/
def parseString : Text → Option (Text × Text)
  | [] => none
  | '"' :: cs => some ([], cs)
  | '\\' :: 'u' :: h3 :: h2 :: h1 :: h0 :: cs =>
    match hexValue h3, hexValue h2, hexValue h1, hexValue h0 with
    | some d3, some d2, some d1, some d0 =>
      (parseString cs).map fun (s, r) =>
        (Char.ofNat (4096 * d3 + 256 * d2 + 16 * d1 + d0) :: s, r)
    | _, _, _, _ => none
  | '\\' :: e :: cs =>
    match unescape e with
    | some c => (parseString cs).map fun (s, r) => (c :: s, r)
    | none => none
  | c :: cs => if c.toNat < 32 then none else (parseString cs).map fun (s, r) => (c :: s, r)

mutual

/-- A value at the head of a text, and the rest. The fuel is the length of the text. -/
def parseValue : ℕ → Text → Option (Json Decimal × Text)
  | 0, _ => none
  | _ + 1, [] => none
  | fuel + 1, c :: cs =>
    if c = '"' then (parseString cs).map fun (s, r) => (.str s, r)
    else if c = '[' then (parseElems fuel true cs).map fun (vs, r) => (.arr vs, r)
    else if c = '{' then (parseMembers fuel true cs).map fun (ms, r) => (.obj ms, r)
    else if c = 'n' then
      ((expect 'u' cs).bind (expect 'l')).bind (expect 'l') |>.map fun r => (.null, r)
    else if c = 't' then
      ((expect 'r' cs).bind (expect 'u')).bind (expect 'e') |>.map fun r => (.bool true, r)
    else if c = 'f' then
      (((expect 'a' cs).bind (expect 'l')).bind (expect 's')).bind (expect 'e')
        |>.map fun r => (.bool false, r)
    else (parseNumber (c :: cs)).map fun (n, r) => (.num n, r)

/-- The elements up to the closing bracket; all but the first follow a comma. -/
def parseElems : ℕ → Bool → Text → Option (List (Json Decimal) × Text)
  | 0, _, _ => none
  | _ + 1, _, [] => none
  | fuel + 1, first, c :: cs =>
    if c = ']' then some ([], cs)
    else
      (if first then some (c :: cs) else expect ',' (c :: cs)).bind fun cs =>
        (parseValue fuel cs).bind fun (v, r) =>
          (parseElems fuel false r).map fun (vs, r) => (v :: vs, r)

/-- The members up to the closing brace. -/
def parseMembers : ℕ → Bool → Text → Option (List (Text × Json Decimal) × Text)
  | 0, _, _ => none
  | _ + 1, _, [] => none
  | fuel + 1, first, c :: cs =>
    if c = '}' then some ([], cs)
    else
      ((if first then some (c :: cs) else expect ',' (c :: cs)).bind (expect '"')).bind fun cs =>
        (parseString cs).bind fun (k, r) =>
          (expect ':' r).bind fun r =>
            (parseValue fuel r).bind fun (v, r) =>
              (parseMembers fuel false r).map fun (ms, r) => ((k, v) :: ms, r)

end

/-- The value that a whole text is. -/
def parse (cs : Text) : Option (Json Decimal) :=
  match parseValue cs.length cs with
  | some (v, []) => some v
  | _ => none

end Json
end ShipMotion.Utils
