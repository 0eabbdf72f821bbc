import Mathlib.Data.List.Basic

/-!
# Comma-separated values

A reader of RFC 4180 files. Records are separated by CR LF, with or without one after the last
record; fields by commas. A field that starts with a quote goes on to the next quote that is not
doubled, and must end there; another field has no quotes and no line breaks. Everything else that
is not a quote, a comma, CR or LF is text. A file outside the grammar is refused.
-/

namespace ShipMotion.Utils
namespace Csv

abbrev Text : Type := List Char

/-- Where the reader stands: at the start of a field, in a field without quotes, between the
quotes of a field, or after a quote that may have closed it. -/
inductive Mode where
  | start
  | plain
  | quoted
  | closed
  deriving DecidableEq

/-- Put a character before the first field of the first record. -/
def pushChar (c : Char) : List (List Text) → List (List Text)
  | (field :: fields) :: records => ((c :: field) :: fields) :: records
  | records => records

/-- Put an empty field before the first record. -/
def newField : List (List Text) → List (List Text)
  | record :: records => ([] :: record) :: records
  | [] => []

/-- One record with one empty field: what is read at the end of the text. -/
def lastRecord : List (List Text) := [[[]]]

/-- The records of the rest of a text; the first field of the first one is the rest of the field
that the reader is in. -/
def readFrom : Mode → Text → Option (List (List Text))
  | .quoted, [] => none
  | _, [] => some lastRecord
  | .quoted, c :: cs =>
    if c = '"' then readFrom .closed cs else (readFrom .quoted cs).map (pushChar c)
  | .start, '"' :: cs => readFrom .quoted cs
  | .closed, '"' :: cs => (readFrom .quoted cs).map (pushChar '"')
  | .plain, '"' :: _ => none
  | _, ',' :: cs => (readFrom .start cs).map newField
  | _, ['\r', '\n'] => some lastRecord
  | _, '\r' :: '\n' :: cs => (readFrom .start cs).map ([[]] :: ·)
  | .closed, _ :: _ => none
  | _, c :: cs =>
    if c = '\r' ∨ c = '\n' then none else (readFrom .plain cs).map (pushChar c)

/-- The records of a file. -/
def read (cs : Text) : Option (List (List Text)) := readFrom .start cs

/-- A text with every quote doubled. -/
def doubleQuotes (s : Text) : Text := s.flatMap fun c => if c = '"' then ['"', '"'] else [c]

/-- A field between quotes. -/
def quoteField (s : Text) : Text := '"' :: (doubleQuotes s ++ ['"'])

/-- A record, without a line break at its end. -/
def row (fields : List Text) : Text := List.intercalate [','] fields

/-! ## Reading quoted fields -/

/-- Put a text before the first field of the first record. -/
def pushText (s : Text) (records : List (List Text)) : List (List Text) := s.foldr pushChar records

theorem pushText_lastRecord (s : Text) : pushText s lastRecord = [[s]] := by
  induction s with
  | nil => rfl
  | cons c s ih => exact congrArg (pushChar c) ih

theorem pushText_newField (s : Text) (fields : List Text) :
    pushText s (newField [fields]) = [s :: fields] := by
  induction s with
  | nil => rfl
  | cons c s ih => exact congrArg (pushChar c) ih

theorem doubleQuotes_quote (s : Text) : doubleQuotes ('"' :: s) = '"' :: '"' :: doubleQuotes s :=
  rfl

theorem doubleQuotes_other {c : Char} (hc : c ≠ '"') (s : Text) :
    doubleQuotes (c :: s) = c :: doubleQuotes s := by
  rw [doubleQuotes, List.flatMap_cons, if_neg hc]
  rfl

theorem readFrom_quoted_quote (cs : Text) : readFrom .quoted ('"' :: cs) = readFrom .closed cs := by
  rw [readFrom, if_pos rfl]

theorem readFrom_quoted_other {c : Char} (hc : c ≠ '"') (cs : Text) :
    readFrom .quoted (c :: cs) = (readFrom .quoted cs).map (pushChar c) := by
  rw [readFrom, if_neg hc]

theorem readFrom_closed_quote (cs : Text) :
    readFrom .closed ('"' :: cs) = (readFrom .quoted cs).map (pushChar '"') := by
  rw [readFrom]

theorem readFrom_closed_comma (cs : Text) :
    readFrom .closed (',' :: cs) = (readFrom .start cs).map newField := by
  rw [readFrom]
  simp

/-- Between the quotes, doubled quotes are read as one, up to the quote that closes. -/
theorem readFrom_doubleQuotes (s rest : Text) :
    readFrom .quoted (doubleQuotes s ++ '"' :: rest) = (readFrom .closed rest).map (pushText s) := by
  induction s with
  | nil =>
    show readFrom .quoted ('"' :: rest) = _
    rw [readFrom_quoted_quote]
    exact Option.map_id'.symm
  | cons c s ih =>
    have hpush : ∀ o : Option (List (List Text)),
        (o.map (pushText s)).map (pushChar c) = o.map (pushText (c :: s)) := fun o =>
      Option.map_map _ _ o
    by_cases hc : c = '"'
    · subst hc
      rw [doubleQuotes_quote, List.cons_append, List.cons_append, readFrom_quoted_quote,
        readFrom_closed_quote, ih, hpush]
    · rw [doubleQuotes_other hc, List.cons_append, readFrom_quoted_other hc, ih, hpush]

theorem readFrom_quoteField (s rest : Text) :
    readFrom .start (quoteField s ++ rest) = (readFrom .closed rest).map (pushText s) := by
  rw [← readFrom_doubleQuotes, quoteField, List.cons_append, List.append_assoc, readFrom]
  rfl

/-- **Quoted fields are read back**, whatever is in them. -/
theorem read_row_quoteField (fields : List Text) (h : fields ≠ []) :
    read (row (fields.map quoteField)) = some [fields] := by
  induction fields with
  | nil => exact absurd rfl h
  | cons s fields ih =>
    cases fields with
    | nil =>
      rw [List.map_singleton, row, List.intercalate_singleton, read,
        ← List.append_nil (quoteField s), readFrom_quoteField]
      exact congrArg some (pushText_lastRecord s)
    | cons t fields =>
      have hrest : readFrom .start (row ((t :: fields).map quoteField)) = some [t :: fields] :=
        ih (List.cons_ne_nil t fields)
      have hrow : row ((s :: t :: fields).map quoteField)
          = quoteField s ++ (',' :: row ((t :: fields).map quoteField)) := by
        rw [List.map_cons, List.map_cons, row, List.intercalate_cons_cons, List.append_assoc]
        rfl
      rw [hrow, read, readFrom_quoteField, readFrom_closed_comma, hrest]
      exact congrArg some (pushText_newField s (t :: fields))

end Csv
end ShipMotion.Utils
