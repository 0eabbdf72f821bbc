import Mathlib.Tactic.Common
import ShipMotion.Utils.Csv

/-!
# The fields of the debug CSV

`csvWrap` doubles the quotes of a value in place: it looks for the next quote, inserts one before
it and goes on behind the two. The values of a row are joined by commas.
-/

namespace ShipMotion
namespace SixDofCalculator

open Utils.Csv (Text doubleQuotes quoteField read row)

/-! ## `csvWrap` -/

/-- `res.find(c, pos)`, with `none` for `npos`. -/
def find (res : Text) (c : Char) (pos : ℕ) : Option ℕ :=
  ((res.drop pos).findIdx? (· == c)).map (pos + ·)

/-- `res.insert(pos, s)` -/
def insert (res : Text) (pos : ℕ) (s : Text) : Text := res.take pos ++ s ++ res.drop pos

theorem lt_of_find {res : Text} {c : Char} {pos pos' : ℕ} (h : find res c pos = some pos') :
    pos ≤ pos' ∧ pos' < res.length := by
  obtain ⟨i, hi, rfl⟩ := Option.map_eq_some_iff.mp h
  have hlt := (List.findIdx?_eq_some_iff_findIdx_eq.mp hi).1
  rw [List.length_drop] at hlt
  omega

theorem length_insert {res : Text} {pos : ℕ} (h : pos ≤ res.length) (s : Text) :
    (insert res pos s).length = res.length + s.length := by
  rw [insert, List.length_append, List.length_append, List.length_take, List.length_drop]
  omega

/-- The loop of `csvWrap`; what is left of the string behind `pos` gets shorter in each turn. -/
def csvWrapLoop (res : Text) (pos : ℕ) : Text :=
  match h : find res '"' pos with
  | none => res
  | some pos' => csvWrapLoop (insert res pos' ['"']) (pos' + 2)
termination_by res.length - pos
decreasing_by
  have hlt := lt_of_find h
  rw [length_insert (Nat.le_of_lt hlt.2), List.length_singleton]
  omega

def csvWrap (val : Text) : Text := ['"'] ++ csvWrapLoop val 0 ++ ['"']

/-! ## The loop -/

theorem csvWrapLoop_of_find {res : Text} {pos pos' : ℕ} (h : find res '"' pos = some pos') :
    csvWrapLoop res pos = csvWrapLoop (insert res pos' ['"']) (pos' + 2) := by
  rw [csvWrapLoop]
  split <;> simp_all

theorem csvWrapLoop_of_not_found {res : Text} {pos : ℕ} (h : find res '"' pos = none) :
    csvWrapLoop res pos = res := by
  rw [csvWrapLoop]
  split <;> simp_all

/-- The quotes in front of the position are done, so a character that is none can be passed. -/
theorem find_skip (passed rest : Text) {c : Char} (hc : c ≠ '"') :
    find (passed ++ c :: rest) '"' passed.length
      = find (passed ++ c :: rest) '"' (passed.length + 1) := by
  have hdrop : (passed ++ c :: rest).drop (passed.length + 1) = rest := by
    rw [← List.drop_drop, List.drop_left]
    rfl
  rw [find, find, List.drop_left, hdrop, List.findIdx?_cons, if_neg (by simpa using hc),
    Option.map_map]
  exact congrArg (fun f => Option.map f _) (funext fun i => by
    show passed.length + (i + 1) = passed.length + 1 + i
    omega)

theorem csvWrapLoop_skip {passed rest : Text} {c : Char} (hc : c ≠ '"') :
    csvWrapLoop (passed ++ c :: rest) passed.length
      = csvWrapLoop (passed ++ c :: rest) (passed.length + 1) := by
  have hfind := find_skip passed rest hc
  cases h : find (passed ++ c :: rest) '"' passed.length with
  | none =>
    rw [csvWrapLoop_of_not_found h, csvWrapLoop_of_not_found (hfind.symm.trans h)]
  | some pos' =>
    exact (csvWrapLoop_of_find h).trans (csvWrapLoop_of_find (hfind.symm.trans h)).symm

/-- The loop invariant: in front of the position the string is done, and behind it every quote is
still to be doubled. -/
theorem csvWrapLoop_append (passed rest : Text) :
    csvWrapLoop (passed ++ rest) passed.length = passed ++ doubleQuotes rest := by
  induction rest generalizing passed with
  | nil =>
    refine csvWrapLoop_of_not_found ?_
    rw [find, List.drop_left]
    rfl
  | cons c rest ih =>
    by_cases hc : c = '"'
    · subst hc
      have hfind : find (passed ++ '"' :: rest) '"' passed.length = some passed.length := by
        rw [find, List.drop_left]
        rfl
      have hinsert : insert (passed ++ '"' :: rest) passed.length ['"']
          = (passed ++ ['"', '"']) ++ rest := by
        rw [insert, List.take_left, List.drop_left, List.append_assoc, List.append_assoc]
        rfl
      have hnext := ih (passed ++ ['"', '"'])
      rw [List.length_append] at hnext
      rw [csvWrapLoop_of_find hfind, hinsert]
      refine hnext.trans ?_
      rw [Utils.Csv.doubleQuotes_quote, List.append_assoc]
      rfl
    · have hnext := ih (passed ++ [c])
      rw [List.append_assoc, List.length_append] at hnext
      rw [csvWrapLoop_skip hc]
      refine hnext.trans ?_
      rw [Utils.Csv.doubleQuotes_other hc, List.append_assoc]
      rfl

/-- `csvWrap` is the encoding of a field between quotes. -/
theorem csvWrap_eq_quoteField (val : Text) : csvWrap val = quoteField val := by
  rw [csvWrap]
  exact congrArg (['"'] ++ · ++ ['"']) (csvWrapLoop_append [] val)

/-- **The fields of a row are read back**: the values of any non-empty row, whatever is in them,
are what a reader gets from the joined results of `csvWrap`. -/
theorem read_csvWrap (fields : List Text) (h : fields ≠ []) :
    read (row (fields.map csvWrap)) = some [fields] := by
  rw [funext csvWrap_eq_quoteField]
  exact Utils.Csv.read_row_quoteField fields h

theorem read_csvWrap_quotes :
    read (row ([['"', ',', '"', '"'], [], ['\r', '\n', 'a']].map csvWrap))
      = some [[['"', ',', '"', '"'], [], ['\r', '\n', 'a']]] :=
  read_csvWrap _ (List.cons_ne_nil _ _)

end SixDofCalculator
end ShipMotion
