import Mathlib.Data.List.Basic

/-!
# YAML nodes

Documents as trees, with the access to them and the conversions of yaml-cpp. A node that is not
there is undefined: `none`. Access by a key to an undefined, an empty or a sequence node gives an
undefined node; that yaml-cpp makes such a node an empty map then cannot be seen by the reads
that follow. How a scalar's text is read as a number is a parameter.
-/

namespace ShipMotion.Utils

inductive Yaml where
  | null
  | scalar (text : String)
  | seq (elems : List Yaml)
  | map (pairs : List (Yaml × Yaml))

namespace Yaml

/-- What is thrown. -/
inductive Exn where
  | badFile
  | parserException
  | invalidNode
  | badConversion
  | badSubscript
  deriving DecidableEq, Repr

def isKey (key : String) : Yaml → Bool
  | .scalar text => text = key
  | _ => false

/-- The value of the first pair with the key. -/
def find? (key : String) : Option Yaml → Option Yaml
  | some (.map pairs) => (pairs.find? fun p => isKey key p.1).map (·.2)
  | _ => none

/-- `node[key]` -/
def get (node : Option Yaml) (key : String) : Except Exn (Option Yaml) :=
  match node with
  | some (.scalar _) => .error .badSubscript
  | _ => .ok (find? key node)

/-- `node.as<std::string>()` -/
def asString : Option Yaml → Except Exn String
  | none => .error .invalidNode
  | some .null => .ok "null"
  | some (.scalar text) => .ok text
  | some _ => .error .badConversion

/-- `node.as<T>()` for a type of numbers -/
def asNumber {N : Type} (decode : String → Option N) : Option Yaml → Except Exn N
  | some (.scalar text) =>
    match decode text with
    | some n => .ok n
    | none => .error .badConversion
  | _ => .error .badConversion

/-- `node.as<std::string>(fallback)` -/
def asStringOr (fallback : String) : Option Yaml → String
  | some .null => "null"
  | some (.scalar text) => text
  | _ => fallback

/-- `node.as<T>(fallback)` for a type that is read from the text of a scalar -/
def asScalarOr {N : Type} (decode : String → Option N) (fallback : N) : Option Yaml → N
  | some (.scalar text) => (decode text).getD fallback
  | _ => fallback

/-- The elements of a sequence. -/
def elems : Option Yaml → List Yaml
  | some (.seq elems) => elems
  | _ => []

def asNumbers {N : Type} (decode : String → Option N) : List Yaml → Except Exn (List N)
  | [] => .ok []
  | elem :: elems => do
    let n ← asNumber decode (some elem)
    let ns ← asNumbers decode elems
    return n :: ns

/-- `node.as<std::vector<T>>()` for a type of numbers -/
def asVector {N : Type} (decode : String → Option N) : Option Yaml → Except Exn (List N)
  | some (.seq elems) => asNumbers decode elems
  | _ => .error .badConversion

def isScalar : Option Yaml → Bool
  | some (.scalar _) => true
  | _ => false

theorem get_of_scalar {node : Option Yaml} (h : isScalar node = true) (key : String) :
    get node key = .error .badSubscript := by
  unfold isScalar at h
  split at h
  · rfl
  · cases h

theorem get_of_not_scalar {node : Option Yaml} (h : isScalar node = false) (key : String) :
    get node key = .ok (find? key node) := by
  unfold isScalar at h
  unfold get
  split
  · cases h
  · rfl

theorem length_of_asNumbers {N : Type} {decode : String → Option N} {elems : List Yaml}
    {ns : List N} (h : asNumbers decode elems = .ok ns) : ns.length = elems.length := by
  induction elems generalizing ns with
  | nil =>
    cases h
    rfl
  | cons elem elems ih =>
    rw [asNumbers] at h
    cases hn : asNumber decode (some elem) with
    | error e =>
      rw [hn] at h
      cases h
    | ok n =>
      cases hns : asNumbers decode elems with
      | error e =>
        rw [hn, hns] at h
        cases h
      | ok ns' =>
        rw [hn, hns] at h
        cases h
        exact congrArg (· + 1) (ih hns)

/-- A vector has as many elements as its node. -/
theorem length_of_asVector {N : Type} {decode : String → Option N} {node : Option Yaml}
    {ns : List N} (h : asVector decode node = .ok ns) : ns.length = (elems node).length := by
  cases node with
  | none => cases h
  | some tree =>
    cases tree with
    | null => cases h
    | scalar text => cases h
    | seq elems => exact length_of_asNumbers h
    | map pairs => cases h

theorem eq_find_of_get {node value : Option Yaml} {key : String} (h : get node key = .ok value) :
    value = find? key node := by
  cases node with
  | none =>
    cases h
    rfl
  | some tree =>
    cases tree with
    | scalar text => cases h
    | null =>
      cases h
      rfl
    | seq elems =>
      cases h
      rfl
    | map pairs =>
      cases h
      rfl

end Yaml
end ShipMotion.Utils
