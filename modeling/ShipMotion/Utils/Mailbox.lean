import Mathlib.Data.List.Basic

/-!
# A slot that is overwritten

A mailbox holds one item. A put replaces what is there, a take leaves nothing. What has left the
slot is kept with what became of it, so that every item put is settled once or still there.
-/

namespace ShipMotion.Utils

/-- What became of an item that is no longer in the slot. -/
inductive Fate where
  | taken
  | replaced
  deriving DecidableEq

structure Mailbox (α : Type) where
  slot : Option α
  settled : List (α × Fate)

namespace Mailbox

variable {α : Type}

def empty : Mailbox α := ⟨none, []⟩

def put (b : Mailbox α) (x : α) : Mailbox α :=
  ⟨some x, b.settled ++ b.slot.toList.map fun y => (y, .replaced)⟩

def take (b : Mailbox α) : Mailbox α :=
  ⟨none, b.settled ++ b.slot.toList.map fun y => (y, .taken)⟩

/-- Everything put, in order. -/
def puts (b : Mailbox α) : List α := b.settled.map Prod.fst ++ b.slot.toList

/-- What was taken, in order. -/
def takes (b : Mailbox α) : List α := (b.settled.filter fun e => e.2 = .taken).map Prod.fst

@[simp] theorem puts_put (b : Mailbox α) (x : α) : (b.put x).puts = b.puts ++ [x] := by
  simp [puts, put, List.map_append, Function.comp_def]

@[simp] theorem puts_take (b : Mailbox α) : b.take.puts = b.puts := by
  simp [puts, take, List.map_append, Function.comp_def]

@[simp] theorem takes_put (b : Mailbox α) (x : α) : (b.put x).takes = b.takes := by
  unfold takes put
  cases b.slot <;> simp

@[simp] theorem takes_take (b : Mailbox α) : b.take.takes = b.takes ++ b.slot.toList := by
  unfold takes take
  cases b.slot <;> simp

/-- Items are taken in the order in which they were put, and none of them twice. -/
theorem takes_sublist (b : Mailbox α) : b.takes.Sublist b.puts :=
  (List.filter_sublist.map _).trans (List.sublist_append_left _ _)

end Mailbox
end ShipMotion.Utils
