import Mathlib.Data.List.Induction

/-!
# Segments of a list

Some elements of a list are separators, and each carries a value. The elements before a separator
that follow the last one form a closed segment; what follows the last separator is the open one.
Nothing depends on how the list was cut into pieces on its way: `split_append` continues from the
split of the first piece.
-/

namespace ShipMotion.Utils
namespace Segments

variable {α β S : Type}

/-- The closed segments with the values of the separators behind them, and the open segment. -/
structure Split (α β : Type) where
  closed : List (List α × β)
  rest : List α

/-- One more element; `sep` gives the value of a separator. -/
def Split.add (sep : α → Option β) (s : Split α β) (a : α) : Split α β :=
  match sep a with
  | some b => ⟨s.closed ++ [(s.rest, b)], []⟩
  | none => ⟨s.closed, s.rest ++ [a]⟩

def Split.empty : Split α β := ⟨[], []⟩

def split (sep : α → Option β) (l : List α) : Split α β := l.foldl (Split.add sep) .empty

variable {sep : α → Option β}

theorem Split.add_of_some {a : α} {b : β} (h : sep a = some b) (s : Split α β) :
    s.add sep a = ⟨s.closed ++ [(s.rest, b)], []⟩ := by
  unfold Split.add
  rw [h]

theorem Split.add_of_none {a : α} (h : sep a = none) (s : Split α β) :
    s.add sep a = ⟨s.closed, s.rest ++ [a]⟩ := by
  unfold Split.add
  rw [h]

theorem split_append (l l' : List α) :
    split sep (l ++ l') = l'.foldl (Split.add sep) (split sep l) := by
  unfold split
  rw [List.foldl_append]

theorem split_concat (l : List α) (a : α) :
    split sep (l ++ [a]) = (split sep l).add sep a := split_append l [a]

/-- The elements of the segments, in order, are those that are no separators. -/
theorem flatten_split (l : List α) :
    (split sep l).closed.flatMap (·.1) ++ (split sep l).rest
      = l.filter fun a => (sep a).isNone := by
  induction l using List.reverseRecOn with
  | nil => rfl
  | append_singleton l a ih =>
    rw [split_concat, List.filter_append, ← ih]
    cases h : sep a with
    | none => simp [Split.add_of_none h, h]
    | some b => simp [Split.add_of_some h, h]

/-- Elements that are no separators go to the open segment. -/
theorem foldl_add_of_none {l : List α} (h : ∀ a ∈ l, sep a = none) (s : Split α β) :
    l.foldl (Split.add sep) s = ⟨s.closed, s.rest ++ l⟩ := by
  induction l using List.reverseRecOn with
  | nil => rw [List.append_nil]; rfl
  | append_singleton l a ih =>
    have hlast := h a (List.mem_append_right l (List.mem_singleton_self a))
    rw [List.foldl_append, ih fun b hb => h b (List.mem_append_left _ hb), List.foldl_cons,
      List.foldl_nil, Split.add_of_none hlast, List.append_assoc]

/-- There is a closed segment for each separator, in order. -/
theorem map_closed (l : List α) : (split sep l).closed.map (·.2) = l.filterMap sep := by
  induction l using List.reverseRecOn with
  | nil => rfl
  | append_singleton l a ih =>
    rw [split_concat, List.filterMap_append, ← ih]
    cases h : sep a with
    | none => simp [Split.add_of_none h, h]
    | some b => simp [Split.add_of_some h, h]

/-- A machine that reads an element off each input, and keeps up with the split of the elements
read so far, does so over every list of inputs, and does not fail. -/
theorem foldlM_split {I : Type} {read : I → Option α} {f : S → I → Option S}
    {J : S → Split α β → Prop}
    (hstep : ∀ s sp i a, J s sp → read i = some a → ∃ t, f s i = some t ∧ J t (sp.add sep a))
    {s : S} {sp : Split α β} (hs : J s sp) {is : List I} {l : List α} (hl : is.mapM read = some l) :
    ∃ t, is.foldlM f s = some t ∧ J t (l.foldl (Split.add sep) sp) := by
  induction is generalizing s sp l with
  | nil =>
    rw [List.mapM_nil, Option.pure_def, Option.some.injEq] at hl
    subst hl
    exact ⟨s, rfl, hs⟩
  | cons i is ih =>
    rw [List.mapM_cons] at hl
    obtain ⟨a, ha, hl⟩ := Option.bind_eq_some_iff.mp hl
    obtain ⟨as, has, hl⟩ := Option.bind_eq_some_iff.mp hl
    rw [Option.pure_def, Option.some.injEq] at hl
    subst hl
    obtain ⟨u, hu, hJ⟩ := hstep s sp i a hs ha
    obtain ⟨t, ht, hJt⟩ := ih hJ has
    refine ⟨t, ?_, hJt⟩
    rw [List.foldlM_cons, hu]
    exact ht

end Segments
end ShipMotion.Utils
