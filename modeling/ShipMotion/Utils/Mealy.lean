import Mathlib.Data.List.Basic

/-!
# Runs of Mealy machines

An object whose method updates its state and returns a value is a function
`S → I → S × O`. This file runs such a function over a list of calls, and has the two rules
the results about whole runs go through: an invariant of the state and of everything
returned so far, and the transfer of a statement about single calls to all calls of a run.
-/

namespace ShipMotion.Utils
namespace Mealy

variable {S I O : Type} (f : S → I → S × O)

/-- The state after a run. -/
def finalState : S → List I → S
  | s, [] => s
  | s, i :: is => finalState (f s i).1 is

/-- Everything returned by a run, in order. -/
def outputs : S → List I → List O
  | _, [] => []
  | s, i :: is => (f s i).2 :: outputs (f s i).1 is

/-- `P` holds of every call of a run, in the state it is made in. -/
def EveryCall (P : S → I → Prop) : S → List I → Prop
  | _, [] => True
  | s, i :: is => P s i ∧ EveryCall P (f s i).1 is

variable {f}

theorem finalState_append (s : S) (is js : List I) :
    finalState f s (is ++ js) = finalState f (finalState f s is) js := by
  induction is generalizing s with
  | nil => rfl
  | cons i is ih => exact ih (f s i).1

/-- A run ends with its last call. -/
theorem finalState_concat (s : S) (is : List I) (i : I) :
    finalState f s (is ++ [i]) = (f (finalState f s is) i).1 :=
  finalState_append s is [i]

theorem outputs_concat (s : S) (is : List I) (i : I) :
    outputs f s (is ++ [i]) = outputs f s is ++ [(f (finalState f s is) i).2] := by
  induction is generalizing s with
  | nil => rfl
  | cons j is ih => exact congrArg ((f s j).2 :: ·) (ih (f s j).1)

/-- What call `k` returns. -/
theorem outputs_getElem? (s : S) (is : List I) (k : ℕ) :
    (outputs f s is)[k]? = is[k]?.map fun i => (f (finalState f s (is.take k)) i).2 := by
  induction is generalizing s k with
  | nil => simp [outputs]
  | cons j is ih =>
    cases k with
    | zero => rfl
    | succ k => exact ih (f s j).1 k

theorem everyCall_append {P : S → I → Prop} {s : S} {is js : List I} :
    EveryCall f P s (is ++ js) ↔ EveryCall f P s is ∧ EveryCall f P (finalState f s is) js := by
  induction is generalizing s with
  | nil => exact (and_iff_right trivial).symm
  | cons i is ih => exact (and_congr_right fun _ => ih).trans and_assoc.symm

/-- The calls of a run are those that can be reached by splitting it. -/
theorem everyCall_iff_split {P : S → I → Prop} {s : S} {is : List I} :
    EveryCall f P s is ↔
      ∀ before i after, is = before ++ i :: after → P (finalState f s before) i := by
  induction is generalizing s with
  | nil =>
    refine iff_of_true trivial fun before i after h => ?_
    exact absurd h.symm (List.append_ne_nil_of_right_ne_nil before (List.cons_ne_nil i after))
  | cons j is ih =>
    rw [EveryCall, ih]
    constructor
    · rintro ⟨hfirst, hrest⟩ before i after h
      cases before with
      | nil =>
        rw [List.nil_append, List.cons.injEq] at h
        rw [← h.1]
        exact hfirst
      | cons k before =>
        rw [List.cons_append, List.cons.injEq] at h
        rw [← h.1]
        exact hrest before i after h.2
    · intro h
      refine ⟨h [] j is rfl, fun before i after his => ?_⟩
      exact h (j :: before) i after (by rw [his, List.cons_append])

/-- The run rule: what the first call finds, and each call meeting `P` passes on, holds of the
state and of the values returned at the end of every run whose calls meet `P`. -/
theorem run_induction {P : S → I → Prop} {J : S → List O → Prop}
    (hstep : ∀ s os i, J s os → P s i → J (f s i).1 (os ++ [(f s i).2]))
    {s : S} {os : List O} (hs : J s os) {is : List I} (hP : EveryCall f P s is) :
    J (finalState f s is) (os ++ outputs f s is) := by
  induction is generalizing s os with
  | nil =>
    rw [outputs, List.append_nil]
    exact hs
  | cons i is ih =>
    -- the first value joins those returned so far
    have hrest := ih (hstep s os i hs hP.1) hP.2
    rwa [List.append_assoc, List.singleton_append] at hrest

/-- What every call does it does in every run. -/
theorem everyCall_of_forall {P : S → I → Prop} (h : ∀ s i, P s i) (s : S) (is : List I) :
    EveryCall f P s is := by
  induction is generalizing s with
  | nil => trivial
  | cons i is ih => exact ⟨h s i, ih _⟩

/-- The run rule without a condition on the calls. -/
theorem run_invariant {J : S → List O → Prop}
    (hstep : ∀ s os i, J s os → J (f s i).1 (os ++ [(f s i).2])) {s : S} (hs : J s []) (is : List I) :
    J (finalState f s is) (outputs f s is) :=
  run_induction (P := fun _ _ => True) (fun s os i hJ _ => hstep s os i hJ) hs
    (everyCall_of_forall (fun _ _ => trivial) s is)

/-- The conservation rule: if every call moves what it is given and what the state holds into
what it returns and what the state then holds, in order, then so does every run. -/
theorem run_conserves {X : Type} (held : S → List X) (put : I → List X) (took : O → List X)
    (hstep : ∀ s i, took (f s i).2 ++ held (f s i).1 = held s ++ put i) (s : S) (is : List I) :
    (outputs f s is).flatMap took ++ held (finalState f s is) = held s ++ is.flatMap put := by
  induction is generalizing s with
  | nil => rw [outputs, finalState, List.flatMap_nil, List.flatMap_nil, List.nil_append,
      List.append_nil]
  | cons i is ih =>
    rw [outputs, finalState, List.flatMap_cons, List.flatMap_cons, List.append_assoc, ih,
      ← List.append_assoc, hstep, List.append_assoc]

/-- What every call meeting `P` preserves holds at the end of every run whose calls meet `P`. -/
theorem finalState_of_everyCall {P : S → I → Prop} {J : S → Prop}
    (hstep : ∀ s i, J s → P s i → J (f s i).1) {s : S} (hs : J s) {is : List I}
    (hP : EveryCall f P s is) : J (finalState f s is) := by
  induction is generalizing s with
  | nil => exact hs
  | cons i is ih => exact ih (hstep s i hs hP.1) hP.2

theorem finalState_induction {J : S → Prop} (hstep : ∀ s i, J s → J (f s i).1) {s : S}
    (hs : J s) (is : List I) : J (finalState f s is) :=
  finalState_of_everyCall (P := fun _ _ => True) (fun s i hJ _ => hstep s i hJ) hs
    (everyCall_of_forall (fun _ _ => trivial) s is)

/-- Under an invariant of the state, conditions that agree on single calls agree on runs. -/
theorem everyCall_congr {J : S → Prop} {P Q : S → I → Prop}
    (hstep : ∀ s i, J s → J (f s i).1) (h : ∀ s i, J s → (P s i ↔ Q s i))
    {s : S} (hs : J s) {is : List I} : EveryCall f P s is ↔ EveryCall f Q s is := by
  induction is generalizing s with
  | nil => exact Iff.rfl
  | cons i is ih => exact and_congr (h s i hs) (ih (hstep s i hs))

end Mealy
end ShipMotion.Utils
