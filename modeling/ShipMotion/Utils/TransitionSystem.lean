import Mathlib.Logic.Basic

/-!
# Labelled transition systems

Interleavings of threads are runs of a labelled transition system: a set of initial states
and a partial step function, where a label says which thread moves. Two things live here:

* `ReachableWith ok`, the states reached by runs all of whose steps meet `ok`, with the
  invariant rule every safety proof below goes through;
* `exec` / `Meets`, the same runs given by an explicit schedule, so that a concrete
  interleaving can be evaluated.
-/

namespace ShipMotion.Utils

/-- A transition system whose steps are named by labels; `none` is a disabled label. -/
structure LTS (S L : Type) where
  init : S → Prop
  step : S → L → Option S

namespace LTS

variable {S L : Type} (M : LTS S L)

/-- States at the end of a run from an initial state, each of whose steps meets `ok` in the
state it starts from. -/
inductive ReachableWith (ok : S → L → Prop) : S → Prop where
  | init {s : S} : M.init s → ReachableWith ok s
  | step {s t : S} {l : L} : ReachableWith ok s → ok s l → M.step s l = some t →
      ReachableWith ok t

/-- States at the end of any run. -/
def Reachable : S → Prop := M.ReachableWith fun _ _ => True

variable {M}

/-- The invariant rule, for runs restricted by `ok`. -/
theorem ReachableWith.invariant {ok : S → L → Prop} {I : S → Prop}
    (hinit : ∀ s, M.init s → I s)
    (hstep : ∀ s l t, I s → ok s l → M.step s l = some t → I t)
    {s : S} (h : M.ReachableWith ok s) : I s := by
  induction h with
  | init hs => exact hinit _ hs
  | step _ hok hst ih => exact hstep _ _ _ ih hok hst

/-- The invariant rule, for arbitrary runs. -/
theorem Reachable.invariant {I : S → Prop}
    (hinit : ∀ s, M.init s → I s)
    (hstep : ∀ s l t, I s → M.step s l = some t → I t)
    {s : S} (h : M.Reachable s) : I s :=
  ReachableWith.invariant hinit (fun s l t hI _ hst => hstep s l t hI hst) h

/-- The simulation rule: if `f` maps every step of `M` to a step of `N` or to no step at all,
it maps the runs of `M` to runs of `N`. -/
theorem ReachableWith.simulate {S' L' : Type} {N : LTS S' L'} {ok : S → L → Prop}
    {ok' : S' → L' → Prop} {f : S → S'} (hinit : ∀ s, M.init s → N.init (f s))
    (hstep : ∀ s l t, ok s l → M.step s l = some t →
      f t = f s ∨ ∃ l', ok' (f s) l' ∧ N.step (f s) l' = some (f t))
    {s : S} (h : M.ReachableWith ok s) : N.ReachableWith ok' (f s) := by
  induction h with
  | init hs => exact .init (hinit _ hs)
  | step _ hok hst ih =>
    rcases hstep _ _ _ hok hst with heq | ⟨l', hok', hst'⟩
    · rw [heq]
      exact ih
    · exact ih.step hok' hst'

/-! ## Explicit schedules -/

variable (M)

/-- Run a schedule; `none` as soon as a scheduled label is disabled. -/
def exec : S → List L → Option S
  | s, [] => some s
  | s, l :: ls => (M.step s l).bind fun t => exec t ls

/-- Every step of the schedule meets `ok` in the state it starts from. -/
def Meets (ok : S → L → Prop) : S → List L → Prop
  | _, [] => True
  | s, l :: ls => ok s l ∧ ∀ t ∈ M.step s l, Meets ok t ls

instance Meets.decidable {ok : S → L → Prop} [∀ s l, Decidable (ok s l)] :
    ∀ s ls, Decidable (M.Meets ok s ls)
  | _, [] => isTrue trivial
  | s, l :: ls =>
    have : DecidablePred fun t => M.Meets ok t ls := fun t => Meets.decidable t ls
    inferInstanceAs (Decidable (ok s l ∧ ∀ t ∈ M.step s l, M.Meets ok t ls))

variable {M}

theorem exec_cons {s t : S} {l : L} (ls : List L) (h : M.step s l = some t) :
    M.exec s (l :: ls) = M.exec t ls := by
  simp only [exec, h, Option.bind_some]

theorem exec_append {s t : S} {ls ls' : List L} (h : M.exec s ls = some t) :
    M.exec s (ls ++ ls') = M.exec t ls' := by
  induction ls generalizing s with
  | nil =>
    rw [LTS.exec, Option.some.injEq] at h
    rw [h]
    rfl
  | cons l ls ih =>
    obtain ⟨u, hu, hrest⟩ := Option.bind_eq_some_iff.mp h
    rw [List.cons_append, exec_cons _ hu]
    exact ih hrest

/-- What every step keeps, a schedule keeps. -/
theorem exec_invariant {I : S → Prop} (hstep : ∀ s l t, I s → M.step s l = some t → I t)
    {s t : S} {ls : List L} (hs : I s) (hrun : M.exec s ls = some t) : I t := by
  induction ls generalizing s with
  | nil =>
    rw [LTS.exec, Option.some.injEq] at hrun
    exact hrun ▸ hs
  | cons l ls ih =>
    obtain ⟨u, hu, hrest⟩ := Option.bind_eq_some_iff.mp hrun
    exact ih (hstep s l u hs hu) hrest

/-- A schedule that runs through extends the run that reached its first state. -/
theorem ReachableWith.exec {ok : S → L → Prop} {s t : S} {ls : List L}
    (hs : M.ReachableWith ok s) (hrun : M.exec s ls = some t) (hok : M.Meets ok s ls) :
    M.ReachableWith ok t := by
  induction ls generalizing s with
  | nil =>
    rw [LTS.exec, Option.some.injEq] at hrun
    exact hrun ▸ hs
  | cons l ls ih =>
    obtain ⟨u, hstep, hrest⟩ := Option.bind_eq_some_iff.mp hrun
    exact ih (hs.step hok.1 hstep) hrest (hok.2 u hstep)

/-- Conditions that agree in every state agree along every schedule. -/
theorem meets_congr {ok ok' : S → L → Prop} (h : ∀ s l, ok s l ↔ ok' s l) {s : S} {ls : List L} :
    M.Meets ok s ls ↔ M.Meets ok' s ls := by
  induction ls generalizing s with
  | nil => exact Iff.rfl
  | cons l ls ih =>
    rw [Meets, Meets, h s l]
    exact and_congr_right fun _ => forall₂_congr fun t _ => ih

theorem meets_true {s : S} {ls : List L} : M.Meets (fun _ _ => True) s ls := by
  induction ls generalizing s with
  | nil => trivial
  | cons l ls ih => exact ⟨trivial, fun t _ => ih⟩

/-- The end of a schedule from an initial state is reachable. -/
theorem reachable_of_exec {s t : S} {ls : List L} (hs : M.init s)
    (hrun : M.exec s ls = some t) : M.Reachable t :=
  (ReachableWith.init hs).exec hrun meets_true

end LTS
end ShipMotion.Utils
