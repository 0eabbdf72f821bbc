import Mathlib.Tactic.Common

/-!
# Filling a record

Programs that read values one after another and assign them to the members of a record. One that
fails leaves the members it has assigned. Vectors are indexed without a check; the positions are
recorded, and what lies behind the end of a vector is a parameter.
-/

namespace ShipMotion.Utils

/-- The record being filled, and each position at which a vector was indexed, with the length of
the vector. -/
structure Loading (C : Type) where
  out : C
  indexed : List (ℕ × ℕ)

abbrev Loader (ε C α : Type) : Type := EStateM ε (Loading C) α

namespace Loader

variable {ε C D α β : Type}

/-- Go on with a value, or fail. -/
def read (value : Except ε α) : Loader ε C α := fun s =>
  match value with
  | .ok a => .ok a s
  | .error e => .error e s

def update (write : C → C) : Loader ε C Unit := fun s => .ok () { s with out := write s.out }

/-- Assign a value to a member, or fail. -/
def assign (value : Except ε α) (write : α → C → C) : Loader ε C Unit := do
  let a ← read value
  update (write a)

/-- `arr[i]` -/
def index (arr : List α) (behind : ℕ → α) (i : ℕ) : Loader ε C α := fun s =>
  .ok (arr.getD i (behind i)) { s with indexed := s.indexed ++ [(i, arr.length)] }

/-- Fill a member that is a record itself. -/
def member (get : C → D) (set : D → C → C) (x : Loader ε D α) : Loader ε C α := fun s =>
  match x ⟨get s.out, s.indexed⟩ with
  | .ok a t => .ok a ⟨set t.out s.out, t.indexed⟩
  | .error e t => .error e ⟨set t.out s.out, t.indexed⟩

/-- Whether the program comes to its end, for a caller that catches the failure, and the record. -/
def caught (x : Loader ε C Unit) (c : C) : Bool × C :=
  match x ⟨c, []⟩ with
  | .ok _ s => (true, s.out)
  | .error _ s => (false, s.out)

/-! ## Programs that succeed -/

/-- From some state, `x` ends with `a`. -/
def Succeeds (x : Loader ε C α) (a : α) : Prop := ∃ s s', x s = .ok a s'

/-- From every state, `x` ends with `a`, with the record changed by `write` and with the
positions `indexed`. -/
def Always (x : Loader ε C α) (a : α) (write : C → C) (indexed : List (ℕ × ℕ)) : Prop :=
  ∀ s, x s = .ok a ⟨write s.out, s.indexed ++ indexed⟩

theorem succeeds_bind {x : Loader ε C α} {f : α → Loader ε C β} {b : β}
    (h : Succeeds (x >>= f) b) : ∃ a, Succeeds x a ∧ Succeeds (f a) b := by
  obtain ⟨s, s', hrun⟩ := h
  cases hx : x s with
  | ok a t =>
    refine ⟨a, ⟨s, t, hx⟩, t, s', ?_⟩
    rw [← hrun]
    show _ = EStateM.bind x f s
    rw [EStateM.bind, hx]
  | error e t =>
    have hfail : (x >>= f) s = .error e t := by
      show EStateM.bind x f s = _
      rw [EStateM.bind, hx]
    rw [hfail] at hrun
    cases hrun

theorem Always.bind {x : Loader ε C α} {f : α → Loader ε C β} {a : α} {b : β} {w w' : C → C}
    {is is' : List (ℕ × ℕ)} (hx : Always x a w is) (hf : Always (f a) b w' is') :
    Always (x >>= f) b (w' ∘ w) (is ++ is') := by
  intro s
  show EStateM.bind x f s = _
  rw [EStateM.bind, hx s]
  show f a _ = _
  rw [hf, List.append_assoc]
  rfl

theorem Always.of_eq {x : Loader ε C α} {a : α} {w w' : C → C} {is is' : List (ℕ × ℕ)}
    (h : Always x a w is) (hw : ∀ c, w c = w' c) (his : is = is') : Always x a w' is' := by
  intro s
  rw [h, hw, his]

theorem always_pure (a : α) : Always (pure a : Loader ε C α) a id [] := by
  intro s
  rw [List.append_nil]
  rfl

theorem Always.ite_pos {c : Prop} [Decidable c] (hc : c) {x y : Loader ε C α} {a : α} {w : C → C}
    {is : List (ℕ × ℕ)} (h : Always x a w is) : Always (if c then x else y) a w is := by
  rwa [if_pos hc]

theorem succeeds_read {value : Except ε α} {a : α}
    (h : Succeeds (read value : Loader ε C α) a) : value = .ok a := by
  obtain ⟨s, s', hrun⟩ := h
  cases value with
  | ok a' =>
    cases hrun
    rfl
  | error e => cases hrun

theorem always_read {value : Except ε α} {a : α} (h : value = .ok a) :
    Always (read value : Loader ε C α) a id [] := by
  intro s
  rw [List.append_nil, h]
  rfl

theorem always_update (write : C → C) : Always (update write : Loader ε C Unit) () write [] := by
  intro s
  rw [List.append_nil]
  rfl

theorem succeeds_assign {value : Except ε α} {write : α → C → C}
    (h : Succeeds (assign value write) ()) : ∃ a, value = .ok a := by
  obtain ⟨a, hread, -⟩ := succeeds_bind h
  exact ⟨a, succeeds_read hread⟩

theorem always_assign {value : Except ε α} {write : α → C → C} {a : α} (h : value = .ok a) :
    Always (assign value write) () (write a) [] :=
  (always_read h).bind (always_update (write a))

theorem succeeds_assign_bind {value : Except ε α} {write : α → C → C} {f : Unit → Loader ε C β}
    {b : β} (h : Succeeds (assign value write >>= f) b) :
    ∃ a, value = .ok a ∧ Succeeds (f ()) b := by
  obtain ⟨_, hassign, hrest⟩ := succeeds_bind h
  obtain ⟨a, ha⟩ := succeeds_assign hassign
  exact ⟨a, ha, hrest⟩

theorem always_index (arr : List α) (behind : ℕ → α) (i : ℕ) :
    Always (index arr behind i : Loader ε C α) (arr.getD i (behind i)) id [(i, arr.length)] :=
  fun _ => rfl

theorem succeeds_member {get : C → D} {set : D → C → C} {x : Loader ε D α} {a : α}
    (h : Succeeds (member get set x) a) : Succeeds x a := by
  obtain ⟨s, s', hrun⟩ := h
  rw [member] at hrun
  cases hx : x ⟨get s.out, s.indexed⟩ with
  | ok a' t =>
    rw [hx] at hrun
    cases hrun
    exact ⟨_, t, hx⟩
  | error e t =>
    rw [hx] at hrun
    cases hrun

theorem Always.member {get : C → D} {set : D → C → C} {x : Loader ε D α} {a : α} {w : D → D}
    {is : List (ℕ × ℕ)} (h : Always x a w is) :
    Always (member get set x) a (fun c => set (w (get c)) c) is := by
  intro s
  rw [Loader.member, h]

/-! ## How programs end -/

/-- From every state, `x` comes to its end if `ok` and fails if not, with the record changed by
`write` in both cases. -/
def Ends (x : Loader ε C Unit) (ok : Bool) (write : C → C) : Prop :=
  ∀ s, match x s with
    | .ok _ t => ok = true ∧ t.out = write s.out
    | .error _ t => ok = false ∧ t.out = write s.out

variable {x y : Loader ε C Unit} {ok ok' : Bool} {w w' : C → C}

theorem Ends.of_eq (h : Ends x ok w) (hw : ∀ c, w c = w' c) : Ends x ok w' := by
  rw [← funext hw]
  exact h

theorem Ends.caught (h : Ends x ok w) (c : C) : caught x c = (ok, w c) := by
  have hend := h ⟨c, []⟩
  unfold Loader.caught
  cases hrun : x ⟨c, []⟩ with
  | ok a t =>
    rw [hrun] at hend
    exact Prod.ext hend.1.symm hend.2
  | error e t =>
    rw [hrun] at hend
    exact Prod.ext hend.1.symm hend.2

theorem ends_pure : Ends (pure () : Loader ε C Unit) true id := fun _ => ⟨rfl, rfl⟩

theorem ends_update (write : C → C) : Ends (update write : Loader ε C Unit) true write :=
  fun _ => ⟨rfl, rfl⟩

theorem ends_read_ok (a : α) {f : α → Loader ε C Unit} (h : Ends (f a) ok w) :
    Ends (read (.ok a) >>= f) ok w := h

theorem ends_read_error (e : ε) (f : α → Loader ε C Unit) :
    Ends (read (.error e) >>= f) false id := fun _ => ⟨rfl, rfl⟩

theorem Ends.bind (hx : Ends x true w) (hy : Ends y ok w') :
    Ends (x >>= fun _ => y) ok (w' ∘ w) := by
  intro s
  have hfirst := hx s
  show match EStateM.bind x (fun _ => y) s with | .ok _ t => _ | .error _ t => _
  rw [EStateM.bind]
  cases hrun : x s with
  | error e t =>
    rw [hrun] at hfirst
    cases hfirst.1
  | ok a t =>
    rw [hrun] at hfirst
    have hrest := hy t
    rw [hfirst.2] at hrest
    exact hrest

/-- What fails is the end of the program. -/
theorem Ends.stop (hx : Ends x false w) (f : Unit → Loader ε C Unit) :
    Ends (x >>= f) false w := by
  intro s
  have hfirst := hx s
  show match EStateM.bind x f s with | .ok _ t => _ | .error _ t => _
  rw [EStateM.bind]
  cases hrun : x s with
  | error e t =>
    rw [hrun] at hfirst
    exact hfirst
  | ok a t =>
    rw [hrun] at hfirst
    cases hfirst.1

theorem Ends.member {x : Loader ε D Unit} {w : D → D} (h : Ends x ok w) (get : C → D)
    (set : D → C → C) : Ends (member get set x) ok fun c => set (w (get c)) c := by
  intro s
  have hinner := h ⟨get s.out, s.indexed⟩
  rw [Loader.member]
  cases hrun : x ⟨get s.out, s.indexed⟩ with
  | ok a t =>
    rw [hrun] at hinner
    exact ⟨hinner.1, congrArg (set · s.out) hinner.2⟩
  | error e t =>
    rw [hrun] at hinner
    exact ⟨hinner.1, congrArg (set · s.out) hinner.2⟩

end Loader
end ShipMotion.Utils
