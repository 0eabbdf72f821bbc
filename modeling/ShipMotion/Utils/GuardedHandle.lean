import Mathlib.Data.List.Nodup
import Mathlib.Logic.Function.Basic

/-!
# A handle guarded by a mutex

Threads share one slot for a handle that is created and freed explicitly, and a mutex. Only the
thread that holds the mutex creates a handle, frees the one in the slot or empties the slot; it
may do the last two in separate steps. Handles are numbered as they are created.

Then nobody else is between two such steps, the handle in the slot is live unless the owner has
just freed it, and no handle is freed twice. Nothing is said about threads that read the slot
without the mutex: they see whatever is there.
-/

namespace ShipMotion.Utils

/-- What a thread is doing with the mutex. -/
inductive Role where
  | outside
  | inside
  | freeing (h : ℕ)
  | clearing
  deriving DecidableEq

structure GuardedHandle (T : Type) where
  owner : Option T
  role : T → Role
  slot : Option ℕ
  created : ℕ
  freed : List ℕ

namespace GuardedHandle

variable {T : Type} [DecidableEq T]

def setRole (s : GuardedHandle T) (t : T) (r : Role) : GuardedHandle T :=
  { s with role := Function.update s.role t r }

theorem setRole_role (s : GuardedHandle T) (t u : T) (r : Role) :
    (s.setRole t r).role u = if u = t then r else s.role u :=
  Function.update_apply ..

theorem setRole_eq_self {s : GuardedHandle T} {t : T} {r : Role} (h : s.role t = r) :
    s.setRole t r = s := by
  rw [setRole, ← h, Function.update_eq_self]

/-- The steps. `dispose` is a critical section that frees what is in the slot and empties it;
`forget` empties the slot without freeing. -/
inductive Step (s : GuardedHandle T) : GuardedHandle T → Prop where
  | acquire {t} : s.role t = .outside → s.owner = none →
      Step s ({ s with owner := some t }.setRole t .inside)
  | release {t} : s.role t = .inside → Step s ({ s with owner := none }.setRole t .outside)
  | create {t} : s.role t = .inside →
      Step s { s with slot := some s.created, created := s.created + 1 }
  | prepare {t h} : s.role t = .inside → s.slot = some h → Step s (s.setRole t (.freeing h))
  | free {t h} : s.role t = .freeing h →
      Step s ({ s with freed := s.freed ++ [h] }.setRole t .clearing)
  | clear {t} : s.role t = .clearing → Step s ({ s with slot := none }.setRole t .inside)
  | forget {t} : s.role t = .inside → Step s { s with slot := none }
  | dispose {t} : s.role t = .inside →
      Step s ({ s with owner := none, slot := none, freed := s.freed ++ s.slot.toList }.setRole t
        .outside)

/-- What holds of slot and history while a thread has this role. -/
def Fits (s : GuardedHandle T) : Role → Prop
  | .outside => True
  | .inside => ∀ h ∈ s.slot, h ∉ s.freed
  | .freeing h => s.slot = some h ∧ h ∉ s.freed
  | .clearing => ∀ h ∈ s.slot, h ∈ s.freed

/-- Only the owner is not outside, the freed handles are distinct ones that were created, and
the handle in the slot is live unless the owner has just freed it. -/
structure Inv (s : GuardedHandle T) : Prop where
  exclusive : ∀ t, s.role t ≠ .outside → s.owner = some t
  freed_nodup : s.freed.Nodup
  freed_lt : ∀ h ∈ s.freed, h < s.created
  slot_lt : ∀ h ∈ s.slot, h < s.created
  unowned : s.owner = none → ∀ h ∈ s.slot, h ∉ s.freed
  fits : ∀ t, s.Fits (s.role t)

section

omit [DecidableEq T]

variable {s : GuardedHandle T}

/-- The other threads are outside while one is not. -/
theorem Inv.outside_of_ne (h : Inv s) {t u : T} (ht : s.role t ≠ .outside) (hu : u ≠ t) :
    s.role u = .outside := by
  by_contra hne
  have howner := h.exclusive u hne
  rw [h.exclusive t ht, Option.some.injEq] at howner
  exact hu howner.symm

/-- All threads are outside while the mutex is free. -/
theorem Inv.outside_of_unowned (h : Inv s) (howner : s.owner = none) (u : T) :
    s.role u = .outside := by
  by_contra hne
  rw [h.exclusive u hne] at howner
  cases howner

/-- A thread that is not outside owns the mutex, the others are outside, and its role fits. -/
theorem Inv.of_role (h : Inv s) {t : T} {r : Role} (hrole : s.role t = r) (hr : r ≠ .outside) :
    s.owner = some t ∧ (∀ u, u ≠ t → s.role u = .outside) ∧ s.Fits r := by
  have hne : s.role t ≠ .outside := by
    rw [hrole]
    exact hr
  refine ⟨h.exclusive t hne, fun u hu => h.outside_of_ne hne hu, ?_⟩
  rw [← hrole]
  exact h.fits t

/-- To check the invariant where only one thread may be inside, look at this thread. -/
theorem inv_of_alone {t : T} (hothers : ∀ u, u ≠ t → s.role u = .outside)
    (howner : s.role t ≠ .outside → s.owner = some t) (hnodup : s.freed.Nodup)
    (hfreed : ∀ h ∈ s.freed, h < s.created) (hslot : ∀ h ∈ s.slot, h < s.created)
    (hunowned : s.owner = none → ∀ h ∈ s.slot, h ∉ s.freed) (hfits : s.Fits (s.role t)) :
    Inv s where
  exclusive := by
    intro u hu
    by_cases heq : u = t
    · rw [heq] at hu ⊢
      exact howner hu
    · exact absurd (hothers u heq) hu
  freed_nodup := hnodup
  freed_lt := hfreed
  slot_lt := hslot
  unowned := hunowned
  fits := by
    intro u
    by_cases heq : u = t
    · rw [heq]
      exact hfits
    · rw [hothers u heq]
      trivial

/-- The invariant before the first handle is created. -/
theorem inv_idle (houtside : ∀ t, s.role t = .outside) (hslot : s.slot = none)
    (hfreed : s.freed = []) : Inv s where
  exclusive := fun t ht => absurd (houtside t) ht
  freed_nodup := by rw [hfreed]; exact List.nodup_nil
  freed_lt := by rw [hfreed]; exact fun _ hc => absurd hc List.not_mem_nil
  slot_lt := by rw [hslot]; exact fun _ hc => by cases hc
  unowned := by rw [hslot]; exact fun _ _ hc => by cases hc
  fits := fun t => by rw [houtside t]; trivial

/-- Freeing a live handle keeps the history free of duplicates. -/
theorem Inv.freed_append (h : Inv s) {cli : ℕ} (hcli : s.slot = some cli) (hlive : cli ∉ s.freed) :
    (s.freed ++ [cli]).Nodup ∧ ∀ c ∈ s.freed ++ [cli], c < s.created := by
  refine ⟨List.nodup_append.mpr ⟨h.freed_nodup, List.nodup_singleton _, ?_⟩, ?_⟩
  · intro c hc d hd heq
    rw [heq, List.mem_singleton.mp hd] at hc
    exact hlive hc
  · intro c hc
    rcases List.mem_append.mp hc with hc | hc
    · exact h.freed_lt c hc
    · rw [List.mem_singleton.mp hc]
      exact h.slot_lt cli hcli

end

theorem setRole_outside {s : GuardedHandle T} {t : T} (h : ∀ u, u ≠ t → s.role u = .outside)
    (r : Role) : ∀ u, u ≠ t → (s.setRole t r).role u = .outside := by
  intro u hu
  rw [setRole_role, if_neg hu]
  exact h u hu

theorem setRole_self (s : GuardedHandle T) (t : T) (r : Role) : (s.setRole t r).role t = r := by
  rw [setRole_role, if_pos rfl]

theorem Inv.step {s s' : GuardedHandle T} (h : Inv s) (hstep : Step s s') : Inv s' := by
  cases hstep with
  | @acquire t houtside hfree =>
    refine inv_of_alone (t := t) (setRole_outside (fun u _ => h.outside_of_unowned hfree u) _)
      (fun _ => rfl) h.freed_nodup h.freed_lt h.slot_lt (fun hnone => by cases hnone) ?_
    rw [setRole_self]
    exact h.unowned hfree
  | @release t hrole =>
    obtain ⟨-, hothers, hfits⟩ := h.of_role hrole (by decide)
    refine inv_of_alone (t := t) (setRole_outside hothers _) ?_ h.freed_nodup h.freed_lt h.slot_lt
      (fun _ => hfits) ?_
    · rw [setRole_self]
      exact fun hout => absurd rfl hout
    · rw [setRole_self]
      trivial
  | @create t hrole =>
    obtain ⟨howner, hothers, -⟩ := h.of_role hrole (by decide)
    refine inv_of_alone (t := t) hothers (fun _ => howner) h.freed_nodup
      (fun c hc => Nat.lt_succ_of_lt (h.freed_lt c hc)) ?_ ?_ ?_
    · intro c hc
      rw [← Option.some.inj hc]
      exact Nat.lt_succ_self _
    · intro hnone
      rw [howner] at hnone
      cases hnone
    · show Fits _ (s.role t)
      rw [hrole]
      -- the new handle is beyond all freed ones
      intro c hc hfreed
      rw [← Option.some.inj hc] at hfreed
      exact Nat.lt_irrefl _ (h.freed_lt _ hfreed)
  | @prepare t cli hrole hcli =>
    obtain ⟨howner, hothers, hfits⟩ := h.of_role hrole (by decide)
    refine inv_of_alone (t := t) (setRole_outside hothers _) (fun _ => howner) h.freed_nodup
      h.freed_lt h.slot_lt h.unowned ?_
    rw [setRole_self]
    exact ⟨hcli, hfits cli hcli⟩
  | @free t cli hrole =>
    obtain ⟨howner, hothers, hcli, hlive⟩ := h.of_role hrole (by nofun)
    obtain ⟨hnodup, hlt⟩ := h.freed_append hcli hlive
    refine inv_of_alone (t := t) (setRole_outside hothers _) (fun _ => howner) hnodup hlt
      h.slot_lt ?_ ?_
    · intro hnone
      rw [show s.owner = none from hnone] at howner
      cases howner
    · rw [setRole_self]
      intro c hc
      have heq : some c = some cli := (show s.slot = some c from hc).symm.trans hcli
      rw [Option.some.inj heq]
      exact List.mem_append_right _ List.mem_cons_self
  | @clear t hrole =>
    obtain ⟨howner, hothers, -⟩ := h.of_role hrole (by decide)
    refine inv_of_alone (t := t) (setRole_outside hothers _) (fun _ => howner) h.freed_nodup
      h.freed_lt (fun _ hc => by cases hc) (fun _ _ hc => by cases hc) ?_
    rw [setRole_self]
    exact fun _ hc => by cases hc
  | @forget t hrole =>
    obtain ⟨howner, hothers, -⟩ := h.of_role hrole (by decide)
    refine inv_of_alone (t := t) hothers (fun _ => howner) h.freed_nodup h.freed_lt
      (fun _ hc => by cases hc) (fun _ _ hc => by cases hc) ?_
    show Fits _ (s.role t)
    rw [hrole]
    exact fun _ hc => by cases hc
  | @dispose t hrole =>
    obtain ⟨-, hothers, hfits⟩ := h.of_role hrole (by decide)
    have hfreed : (s.freed ++ s.slot.toList).Nodup ∧
        ∀ c ∈ s.freed ++ s.slot.toList, c < s.created := by
      cases hslot : s.slot with
      | none =>
        rw [Option.toList_none, List.append_nil]
        exact ⟨h.freed_nodup, h.freed_lt⟩
      | some cli => exact h.freed_append hslot (hfits cli hslot)
    refine inv_of_alone (t := t) (setRole_outside hothers _) ?_ hfreed.1 hfreed.2
      (fun _ hc => by cases hc) (fun _ _ hc => by cases hc) ?_
    · rw [setRole_self]
      exact fun hout => absurd rfl hout
    · rw [setRole_self]
      trivial

end GuardedHandle
end ShipMotion.Utils
