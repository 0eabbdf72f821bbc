import Mathlib.Algebra.Order.Group.Abs
import Mathlib.Data.List.NodupEquivFin
import Mathlib.Data.Multiset.Fintype
import Mathlib.Data.Fintype.Card

/-!
# Matching two sorted lists by proximity

Elements of two lists carry keys, and a pair may be matched if its keys differ by less than
`w`. The greedy matching compares the heads of the lists: it pairs them if it may, and drops
the smaller one otherwise. On lists sorted by their keys it pairs as many elements as any
matching does, by exchanging pairs at the head.

Matchings are multisets of pairs whose components are drawn from the two lists, so equal
elements at different places are told apart only by how often they are used.
-/

namespace ShipMotion.Utils

variable {α β G : Type} [AddCommGroup G] [LinearOrder G] (f : α → G) (g : β → G) (w : G)

/-- The keys differ by less than `w`. -/
def Near (a : α) (b : β) : Prop := |f a - g b| < w

instance (a : α) (b : β) : Decidable (Near f g w a b) := inferInstanceAs (Decidable (_ < _))

/-- Pair the heads if they are near, drop the smaller one otherwise. -/
def greedy (as : List α) (bs : List β) : List (α × β) :=
  match as, bs with
  | a :: as, b :: bs =>
    if Near f g w a b then (a, b) :: greedy as bs
    else if f a < g b then greedy as (b :: bs)
    else greedy (a :: as) bs
  | _, _ => []
termination_by as.length + bs.length

/-- A set of disjoint near pairs with components from `A` and `B`. -/
structure IsMatching (M : Multiset (α × β)) (A : Multiset α) (B : Multiset β) : Prop where
  fst_le : M.map Prod.fst ≤ A
  snd_le : M.map Prod.snd ≤ B
  near : ∀ p ∈ M, Near f g w p.1 p.2

variable {f g w}

namespace Near

variable [IsOrderedAddMonoid G]

/-- Uncrossing: if `a` is near the later `b'` and `b` near the later `a'`, then `a'` and `b'`
are near. -/
theorem uncross {a a' : α} {b b' : β} (hab' : Near f g w a b') (ha'b : Near f g w a' b)
    (ha : f a ≤ f a') (hb : g b ≤ g b') : Near f g w a' b' := by
  unfold Near at hab' ha'b ⊢
  rw [abs_sub_lt_iff] at hab' ha'b ⊢
  constructor
  · exact lt_of_le_of_lt (sub_le_sub_left hb (f a')) ha'b.1
  · exact lt_of_le_of_lt (sub_le_sub_left ha (g b')) hab'.2

/-- A head that is too early for the other head is too early for everything after it. -/
theorem not_of_le_right {a : α} {b b' : β} (h : ¬ Near f g w a b) (hle : f a ≤ g b)
    (hb : g b ≤ g b') : ¬ Near f g w a b' := by
  intro h'
  refine h ?_
  unfold Near at h' ⊢
  rw [abs_sub_lt_iff] at h' ⊢
  have hlt : g b - f a < w := lt_of_le_of_lt (sub_le_sub_right hb (f a)) h'.2
  refine ⟨lt_of_le_of_lt ?_ hlt, hlt⟩
  exact le_trans (sub_nonpos.mpr hle) (sub_nonneg.mpr hle)

omit [IsOrderedAddMonoid G] in
theorem symm {a : α} {b : β} (h : Near f g w a b) : Near g f w b a := by
  unfold Near at h ⊢
  rwa [abs_sub_comm]

end Near

/-! ## Matchings -/

namespace IsMatching

variable {M : Multiset (α × β)} {A : Multiset α} {B : Multiset β}

/-- A matching read in the other direction. -/
theorem swap (h : IsMatching f g w M A B) : IsMatching g f w (M.map Prod.swap) B A := by
  refine ⟨?_, ?_, ?_⟩
  · rw [Multiset.map_map]
    exact h.snd_le
  · rw [Multiset.map_map]
    exact h.fst_le
  · intro p hp
    obtain ⟨q, hq, rfl⟩ := Multiset.mem_map.mp hp
    exact (h.near q hq).symm

/-- An empty side leaves nothing to match. -/
theorem card_eq_zero (h : IsMatching f g w M 0 B) : M.card = 0 := by
  rw [← Multiset.card_map Prod.fst M, Multiset.le_zero.mp h.fst_le, Multiset.card_zero]

/-- An element without a near partner is not used. -/
theorem drop_left {a : α} (h : IsMatching f g w M (a ::ₘ A) B)
    (hfar : ∀ b ∈ B, ¬ Near f g w a b) : IsMatching f g w M A B := by
  refine ⟨?_, h.snd_le, h.near⟩
  rw [← Multiset.le_cons_of_notMem (a := a)]
  · exact h.fst_le
  · intro ha
    obtain ⟨p, hp, rfl⟩ := Multiset.mem_map.mp ha
    exact hfar p.2 (Multiset.mem_of_le h.snd_le (Multiset.mem_map_of_mem _ hp)) (h.near p hp)

theorem drop_right {b : β} (h : IsMatching f g w M A (b ::ₘ B))
    (hfar : ∀ a ∈ A, ¬ Near f g w a b) : IsMatching f g w M A B := by
  have hswap := h.swap.drop_left fun a ha hn => hfar a ha hn.symm
  have := hswap.swap
  rwa [Multiset.map_map, Prod.swap_swap_eq, Multiset.map_id] at this

/-- A matching that uses the added element has a pair with it. -/
theorem exists_cons_left {a : α} (h : IsMatching f g w M (a ::ₘ A) B)
    (hfst : ¬ M.map Prod.fst ≤ A) : ∃ b M', M = (a, b) ::ₘ M' := by
  have ha : a ∈ M.map Prod.fst := by
    by_contra hmem
    exact hfst ((Multiset.le_cons_of_notMem hmem).mp h.fst_le)
  obtain ⟨⟨a', b⟩, hp, rfl⟩ := Multiset.mem_map.mp ha
  obtain ⟨M', hM'⟩ := Multiset.exists_cons_of_mem hp
  exact ⟨b, M', hM'⟩

theorem exists_cons_right {b : β} (h : IsMatching f g w M A (b ::ₘ B))
    (hsnd : ¬ M.map Prod.snd ≤ B) : ∃ a M', M = (a, b) ::ₘ M' := by
  have hb : b ∈ M.map Prod.snd := by
    by_contra hmem
    exact hsnd ((Multiset.le_cons_of_notMem hmem).mp h.snd_le)
  obtain ⟨⟨a, b'⟩, hp, rfl⟩ := Multiset.mem_map.mp hb
  obtain ⟨M', hM'⟩ := Multiset.exists_cons_of_mem hp
  exact ⟨a, M', hM'⟩

/-- If `a` and `b` are the smallest of their sides, some matching of the rest is smaller by at
most one pair: at worst `a` and `b` were paired with others, whose partners then pair up. -/
theorem exchange [IsOrderedAddMonoid G] {a : α} {b : β}
    (h : IsMatching f g w M (a ::ₘ A) (b ::ₘ B)) (ha : ∀ a' ∈ A, f a ≤ f a')
    (hb : ∀ b' ∈ B, g b ≤ g b') : ∃ M', IsMatching f g w M' A B ∧ M.card ≤ M'.card + 1 := by
  by_cases hfst : M.map Prod.fst ≤ A
  · -- `a` is free: give up the pair of `b`, if there is one
    by_cases hsnd : M.map Prod.snd ≤ B
    · exact ⟨M, ⟨hfst, hsnd, h.near⟩, Nat.le_succ _⟩
    · obtain ⟨a', M₁, rfl⟩ := h.exists_cons_right hsnd
      rw [Multiset.map_cons] at hfst
      have hsnd' := h.snd_le
      rw [Multiset.map_cons, Multiset.cons_le_cons_iff] at hsnd'
      refine ⟨M₁, ⟨(Multiset.le_cons_self _ _).trans hfst, hsnd', fun q hq =>
        h.near q (Multiset.mem_cons_of_mem hq)⟩, ?_⟩
      rw [Multiset.card_cons]
  · obtain ⟨b', M₁, rfl⟩ := h.exists_cons_left hfst
    have hfst' := h.fst_le
    rw [Multiset.map_cons, Multiset.cons_le_cons_iff] at hfst'
    have hsnd' := h.snd_le
    rw [Multiset.map_cons] at hsnd'
    have hM₁ : IsMatching f g w M₁ A (b ::ₘ B) :=
      ⟨hfst', (Multiset.le_cons_self _ _).trans hsnd', fun q hq =>
        h.near q (Multiset.mem_cons_of_mem hq)⟩
    by_cases hsnd : M₁.map Prod.snd ≤ B
    · refine ⟨M₁, ⟨hfst', hsnd, hM₁.near⟩, ?_⟩
      rw [Multiset.card_cons]
    · -- `(a, b')` and `(a', b)` are both there: pair `a'` with `b'` instead
      obtain ⟨a', M₂, rfl⟩ := hM₁.exists_cons_right hsnd
      rw [Multiset.map_cons] at hfst'
      rw [Multiset.map_cons, Multiset.cons_swap, Multiset.cons_le_cons_iff] at hsnd'
      have ha' : a' ∈ A := Multiset.mem_of_le hfst' (Multiset.mem_cons_self _ _)
      have hb' : b' ∈ B := Multiset.mem_of_le hsnd' (Multiset.mem_cons_self _ _)
      refine ⟨(a', b') ::ₘ M₂, ⟨?_, ?_, ?_⟩, ?_⟩
      · rwa [Multiset.map_cons]
      · rwa [Multiset.map_cons]
      · intro q hq
        rcases Multiset.mem_cons.mp hq with rfl | hq
        · exact (h.near (a, b') (Multiset.mem_cons_self _ _)).uncross
            (hM₁.near (a', b) (Multiset.mem_cons_self _ _)) (ha a' ha') (hb b' hb')
        · exact hM₁.near q (Multiset.mem_cons_of_mem hq)
      · rw [Multiset.card_cons, Multiset.card_cons, Multiset.card_cons]

end IsMatching

/-! ## The greedy matching -/

section Greedy

omit [AddCommGroup G] in
theorem sorted_head {a : α} {as : List α} (h : (a :: as).Pairwise fun x y => f x ≤ f y) :
    ∀ a' ∈ as, f a ≤ f a' :=
  (List.pairwise_cons.mp h).1

/-- Near heads are paired. -/
theorem greedy_of_near {a : α} {b : β} (as : List α) (bs : List β) (h : Near f g w a b) :
    greedy f g w (a :: as) (b :: bs) = (a, b) :: greedy f g w as bs := by
  rw [greedy, if_pos h]

theorem greedy_of_lt {a : α} {b : β} (as : List α) (bs : List β) (h : ¬ Near f g w a b)
    (hlt : f a < g b) : greedy f g w (a :: as) (b :: bs) = greedy f g w as (b :: bs) := by
  rw [greedy, if_neg h, if_pos hlt]

theorem greedy_of_not_lt {a : α} {b : β} (as : List α) (bs : List β) (h : ¬ Near f g w a b)
    (hlt : ¬ f a < g b) : greedy f g w (a :: as) (b :: bs) = greedy f g w (a :: as) bs := by
  rw [greedy, if_neg h, if_neg hlt]

/-- The scan ends when a list does. -/
theorem greedy_end {as : List α} {bs : List β}
    (h : ∀ a as' b bs', as = a :: as' → bs = b :: bs' → False) : greedy f g w as bs = [] := by
  rw [greedy]
  exact h

theorem greedy_nil_left (bs : List β) : greedy f g w [] bs = [] :=
  greedy_end fun _ _ _ _ h => by cases h

theorem greedy_nil_right (as : List α) : greedy f g w as [] = [] :=
  greedy_end fun _ _ _ _ _ h => by cases h

/-- The paired elements of the first list, in its order. -/
theorem greedy_fst_sublist (as : List α) (bs : List β) :
    ((greedy f g w as bs).map Prod.fst).Sublist as := by
  induction as, bs using greedy.induct f g w with
  | case1 a as b bs hnear ih =>
    rw [greedy_of_near as bs hnear, List.map_cons]
    exact ih.cons_cons a
  | case2 a as b bs hfar hlt ih =>
    rw [greedy_of_lt as bs hfar hlt]
    exact ih.cons a
  | case3 a as b bs hfar hlt ih =>
    rw [greedy_of_not_lt as bs hfar hlt]
    exact ih
  | case4 as bs h =>
    rw [greedy_end h]
    exact List.nil_sublist _

theorem greedy_snd_sublist (as : List α) (bs : List β) :
    ((greedy f g w as bs).map Prod.snd).Sublist bs := by
  induction as, bs using greedy.induct f g w with
  | case1 a as b bs hnear ih =>
    rw [greedy_of_near as bs hnear, List.map_cons]
    exact ih.cons_cons b
  | case2 a as b bs hfar hlt ih =>
    rw [greedy_of_lt as bs hfar hlt]
    exact ih
  | case3 a as b bs hfar hlt ih =>
    rw [greedy_of_not_lt as bs hfar hlt]
    exact ih.cons b
  | case4 as bs h =>
    rw [greedy_end h]
    exact List.nil_sublist _

theorem near_of_mem_greedy {as : List α} {bs : List β} :
    ∀ p ∈ greedy f g w as bs, Near f g w p.1 p.2 := by
  induction as, bs using greedy.induct f g w with
  | case1 a as b bs hnear ih =>
    rw [greedy_of_near as bs hnear]
    intro p hp
    rcases List.mem_cons.mp hp with rfl | hp
    · exact hnear
    · exact ih p hp
  | case2 a as b bs hfar hlt ih =>
    rw [greedy_of_lt as bs hfar hlt]
    exact ih
  | case3 a as b bs hfar hlt ih =>
    rw [greedy_of_not_lt as bs hfar hlt]
    exact ih
  | case4 as bs h =>
    rw [greedy_end h]
    exact fun p hp => absurd hp List.not_mem_nil

/-- A head of the second list that is too early for the whole first list plays no part. -/
theorem greedy_drop_early_right [IsOrderedAddMonoid G] {as : List α} {b : β} (bs : List β)
    (hearly : ∀ a ∈ as, g b ≤ f a) (hfar : ∀ a ∈ as, ¬ Near f g w a b) :
    greedy f g w as (b :: bs) = greedy f g w as bs := by
  cases as with
  | nil => rw [greedy_nil_left, greedy_nil_left]
  | cons a as =>
    exact greedy_of_not_lt as bs (hfar a List.mem_cons_self)
      (not_lt.mpr (hearly a List.mem_cons_self))

theorem greedy_drop_early_left [IsOrderedAddMonoid G] {a : α} (as : List α) {bs : List β}
    (hearly : ∀ b ∈ bs, f a < g b) (hfar : ∀ b ∈ bs, ¬ Near f g w a b) :
    greedy f g w (a :: as) bs = greedy f g w as bs := by
  cases bs with
  | nil => rw [greedy_nil_right, greedy_nil_right]
  | cons b bs =>
    exact greedy_of_lt as bs (hfar b List.mem_cons_self) (hearly b List.mem_cons_self)

/-- The head of a sorted first list plays no part if nothing in the second list is near it: what
it is dropped for it leaves to be dropped for, or by, the elements after it. -/
theorem greedy_drop_far_left [IsOrderedAddMonoid G] {a : α} {as : List α} {bs : List β}
    (has : ∀ a' ∈ as, f a ≤ f a') (hfar : ∀ b ∈ bs, ¬ Near f g w a b) :
    greedy f g w (a :: as) bs = greedy f g w as bs := by
  induction bs with
  | nil => rw [greedy_nil_right, greedy_nil_right]
  | cons b bs ih =>
    have hab := hfar b List.mem_cons_self
    by_cases hlt : f a < g b
    · exact greedy_of_lt as bs hab hlt
    · have hba : g b ≤ f a := not_lt.mp hlt
      have hfar' : ∀ a' ∈ as, ¬ Near f g w a' b := fun a' ha' hnear =>
        Near.not_of_le_right (fun h => hab h.symm) hba (has a' ha') hnear.symm
      rw [greedy_of_not_lt as bs hab hlt, ih fun b' hb' => hfar b' (List.mem_cons_of_mem b hb'),
        greedy_drop_early_right bs (fun a' ha' => hba.trans (has a' ha')) hfar']

theorem greedy_drop_far_right [IsOrderedAddMonoid G] {as : List α} {b : β} {bs : List β}
    (hbs : ∀ b' ∈ bs, g b ≤ g b') (hfar : ∀ a ∈ as, ¬ Near f g w a b) :
    greedy f g w as (b :: bs) = greedy f g w as bs := by
  induction as with
  | nil => rw [greedy_nil_left, greedy_nil_left]
  | cons a as ih =>
    have hab := hfar a List.mem_cons_self
    by_cases hlt : f a < g b
    · have hfar' : ∀ b' ∈ bs, ¬ Near f g w a b' := fun b' hb' =>
        Near.not_of_le_right hab hlt.le (hbs b' hb')
      rw [greedy_of_lt as bs hab hlt, ih fun a' ha' => hfar a' (List.mem_cons_of_mem a ha'),
        greedy_drop_early_left as (fun b' hb' => lt_of_lt_of_le hlt (hbs b' hb')) hfar']
    · exact greedy_of_not_lt as bs hab hlt

/-- On sorted lists no matching is larger than the greedy one. -/
theorem card_le_length_greedy [IsOrderedAddMonoid G] {as : List α} {bs : List β}
    (has : as.Pairwise fun x y => f x ≤ f y) (hbs : bs.Pairwise fun x y => g x ≤ g y)
    {M : Multiset (α × β)} (hM : IsMatching f g w M as bs) :
    M.card ≤ (greedy f g w as bs).length := by
  induction as, bs using greedy.induct f g w generalizing M with
  | case1 a as b bs hnear ih =>
    -- the heads are paired: any other matching loses at most one pair without them
    have hcons : IsMatching f g w M (a ::ₘ (as : Multiset α)) (b ::ₘ (bs : Multiset β)) := hM
    obtain ⟨M', hM', hcard⟩ := hcons.exchange (sorted_head has) (sorted_head hbs)
    have hle := ih has.of_cons hbs.of_cons hM'
    rw [greedy_of_near as bs hnear, List.length_cons]
    omega
  | case2 a as b bs hfar hlt ih =>
    rw [greedy_of_lt as bs hfar hlt]
    -- the dropped head is too early for every partner, so no matching uses it
    have hcons : IsMatching f g w M (a ::ₘ (as : Multiset α)) ↑(b :: bs) := hM
    refine ih has.of_cons hbs (hcons.drop_left fun b' hb' => ?_)
    rcases List.mem_cons.mp hb' with rfl | hb'
    · exact hfar
    · exact Near.not_of_le_right hfar hlt.le (sorted_head hbs b' hb')
  | case3 a as b bs hfar hlt ih =>
    rw [greedy_of_not_lt as bs hfar hlt]
    have hcons : IsMatching f g w M ↑(a :: as) (b ::ₘ (bs : Multiset β)) := hM
    refine ih has hbs.of_cons (hcons.drop_right fun a' ha' hn => ?_)
    rcases List.mem_cons.mp ha' with rfl | ha'
    · exact hfar hn
    · exact Near.not_of_le_right (fun h => hfar h.symm) (not_lt.mp hlt)
        (sorted_head has a' ha') hn.symm
  | case4 as bs h =>
    -- one list is at its end: there is nothing to match
    have hempty : as = [] ∨ bs = [] := by
      by_contra hne
      rw [not_or] at hne
      obtain ⟨a, as', rfl⟩ := List.exists_cons_of_ne_nil hne.1
      obtain ⟨b, bs', rfl⟩ := List.exists_cons_of_ne_nil hne.2
      exact h a as' b bs' rfl rfl
    rcases hempty with rfl | rfl
    · rw [hM.card_eq_zero]
      exact Nat.zero_le _
    · rw [← Multiset.card_map Prod.swap M, hM.swap.card_eq_zero]
      exact Nat.zero_le _

/-- The greedy pairs do not cross: both their components are at increasing places. -/
theorem greedy_eq_get (as : List α) (bs : List β) :
    ∃ (i : Fin (greedy f g w as bs).length ↪o Fin as.length)
      (j : Fin (greedy f g w as bs).length ↪o Fin bs.length),
      ∀ k, (greedy f g w as bs).get k = (as.get (i k), bs.get (j k)) := by
  obtain ⟨i, hi⟩ := List.sublist_iff_exists_fin_orderEmbedding_get_eq.mp
    (greedy_fst_sublist (f := f) (g := g) (w := w) as bs)
  obtain ⟨j, hj⟩ := List.sublist_iff_exists_fin_orderEmbedding_get_eq.mp
    (greedy_snd_sublist (f := f) (g := g) (w := w) as bs)
  have hlenA : (greedy f g w as bs).length = ((greedy f g w as bs).map Prod.fst).length :=
    (List.length_map _).symm
  have hlenB : (greedy f g w as bs).length = ((greedy f g w as bs).map Prod.snd).length :=
    (List.length_map _).symm
  refine ⟨(Fin.castOrderIso hlenA).toOrderEmbedding.trans i,
    (Fin.castOrderIso hlenB).toOrderEmbedding.trans j, fun k => Prod.ext ?_ ?_⟩
  · have h := hi (Fin.cast hlenA k)
    rw [List.get_eq_getElem, List.getElem_map] at h
    exact h
  · have h := hj (Fin.cast hlenB k)
    rw [List.get_eq_getElem, List.getElem_map] at h
    exact h

end Greedy

/-! ## Pairs of places -/

/-- No two of the pairs share a component. -/
def DisjointPlaces {m n : ℕ} (S : Finset (Fin m × Fin n)) : Prop :=
  ∀ p ∈ S, ∀ q ∈ S, p.1 = q.1 ∨ p.2 = q.2 → p = q

/-- Elements at distinct places are drawn from the list. -/
theorem map_get_le {l : List α} {s : Multiset (Fin l.length)} (hs : s.Nodup) :
    s.map l.get ≤ l := by
  have hle : s ≤ Finset.univ.val := (Multiset.le_iff_subset hs).mpr fun i _ => Finset.mem_univ i
  have huniv : (Finset.univ.val : Multiset (Fin l.length)).map l.get = l := by
    rw [Fin.univ_val_map, List.ofFn_get]
  calc s.map l.get ≤ Finset.univ.val.map l.get := Multiset.map_le_map hle
    _ = l := huniv

/-- Disjoint near pairs of places are a matching. -/
theorem IsMatching.of_places {as : List α} {bs : List β}
    {S : Finset (Fin as.length × Fin bs.length)} (hS : DisjointPlaces S)
    (hnear : ∀ p ∈ S, Near f g w (as.get p.1) (bs.get p.2)) :
    IsMatching f g w (S.val.map fun p => (as.get p.1, bs.get p.2)) as bs := by
  refine ⟨?_, ?_, ?_⟩
  · rw [Multiset.map_map]
    have hnodup : (S.val.map Prod.fst).Nodup :=
      Multiset.Nodup.map_on (fun p hp q hq h => hS p hp q hq (.inl h)) S.nodup
    have hle := map_get_le (l := as) hnodup
    rwa [Multiset.map_map] at hle
  · rw [Multiset.map_map]
    have hnodup : (S.val.map Prod.snd).Nodup :=
      Multiset.Nodup.map_on (fun p hp q hq h => hS p hp q hq (.inr h)) S.nodup
    have hle := map_get_le (l := bs) hnodup
    rwa [Multiset.map_map] at hle
  · intro p hp
    obtain ⟨q, hq, rfl⟩ := Multiset.mem_map.mp hp
    exact hnear q hq

end ShipMotion.Utils
