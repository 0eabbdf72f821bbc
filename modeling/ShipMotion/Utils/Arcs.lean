import Mathlib.Algebra.Order.Archimedean.Basic
import Mathlib.Algebra.Order.ToIntervalMod
import Mathlib.Tactic.Linarith

/-!
# Short arcs on a circle

Angles are numbers up to whole turns of length `p`, and wrapping brings them into `[a, a + p)`.
Angles on an arc that is short against a turn can be unwound to numbers that are close to each
other, in one way up to a common number of turns. Wrapped, they are still close unless the
seam at `a` cuts the arc.
-/

namespace ShipMotion.Utils
namespace Arcs

variable {α K : Type} [Field K]

/-- `z` is `r` on the list, up to whole turns. -/
def Unwinds (p : K) (l : List α) (r z : α → K) : Prop := ∀ q ∈ l, ∃ k : ℤ, z q = r q + k * p

/-- Any two values on the list differ by less than `w`. -/
def Within [LinearOrder K] (w : K) (l : List α) (z : α → K) : Prop := ∀ q ∈ l, ∀ q' ∈ l, z q - z q' < w

/-- A seam, at `a` and whole turns from it, has values on both sides. -/
def Cut [LinearOrder K] (p a : K) (l : List α) (z : α → K) : Prop :=
  ∃ k : ℤ, ∃ q ∈ l, ∃ q' ∈ l, z q < a + k * p ∧ a + k * p ≤ z q'

variable {p a w : K} {l : List α} {r y z : α → K}

theorem Unwinds.refl (p : K) (l : List α) (r : α → K) : Unwinds p l r r :=
  fun q _ => ⟨0, by rw [Int.cast_zero, zero_mul, add_zero]⟩

theorem Unwinds.symm (h : Unwinds p l r z) : Unwinds p l z r := by
  intro q hq
  obtain ⟨k, hk⟩ := h q hq
  refine ⟨-k, ?_⟩
  rw [hk, Int.cast_neg]
  ring

theorem Unwinds.trans (h : Unwinds p l r y) (h' : Unwinds p l y z) : Unwinds p l r z := by
  intro q hq
  obtain ⟨k, hk⟩ := h q hq
  obtain ⟨k', hk'⟩ := h' q hq
  refine ⟨k + k', ?_⟩
  rw [hk', hk, Int.cast_add]
  ring

variable [LinearOrder K] [IsStrictOrderedRing K]

/-- An integer of turns between two values that are closer than a turn. -/
theorem turns_eq_zero (hp : 0 < p) {k : ℤ} {x : K} (hx : x = k * p) (hlo : -p < x) (hhi : x < p) :
    k = 0 := by
  have hlo' : (-1 : ℤ) < k := by
    have hmul : (((-1 : ℤ) : K)) * p < k * p := by
      rw [← hx, Int.cast_neg, Int.cast_one, neg_one_mul]
      exact hlo
    exact Int.cast_lt.mp (lt_of_mul_lt_mul_right hmul hp.le)
  have hhi' : k < 1 := by
    have hmul : (k : K) * p < ((1 : ℤ) : K) * p := by
      rw [← hx, Int.cast_one, one_mul]
      exact hhi
    exact Int.cast_lt.mp (lt_of_mul_lt_mul_right hmul hp.le)
  omega

/-- Two unwindings of a short arc differ by a common number of turns. -/
theorem unwinds_unique (hp : 0 < p) (hw : w + w ≤ p) (h : Unwinds p l z y) (hz : Within w l z)
    (hy : Within w l y) : ∃ k : ℤ, ∀ q ∈ l, y q = z q + k * p := by
  cases l with
  | nil => exact ⟨0, fun q hq => absurd hq List.not_mem_nil⟩
  | cons q₀ rest =>
    have hq₀ : q₀ ∈ q₀ :: rest := List.mem_cons_self
    obtain ⟨k₀, hk₀⟩ := h q₀ hq₀
    refine ⟨k₀, fun q hq => ?_⟩
    obtain ⟨k, hk⟩ := h q hq
    -- the turns of `q` are those of the head, both being close to it
    have hdiff : (y q - y q₀) - (z q - z q₀) = ((k - k₀ : ℤ) : K) * p := by
      rw [hk, hk₀, Int.cast_sub]
      ring
    have hzero : k - k₀ = 0 := by
      refine turns_eq_zero hp hdiff ?_ ?_
      · have h1 := hy q₀ hq₀ q hq
        have h2 := hz q hq q₀ hq₀
        linarith
      · have h1 := hy q hq q₀ hq₀
        have h2 := hz q₀ hq₀ q hq
        linarith
    rw [hk, sub_eq_zero.mp hzero]

/-- The seams are where they are after any number of turns. -/
theorem cut_congr {k : ℤ} (h : ∀ q ∈ l, y q = z q + k * p) : Cut p a l y ↔ Cut p a l z := by
  constructor
  · rintro ⟨j, q, hq, q', hq', hlt, hle⟩
    rw [h q hq] at hlt
    rw [h q' hq'] at hle
    refine ⟨j - k, q, hq, q', hq', ?_, ?_⟩
    · rw [Int.cast_sub]
      linarith
    · rw [Int.cast_sub]
      linarith
  · rintro ⟨j, q, hq, q', hq', hlt, hle⟩
    refine ⟨j + k, q, hq, q', hq', ?_, ?_⟩
    · rw [h q hq, Int.cast_add]
      linarith
    · rw [h q' hq', Int.cast_add]
      linarith

section Wrap

variable [Archimedean K] (hp : 0 < p)

/-- Wrapping takes away whole turns. -/
theorem unwinds_wrap (a : K) (l : List α) (r : α → K) :
    Unwinds p l r (fun q => toIcoMod hp a (r q)) := by
  intro q _
  refine ⟨-toIcoDiv hp a (r q), ?_⟩
  have h := toIcoMod_add_toIcoDiv_zsmul hp a (r q)
  rw [zsmul_eq_mul] at h
  rw [Int.cast_neg]
  linarith

/-- No seam lies between wrapped values. -/
theorem not_cut_wrap (a : K) (l : List α) (r : α → K) :
    ¬ Cut p a l (fun q => toIcoMod hp a (r q)) := by
  rintro ⟨k, q, _, q', _, hlt, hle⟩
  have hlo := left_le_toIcoMod hp a (r q)
  have hhi := toIcoMod_lt_right hp a (r q')
  -- the seam would be past the one and short of the next
  have hpos : (0 : K) < k * p := by linarith
  have hless : (k : K) * p < p := by linarith
  have hzero := turns_eq_zero hp (rfl : (k : K) * p = k * p) (by linarith) hless
  rw [hzero, Int.cast_zero, zero_mul] at hpos
  exact lt_irrefl 0 hpos

/-- Where the seam does not cut, wrapping takes the same turns away everywhere. -/
theorem toIcoDiv_eq_of_not_cut (h : ¬ Cut p a l z) {q q' : α} (hq : q ∈ l) (hq' : q' ∈ l) :
    toIcoDiv hp a (z q) ≤ toIcoDiv hp a (z q') := by
  by_contra hlt
  have hle : toIcoDiv hp a (z q') + 1 ≤ toIcoDiv hp a (z q) := by omega
  have hq'' := toIcoMod_add_toIcoDiv_zsmul hp a (z q')
  have hqq := toIcoMod_add_toIcoDiv_zsmul hp a (z q)
  rw [zsmul_eq_mul] at hq'' hqq
  have hmul : ((toIcoDiv hp a (z q') + 1 : ℤ) : K) * p ≤ (toIcoDiv hp a (z q) : K) * p :=
    mul_le_mul_of_nonneg_right (Int.cast_le.mpr hle) hp.le
  have hlo := left_le_toIcoMod hp a (z q)
  have hhi := toIcoMod_lt_right hp a (z q')
  rw [Int.cast_add, Int.cast_one, add_mul, one_mul] at hmul
  exact h ⟨toIcoDiv hp a (z q), q', hq', q, hq, by linarith, by linarith⟩

/-- **The seam.** A short arc is still short when wrapped, unless the seam cuts it. -/
theorem within_wrap_iff (hw : w + w ≤ p) (hz : Within w l z) :
    Within w l (fun q => toIcoMod hp a (z q)) ↔ ¬ Cut p a l z := by
  constructor
  · -- the two sides of a cut end up almost a turn apart
    intro hwithin ⟨k, q, hq, q', hq', hlt, hle⟩
    obtain ⟨j, hj⟩ := unwinds_unique hp hw (unwinds_wrap hp a l z) hz hwithin
    exact not_cut_wrap hp a l z ((cut_congr hj).mpr ⟨k, q, hq, q', hq', hlt, hle⟩)
  · intro hcut q hq q' hq'
    have heq : toIcoDiv hp a (z q) = toIcoDiv hp a (z q') :=
      le_antisymm (toIcoDiv_eq_of_not_cut hp hcut hq hq') (toIcoDiv_eq_of_not_cut hp hcut hq' hq)
    have hdiff : toIcoMod hp a (z q) - toIcoMod hp a (z q') = z q - z q' := by
      rw [toIcoMod, toIcoMod, heq, sub_sub_sub_cancel_right]
    show toIcoMod hp a (z q) - toIcoMod hp a (z q') < w
    rw [hdiff]
    exact hz q hq q' hq'

/-- The same for wrapped angles, through any unwinding that is a short arc. -/
theorem within_wrap_iff_of_unwinds (hw : w + w ≤ p) (h : Unwinds p l r z) (hz : Within w l z) :
    Within w l (fun q => toIcoMod hp a (r q)) ↔ ¬ Cut p a l z := by
  have hsame : ∀ q ∈ l, toIcoMod hp a (z q) = toIcoMod hp a (r q) := by
    intro q hq
    obtain ⟨k, hk⟩ := h q hq
    rw [hk, ← zsmul_eq_mul, toIcoMod_add_zsmul]
  rw [← within_wrap_iff hp hw hz]
  refine forall₂_congr fun q hq => forall₂_congr fun q' hq' => ?_
  dsimp only
  rw [hsame q hq, hsame q' hq']

end Wrap

/-! ## Distances on the circle -/

/-- The distance of two angles on the circle: the least one up to whole turns. -/
def IsCircleDist (p x y d : K) : Prop := IsLeast {e | ∃ k : ℤ, e = |x - y + k * p|} d

/-- No whole turn brings a number of at most half a turn nearer to zero. -/
theorem abs_le_abs_add_turns (hp : 0 < p) {z : K} (hlo : -p ≤ z + z) (hhi : z + z ≤ p) (k : ℤ) :
    |z| ≤ |z + k * p| := by
  rcases lt_trichotomy k 0 with hk | hk | hk
  · have hle : (k : K) * p ≤ -p := by
      have hcast : (k : K) ≤ -1 := by exact_mod_cast Int.le_sub_one_of_lt hk
      have hmul := mul_le_mul_of_nonneg_right hcast hp.le
      rwa [neg_one_mul] at hmul
    have hneg : z + k * p ≤ 0 := by linarith
    rw [abs_of_nonpos hneg]
    exact abs_le.mpr ⟨by linarith, by linarith⟩
  · rw [hk, Int.cast_zero, zero_mul, add_zero]
  · have hge : p ≤ (k : K) * p := by
      have hcast : (1 : K) ≤ k := by exact_mod_cast hk
      have hmul := mul_le_mul_of_nonneg_right hcast hp.le
      rwa [one_mul] at hmul
    have hpos : 0 ≤ z + k * p := by linarith
    rw [abs_of_nonneg hpos]
    exact abs_le.mpr ⟨by linarith, by linarith⟩

/-- A difference of at most half a turn has the distance on the circle as its size. -/
theorem isCircleDist_of_short (hp : 0 < p) {x y z : K} {k : ℤ} (hz : z = x - y + k * p)
    (hlo : -p ≤ z + z) (hhi : z + z ≤ p) : IsCircleDist p x y |z| := by
  refine ⟨⟨k, by rw [hz]⟩, ?_⟩
  rintro e ⟨j, rfl⟩
  have hj : x - y + j * p = z + ((j - k : ℤ) : K) * p := by
    rw [hz, Int.cast_sub]
    ring
  rw [hj]
  exact abs_le_abs_add_turns hp hlo hhi (j - k)

end Arcs
end ShipMotion.Utils
