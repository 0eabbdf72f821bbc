import ShipMotion.Utils.Samples
import ShipMotion.WharfDockCheckerTheorems

/-!
# The fit of the wharf line

In terms of means and covariances the line fitted to the points has the normal
`(cov x y, -cov y y)`. Points on a line satisfy it only if that line has slope one or minus one,
the coefficient `C` belongs to no regression, and points of equal `y` are turned away. The
file has the exact condition on the points for the fit to go through a straight row of them
and through their centroid.
-/

namespace ShipMotion
namespace WharfDockChecker

open Utils.Samples

/-! ## The coefficients -/

/-- `fitWharfLine` with another test of the norm. -/
noncomputable def fitWharfLineWith (tooSmall : ℝ → Prop) [DecidablePred tooSmall]
    (self : State ℝ) (wharf_points : List (Point3d ℝ)) : State ℝ × Bool :=
  let n := wharf_points.length
  if n < 2 then (self, false)
  else
    let s := sumLoop ⟨0, 0, 0, 0, 0⟩ wharf_points
    let A := n * s.xy_sum - s.x_sum * s.y_sum
    let B := s.y_sum * s.y_sum - n * s.y2_sum
    let C := s.x_sum * (s.y2_sum - s.xy_sum) - s.y_sum * (s.x2_sum - s.xy_sum)
    let norm := Real.sqrt (A * A + B * B)
    if tooSmall norm then (self, false)
    else ({ self with wharf_A_ := A / norm, wharf_B_ := B / norm, wharf_C_ := C / norm }, true)

theorem fitWharfLine_eq (self : State ℝ) (wharf_points : List (Point3d ℝ)) :
    fitWharfLine .real self wharf_points
      = fitWharfLineWith (fun norm => norm < 1e-6) self wharf_points := rfl

/-- The fit with the guard read as a test for zero. -/
noncomputable def fitWharfLineExact (self : State ℝ) (wharf_points : List (Point3d ℝ)) :
    State ℝ × Bool :=
  fitWharfLineWith (fun norm => norm = 0) self wharf_points

/-- The loop sums up. -/
theorem sumLoop_eq (s : Sums ℝ) (points : List (Point3d ℝ)) :
    sumLoop s points =
      { x_sum := s.x_sum + (points.map (·.x)).sum
        y_sum := s.y_sum + (points.map (·.y)).sum
        x2_sum := s.x2_sum + (points.map fun p => p.x * p.x).sum
        y2_sum := s.y2_sum + (points.map fun p => p.y * p.y).sum
        xy_sum := s.xy_sum + (points.map fun p => p.x * p.y).sum } := by
  induction points generalizing s with
  | nil => simp [sumLoop]
  | cons p rest ih =>
    rw [sumLoop, ih]
    simp only [List.map_cons, List.sum_cons, add_assoc]

/-- The coefficients before they are divided by the norm, and by the square of the number of
points. -/
noncomputable def coeffA (points : List (Point3d ℝ)) : ℝ := cov points (·.x) (·.y)

noncomputable def coeffB (points : List (Point3d ℝ)) : ℝ := -cov points (·.y) (·.y)

noncomputable def coeffC (points : List (Point3d ℝ)) : ℝ :=
  mean points (·.x) * (mean points (fun p => p.y * p.y) - mean points (fun p => p.x * p.y))
    - mean points (·.y) * (mean points (fun p => p.x * p.x) - mean points (fun p => p.x * p.y))

/-- Scaling both coefficients scales the norm. -/
theorem sqrt_scale {c : ℝ} (hc : 0 ≤ c) (a b : ℝ) :
    Real.sqrt (c * a * (c * a) + c * b * (c * b)) = c * Real.sqrt (a * a + b * b) := by
  have hfactor : c * a * (c * a) + c * b * (c * b) = c * c * (a * a + b * b) := by ring
  rw [hfactor, Real.sqrt_mul (mul_self_nonneg c), Real.sqrt_mul_self hc]

/-- The norm of the normal before the division. -/
noncomputable def normalNorm (points : List (Point3d ℝ)) : ℝ :=
  Real.sqrt (coeffA points * coeffA points + coeffB points * coeffB points)

/-- What a fit leaves: the line with these coefficients, divided by their norm. -/
theorem fitWharfLineWith_eq (tooSmall : ℝ → Prop) [DecidablePred tooSmall] (self : State ℝ)
    {points : List (Point3d ℝ)} (h : points ≠ []) :
    fitWharfLineWith tooSmall self points =
      if points.length < 2 then (self, false)
      else if tooSmall (points.length * points.length * normalNorm points) then (self, false)
      else
        ({ self with wharf_A_ := coeffA points / normalNorm points
                     wharf_B_ := coeffB points / normalNorm points
                     wharf_C_ := coeffC points / normalNorm points }, true) := by
  have hlen : (points.length : ℝ) ≠ 0 := Nat.cast_ne_zero.mpr (mt List.length_eq_zero_iff.mp h)
  have hsq : (points.length : ℝ) * points.length ≠ 0 := mul_ne_zero hlen hlen
  unfold fitWharfLineWith
  simp only [sumLoop_eq, zero_add, sum_eq h]
  -- the sums give the coefficients, times the square of the number of points
  have hA : (points.length : ℝ) * (points.length * mean points fun p => p.x * p.y)
      - points.length * mean points (·.x) * (points.length * mean points (·.y))
      = points.length * points.length * coeffA points := by
    rw [coeffA, cov]
    ring
  have hB : points.length * mean points (·.y) * (points.length * mean points (·.y))
      - points.length * (points.length * mean points fun p => p.y * p.y)
      = points.length * points.length * coeffB points := by
    rw [coeffB, cov]
    ring
  have hC : points.length * mean points (·.x)
        * (points.length * mean points (fun p => p.y * p.y)
          - points.length * mean points fun p => p.x * p.y)
      - points.length * mean points (·.y)
        * (points.length * mean points (fun p => p.x * p.x)
          - points.length * mean points fun p => p.x * p.y)
      = points.length * points.length * coeffC points := by
    rw [coeffC]
    ring
  rw [hA, hB, hC, sqrt_scale (mul_self_nonneg _)]
  simp only [mul_div_mul_left _ _ hsq]
  rfl

/-- With the guard as a test for zero. -/
theorem fitWharfLineExact_eq (self : State ℝ) {points : List (Point3d ℝ)} (h : points ≠ []) :
    fitWharfLineExact self points =
      if points.length < 2 then (self, false)
      else if normalNorm points = 0 then (self, false)
      else
        ({ self with wharf_A_ := coeffA points / normalNorm points
                     wharf_B_ := coeffB points / normalNorm points
                     wharf_C_ := coeffC points / normalNorm points }, true) := by
  have hlen : (points.length : ℝ) ≠ 0 := Nat.cast_ne_zero.mpr (mt List.length_eq_zero_iff.mp h)
  rw [fitWharfLineExact, fitWharfLineWith_eq _ self h]
  simp only [mul_eq_zero, hlen, or_self, false_or]

/-- The code's guard decides in the same way unless the norm is tiny and not zero. -/
theorem fitWharfLine_eq_exact (self : State ℝ) {points : List (Point3d ℝ)} (h : points ≠ [])
    (hnorm : normalNorm points = 0 ∨ 1e-6 ≤ points.length * points.length * normalNorm points) :
    fitWharfLine .real self points = fitWharfLineExact self points := by
  rw [fitWharfLine_eq, fitWharfLineWith_eq _ self h, fitWharfLineExact_eq self h]
  rcases hnorm with hzero | hlarge
  · rw [hzero, mul_zero, if_pos (by norm_num : (0 : ℝ) < 1e-6), if_pos (rfl : (0 : ℝ) = 0)]
  · have hne : normalNorm points ≠ 0 := by
      intro hzero
      rw [hzero, mul_zero] at hlarge
      norm_num at hlarge
    rw [if_neg (not_lt.mpr hlarge), if_neg hne]

/-! ## When a line is fitted -/

/-- The points do not all have the same `y`. -/
def VariesInY (points : List (Point3d ℝ)) : Prop := ∃ p ∈ points, ∃ q ∈ points, p.y ≠ q.y

/-- A variable that takes one value has no covariance. -/
theorem cov_y_eq_zero {points : List (Point3d ℝ)} (hne : points ≠ []) (h : ¬ VariesInY points)
    (g : Point3d ℝ → ℝ) : cov points (·.y) g = 0 := by
  obtain ⟨p, rest, hpoints⟩ := List.exists_cons_of_ne_nil hne
  have hp : p ∈ points := by
    rw [hpoints]
    exact List.mem_cons_self
  have hconst : ∀ q ∈ points, 1 * q.y + 0 * q.y + -p.y = 0 := by
    intro q hq
    have heq : q.y = p.y := by
      by_contra hdiff
      exact h ⟨q, hq, p, hp, hdiff⟩
    rw [heq]
    ring
  have hlinear := cov_linear (f := fun q : Point3d ℝ => q.y) (g := fun q => q.y) (h := g) hne
    1 0 (-p.y)
  rw [cov_eq_zero hconst, one_mul, zero_mul, add_zero] at hlinear
  exact hlinear.symm

theorem cov_yy_ne_zero_iff {points : List (Point3d ℝ)} (hne : points ≠ []) :
    cov points (·.y) (·.y) ≠ 0 ↔ VariesInY points := by
  constructor
  · intro h
    by_contra hsame
    exact h (cov_y_eq_zero hne hsame _)
  · rintro ⟨p, hp, q, hq, hdiff⟩ hzero
    have hall := (cov_self_eq_zero_iff hne).mp hzero
    exact hdiff ((hall p hp).trans (hall q hq).symm)

theorem normalNorm_eq_zero_iff {points : List (Point3d ℝ)} (hne : points ≠ []) :
    normalNorm points = 0 ↔ ¬ VariesInY points := by
  have hnonneg : 0 ≤ coeffA points * coeffA points + coeffB points * coeffB points :=
    add_nonneg (mul_self_nonneg _) (mul_self_nonneg _)
  rw [normalNorm, Real.sqrt_eq_zero hnonneg, mul_self_add_mul_self_eq_zero]
  constructor
  · rintro ⟨_, hB⟩ hvaries
    exact (cov_yy_ne_zero_iff hne).mpr hvaries (neg_eq_zero.mp hB)
  · intro h
    rw [coeffA, coeffB, cov_comm, cov_y_eq_zero hne h, cov_y_eq_zero hne h, neg_zero]
    exact ⟨rfl, rfl⟩

/-- Points of different `y` are at least two, and get a line. -/
theorem fitWharfLineExact_of_varies (self : State ℝ) {points : List (Point3d ℝ)}
    (h : VariesInY points) :
    normalNorm points ≠ 0 ∧
    fitWharfLineExact self points =
      ({ self with wharf_A_ := coeffA points / normalNorm points
                   wharf_B_ := coeffB points / normalNorm points
                   wharf_C_ := coeffC points / normalNorm points }, true) := by
  obtain ⟨p, hp, q, hq, hdiff⟩ := h
  have hne : points ≠ [] := List.ne_nil_of_mem hp
  have hlen : ¬ points.length < 2 := by
    intro hshort
    have hone : points.length = 1 := by
      have := List.length_pos_iff.mpr hne
      omega
    obtain ⟨r, rfl⟩ := List.length_eq_one_iff.mp hone
    rw [List.mem_singleton.mp hp, List.mem_singleton.mp hq] at hdiff
    exact hdiff rfl
  have hnorm : normalNorm points ≠ 0 := fun hzero =>
    (normalNorm_eq_zero_iff hne).mp hzero ⟨p, hp, q, hq, hdiff⟩
  rw [fitWharfLineExact_eq self hne, if_neg hlen, if_neg hnorm]
  exact ⟨hnorm, rfl⟩

/-- All other lists are turned away. -/
theorem fitWharfLineExact_of_not_varies (self : State ℝ) {points : List (Point3d ℝ)}
    (h : ¬ VariesInY points) : fitWharfLineExact self points = (self, false) := by
  by_cases hne : points = []
  · rw [hne]
    rfl
  · rw [fitWharfLineExact_eq self hne, if_pos ((normalNorm_eq_zero_iff hne).mpr h), ite_self]

/-! ## Straight rows and centroids -/

/-- The points lie on a straight line of the plane. -/
def OnLine (points : List (Point3d ℝ)) : Prop :=
  ∃ a b c : ℝ, (a ≠ 0 ∨ b ≠ 0) ∧ ∀ p ∈ points, a * p.x + b * p.y + c = 0

/-- The points are not all the same point of the plane. -/
def NotAllEqual (points : List (Point3d ℝ)) : Prop :=
  ∃ p ∈ points, ∃ q ∈ points, p.x ≠ q.x ∨ p.y ≠ q.y

/-- Any two points are as far apart in `x` as in `y`. -/
def Diagonal (points : List (Point3d ℝ)) : Prop :=
  ∀ p ∈ points, ∀ q ∈ points, (p.x - q.x) ^ 2 = (p.y - q.y) ^ 2

/-- The relation of means, variances and covariance that puts the centroid on the line. -/
def CentroidFits (points : List (Point3d ℝ)) : Prop :=
  mean points (·.y) * (cov points (·.x) (·.y) - cov points (·.x) (·.x))
    = (mean points (·.x) - mean points (·.y))
      * (2 * mean points (·.x) * mean points (·.y) - cov points (·.y) (·.y))

theorem centroid_iff (points : List (Point3d ℝ)) :
    coeffA points * mean points (·.x) + coeffB points * mean points (·.y) + coeffC points = 0 ↔
      CentroidFits points := by
  rw [CentroidFits, ← sub_eq_zero (b := (_ - _) * _)]
  refine Eq.congr_left ?_
  simp only [coeffA, coeffB, coeffC, cov]
  ring

/-- The mean of a line's values at the points is its value at the centroid. -/
theorem value_centroid {points : List (Point3d ℝ)} (hne : points ≠ []) (a b c : ℝ) :
    mean points (fun p => a * p.x + b * p.y + c)
      = a * mean points (·.x) + b * mean points (·.y) + c :=
  mean_linear hne a b c

/-- A line through all points goes through their centroid. -/
theorem centroidFits_of_through {points : List (Point3d ℝ)} (hne : points ≠ [])
    (h : ∀ p ∈ points, coeffA points * p.x + coeffB points * p.y + coeffC points = 0) :
    CentroidFits points := by
  rw [← centroid_iff, ← value_centroid hne, mean_congr h, mean_const hne]

/-- The normal of a straight row and the fitted one. -/
theorem normal_relation {points : List (Point3d ℝ)} (hne : points ≠ []) {a b c : ℝ}
    (h : ∀ p ∈ points, a * p.x + b * p.y + c = 0) :
    a * coeffA points - b * coeffB points = 0 := by
  have hlinear := cov_linear (f := fun p : Point3d ℝ => p.x) (g := fun p => p.y)
    (h := fun p => p.y) hne a b c
  rw [cov_eq_zero h] at hlinear
  rw [coeffA, coeffB]
  linarith

/-- The fitted line goes through a straight row of points if and only if the row is diagonal
and the line goes through its centroid. -/
theorem through_row_iff {points : List (Point3d ℝ)} (hline : OnLine points)
    (hvaries : VariesInY points) :
    (∀ p ∈ points, coeffA points * p.x + coeffB points * p.y + coeffC points = 0) ↔
      Diagonal points ∧ CentroidFits points := by
  obtain ⟨p₀, hp₀, q₀, hq₀, hdiff⟩ := hvaries
  have hne : points ≠ [] := List.ne_nil_of_mem hp₀
  obtain ⟨a, b, c, hab, hrow⟩ := hline
  have hB : coeffB points ≠ 0 := neg_ne_zero.mpr
    ((cov_yy_ne_zero_iff hne).mpr ⟨p₀, hp₀, q₀, hq₀, hdiff⟩)
  have hnormal := normal_relation hne hrow
  have ha : a ≠ 0 := by
    intro hzero
    rw [hzero, zero_mul, zero_sub, neg_eq_zero, mul_eq_zero] at hnormal
    exact hab.elim (fun h => h hzero) fun h => h (hnormal.resolve_right hB)
  -- along the row `a Δx + b Δy` is zero
  have hstep : ∀ p ∈ points, ∀ q ∈ points, a * (p.x - q.x) + b * (p.y - q.y) = 0 := by
    intro p hp q hq
    linear_combination hrow p hp - hrow q hq
  constructor
  · intro hthrough
    refine ⟨fun p hp q hq => ?_, centroidFits_of_through hne hthrough⟩
    have hfit : coeffA points * (p.x - q.x) + coeffB points * (p.y - q.y) = 0 := by
      linear_combination hthrough p hp - hthrough q hq
    -- the two directions are parallel, which swaps `a` and `b`
    have hswap : b * (p.x - q.x) + a * (p.y - q.y) = 0 := by
      have hscaled : coeffB points * (b * (p.x - q.x) + a * (p.y - q.y)) = 0 := by
        linear_combination a * hfit - (p.x - q.x) * hnormal
      exact (mul_eq_zero.mp hscaled).resolve_left hB
    have hscaled : a * ((p.x - q.x) ^ 2 - (p.y - q.y) ^ 2) = 0 := by
      linear_combination (p.x - q.x) * hstep p hp q hq - (p.y - q.y) * hswap
    exact sub_eq_zero.mp ((mul_eq_zero.mp hscaled).resolve_left ha)
  · rintro ⟨hdiagonal, hcentroid⟩
    have hsquare : a ^ 2 - b ^ 2 = 0 := by
      have hscaled : (a ^ 2 - b ^ 2) * (p₀.y - q₀.y) ^ 2 = 0 := by
        linear_combination (a * (p₀.x - q₀.x) - b * (p₀.y - q₀.y)) * hstep p₀ hp₀ q₀ hq₀
          - a ^ 2 * hdiagonal p₀ hp₀ q₀ hq₀
      exact (mul_eq_zero.mp hscaled).resolve_right (pow_ne_zero 2 (sub_ne_zero.mpr hdiff))
    -- the fitted line has the same value at all points, which is that at the centroid
    have hsame : ∀ p ∈ points, ∀ q ∈ points,
        coeffA points * q.x + coeffB points * q.y + coeffC points
          = coeffA points * p.x + coeffB points * p.y + coeffC points := by
      intro p hp q hq
      have hscaled : a * a * (coeffA points * (q.x - p.x) + coeffB points * (q.y - p.y)) = 0 := by
        linear_combination a * (q.x - p.x) * hnormal + b * coeffB points * hstep q hq p hp
          + coeffB points * (q.y - p.y) * hsquare
      have hzero := (mul_eq_zero.mp hscaled).resolve_left (mul_ne_zero ha ha)
      linear_combination hzero
    intro p hp
    rw [← centroid_iff, ← value_centroid hne, mean_congr (hsame p hp), mean_const hne] at hcentroid
    exact hcentroid

/-! ## The exact condition -/

/-- What is asked of a fit: a straight row of points, not all equal, gets a line at distance
zero from each of them, and every line it returns goes through the centroid. -/
structure FitsLeastSquares (checker : State ℝ) (points : List (Point3d ℝ)) : Prop where
  straight : OnLine points → NotAllEqual points →
    (fitWharfLineExact checker points).2 = true ∧
    ∀ p ∈ points, distanceToWharf (fitWharfLineExact checker points).1 p.x p.y = 0
  centroid : (fitWharfLineExact checker points).2 = true →
    (fitWharfLineExact checker points).1.wharf_A_ * mean points (·.x)
      + (fitWharfLineExact checker points).1.wharf_B_ * mean points (·.y)
      + (fitWharfLineExact checker points).1.wharf_C_ = 0

/-- The division by the norm does not change where the line is. -/
theorem normalized_eq_zero_iff {norm : ℝ} (h : norm ≠ 0) (A B C x y : ℝ) :
    A / norm * x + B / norm * y + C / norm = 0 ↔ A * x + B * y + C = 0 := by
  have hfrac : A / norm * x + B / norm * y + C / norm = (A * x + B * y + C) / norm := by ring
  rw [hfrac, div_eq_zero_iff, or_iff_left h]

/-- The distance is zero on the line of the unnormalized coefficients. -/
theorem distance_eq_zero_iff (checker : State ℝ) {points : List (Point3d ℝ)}
    (hvaries : VariesInY points) (p : Point3d ℝ) :
    distanceToWharf (fitWharfLineExact checker points).1 p.x p.y = 0 ↔
      coeffA points * p.x + coeffB points * p.y + coeffC points = 0 := by
  obtain ⟨hnorm, hfit⟩ := fitWharfLineExact_of_varies checker hvaries
  rw [hfit, distanceToWharf, abs_eq_zero]
  exact normalized_eq_zero_iff hnorm _ _ _ _ _

/-- Points of equal `y` on a diagonal are all equal. -/
theorem not_diagonal_of_not_varies {points : List (Point3d ℝ)} (hvaries : ¬ VariesInY points)
    (hall : NotAllEqual points) : ¬ Diagonal points := by
  intro hdiagonal
  obtain ⟨p, hp, q, hq, hdiff⟩ := hall
  have hy : p.y = q.y := by
    by_contra hne
    exact hvaries ⟨p, hp, q, hq, hne⟩
  have hsq := hdiagonal p hp q hq
  rw [hy, sub_self, zero_pow two_ne_zero, pow_eq_zero_iff two_ne_zero, sub_eq_zero] at hsq
  exact hdiff.elim (fun h => h hsq) fun h => h hy

/-- **When the fit is one.** On any list of points, `fitWharfLine` with the guard read as a
test for zero goes through a straight row and through the centroid as asked, if and only if a
straight row of points that are not all equal is diagonal, and points of different `y` satisfy
the relation of their means, variances and covariance. -/
theorem fitWharfLine_iff (checker : State ℝ) (points : List (Point3d ℝ)) :
    FitsLeastSquares checker points ↔
      (OnLine points → NotAllEqual points → Diagonal points) ∧
      (VariesInY points → CentroidFits points) := by
  by_cases hvaries : VariesInY points
  · obtain ⟨hnorm, hfit⟩ := fitWharfLineExact_of_varies checker hvaries
    have hdist := distance_eq_zero_iff checker hvaries
    constructor
    · rintro ⟨hstraight, hcentroid⟩
      refine ⟨fun hline hall => ?_, fun _ => ?_⟩
      · refine ((through_row_iff hline hvaries).mp fun p hp => ?_).1
        exact (hdist p).mp ((hstraight hline hall).2 p hp)
      · rw [hfit] at hcentroid
        exact (centroid_iff points).mp ((normalized_eq_zero_iff hnorm _ _ _ _ _).mp (hcentroid rfl))
    · rintro ⟨hdiagonal, hcentroid⟩
      refine ⟨fun hline hall => ⟨by rw [hfit], fun p hp => (hdist p).mpr ?_⟩, fun _ => ?_⟩
      · exact (through_row_iff hline hvaries).mpr ⟨hdiagonal hline hall, hcentroid hvaries⟩ p hp
      · rw [hfit]
        refine (normalized_eq_zero_iff hnorm _ _ _ _ _).mpr ?_
        exact (centroid_iff points).mpr (hcentroid hvaries)
  · -- a row of equal `y` is turned away, and is not diagonal
    have hfit := fitWharfLineExact_of_not_varies checker hvaries
    constructor
    · rintro ⟨hstraight, _⟩
      refine ⟨fun hline hall => ?_, fun h => absurd h hvaries⟩
      have hfound := (hstraight hline hall).1
      rw [hfit] at hfound
      cases hfound
    · rintro ⟨hdiagonal, _⟩
      refine ⟨fun hline hall => ?_, fun hfound => ?_⟩
      · exact absurd (hdiagonal hline hall) (not_diagonal_of_not_varies hvaries hall)
      · rw [hfit] at hfound
        cases hfound

/-- A wharf parallel to the first axis, one metre from it. -/
def straightWharf : List (Point3d ℝ) := [⟨0, 1, 0⟩, ⟨1, 1, 0⟩]

/-- Its two points are on a line, and neither the exact guard nor that of the code lets a line be
fitted. -/
theorem fitWharfLine_turns_away :
    OnLine straightWharf ∧ NotAllEqual straightWharf ∧
    (fitWharfLineExact moored straightWharf).2 = false ∧
    (fitWharfLine .real moored straightWharf).2 = false ∧
    ¬ FitsLeastSquares moored straightWharf := by
  have hline : OnLine straightWharf := by
    refine ⟨0, 1, -1, .inr one_ne_zero, fun p hp => ?_⟩
    simp only [straightWharf, List.mem_cons, List.not_mem_nil, or_false] at hp
    rcases hp with rfl | rfl <;> norm_num
  have hall : NotAllEqual straightWharf :=
    ⟨⟨0, 1, 0⟩, by simp [straightWharf], ⟨1, 1, 0⟩, by simp [straightWharf], .inl zero_ne_one⟩
  have hvaries : ¬ VariesInY straightWharf := by
    rintro ⟨p, hp, q, hq, hdiff⟩
    simp only [straightWharf, List.mem_cons, List.not_mem_nil, or_false] at hp hq
    rcases hp with rfl | rfl <;> rcases hq with rfl | rfl <;> exact hdiff rfl
  have hfit := fitWharfLineExact_of_not_varies moored hvaries
  refine ⟨hline, hall, by rw [hfit], ?_, fun h => ?_⟩
  · norm_num [fitWharfLine, sumLoop, straightWharf, Cmath.real]
  · have hfound := (h.straight hline hall).1
    rw [hfit] at hfound
    cases hfound

end WharfDockChecker
end ShipMotion
