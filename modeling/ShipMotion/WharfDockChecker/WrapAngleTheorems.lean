import ShipMotion.WharfDockChecker.SeamTheorems

/-!
# What `wrapAngle` computes

The angle is brought into `[-180, 180)` by whole turns, for every angle however large. Taken of
a difference, its size is the distance of the two headings on the circle.
-/

namespace ShipMotion
namespace WharfDockChecker

open Utils.Arcs

theorem wrapAngle_idem (deg : ℝ) : wrapAngle (wrapAngle deg) = wrapAngle deg := by
  have h := wrapAngle_wrapAngle_sub deg 0
  rwa [sub_zero, sub_zero] at h

/-- The wrapped difference is the shortest way round. -/
theorem isCircleDist_wrapAngle (x y : ℝ) : IsCircleDist 360 x y |wrapAngle (x - y)| := by
  obtain ⟨hlo, hhi⟩ := wrapAngle_mem (x - y)
  obtain ⟨k, hk⟩ := wrapAngle_turns (x - y)
  refine isCircleDist_of_short turn_pos (k := -k) ?_ (by linarith) (by linarith)
  rw [Int.cast_neg]
  linarith

/-- **`wrapAngle` is the angle up to whole turns.** For every real angle the result lies in
`[-180, 180)` and differs from the angle by whole turns; wrapping again, or turning by whole turns
before wrapping, changes nothing; and the size of a wrapped difference is the distance on the
circle. -/
theorem wrapAngle_spec :
    (∀ deg : ℝ, -180 ≤ wrapAngle deg ∧ wrapAngle deg < 180) ∧
    (∀ deg : ℝ, ∃ k : ℤ, wrapAngle deg = deg + k * 360) ∧
    (∀ deg : ℝ, wrapAngle (wrapAngle deg) = wrapAngle deg) ∧
    (∀ (deg : ℝ) (k : ℤ), wrapAngle (deg + 360 * k) = wrapAngle deg) ∧
    ∀ x y : ℝ, IsCircleDist 360 x y |wrapAngle (x - y)| := by
  refine ⟨wrapAngle_mem, fun deg => ?_, wrapAngle_idem, fun deg k => ?_, isCircleDist_wrapAngle⟩
  · obtain ⟨k, hk⟩ := wrapAngle_turns deg
    refine ⟨-k, ?_⟩
    rw [Int.cast_neg]
    linarith
  · rw [mul_comm]
    exact wrapAngle_add_turns deg k

end WharfDockChecker
end ShipMotion
