import ShipMotion.Utils.AffineMaps
import ShipMotion.PointCloud

/-!
# Eigen and the C mathematics library, in exact arithmetic

The part of both that the modules use. The elementary functions are a parameter, so that the
definitions above them stay computable; `Libm.real` are the real functions themselves.
-/

namespace ShipMotion

open Utils

/-- The functions of `<cmath>`, with `M_PI`. -/
structure Libm (K : Type) where
  sin : K → K
  cos : K → K
  asin : K → K
  atan2 : K → K → K
  pi : K

/-- The real functions. -/
noncomputable def Libm.real : Libm ℝ where
  sin := Real.sin
  cos := Real.cos
  asin := Real.arcsin
  atan2 := Utils.atan2
  pi := Real.pi

namespace Eigen

variable {K : Type}

abbrev Vector3 (K : Type) := Fin 3 → K
abbrev Matrix3 (K : Type) := Matrix (Fin 3) (Fin 3) K

section Units

variable [Zero K] [One K]

def unitX : Vector3 K := ![1, 0, 0]
def unitY : Vector3 K := ![0, 1, 0]
def unitZ : Vector3 K := ![0, 0, 1]

end Units

/-- The rotation an `AngleAxis(angle, axis)` stands for. -/
def angleAxis [CommRing K] (m : Libm K) (angle : K) (axis : Vector3 K) : Matrix3 K :=
  axisRotation (m.cos angle) (m.sin angle) axis

open Utils.Rotations in
/-- Over the reals, the rotation about a unit vector is one. -/
theorem angleAxis_mem (θ : ℝ) {axis : Vector3 ℝ}
    (ha : axis 0 ^ 2 + axis 1 ^ 2 + axis 2 ^ 2 = 1) : angleAxis Libm.real θ axis ∈ SO3 :=
  axisRotation_mem (Real.cos_sq_add_sin_sq θ) ha

open Utils.Rotations in
theorem angleAxis_unitX_mem (θ : ℝ) : angleAxis Libm.real θ unitX ∈ SO3 :=
  angleAxis_mem θ (by simp [unitX])

open Utils.Rotations in
theorem angleAxis_unitY_mem (θ : ℝ) : angleAxis Libm.real θ unitY ∈ SO3 :=
  angleAxis_mem θ (by simp [unitY])

open Utils.Rotations in
theorem angleAxis_unitZ_mem (θ : ℝ) : angleAxis Libm.real θ unitZ ∈ SO3 :=
  angleAxis_mem θ (by simp [unitZ])

/-- `Affine3f`; as a `Matrix4f`, the map whose last row is `0 0 0 1`. -/
abbrev Affine3 (K : Type) := Utils.AffineMap3 K

/-- `T.rotate(R)`: the rotation happens before what `T` did so far. -/
def rotate [CommRing K] (T : Affine3 K) (R : Matrix3 K) : Affine3 K :=
  { T with linear := T.linear * R }

/-- A point as a vector. -/
def vec (pt : PointXYZ K) : Vector3 K := ![pt.x, pt.y, pt.z]

def ofVec (v : Vector3 K) : PointXYZ K := ⟨v 0, v 1, v 2⟩

/-- `pcl::transformPointCloud(in, out, T)`: the output cloud. -/
def transformPointCloud [CommRing K] (T : Affine3 K) (cloud : Cloud K) : Cloud K :=
  cloud.map fun pt => ofVec (T.apply (vec pt))

@[simp] theorem vec_ofVec (v : Vector3 K) : vec (ofVec v) = v := by
  ext i
  fin_cases i <;> rfl

@[simp] theorem ofVec_vec (pt : PointXYZ K) : ofVec (vec pt) = pt := rfl

theorem transformPointCloud_one [CommRing K] (cloud : Cloud K) :
    transformPointCloud 1 cloud = cloud := by
  simp [transformPointCloud]

theorem transformPointCloud_mul [CommRing K] (S T : Affine3 K) (cloud : Cloud K) :
    transformPointCloud (S * T) cloud = transformPointCloud S (transformPointCloud T cloud) := by
  simp [transformPointCloud, Utils.AffineMap3.apply_mul]

@[simp] theorem length_transformPointCloud [CommRing K] (T : Affine3 K) (cloud : Cloud K) :
    (transformPointCloud T cloud).length = cloud.length :=
  List.length_map _

end Eigen
end ShipMotion
