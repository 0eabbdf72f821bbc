import Mathlib.Data.Int.Notation

/-!
# Points, clouds and frames

A cloud is its list of points. The pointers to clouds in frames are not null: every frame is
built with a cloud of its own.
-/

namespace ShipMotion

/-- `pcl::PointXYZ` -/
structure PointXYZ (K : Type) where
  x : K
  y : K
  z : K
  deriving DecidableEq, Repr

abbrev Cloud (K : Type) := List (PointXYZ K)

/-- A frame of one radar. -/
structure RawPointCloud (K : Type) where
  lidar_ip : String
  lidar_id : String
  timestamp : UInt64
  cloud : Cloud K
  deriving DecidableEq

/-- A frame of the fuser, of one radar or of both. -/
structure FusedPointCloud (K : Type) where
  lidar_ip : String
  lidar_id : String
  timestamp : UInt64
  cloud : Cloud K
  valid_points : ℤ
  deriving DecidableEq

end ShipMotion
