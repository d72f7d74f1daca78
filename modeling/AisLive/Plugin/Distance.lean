/-
The distance on the chart is the one on the sphere.

Over the reals `greatCircleDistanceNm` is the radius times the angle between the two unit
vectors, at every pair of positions: none is left out at the poles, across the
antimeridian or opposite each other, where the half-angle form is at its bounds.
-/
import AisLive.Lib.Sphere
import AisLive.Plugin.Utils
import AisLive.Real

namespace AisLive

open Real

/-- The point of the sphere at these degrees. -/
noncomputable def position (lat lon : ℝ) : EuclideanSpace ℝ (Fin 3) :=
  Sphere.point (degToRad lat) (degToRad lon)

/-! ### Degrees -/

theorem degToRad_eq (deg : ℝ) : degToRad deg = deg * π / 180 := by
  show deg * π / ((180 : ℤ) : ℝ) = deg * π / 180
  norm_num

theorem degToRad_sub (x y : ℝ) : degToRad (x - y) = degToRad x - degToRad y := by
  rw [degToRad_eq, degToRad_eq, degToRad_eq]
  ring

/-- A turn of 360 degrees. -/
theorem degToRad_add_turn (x : ℝ) : degToRad (x + 360) = degToRad x + 2 * π := by
  rw [degToRad_eq, degToRad_eq]
  ring

theorem position_add_turn (lat lon : ℝ) : position lat (lon + 360) = position lat lon := by
  rw [position, degToRad_add_turn, Sphere.point_add_two_pi]
  rfl

/-! ### The distance -/

theorem kEarthRadiusNm_pos : 0 < (kEarthRadiusNm : ℝ) := by
  show (0 : ℝ) < ((3440065 : ℕ) : ℝ) / 10 ^ 3
  norm_num

theorem haversine_eq (lat1 lon1 lat2 lon2 : ℝ) :
    haversine lat1 lon1 lat2 lon2
      = Sphere.haversine (degToRad lat1) (degToRad lon1) (degToRad lat2) (degToRad lon2) := by
  rw [Sphere.haversine_formula, ← degToRad_sub, ← degToRad_sub]
  show sin (degToRad (lat2 - lat1) / ((2 : ℤ) : ℝ)) * sin (degToRad (lat2 - lat1) / ((2 : ℤ) : ℝ))
    + cos (degToRad lat1) * cos (degToRad lat2) * sin (degToRad (lon2 - lon1) / ((2 : ℤ) : ℝ))
      * sin (degToRad (lon2 - lon1) / ((2 : ℤ) : ℝ)) = _
  norm_num
  ring

/-- The distance in radii is the one on the unit sphere. -/
theorem greatCircleDistanceNm_eq (lat1 lon1 lat2 lon2 : ℝ) :
    greatCircleDistanceNm lat1 lon1 lat2 lon2 = kEarthRadiusNm *
      Sphere.distance (degToRad lat1) (degToRad lon1) (degToRad lat2) (degToRad lon2) := by
  rw [← Sphere.two_mul_arg_haversine, ← haversine_eq]
  show kEarthRadiusNm * (((2 : ℤ) : ℝ) * Complex.arg
    ⟨√(((1 : ℤ) : ℝ) - haversine lat1 lon1 lat2 lon2), √(haversine lat1 lon1 lat2 lon2)⟩) = _
  norm_num

/--
**The haversine distance is the great-circle distance.**  The value both square roots are
taken of stays between 0 and 1, and the result is the radius times the angle between the
two unit vectors; so the distance has the properties of one.
-/
theorem greatCircleDistanceNm_angle (lat1 lon1 lat2 lon2 lat3 lon3 : ℝ) :
    (0 ≤ haversine lat1 lon1 lat2 lon2 ∧ haversine lat1 lon1 lat2 lon2 ≤ 1) ∧
      greatCircleDistanceNm lat1 lon1 lat2 lon2
        = kEarthRadiusNm * arccos (inner ℝ (position lat1 lon1) (position lat2 lon2)) ∧
      greatCircleDistanceNm lat1 lon1 lat2 lon2 = greatCircleDistanceNm lat2 lon2 lat1 lon1 ∧
      (greatCircleDistanceNm lat1 (lon1 + 360) lat2 lon2
          = greatCircleDistanceNm lat1 lon1 lat2 lon2 ∧
        greatCircleDistanceNm lat1 lon1 lat2 (lon2 + 360)
          = greatCircleDistanceNm lat1 lon1 lat2 lon2) ∧
      greatCircleDistanceNm lat1 lon1 lat2 lon2 ≤ π * kEarthRadiusNm ∧
      greatCircleDistanceNm lat1 lon1 lat3 lon3
        ≤ greatCircleDistanceNm lat1 lon1 lat2 lon2 + greatCircleDistanceNm lat2 lon2 lat3 lon3 ∧
      (greatCircleDistanceNm lat1 lon1 lat2 lon2 = 0 ↔ position lat1 lon1 = position lat2 lon2) := by
  have hradius := kEarthRadiusNm_pos
  simp only [haversine_eq, greatCircleDistanceNm_eq]
  refine ⟨⟨Sphere.haversine_nonneg .., Sphere.haversine_le_one ..⟩, ?_, ?_, ⟨?_, ?_⟩, ?_, ?_, ?_⟩
  · rw [Sphere.distance_eq_arccos]
    rfl
  · rw [Sphere.distance_comm]
  · rw [Sphere.distance, ← position, position_add_turn]
    rfl
  · rw [Sphere.distance, ← position, ← position, position_add_turn]
    rfl
  · rw [mul_comm π]
    exact mul_le_mul_of_nonneg_left (Sphere.distance_le_pi ..) hradius.le
  · rw [← mul_add]
    exact mul_le_mul_of_nonneg_left (Sphere.distance_triangle ..) hradius.le
  · rw [mul_eq_zero_iff_left hradius.ne', Sphere.distance_eq_zero_iff]
    rfl

end AisLive
