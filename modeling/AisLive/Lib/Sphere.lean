/-
Points of the unit sphere by latitude and longitude.

`point` is the unit vector with a latitude and a longitude, in radians, and the distance of
two points is the angle between their vectors, so that it is Mathlib's angle that has the
triangle inequality.  The haversine is the way the distance is computed: half the angle
from two square roots, which stays exact where the arccosine of the product would not.

A small distance also bounds the two coordinates, the longitude only where the distance is
small against the room there is to the poles.  `exists_longitude_near` says so, up to a
full turn.
-/
import Mathlib.Analysis.InnerProductSpace.PiL2
import Mathlib.Analysis.Real.Pi.Bounds
import Mathlib.Analysis.SpecialFunctions.Complex.Arg
import Mathlib.Analysis.SpecialFunctions.Trigonometric.Bounds
import Mathlib.Geometry.Euclidean.Angle.Unoriented.TriangleInequality

namespace Sphere

open Real InnerProductGeometry

/-- The point of the unit sphere with this latitude and longitude. -/
noncomputable def point (φ l : ℝ) : EuclideanSpace ℝ (Fin 3) :=
  WithLp.toLp _ ![cos φ * cos l, cos φ * sin l, sin φ]

theorem inner_point (φ₁ l₁ φ₂ l₂ : ℝ) :
    inner ℝ (point φ₁ l₁) (point φ₂ l₂)
      = cos φ₁ * cos φ₂ * cos (l₂ - l₁) + sin φ₁ * sin φ₂ := by
  simp only [point, PiLp.inner_apply, Fin.sum_univ_three, RCLike.inner_apply, conj_trivial]
  simp only [Matrix.cons_val_zero, Matrix.cons_val_one, Matrix.cons_val]
  rw [cos_sub]
  ring

theorem norm_point (φ l : ℝ) : ‖point φ l‖ = 1 := by
  have hsq : ‖point φ l‖ ^ 2 = 1 := by
    rw [← real_inner_self_eq_norm_sq, inner_point, sub_self, cos_zero, mul_one, ← sq, ← sq,
      cos_sq_add_sin_sq]
  exact (pow_eq_one_iff_of_nonneg (norm_nonneg _) two_ne_zero).mp hsq

/-- The angle between two points. -/
noncomputable def distance (φ₁ l₁ φ₂ l₂ : ℝ) : ℝ := angle (point φ₁ l₁) (point φ₂ l₂)

theorem distance_eq_arccos (φ₁ l₁ φ₂ l₂ : ℝ) :
    distance φ₁ l₁ φ₂ l₂ = arccos (inner ℝ (point φ₁ l₁) (point φ₂ l₂)) := by
  rw [distance, angle, norm_point, norm_point, mul_one, div_one]

/-- Only a point itself is at distance zero. -/
theorem distance_eq_zero_iff {φ₁ l₁ φ₂ l₂ : ℝ} :
    distance φ₁ l₁ φ₂ l₂ = 0 ↔ point φ₁ l₁ = point φ₂ l₂ := by
  have hone : inner ℝ (point φ₁ l₁) (point φ₂ l₂) = 1 ↔ point φ₁ l₁ = point φ₂ l₂ :=
    inner_eq_one_iff_of_norm_eq_one (norm_point φ₁ l₁) (norm_point φ₂ l₂)
  rw [distance_eq_arccos, arccos_eq_zero, ← hone]
  have hle : inner ℝ (point φ₁ l₁) (point φ₂ l₂) ≤ 1 := by
    simpa [norm_point] using real_inner_le_norm (point φ₁ l₁) (point φ₂ l₂)
  exact ⟨hle.antisymm, fun h => h.ge⟩

/-! ### The haversine form -/

/-- The haversine of two points: a quarter of the square of the chord between them. -/
noncomputable def haversine (φ₁ l₁ φ₂ l₂ : ℝ) : ℝ := ‖point φ₁ l₁ - point φ₂ l₂‖ ^ 2 / 4

theorem haversine_eq (φ₁ l₁ φ₂ l₂ : ℝ) :
    haversine φ₁ l₁ φ₂ l₂ = (1 - inner ℝ (point φ₁ l₁) (point φ₂ l₂)) / 2 := by
  rw [haversine, norm_sub_sq_real, norm_point, norm_point]
  ring

/-- **The haversine formula**, in the differences of the coordinates. -/
theorem haversine_formula (φ₁ l₁ φ₂ l₂ : ℝ) : haversine φ₁ l₁ φ₂ l₂ =
    sin ((φ₂ - φ₁) / 2) ^ 2 + cos φ₁ * cos φ₂ * sin ((l₂ - l₁) / 2) ^ 2 := by
  have hsq : ∀ x : ℝ, sin (x / 2) ^ 2 = (1 - cos x) / 2 := by
    intro x
    rw [sin_sq_eq_half_sub, mul_div_cancel₀ x two_ne_zero]
    ring
  rw [haversine_eq, hsq, hsq, inner_point, cos_sub φ₂ φ₁]
  ring

theorem haversine_nonneg (φ₁ l₁ φ₂ l₂ : ℝ) : 0 ≤ haversine φ₁ l₁ φ₂ l₂ := by
  rw [haversine]
  positivity

theorem haversine_le_one (φ₁ l₁ φ₂ l₂ : ℝ) : haversine φ₁ l₁ φ₂ l₂ ≤ 1 := by
  have hle := real_inner_le_norm (-point φ₁ l₁) (point φ₂ l₂)
  rw [inner_neg_left, norm_neg, norm_point, norm_point, mul_one] at hle
  rw [haversine_eq]
  linarith

/-- The half angle from the square roots of its haversine and of the rest. -/
theorem two_mul_arg_sqrt {a : ℝ} (h₀ : 0 ≤ a) (h₁ : a ≤ 1) :
    2 * Complex.arg ⟨√(1 - a), √a⟩ = arccos (1 - 2 * a) := by
  have hcos : cos (arccos (1 - 2 * a)) = 1 - 2 * a := cos_arccos (by linarith) (by linarith)
  have hnonneg := arccos_nonneg (1 - 2 * a)
  have hpi := arccos_le_pi (1 - 2 * a)
  have hre : √(1 - a) = cos (arccos (1 - 2 * a) / 2) := by
    rw [cos_half (by linarith [pi_pos]) hpi, hcos]
    congr 1
    ring
  have him : √a = sin (arccos (1 - 2 * a) / 2) := by
    rw [sin_half_eq_sqrt hnonneg (by linarith), hcos]
    congr 1
    ring
  have hpolar : (⟨√(1 - a), √a⟩ : ℂ) = Complex.cos ((arccos (1 - 2 * a) / 2 : ℝ) : ℂ)
      + Complex.sin ((arccos (1 - 2 * a) / 2 : ℝ) : ℂ) * Complex.I := by
    rw [← Complex.ofReal_cos, ← Complex.ofReal_sin, hre, him]
    exact Complex.mk_eq_add_mul_I _ _
  rw [hpolar, Complex.arg_cos_add_sin_mul_I ⟨by linarith [pi_pos], by linarith [pi_pos]⟩]
  ring

/-- **The haversine form is the distance.** -/
theorem two_mul_arg_haversine (φ₁ l₁ φ₂ l₂ : ℝ) :
    2 * Complex.arg ⟨√(1 - haversine φ₁ l₁ φ₂ l₂), √(haversine φ₁ l₁ φ₂ l₂)⟩
      = distance φ₁ l₁ φ₂ l₂ := by
  rw [two_mul_arg_sqrt (haversine_nonneg ..) (haversine_le_one ..), distance_eq_arccos,
    haversine_eq]
  congr 1
  ring

/-! ### The distance as a metric -/

theorem distance_comm (φ₁ l₁ φ₂ l₂ : ℝ) : distance φ₁ l₁ φ₂ l₂ = distance φ₂ l₂ φ₁ l₁ :=
  angle_comm _ _

theorem distance_le_pi (φ₁ l₁ φ₂ l₂ : ℝ) : distance φ₁ l₁ φ₂ l₂ ≤ π := angle_le_pi _ _

theorem distance_triangle (φ₁ l₁ φ₂ l₂ φ₃ l₃ : ℝ) :
    distance φ₁ l₁ φ₃ l₃ ≤ distance φ₁ l₁ φ₂ l₂ + distance φ₂ l₂ φ₃ l₃ :=
  angle_le_angle_add_angle _ _ _

theorem point_add_two_pi (φ l : ℝ) : point φ (l + 2 * π) = point φ l := by
  rw [point, point, cos_add_two_pi, sin_add_two_pi]

/-! ### A small distance bounds both coordinates -/

section

variable {φ₁ l₁ φ₂ l₂ : ℝ}

/-- The latitudes are no further apart than the points. -/
theorem abs_sub_le_distance (h₁ : |φ₁| ≤ π / 2) (h₂ : |φ₂| ≤ π / 2) :
    |φ₂ - φ₁| ≤ distance φ₁ l₁ φ₂ l₂ := by
  obtain ⟨hl₁, hu₁⟩ := abs_le.mp h₁
  obtain ⟨hl₂, hu₂⟩ := abs_le.mp h₂
  have hcos : inner ℝ (point φ₁ l₁) (point φ₂ l₂) ≤ cos |φ₂ - φ₁| := by
    have hprod : 0 ≤ cos φ₁ * cos φ₂ :=
      mul_nonneg (cos_nonneg_of_neg_pi_div_two_le_of_le hl₁ hu₁)
        (cos_nonneg_of_neg_pi_div_two_le_of_le hl₂ hu₂)
    rw [inner_point, cos_abs, cos_sub φ₂ φ₁]
    linarith [mul_le_of_le_one_right hprod (cos_le_one (l₂ - l₁))]
  rw [distance_eq_arccos, ← arccos_cos (abs_nonneg (φ₂ - φ₁)) (abs_le.mpr ⟨by linarith, by linarith⟩)]
  exact antitone_arccos hcos

/-- The haversine of an angle is at most the square of its half. -/
theorem haversine_le_sq : haversine φ₁ l₁ φ₂ l₂ ≤ (distance φ₁ l₁ φ₂ l₂ / 2) ^ 2 := by
  have hhav : haversine φ₁ l₁ φ₂ l₂ = sin (distance φ₁ l₁ φ₂ l₂ / 2) ^ 2 := by
    have hcos : cos (distance φ₁ l₁ φ₂ l₂) = inner ℝ (point φ₁ l₁) (point φ₂ l₂) := by
      rw [distance, cos_angle, norm_point, norm_point, mul_one, div_one]
    rw [haversine_eq, ← hcos, sin_sq_eq_half_sub, mul_div_cancel₀ _ two_ne_zero]
    ring
  rw [hhav]
  exact sin_sq_le_sq

theorem distance_add_int_mul_two_pi (k : ℤ) :
    distance φ₁ l₁ φ₂ (l₂ + k * (2 * π)) = distance φ₁ l₁ φ₂ l₂ := by
  have hpoint : point φ₂ (l₂ + k * (2 * π)) = point φ₂ l₂ := by
    rw [point, point, cos_add_int_mul_two_pi, sin_add_int_mul_two_pi]
  rw [distance, distance, hpoint]

/-- The sine of half an angle is at least the angle's share of the half circle. -/
theorem sq_abs_div_pi_le {x : ℝ} (h : |x| ≤ π) : (|x| / π) ^ 2 ≤ sin (x / 2) ^ 2 := by
  have hhalf : |x / 2| = |x| / 2 := by rw [abs_div, abs_two]
  have hsin := mul_le_sin (abs_nonneg (x / 2)) (by rw [hhalf]; linarith)
  rw [← abs_sin_eq_sin_abs_of_abs_le_pi (by rw [hhalf]; linarith [pi_pos])] at hsin
  rw [← sq_abs (sin (x / 2))]
  refine pow_le_pow_left₀ (by positivity) (le_of_eq_of_le ?_ hsin) 2
  rw [hhalf]
  field_simp

/-- The longitudes are close as seen from a point with room to the poles, where the
difference is not taken the long way round. -/
theorem abs_sub_longitude_lt {t : ℝ} (ht : t ≤ 1 / 16) (h₁ : |φ₁| ≤ π / 2) (h₂ : |φ₂| ≤ π / 2)
    (hl : |l₂ - l₁| ≤ π) (hd : distance φ₁ l₁ φ₂ l₂ < t * cos φ₁) :
    |l₂ - l₁| < 5 / 3 * t := by
  obtain ⟨hlow, hupp⟩ := abs_le.mp h₁
  have hnonneg : 0 ≤ distance φ₁ l₁ φ₂ l₂ := angle_nonneg _ _
  have hcos₁ : 0 < cos φ₁ := by
    refine (cos_nonneg_of_neg_pi_div_two_le_of_le hlow hupp).lt_of_ne' fun h => ?_
    rw [h, mul_zero] at hd
    linarith
  have ht0 : 0 < t := pos_of_mul_pos_left (hnonneg.trans_lt hd) hcos₁.le
  -- the other point is not nearer to a pole by more than the distance
  have hcos₂ : cos φ₁ * (1 - t) ≤ cos φ₂ := by
    have hlat : |φ₂ - φ₁| ≤ distance φ₁ l₁ φ₂ l₂ := abs_sub_le_distance h₁ h₂
    have hlip := (abs_le.mp ((abs_cos_sub_cos_le φ₂ φ₁).trans hlat)).1
    linarith
  have hcos₂' : 0 ≤ cos φ₂ := (mul_nonneg hcos₁.le (by linarith)).trans hcos₂
  have hchord : (|l₂ - l₁| / π) ^ 2 ≤ sin ((l₂ - l₁) / 2) ^ 2 := sq_abs_div_pi_le hl
  have hhav : cos φ₁ ^ 2 * ((1 - t) * (|l₂ - l₁| / π) ^ 2) < cos φ₁ ^ 2 * (t / 2) ^ 2 := by
    calc cos φ₁ ^ 2 * ((1 - t) * (|l₂ - l₁| / π) ^ 2)
        = cos φ₁ * (cos φ₁ * (1 - t)) * (|l₂ - l₁| / π) ^ 2 := by ring
      _ ≤ cos φ₁ * cos φ₂ * sin ((l₂ - l₁) / 2) ^ 2 := by gcongr
      _ ≤ haversine φ₁ l₁ φ₂ l₂ := by
          rw [haversine_formula]
          linarith [sq_nonneg (sin ((φ₂ - φ₁) / 2))]
      _ ≤ (distance φ₁ l₁ φ₂ l₂ / 2) ^ 2 := haversine_le_sq
      _ < (t * cos φ₁ / 2) ^ 2 := by gcongr
      _ = cos φ₁ ^ 2 * (t / 2) ^ 2 := by ring
  have hshare : (1 - t) * (|l₂ - l₁| / π) ^ 2 < (t / 2) ^ 2 :=
    lt_of_mul_lt_mul_left hhav (by positivity)
  have hpi : π ^ 2 < 10 := by
    calc π ^ 2 < 3.15 ^ 2 := by gcongr; exact pi_lt_d2
      _ < 10 := by norm_num
  by_contra hfar
  rw [not_lt] at hfar
  have hfar' : (1 - t) * ((5 / 3 * t) / π) ^ 2 ≤ (1 - t) * (|l₂ - l₁| / π) ^ 2 := by
    gcongr
    linarith
  have hshare' : (1 - t) * ((5 / 3 * t) / π) ^ 2 < (t / 2) ^ 2 := hfar'.trans_lt hshare
  rw [div_pow, mul_div_assoc', div_lt_iff₀ (by positivity)] at hshare'
  have hleft : 15 / 16 * (5 / 3 * t) ^ 2 ≤ (1 - t) * (5 / 3 * t) ^ 2 := by
    gcongr
    linarith
  have hright : (t / 2) ^ 2 * π ^ 2 < (t / 2) ^ 2 * 10 := by gcongr
  linarith [sq_pos_of_pos ht0]

/-- **Near a point with room to the poles both coordinates are near**, the longitude up to a
full turn. -/
theorem exists_longitude_near {t : ℝ} (ht : t ≤ 1 / 16) (h₁ : |φ₁| ≤ π / 2) (h₂ : |φ₂| ≤ π / 2)
    (hd : distance φ₁ l₁ φ₂ l₂ < t * cos φ₁) : ∃ k : ℤ, |l₂ + k * (2 * π) - l₁| < 5 / 3 * t := by
  have hround := abs_sub_round ((l₂ - l₁) / (2 * π))
  refine ⟨-round ((l₂ - l₁) / (2 * π)), abs_sub_longitude_lt ht h₁ h₂ ?_ ?_⟩
  · have hturn : l₂ + ((-round ((l₂ - l₁) / (2 * π)) : ℤ) : ℝ) * (2 * π) - l₁
        = ((l₂ - l₁) / (2 * π) - round ((l₂ - l₁) / (2 * π))) * (2 * π) := by
      rw [Int.cast_neg]
      field_simp
      ring
    rw [hturn, abs_mul, abs_of_pos two_pi_pos]
    calc _ ≤ 1 / 2 * (2 * π) := by gcongr
      _ = π := by ring
  · rwa [distance_add_int_mul_two_pi]

end

end Sphere
