/-
The area that is asked for.

Over the reals the box of the subscribe message is a square of degrees around the search
position, at most as large as the authentication mode allows.

In follow mode the boat is inside it: the search is moved to the boat before it is further
away than three tenths of the smaller half side, and even half the size leaves room for that.
The box itself is plain addition and subtraction, and `area_valid_iff` says where that is
enough: away from the poles and the antimeridian by half a side.
-/
import AisLive.Plugin.Distance
import AisLive.Plugin.Position

namespace AisLive

open Real

/-! ### The size sent -/

theorem double_min_eq (x y : ℝ) : Double.min x y = min x y := by
  show (if decide (y < x) = true then y else x) = min x y
  by_cases h : y < x
  · rw [if_pos (decide_eq_true h), min_eq_right h.le]
  · rw [if_neg (by simpa using h), min_eq_left (not_lt.mp h)]

theorem maxBoxSizeDegrees_eq (useToken : Bool) :
    (maxBoxSizeDegrees useToken : ℝ) = if useToken then 20 else 10 := by
  unfold maxBoxSizeDegrees
  split
  · show ((20 : ℤ) : ℝ) = 20
    norm_num
  · show ((10 : ℤ) : ℝ) = 10
    norm_num

theorem sentBoxSize_eq (useToken : Bool) (size : ℝ) :
    sentBoxSize useToken size = min size (if useToken then 20 else 10) := by
  rw [sentBoxSize, double_min_eq, maxBoxSizeDegrees_eq]

/-- No size of the slider is cut down to less than its half. -/
theorem half_le_sentBoxSize (useToken : Bool) {size : ℝ} (h : 0 ≤ size) (hcap : size ≤ 20) :
    size / 2 ≤ sentBoxSize useToken size := by
  rw [sentBoxSize_eq]
  refine le_min (by linarith) ?_
  split <;> linarith

/-! ### The boat and the box -/

/-- The threshold leaves three tenths of the half side that shrinks towards the poles. -/
theorem computeFollowThresholdNm_le (size lat : ℝ) :
    computeFollowThresholdNm size lat ≤ 9 * size * cos (degToRad lat) := by
  have hmin : min (size * 60 / 2) (size * 60 / 2 * cos (degToRad lat)) * (3 / 10)
      ≤ size * 60 / 2 * cos (degToRad lat) * (3 / 10) := by
    gcongr
    exact min_le_right _ _
  have hthreshold : computeFollowThresholdNm size lat
      = min (size * 60 / 2) (size * 60 / 2 * cos (degToRad lat)) * (3 / 10) := by
    rw [← double_min_eq]
    show Double.min (size * ((60 : ℤ) : ℝ) / ((2 : ℤ) : ℝ))
      (size * ((60 : ℤ) : ℝ) / ((2 : ℤ) : ℝ) * cos (degToRad lat)) * (((3 : ℕ) : ℝ) / 10 ^ 1) = _
    norm_num
  rw [hthreshold]
  linarith

theorem abs_degToRad (x : ℝ) : |degToRad x| = |x| * π / 180 := by
  rw [degToRad_eq, abs_div, abs_mul, abs_of_pos pi_pos, abs_of_pos (by norm_num : (0 : ℝ) < 180)]

theorem abs_degToRad_le {lat : ℝ} (h : |lat| ≤ 90) : |degToRad lat| ≤ π / 2 := by
  have hmul : |lat| * π ≤ 90 * π := by gcongr
  rw [abs_degToRad]
  linarith

/-- A difference in degrees, from a bound on it in radians. -/
theorem abs_lt_of_degToRad_lt {x y bound : ℝ} (h : |degToRad x| < bound)
    (hbound : bound ≤ y * 3.14 / 180) : |x| < y := by
  rw [abs_degToRad] at h
  by_contra hfar
  rw [not_lt] at hfar
  have hmul : y * 3.14 ≤ |x| * π := by
    gcongr
    exact pi_gt_d2.le
  linarith

/-- A difference of longitudes, up to full turns. -/
theorem degToRad_add_turns (x y : ℝ) (turns : ℤ) :
    degToRad x + turns * (2 * π) - degToRad y = degToRad (x + 360 * turns - y) := by
  rw [degToRad_eq, degToRad_eq, degToRad_eq]
  ring

/-- A boat that is not left behind is within a quarter of the size of the search position. -/
theorem near_of_lt_threshold {size lat lon lat' lon' : ℝ} (hsize : 0 < size) (hcap : size ≤ 20)
    (hlat : |lat| ≤ 90) (hlat' : |lat'| ≤ 90)
    (hnear : greatCircleDistanceNm lat' lon' lat lon < computeFollowThresholdNm size lat) :
    |lat - lat'| < size / 4 ∧ ∃ turns : ℤ, |lon' + 360 * turns - lon| < size / 4 := by
  have hradius : (kEarthRadiusNm : ℝ) = 3440065 / 1000 := by
    show ((3440065 : ℕ) : ℝ) / 10 ^ 3 = _
    norm_num
  -- the threshold in radii, without the cosine
  let t : ℝ := 9 * size / kEarthRadiusNm
  have ht : t = 9 * size * 1000 / 3440065 := by
    show 9 * size / kEarthRadiusNm = _
    rw [hradius]
    ring
  have hd : Sphere.distance (degToRad lat) (degToRad lon) (degToRad lat') (degToRad lon')
      < t * cos (degToRad lat) := by
    rw [greatCircleDistanceNm_eq, Sphere.distance_comm] at hnear
    have hlt := hnear.trans_le (computeFollowThresholdNm_le size lat)
    rw [mul_comm, ← lt_div_iff₀ kEarthRadiusNm_pos] at hlt
    refine hlt.trans_eq ?_
    show _ = 9 * size / kEarthRadiusNm * cos (degToRad lat)
    ring
  have hφ := abs_degToRad_le hlat
  have hφ' := abs_degToRad_le hlat'
  constructor
  · have hcos : t * cos (degToRad lat) ≤ t :=
      mul_le_of_le_one_right (by rw [ht]; positivity) (cos_le_one _)
    have hclose := ((Sphere.abs_sub_le_distance hφ hφ').trans_lt hd).trans_le hcos
    rw [← degToRad_sub, ht] at hclose
    rw [abs_sub_comm]
    exact abs_lt_of_degToRad_lt hclose (by linarith)
  · obtain ⟨turns, hturns⟩ := Sphere.exists_longitude_near (by rw [ht]; linarith) hφ hφ' hd
    refine ⟨turns, ?_⟩
    rw [degToRad_add_turns, ht] at hturns
    exact abs_lt_of_degToRad_lt hturns (by linarith)

/--
**In follow mode the boat stays inside the subscribed area.**  After a fix of the boat its
latitude and, up to full turns, its longitude are less than half a side of the box away from
the search position, in either authentication mode.
-/
theorem boat_in_area (useToken : Bool) {g : MainGui ℝ} {lat lon : ℝ}
    (hfollow : g.followBoatMode = true) (hsize : 0 < g.searchBoxSize)
    (hcap : g.searchBoxSize ≤ 20) (hsearch : |g.searchLatitude| ≤ 90) (hlat : |lat| ≤ 90) :
    let g' := g.updateBoatPosition lat lon
    |g'.boatLatitude - g'.searchLatitude| < sentBoxSize useToken g'.searchBoxSize / 2 ∧
      ∃ turns : ℤ, |g'.searchLongitude + 360 * turns - g'.boatLongitude|
        < sentBoxSize useToken g'.searchBoxSize / 2 := by
  intro g'
  have hcourse : g'.course = g.course.fix lat lon := MainGui.course_updateBoatPosition lat lon g
  have hboat : (g'.boatLatitude, g'.boatLongitude) = (lat, lon) := congrArg Course.boat hcourse
  have hsame : g'.searchBoxSize = g.searchBoxSize := congrArg Course.searchBoxSize hcourse
  have hpos : 0 < sentBoxSize useToken g.searchBoxSize :=
    (half_pos hsize).trans_le (half_le_sentBoxSize useToken hsize.le hcap)
  rw [Prod.mk.injEq] at hboat
  rw [hsame, hboat.1, hboat.2]
  have hsearch' := congrArg Course.search hcourse
  simp only [Course.fix] at hsearch'
  split at hsearch'
  · -- the search has been moved to the boat
    have hmoved : (g'.searchLatitude, g'.searchLongitude) = (lat, lon) := hsearch'
    rw [Prod.mk.injEq] at hmoved
    rw [hmoved.1, hmoved.2, sub_self, abs_zero]
    exact ⟨half_pos hpos, 0, by simpa using half_pos hpos⟩
  · rename_i hstays
    have hkept : (g'.searchLatitude, g'.searchLongitude)
        = (g.searchLatitude, g.searchLongitude) := hsearch'
    rw [Prod.mk.injEq] at hkept
    have hnear : greatCircleDistanceNm g.searchLatitude g.searchLongitude lat lon
        < computeFollowThresholdNm g.searchBoxSize lat := by
      by_contra hfar
      refine hstays (Bool.or_eq_true_iff.mpr (.inr ?_))
      have heq : decide (g.searchBoxSize = ((0 : ℤ) : ℝ)) = false := by simpa using hsize.ne'
      show (g.followBoatMode && !decide (g.searchBoxSize = ((0 : ℤ) : ℝ)) &&
        decide (computeFollowThresholdNm g.searchBoxSize lat
          ≤ greatCircleDistanceNm g.searchLatitude g.searchLongitude lat lon)) = true
      rw [hfollow, heq, decide_eq_true (not_lt.mp hfar)]
      rfl
    have hhalf := half_le_sentBoxSize useToken hsize.le hcap
    obtain ⟨hnearLat, turns, hnearLon⟩ := near_of_lt_threshold hsize hcap hlat hsearch hnear
    rw [hkept.1, hkept.2]
    exact ⟨by linarith, turns, by linarith⟩

/-- A boat six miles from the search position, in a box of 2 degrees; the search has been at the
boat before. -/
theorem boat_in_area_brest :
    let g : MainGui ℝ := {
      searchBoxSize := 2, searchLatitude := 48, searchLongitude := -5
      initialBoatPositionSet := true }
    let g' := g.updateBoatPosition 48.1 (-5)
    |g'.boatLatitude - g'.searchLatitude| < sentBoxSize true g'.searchBoxSize / 2 ∧
      ∃ turns : ℤ, |g'.searchLongitude + 360 * turns - g'.boatLongitude|
        < sentBoxSize true g'.searchBoxSize / 2 :=
  boat_in_area true rfl (by norm_num) (by norm_num) (by norm_num [abs_le]) (by norm_num [abs_le])

/-! ### The box that is sent -/

/-- What a list of boxes has to be: each of them within the coordinates there are and no
larger than allowed, and all of them together holding every point that is within half of
`size` of the position, in latitude and, up to full turns, in longitude. -/
structure CoversZone (useToken : Bool) (lat lon size : ℝ) (bbox : List (List ℝ)) : Prop where
  valid : ∀ box ∈ bbox, ∃ minLat minLon maxLat maxLon, box = [minLat, minLon, maxLat, maxLon] ∧
    (-90 ≤ minLat ∧ minLat ≤ maxLat ∧ maxLat ≤ 90) ∧
    (-180 ≤ minLon ∧ minLon ≤ maxLon ∧ maxLon ≤ 180) ∧
    maxLat - minLat ≤ (if useToken then 20 else 10) ∧
    maxLon - minLon ≤ (if useToken then 20 else 10)
  covers : ∀ pointLat pointLon : ℝ, |pointLat| ≤ 90 → |pointLon| ≤ 180 →
    |pointLat - lat| ≤ size / 2 → (∃ turns : ℤ, |pointLon + 360 * turns - lon| ≤ size / 2) →
    ∃ minLat minLon maxLat maxLon, [minLat, minLon, maxLat, maxLon] ∈ bbox ∧
      (minLat ≤ pointLat ∧ pointLat ≤ maxLat) ∧ (minLon ≤ pointLon ∧ pointLon ≤ maxLon)

/-- The message asks for one box. -/
theorem bbox_buildSubscribeMessage (useToken : Bool) (args : StreamArgs ℝ) :
    (buildSubscribeMessage useToken args).bbox
      = [[args.latitude - sentBoxSize useToken args.boxSizeDegrees / 2,
        args.longitude - sentBoxSize useToken args.boxSizeDegrees / 2,
        args.latitude + sentBoxSize useToken args.boxSizeDegrees / 2,
        args.longitude + sentBoxSize useToken args.boxSizeDegrees / 2]] := by
  have htwo : ((2 : ℤ) : ℝ) = 2 := by norm_num
  show [[args.latitude - sentBoxSize useToken args.boxSizeDegrees / ((2 : ℤ) : ℝ),
    args.longitude - sentBoxSize useToken args.boxSizeDegrees / ((2 : ℤ) : ℝ),
    args.latitude + sentBoxSize useToken args.boxSizeDegrees / ((2 : ℤ) : ℝ),
    args.longitude + sentBoxSize useToken args.boxSizeDegrees / ((2 : ℤ) : ℝ)]] = _
  rw [htwo]

section

variable {useToken : Bool} {lat lon size : ℝ}

/-- A square that covers its zone reaches neither a pole nor, even with its edge, the
antimeridian. -/
theorem CoversZone.square_inside (hsize : 0 ≤ size) (hlat : |lat| ≤ 90)
    (h : CoversZone useToken lat lon size
      [[lat - size / 2, lon - size / 2, lat + size / 2, lon + size / 2]]) :
    |lat| + size / 2 ≤ 90 ∧ |lon| + size / 2 < 180 := by
  obtain ⟨minLat, minLon, maxLat, maxLon, hbox, hlats, hlons, -, -⟩ :=
    h.valid _ List.mem_cons_self
  simp only [List.cons.injEq, and_true] at hbox
  obtain ⟨rfl, rfl, rfl, rfl⟩ := hbox
  have hedge : |lon| + size / 2 ≤ 180 := by
    rcases abs_cases lon with ⟨habs, -⟩ | ⟨habs, -⟩ <;> linarith
  refine ⟨by rcases abs_cases lat with ⟨habs, -⟩ | ⟨habs, -⟩ <;> linarith, hedge.lt_of_ne ?_⟩
  intro hmeridian
  -- the meridian of the edge has another longitude, which is not in the box
  have hself : |lat - lat| ≤ size / 2 := by
    rw [sub_self, abs_zero]
    linarith
  rcases abs_cases lon with ⟨habs, hsign⟩ | ⟨habs, hsign⟩
  · obtain ⟨a, b, c, d, hmem, -, hin⟩ := h.covers lat (-180) hlat (by norm_num) hself
      ⟨1, by rw [abs_le]; constructor <;> norm_num <;> linarith⟩
    simp only [List.mem_singleton, List.cons.injEq, and_true] at hmem
    linarith [hmem.2.1]
  · obtain ⟨a, b, c, d, hmem, -, hin⟩ := h.covers lat 180 hlat (by norm_num) hself
      ⟨-1, by rw [abs_le]; constructor <;> norm_num <;> linarith⟩
    simp only [List.mem_singleton, List.cons.injEq, and_true] at hmem
    linarith [hmem.2.2.2]

/-- A full turn from a point inside the coordinates leaves a zone off the antimeridian. -/
theorem turns_eq_zero {pointLon : ℝ} {turns : ℤ} (hlon : |lon| + size / 2 < 180)
    (hpoint : |pointLon| ≤ 180) (hnear : |pointLon + 360 * turns - lon| ≤ size / 2) :
    turns = 0 := by
  obtain ⟨hlon₁, hlon₂⟩ := abs_lt.mp (show |lon| < 180 - size / 2 by linarith)
  obtain ⟨hpoint₁, hpoint₂⟩ := abs_le.mp hpoint
  obtain ⟨hnear₁, hnear₂⟩ := abs_le.mp hnear
  by_contra hne
  rcases lt_or_gt_of_ne hne with hneg | hpos
  · have hle : (turns : ℝ) ≤ -1 := by exact_mod_cast Int.le_sub_one_of_lt hneg
    linarith
  · have hge : (1 : ℝ) ≤ turns := by exact_mod_cast hpos
    linarith

theorem coversZone_of_inside (hsize : 0 ≤ size) (hcap : size ≤ (if useToken then 20 else 10))
    (hpole : |lat| + size / 2 ≤ 90) (hmeridian : |lon| + size / 2 < 180) :
    CoversZone useToken lat lon size
      [[lat - size / 2, lon - size / 2, lat + size / 2, lon + size / 2]] := by
  obtain ⟨hlat₁, hlat₂⟩ := abs_le.mp (show |lat| ≤ 90 - size / 2 by linarith)
  obtain ⟨hlon₁, hlon₂⟩ := abs_lt.mp (show |lon| < 180 - size / 2 by linarith)
  refine ⟨fun box hbox => ?_, fun pointLat pointLon hpointLat hpointLon hnear hturns => ?_⟩
  · rw [List.mem_singleton] at hbox
    exact ⟨_, _, _, _, hbox, ⟨by linarith, by linarith, by linarith⟩,
      ⟨by linarith, by linarith, by linarith⟩, by linarith, by linarith⟩
  · obtain ⟨turns, hnearLon⟩ := hturns
    rw [turns_eq_zero hmeridian hpointLon hnearLon, Int.cast_zero, mul_zero, add_zero] at hnearLon
    obtain ⟨hnear₁, hnear₂⟩ := abs_le.mp hnear
    obtain ⟨hturn₁, hturn₂⟩ := abs_le.mp hnearLon
    exact ⟨_, _, _, _, List.mem_cons_self, ⟨by linarith, by linarith⟩,
      ⟨by linarith, by linarith⟩⟩

/-- **The square around a position covers its zone exactly if it stays inside.** -/
theorem coversZone_square_iff (hsize : 0 ≤ size) (hcap : size ≤ (if useToken then 20 else 10))
    (hlat : |lat| ≤ 90) :
    CoversZone useToken lat lon size
        [[lat - size / 2, lon - size / 2, lat + size / 2, lon + size / 2]] ↔
      |lat| + size / 2 ≤ 90 ∧ |lon| + size / 2 < 180 := by
  constructor
  · intro h
    exact h.square_inside hsize hlat
  · rintro ⟨hpole, hmeridian⟩
    exact coversZone_of_inside hsize hcap hpole hmeridian

end

/--
**The area that is asked for, and when it is all of the search zone.**  For every search
position and size, in either authentication mode, the message asks for the one square of the
size sent around the position, no larger than the mode allows, and it holds every point that
is within half of that size in both coordinates as they stand.  It is within the coordinates
there are, and holds what lies across the antimeridian, exactly if it reaches no pole and
stays off the antimeridian.
-/
theorem area_valid_iff (useToken : Bool) (args : StreamArgs ℝ) (hlat : |args.latitude| ≤ 90)
    (hsize : 0 ≤ args.boxSizeDegrees) :
    let size := sentBoxSize useToken args.boxSizeDegrees
    let bbox := (buildSubscribeMessage useToken args).bbox
    (∃ minLat minLon maxLat maxLon, bbox = [[minLat, minLon, maxLat, maxLon]] ∧
      minLat ≤ maxLat ∧ minLon ≤ maxLon ∧ maxLat - minLat = size ∧ maxLon - minLon = size ∧
      size ≤ (if useToken then 20 else 10) ∧
      ∀ pointLat pointLon : ℝ, |pointLat - args.latitude| ≤ size / 2 →
        |pointLon - args.longitude| ≤ size / 2 →
        (minLat ≤ pointLat ∧ pointLat ≤ maxLat) ∧ (minLon ≤ pointLon ∧ pointLon ≤ maxLon)) ∧
      (CoversZone useToken args.latitude args.longitude size bbox ↔
        |args.latitude| + size / 2 ≤ 90 ∧ |args.longitude| + size / 2 < 180) := by
  intro size bbox
  have hcap : size ≤ (if useToken then 20 else 10) :=
    (sentBoxSize_eq useToken args.boxSizeDegrees).trans_le (min_le_right _ _)
  have hnonneg : 0 ≤ size := by
    have hle : 0 ≤ min args.boxSizeDegrees (if useToken then 20 else 10 : ℝ) := by
      refine le_min hsize ?_
      split <;> norm_num
    rwa [← sentBoxSize_eq] at hle
  have hbbox : bbox = [[args.latitude - size / 2, args.longitude - size / 2,
      args.latitude + size / 2, args.longitude + size / 2]] :=
    bbox_buildSubscribeMessage useToken args
  refine ⟨⟨_, _, _, _, hbbox, by linarith, by linarith, by ring, by ring, hcap, ?_⟩, ?_⟩
  · intro pointLat pointLon hnearLat hnearLon
    obtain ⟨hlat₁, hlat₂⟩ := abs_le.mp hnearLat
    obtain ⟨hlon₁, hlon₂⟩ := abs_le.mp hnearLon
    exact ⟨⟨by linarith, by linarith⟩, by linarith, by linarith⟩
  · rw [hbbox]
    exact coversZone_square_iff hnonneg hcap hlat

/-- The arguments of a search at a position. -/
noncomputable def searchAt (lat lon size : ℝ) : StreamArgs ℝ := ⟨lat, lon, size, false, [], false⟩

theorem area_valid_iff_brest :
    CoversZone true 48 (-5) (sentBoxSize true 4)
      (buildSubscribeMessage true (searchAt 48 (-5) 4)).bbox := by
  have hsize : sentBoxSize true (4 : ℝ) = 4 := by
    rw [sentBoxSize_eq]
    norm_num
  have hiff := (area_valid_iff true (searchAt 48 (-5) 4) (by norm_num [searchAt])
    (by norm_num [searchAt])).2
  refine hiff.mpr ?_
  rw [show sentBoxSize true (searchAt 48 (-5) 4).boxSizeDegrees = 4 from hsize]
  norm_num [searchAt]

/-- Near the pole and the antimeridian the box is outside the coordinates, on two sides. -/
theorem area_beyond_pole :
    ¬CoversZone false 89 179 (sentBoxSize false 10)
      (buildSubscribeMessage false (searchAt 89 179 10)).bbox := by
  have hsize : sentBoxSize false (10 : ℝ) = 10 := by
    rw [sentBoxSize_eq]
    norm_num
  rw [bbox_buildSubscribeMessage, show sentBoxSize false (searchAt 89 179 10).boxSizeDegrees = 10
    from hsize, hsize]
  intro h
  have hpole := (coversZone_square_iff (by norm_num) (by norm_num) (by norm_num)).mp h
  norm_num at hpole

end AisLive
