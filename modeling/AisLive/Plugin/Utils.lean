/-
Distances on the chart.

The haversine distance and the re-centre threshold of follow mode, operation by
operation as the source computes them.
-/
import AisLive.Double

namespace AisLive

open Double

variable {D : Type} [Double D]

/-- `kNmPerDegreeLatitude`. -/
def kNmPerDegreeLatitude : D := ofInt 60

/-- `kEarthRadiusNm`. -/
def kEarthRadiusNm : D := ofDecimal 3440065 3

/-- `kFollowThresholdFraction`. -/
def kFollowThresholdFraction : D := ofDecimal 3 1

/-- `Utils::DegToRad`. -/
def degToRad (deg : D) : D := div (mul deg pi) (ofInt 180)

/-- The `a` of `Utils::GreatCircleDistanceNm`. -/
def haversine (lat1 lon1 lat2 lon2 : D) : D :=
  let dLat := degToRad (sub lat2 lat1)
  let dLon := degToRad (sub lon2 lon1)
  add (mul (sin (div dLat (ofInt 2))) (sin (div dLat (ofInt 2))))
    (mul (mul (mul (cos (degToRad lat1)) (cos (degToRad lat2))) (sin (div dLon (ofInt 2))))
      (sin (div dLon (ofInt 2))))

/-- `Utils::GreatCircleDistanceNm`. -/
def greatCircleDistanceNm (lat1 lon1 lat2 lon2 : D) : D :=
  let a := haversine lat1 lon1 lat2 lon2
  let c := mul (ofInt 2) (atan2 (sqrt a) (sqrt (sub (ofInt 1) a)))
  mul kEarthRadiusNm c

/-- `ComputeFollowThresholdNm`. -/
def computeFollowThresholdNm (searchBoxSizeDegrees latitude : D) : D :=
  let halfSideLatNm := div (mul searchBoxSizeDegrees kNmPerDegreeLatitude) (ofInt 2)
  let halfSideLonNm := mul halfSideLatNm (cos (degToRad latitude))
  mul (Double.min halfSideLatNm halfSideLonNm) kFollowThresholdFraction

end AisLive
