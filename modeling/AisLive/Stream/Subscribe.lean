/-
The subscribe message.

`buildSubscribeMessage` clamps the requested size to what the authentication mode
allows, centres one box of that size on the search position, and adds the vessel
list when it is not empty and following is active.  The message is kept as the
members of the JSON object; writing them out as text is JsonCpp's work.
-/
import AisLive.Double

namespace AisLive

/-- The ceiling on the box size without a token. -/
def kStandardMaxBoxSizeDegrees {D : Type} [Double D] : D := Double.ofInt 10

/-- The ceiling on the box size once a token unlocks the larger area. -/
def kTokenMaxBoxSizeDegrees {D : Type} [Double D] : D := Double.ofInt 20

/-- The arguments of `Start` and `Restart`, the sentence callback apart. -/
structure StreamArgs (D : Type) where
  latitude : D
  longitude : D
  boxSizeDegrees : D
  activateVesselsFollowing : Bool
  mmsiList : List Nat
  snapshot : Bool
  deriving DecidableEq

/-- The members of the subscribe object, `type` apart, which is always `subscribe`. -/
structure SubscribeMessage (D : Type) where
  bbox : List (List D)
  mmsi : Option (List Nat)
  snapshot : Bool
  deriving DecidableEq

section

variable {D : Type} [Double D]

open Double

/-- The ceiling on the box size in each authentication mode. -/
def maxBoxSizeDegrees (useToken : Bool) : D :=
  if useToken then kTokenMaxBoxSizeDegrees else kStandardMaxBoxSizeDegrees

/-- The side of the box `BuildSubscribeMessage` asks for. -/
def sentBoxSize (useToken : Bool) (boxSizeDegrees : D) : D :=
  Double.min boxSizeDegrees (maxBoxSizeDegrees useToken)

/-- `AisStreamClient::BuildSubscribeMessage`. -/
def buildSubscribeMessage (useToken : Bool) (args : StreamArgs D) : SubscribeMessage D :=
  let size := sentBoxSize useToken args.boxSizeDegrees
  let half := div size (ofInt 2)
  { bbox := [[sub args.latitude half, sub args.longitude half,
      add args.latitude half, add args.longitude half]]
    mmsi := if !args.mmsiList.isEmpty && args.activateVesselsFollowing then some args.mmsiList
      else none
    snapshot := args.snapshot }

end

end AisLive
