/-
The main dialog.

`MainGui` is the dialog with its client and the settings its handlers read and write;
each handler of `DialogMainGui` is a function on it.  The widgets keep what they show:
the slider, the labels, the check boxes and the rows of the vessel table.

Three things are not in the source and only watch it.  `builds` records every subscribe
message together with the token stored at that moment; `notice` says that the table has
been written to by the handler itself, which the widget may answer with another
value-changed event; `fault` says that a vector was indexed or erased out of range.
-/
import AisLive.Plugin.Settings
import AisLive.Plugin.Utils
import AisLive.Stream.Atomic

namespace AisLive

open Double

/-- `HasToken`, of the stored token. -/
def hasToken (openWatersToken : WxString) : Bool := !(trim openWatersToken).isEmpty

theorem ne_nil_of_hasToken {openWatersToken : WxString} (h : hasToken openWatersToken = true) :
    openWatersToken ≠ [] := by
  rintro rfl
  cases h

/-- The slider of the box size; it starts at 0. -/
structure Slider where
  value : Int := 1
  max : Int := 10
  deriving DecidableEq

/-- A row of the vessel table. -/
structure Row where
  mmsi : WxString
  name : WxString
  deriving DecidableEq

/-- The row the constructor and `AddMmsiToList` append. -/
def vesselRow (mmsi : Nat) (name : WxString) : Row := ⟨decimal09 mmsi, name⟩

/-- A subscribe message built, with the client's token mode and the stored token. -/
structure Build (D : Type) where
  subscription : Subscription D
  useToken : Bool
  token : StdString
  openWatersToken : WxString

/-- The dialog. -/
structure Dialog (D : Type) [Double D] where
  client : StreamClient D := {}
  initialBoatPositionSet : Bool := false
  followBoatMode : Bool := true
  boatLatitude : D := ofInt 0
  boatLongitude : D := ofInt 0
  searchLatitude : D := ofInt 0
  searchLongitude : D := ofInt 0
  searchBoxSize : D := ofInt 1
  getSnapshot : Bool := false
  slider : Slider := {}
  searchBoxSizeLabel : WxString := []
  searchLatitudeLabel : WxString := []
  searchLongitudeLabel : WxString := []
  followBoatCheckBox : Bool := true
  vesselFollowingCheckBox : Bool := true
  rows : List Row := []
  /-- The window is shown. -/
  visible : Bool := false
  /-- The thumb of the slider is being dragged. -/
  dragging : Bool := false
  /-- Every subscribe message built; not part of the code's state. -/
  builds : List (Build D) := []
  /-- The cell the handler has written to, its notification not yet delivered. -/
  notice : Option (Nat × Nat) := none
  /-- A vector has been indexed or erased out of range. -/
  fault : Bool := false

/-- The dialog and the settings. -/
structure MainGui (D : Type) [Double D] extends Dialog D where
  settings : Settings D := {}

/-- The label of the box size. -/
def sizeLabel {D : Type} [Double D] (degrees : D) : WxString :=
  format 0 degrees ++ ['°'] ++ wx " x " ++ (format 0 degrees ++ ['°'])

/-- The label of a coordinate. -/
def coordinateLabel {D : Type} [Double D] (positive negative : String) (x : D) : WxString :=
  format 6 (abs x) ++ ['°'] ++ wx " " ++ if le (ofInt 0) x then wx positive else wx negative

/-- The largest value of the slider. -/
def maxSliderValue (openWatersToken : WxString) : Int := if hasToken openWatersToken then 20 else 10

namespace MainGui

variable {D : Type} [Double D]

/-! ### The stream -/

/-- The arguments every `Start` and `Restart` is given. -/
def streamArgs (g : MainGui D) : StreamArgs D where
  latitude := g.searchLatitude
  longitude := g.searchLongitude
  boxSizeDegrees := g.searchBoxSize
  activateVesselsFollowing := g.settings.activateVesselsFollowing
  mmsiList := g.settings.mmsiList
  snapshot := g.getSnapshot

/-- A call of the client, with the messages it builds. -/
def callClient (f : StreamClient D → StreamClient D) (g : MainGui D) : MainGui D :=
  { g with
    client := f g.client
    builds := g.builds ++ ((f g.client).subscriptions.drop g.client.subscriptions.length).map
      fun sub => ⟨sub, (f g.client).useToken, (f g.client).token, g.settings.openWatersToken⟩ }

/-- `StopAisStream`. -/
def stopAisStream (g : MainGui D) : MainGui D :=
  if g.client.streaming then g.callClient .stop else g

/-- `RestartAisStream`. -/
def restartAisStream (g : MainGui D) : MainGui D :=
  if g.client.streaming then g.callClient (.restart g.streamArgs) else g

section

variable (toStdString : WxString → StdString)

/-- The token and the token mode, from the stored token. -/
def setClientToken (g : MainGui D) : MainGui D :=
  g.callClient fun c => (c.setToken (toStdString g.settings.openWatersToken)).setTokenEnabled
    (hasToken g.settings.openWatersToken)

/-- `StartAisStream`. -/
def startAisStream (g : MainGui D) : MainGui D :=
  if g.client.streaming then g
  else (g.setClientToken toStdString).callClient (.start g.streamArgs)

end

/-! ### Input updates -/

/-- `updateSearchPosition`. -/
def updateSearchPosition (lat lon : D) (g : MainGui D) : MainGui D :=
  restartAisStream { g with
    searchLatitude := lat
    searchLongitude := lon
    searchLatitudeLabel := coordinateLabel "N" "S" lat
    searchLongitudeLabel := coordinateLabel "E" "W" lon }

/-- `updateSearchZoneOnCoord`. -/
def updateSearchZoneOnCoord (lat lon : D) (g : MainGui D) : MainGui D :=
  updateSearchPosition lat lon { g with followBoatMode := false, followBoatCheckBox := false }

/-- `activateFollowBoatMode`. -/
def activateFollowBoatMode (g : MainGui D) : MainGui D :=
  updateSearchPosition g.boatLatitude g.boatLongitude
    { g with followBoatMode := true, followBoatCheckBox := true }

/-- `updateSearchBoxSize`. -/
def updateSearchBoxSize (degrees : D) (g : MainGui D) : MainGui D :=
  let maxValue := maxSliderValue g.settings.openWatersToken
  let degrees := clamp degrees (ofInt 0) (ofInt maxValue)
  restartAisStream { g with
    slider := ⟨toInt degrees, maxValue⟩
    searchBoxSize := degrees
    searchBoxSizeLabel := sizeLabel degrees }

/-- The boat has moved far enough from the search position. -/
def boatMovedFar (g : MainGui D) : Bool :=
  le (computeFollowThresholdNm g.searchBoxSize g.boatLatitude)
    (greatCircleDistanceNm g.searchLatitude g.searchLongitude g.boatLatitude g.boatLongitude)

/-- The first boat position, in `updateBoatPosition`. -/
def setInitialPosition (lat lon : D) (g : MainGui D) : MainGui D :=
  if g.initialBoatPositionSet then g
  else updateSearchPosition lat lon { g with initialBoatPositionSet := true }

/-- The rest of `updateBoatPosition`. -/
def followBoat (g : MainGui D) : MainGui D :=
  if g.followBoatMode then
    if eq g.searchBoxSize (ofInt 0) then g
    else if g.boatMovedFar then updateSearchPosition g.boatLatitude g.boatLongitude g
    else g
  else g

/-- `updateBoatPosition`. -/
def updateBoatPosition (lat lon : D) (g : MainGui D) : MainGui D :=
  ({ g with boatLatitude := lat, boatLongitude := lon }.setInitialPosition lat lon).followBoat

/-! ### UI events -/

/-- `OnScroll_UpdateSearchBoxSize`. -/
def onScroll (g : MainGui D) : MainGui D :=
  { g with searchBoxSizeLabel := sizeLabel (ofInt g.slider.value : D) }

/-- `OnScrollThumbRelease_UpdateSearchBoxSize`. -/
def onScrollThumbRelease (g : MainGui D) : MainGui D := g.updateSearchBoxSize (ofInt g.slider.value)

/-- `OnCheckBox_FollowBoatMode`. -/
def onFollowBoatMode (checked : Bool) (g : MainGui D) : MainGui D :=
  if checked then
    updateSearchPosition g.boatLatitude g.boatLongitude { g with followBoatMode := checked }
  else { g with followBoatMode := checked }

/-- `OnButtonClick_AddMmsiToList`, of the values of the spin control and the name field. -/
def onAddMmsi (mmsi : Nat) (comment : WxString) (g : MainGui D) : MainGui D :=
  if g.settings.mmsiList.contains mmsi then g
  else restartAisStream { g with
    settings := { g.settings with
      mmsiList := g.settings.mmsiList ++ [mmsi]
      mmsiListNames := g.settings.mmsiListNames ++ [comment] }
    rows := g.rows ++ [vesselRow mmsi comment] }

/-- `OnButtonClick_DeleteMmsiFromList`, of the selected row if there is one. -/
def onDeleteMmsi (row : Nat) (g : MainGui D) : MainGui D :=
  if g.rows.length ≤ row then g
  else if g.settings.mmsiList.length ≤ row ∨ g.settings.mmsiListNames.length ≤ row then
    { g with fault := true }
  else restartAisStream { g with
    settings := { g.settings with
      mmsiList := g.settings.mmsiList.eraseIdx row
      mmsiListNames := g.settings.mmsiListNames.eraseIdx row }
    rows := g.rows.eraseIdx row }

/-- `OnButtonClick_ClearMmsiList`. -/
def onClearMmsi (g : MainGui D) : MainGui D :=
  restartAisStream { g with
    settings := { g.settings with mmsiList := [], mmsiListNames := [] }
    rows := [] }

/-- The text of a cell. -/
def cell (row column : Nat) (g : MainGui D) : WxString :=
  match g.rows[row]? with
  | none => []
  | some r => if column = 0 then r.mmsi else r.name

/-- Writing the text of a cell. -/
def setCell (row column : Nat) (text : WxString) (g : MainGui D) : MainGui D :=
  { g with rows := g.rows.modify row fun r =>
      if column = 0 then { r with mmsi := text } else { r with name := text } }

/-- The label `restore_mmsi`. -/
def restoreMmsi (row : Nat) (g : MainGui D) : MainGui D :=
  match g.settings.mmsiList[row]? with
  | none => { g with fault := true }
  | some mmsi => { g.setCell row 0 (decimal09 mmsi) with notice := some (row, 0) }

/-- Another row has the MMSI. -/
def repeatsMmsi (row mmsi : Nat) (g : MainGui D) : Bool :=
  g.settings.mmsiList.zipIdx.any fun (m, i) => i ≠ row && m == mmsi

/-- The branch of column 0 in `OnDataViewListCtrlItemValueChanged_updateMmsiList`. -/
def onMmsiChanged (row : Nat) (g : MainGui D) : MainGui D :=
  match acceptedMmsi (g.cell row 0) with
  | none => g.restoreMmsi row
  | some mmsi =>
      if g.repeatsMmsi row mmsi then g.restoreMmsi row
      else if g.settings.mmsiList.length ≤ row then { g with fault := true }
      else restartAisStream
        { g with settings := { g.settings with mmsiList := g.settings.mmsiList.set row mmsi } }

/-- `std::vector::resize`. -/
def resize (names : List WxString) (n : Nat) : List WxString :=
  names.take n ++ List.replicate (n - names.length) []

/-- The branch of column 1. -/
def onNameChanged (row : Nat) (g : MainGui D) : MainGui D :=
  let names := if g.settings.mmsiListNames.length ≤ row then
      resize g.settings.mmsiListNames g.settings.mmsiList.length
    else g.settings.mmsiListNames
  if names.length ≤ row then { g with fault := true }
  else { g with settings := { g.settings with mmsiListNames := names.set row (g.cell row 1) } }

/-- `OnDataViewListCtrlItemValueChanged_updateMmsiList`. -/
def onValueChanged (row column : Nat) (g : MainGui D) : MainGui D :=
  if g.rows.length ≤ row then g
  else if column = 0 then g.onMmsiChanged row
  else if column = 1 then g.onNameChanged row
  else g

/-- `m_checkBox_activateVesselFollowingOnCheckBox`. -/
def onVesselFollowing (g : MainGui D) : MainGui D :=
  restartAisStream
    { g with settings := { g.settings with activateVesselsFollowing := g.vesselFollowingCheckBox } }

/-- The notification of the cell written to is over; not part of the code. -/
def clearNotice (g : MainGui D) : MainGui D := { g with notice := none }

/-- `Show`. -/
def setVisible (visible : Bool) (g : MainGui D) : MainGui D := { g with visible }

/-! ### Creation and refresh -/

/-- `DialogMainGui::DialogMainGui`. -/
def create (settings : Settings D) : MainGui D :=
  let g := updateSearchBoxSize settings.lastSearchBoxSize { settings }
  { g with
    vesselFollowingCheckBox := settings.activateVesselsFollowing
    rows := settings.mmsiList.zipIdx.map fun (mmsi, i) =>
      vesselRow mmsi ((settings.mmsiListNames[i]?).getD []) }

/-- `refreshTokenState`. -/
def refreshTokenState (toStdString : WxString → StdString) (g : MainGui D) : MainGui D :=
  let g := g.setClientToken toStdString
  g.updateSearchBoxSize (ofInt g.slider.value)

/-! ### What the handlers leave alone

The calls of the client change it and the record of the messages built, and nothing else; an
edit changes the table and the vectors as well.  A property that reads none of these is kept.
-/

section

variable {P : MainGui D → Prop} {g : MainGui D}

theorem stopAisStream_frame (h : ∀ client builds, P { g with client, builds }) :
    P g.stopAisStream := by
  unfold stopAisStream
  split
  · exact h _ _
  · exact h g.client g.builds

theorem restartAisStream_frame (h : ∀ client builds, P { g with client, builds }) :
    P g.restartAisStream := by
  unfold restartAisStream
  split
  · exact h _ _
  · exact h g.client g.builds

theorem startAisStream_frame {toStdString : WxString → StdString}
    (h : ∀ client builds, P { g with client, builds }) : P (g.startAisStream toStdString) := by
  unfold startAisStream
  split
  · exact h g.client g.builds
  · exact h _ _

theorem onValueChanged_frame {row column : Nat}
    (h : ∀ client builds rows notice fault mmsiList mmsiListNames, P { g with
      client, builds, rows, notice, fault
      settings := { g.settings with mmsiList, mmsiListNames } }) :
    P (g.onValueChanged row column) := by
  have hsame : P g := h _ _ _ _ _ _ _
  have hfault : P { g with fault := true } := h _ _ _ _ _ _ _
  have hrestore : P (g.restoreMmsi row) := by
    unfold restoreMmsi
    split
    · exact hfault
    · exact h _ _ _ _ _ _ _
  have hmmsi : P (g.onMmsiChanged row) := by
    unfold onMmsiChanged
    split
    · exact hrestore
    · split
      · exact hrestore
      · split
        · exact hfault
        · exact restartAisStream_frame fun _ _ => h _ _ _ _ _ _ _
  have hname : P (g.onNameChanged row) := by
    unfold onNameChanged
    extract_lets names
    split
    · exact hfault
    · exact h _ _ _ _ _ _ _
  unfold onValueChanged
  split
  · exact hsame
  · split
    · exact hmmsi
    · split
      · exact hname
      · exact hsame

/-- What a fix of the boat and a search at any position leave alone. -/
theorem updateBoatPosition_frame {lat lon : D}
    (hfix : ∀ initialBoatPositionSet, P { g with
      boatLatitude := lat, boatLongitude := lon, initialBoatPositionSet })
    (hsearch : ∀ g lat lon, P g → P (g.updateSearchPosition lat lon)) :
    P (g.updateBoatPosition lat lon) := by
  have hinit : P (setInitialPosition lat lon
      { g with boatLatitude := lat, boatLongitude := lon }) := by
    unfold setInitialPosition
    split
    · exact hfix _
    · exact hsearch _ lat lon (hfix true)
  unfold updateBoatPosition followBoat
  split
  · split
    · exact hinit
    · split
      · exact hsearch _ _ _ hinit
      · exact hinit
  · exact hinit

end

end MainGui

end AisLive
