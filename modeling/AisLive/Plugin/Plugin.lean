/-
The plugin.

`Plugin` is everything between two events: the settings, the configuration, the dialog
once it has been created, and what OpenCPN shows of the plugin.  `Plugin.system` is one
step for each event the user, OpenCPN or the widgets can raise.

The widgets decide which events there are.  The dialog's controls can only be used
while its window is shown; releasing the thumb ends a drag; and a cell the handler has
written to itself is either notified again before anything else happens, or not at
all.
-/
import AisLive.Lib.Transition
import AisLive.Plugin.MainGui

namespace AisLive

open Double Transition

/-- The events of the slider that go to `OnScroll_UpdateSearchBoxSize`. -/
inductive ScrollKind
  | top
  | bottom
  | lineUp
  | lineDown
  | pageUp
  | pageDown
  | thumbTrack
  | changed
  deriving DecidableEq, Repr

/-- What the user does in the main dialog. -/
inductive UiEvent
  | startStream
  | stopStream
  /-- The slider moves to `value`. -/
  | scroll (kind : ScrollKind) (value : Int)
  /-- The thumb is released at `value`. -/
  | thumbRelease (value : Int)
  | followBoat (checked : Bool)
  | addMmsi (mmsi : Nat) (comment : WxString)
  /-- Delete, with `row` selected if the table has it. -/
  | deleteMmsi (row : Nat)
  | clearMmsi
  | editCell (row column : Nat) (text : WxString)
  | vesselFollowing (checked : Bool)
  deriving DecidableEq

/-- The entries of the context menu's dialog. -/
inductive DialogAction
  | none
  | updateToCursor
  | updateToBoat
  deriving DecidableEq, Repr

/-- The widgets of the preferences dialog when a button is pressed. -/
structure Preferences where
  restoreWindowPos : Bool
  restoreWindowSize : Bool
  keepWindowActive : Bool
  token : WxString
  deriving DecidableEq

/-- The settings with what the preferences dialog writes. -/
def Preferences.updated {D : Type} [Double D] (p : Preferences) (settings : Settings D) :
    Settings D :=
  { settings with
    restoreWindowPos := p.restoreWindowPos
    restoreWindowSize := p.restoreWindowSize
    keepWindowActive := p.keepWindowActive
    openWatersToken := p.token }

/-- The settings with what `SaveSettings` takes from the main window. -/
def Settings.placed {D : Type} [Double D] (window : Int × Int × Int × Int) (size : D)
    (settings : Settings D) : Settings D :=
  { settings with
    windowWidth := window.1
    windowHeight := window.2.1
    windowPosX := window.2.2.1
    windowPosY := window.2.2.2
    lastSearchBoxSize := size }

/-- An event. -/
inductive PluginEvent (D : Type)
  | init
  | deInit
  | toolbar
  /-- The close button of the main window. -/
  | close
  | ui (e : UiEvent)
  /-- The value-changed event of the cell the handler has written to is delivered. -/
  | notify
  /-- The widget raises none. -/
  | skipNotify
  | positionFix (lat lon : D)
  | cursor (lat lon : D)
  | contextMenu (action : DialogAction)
  | preferencesApply (p : Preferences)
  | preferencesOk (p : Preferences)
  /-- The main window is moved or resized to these values. -/
  | place (width height x y : Int)

/-- The plugin. -/
structure Plugin (D : Type) [Double D] where
  initialized : Bool := false
  settings : Settings D := {}
  config : Config D := {}
  dialog : Option (Dialog D) := none
  boatLat : D := ofInt 0
  boatLon : D := ofInt 0
  cursorLat : D := ofInt 0
  cursorLon : D := ofInt 0
  isToolbarActive : Bool := false
  /-- The toolbar item is highlighted. -/
  toolbarItemState : Bool := false
  /-- The context-menu entry is visible. -/
  menuItemVisible : Bool := false
  /-- The width, height and position of the main window. -/
  window : Int × Int × Int × Int := (0, 0, 0, 0)

namespace Plugin

variable {D : Type} [Double D]

/-- The dialog with the settings it works on. -/
def gui? (s : Plugin D) : Option (MainGui D) :=
  s.dialog.map fun d => { d with settings := s.settings }

/-- A handler of the dialog, when there is one. -/
def onGui (f : MainGui D → MainGui D) (s : Plugin D) : Plugin D :=
  match s.gui? with
  | none => s
  | some g => { s with settings := (f g).settings, dialog := some (f g).toDialog }

/-- The client of the dialog is streaming. -/
def isStreamingData (s : Plugin D) : Bool := s.dialog.any (·.client.streaming)

/-- The settings `SaveSettings` writes. -/
def settingsToSave (s : Plugin D) : Settings D :=
  match s.dialog with
  | none => s.settings
  | some d => s.settings.placed s.window d.searchBoxSize

/-- `SaveSettings`. -/
def save (s : Plugin D) : Plugin D :=
  { s with settings := s.settingsToSave, config := saveSettings s.settingsToSave }

/-- The block that `OnGuiClosed` and `OnToolbarToolCallback` share. -/
def stopUnlessKept (s : Plugin D) : Plugin D :=
  if s.settings.keepWindowActive then s
  else { s.onGui MainGui.stopAisStream with menuItemVisible := false }

/-- `OnGuiClosed`. -/
def onGuiClosed (s : Plugin D) : Plugin D :=
  { s with
    isToolbarActive := false
    toolbarItemState := s.isStreamingData && s.settings.keepWindowActive
  }.stopUnlessKept.onGui (.setVisible false)

/-- Where the window opens. -/
def restoredWindow (s : Plugin D) : Int × Int × Int × Int :=
  (if s.settings.restoreWindowSize then s.settings.windowWidth else s.window.1,
    if s.settings.restoreWindowSize then s.settings.windowHeight else s.window.2.1,
    if s.settings.restoreWindowPos then s.settings.windowPosX else s.window.2.2.1,
    if s.settings.restoreWindowPos then s.settings.windowPosY else s.window.2.2.2)

/-- The creation of the dialog on the first click. -/
def createGui (s : Plugin D) : Plugin D :=
  if s.dialog.isSome then s
  else { s with dialog := some (MainGui.create s.settings).toDialog, window := s.restoredWindow }

/-- `OnToolbarToolCallback`, once there is a dialog. -/
def toggleGui (s : Plugin D) : Plugin D :=
  if s.isToolbarActive then
    { s with toolbarItemState := true, menuItemVisible := true }.onGui (.setVisible true)
  else
    let s := s.onGui (.setVisible false)
    { s with
      toolbarItemState := s.isStreamingData && s.settings.keepWindowActive }.stopUnlessKept

/-- The toggle of `isToolbarActive`. -/
def toggleActive (s : Plugin D) : Plugin D := { s with isToolbarActive := !s.isToolbarActive }

/-- `OnToolbarToolCallback`. -/
def onToolbarToolCallback (s : Plugin D) : Plugin D := s.createGui.toggleActive.toggleGui

/-- `OnContextMenuItemCallback`, with what is chosen in its dialog. -/
def onContextMenuItemCallback (action : DialogAction) (s : Plugin D) : Plugin D :=
  match action with
  | .updateToCursor => s.onGui (.updateSearchZoneOnCoord s.cursorLat s.cursorLon)
  | .updateToBoat => s.onGui .activateFollowBoatMode
  | .none => s

/-- `updateSettings` of the preferences dialog. -/
def updateSettings (p : Preferences) (s : Plugin D) : Plugin D :=
  { s with settings := p.updated s.settings }

/-- `Init`. -/
def init (s : Plugin D) : Plugin D :=
  { s with
    initialized := true
    dialog := none
    isToolbarActive := false
    toolbarItemState := false
    menuItemVisible := false
    settings := loadSettings s.config }

/-- The end of the dialog in `DeInit`: it is closed, and deleting it stops its stream. -/
def deleteGui (s : Plugin D) : Plugin D :=
  if s.dialog.isSome then
    { s.onGuiClosed with
      dialog := none
      isToolbarActive := false
      toolbarItemState := false
      menuItemVisible := false }
  else s

/-- `DeInit`. -/
def deInit (s : Plugin D) : Plugin D := { s.save.deleteGui with initialized := false }

section

variable (toStdString : WxString → StdString)

/-- What the main dialog does with an event of its widgets, where they can raise it. -/
def uiStep (e : UiEvent) (g : MainGui D) : Option (MainGui D) :=
  match e with
  | .startStream => some (g.startAisStream toStdString)
  | .stopStream => some g.stopAisStream
  | .scroll kind value =>
      if 0 ≤ value ∧ value ≤ g.slider.max then
        some { g with
          slider := { g.slider with value }
          dragging := g.dragging || kind == ScrollKind.thumbTrack }.onScroll
      else none
  | .thumbRelease value =>
      if g.dragging ∧ 0 ≤ value ∧ value ≤ g.slider.max then
        some { g with slider := { g.slider with value }, dragging := false }.onScrollThumbRelease
      else none
  | .followBoat checked => some ({ g with followBoatCheckBox := checked }.onFollowBoatMode checked)
  | .addMmsi mmsi comment => if validMmsi mmsi then some (g.onAddMmsi mmsi comment) else none
  | .deleteMmsi row => some (g.onDeleteMmsi row)
  | .clearMmsi => some g.onClearMmsi
  | .editCell row column text =>
      if row < g.rows.length ∧ column < 2 then
        some ((g.setCell row column text).onValueChanged row column)
      else none
  | .vesselFollowing checked => some { g with vesselFollowingCheckBox := checked }.onVesselFollowing

/-- The event in a shown dialog. -/
def ui (e : UiEvent) (s : Plugin D) : Option (Plugin D) :=
  match s.gui? with
  | none => none
  | some g =>
      if g.visible then
        (uiStep toStdString e g).map fun g' =>
          { s with settings := g'.settings, dialog := some g'.toDialog }
      else none

/-- The notification of the cell the handler has written to. -/
def notified (deliver : Bool) (s : Plugin D) : Option (Plugin D) :=
  match s.gui? with
  | none => none
  | some g =>
      match g.notice with
      | none => none
      | some (row, column) =>
          some (s.onGui fun g =>
            if deliver then g.clearNotice.onValueChanged row column else g.clearNotice)

/-- The event, outside the handlers of the dialog. -/
def handle (e : PluginEvent D) (s : Plugin D) : Option (Plugin D) :=
  match e with
  | .init => if s.initialized then none else some s.init
  | .deInit => if s.initialized then some s.deInit else none
  | .toolbar => if s.initialized then some s.onToolbarToolCallback else none
  | .close => if s.dialog.any (·.visible) then some s.onGuiClosed else none
  | .ui e => s.ui toStdString e
  | .positionFix lat lon =>
      if s.initialized then
        some ({ s with boatLat := lat, boatLon := lon }.onGui (.updateBoatPosition lat lon))
      else none
  | .cursor lat lon =>
      if s.initialized then some { s with cursorLat := lat, cursorLon := lon } else none
  | .contextMenu action =>
      if s.dialog.isSome then some (s.onContextMenuItemCallback action) else none
  | .preferencesApply p => if s.initialized then some (s.updateSettings p) else none
  | .preferencesOk p =>
      if s.initialized then
        some ((s.updateSettings p).save.onGui (.refreshTokenState toStdString))
      else none
  | .place width height x y =>
      if s.dialog.any (·.visible) then some { s with window := (width, height, x, y) } else none
  | .notify => none
  | .skipNotify => none

/-- **The plugin**, as a transition system. -/
def system : System (Plugin D) (PluginEvent D) where
  step s e :=
    if s.dialog.any (·.fault) then none
    else if s.dialog.any (·.notice.isSome) then
      match e with
      | .notify => s.notified true
      | .skipNotify => s.notified false
      | _ => none
    else s.handle toStdString e

/-! ### Every step of the plugin, once -/

/-- The plugin with the dialog and its settings as a handler has left them. -/
def withGui (s : Plugin D) (g : MainGui D) : Plugin D :=
  { s with settings := g.settings, dialog := some g.toDialog }

/-- What the dialog does with the events of its widgets. -/
inductive UiMove (g : MainGui D) : UiEvent → MainGui D → Prop
  | startStream : UiMove g .startStream (g.startAisStream toStdString)
  | stopStream : UiMove g .stopStream g.stopAisStream
  | scroll (kind : ScrollKind) (value : Int) (hvalue : 0 ≤ value ∧ value ≤ g.slider.max) :
      UiMove g (.scroll kind value) { g with
        slider := { g.slider with value }
        dragging := g.dragging || kind == ScrollKind.thumbTrack }.onScroll
  | thumbRelease (value : Int) (hvalue : 0 ≤ value ∧ value ≤ g.slider.max)
      (hdragging : g.dragging = true) :
      UiMove g (.thumbRelease value)
        { g with slider := { g.slider with value }, dragging := false }.onScrollThumbRelease
  | followBoat (checked : Bool) :
      UiMove g (.followBoat checked)
        ({ g with followBoatCheckBox := checked }.onFollowBoatMode checked)
  | addMmsi (mmsi : Nat) (comment : WxString) (hvalid : validMmsi mmsi = true) :
      UiMove g (.addMmsi mmsi comment) (g.onAddMmsi mmsi comment)
  | deleteMmsi (row : Nat) : UiMove g (.deleteMmsi row) (g.onDeleteMmsi row)
  | clearMmsi : UiMove g .clearMmsi g.onClearMmsi
  | editCell (row column : Nat) (text : WxString) (hrow : row < g.rows.length)
      (hcolumn : column < 2) :
      UiMove g (.editCell row column text) ((g.setCell row column text).onValueChanged row column)
  | vesselFollowing (checked : Bool) :
      UiMove g (.vesselFollowing checked)
        { g with vesselFollowingCheckBox := checked }.onVesselFollowing

/-- The steps of the plugin. -/
inductive Move (s : Plugin D) : PluginEvent D → Plugin D → Prop
  | init (h : s.initialized = false) : Move s .init s.init
  | deInit : Move s .deInit s.deInit
  | toolbar (h : s.initialized = true) : Move s .toolbar s.onToolbarToolCallback
  | close : Move s .close s.onGuiClosed
  | ui {e : UiEvent} {g g' : MainGui D} (hg : s.gui? = some g)
      (hu : uiStep toStdString e g = some g') : Move s (.ui e) (s.withGui g')
  | notify {g : MainGui D} {row column : Nat} (hg : s.gui? = some g)
      (hn : g.notice = some (row, column)) :
      Move s .notify (s.withGui (g.clearNotice.onValueChanged row column))
  | skipNotify {g : MainGui D} (hg : s.gui? = some g) :
      Move s .skipNotify (s.withGui g.clearNotice)
  | positionFix {lat lon : D} :
      Move s (.positionFix lat lon)
        ({ s with boatLat := lat, boatLon := lon }.onGui (.updateBoatPosition lat lon))
  | cursor {lat lon : D} :
      Move s (.cursor lat lon) { s with cursorLat := lat, cursorLon := lon }
  | contextMenu {action : DialogAction} :
      Move s (.contextMenu action) (s.onContextMenuItemCallback action)
  | preferencesApply {p : Preferences} : Move s (.preferencesApply p) (s.updateSettings p)
  | preferencesOk {p : Preferences} :
      Move s (.preferencesOk p)
        ((s.updateSettings p).save.onGui (.refreshTokenState toStdString))
  | place {width height x y : Int} :
      Move s (.place width height x y) { s with window := (width, height, x, y) }

variable {toStdString}

theorem uiMove_of_uiStep {g g' : MainGui D} {e : UiEvent} (h : uiStep toStdString e g = some g') :
    UiMove toStdString g e g' := by
  cases e with
  | startStream =>
      cases h
      exact .startStream
  | stopStream =>
      cases h
      exact .stopStream
  | scroll kind value =>
      simp only [uiStep] at h
      split at h <;> cases h
      exact .scroll kind value ‹_›
  | thumbRelease value =>
      simp only [uiStep] at h
      split at h <;> cases h
      rename_i hdrag
      exact .thumbRelease value hdrag.2 hdrag.1
  | followBoat checked =>
      cases h
      exact .followBoat checked
  | addMmsi mmsi comment =>
      simp only [uiStep] at h
      split at h <;> cases h
      exact .addMmsi mmsi comment ‹_›
  | deleteMmsi row =>
      cases h
      exact .deleteMmsi row
  | clearMmsi =>
      cases h
      exact .clearMmsi
  | editCell row column text =>
      simp only [uiStep] at h
      split at h <;> cases h
      rename_i hcell
      exact .editCell row column text hcell.1 hcell.2
  | vesselFollowing checked =>
      cases h
      exact .vesselFollowing checked

theorem move_of_handle {s s' : Plugin D} {e : PluginEvent D}
    (h : handle toStdString e s = some s') : Move toStdString s e s' := by
  unfold handle at h
  cases e with
  | init =>
      simp only at h
      split at h <;> cases h
      exact .init (Bool.eq_false_iff.mpr ‹_›)
  | deInit =>
      simp only at h
      split at h <;> cases h
      exact .deInit
  | toolbar =>
      simp only at h
      split at h <;> cases h
      exact .toolbar ‹_›
  | close =>
      simp only at h
      split at h <;> cases h
      exact .close
  | ui e =>
      simp only [ui] at h
      split at h
      · cases h
      · rename_i g hg
        split at h
        · obtain ⟨g', hu, rfl⟩ := Option.map_eq_some_iff.mp h
          exact .ui hg hu
        · cases h
  | positionFix lat lon =>
      simp only at h
      split at h <;> cases h
      exact .positionFix
  | cursor lat lon =>
      simp only at h
      split at h <;> cases h
      exact .cursor
  | contextMenu action =>
      simp only at h
      split at h <;> cases h
      exact .contextMenu
  | preferencesApply p =>
      simp only at h
      split at h <;> cases h
      exact .preferencesApply
  | preferencesOk p =>
      simp only at h
      split at h <;> cases h
      exact .preferencesOk
  | place width height x y =>
      simp only at h
      split at h <;> cases h
      exact .place
  | notify => cases h
  | skipNotify => cases h

/-- **A step of the plugin is one of the moves.** -/
theorem move_of_step {s s' : Plugin D} {e : PluginEvent D}
    (h : (system toStdString).step s e = some s') : Move toStdString s e s' := by
  have hnotified : ∀ deliver, s.notified deliver = some s' → ∃ g row column,
      s.gui? = some g ∧ g.notice = some (row, column) ∧
        s' = s.withGui (if deliver then g.clearNotice.onValueChanged row column
          else g.clearNotice) := by
    intro deliver hn
    unfold notified at hn
    split at hn
    · cases hn
    · rename_i g hg
      split at hn
      · cases hn
      · rename_i row column hnotice
        cases hn
        exact ⟨g, row, column, hg, hnotice, by simp only [onGui, hg]; rfl⟩
  simp only [system] at h
  split at h
  · cases h
  · split at h
    · split at h
      · obtain ⟨g, row, column, hg, hn, rfl⟩ := hnotified _ h
        exact .notify hg hn
      · obtain ⟨g, row, column, hg, hn, rfl⟩ := hnotified _ h
        exact .skipNotify hg
      · cases h
    · exact move_of_handle h

end

/-! ### What a step makes of the dialog

The handlers of the plugin show the dialog, hide it and pass events on to it; seen from
the dialog, a step is one of the moves below.
-/

@[simp] theorem gui_withGui (s : Plugin D) (g : MainGui D) : (s.withGui g).gui? = some g := rfl

theorem gui_onGui (f : MainGui D → MainGui D) (s : Plugin D) :
    (s.onGui f).gui? = s.gui?.map f := by
  unfold onGui
  split
  · rename_i hg
    rw [hg, Option.map_none]
  · rename_i g hg
    rw [hg, Option.map_some]
    rfl

theorem onGui_of_gui_none {f : MainGui D → MainGui D} {s : Plugin D}
    (h : (s.onGui f).gui? = none) : s.onGui f = s := by
  rw [gui_onGui, Option.map_eq_none_iff] at h
  rw [onGui, h]

theorem settings_of_gui {s : Plugin D} {g : MainGui D} (hg : s.gui? = some g) :
    g.settings = s.settings := by
  obtain ⟨d, -, rfl⟩ := Option.map_eq_some_iff.mp hg
  rfl

theorem config_onGui (f : MainGui D → MainGui D) (s : Plugin D) :
    (s.onGui f).config = s.config := by
  unfold onGui
  split <;> rfl

theorem initialized_onGui (f : MainGui D → MainGui D) (s : Plugin D) :
    (s.onGui f).initialized = s.initialized := by
  unfold onGui
  split <;> rfl

/-- At most the dialog has changed, and what is shown of the plugin. -/
structure Kept (s s' : Plugin D) : Prop where
  settings : s'.settings = s.settings
  config : s'.config = s.config
  initialized : s'.initialized = s.initialized

theorem Kept.trans {s t u : Plugin D} (h : Kept s t) (h' : Kept t u) : Kept s u :=
  ⟨h'.settings.trans h.settings, h'.config.trans h.config, h'.initialized.trans h.initialized⟩

theorem kept_onGui {f : MainGui D → MainGui D} (hf : ∀ g, (f g).settings = g.settings)
    (s : Plugin D) : Kept s (s.onGui f) := by
  refine ⟨?_, config_onGui f s, initialized_onGui f s⟩
  unfold onGui
  split
  · rfl
  · rename_i g hg
    exact (hf g).trans (settings_of_gui hg)

theorem kept_setVisible (visible : Bool) (s : Plugin D) :
    Kept s (s.onGui (.setVisible visible)) :=
  kept_onGui (f := .setVisible visible) (fun _ => rfl) s

theorem gui_congr {s s' : Plugin D} (hsettings : s'.settings = s.settings)
    (hdialog : s'.dialog = s.dialog) : s'.gui? = s.gui? := by
  rw [gui?, gui?, hsettings, hdialog]

theorem stopAisStream_settings (g : MainGui D) : g.stopAisStream.settings = g.settings :=
  MainGui.stopAisStream_frame (P := fun g' => g'.settings = g.settings) fun _ _ => rfl

theorem stopAisStream_setVisible (visible : Bool) (g : MainGui D) :
    (g.setVisible visible).stopAisStream = g.stopAisStream.setVisible visible := by
  unfold MainGui.stopAisStream
  split
  · rw [if_pos (by assumption)]
    rfl
  · rw [if_neg (by assumption)]

/-- The stream, stopped unless the window is to stay active. -/
def stoppedUnlessKept (g : MainGui D) : MainGui D :=
  if g.settings.keepWindowActive then g else g.stopAisStream

/-- What hiding the window does to the dialog. -/
def hidden (g : MainGui D) : MainGui D := (stoppedUnlessKept g).setVisible false

theorem hidden_frame {P : MainGui D → Prop} {g : MainGui D}
    (h : ∀ client builds, P { g with client, builds, visible := false }) : P (hidden g) := by
  unfold hidden stoppedUnlessKept
  split
  · exact h g.client g.builds
  · exact MainGui.stopAisStream_frame (P := fun g => P (g.setVisible false)) h

theorem gui_stopUnlessKept (s : Plugin D) :
    s.stopUnlessKept.gui? = s.gui?.map stoppedUnlessKept := by
  unfold stopUnlessKept
  split
  · rename_i hkeep
    refine Option.map_id_apply.symm.trans (Option.map_congr fun g hg => ?_)
    rw [stoppedUnlessKept, settings_of_gui hg, if_pos hkeep]
    rfl
  · rename_i hkeep
    refine (gui_onGui _ s).trans (Option.map_congr fun g hg => ?_)
    rw [stoppedUnlessKept, settings_of_gui hg, if_neg hkeep]

theorem kept_stopUnlessKept (s : Plugin D) : Kept s s.stopUnlessKept := by
  unfold stopUnlessKept
  split
  · exact ⟨rfl, rfl, rfl⟩
  · exact (kept_onGui stopAisStream_settings s).trans ⟨rfl, rfl, rfl⟩

theorem gui_onGuiClosed (s : Plugin D) : s.onGuiClosed.gui? = s.gui?.map hidden := by
  unfold onGuiClosed
  rw [gui_onGui, gui_stopUnlessKept, Option.map_map]
  rfl

theorem kept_onGuiClosed (s : Plugin D) : Kept s s.onGuiClosed := by
  refine Kept.trans ⟨?_, ?_, ?_⟩ ((kept_stopUnlessKept _).trans (kept_setVisible false _)) <;> rfl

theorem gui_toggleGui (s : Plugin D) :
    s.toggleGui.gui? = s.gui?.map (if s.isToolbarActive then .setVisible true else hidden) := by
  unfold toggleGui
  split
  · rename_i hactive
    exact gui_onGui _ _
  · rename_i hactive
    rw [gui_stopUnlessKept]
    refine (congrArg _ ((gui_congr rfl rfl).trans (gui_onGui _ s))).trans ?_
    rw [Option.map_map]
    refine Option.map_congr fun g _ => ?_
    show stoppedUnlessKept (g.setVisible false) = (stoppedUnlessKept g).setVisible false
    unfold stoppedUnlessKept
    split
    · rw [if_pos (by assumption)]
    · rw [if_neg (by assumption), stopAisStream_setVisible]

theorem kept_toggleGui (s : Plugin D) : Kept s s.toggleGui := by
  unfold toggleGui
  split
  · refine Kept.trans ⟨?_, ?_, ?_⟩ (kept_setVisible true _) <;> rfl
  · refine (kept_setVisible false s).trans (Kept.trans ⟨?_, ?_, ?_⟩ (kept_stopUnlessKept _)) <;> rfl

/-! ### The toolbar, saving and the end of a session -/

/-- The dialog there is once the toolbar button has been clicked. -/
def createdGui (s : Plugin D) : MainGui D := s.gui?.getD (MainGui.create s.settings)

theorem create_settings (settings : Settings D) : (MainGui.create settings).settings = settings :=
  MainGui.restartAisStream_frame (P := fun g => g.settings = settings) fun _ _ => rfl

theorem gui_of_dialog {s : Plugin D} {g : MainGui D} (hdialog : s.dialog = some g.toDialog)
    (hsettings : g.settings = s.settings) : s.gui? = some g := by
  rw [gui?, hdialog, Option.map_some, ← hsettings]

theorem gui_createGui (s : Plugin D) : s.createGui.gui? = some s.createdGui := by
  unfold createGui createdGui
  split
  · rename_i hsome
    obtain ⟨d, hd⟩ := Option.isSome_iff_exists.mp hsome
    rw [gui?, hd]
    rfl
  · rename_i hnone
    rw [gui?.eq_def s, Option.not_isSome_iff_eq_none.mp hnone]
    exact gui_of_dialog rfl (create_settings s.settings)

theorem kept_createGui (s : Plugin D) : Kept s s.createGui := by
  unfold createGui
  split <;> exact ⟨rfl, rfl, rfl⟩

/-- The button hides the window when it is active, and shows it when it is not. -/
theorem gui_onToolbarToolCallback (s : Plugin D) :
    s.onToolbarToolCallback.gui? = some (if s.isToolbarActive = true then hidden s.createdGui
      else s.createdGui.setVisible true) := by
  have hactive : s.createGui.toggleActive.isToolbarActive = !s.isToolbarActive := by
    unfold createGui
    split <;> rfl
  unfold onToolbarToolCallback
  rw [gui_toggleGui, show s.createGui.toggleActive.gui? = s.createGui.gui? from rfl,
    gui_createGui, Option.map_some, hactive]
  cases s.isToolbarActive <;> rfl

theorem kept_onToolbarToolCallback (s : Plugin D) : Kept s s.onToolbarToolCallback :=
  have hactive : Kept s.createGui s.createGui.toggleActive := ⟨rfl, rfl, rfl⟩
  (kept_createGui s).trans (hactive.trans (kept_toggleGui s.createGui.toggleActive))

theorem gui_save (s : Plugin D) :
    s.save.gui? = s.gui?.map fun g =>
      { g with settings := g.settings.placed s.window g.searchBoxSize } := by
  unfold save settingsToSave gui?
  cases s.dialog <;> rfl

theorem gui_deleteGui (s : Plugin D) : s.deleteGui.gui? = none := by
  unfold deleteGui
  split
  · rfl
  · rename_i hnone
    rw [gui?, Option.not_isSome_iff_eq_none.mp hnone, Option.map_none]

theorem kept_deleteGui (s : Plugin D) : Kept s s.deleteGui := by
  unfold deleteGui
  split
  · exact (kept_onGuiClosed s).trans ⟨rfl, rfl, rfl⟩
  · exact ⟨rfl, rfl, rfl⟩

/-! ### The moves of the dialog -/

/-- What a step makes of the dialog and its settings. -/
inductive GuiMove (toStdString : WxString → StdString) (g : MainGui D) :
    PluginEvent D → MainGui D → Prop
  | show : GuiMove toStdString g .toolbar (g.setVisible true)
  | hide : GuiMove toStdString g .toolbar (hidden g)
  | close : GuiMove toStdString g .close (hidden g)
  | ui {e : UiEvent} {g' : MainGui D} (hu : uiStep toStdString e g = some g') :
      GuiMove toStdString g (.ui e) g'
  | notify {row column : Nat} (hn : g.notice = some (row, column)) :
      GuiMove toStdString g .notify (g.clearNotice.onValueChanged row column)
  | skipNotify : GuiMove toStdString g .skipNotify g.clearNotice
  | positionFix {lat lon : D} :
      GuiMove toStdString g (.positionFix lat lon) (g.updateBoatPosition lat lon)
  | cursor {lat lon : D} : GuiMove toStdString g (.cursor lat lon) g
  | place {width height x y : Int} : GuiMove toStdString g (.place width height x y) g
  | noAction : GuiMove toStdString g (.contextMenu .none) g
  | updateToCursor {lat lon : D} :
      GuiMove toStdString g (.contextMenu .updateToCursor) (g.updateSearchZoneOnCoord lat lon)
  | updateToBoat : GuiMove toStdString g (.contextMenu .updateToBoat) g.activateFollowBoatMode
  | preferencesApply {p : Preferences} :
      GuiMove toStdString g (.preferencesApply p) { g with settings := p.updated g.settings }
  | preferencesOk {p : Preferences} {window : Int × Int × Int × Int} :
      GuiMove toStdString g (.preferencesOk p)
        (MainGui.refreshTokenState toStdString
          { g with settings := (p.updated g.settings).placed window g.searchBoxSize })

variable {toStdString : WxString → StdString}

/--
**Every dialog after a step is a move away from the one before it**, or, on the first click
of the toolbar button, from a new one made of the settings.
-/
theorem guiMove_of_move {s s' : Plugin D} {e : PluginEvent D} (h : Move toStdString s e s')
    {g' : MainGui D} (hg' : s'.gui? = some g') :
    ∃ g, (s.gui? = some g ∨ s.gui? = none ∧ e = .toolbar ∧ g = MainGui.create s.settings) ∧
      GuiMove toStdString g e g' := by
  -- the dialog there was, when the step is an event passed on to it
  have hmap : ∀ {f : MainGui D → MainGui D}, s.gui?.map f = some g' →
      (∀ g, GuiMove toStdString g e (f g)) →
      ∃ g, (s.gui? = some g ∨ s.gui? = none ∧ e = .toolbar ∧ g = MainGui.create s.settings) ∧
        GuiMove toStdString g e g' := by
    intro f hf hmove
    obtain ⟨g, hg, rfl⟩ := Option.map_eq_some_iff.mp hf
    exact ⟨g, .inl hg, hmove g⟩
  cases h with
  | init _ => cases hg'
  | deInit =>
      rw [show s.deInit.gui? = s.save.deleteGui.gui? from rfl, gui_deleteGui] at hg'
      cases hg'
  | toolbar _ =>
      refine ⟨s.createdGui, ?_, ?_⟩
      · unfold createdGui
        cases s.gui? with
        | some g => exact .inl rfl
        | none => exact .inr ⟨rfl, rfl, rfl⟩
      rw [gui_onToolbarToolCallback, Option.some.injEq] at hg'
      rw [← hg']
      split
      · exact .hide
      · exact .show
  | close => exact hmap ((gui_onGuiClosed s).symm.trans hg') fun _ => .close
  | ui hg hu =>
      rw [gui_withGui] at hg'
      cases hg'
      exact ⟨_, .inl hg, .ui hu⟩
  | notify hg hn =>
      rw [gui_withGui] at hg'
      cases hg'
      exact ⟨_, .inl hg, .notify hn⟩
  | skipNotify hg =>
      rw [gui_withGui] at hg'
      cases hg'
      exact ⟨_, .inl hg, .skipNotify⟩
  | positionFix =>
      rw [gui_onGui] at hg'
      exact hmap hg' fun _ => .positionFix
  | cursor => exact ⟨g', .inl hg', .cursor⟩
  | @contextMenu action =>
      cases action with
      | none => exact ⟨g', .inl hg', .noAction⟩
      | updateToCursor => exact hmap ((gui_onGui _ s).symm.trans hg') fun _ => .updateToCursor
      | updateToBoat => exact hmap ((gui_onGui _ s).symm.trans hg') fun _ => .updateToBoat
  | @preferencesApply p =>
      refine hmap (f := fun g => { g with settings := p.updated g.settings }) ?_
        fun _ => .preferencesApply
      rw [← hg', gui?, gui?, Option.map_map]
      rfl
  | @preferencesOk p =>
      have hupdated : (s.updateSettings p).gui?
          = s.gui?.map fun g => { g with settings := p.updated g.settings } := by
        rw [gui?, gui?, Option.map_map]
        rfl
      rw [gui_onGui, gui_save, hupdated, Option.map_map, Option.map_map] at hg'
      exact hmap hg' fun _ => .preferencesOk
  | place => exact ⟨g', .inl hg', .place⟩

/-- Only the first and the last event of a session change whether there is one. -/
theorem initialized_step {s s' : Plugin D} {e : PluginEvent D} (hmove : Move toStdString s e s') :
    s'.initialized = s.initialized ∨ s'.gui? = none := by
  cases hmove with
  | init _ => exact .inr rfl
  | deInit => exact .inr (gui_deleteGui s.save)
  | toolbar _ => exact .inl (kept_onToolbarToolCallback s).initialized
  | close => exact .inl (kept_onGuiClosed s).initialized
  | ui hg hu => exact .inl rfl
  | notify hg hn => exact .inl rfl
  | skipNotify hg => exact .inl rfl
  | positionFix => exact .inl (initialized_onGui _ _)
  | cursor => exact .inl rfl
  | @contextMenu action =>
      cases action with
      | none => exact .inl rfl
      | updateToCursor | updateToBoat => exact .inl (initialized_onGui _ _)
  | preferencesApply => exact .inl rfl
  | preferencesOk => exact .inl (initialized_onGui _ _)
  | place => exact .inl rfl

/-- Only the first and the last event of a session leave no dialog where there was one. -/
theorem gui_none_step {s s' : Plugin D} {e : PluginEvent D} (hmove : Move toStdString s e s')
    (hnone : s'.gui? = none) : s.gui? = none ∨ (e = .init ∧ s.initialized = false) ∨ e = .deInit := by
  cases hmove with
  | init hinit => exact .inr (.inl ⟨rfl, hinit⟩)
  | deInit => exact .inr (.inr rfl)
  | toolbar _ =>
      rw [gui_onToolbarToolCallback] at hnone
      cases hnone
  | close =>
      rw [gui_onGuiClosed] at hnone
      exact .inl (Option.map_eq_none_iff.mp hnone)
  | ui hg hu => cases hnone
  | notify hg hn => cases hnone
  | skipNotify hg => cases hnone
  | positionFix => exact .inl ((congrArg gui? (onGui_of_gui_none hnone)).symm.trans hnone)
  | cursor => exact .inl hnone
  | @contextMenu action =>
      cases action with
      | none => exact .inl hnone
      | updateToCursor | updateToBoat =>
          exact .inl ((congrArg gui? (onGui_of_gui_none hnone)).symm.trans hnone)
  | @preferencesApply p =>
      rw [gui?, Option.map_eq_none_iff] at hnone
      exact .inl (Option.map_eq_none_iff.mpr hnone)
  | @preferencesOk p =>
      rw [gui_onGui, gui_save, Option.map_eq_none_iff, Option.map_eq_none_iff, gui?,
        Option.map_eq_none_iff] at hnone
      exact .inl (Option.map_eq_none_iff.mpr hnone)
  | place => exact .inl hnone

/--
**An exact condition on the moves of the dialog is one on the steps.**  Where each move leaves
a dialog with `P` exactly if `Q` held of the one before, and the first click of the toolbar
button makes one with `P`, every dialog after a step has `P` exactly if every one before it
had `Q`.  `Q` must ask nothing of the events that take the dialog away.
-/
theorem forall_gui_step_iff {s s' : Plugin D} {e : PluginEvent D} (hmove : Move toStdString s e s')
    {P Q : MainGui D → Prop}
    (hiff : ∀ g g', s.gui? = some g → s'.gui? = some g' → GuiMove toStdString g e g' → (P g' ↔ Q g))
    (hcreate : ∀ g', s'.gui? = some g' → e = .toolbar →
      GuiMove toStdString (MainGui.create s.settings) e g' → P g')
    (hgone : (e = .init ∧ s.initialized = false) ∨ e = .deInit → ∀ g, s.gui? = some g → Q g) :
    (∀ g', s'.gui? = some g' → P g') ↔ ∀ g, s.gui? = some g → Q g := by
  constructor
  · intro h' g hg
    cases hg' : s'.gui? with
    | none =>
        rcases gui_none_step hmove hg' with hnone | hended
        · rw [hg] at hnone
          cases hnone
        · exact hgone hended g hg
    | some g' =>
        obtain ⟨g₀, hg₀ | ⟨hnone, -⟩, hm⟩ := guiMove_of_move hmove hg'
        · rw [hg] at hg₀
          cases hg₀
          exact (hiff g g' hg hg' hm).mp (h' g' hg')
        · rw [hg] at hnone
          cases hnone
  · intro hQ g' hg'
    obtain ⟨g, hg | ⟨-, he, rfl⟩, hm⟩ := guiMove_of_move hmove hg'
    · exact (hiff g g' hg hg' hm).mpr (hQ g hg)
    · exact hcreate g' hg' he hm

end Plugin

end AisLive
