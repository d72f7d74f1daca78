/-
The settings over several sessions.

What a session leaves behind is read back by the next one, and not all of it comes back as it
was: a name with a comma is cut up, the geometry of the window is used only where its
preference is set, and the stored size of the box is clamped to what the stored token allows.
`Settings.effective` is what is left of the settings after that, and reading them back a
second time takes nothing more away.

`Plugin.upcoming` is what the next session would make of the settings if this one ended now.
Only an edit, a preference or a move of the window changes it; the theorem is about runs that
may end and begin any number of sessions.
-/
import AisLive.Plugin.Vessels

namespace AisLive

open Double Transition

/-! ### What comes back of the names -/

/-- The names of `n` vessels, written with commas and read back. -/
def rereadNames (n : Nat) (names : List WxString) : List WxString :=
  (List.range n).map fun i => ((wxStringTokenize ([','].intercalate names))[i]?).getD []

theorem not_mem_comma_of_reread {n : Nat} {names : List WxString} {name : WxString}
    (h : name ∈ rereadNames n names) : ',' ∉ name := by
  obtain ⟨i, -, rfl⟩ := List.mem_map.mp h
  by_cases hi : i < (wxStringTokenize ([','].intercalate names)).length
  · rw [List.getElem?_eq_getElem hi, Option.getD_some]
    exact Tokens.not_mem_of_mem_tokens (List.getElem_mem hi)
  · rw [List.getElem?_eq_none (by omega)]
    simp

theorem length_rereadNames (n : Nat) (names : List WxString) :
    (rereadNames n names).length = n := by
  simp [rereadNames]

/-- Names without commas come back. -/
theorem rereadNames_eq {names : List WxString} (hsep : ∀ name ∈ names, ',' ∉ name) :
    rereadNames names.length names = names := by
  refine List.ext_getElem (length_rereadNames _ _) fun i hi hi' => ?_
  simp [rereadNames, wxStringTokenize, Tokens.getD_tokens_intercalate hsep, hi']

/-- **Reading back a second time changes nothing.** -/
theorem rereadNames_idem (n : Nat) (names : List WxString) :
    rereadNames n (rereadNames n names) = rereadNames n names := by
  have hsep : ∀ name ∈ rereadNames n names, ',' ∉ name := fun _ h => not_mem_comma_of_reread h
  have hsame := rereadNames_eq hsep
  rwa [length_rereadNames] at hsame

/-! ### What a session makes of the settings -/

section

variable {D : Type} [Double D]

/-- The size the dialog takes from the settings. -/
def Settings.boxSize (s : Settings D) : D :=
  clamp s.lastSearchBoxSize (ofInt 0) (ofInt (maxSliderValue s.openWatersToken))

/-- What a session makes of the settings. -/
def Settings.effective (s : Settings D) : Settings D :=
  { s with
    windowWidth := if s.restoreWindowSize then s.windowWidth else 0
    windowHeight := if s.restoreWindowSize then s.windowHeight else 0
    windowPosX := if s.restoreWindowPos then s.windowPosX else 0
    windowPosY := if s.restoreWindowPos then s.windowPosY else 0
    lastSearchBoxSize := s.boxSize
    mmsiListNames := rereadNames s.mmsiList.length s.mmsiListNames }

/-- The settings written and read back differ at most in the names. -/
theorem loadSettings_saveSettings {s : Settings D}
    (hlen : s.mmsiList.length = s.mmsiListNames.length)
    (hvalid : ∀ m ∈ s.mmsiList, validMmsi m = true) :
    loadSettings (saveSettings s)
      = { s with mmsiListNames := rereadNames s.mmsiList.length s.mmsiListNames } := by
  have hmmsis := loadSettings_mmsiList hvalid
  have hnames := loadSettings_mmsiListNames hlen hvalid
  calc loadSettings (saveSettings s)
      = { s with
          mmsiList := (loadSettings (saveSettings s)).mmsiList
          mmsiListNames := (loadSettings (saveSettings s)).mmsiListNames } := rfl
    _ = _ := by rw [hmmsis, hnames]; rfl

/-- **The next session makes of the settings what this one would.** -/
theorem effective_loadSettings_saveSettings {s : Settings D}
    (hlen : s.mmsiList.length = s.mmsiListNames.length)
    (hvalid : ∀ m ∈ s.mmsiList, validMmsi m = true) :
    (loadSettings (saveSettings s)).effective = s.effective := by
  rw [loadSettings_saveSettings hlen hvalid]
  simp only [Settings.effective, Settings.boxSize, rereadNames_idem]

/-- Clamping to whole degrees a second time changes nothing. -/
theorem clamp_clamp [LawfulDouble D] {lo hi : Int} (hlo : lo.natAbs < 2 ^ 31)
    (hhi : hi.natAbs < 2 ^ 31) (hle : lo ≤ hi) (v : D) :
    clamp (clamp v (ofInt lo) (ofInt hi)) (ofInt lo) (ofInt hi) = clamp v (ofInt lo) (ofInt hi) := by
  have hnotabove := not_lt_clamp hlo hhi hle v
  have hnotbelow : lt (clamp v (ofInt lo) (ofInt hi)) (ofInt lo) = false := by
    unfold clamp
    split
    · exact LawfulDouble.lt_irrefl _
    · split
      · rw [LawfulDouble.lt_ofInt _ _ hhi hlo]
        exact decide_eq_false (by omega)
      · exact Bool.eq_false_iff.mpr ‹_›
  rw [clamp.eq_def (clamp v (ofInt lo) (ofInt hi)), hnotabove, hnotbelow]
  rfl

/-- The box of a new dialog is no larger, and is saved as it is. -/
theorem boxSize_placed [LawfulDouble D] (s : Settings D) (window : Int × Int × Int × Int) :
    (s.placed window s.boxSize).boxSize = s.boxSize := by
  refine clamp_clamp (by decide) ?_ ?_ _
  all_goals
    unfold maxSliderValue
    split <;> decide

end

namespace Plugin

variable {D : Type} [Double D]

/-- A window opened where it is restored changes nothing the next session makes of it. -/
theorem effective_restored [LawfulDouble D] (s : Plugin D) :
    (s.settings.placed s.restoredWindow s.settings.boxSize).effective = s.settings.effective := by
  rw [Settings.effective, boxSize_placed]
  simp only [Settings.placed, Settings.effective, restoredWindow, Settings.mk.injEq, and_true,
    true_and]
  refine ⟨?_, ?_, ?_, ?_⟩
  all_goals
    split
    · rfl
    · rfl

/-! ### Events that edit nothing -/

/-- The widgets that edit a setting. -/
def editsUi : UiEvent → Bool
  | .thumbRelease _ | .addMmsi _ _ | .deleteMmsi _ | .clearMmsi | .editCell _ _ _ |
    .vesselFollowing _ => true
  | .startStream | .stopStream | .scroll _ _ | .followBoat _ => false

/-- The events that edit a setting, the answer to an edited cell included, confirm the
preferences or move the window. -/
def edits : PluginEvent D → Bool
  | .ui e => editsUi e
  | .notify | .preferencesApply _ | .preferencesOk _ | .place _ _ _ _ => true
  | .init | .deInit | .toolbar | .close | .skipNotify | .positionFix _ _ | .cursor _ _ |
    .contextMenu _ => false

/-- What is saved of the dialog is as it was. -/
structure Unedited (g g' : MainGui D) : Prop where
  settings : g'.settings = g.settings
  size : g'.searchBoxSize = g.searchBoxSize

theorem unedited_stop (g : MainGui D) : Unedited g g.stopAisStream :=
  MainGui.stopAisStream_frame (P := Unedited g) fun _ _ => ⟨rfl, rfl⟩

theorem unedited_search (g : MainGui D) (lat lon : D) : Unedited g (g.updateSearchPosition lat lon) :=
  MainGui.restartAisStream_frame (P := Unedited g) fun _ _ => ⟨rfl, rfl⟩

theorem unedited_hidden (g : MainGui D) : Unedited g (hidden g) :=
  hidden_frame (P := Unedited g) fun _ _ => ⟨rfl, rfl⟩

theorem unedited_uiStep {toStdString : WxString → StdString} {g g' : MainGui D} {e : UiEvent}
    (he : editsUi e = false) (hu : uiStep toStdString e g = some g') : Unedited g g' := by
  cases uiMove_of_uiStep hu with
  | startStream => exact MainGui.startAisStream_frame (P := Unedited g) fun _ _ => ⟨rfl, rfl⟩
  | stopStream => exact unedited_stop g
  | scroll kind value hvalue => exact ⟨rfl, rfl⟩
  | thumbRelease value hvalue hdragging => cases he
  | followBoat checked =>
      unfold MainGui.onFollowBoatMode
      split
      · exact MainGui.restartAisStream_frame (P := Unedited g) fun _ _ => ⟨rfl, rfl⟩
      · exact ⟨rfl, rfl⟩
  | addMmsi mmsi comment hvalid => cases he
  | deleteMmsi row => cases he
  | clearMmsi => cases he
  | editCell row column text hrow hcolumn => cases he
  | vesselFollowing checked => cases he

/-- **An event that edits nothing leaves the dialog's settings and the size of its box.** -/
theorem unedited_guiMove {toStdString : WxString → StdString} {g g' : MainGui D}
    {e : PluginEvent D} (he : edits e = false) (h : GuiMove toStdString g e g') :
    Unedited g g' := by
  cases h with
  | «show» => exact ⟨rfl, rfl⟩
  | hide => exact unedited_hidden g
  | close => exact unedited_hidden g
  | ui hu => exact unedited_uiStep he hu
  | notify hn => cases he
  | skipNotify => exact ⟨rfl, rfl⟩
  | positionFix =>
      exact MainGui.updateBoatPosition_frame (P := Unedited g) (fun _ => ⟨rfl, rfl⟩)
        fun g' lat lon h => ⟨(unedited_search g' lat lon).settings.trans h.settings,
          (unedited_search g' lat lon).size.trans h.size⟩
  | cursor => exact ⟨rfl, rfl⟩
  | place => cases he
  | noAction => exact ⟨rfl, rfl⟩
  | updateToCursor => exact MainGui.restartAisStream_frame (P := Unedited g) fun _ _ => ⟨rfl, rfl⟩
  | updateToBoat => exact MainGui.restartAisStream_frame (P := Unedited g) fun _ _ => ⟨rfl, rfl⟩
  | preferencesApply => cases he
  | preferencesOk => cases he

/-! ### The window stays where it is -/

theorem window_onGui (f : MainGui D → MainGui D) (s : Plugin D) :
    (s.onGui f).window = s.window := by
  unfold onGui
  split <;> rfl

theorem window_stopUnlessKept (s : Plugin D) : s.stopUnlessKept.window = s.window := by
  unfold stopUnlessKept
  split
  · rfl
  · exact window_onGui _ s

theorem window_onGuiClosed (s : Plugin D) : s.onGuiClosed.window = s.window := by
  unfold onGuiClosed
  rw [window_onGui, window_stopUnlessKept]

theorem window_onToolbarToolCallback (s : Plugin D) :
    s.onToolbarToolCallback.window = s.createGui.window := by
  unfold onToolbarToolCallback toggleGui
  split
  · rw [window_onGui]
    rfl
  · rw [window_stopUnlessKept]
    exact window_onGui _ _

/-! ### What the next session starts with -/

/-- What `SaveSettings` writes, of the dialog with its settings. -/
theorem settingsToSave_of_gui {s : Plugin D} {g : MainGui D} (hg : s.gui? = some g) :
    s.settingsToSave = g.settings.placed s.window g.searchBoxSize := by
  obtain ⟨d, hd, rfl⟩ := Option.map_eq_some_iff.mp hg
  rw [settingsToSave, hd]

theorem settingsToSave_of_none {s : Plugin D} (hg : s.gui? = none) :
    s.settingsToSave = s.settings := by
  rw [settingsToSave, Option.map_eq_none_iff.mp hg]

/-- What the next session would make of the settings. -/
def upcoming (s : Plugin D) : Settings D :=
  if s.initialized then s.settingsToSave.effective else (loadSettings s.config).effective

variable {toStdString : WxString → StdString}

/-- What an event within a session leaves alone when it edits nothing. -/
structure Within (s : Plugin D) (e : PluginEvent D) (s' : Plugin D) : Prop where
  initialized : s'.initialized = s.initialized
  config : s'.config = s.config
  window : e ≠ .toolbar → s'.window = s.window
  /-- The first click of the toolbar button opens the window where it is restored. -/
  opened : e = .toolbar → s'.window = s.createGui.window
  settings : s'.gui? = none → s'.settings = s.settings

theorem within_onGui {e : PluginEvent D} (hother : e ≠ .toolbar) (f : MainGui D → MainGui D)
    (s : Plugin D) : Within s e (s.onGui f) where
  initialized := initialized_onGui f s
  config := config_onGui f s
  window := fun _ => window_onGui f s
  opened := fun he => absurd he hother
  settings := fun hnone => by rw [onGui_of_gui_none hnone]

theorem within_of_move {s s' : Plugin D} {e : PluginEvent D} (hmove : Move toStdString s e s')
    (he : edits e = false) (hinit : e ≠ .init) (hdeInit : e ≠ .deInit) : Within s e s' := by
  cases hmove with
  | init _ => exact absurd rfl hinit
  | deInit => exact absurd rfl hdeInit
  | toolbar _ =>
      have hkept := kept_onToolbarToolCallback s
      exact ⟨hkept.initialized, hkept.config, fun hne => absurd rfl hne,
        fun _ => window_onToolbarToolCallback s, fun _ => hkept.settings⟩
  | close =>
      have hkept := kept_onGuiClosed s
      exact ⟨hkept.initialized, hkept.config, fun _ => window_onGuiClosed s, by simp,
        fun _ => hkept.settings⟩
  | ui hg hu =>
      refine ⟨rfl, rfl, fun _ => rfl, by simp, fun hnone => ?_⟩
      rw [gui_withGui] at hnone
      cases hnone
  | notify hg hn => cases he
  | skipNotify hg =>
      refine ⟨rfl, rfl, fun _ => rfl, by simp, fun hnone => ?_⟩
      rw [gui_withGui] at hnone
      cases hnone
  | @positionFix lat lon =>
      have hfix := within_onGui (e := .positionFix lat lon) (by simp) (.updateBoatPosition lat lon)
        { s with boatLat := lat, boatLon := lon }
      exact ⟨hfix.initialized, hfix.config, hfix.window, by simp, hfix.settings⟩
  | cursor => exact ⟨rfl, rfl, fun _ => rfl, by simp, fun _ => rfl⟩
  | @contextMenu action =>
      cases action with
      | none => exact ⟨rfl, rfl, fun _ => rfl, by simp, fun _ => rfl⟩
      | updateToCursor | updateToBoat => exact within_onGui (by simp) _ s
  | preferencesApply => cases he
  | preferencesOk => cases he
  | place => cases he

/-- The settings the first click of the toolbar button makes a dialog of. -/
theorem effective_create [LawfulDouble D] {s s' : Plugin D} {g' : MainGui D}
    (hnone : s.gui? = none) (hwindow : s'.window = s.createGui.window) (hg' : s'.gui? = some g')
    (hsame : Unedited (MainGui.create s.settings) g') :
    s'.settingsToSave.effective = s.settingsToSave.effective := by
  have hrestored : s.createGui.window = s.restoredWindow := by
    rw [createGui, Option.map_eq_none_iff.mp hnone]
    rfl
  have hsize : (MainGui.create s.settings).searchBoxSize = s.settings.boxSize :=
    MainGui.restartAisStream_frame (P := fun g => g.searchBoxSize = s.settings.boxSize)
      fun _ _ => rfl
  rw [settingsToSave_of_gui hg', hsame.settings, hsame.size, create_settings, hsize, hwindow,
    hrestored, effective_restored, settingsToSave_of_none hnone]

/-- **Within a session**, what the settings come to changes only with an edit. -/
theorem effective_within [LawfulDouble D] {s s' : Plugin D} {e : PluginEvent D}
    (hmove : Move toStdString s e s') (he : edits e = false) (hinit : e ≠ .init)
    (hdeInit : e ≠ .deInit) : s'.settingsToSave.effective = s.settingsToSave.effective := by
  have h := within_of_move hmove he hinit hdeInit
  cases hg' : s'.gui? with
  | none =>
      have hnone : s.gui? = none := by
        rcases gui_none_step hmove hg' with hnone | ⟨hended, -⟩ | hended
        · exact hnone
        · exact absurd hended hinit
        · exact absurd hended hdeInit
      rw [settingsToSave_of_none hg', settingsToSave_of_none hnone, h.settings hg']
  | some g' =>
      obtain ⟨g, hg | ⟨hnone, htoolbar, rfl⟩, hm⟩ := guiMove_of_move hmove hg'
      · have hcreated : s.createGui.window = s.window := by
          obtain ⟨d, hd, -⟩ := Option.map_eq_some_iff.mp hg
          rw [createGui, hd]
          rfl
        have hwindow : s'.window = s.window := by
          by_cases htoolbar : e = .toolbar
          · exact (h.opened htoolbar).trans hcreated
          · exact h.window htoolbar
        have hsame := unedited_guiMove he hm
        rw [settingsToSave_of_gui hg', settingsToSave_of_gui hg, hwindow, hsame.settings, hsame.size]
      · exact effective_create hnone (h.opened htoolbar) hg' (unedited_guiMove he hm)

/-- **From one session to the next**, what was saved is made the same of again. -/
theorem upcoming_deInit {unique : Prop} {s : Plugin D} (hv : s.Vessels unique)
    (hinit : s.initialized = true) : s.deInit.upcoming = s.upcoming := by
  have hlist := VesselList.settingsToSave hv.list
  have hconfig : s.deInit.config = saveSettings s.settingsToSave := (kept_deleteGui s.save).config
  rw [upcoming, if_neg (by rw [deInit]; simp), hconfig, upcoming, if_pos hinit]
  exact effective_loadSettings_saveSettings hlist.names hlist.valid

/-- A session can end only where there is one. -/
theorem initialized_of_deInit {s s' : Plugin D}
    (hstep : (system toStdString).step s .deInit = some s') : s.initialized = true := by
  simp only [system] at hstep
  split at hstep
  · cases hstep
  · split at hstep
    · cases hstep
    · by_cases hinit : s.initialized = true
      · exact hinit
      · rw [handle, if_neg hinit] at hstep
        cases hstep

/-- **A step that edits nothing** leaves to the next session what it was to have. -/
theorem upcoming_step [LawfulDouble D] {unique : Prop} {s s' : Plugin D} {e : PluginEvent D}
    (hv : s.Vessels unique) (he : edits e = false)
    (hstep : (system toStdString).step s e = some s') : s'.upcoming = s.upcoming := by
  have hmove := move_of_step hstep
  by_cases hinit : e = .init
  · subst hinit
    cases hmove with
    | init hclosed =>
        have hopen : s.init.initialized = true := rfl
        have hloaded : s.init.settingsToSave = loadSettings s.config := rfl
        rw [upcoming, if_pos hopen, hloaded, upcoming, if_neg (by rw [hclosed]; simp)]
  · by_cases hdeInit : e = .deInit
    · subst hdeInit
      cases hmove with
      | deInit => exact upcoming_deInit hv (initialized_of_deInit hstep)
    · have hwithin := within_of_move hmove he hinit hdeInit
      rw [upcoming, upcoming, hwithin.initialized, hwithin.config,
        effective_within hmove he hinit hdeInit]

/--
**Nothing is lost from one session to the next.**  From every state reached from any
configuration, over every run in which no setting is edited, no preference confirmed and no
window moved, the settings the next session starts with come to the same.  The run may start
and stop streams, follow the boat, show and close the window, and end and begin sessions, any
number of times.
-/
theorem settings_survive [LawfulDouble D] {config : Config D} {s s' : Plugin D}
    (hreach : (system toStdString).Reach { config } s) {events : List (PluginEvent D)}
    (hedits : ∀ e ∈ events, edits e = false)
    (hrun : (system toStdString).run s events = some s') : s'.upcoming = s.upcoming := by
  induction events generalizing s with
  | nil =>
      rw [System.run_nil, Option.some.injEq] at hrun
      rw [hrun]
  | cons e events ih =>
      rw [System.run_cons] at hrun
      obtain ⟨next, hstep, hrest⟩ := Option.bind_eq_some_iff.mp hrun
      have hnext : next.upcoming = s.upcoming :=
        upcoming_step (vessels_of_reach hreach) (hedits e List.mem_cons_self) hstep
      rw [← hnext]
      exact ih (hreach.tail hstep) (fun e' he' => hedits e' (List.mem_cons_of_mem e he')) hrest

/-- A vessel with a comma in its name; then a session closed, another with a stream, and a third. -/
theorem settings_survive_thirdSession :
    ∃ s s' : Plugin ℝ, (system fun _ => []).run {}
        [.init, .toolbar, .ui (.addMmsi 227000000 (wx "Tug, red")), .close] = some s ∧
      (system fun _ => []).run s [.deInit, .init, .toolbar, .ui .startStream,
        .contextMenu .updateToBoat, .toolbar, .deInit, .init] = some s' ∧
      s'.settings.mmsiListNames = [wx "Tug"] ∧ s'.upcoming = s.upcoming := by
  have hfirst : ((system fun _ => []).run ({} : Plugin ℝ)
      [.init, .toolbar, .ui (.addMmsi 227000000 (wx "Tug, red")), .close]).isSome = true := by
    decide +kernel
  obtain ⟨s, hs⟩ := Option.isSome_iff_exists.mp hfirst
  have hrest : (((system fun _ => []).run ({} : Plugin ℝ)
      [.init, .toolbar, .ui (.addMmsi 227000000 (wx "Tug, red")), .close]).bind fun s =>
        (system fun _ => []).run s [.deInit, .init, .toolbar, .ui .startStream,
          .contextMenu .updateToBoat, .toolbar, .deInit, .init]).map
        (fun s => s.settings.mmsiListNames) = some [wx "Tug"] := by
    decide +kernel
  rw [hs, Option.bind_some] at hrest
  obtain ⟨s', hs', hnames⟩ := Option.map_eq_some_iff.mp hrest
  refine ⟨s, s', hs, hs', hnames, settings_survive (System.reach_of_run hs) ?_ hs'⟩
  intro e he
  simp only [List.mem_cons, List.not_mem_nil, or_false] at he
  rcases he with rfl | rfl | rfl | rfl | rfl | rfl | rfl | rfl <;> rfl

end Plugin

end AisLive
