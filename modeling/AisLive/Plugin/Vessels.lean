/-
The vessel list.

The list lives in two vectors and in the rows of a table, and six operations in two
files keep the three in step by pushing, erasing and writing at the same index.
`Vessels` is the invariant they share; it holds from the first `LoadSettings` on, through
any handlers, `SaveSettings` and later sessions, and so no index is ever out of range.

The MMSIs stay distinct if those of the first configuration are.  Adding and editing
check it, and what is saved reads back as it was, which is `loadSettings_mmsiList`.
-/
import AisLive.Plugin.Plugin

namespace AisLive

open Transition

/-- The MMSIs accepted from the text of a configuration. -/
def acceptedMmsis (text : WxString) : List Nat := (wxStringTokenize text).filterMap acceptedMmsi

theorem map_fst_readVessels (mmsiText namesText : WxString) :
    (readVessels mmsiText namesText).map Prod.fst = acceptedMmsis mmsiText := by
  rw [readVessels, List.map_filterMap, acceptedMmsis]
  conv_rhs => rw [← List.zipIdx_map_fst 0 (wxStringTokenize mmsiText), List.filterMap_map]
  refine List.filterMap_congr fun p _ => ?_
  rw [Option.map_map]
  exact congrFun Option.map_id _

/-- An accepted MMSI is valid. -/
theorem valid_of_mem_acceptedMmsis {text : WxString} {mmsi : Nat}
    (h : mmsi ∈ acceptedMmsis text) : validMmsi mmsi = true := by
  obtain ⟨token, -, htoken⟩ := List.mem_filterMap.mp h
  exact validMmsi_of_accepted htoken

/-- The list holds accepted MMSIs with a name each; where `unique` is known, no MMSI occurs
twice. -/
structure VesselList (unique : Prop) (mmsiList : List Nat) (names : List WxString) : Prop where
  names : mmsiList.length = names.length
  valid : ∀ m ∈ mmsiList, validMmsi m = true
  distinct : unique → mmsiList.Nodup

namespace VesselList

variable {unique : Prop} {mmsiList : List Nat} {names : List WxString}

theorem nil : VesselList unique [] [] := ⟨rfl, by simp, fun _ => List.nodup_nil⟩

theorem append (h : VesselList unique mmsiList names) {mmsi : Nat}
    (hvalid : validMmsi mmsi = true) (hnew : mmsi ∉ mmsiList) (name : WxString) :
    VesselList unique (mmsiList ++ [mmsi]) (names ++ [name]) := by
  refine ⟨by simp [h.names], fun m hm => ?_, fun hu => ?_⟩
  · rcases List.mem_append.mp hm with hm | hm
    · exact h.valid m hm
    · rwa [List.mem_singleton.mp hm]
  · refine List.nodup_append.mpr ⟨h.distinct hu, List.nodup_singleton _, fun a ha b hb => ?_⟩
    rw [List.mem_singleton.mp hb]
    rintro rfl
    exact hnew ha

theorem eraseIdx (h : VesselList unique mmsiList names) (row : Nat) :
    VesselList unique (mmsiList.eraseIdx row) (names.eraseIdx row) := by
  refine ⟨by simp [List.length_eraseIdx, h.names],
    fun m hm => h.valid m (List.mem_of_mem_eraseIdx hm), fun hu => (h.distinct hu).eraseIdx row⟩

/-- An edit to an MMSI no other row has. -/
theorem set (h : VesselList unique mmsiList names) {row mmsi : Nat}
    (hvalid : validMmsi mmsi = true)
    (hother : ∀ i, i ≠ row → mmsiList[i]? ≠ some mmsi) :
    VesselList unique (mmsiList.set row mmsi) names := by
  refine ⟨by simp [h.names], fun m hm => ?_, fun hu => ?_⟩
  · rcases List.mem_or_eq_of_mem_set hm with hm | rfl
    · exact h.valid m hm
    · exact hvalid
  · by_cases hsame : mmsiList[row]? = some mmsi
    · obtain ⟨_, rfl⟩ := List.getElem?_eq_some_iff.mp hsame
      rw [List.set_getElem_self]
      exact h.distinct hu
    · refine (h.distinct hu).set fun hmem => ?_
      obtain ⟨i, hi⟩ := List.mem_iff_getElem?.mp hmem
      by_cases hir : i = row
      · exact hsame (hir ▸ hi)
      · exact hother i hir hi

theorem rename (h : VesselList unique mmsiList names) (row : Nat) (name : WxString) :
    VesselList unique mmsiList (names.set row name) :=
  ⟨by simp [h.names], h.valid, h.distinct⟩

/-- **What is loaded is a vessel list.** -/
theorem load {mmsiText : WxString} (h : unique → (acceptedMmsis mmsiText).Nodup)
    (namesText : WxString) :
    VesselList unique ((readVessels mmsiText namesText).map Prod.fst)
      ((readVessels mmsiText namesText).map Prod.snd) := by
  refine ⟨by simp, ?_, ?_⟩
  · rw [map_fst_readVessels]
    exact fun m hm => valid_of_mem_acceptedMmsis hm
  · rwa [map_fst_readVessels]

/-- What is saved reads back as the same MMSIs. -/
theorem acceptedMmsis_mmsiString (h : VesselList unique mmsiList names) :
    acceptedMmsis (mmsiString mmsiList) = mmsiList := by
  rw [acceptedMmsis, wxStringTokenize_mmsiString, List.filterMap_map]
  conv_rhs => rw [← List.map_id mmsiList, ← List.filterMap_eq_map]
  exact List.filterMap_congr fun m hm => acceptedMmsi_decimal (h.valid m hm)

end VesselList

/-! ### The dialog -/

namespace MainGui

variable {D : Type} [Double D] {unique : Prop} {g : MainGui D}

/-- The vectors and the table are in step. -/
structure Vessels (unique : Prop) (g : MainGui D) : Prop where
  list : VesselList unique g.settings.mmsiList g.settings.mmsiListNames
  rows : g.rows.length = g.settings.mmsiList.length
  sound : g.fault = false

theorem Vessels.restart (h : g.Vessels unique) : g.restartAisStream.Vessels unique :=
  restartAisStream_frame fun _ _ => ⟨h.list, h.rows, h.sound⟩

theorem Vessels.stop (h : g.Vessels unique) : g.stopAisStream.Vessels unique :=
  stopAisStream_frame fun _ _ => ⟨h.list, h.rows, h.sound⟩

theorem Vessels.updateSearchPosition (h : g.Vessels unique) (lat lon : D) :
    (g.updateSearchPosition lat lon).Vessels unique :=
  restart ⟨h.list, h.rows, h.sound⟩

theorem Vessels.updateSearchBoxSize (h : g.Vessels unique) (degrees : D) :
    (g.updateSearchBoxSize degrees).Vessels unique :=
  restart ⟨h.list, h.rows, h.sound⟩

theorem Vessels.updateBoatPosition (h : g.Vessels unique) (lat lon : D) :
    (g.updateBoatPosition lat lon).Vessels unique :=
  updateBoatPosition_frame (fun _ => ⟨h.list, h.rows, h.sound⟩)
    fun _ _ _ h => h.updateSearchPosition _ _

theorem Vessels.refreshTokenState (h : g.Vessels unique) (toStdString : WxString → StdString) :
    (g.refreshTokenState toStdString).Vessels unique :=
  restart ⟨h.list, h.rows, h.sound⟩

/-! ### The operations on the table -/

theorem Vessels.addMmsi (h : g.Vessels unique) {mmsi : Nat} (hvalid : validMmsi mmsi = true)
    (comment : WxString) : (g.onAddMmsi mmsi comment).Vessels unique := by
  unfold onAddMmsi
  split
  · exact h
  · rename_i hnew
    refine restart ⟨h.list.append hvalid (by simpa using hnew) comment, ?_, h.sound⟩
    simp [h.rows]

theorem Vessels.deleteMmsi (h : g.Vessels unique) (row : Nat) :
    (g.onDeleteMmsi row).Vessels unique := by
  unfold onDeleteMmsi
  split
  · exact h
  · rename_i hrow
    rw [if_neg]
    · refine restart ⟨h.list.eraseIdx row, ?_, h.sound⟩
      simp [List.length_eraseIdx, h.rows]
    · have hrows := h.rows
      have hnames := h.list.names
      omega

theorem Vessels.clearMmsi (h : g.Vessels unique) : g.onClearMmsi.Vessels unique :=
  restart ⟨VesselList.nil, rfl, h.sound⟩

theorem Vessels.setCell (h : g.Vessels unique) (row column : Nat) (text : WxString) :
    (g.setCell row column text).Vessels unique :=
  ⟨h.list, by simp [MainGui.setCell, h.rows], h.sound⟩

theorem Vessels.restoreMmsi (h : g.Vessels unique) {row : Nat} (hrow : row < g.rows.length) :
    (g.restoreMmsi row).Vessels unique := by
  unfold MainGui.restoreMmsi
  split
  · rename_i hnone
    have hlen := List.getElem?_eq_none_iff.mp hnone
    have hrows := h.rows
    omega
  · rename_i mmsi _
    have hcell := h.setCell row 0 (decimal09 mmsi)
    exact ⟨hcell.list, hcell.rows, hcell.sound⟩

/-- What the test for duplicates says when it passes. -/
theorem not_repeatsMmsi {row mmsi : Nat} (h : g.repeatsMmsi row mmsi = false) :
    ∀ i, i ≠ row → g.settings.mmsiList[i]? ≠ some mmsi := by
  intro i hi hget
  have hmem : (mmsi, i) ∈ g.settings.mmsiList.zipIdx := List.mk_mem_zipIdx_iff_getElem?.mpr hget
  have hno := List.any_eq_false.mp h (mmsi, i) hmem
  simp [hi] at hno

theorem Vessels.mmsiChanged (h : g.Vessels unique) {row : Nat} (hrow : row < g.rows.length) :
    (g.onMmsiChanged row).Vessels unique := by
  unfold onMmsiChanged
  split
  · exact h.restoreMmsi hrow
  · rename_i mmsi hacc
    split
    · exact h.restoreMmsi hrow
    · rename_i hrep
      rw [if_neg (by have hrows := h.rows; omega)]
      refine restart ⟨h.list.set (validMmsi_of_accepted hacc) ?_, ?_, h.sound⟩
      · exact not_repeatsMmsi (Bool.eq_false_iff.mpr hrep)
      · simp [h.rows]

theorem Vessels.nameChanged (h : g.Vessels unique) {row : Nat} (hrow : row < g.rows.length) :
    (g.onNameChanged row).Vessels unique := by
  have hrows := h.rows
  have hnames := h.list.names
  have hrow' : ¬g.settings.mmsiListNames.length ≤ row := by omega
  unfold onNameChanged
  simp only [if_neg hrow']
  exact ⟨h.list.rename row _, h.rows, h.sound⟩

theorem Vessels.valueChanged (h : g.Vessels unique) (row column : Nat) :
    (g.onValueChanged row column).Vessels unique := by
  unfold onValueChanged
  split
  · exact h
  · rename_i hrow
    split
    · exact h.mmsiChanged (by omega)
    · split
      · exact h.nameChanged (by omega)
      · exact h

theorem vessels_create {settings : Settings D}
    (h : VesselList unique settings.mmsiList settings.mmsiListNames) :
    (create settings).Vessels unique := by
  have hsize : (MainGui.updateSearchBoxSize settings.lastSearchBoxSize
      ({ settings } : MainGui D)).settings = settings ∧
      (MainGui.updateSearchBoxSize settings.lastSearchBoxSize
        ({ settings } : MainGui D)).fault = false :=
    restartAisStream_frame (P := fun g => g.settings = settings ∧ g.fault = false)
      fun _ _ => ⟨rfl, rfl⟩
  refine ⟨?_, ?_, hsize.2⟩
  · show VesselList unique (MainGui.updateSearchBoxSize _ _).settings.mmsiList
      (MainGui.updateSearchBoxSize _ _).settings.mmsiListNames
    rw [hsize.1]
    exact h
  · show (settings.mmsiList.zipIdx.map _).length
      = (MainGui.updateSearchBoxSize _ _).settings.mmsiList.length
    rw [hsize.1]
    simp

theorem Vessels.startAisStream (h : g.Vessels unique) (toStdString : WxString → StdString) :
    (g.startAisStream toStdString).Vessels unique :=
  startAisStream_frame fun _ _ => ⟨h.list, h.rows, h.sound⟩

end MainGui

/-! ### The plugin -/

namespace Plugin

open MainGui

variable {D : Type} [Double D] {unique : Prop} {toStdString : WxString → StdString}

/-- No event of the widgets loses the table. -/
theorem vessels_uiStep {g g' : MainGui D} {e : UiEvent} (h : g.Vessels unique)
    (hstep : uiStep toStdString e g = some g') : g'.Vessels unique := by
  cases uiMove_of_uiStep hstep with
  | startStream => exact h.startAisStream toStdString
  | stopStream => exact h.stop
  | scroll kind value _ => exact ⟨h.list, h.rows, h.sound⟩
  | thumbRelease value _ _ => exact Vessels.restart ⟨h.list, h.rows, h.sound⟩
  | followBoat checked =>
      unfold onFollowBoatMode
      split
      · exact Vessels.restart ⟨h.list, h.rows, h.sound⟩
      · exact ⟨h.list, h.rows, h.sound⟩
  | addMmsi mmsi comment hvalid => exact h.addMmsi hvalid comment
  | deleteMmsi row => exact h.deleteMmsi row
  | clearMmsi => exact h.clearMmsi
  | editCell row column text _ _ => exact (h.setCell row column text).valueChanged row column
  | vesselFollowing checked => exact Vessels.restart ⟨h.list, h.rows, h.sound⟩

theorem vessels_hidden {g : MainGui D} (h : g.Vessels unique) : (hidden g).Vessels unique :=
  hidden_frame fun _ _ => ⟨h.list, h.rows, h.sound⟩

/-- No move of the dialog loses the table. -/
theorem vessels_guiMove {g g' : MainGui D} {e : PluginEvent D} (h : g.Vessels unique)
    (hmove : GuiMove toStdString g e g') : g'.Vessels unique := by
  cases hmove with
  | «show» => exact ⟨h.list, h.rows, h.sound⟩
  | hide => exact vessels_hidden h
  | close => exact vessels_hidden h
  | ui hu => exact vessels_uiStep h hu
  | notify hn =>
      have hclear : g.clearNotice.Vessels unique := ⟨h.list, h.rows, h.sound⟩
      exact hclear.valueChanged _ _
  | skipNotify => exact ⟨h.list, h.rows, h.sound⟩
  | positionFix => exact h.updateBoatPosition _ _
  | cursor | place | noAction => exact h
  | updateToCursor | updateToBoat => exact Vessels.restart ⟨h.list, h.rows, h.sound⟩
  | preferencesApply => exact ⟨h.list, h.rows, h.sound⟩
  | preferencesOk => exact Vessels.restart ⟨h.list, h.rows, h.sound⟩

/-- The vectors, the table when there is one, and the saved list. -/
structure Vessels (unique : Prop) (s : Plugin D) : Prop where
  list : VesselList unique s.settings.mmsiList s.settings.mmsiListNames
  gui : ∀ g, s.gui? = some g → g.Vessels unique
  config : unique → (acceptedMmsis (s.config.mmsiList.getD [])).Nodup

/-- Saving changes nothing of the list. -/
theorem VesselList.settingsToSave {s : Plugin D}
    (h : VesselList unique s.settings.mmsiList s.settings.mmsiListNames) :
    VesselList unique s.settingsToSave.mmsiList s.settingsToSave.mmsiListNames := by
  unfold Plugin.settingsToSave
  split <;> exact h

/-- Without a dialog only the beginning of a session changes the list. -/
theorem list_of_gui_none {s s' : Plugin D} {e : PluginEvent D} (h : s.Vessels unique)
    (hmove : Move toStdString s e s') (hnone : s'.gui? = none) :
    VesselList unique s'.settings.mmsiList s'.settings.mmsiListNames := by
  cases hmove with
  | init _ => exact VesselList.load h.config _
  | deInit =>
      rw [show s.deInit.settings = s.save.deleteGui.settings from rfl,
        (kept_deleteGui s.save).settings]
      exact VesselList.settingsToSave h.list
  | toolbar _ =>
      rw [(kept_onToolbarToolCallback s).settings]
      exact h.list
  | close =>
      rw [(kept_onGuiClosed s).settings]
      exact h.list
  | ui hg hu => cases hnone
  | notify hg hn => cases hnone
  | skipNotify hg => cases hnone
  | positionFix =>
      rw [onGui_of_gui_none hnone]
      exact h.list
  | cursor => exact h.list
  | @contextMenu action =>
      cases action with
      | none => exact h.list
      | updateToCursor | updateToBoat =>
          simp only [onContextMenuItemCallback] at hnone ⊢
          rw [onGui_of_gui_none hnone]
          exact h.list
  | preferencesApply => exact h.list
  | preferencesOk =>
      rw [onGui_of_gui_none hnone]
      exact VesselList.settingsToSave h.list
  | place => exact h.list

/-- The saved MMSIs change only to those of the list. -/
theorem config_step {s s' : Plugin D} {e : PluginEvent D} (hmove : Move toStdString s e s') :
    s'.config = s.config ∨ s'.config.mmsiList = some (mmsiString s.settings.mmsiList) := by
  have hsave : ∀ s : Plugin D,
      s.save.config.mmsiList = some (mmsiString s.settings.mmsiList) := by
    intro s
    show some (mmsiString s.settingsToSave.mmsiList) = _
    unfold settingsToSave
    split <;> rfl
  cases hmove with
  | init _ => exact .inl rfl
  | deInit =>
      rw [show s.deInit.config = s.save.deleteGui.config from rfl, (kept_deleteGui s.save).config]
      exact .inr (hsave s)
  | toolbar _ => exact .inl (kept_onToolbarToolCallback s).config
  | close => exact .inl (kept_onGuiClosed s).config
  | ui hg hu => exact .inl rfl
  | notify hg hn => exact .inl rfl
  | skipNotify hg => exact .inl rfl
  | positionFix => exact .inl (config_onGui _ _)
  | cursor => exact .inl rfl
  | @contextMenu action =>
      cases action with
      | none => exact .inl rfl
      | updateToCursor | updateToBoat => exact .inl (config_onGui _ _)
  | @preferencesApply p => exact .inl rfl
  | @preferencesOk p =>
      rw [config_onGui]
      exact .inr (hsave (s.updateSettings p))
  | place => exact .inl rfl

/-- **Every step keeps the vessel list in step with its table.** -/
theorem vessels_step {s s' : Plugin D} {e : PluginEvent D} (h : s.Vessels unique)
    (hstep : (system toStdString).step s e = some s') : s'.Vessels unique := by
  have hmove := move_of_step hstep
  have hgui : ∀ g', s'.gui? = some g' → g'.Vessels unique := by
    intro g' hg'
    obtain ⟨g, hg, hm⟩ := guiMove_of_move hmove hg'
    refine vessels_guiMove ?_ hm
    rcases hg with hg | ⟨-, -, rfl⟩
    · exact h.gui g hg
    · exact vessels_create h.list
  refine ⟨?_, hgui, fun hu => ?_⟩
  · cases hg' : s'.gui? with
    | none => exact list_of_gui_none h hmove hg'
    | some g' =>
        rw [← settings_of_gui hg']
        exact (hgui g' hg').list
  · rcases config_step hmove with hc | hc
    · rw [hc]
      exact h.config hu
    · rw [hc, Option.getD_some, h.list.acceptedMmsis_mmsiString]
      exact h.list.distinct hu

theorem vessels_start (config : Config D) :
    ({ config } : Plugin D).Vessels (acceptedMmsis (config.mmsiList.getD [])).Nodup :=
  ⟨VesselList.nil, (fun _ hg => nomatch hg), id⟩

theorem vessels_of_reach {config : Config D} {s : Plugin D}
    (hreach : (system toStdString).Reach { config } s) :
    s.Vessels (acceptedMmsis (config.mmsiList.getD [])).Nodup :=
  hreach.invariant (vessels_start config) fun _ _ _ h hstep => vessels_step h hstep

/--
**The vessel list is always in step.**  Whatever the configuration holds, and over any
number of sessions, the two vectors are of the length of the table, every MMSI is valid, no
vector has been indexed or erased out of range, and MMSIs that were distinct when first
loaded stay so.
-/
theorem vessels_in_step {config : Config D} {s : Plugin D}
    (hreach : (system toStdString).Reach { config } s) :
    s.settings.mmsiList.length = s.settings.mmsiListNames.length ∧
      (∀ mmsi ∈ s.settings.mmsiList, minMmsi ≤ mmsi ∧ mmsi ≤ maxMmsi) ∧
      (∀ dialog, s.dialog = some dialog →
        dialog.rows.length = s.settings.mmsiList.length ∧ dialog.fault = false) ∧
      ((acceptedMmsis (config.mmsiList.getD [])).Nodup → s.settings.mmsiList.Nodup) := by
  have h := vessels_of_reach hreach
  refine ⟨h.list.names, fun m hm => validMmsi_iff.mp (h.list.valid m hm), fun d hd => ?_,
    h.list.distinct⟩
  have hgui := h.gui { d with settings := s.settings } (gui_of_dialog hd rfl)
  exact ⟨hgui.rows, hgui.sound⟩

/-- Two vessels added, one of them edited and named, and read back by the next session. -/
theorem vessels_in_step_twoSessions :
    ∃ s : Plugin ℝ, s.settings.mmsiList = [227000000, 227000009] ∧
      s.settings.mmsiList.length = s.settings.mmsiListNames.length ∧
      (∀ mmsi ∈ s.settings.mmsiList, minMmsi ≤ mmsi ∧ mmsi ≤ maxMmsi) ∧
      (∀ dialog, s.dialog = some dialog →
        dialog.rows.length = s.settings.mmsiList.length ∧ dialog.fault = false) ∧
      ((acceptedMmsis []).Nodup → s.settings.mmsiList.Nodup) := by
  have h : ((system fun _ => []).run ({} : Plugin ℝ)
      [.init, .toolbar, .ui (.addMmsi 227000000 (wx "Tug")), .ui (.addMmsi 227000001 []),
        .ui (.editCell 1 0 (wx "227000009")), .ui (.editCell 1 1 (wx "Ferry")), .deInit, .init,
        .toolbar]).map
      (fun s => s.settings.mmsiList) = some [227000000, 227000009] := by
    decide +kernel
  obtain ⟨s, hrun, hlist⟩ := Option.map_eq_some_iff.mp h
  exact ⟨s, hlist, vessels_in_step (System.reach_of_run hrun)⟩

end Plugin

end AisLive
