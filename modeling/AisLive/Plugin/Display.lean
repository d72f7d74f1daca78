/-
What the dialog shows is what it uses.

Every displayed item is written by other handlers than the value it stands for.  `Shown`
says that they agree: the slider and the label with the box size, the rows of the table
with the two vectors, and the two check boxes with the modes.

Two kinds of event break it.  The slider moves without its thumb being dragged, by the
keyboard or a click beside the thumb, and only the label follows; and an MMSI is edited to
a text that `ToULong` reads but `%09u` would not have written, and stays as typed.
`shown_iff_showsUsed` says that nothing else does.
-/
import AisLive.Plugin.Vessels

namespace AisLive

open Double Transition

/-- The text of the size label for a whole number of degrees. -/
def degreesText (n : Nat) : WxString :=
  decimal n ++ ['°'] ++ wx " x " ++ (decimal n ++ ['°'])

variable {D : Type} [Double D]

theorem sizeLabel_ofInt [LawfulDouble D] {n : Nat} (hn : n < 2 ^ 31) :
    sizeLabel (ofInt n : D) = degreesText n := by
  rw [sizeLabel, LawfulDouble.format_ofInt n hn]
  rfl

namespace MainGui

variable {unique : Prop} {g g' : MainGui D}

/-- The slider and the label show the box size, where it is whole and no thumb is dragged. -/
def SizeShown (g : MainGui D) : Prop :=
  g.dragging = false → ∀ n : Nat, n < 2 ^ 31 → g.searchBoxSize = ofInt n →
    g.slider.value = n ∧ g.searchBoxSizeLabel = degreesText n

/-- The rows show the vectors, each MMSI in nine digits. -/
def RowsShown (g : MainGui D) : Prop :=
  g.rows = List.zipWith vesselRow g.settings.mmsiList g.settings.mmsiListNames

/-- The check boxes show the modes. -/
def ChecksShown (g : MainGui D) : Prop :=
  g.followBoatCheckBox = g.followBoatMode ∧
    g.vesselFollowingCheckBox = g.settings.activateVesselsFollowing

/-- The dialog shows what it uses. -/
structure Shown (g : MainGui D) : Prop where
  size : g.SizeShown
  rows : g.RowsShown
  checks : g.ChecksShown

/-- The size of the box is a whole number of degrees. -/
def wholeSize (g : MainGui D) : Prop := ∃ n : Nat, n < 2 ^ 31 ∧ g.searchBoxSize = ofInt n

/-- The event leaves on show what is used: it does not move the slider except by its thumb,
where the size is whole, and does not enter an MMSI in another way than it is shown. -/
def showsUsed (e : PluginEvent D) (g : MainGui D) : Prop :=
  match e with
  | .ui (.scroll kind value) =>
      g.dragging = false → kind ≠ .thumbTrack → g.wholeSize → value = g.slider.value
  | .ui (.editCell row column text) =>
      column = 0 → ∀ mmsi, acceptedMmsi text = some mmsi → g.repeatsMmsi row mmsi = false →
        text = decimal09 mmsi
  | _ => True

/-! ### The box size -/

section

variable [LawfulDouble D]

/-- A whole size fills the slider and the label with its number. -/
theorem shown_of_whole {size : D} {n : Nat} (hn : n < 2 ^ 31) (hsize : size = ofInt n) :
    toInt size = n ∧ sizeLabel size = degreesText n := by
  rw [hsize, LawfulDouble.toInt_ofInt n (by simpa using hn)]
  exact ⟨rfl, sizeLabel_ofInt hn⟩

theorem sizeShown_updateSearchBoxSize (degrees : D) : (g.updateSearchBoxSize degrees).SizeShown :=
  restartAisStream_frame fun _ _ _ _ hn hsize => shown_of_whole hn hsize

/-- The slider moves to `value`, and only the label follows. -/
theorem sizeShown_scroll_iff (h : g.SizeShown) (kind : ScrollKind) (value : Int) :
    SizeShown (onScroll { g with
      slider := { g.slider with value }
      dragging := g.dragging || kind == ScrollKind.thumbTrack }) ↔
    (g.dragging = false → kind ≠ .thumbTrack → g.wholeSize → value = g.slider.value) := by
  have hdrag : (g.dragging || kind == ScrollKind.thumbTrack) = false ↔
      g.dragging = false ∧ kind ≠ .thumbTrack := by
    rw [Bool.or_eq_false_iff, beq_eq_false_iff_ne]
  constructor
  · rintro hs hno hkind ⟨n, hn, hsize⟩
    rw [(h hno n hn hsize).1]
    exact (hs (hdrag.mpr ⟨hno, hkind⟩) n hn hsize).1
  · intro hs hno n hn hsize
    obtain ⟨hno, hkind⟩ := hdrag.mp hno
    have hvalue : value = n :=
      (hs hno hkind ⟨n, hn, hsize⟩).trans (h hno n hn hsize).1
    refine ⟨hvalue, ?_⟩
    show sizeLabel (ofInt value : D) = _
    rw [hvalue, sizeLabel_ofInt hn]

end

/-! ### The table -/

theorem zipWith_eraseIdx (mmsiList : List Nat) (names : List WxString) (row : Nat) :
    List.zipWith vesselRow (mmsiList.eraseIdx row) (names.eraseIdx row)
      = (List.zipWith vesselRow mmsiList names).eraseIdx row := by
  refine List.ext_getElem? fun i => ?_
  simp only [List.getElem?_zipWith, List.getElem?_eraseIdx]
  by_cases hi : i < row <;> simp only [hi, if_true, if_false]

theorem zipWith_set_mmsi (mmsiList : List Nat) (names : List WxString) (row mmsi : Nat) :
    List.zipWith vesselRow (mmsiList.set row mmsi) names
      = (List.zipWith vesselRow mmsiList names).modify row
          fun r => { r with mmsi := decimal09 mmsi } := by
  refine List.ext_getElem? fun i => ?_
  simp only [List.getElem?_zipWith, List.getElem?_modify]
  by_cases hi : row = i
  · subst hi
    simp only [List.getElem?_set_self', if_true]
    cases mmsiList[row]? <;> cases names[row]? <;> rfl
  · simp only [List.getElem?_set_ne hi, hi, if_false, id_map']

theorem zipWith_set_name (mmsiList : List Nat) (names : List WxString) (row : Nat)
    (name : WxString) :
    List.zipWith vesselRow mmsiList (names.set row name)
      = (List.zipWith vesselRow mmsiList names).modify row fun r => { r with name } := by
  refine List.ext_getElem? fun i => ?_
  simp only [List.getElem?_zipWith, List.getElem?_modify]
  by_cases hi : row = i
  · subst hi
    simp only [List.getElem?_set_self', if_true]
    cases mmsiList[row]? <;> cases names[row]? <;> rfl
  · simp only [List.getElem?_set_ne hi, hi, if_false, id_map']

/-- Writing an MMSI cell twice leaves what was written last. -/
theorem modify_mmsi_eq_iff {rows : List Row} {row : Nat} (h : row < rows.length)
    {text text' : WxString} :
    (rows.modify row fun r => { r with mmsi := text })
      = (rows.modify row fun r => { r with mmsi := text' }) ↔ text = text' := by
  constructor
  · intro heq
    have hrow := congrArg (fun rows => rows[row]?.map Row.mmsi) heq
    simpa [h] using hrow
  · rintro rfl
    rfl

theorem shown_restart : g.restartAisStream.Shown ↔ g.Shown :=
  restartAisStream_frame (P := fun g' => g'.Shown ↔ g.Shown) fun _ _ =>
    ⟨fun h => ⟨h.size, h.rows, h.checks⟩, fun h => ⟨h.size, h.rows, h.checks⟩⟩

theorem Shown.addMmsi (h : g.Shown) (hv : g.Vessels unique) (mmsi : Nat) (comment : WxString) :
    (g.onAddMmsi mmsi comment).Shown := by
  unfold onAddMmsi
  split
  · exact h
  · refine shown_restart.mpr ⟨h.size, ?_, h.checks⟩
    show g.rows ++ [vesselRow mmsi comment] = List.zipWith vesselRow (_ ++ [mmsi]) (_ ++ [comment])
    rw [List.zipWith_append hv.list.names, ← show g.rows = _ from h.rows]
    rfl

theorem Shown.deleteMmsi (h : g.Shown) (row : Nat) : (g.onDeleteMmsi row).Shown := by
  unfold onDeleteMmsi
  split
  · exact h
  · split
    · exact ⟨h.size, h.rows, h.checks⟩
    · refine shown_restart.mpr ⟨h.size, ?_, h.checks⟩
      show g.rows.eraseIdx row = List.zipWith vesselRow (_ : List Nat) _
      rw [zipWith_eraseIdx, ← show g.rows = _ from h.rows]

theorem Shown.clearMmsi (h : g.Shown) : g.onClearMmsi.Shown :=
  shown_restart.mpr ⟨h.size, rfl, h.checks⟩

/-! ### Edits of a cell -/

theorem cell_setCell {row : Nat} (hrow : row < g.rows.length) (column : Nat) (text : WxString) :
    (g.setCell row column text).cell row column = text := by
  have hget : (g.setCell row column text).rows[row]? = some (if column = 0 then
      { g.rows[row] with mmsi := text } else { g.rows[row] with name := text }) := by
    simp only [setCell, List.getElem?_modify, List.getElem?_eq_getElem hrow, if_true]
    rfl
  rw [cell, hget]
  by_cases hc : column = 0 <;> simp only [hc, if_true, if_false]

theorem setCell_cell (row column : Nat) : g.setCell row column (g.cell row column) = g := by
  have hrows : (g.rows.modify row fun r => if column = 0 then { r with mmsi := g.cell row column }
      else { r with name := g.cell row column }) = g.rows := by
    refine List.ext_getElem? fun i => ?_
    rw [List.getElem?_modify]
    by_cases hi : row = i
    · subst hi
      unfold cell
      cases g.rows[row]? with
      | none => rfl
      | some r => by_cases hc : column = 0 <;> simp [hc]
    · simp [hi]
  rw [setCell, hrows]

/-- A row the text of which has been put back. -/
theorem Shown.restoreMmsi (h : g.Shown) (hv : g.Vessels unique) {row : Nat}
    (hrow : row < g.rows.length) (text : WxString) :
    ((g.setCell row 0 text).restoreMmsi row).Shown := by
  have hlen : row < g.settings.mmsiList.length := hv.rows ▸ hrow
  have hget : (g.setCell row 0 text).settings.mmsiList[row]? = some g.settings.mmsiList[row] :=
    List.getElem?_eq_getElem hlen
  have hback := zipWith_set_mmsi g.settings.mmsiList g.settings.mmsiListNames row
    g.settings.mmsiList[row]
  rw [List.set_getElem_self, ← show g.rows = _ from h.rows] at hback
  have htwice : ((g.setCell row 0 text).setCell row 0 (decimal09 g.settings.mmsiList[row])).rows
      = g.rows.modify row fun r => { r with mmsi := decimal09 g.settings.mmsiList[row] } :=
    List.modify_modify_eq _ _ row g.rows
  rw [MainGui.restoreMmsi, hget]
  exact ⟨h.size, (htwice.trans hback.symm).trans h.rows, h.checks⟩

/-- **An edit is shown as what it stored exactly if an accepted MMSI was typed the way it is
shown.** -/
theorem shown_edit_iff (h : g.Shown) (hv : g.Vessels unique) {row column : Nat}
    (hrow : row < g.rows.length) (hcolumn : column < 2) (text : WxString) :
    ((g.setCell row column text).onValueChanged row column).Shown ↔
      (column = 0 → ∀ mmsi, acceptedMmsi text = some mmsi → g.repeatsMmsi row mmsi = false →
        text = decimal09 mmsi) := by
  have hrows := hv.rows
  have hnames := hv.list.names
  have hlen : ¬(g.setCell row column text).rows.length ≤ row := by
    simp only [setCell, List.length_modify]
    omega
  rw [onValueChanged, if_neg hlen]
  by_cases hc : column = 0
  · subst hc
    rw [if_pos rfl, onMmsiChanged, cell_setCell hrow]
    cases hacc : acceptedMmsi text with
    | none => exact ⟨fun _ _ _ hnone => (by cases hnone), fun _ => h.restoreMmsi hv hrow text⟩
    | some mmsi =>
        simp only
        by_cases hrep : g.repeatsMmsi row mmsi = true
        · rw [if_pos (show (g.setCell row 0 text).repeatsMmsi row mmsi = true from hrep)]
          refine ⟨fun _ _ mmsi' hmmsi hno => ?_, fun _ => h.restoreMmsi hv hrow text⟩
          cases hmmsi
          cases hrep.symm.trans hno
        · rw [if_neg (show ¬(g.setCell row 0 text).repeatsMmsi row mmsi = true from hrep),
            if_neg (show ¬(g.setCell row 0 text).settings.mmsiList.length ≤ row from
              Nat.not_le.mpr (hrows ▸ hrow)), shown_restart]
          -- the row shows the text, and the vector holds the number read from it
          have hshown : (g.rows.modify row fun r => { r with mmsi := text })
              = List.zipWith vesselRow (g.settings.mmsiList.set row mmsi) g.settings.mmsiListNames ↔
              text = decimal09 mmsi := by
            rw [zipWith_set_mmsi, ← show g.rows = _ from h.rows, modify_mmsi_eq_iff hrow]
          constructor
          · intro hs _ mmsi' hmmsi _
            cases hmmsi
            exact hshown.mp hs.rows
          · exact fun htext => ⟨h.size, hshown.mpr (htext trivial mmsi rfl (Bool.eq_false_iff.mpr hrep)),
              h.checks⟩
  · have hc1 : column = 1 := by omega
    subst hc1
    refine ⟨fun _ h0 => absurd h0 hc, fun _ => ?_⟩
    have hname : ¬g.settings.mmsiListNames.length ≤ row := by omega
    rw [if_neg (by decide), if_pos rfl, onNameChanged, cell_setCell hrow]
    simp only [show (g.setCell row 1 text).settings = g.settings from rfl, if_neg hname]
    refine ⟨h.size, ?_, h.checks⟩
    show (g.rows.modify row _) = List.zipWith vesselRow _ (g.settings.mmsiListNames.set row text)
    rw [zipWith_set_name, ← show g.rows = _ from h.rows]
    rfl

/-- The notification of a cell that is shown as it is stored. -/
theorem Shown.valueChanged (h : g.Shown) (hv : g.Vessels unique) (row column : Nat) :
    (g.onValueChanged row column).Shown := by
  by_cases hrow : row < g.rows.length
  · by_cases hcolumn : column < 2
    · rw [← setCell_cell (g := g) row column]
      refine (shown_edit_iff h hv hrow hcolumn _).mpr fun hc mmsi hacc _ => ?_
      subst hc
      have hlen : row < g.settings.mmsiList.length := hv.rows ▸ hrow
      have hnames : row < g.settings.mmsiListNames.length := hv.list.names ▸ hlen
      have hcell : g.cell row 0 = decimal09 g.settings.mmsiList[row] := by
        rw [cell, show g.rows = _ from h.rows, List.getElem?_zipWith,
          List.getElem?_eq_getElem hlen, List.getElem?_eq_getElem hnames]
        rfl
      rw [hcell, acceptedMmsi_decimal09 (hv.list.valid _ (List.getElem_mem hlen))] at hacc
      rw [hcell, Option.some.inj hacc]
    · rw [onValueChanged, if_neg (by omega), if_neg (by omega), if_neg (by omega)]
      exact h
  · rw [onValueChanged, if_pos (by omega)]
    exact h

/-! ### Every event of the dialog -/

theorem Shown.updateSearchPosition (h : g.Shown) (lat lon : D) :
    (g.updateSearchPosition lat lon).Shown :=
  shown_restart.mpr ⟨h.size, h.rows, h.checks⟩

theorem Shown.updateBoatPosition (h : g.Shown) (lat lon : D) :
    (g.updateBoatPosition lat lon).Shown :=
  updateBoatPosition_frame (fun _ => ⟨h.size, h.rows, h.checks⟩)
    fun _ _ _ h => h.updateSearchPosition _ _

theorem Shown.stopAisStream (h : g.Shown) : g.stopAisStream.Shown :=
  stopAisStream_frame fun _ _ => ⟨h.size, h.rows, h.checks⟩

theorem Shown.hidden (h : g.Shown) : (Plugin.hidden g).Shown :=
  Plugin.hidden_frame fun _ _ => ⟨h.size, h.rows, h.checks⟩

section

variable [LawfulDouble D] {toStdString : WxString → StdString}

theorem Shown.updateSearchBoxSize (hrows : g.RowsShown) (hchecks : g.ChecksShown) (degrees : D) :
    (g.updateSearchBoxSize degrees).Shown :=
  ⟨sizeShown_updateSearchBoxSize degrees, restartAisStream_frame fun _ _ => hrows,
    restartAisStream_frame fun _ _ => hchecks⟩

theorem shown_create {settings : Settings D}
    (h : VesselList unique settings.mmsiList settings.mmsiListNames) :
    (create settings).Shown := by
  have hrows : (create settings).rows = settings.mmsiList.zipIdx.map fun p =>
      vesselRow p.1 ((settings.mmsiListNames[p.2]?).getD []) := rfl
  refine ⟨sizeShown_updateSearchBoxSize (g := { settings }) settings.lastSearchBoxSize, ?_,
    rfl, rfl⟩
  rw [RowsShown, hrows, Plugin.create_settings]
  refine List.ext_getElem (by simp [h.names]) fun i hi hi' => ?_
  have hname : i < settings.mmsiListNames.length := by
    rw [← h.names]
    simpa using hi
  simp [hname]

theorem shown_uiStep_iff (h : g.Shown) (hv : g.Vessels unique) {e : UiEvent}
    (hu : Plugin.uiStep toStdString e g = some g') : g'.Shown ↔ g.showsUsed (.ui e) := by
  cases Plugin.uiMove_of_uiStep hu with
  | startStream =>
      exact ⟨fun _ => trivial, fun _ =>
        startAisStream_frame fun _ _ => ⟨h.size, h.rows, h.checks⟩⟩
  | stopStream => exact ⟨fun _ => trivial, fun _ => h.stopAisStream⟩
  | scroll kind value _ =>
      rw [showsUsed, ← sizeShown_scroll_iff h.size kind value]
      exact ⟨fun hs => hs.size, fun hs => ⟨hs, h.rows, h.checks⟩⟩
  | thumbRelease value _ _ =>
      refine ⟨fun _ => trivial, fun _ => ?_⟩
      exact Shown.updateSearchBoxSize (g := { g with
        slider := { g.slider with value }, dragging := false }) h.rows h.checks _
  | followBoat checked =>
      refine ⟨fun _ => trivial, fun _ => ?_⟩
      unfold onFollowBoatMode
      split
      · exact shown_restart.mpr ⟨h.size, h.rows, rfl, h.checks.2⟩
      · exact ⟨h.size, h.rows, rfl, h.checks.2⟩
  | addMmsi mmsi comment _ => exact ⟨fun _ => trivial, fun _ => h.addMmsi hv mmsi comment⟩
  | deleteMmsi row => exact ⟨fun _ => trivial, fun _ => h.deleteMmsi row⟩
  | clearMmsi => exact ⟨fun _ => trivial, fun _ => h.clearMmsi⟩
  | editCell row column text hrow hcolumn => exact shown_edit_iff h hv hrow hcolumn text
  | vesselFollowing checked =>
      exact ⟨fun _ => trivial, fun _ => shown_restart.mpr ⟨h.size, h.rows, h.checks.1, rfl⟩⟩

/-- **What is shown stays what is used, exactly in the events that meet the condition.** -/
theorem shown_guiMove_iff (h : g.Shown) (hv : g.Vessels unique) {e : PluginEvent D}
    (hmove : Plugin.GuiMove toStdString g e g') : g'.Shown ↔ g.showsUsed e := by
  cases hmove with
  | «show» => exact ⟨fun _ => trivial, fun _ => ⟨h.size, h.rows, h.checks⟩⟩
  | hide => exact ⟨fun _ => trivial, fun _ => h.hidden⟩
  | close => exact ⟨fun _ => trivial, fun _ => h.hidden⟩
  | ui hu => exact shown_uiStep_iff h hv hu
  | notify hn =>
      refine ⟨fun _ => trivial, fun _ => ?_⟩
      exact Shown.valueChanged (g := g.clearNotice) ⟨h.size, h.rows, h.checks⟩
        ⟨hv.list, hv.rows, hv.sound⟩ _ _
  | skipNotify => exact ⟨fun _ => trivial, fun _ => ⟨h.size, h.rows, h.checks⟩⟩
  | positionFix => exact ⟨fun _ => trivial, fun _ => h.updateBoatPosition _ _⟩
  | cursor | place | noAction => exact ⟨fun _ => trivial, fun _ => h⟩
  | updateToCursor | updateToBoat =>
      exact ⟨fun _ => trivial, fun _ => shown_restart.mpr ⟨h.size, h.rows, rfl, h.checks.2⟩⟩
  | preferencesApply => exact ⟨fun _ => trivial, fun _ => ⟨h.size, h.rows, h.checks⟩⟩
  | @preferencesOk p window =>
      refine ⟨fun _ => trivial, fun _ => ?_⟩
      exact Shown.updateSearchBoxSize (g := MainGui.setClientToken toStdString
        { g with settings := (p.updated g.settings).placed window g.searchBoxSize })
        h.rows h.checks _

end

end MainGui

/-! ### The plugin -/

namespace Plugin

open MainGui

variable {toStdString : WxString → StdString} {s s' : Plugin D}

/-- **The dialog, when there is one, shows what it uses.** -/
def Shown (s : Plugin D) : Prop := ∀ g, s.gui? = some g → g.Shown

/-- The event leaves on show what is used. -/
def showsUsed (s : Plugin D) (e : PluginEvent D) : Prop := ∀ g, s.gui? = some g → g.showsUsed e

theorem shown_step_iff [LawfulDouble D] (hv : s.Vessels False) (h : s.Shown) {e : PluginEvent D}
    (hstep : (system toStdString).step s e = some s') : s'.Shown ↔ s.showsUsed e := by
  refine forall_gui_step_iff (move_of_step hstep) (fun g g' hg _ hm => ?_) (fun g' _ he hm => ?_) ?_
  · exact shown_guiMove_iff (h g hg) (hv.gui g hg) hm
  · subst he
    exact (shown_guiMove_iff (shown_create hv.list) (vessels_create hv.list) hm).mpr trivial
  · rintro (⟨rfl, -⟩ | rfl) g _ <;> trivial

/--
**What the dialog shows is what it uses, exactly as long as no event breaks it.**  In every
state of a run the slider and the size label, the rows and the check boxes agree with what
they stand for, if and only if no event of it moves the slider off a whole size without a
drag of its thumb, and none enters an MMSI that is accepted but not typed in its nine digits.
-/
theorem shown_iff_showsUsed [LawfulDouble D] (config : Config D)
    (events : List (PluginEvent D)) :
    (system toStdString).Always Shown { config } events ↔
      (system toStdString).AllSteps showsUsed { config } events :=
  System.always_iff_allSteps (I := fun s => s.Vessels False)
    (fun _ _ _ h hstep => vessels_step h hstep) (fun _ _ _ hv h hstep => shown_step_iff hv h hstep)
    events { config } ⟨VesselList.nil, (fun _ hg => nomatch hg), False.elim⟩
    fun _ hg => nomatch hg

/-- The thumb dragged, and a vessel added and corrected. -/
theorem shown_iff_showsUsed_dragged :
    (system fun _ => []).Always Shown ({} : Plugin ℝ)
      [.init, .toolbar, .ui (.scroll .thumbTrack 4), .ui (.thumbRelease 4),
        .ui (.addMmsi 227000000 []), .ui (.editCell 0 0 (wx "227000001"))] := by
  refine (shown_iff_showsUsed {} _).mpr ?_
  refine fun _ _ => ⟨fun _ _ => trivial, fun _ _ => ⟨fun _ _ => trivial, fun _ _ => ⟨?_, ?_⟩⟩⟩
  · exact fun _ _ _ hkind => absurd rfl hkind
  refine fun _ _ => ⟨fun _ _ => trivial, fun _ _ => ⟨fun _ _ => trivial, fun _ _ => ⟨?_, trivial⟩⟩⟩
  intro _ _ _ mmsi hacc _
  have htext : acceptedMmsi (wx "227000001") = some 227000001 := by decide +kernel
  rw [htext] at hacc
  cases hacc
  decide +kernel

/-- The slider moved by the keyboard, and an MMSI typed with a leading zero. -/
theorem slider_moved_without_drag :
    (∃ s : Plugin ℝ, (system fun _ => []).run {}
      [.init, .toolbar, .ui (.scroll .lineDown 2)] = some s ∧ ¬s.Shown) ∧
    ∃ s : Plugin ℝ, (system fun _ => []).run {}
      [.init, .toolbar, .ui (.addMmsi 227000000 []), .ui (.editCell 0 0 (wx "0227000001"))]
        = some s ∧ ¬s.Shown := by
  constructor
  · refine ⟨_, rfl, fun h => ?_⟩
    have hsize : clamp (ofInt 1 : ℝ) (ofInt 0) (ofInt 10) = ofInt 1 :=
      clamp_ofInt (by decide) (by decide) (by decide) (by decide)
    have hslider := ((h _ rfl).size rfl 1 (by decide) hsize).1
    cases hslider
  · have h : ((system fun _ => []).run ({} : Plugin ℝ)
        [.init, .toolbar, .ui (.addMmsi 227000000 []),
          .ui (.editCell 0 0 (wx "0227000001"))]).map (fun s => s.dialog.any fun d =>
        d.rows ≠ List.zipWith vesselRow s.settings.mmsiList s.settings.mmsiListNames)
          = some true := by
      decide +kernel
    obtain ⟨s, hrun, hs⟩ := Option.map_eq_some_iff.mp h
    obtain ⟨d, hd, hrows⟩ := (Option.any_eq_true _ _).mp hs
    exact ⟨s, hrun, fun hshown => of_decide_eq_true hrows
      (hshown { d with settings := s.settings } (gui_of_dialog hd rfl)).rows⟩

end Plugin

end AisLive
