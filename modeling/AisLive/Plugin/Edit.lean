/-
An edit of an MMSI, to its end.

A rejected MMSI is put back by writing to its cell, and the table answers the write with
the event the edit itself has raised.  `onValueChanged` leaves that event in `notice`; here
it is delivered at once, so that the handler runs inside its own write, and `valueChanged`
is all of it.

What is put back passes the test unless another row has it too.  Then the handler puts it
back again, and so on without end; `LoadSettings` is where such a list comes from.  And
passing the test means to be stored, so a rejected edit ends in the branch of the accepted
ones, which subscribes a running stream again.
-/
import AisLive.Plugin.Display

namespace AisLive

open Double Transition

variable {D : Type} [Double D]

namespace MainGui

/-- `OnDataViewListCtrlItemValueChanged_updateMmsiList`, called again by its own write to the
table.  Nothing follows the write, so one call is over where the next one begins.  Where more
than `calls` of them are needed there is no result. -/
def valueChanged : Nat → Nat → Nat → MainGui D → Option (MainGui D)
  | 0, _, _, _ => none
  | calls + 1, row, column, g =>
      let g := g.clearNotice.onValueChanged row column
      match g.notice with
      | none => some g
      | some (row, column) => valueChanged calls row column g

/-- The text is entered in the cell. -/
def edit (row column : Nat) (text : WxString) (calls : Nat) (g : MainGui D) :
    Option (MainGui D) :=
  (g.setCell row column text).valueChanged calls row column

/-- The text is no MMSI, or the one of another row. -/
def rejectsMmsi (row : Nat) (text : WxString) (g : MainGui D) : Bool :=
  (acceptedMmsi text).all (g.repeatsMmsi row ·)

/-- An MMSI is put back that another row has too. -/
def RestoresRepeated (row column : Nat) (text : WxString) (g : MainGui D) : Prop :=
  column = 0 ∧ g.rejectsMmsi row text = true ∧
    ∃ stored, g.settings.mmsiList[row]? = some stored ∧ g.repeatsMmsi row stored = true

variable {unique : Prop} {g g' : MainGui D} {calls row column stored : Nat} {text : WxString}

/-! ### One call -/

/-- The event being delivered is not among those that remain. -/
theorem valueChanged_notice (notice : Option (Nat × Nat)) :
    valueChanged calls row column { g with notice } = valueChanged calls row column g := by
  cases calls <;> rfl

theorem valueChanged_of_notice_none
    (h : (g.clearNotice.onValueChanged row column).notice = none) :
    valueChanged (calls + 1) row column g = some (g.clearNotice.onValueChanged row column) := by
  rw [valueChanged]
  simp only [h]

theorem valueChanged_of_notice_some {row' column' : Nat}
    (h : (g.clearNotice.onValueChanged row column).notice = some (row', column')) :
    valueChanged (calls + 1) row column g
      = valueChanged calls row' column' (g.clearNotice.onValueChanged row column) := by
  rw [valueChanged]
  simp only [h]

theorem notice_restart : g.restartAisStream.notice = g.notice :=
  restartAisStream_frame (P := fun g' => g'.notice = g.notice) fun _ _ => rfl

theorem onValueChanged_mmsi (hrow : row < g.rows.length) :
    g.onValueChanged row 0 = g.onMmsiChanged row := by
  rw [onValueChanged, if_neg (by omega), if_pos rfl]

theorem onMmsiChanged_of_rejects (h : g.rejectsMmsi row (g.cell row 0) = true) :
    g.onMmsiChanged row = g.restoreMmsi row := by
  rw [onMmsiChanged]
  cases hacc : acceptedMmsi (g.cell row 0) with
  | none => rfl
  | some mmsi =>
      rw [rejectsMmsi, hacc, Option.all_some] at h
      simp only
      rw [if_pos h]

theorem onMmsiChanged_of_accepts {mmsi : Nat} (hacc : acceptedMmsi (g.cell row 0) = some mmsi)
    (hrep : g.repeatsMmsi row mmsi = false) (hrow : row < g.settings.mmsiList.length) :
    g.onMmsiChanged row = restartAisStream
      { g with settings := { g.settings with mmsiList := g.settings.mmsiList.set row mmsi } } := by
  rw [onMmsiChanged, hacc]
  simp only
  rw [if_neg (by simp [hrep]), if_neg (by omega)]

/-- A rejected MMSI is put back, and the handler called for it. -/
theorem valueChanged_of_rejects (hrow : row < g.rows.length)
    (hstored : g.settings.mmsiList[row]? = some stored)
    (hrej : g.rejectsMmsi row (g.cell row 0) = true) :
    valueChanged (calls + 1) row 0 g
      = valueChanged calls row 0 (g.setCell row 0 (decimal09 stored)) := by
  have hcall : g.clearNotice.onValueChanged row 0
      = { g.setCell row 0 (decimal09 stored) with notice := some (row, 0) } := by
    rw [onValueChanged_mmsi (g := g.clearNotice) hrow,
      onMmsiChanged_of_rejects (g := g.clearNotice) hrej, restoreMmsi,
      show g.clearNotice.settings.mmsiList[row]? = some stored from hstored]
    rfl
  rw [valueChanged_of_notice_some (congrArg (fun g : MainGui D => g.notice) hcall), hcall,
    valueChanged_notice]

/-- An MMSI put back that no other row has is stored once more. -/
theorem valueChanged_of_stored (hv : g.Vessels unique) (hrow : row < g.rows.length)
    (hstored : g.settings.mmsiList[row]? = some stored)
    (hrep : g.repeatsMmsi row stored = false) :
    valueChanged (calls + 1) row 0 (g.setCell row 0 (decimal09 stored))
      = some (g.setCell row 0 (decimal09 stored)).clearNotice.restartAisStream := by
  have hlen : row < g.settings.mmsiList.length := hv.rows ▸ hrow
  have hvalid : validMmsi stored = true := hv.list.valid _ (List.mem_of_getElem? hstored)
  have hset : g.settings.mmsiList.set row stored = g.settings.mmsiList := by
    obtain ⟨_, rfl⟩ := List.getElem?_eq_some_iff.mp hstored
    exact List.set_getElem_self _
  have hacc : acceptedMmsi ((g.setCell row 0 (decimal09 stored)).cell row 0) = some stored := by
    rw [cell_setCell hrow, acceptedMmsi_decimal09 hvalid]
  have hcall : (g.setCell row 0 (decimal09 stored)).clearNotice.onValueChanged row 0
      = (g.setCell row 0 (decimal09 stored)).clearNotice.restartAisStream := by
    have hin : row < (g.setCell row 0 (decimal09 stored)).clearNotice.rows.length := by
      simpa only [clearNotice, setCell, List.length_modify] using hrow
    rw [onValueChanged_mmsi hin,
      onMmsiChanged_of_accepts (g := (g.setCell row 0 (decimal09 stored)).clearNotice) hacc hrep hlen]
    show restartAisStream { (g.setCell row 0 (decimal09 stored)).clearNotice with
      settings := { g.settings with mmsiList := g.settings.mmsiList.set row stored } } = _
    rw [hset]
    rfl
  have hnone := congrArg (fun g : MainGui D => g.notice) hcall
  rw [valueChanged_of_notice_none (hnone.trans notice_restart), hcall]

/-! ### The whole of an edit -/

theorem setCell_setCell (row column : Nat) (text text' : WxString) (g : MainGui D) :
    (g.setCell row column text).setCell row column text' = g.setCell row column text' := by
  have hrows : ((g.setCell row column text).setCell row column text').rows
      = (g.setCell row column text').rows := by
    refine (List.modify_modify_eq _ _ row g.rows).trans (congrArg (g.rows.modify row) ?_)
    funext r
    by_cases hc : column = 0 <;> simp only [Function.comp, hc, if_true, if_false]
  exact congrArg (fun rows => ({ g with rows } : MainGui D)) hrows

theorem length_rows_setCell (row column : Nat) (text : WxString) (g : MainGui D) :
    (g.setCell row column text).rows.length = g.rows.length := List.length_modify ..

/-- What is asked of the text entered is asked of the cell. -/
theorem rejectsMmsi_setCell (hrow : row < g.rows.length) (text : WxString) :
    (g.setCell row 0 text).rejectsMmsi row ((g.setCell row 0 text).cell row 0)
      = g.rejectsMmsi row text := by
  rw [cell_setCell hrow]
  rfl

/-- **A rejected edit is over with the second call**, which stores the MMSI put back, where
no other row has it. -/
theorem edit_of_restored (hv : g.Vessels unique) (hrow : row < g.rows.length)
    (hstored : g.settings.mmsiList[row]? = some stored)
    (hrep : g.repeatsMmsi row stored = false) (hrej : g.rejectsMmsi row text = true) :
    g.edit row 0 text (calls + 2)
      = some (g.setCell row 0 (decimal09 stored)).clearNotice.restartAisStream := by
  rw [← rejectsMmsi_setCell hrow] at hrej
  rw [edit, valueChanged_of_rejects (g := g.setCell row 0 text) (by rwa [length_rows_setCell])
    hstored hrej, setCell_setCell, valueChanged_of_stored hv hrow hstored hrep]

/-- An MMSI that is put back only to be rejected again. -/
theorem valueChanged_eq_none (hvalid : validMmsi stored = true) (hrow : row < g.rows.length)
    (hstored : g.settings.mmsiList[row]? = some stored)
    (hrep : g.repeatsMmsi row stored = true) (hrej : g.rejectsMmsi row (g.cell row 0) = true)
    (calls : Nat) : valueChanged calls row 0 g = none := by
  induction calls generalizing g with
  | zero => rfl
  | succ calls ih =>
      rw [valueChanged_of_rejects hrow hstored hrej]
      -- the cell now holds what is stored, and the list is the same
      refine ih (g := g.setCell row 0 (decimal09 stored)) (by rwa [length_rows_setCell]) hstored
        hrep ?_
      rw [rejectsMmsi_setCell hrow, rejectsMmsi, acceptedMmsi_decimal09 hvalid, Option.all_some]
      exact hrep

/-- **An edit that puts back an MMSI another row has too is never over.** -/
theorem edit_eq_none (hv : g.Vessels unique) (h : g.RestoresRepeated row column text)
    (calls : Nat) : g.edit row column text calls = none := by
  obtain ⟨rfl, hrej, stored, hstored, hrep⟩ := h
  have hvalid : validMmsi stored = true := hv.list.valid _ (List.mem_of_getElem? hstored)
  have hrow : row < g.rows.length := by
    rw [hv.rows]
    exact (List.getElem?_eq_some_iff.mp hstored).1
  refine valueChanged_eq_none (g := g.setCell row 0 text) hvalid (by rwa [length_rows_setCell])
    hstored hrep ?_ calls
  rw [rejectsMmsi_setCell hrow, hrej]

theorem notice_onNameChanged : (g.onNameChanged row).notice = g.notice := by
  unfold onNameChanged
  extract_lets names
  split <;> rfl

/-- Only an MMSI that is put back calls the handler again. -/
theorem notice_onValueChanged (h : ¬(column = 0 ∧ row < g.rows.length)) :
    (g.onValueChanged row column).notice = g.notice := by
  unfold onValueChanged
  split
  · rfl
  · rename_i hrow
    rw [if_neg (by omega)]
    split
    · exact notice_onNameChanged
    · rfl

/-- Every other edit is over with the first call or the second. -/
theorem isSome_edit (hv : g.Vessels unique) (h : ¬g.RestoresRepeated row column text) :
    (g.edit row column text 2).isSome = true := by
  have hone : ((g.setCell row column text).clearNotice.onValueChanged row column).notice = none →
      (g.edit row column text 2).isSome = true := by
    intro hnone
    rw [edit, valueChanged_of_notice_none hnone]
    rfl
  by_cases hmmsi : column = 0 ∧ row < g.rows.length
  · obtain ⟨rfl, hrow⟩ := hmmsi
    have hlen : row < g.settings.mmsiList.length := hv.rows ▸ hrow
    have hstored := List.getElem?_eq_getElem hlen
    by_cases hrej : g.rejectsMmsi row text = true
    · have hrep : g.repeatsMmsi row g.settings.mmsiList[row] = false :=
        Bool.eq_false_iff.mpr fun hrep => h ⟨rfl, hrej, _, hstored, hrep⟩
      rw [edit_of_restored hv hrow hstored hrep hrej]
      rfl
    · cases hacc : acceptedMmsi text with
      | none => exact absurd (by rw [rejectsMmsi, hacc]; rfl) hrej
      | some mmsi =>
          rw [rejectsMmsi, hacc, Option.all_some, Bool.not_eq_true] at hrej
          have hcell : acceptedMmsi ((g.setCell row 0 text).clearNotice.cell row 0) = some mmsi := by
            rw [← hacc]
            exact congrArg acceptedMmsi (cell_setCell hrow 0 text)
          refine hone ?_
          rw [onValueChanged_mmsi (by simpa only [clearNotice, length_rows_setCell] using hrow),
            onMmsiChanged_of_accepts (g := (g.setCell row 0 text).clearNotice) hcell hrej hlen,
            notice_restart]
          rfl
  · refine hone (notice_onValueChanged ?_)
    simpa only [clearNotice, length_rows_setCell] using hmmsi

/-- **An edit ends, with the second call at the latest, exactly if it does not put back an MMSI
that another row has too.** -/
theorem exists_edit_iff (hv : g.Vessels unique) :
    (∃ calls, (g.edit row column text calls).isSome = true) ↔
      ¬g.RestoresRepeated row column text := by
  constructor
  · rintro ⟨calls, hsome⟩ h
    rw [edit_eq_none hv h] at hsome
    cases hsome
  · exact fun h => ⟨2, isSome_edit hv h⟩

/-- In a list without repetition no MMSI put back is another row's. -/
theorem not_restoresRepeated (hv : g.Vessels unique) (hu : unique) :
    ¬g.RestoresRepeated row column text := by
  rintro ⟨-, -, stored, hstored, hrep⟩
  obtain ⟨⟨m, i⟩, hmem, hi⟩ := List.any_eq_true.mp hrep
  rw [List.mk_mem_zipIdx_iff_getElem?] at hmem
  simp only [ne_eq, decide_not, Bool.and_eq_true, Bool.not_eq_true', decide_eq_false_iff_not,
    beq_iff_eq] at hi
  obtain ⟨hi, rfl⟩ := hi
  have hlen : i < g.settings.mmsiList.length := (List.getElem?_eq_some_iff.mp hmem).1
  exact hi ((List.getElem?_inj hlen (hv.list.distinct hu)).mp (hmem.trans hstored.symm))

end MainGui

namespace Plugin

open MainGui

variable {toStdString : WxString → StdString} {unique : Prop} {s : Plugin D} {g g' : MainGui D}
  {calls row column : Nat} {text : WxString}

/-! ### The calls as events of the plugin -/

theorem step_notify (hg : s.gui? = some g) (hn : g.notice = some (row, column))
    (hsound : g.fault = false) :
    (system toStdString).step s .notify
      = some (s.withGui (g.clearNotice.onValueChanged row column)) := by
  obtain ⟨d, hd, rfl⟩ := Option.map_eq_some_iff.mp hg
  have hfault : d.fault = false := hsound
  have hnotice : d.notice = some (row, column) := hn
  simp only [system, hd, Option.any_some, hfault, hnotice, Option.isSome_some, if_true, notified,
    hg, onGui]
  rfl

/-- **The calls an edit ends with are deliveries of the notices**, one after the other. -/
theorem exists_run_notify (hg : s.gui? = some g) (hv : g.Vessels unique)
    (hn : g.notice = some (row, column)) (h : valueChanged calls row column g = some g') :
    ∃ n, (system toStdString).run s (List.replicate n .notify) = some (s.withGui g') := by
  induction calls generalizing s g row column with
  | zero => cases h
  | succ calls ih =>
      have hclear : g.clearNotice.Vessels unique := ⟨hv.list, hv.rows, hv.sound⟩
      have hstep : (system toStdString).step s .notify = _ := step_notify hg hn hv.sound
      cases hnext : (g.clearNotice.onValueChanged row column).notice with
      | none =>
          rw [valueChanged_of_notice_none hnext] at h
          cases h
          exact ⟨1, by rw [List.replicate_one, System.run_cons, hstep]; rfl⟩
      | some cell =>
          obtain ⟨row', column'⟩ := cell
          rw [valueChanged_of_notice_some hnext] at h
          obtain ⟨n, hrun⟩ := ih (gui_withGui s _) (hclear.valueChanged row column) hnext h
          exact ⟨n + 1, by rw [List.replicate_succ, System.run_cons, hstep]; exact hrun⟩

theorem step_ui (hg : s.gui? = some g) (hvisible : g.visible = true) (hn : g.notice = none)
    (hsound : g.fault = false) {e : UiEvent} (hu : uiStep toStdString e g = some g') :
    (system toStdString).step s (.ui e) = some (s.withGui g') := by
  obtain ⟨d, hd, rfl⟩ := Option.map_eq_some_iff.mp hg
  have hfault : d.fault = false := hsound
  have hnotice : d.notice = none := hn
  have hshown : d.visible = true := hvisible
  simp only [system, hd, Option.any_some, hfault, hnotice, Option.isSome_none, Bool.false_eq_true,
    if_false, handle, ui, hg, hshown, if_true, hu, Option.map_some]
  rfl

/-- **An edit that ends is one event and the deliveries of its notices.** -/
theorem exists_run_edit (hg : s.gui? = some g) (hv : g.Vessels unique)
    (hvisible : g.visible = true) (hn : g.notice = none) (hrow : row < g.rows.length)
    (hcolumn : column < 2) (h : g.edit row column text calls = some g') :
    ∃ n, (system toStdString).run s (.ui (.editCell row column text) :: List.replicate n .notify)
      = some (s.withGui g') := by
  have hstep : (system toStdString).step s (.ui (.editCell row column text)) = _ :=
    step_ui hg hvisible hn hv.sound (if_pos ⟨hrow, hcolumn⟩)
  have hclear : (g.setCell row column text).clearNotice = g.setCell row column text :=
    congrArg (fun notice => ({ g.setCell row column text with notice } : MainGui D)) hn.symm
  cases calls with
  | zero => cases h
  | succ calls =>
      cases hnext : ((g.setCell row column text).onValueChanged row column).notice with
      | none =>
          rw [← hclear] at hnext
          rw [edit, valueChanged_of_notice_none hnext, hclear] at h
          cases h
          exact ⟨0, by rw [System.run_cons, hstep]; rfl⟩
      | some cell =>
          obtain ⟨row', column'⟩ := cell
          have hrest := hnext
          rw [← hclear] at hrest
          rw [edit, valueChanged_of_notice_some hrest, hclear] at h
          have hedited := (hv.setCell row column text).valueChanged row column
          obtain ⟨n, hrun⟩ := exists_run_notify (gui_withGui s _) hedited hnext h
          exact ⟨n, by rw [System.run_cons, hstep]; exact hrun⟩

/-! ### Whether an edit ends -/

/--
**Editing a cell ends unless an MMSI is put back that another row has too.**  In every state
the plugin reaches, two calls of the handler are enough, whatever cell is edited and whatever
is typed; or else, where the text is rejected and the row's own MMSI is in another row as
well, no number of calls is.
-/
theorem edit_ends_iff {config : Config D} (hreach : (system toStdString).Reach { config } s)
    (hg : s.gui? = some g) (row column : Nat) (text : WxString) :
    ((∃ calls, (g.edit row column text calls).isSome = true) ↔
      ¬g.RestoresRepeated row column text) ∧
    ((g.edit row column text 2).isSome = true ↔ ¬g.RestoresRepeated row column text) := by
  have hv := (vessels_of_reach hreach).gui g hg
  refine ⟨exists_edit_iff hv, fun hsome => ?_, isSome_edit hv⟩
  exact (exists_edit_iff hv).mp ⟨2, hsome⟩

/-- No text is endless where the MMSIs first loaded were distinct. -/
theorem isSome_edit_of_distinct {config : Config D}
    (hreach : (system toStdString).Reach { config } s) (hg : s.gui? = some g)
    (hdistinct : (acceptedMmsis (config.mmsiList.getD [])).Nodup) (row column : Nat)
    (text : WxString) : (g.edit row column text 2).isSome = true := by
  have hv := (vessels_of_reach hreach).gui g hg
  exact isSome_edit hv (not_restoresRepeated hv hdistinct)

/-- A text that is no MMSI typed over the first of two. -/
theorem edit_ends_iff_noNumber :
    ∃ s g, (system fun _ => []).run
      ({ config := { mmsiList := some (wx "227000000,227000001") } } : Plugin ℝ)
      [.init, .toolbar] = some s ∧
      s.gui? = some g ∧ (g.edit 0 0 (wx "abc") 2).isSome = true := by
  have h : ((system fun _ => []).run
      ({ config := { mmsiList := some (wx "227000000,227000001") } } : Plugin ℝ)
      [.init, .toolbar]).bind (fun s => s.gui?.map fun g => g.settings.mmsiList)
        = some [227000000, 227000001] := by
    decide +kernel
  obtain ⟨s, hrun, hs⟩ := Option.bind_eq_some_iff.mp h
  obtain ⟨g, hg, hlist⟩ := Option.map_eq_some_iff.mp hs
  refine ⟨s, g, hrun, hg, (edit_ends_iff (System.reach_of_run hrun) hg 0 0 _).2.mpr ?_⟩
  rintro ⟨-, -, stored, hstored, hrep⟩
  rw [hlist] at hstored
  cases hstored
  rw [repeatsMmsi, hlist] at hrep
  revert hrep
  decide

/-- The same text typed over the first of two rows of one MMSI. -/
theorem edit_endless :
    ∃ s g, (system fun _ => []).run
      ({ config := { mmsiList := some (wx "227000000,227000000") } } : Plugin ℝ)
      [.init, .toolbar] = some s ∧
      s.gui? = some g ∧ 0 < g.rows.length ∧
      ∀ calls, g.edit 0 0 (wx "abc") calls = none := by
  have h : ((system fun _ => []).run
      ({ config := { mmsiList := some (wx "227000000,227000000") } } : Plugin ℝ)
      [.init, .toolbar]).bind (fun s => s.gui?.map fun g =>
        (g.settings.mmsiList, g.rows.length)) = some ([227000000, 227000000], 2) := by
    decide +kernel
  obtain ⟨s, hrun, hs⟩ := Option.bind_eq_some_iff.mp h
  obtain ⟨g, hg, hboth⟩ := Option.map_eq_some_iff.mp hs
  have hlist : g.settings.mmsiList = [227000000, 227000000] := congrArg Prod.fst hboth
  have hrows : g.rows.length = 2 := congrArg Prod.snd hboth
  have hv := (vessels_of_reach (System.reach_of_run hrun)).gui g hg
  have hrej : g.rejectsMmsi 0 (wx "abc") = true := by
    rw [rejectsMmsi, show acceptedMmsi (wx "abc") = none by decide +kernel]
    rfl
  refine ⟨s, g, hrun, hg, by omega, edit_eq_none hv ⟨rfl, hrej, 227000000, ?_, ?_⟩⟩
  · rw [hlist]
    rfl
  · rw [repeatsMmsi, hlist]
    decide

end Plugin

/-! ### What a rejected edit changes -/

namespace MainGui

variable {unique : Prop} {g : MainGui D} {row : Nat} {text : WxString}

/-- Nothing has come of an edit of the row: its cell shows what is stored, the vectors are as
they were, and the client has not been called. -/
structure Undone (row : Nat) (g g' : MainGui D) : Prop where
  cell : g.settings.mmsiList[row]?.map decimal09 = some (g'.cell row 0)
  mmsiList : g'.settings.mmsiList = g.settings.mmsiList
  mmsiListNames : g'.settings.mmsiListNames = g.settings.mmsiListNames
  client : g'.client = g.client

theorem restartAisStream_client_iff :
    g.restartAisStream.client = g.client ↔ g.client.streaming = false := by
  unfold restartAisStream
  by_cases hs : g.client.streaming = true
  · rw [if_pos hs]
    exact StreamClient.restart_eq_self_iff
  · rw [if_neg hs]
    exact ⟨fun _ => Bool.eq_false_iff.mpr hs, fun _ => rfl⟩

/--
**A rejected edit changes nothing exactly if no stream is running.**  Where the MMSIs are
distinct it is over with the second call, the cell shows the stored MMSI and the settings are
as they were; but that call has found the MMSI it put back to be a good one, and restarted a
running stream.
-/
theorem rejected_edit_undone_iff (hv : g.Vessels unique) (hu : unique)
    (hrow : row < g.rows.length) (hrej : g.rejectsMmsi row text = true) :
    ∃ g', (∀ calls, g.edit row 0 text (calls + 2) = some g') ∧ g'.settings = g.settings ∧
      (g.Undone row g' ↔ g.client.streaming = false) := by
  have hlen : row < g.settings.mmsiList.length := hv.rows ▸ hrow
  have hstored := List.getElem?_eq_getElem hlen
  have hrep : g.repeatsMmsi row g.settings.mmsiList[row] = false :=
    Bool.eq_false_iff.mpr fun hrep =>
      not_restoresRepeated hv hu ⟨rfl, hrej, _, hstored, hrep⟩
  let g₀ := (g.setCell row 0 (decimal09 g.settings.mmsiList[row])).clearNotice
  have hsettings : g₀.restartAisStream.settings = g.settings :=
    restartAisStream_frame (P := fun g' => g'.settings = g.settings) fun _ _ => rfl
  have hcell : g₀.restartAisStream.cell row 0 = decimal09 g.settings.mmsiList[row] :=
    restartAisStream_frame
      (P := fun g' => g'.cell row 0 = decimal09 g.settings.mmsiList[row])
      fun _ _ => cell_setCell hrow 0 _
  refine ⟨g₀.restartAisStream, fun calls => edit_of_restored hv hrow hstored hrep hrej, hsettings,
    fun h => (restartAisStream_client_iff (g := g₀)).mp h.client, fun hs => ⟨?_, ?_, ?_, ?_⟩⟩
  · rw [hstored, Option.map_some, hcell]
  · rw [hsettings]
  · rw [hsettings]
  · exact (restartAisStream_client_iff (g := g₀)).mpr hs

/-- The vessel of a dialog without a stream, typed over with a text that is no MMSI. -/
theorem rejected_edit_undone_iff_idle :
    ∃ s g g', (Plugin.system fun _ => []).run ({} : Plugin ℝ)
      [.init, .toolbar, .ui (.addMmsi 227000000 [])] = some s ∧ s.gui? = some g ∧
      g.edit 0 0 (wx "abc") 2 = some g' ∧ g.Undone 0 g' := by
  have h : ((Plugin.system fun _ => []).run ({} : Plugin ℝ)
      [.init, .toolbar, .ui (.addMmsi 227000000 [])]).bind (fun s => s.gui?.map fun g =>
        (g.rows.length, g.rejectsMmsi 0 (wx "abc"), g.client.streaming))
        = some (1, true, false) := by
    decide +kernel
  obtain ⟨s, hrun, hs⟩ := Option.bind_eq_some_iff.mp h
  obtain ⟨g, hg, hall⟩ := Option.map_eq_some_iff.mp hs
  obtain ⟨hrows, hrej, hidle⟩ : g.rows.length = 1 ∧ g.rejectsMmsi 0 (wx "abc") = true ∧
      g.client.streaming = false := by
    simpa only [Prod.mk.injEq] using hall
  have hv := (Plugin.vessels_of_reach (System.reach_of_run hrun)).gui g hg
  obtain ⟨g', hedit, -, hiff⟩ := rejected_edit_undone_iff hv (by decide) (by omega) hrej
  exact ⟨s, g, g', hrun, hg, hedit 0, hiff.mpr hidle⟩

/-- The same text typed while the stream runs: it is subscribed a second time. -/
theorem rejected_edit_restarts :
    ∃ s g g', (Plugin.system fun _ => []).run ({} : Plugin ℝ)
      [.init, .toolbar, .ui (.addMmsi 227000000 []), .ui .startStream] = some s ∧
      s.gui? = some g ∧ g.settings.mmsiList = [227000000] ∧
      g.rejectsMmsi 0 (wx "abc") = true ∧ g.edit 0 0 (wx "abc") 2 = some g' ∧
      g.client.subscriptions.length = 1 ∧ g'.client.subscriptions.length = 2 := by
  have h : ((Plugin.system fun _ => []).run ({} : Plugin ℝ)
      [.init, .toolbar, .ui (.addMmsi 227000000 []), .ui .startStream]).bind (fun s =>
        s.gui?.bind fun g => (g.edit 0 0 (wx "abc") 2).map fun g' =>
        (g.settings.mmsiList, g.rejectsMmsi 0 (wx "abc"), g.client.subscriptions.length,
          g'.client.subscriptions.length)) = some ([227000000], true, 1, 2) := by
    decide +kernel
  obtain ⟨s, hrun, hs⟩ := Option.bind_eq_some_iff.mp h
  obtain ⟨g, hg, hedit⟩ := Option.bind_eq_some_iff.mp hs
  obtain ⟨g', hg', hall⟩ := Option.map_eq_some_iff.mp hedit
  simp only [Prod.mk.injEq] at hall
  exact ⟨s, g, g', hrun, hg, hall.1, hall.2.1, hg', hall.2.2.1, hall.2.2.2⟩

end MainGui

end AisLive
