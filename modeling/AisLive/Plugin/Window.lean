/-
The window, the toolbar item and the context-menu entry.

What the user sees of the plugin is seven bits: `WindowView`.  The toolbar button and the
close button compute them anew, in two pieces of code that come to the same; the controls of
the dialog can only start and stop the stream of a window that is shown; and every other
event leaves them alone, as a `Restart` is never refused.

The preferences are the exception.  They change whether the stream is to be kept and
compute nothing, so that a hidden window is left with a stream it should not have, or
without the menu entry it should have.  `consistent_iff` says that nothing else goes wrong.
-/
import AisLive.Plugin.Current

namespace AisLive

open Double Transition

/-- What the user sees, and what is to be seen. -/
structure WindowView where
  /-- The window has been opened in this session. -/
  opened : Bool := false
  visible : Bool := false
  streaming : Bool := false
  keepWindowActive : Bool := false
  isToolbarActive : Bool := false
  toolbarItemState : Bool := false
  menuItemVisible : Bool := false
  deriving DecidableEq

namespace WindowView

/-- The stream ends unless it is kept, and the menu entry with it. -/
def stopUnlessKept (v : WindowView) : WindowView :=
  { v with
    streaming := v.streaming && v.keepWindowActive
    menuItemVisible := v.menuItemVisible && v.keepWindowActive }

/-- The window is hidden. -/
def closed (v : WindowView) : WindowView :=
  { v with
    visible := false
    isToolbarActive := false
    toolbarItemState := v.streaming && v.keepWindowActive }.stopUnlessKept

/-- The window is shown or hidden, and created the first time. -/
def toggled (v : WindowView) : WindowView :=
  if v.isToolbarActive then { v with opened := true }.closed
  else { v with
    opened := true
    visible := true
    isToolbarActive := true
    toolbarItemState := true
    menuItemVisible := true }

/-- The toggle is that of the window, and without a window there is nothing to see. -/
structure Sound (v : WindowView) : Prop where
  active : v.isToolbarActive = v.visible
  unopened : v.opened = false → v = { keepWindowActive := v.keepWindowActive }

/-- Window, toolbar item, menu entry and stream agree. -/
structure Consistent (v : WindowView) : Prop where
  stream : v.visible = false → v.keepWindowActive = false → v.streaming = false
  toolbarItem : v.toolbarItemState = (v.visible || v.streaming)
  menuItem : v.visible = true ∨ v.opened = true ∧ v.keepWindowActive = true →
    v.menuItemVisible = true

/-- The preference suits a window that is hidden. -/
def Suits (keepWindowActive : Bool) (v : WindowView) : Prop :=
  v.opened = true → v.visible = false →
    (keepWindowActive = false → v.streaming = false) ∧
      (keepWindowActive = true → v.menuItemVisible = true)

variable {v : WindowView}

theorem sound_session (keepWindowActive : Bool) : Sound { keepWindowActive } := ⟨rfl, fun _ => rfl⟩

theorem consistent_session (keepWindowActive : Bool) : Consistent { keepWindowActive } :=
  ⟨fun _ _ => rfl, rfl, by rintro (h | ⟨h, -⟩) <;> cases h⟩

theorem Sound.closed (h : v.Sound) : v.closed.Sound := by
  refine ⟨rfl, fun hv => ?_⟩
  rw [h.unopened hv]
  rfl

theorem Consistent.closed (h : v.Consistent) : v.closed.Consistent := by
  refine ⟨fun _ hkeep => ?_, rfl, ?_⟩
  · exact Bool.and_eq_false_imp.mpr fun _ => hkeep
  · rintro (hv | ⟨hopened, hkeep⟩)
    · cases hv
    · exact Bool.and_eq_true_iff.mpr ⟨h.menuItem (.inr ⟨hopened, hkeep⟩), hkeep⟩

theorem sound_toggled (v : WindowView) : v.toggled.Sound := by
  unfold WindowView.toggled
  split
  · exact ⟨rfl, fun hv => (by cases hv)⟩
  · exact ⟨rfl, fun hv => (by cases hv)⟩

theorem Consistent.toggled (h : v.Consistent) (hs : v.Sound) : v.toggled.Consistent := by
  unfold WindowView.toggled
  split
  · rename_i hactive
    -- the window is shown, so its entry in the menu is there
    have hmenu : v.menuItemVisible = true := h.menuItem (.inl (hs.active.symm.trans hactive))
    exact Consistent.closed (v := { v with opened := true })
      ⟨h.stream, h.toolbarItem, fun _ => hmenu⟩
  · exact ⟨fun hv => (by cases hv), rfl, fun _ => rfl⟩

theorem Sound.stream (h : v.Sound) (hv : v.visible = true) (streaming : Bool) :
    Sound { v with streaming } := by
  refine ⟨h.active, fun hopened => ?_⟩
  rw [h.unopened hopened] at hv
  cases hv

theorem Consistent.shown (h : v.Consistent) (hv : v.visible = true) (streaming : Bool) :
    Consistent { v with streaming } := by
  refine ⟨fun hhidden => ?_, ?_, h.menuItem⟩
  · cases hv.symm.trans hhidden
  · rw [h.toolbarItem, hv, Bool.true_or, Bool.true_or]

theorem Sound.keep (h : v.Sound) (keepWindowActive : Bool) : Sound { v with keepWindowActive } := by
  refine ⟨h.active, fun hopened => ?_⟩
  rw [h.unopened hopened]

/-- **A preference keeps the view consistent exactly if it suits the window.** -/
theorem consistent_keep_iff (h : v.Consistent) (hs : v.Sound) (keepWindowActive : Bool) :
    Consistent { v with keepWindowActive } ↔ v.Suits keepWindowActive := by
  constructor
  · intro h' hopened hhidden
    exact ⟨h'.stream hhidden, fun hkeep => h'.menuItem (.inr ⟨hopened, hkeep⟩)⟩
  · intro hsuits
    refine ⟨fun hhidden hkeep => ?_, h.toolbarItem, ?_⟩
    · cases hopened : v.opened with
      | true => exact (hsuits hopened hhidden).1 hkeep
      | false => exact congrArg WindowView.streaming (hs.unopened hopened)
    · rintro (hv | ⟨hopened, hkeep⟩)
      · exact h.menuItem (.inl hv)
      · cases hv : v.visible with
        | true => exact h.menuItem (.inl hv)
        | false => exact (hsuits hopened hv).2 hkeep

end WindowView

variable {D : Type} [Double D] {toStdString : WxString → StdString}

/-! ### The dialog -/

namespace MainGui

variable {g g' : MainGui D} {e : PluginEvent D}

/-- The events that leave the view alone. -/
def passive : PluginEvent D → Bool
  | .notify | .skipNotify | .positionFix _ _ | .cursor _ _ | .contextMenu _ | .place _ _ _ _ => true
  | _ => false

/-- A stream is started and stopped by the buttons, and by hiding the window. -/
theorem LinkMove.streaming_of_passive {l : Link D} (hmove : LinkMove toStdString g e l)
    (hp : passive e = true) : l.client.streaming = g.client.streaming := by
  cases hmove with
  | start | stop | resize | apply | refresh => cases hp
  | hide he hkeep => rcases he with rfl | rfl <;> cases hp
  | idle he hother => rfl
  | restart he hsize => exact Link.restart_streaming
  | restartTwice he hsize hsize' => exact Link.restart_streaming.trans Link.restart_streaming

/-- What the handlers of the dialog leave alone: whether the window is shown, and whether its
stream is to be kept. -/
def frame (g : MainGui D) : Bool × Bool := (g.visible, g.settings.keepWindowActive)

theorem frame_restart : g.restartAisStream.frame = g.frame :=
  restartAisStream_frame (P := fun g' => g'.frame = g.frame) fun _ _ => rfl

theorem frame_stop : g.stopAisStream.frame = g.frame :=
  stopAisStream_frame (P := fun g' => g'.frame = g.frame) fun _ _ => rfl

theorem frame_onValueChanged (row column : Nat) :
    (g.onValueChanged row column).frame = g.frame :=
  onValueChanged_frame (P := fun g' => g'.frame = g.frame) fun _ _ _ _ _ _ _ => rfl

theorem frame_updateBoatPosition (lat lon : D) : (g.updateBoatPosition lat lon).frame = g.frame :=
  updateBoatPosition_frame (P := fun g' => g'.frame = g.frame) (fun _ => rfl)
    fun _ _ _ h => frame_restart.trans h

theorem frame_uiStep {e : UiEvent} (hu : Plugin.uiStep toStdString e g = some g') :
    g'.frame = g.frame := by
  cases Plugin.uiMove_of_uiStep hu with
  | startStream => exact startAisStream_frame (P := fun g' => g'.frame = g.frame) fun _ _ => rfl
  | stopStream => exact frame_stop
  | scroll => rfl
  | thumbRelease | clearMmsi | vesselFollowing => exact frame_restart
  | followBoat checked =>
      unfold onFollowBoatMode
      split
      · exact frame_restart
      · rfl
  | addMmsi mmsi comment _ =>
      unfold onAddMmsi
      split
      · rfl
      · exact frame_restart
  | deleteMmsi row =>
      unfold onDeleteMmsi
      split
      · rfl
      · split
        · rfl
        · exact frame_restart
  | editCell row column text _ _ => exact frame_onValueChanged row column

theorem frame_of_passive (hmove : Plugin.GuiMove toStdString g e g') (hp : passive e = true) :
    g'.frame = g.frame := by
  cases hmove with
  | «show» | hide | close | ui _ | preferencesApply | preferencesOk => cases hp
  | notify hn => exact frame_onValueChanged (g := g.clearNotice) _ _
  | skipNotify | cursor | place | noAction => rfl
  | positionFix => exact frame_updateBoatPosition _ _
  | updateToCursor | updateToBoat => exact frame_restart

/-- A token stored does not end a stream. -/
theorem streaming_refreshTokenState (hconv : ∀ w, hasToken w = true → toStdString w ≠ [])
    (g : MainGui D) : (g.refreshTokenState toStdString).client.streaming = g.client.streaming := by
  have hsize := link_updateSearchBoxSize (tokenSound_setClientToken hconv g) (ofInt g.slider.value)
  have hstreaming := congrArg (fun l : Link D => l.client.streaming) hsize
  simp only [Link.restart_streaming, link_setClientToken] at hstreaming
  exact hstreaming

theorem frame_refreshTokenState : (g.refreshTokenState toStdString).frame = g.frame := frame_restart

end MainGui

/-! ### The plugin -/

namespace Plugin

open MainGui

variable {s s' : Plugin D} {g : MainGui D} {e : PluginEvent D}

/-- The plugin as the user sees it. -/
def view (s : Plugin D) : WindowView where
  opened := s.dialog.isSome
  visible := s.dialog.any (·.visible)
  streaming := s.isStreamingData
  keepWindowActive := s.settings.keepWindowActive
  isToolbarActive := s.isToolbarActive
  toolbarItemState := s.toolbarItemState
  menuItemVisible := s.menuItemVisible

theorem view_of_gui (hg : s.gui? = some g) : s.view =
    { s.view with opened := true, visible := g.visible, streaming := g.client.streaming } := by
  obtain ⟨d, hd, rfl⟩ := Option.map_eq_some_iff.mp hg
  rw [view, isStreamingData, hd]
  rfl

theorem view_withGui (s : Plugin D) (g : MainGui D) : (s.withGui g).view =
    { s.view with
      opened := true
      visible := g.visible
      streaming := g.client.streaming
      keepWindowActive := g.settings.keepWindowActive } := rfl

theorem onGui_of_gui (f : MainGui D → MainGui D) (hg : s.gui? = some g) :
    s.onGui f = s.withGui (f g) := by
  unfold onGui
  rw [hg]
  rfl

theorem onGui_of_none (f : MainGui D → MainGui D) (hg : s.gui? = none) : s.onGui f = s := by
  unfold onGui
  rw [hg]

/-- A handler that leaves the stream and the window alone leaves the view alone. -/
theorem view_withGui_of_frame {g' : MainGui D} (hg : s.gui? = some g) (hframe : g'.frame = g.frame)
    (hstreaming : g'.client.streaming = g.client.streaming) : (s.withGui g').view = s.view := by
  have hvisible : g'.visible = g.visible := congrArg Prod.fst hframe
  have hkeep : g'.settings.keepWindowActive = g.settings.keepWindowActive := congrArg Prod.snd hframe
  rw [view_withGui, hvisible, hkeep, hstreaming, settings_of_gui hg, view_of_gui hg]
  rfl

theorem view_onGui_of_frame {f : MainGui D → MainGui D}
    (hf : ∀ g, s.gui? = some g → (f g).frame = g.frame ∧
      (f g).client.streaming = g.client.streaming) : (s.onGui f).view = s.view := by
  cases hg : s.gui? with
  | none => rw [onGui_of_none f hg]
  | some g =>
      rw [onGui_of_gui f hg]
      exact view_withGui_of_frame hg (hf g hg).1 (hf g hg).2

/-! ### The two buttons -/

theorem view_setVisible (visible : Bool) (s : Plugin D) :
    (s.onGui (.setVisible visible)).view = { s.view with visible := s.view.opened && visible } := by
  cases hg : s.gui? with
  | none =>
      have hd : s.dialog = none := Option.map_eq_none_iff.mp hg
      rw [onGui_of_none _ hg, view, isStreamingData, hd]
      rfl
  | some g =>
      rw [onGui_of_gui _ hg, view_withGui, view_of_gui hg, Bool.true_and,
        show (g.setVisible visible).settings = g.settings from rfl, settings_of_gui hg]
      rfl

theorem streaming_stopAisStream (g : MainGui D) : g.stopAisStream.client.streaming = false :=
  congrArg (fun l : Link D => l.client.streaming) (link_stopAisStream g)

theorem view_stopUnlessKept (s : Plugin D) : s.stopUnlessKept.view = s.view.stopUnlessKept := by
  unfold stopUnlessKept WindowView.stopUnlessKept
  have hview : s.view.keepWindowActive = s.settings.keepWindowActive := rfl
  by_cases hkeep : s.settings.keepWindowActive = true
  · have hand (b : Bool) : (b && s.view.keepWindowActive) = b := by
      rw [hview, hkeep, Bool.and_true]
    rw [if_pos hkeep, hand, hand]
  · have hand (b : Bool) : (b && s.view.keepWindowActive) = false := by
      rw [hview, Bool.eq_false_iff.mpr hkeep, Bool.and_false]
    rw [if_neg hkeep, hand, hand]
    cases hg : s.gui? with
    | none =>
        have hd : s.dialog = none := Option.map_eq_none_iff.mp hg
        rw [onGui_of_none _ hg]
        simp only [view, isStreamingData, hd]
        rfl
    | some g =>
        rw [onGui_of_gui _ hg]
        show { (s.withGui g.stopAisStream).view with menuItemVisible := false } = _
        rw [view_withGui, view_of_gui hg, streaming_stopAisStream, stopAisStream_settings,
          settings_of_gui hg, show g.stopAisStream.visible = g.visible from
            congrArg Prod.fst frame_stop]
        rfl

/-- **The close button hides the window.** -/
theorem view_onGuiClosed (s : Plugin D) : s.onGuiClosed.view = s.view.closed := by
  unfold onGuiClosed
  rw [view_setVisible, view_stopUnlessKept, Bool.and_false]
  rfl

theorem view_createGui (s : Plugin D) : s.createGui.view = { s.view with opened := true } := by
  unfold createGui
  split
  · rename_i hsome
    rw [view, hsome]
  · rename_i hnone
    have hd : s.dialog = none := Option.not_isSome_iff_eq_none.mp hnone
    have hhidden : (MainGui.create s.settings).visible = false ∧
        (MainGui.create s.settings).client.streaming = false := ⟨rfl, rfl⟩
    simp only [view, isStreamingData, hd, Option.any_some, Option.any_none]
    rw [hhidden.1, hhidden.2]
    rfl

theorem view_toggleGui_show (h : s.isToolbarActive = true) :
    s.toggleGui.view =
      { s.view with visible := s.view.opened, toolbarItemState := true, menuItemVisible := true } := by
  rw [toggleGui, if_pos h, view_setVisible, Bool.and_true]
  rfl

theorem view_toggleGui_hide (h : s.isToolbarActive = false) : s.toggleGui.view = s.view.closed := by
  have hhidden : (s.onGui (.setVisible false)).view = { s.view with visible := false } := by
    rw [view_setVisible, Bool.and_false]
  have hitem : ({ s.onGui (.setVisible false) with
      toolbarItemState := (s.onGui (.setVisible false)).isStreamingData &&
        (s.onGui (.setVisible false)).settings.keepWindowActive } : Plugin D).view =
      { (s.onGui (.setVisible false)).view with
        toolbarItemState := (s.onGui (.setVisible false)).view.streaming &&
          (s.onGui (.setVisible false)).view.keepWindowActive } := rfl
  rw [toggleGui, if_neg (by simp [h]), view_stopUnlessKept, hitem, hhidden]
  exact congrArg (fun isToolbarActive => WindowView.stopUnlessKept { s.view with
    visible := false
    isToolbarActive
    toolbarItemState := s.view.streaming && s.view.keepWindowActive }) h

/-- **The toolbar button shows the window or hides it.** -/
theorem view_onToolbarToolCallback (s : Plugin D) :
    s.onToolbarToolCallback.view = s.view.toggled := by
  have hview : s.createGui.toggleActive.view =
      { s.view with opened := true, isToolbarActive := !s.view.isToolbarActive } := by
    show { s.createGui.view with isToolbarActive := !s.createGui.view.isToolbarActive } = _
    rw [view_createGui]
  have hactive : s.createGui.toggleActive.isToolbarActive = !s.view.isToolbarActive :=
    congrArg WindowView.isToolbarActive hview
  unfold onToolbarToolCallback WindowView.toggled
  by_cases h : s.view.isToolbarActive = true
  · rw [h, Bool.not_true] at hactive
    rw [if_pos h, view_toggleGui_hide hactive, hview]
    rfl
  · rw [Bool.eq_false_iff.mpr h, Bool.not_false] at hactive
    rw [if_neg h, view_toggleGui_show hactive, hview, Bool.eq_false_iff.mpr h]
    rfl

theorem view_deInit (h : s.view.Sound) :
    s.deInit.view = { keepWindowActive := s.settings.keepWindowActive } := by
  have hsaved : s.save.view = s.view := by
    show { s.view with keepWindowActive := s.settingsToSave.keepWindowActive } = _
    unfold settingsToSave
    split <;> rfl
  have hkeep : s.save.deleteGui.settings.keepWindowActive = s.settings.keepWindowActive := by
    rw [(kept_deleteGui s.save).settings]
    exact congrArg WindowView.keepWindowActive hsaved
  show s.save.deleteGui.view = _
  rw [← hkeep]
  unfold deleteGui
  split
  · rfl
  · rename_i hnone
    rw [hsaved]
    refine (h.unopened (Bool.eq_false_iff.mpr hnone)).trans ?_
    rw [← hsaved]
    rfl

/-! ### Every step -/

end Plugin

/-- What an event makes of the view. -/
inductive WindowMove (v : WindowView) : PluginEvent D → WindowView → Prop
  | toolbar : WindowMove v .toolbar v.toggled
  | close : WindowMove v .close v.closed
  | session {e : PluginEvent D} (keepWindowActive : Bool) (he : e = .init ∨ e = .deInit) :
      WindowMove v e { keepWindowActive }
  | ui {e : UiEvent} (hv : v.visible = true) (streaming : Bool) :
      WindowMove v (.ui e) { v with streaming }
  | preferences {e : PluginEvent D} {p : Preferences}
      (he : e = .preferencesApply p ∨ e = .preferencesOk p) :
      WindowMove v e { v with keepWindowActive := p.keepWindowActive }
  | idle {e : PluginEvent D} (he : MainGui.passive e = true) : WindowMove v e v

instance (keepWindowActive : Bool) (v : WindowView) : Decidable (v.Suits keepWindowActive) :=
  inferInstanceAs (Decidable (_ → _ → _ ∧ _))

/-- The event is no change of the preferences that does not suit the window. -/
def WindowView.keepsConsistent (v : WindowView) (e : PluginEvent D) : Prop :=
  match e with
  | .preferencesApply p => v.Suits p.keepWindowActive
  | .preferencesOk p => v.Suits p.keepWindowActive
  | _ => True

instance (v : WindowView) : (e : PluginEvent D) → Decidable (v.keepsConsistent e)
  | .preferencesApply p => inferInstanceAs (Decidable (v.Suits p.keepWindowActive))
  | .preferencesOk p => inferInstanceAs (Decidable (v.Suits p.keepWindowActive))
  | .init | .deInit | .toolbar | .close | .ui _ | .notify | .skipNotify | .positionFix _ _
  | .cursor _ _ | .contextMenu _ | .place _ _ _ _ => isTrue trivial

section

variable {v v' : WindowView} {e : PluginEvent D}

omit [Double D] in
theorem WindowMove.sound (hmove : WindowMove v e v') (h : v.Sound) : v'.Sound := by
  cases hmove with
  | toolbar => exact WindowView.sound_toggled v
  | close => exact h.closed
  | session keepWindowActive _ => exact WindowView.sound_session keepWindowActive
  | ui hv streaming => exact h.stream hv streaming
  | preferences _ => exact h.keep _
  | idle _ => exact h

omit [Double D] in
/-- **An event keeps the view consistent exactly if it keeps to the condition.** -/
theorem WindowMove.consistent_iff (hmove : WindowMove v e v') (h : v.Consistent) (hs : v.Sound) :
    v'.Consistent ↔ v.keepsConsistent e := by
  cases hmove with
  | toolbar => exact ⟨fun _ => trivial, fun _ => h.toggled hs⟩
  | close => exact ⟨fun _ => trivial, fun _ => h.closed⟩
  | session keepWindowActive he =>
      refine ⟨fun _ => ?_, fun _ => WindowView.consistent_session keepWindowActive⟩
      rcases he with rfl | rfl <;> trivial
  | ui hv streaming => exact ⟨fun _ => trivial, fun _ => h.shown hv streaming⟩
  | @preferences _ p he =>
      rw [WindowView.consistent_keep_iff h hs]
      rcases he with rfl | rfl <;> rfl
  | idle he =>
      cases e with
      | preferencesApply | preferencesOk => cases he
      | _ => exact ⟨fun _ => trivial, fun _ => h⟩

end

namespace Plugin

open MainGui

variable {s s' : Plugin D} {g : MainGui D} {e : PluginEvent D}

/-- The controls of the dialog can be used while its window is shown. -/
theorem visible_of_step {e : UiEvent} (hstep : (system toStdString).step s (.ui e) = some s') :
    s.view.visible = true := by
  simp only [system] at hstep
  split at hstep
  · cases hstep
  · split at hstep
    · cases hstep
    · simp only [handle, ui] at hstep
      split at hstep
      · cases hstep
      · rename_i g hg
        split at hstep
        · rename_i hvisible
          rw [view_of_gui hg]
          exact hvisible
        · cases hstep

/-- **Every step of the plugin, as the user sees it.** -/
theorem windowMove_of_step (hconv : ∀ w, hasToken w = true → toStdString w ≠ []) (h : s.Wired)
    (hs : s.view.Sound) (hstep : (system toStdString).step s e = some s') :
    WindowMove s.view e s'.view := by
  -- a passive event that is passed on to the dialog
  have hidle : passive e = true → ∀ g g', s.gui? = some g → GuiMove toStdString g e g' →
      g'.frame = g.frame ∧ g'.client.streaming = g.client.streaming := by
    intro hp g g' hg hmove
    have hlink := linkMove_of_guiMove hconv (h.vessels.gui g hg) (h.current g hg).token hmove
    exact ⟨frame_of_passive hmove hp, hlink.streaming_of_passive hp⟩
  have hmove := move_of_step hstep
  cases hmove with
  | init _ => exact .session _ (.inl rfl)
  | deInit =>
      rw [view_deInit hs]
      exact .session _ (.inr rfl)
  | toolbar _ =>
      rw [view_onToolbarToolCallback]
      exact .toolbar
  | close =>
      rw [view_onGuiClosed]
      exact .close
  | @ui e g g' hg hu =>
      have hframe := frame_uiStep hu
      have hvisible : g'.visible = g.visible := congrArg Prod.fst hframe
      have hkeep : g'.settings.keepWindowActive = s.settings.keepWindowActive :=
        (congrArg Prod.snd hframe).trans (congrArg Settings.keepWindowActive (settings_of_gui hg))
      have hview : (s.withGui g').view = { s.view with streaming := g'.client.streaming } := by
        rw [view_withGui, hvisible, hkeep, view_of_gui hg]
        rfl
      rw [hview]
      exact .ui (visible_of_step hstep) _
  | notify hg hn =>
      have hsame := hidle rfl _ _ hg (.notify hn)
      rw [view_withGui_of_frame hg hsame.1 hsame.2]
      exact .idle rfl
  | skipNotify hg =>
      have hsame := hidle rfl _ _ hg .skipNotify
      rw [view_withGui_of_frame hg hsame.1 hsame.2]
      exact .idle rfl
  | @positionFix lat lon =>
      rw [view_onGui_of_frame (s := { s with boatLat := lat, boatLon := lon })
        fun g hg => hidle rfl g _ hg .positionFix]
      exact .idle rfl
  | cursor => exact .idle rfl
  | @contextMenu action =>
      cases action with
      | none => exact .idle rfl
      | updateToCursor =>
          rw [onContextMenuItemCallback,
            view_onGui_of_frame fun g hg => hidle rfl g _ hg .updateToCursor]
          exact .idle rfl
      | updateToBoat =>
          rw [onContextMenuItemCallback,
            view_onGui_of_frame fun g hg => hidle rfl g _ hg .updateToBoat]
          exact .idle rfl
  | @preferencesApply p => exact .preferences (.inl rfl)
  | @preferencesOk p =>
      have hsaved : (s.updateSettings p).save.view = (s.updateSettings p).view := by
        show { (s.updateSettings p).view with
          keepWindowActive := (s.updateSettings p).settingsToSave.keepWindowActive } = _
        unfold settingsToSave
        split <;> rfl
      rw [view_onGui_of_frame fun g _ =>
        ⟨frame_refreshTokenState, streaming_refreshTokenState hconv g⟩, hsaved]
      exact .preferences (.inr rfl)
  | place => exact .idle rfl

/--
**Window, toolbar item, menu entry and stream agree exactly as long as no preference is
changed that does not suit a hidden window.**  In every state of a run a hidden window that
is not kept active has no stream, the toolbar item is highlighted if and only if the window
is shown or a stream runs, and a window that is shown, or opened and kept, has its menu entry;
all this if and only if no OK or Apply finds the window hidden and leaves it not kept with its
stream running, or kept without its entry.
-/
theorem window_consistent_iff (hconv : ∀ w, hasToken w = true → toStdString w ≠ [])
    (config : Config D) (events : List (PluginEvent D)) :
    (system toStdString).Always (fun s => s.view.Consistent) { config } events ↔
      (system toStdString).AllSteps (fun s e => s.view.keepsConsistent e) { config } events := by
  refine System.always_iff_allSteps (I := fun s : Plugin D => s.Wired ∧ s.view.Sound)
    (fun s e s' hi hstep => ?_) (fun s e s' hi h hstep => ?_) events { config }
    ⟨wired_start config, WindowView.sound_session _⟩ (WindowView.consistent_session _)
  · exact ⟨wired_step hconv hi.1 hstep, (windowMove_of_step hconv hi.1 hi.2 hstep).sound hi.2⟩
  · exact (windowMove_of_step hconv hi.1 hi.2 hstep).consistent_iff h hi.2

/-- The stream kept through a closed window, and the preference changed in an open one. -/
theorem window_consistent_iff_kept :
    (system byteString).Always (fun s => s.view.Consistent) ({} : Plugin ℝ)
      [.init, .toolbar, .ui .startStream, .close, .toolbar,
        .preferencesOk ⟨true, true, false, []⟩, .close, .deInit] := by
  refine (window_consistent_iff (fun _ => byteString_ne_nil) {} _).mpr ?_
  decide +kernel

/-- The preference changed while the window is closed: to no longer keep a stream that runs,
and to keep the window from now on. -/
theorem preference_changed_hidden :
    (∃ s : Plugin ℝ, (system byteString).run {}
      [.init, .toolbar, .ui .startStream, .close, .preferencesApply ⟨true, true, false, []⟩]
        = some s ∧ s.view.visible = false ∧ s.view.keepWindowActive = false ∧
      s.view.streaming = true) ∧
    ∃ s : Plugin ℝ, (system byteString).run {}
      [.init, .toolbar, .preferencesOk ⟨true, true, false, []⟩, .close,
        .preferencesOk ⟨true, true, true, []⟩] = some s ∧
      s.view.opened = true ∧ s.view.keepWindowActive = true ∧ s.view.menuItemVisible = false := by
  constructor
  · have h : ((system byteString).run ({} : Plugin ℝ)
        [.init, .toolbar, .ui .startStream, .close,
          .preferencesApply ⟨true, true, false, []⟩]).map (fun s => (s.view.visible,
        s.view.keepWindowActive, s.view.streaming)) = some (false, false, true) := by
      decide +kernel
    obtain ⟨s, hrun, hs⟩ := Option.map_eq_some_iff.mp h
    simp only [Prod.mk.injEq] at hs
    exact ⟨s, hrun, hs⟩
  · have h : ((system byteString).run ({} : Plugin ℝ)
        [.init, .toolbar, .preferencesOk ⟨true, true, false, []⟩, .close,
          .preferencesOk ⟨true, true, true, []⟩]).map (fun s => (s.view.opened,
        s.view.keepWindowActive, s.view.menuItemVisible)) = some (true, true, false) := by
      decide +kernel
    obtain ⟨s, hrun, hs⟩ := Option.map_eq_some_iff.mp h
    simp only [Prod.mk.injEq] at hs
    exact ⟨s, hrun, hs⟩

end Plugin

end AisLive
