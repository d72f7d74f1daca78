/-
The running subscription is never stale.

`Link.Current` says that a running stream was subscribed with exactly the arguments the
dialog would pass now.  Every move of the link keeps it: those that change an argument
subscribe again, and the others change none.

Nothing but the stop button, a window hidden without being kept active, and the end of
the session ends a stream.  `Restart` stops before it starts, so this rests on its
`Start` never being refused, which is `TokenSound`.
-/
import AisLive.Plugin.Link

namespace AisLive

open Double Transition

namespace Link

variable {D : Type} [Double D] {toStdString : WxString → StdString} {l : Link D}

/-- What is subscribed to is what would be now. -/
structure Current (l : Link D) : Prop where
  token : l.TokenSound
  /-- No `Start` has been refused. -/
  refused : l.client.refusals = 0
  /-- The live subscription is the one last built. -/
  live : l.client.streaming = true →
    l.client.subscriptions.getLast? = some l.build.subscription ∧
      ∃ openWatersToken, l.builds.getLast? = some { l.build with openWatersToken }

theorem Current.subscribe (ht : l.TokenSound) (hr : l.client.refusals = 0) :
    l.subscribe.Current :=
  ⟨ht, hr, fun _ => ⟨List.getLast?_concat, l.openWatersToken, List.getLast?_concat⟩⟩

/-- A restart makes any link current. -/
theorem Current.restart (ht : l.TokenSound) (hr : l.client.refusals = 0) (args : StreamArgs D) :
    (l.restart args).Current := by
  cases hs : l.client.streaming with
  | true =>
      rw [restart_of_streaming hs]
      exact Current.subscribe ht hr
  | false =>
      rw [restart_of_not_streaming hs]
      exact ⟨ht, hr, fun h => absurd (hs.symm.trans h) Bool.false_ne_true⟩

omit [Double D] in
theorem tokenSound_tell (hconv : ∀ w, hasToken w = true → toStdString w ≠ []) :
    (l.tell toStdString).TokenSound := fun hu => hconv _ hu

theorem Current.start (h : l.Current) (hconv : ∀ w, hasToken w = true → toStdString w ≠ []) :
    (l.start toStdString).Current := by
  unfold Link.start
  split
  · exact h
  · exact Current.subscribe (tokenSound_tell hconv) h.refused

theorem Current.stop (h : l.Current) : l.stop.Current := ⟨h.token, h.refused, nofun⟩

/-- The stored token is not among the arguments. -/
theorem Current.store (h : l.Current) (openWatersToken : WxString) :
    (l.store openWatersToken).Current := ⟨h.token, h.refused, h.live⟩

end Link

namespace MainGui

variable {D : Type} [Double D] {toStdString : WxString → StdString} {g : MainGui D}
variable {e : PluginEvent D} {l : Link D}

/-- **No event leaves the subscription stale.** -/
theorem LinkMove.current (hconv : ∀ w, hasToken w = true → toStdString w ≠ [])
    (h : g.link.Current) (hmove : LinkMove toStdString g e l) : l.Current := by
  cases hmove with
  | start => exact h.start hconv
  | stop => exact h.stop
  | hide he hkeep => exact h.stop
  | idle he hother => exact h
  | restart he hsize => exact .restart h.token h.refused _
  | restartTwice he hsize hsize' =>
      have hfirst := Link.Current.restart h.token h.refused
      exact .restart (hfirst _).token (hfirst _).refused _
  | resize => exact .restart h.token h.refused _
  | apply => exact h.store _
  | @refresh p =>
      exact .restart (l := (g.link.store p.token).tell toStdString) (Link.tokenSound_tell hconv)
        h.refused _

/-- **Only what stops a stream ends it.** -/
theorem LinkMove.streaming (hmove : LinkMove toStdString g e l)
    (hs : g.client.streaming = true) (hl : l.client.streaming = false) :
    e = .ui .stopStream ∨ (e = .toolbar ∨ e = .close) ∧ g.settings.keepWindowActive = false := by
  have hlink : g.link.client.streaming = true := hs
  cases hmove with
  | start =>
      rw [Link.start, if_pos hlink, hlink] at hl
      cases hl
  | stop => exact .inl rfl
  | hide he hkeep => exact .inr ⟨he, hkeep⟩
  | idle he hother =>
      rw [hlink] at hl
      cases hl
  | restart he hsize =>
      rw [Link.restart_streaming, hlink] at hl
      cases hl
  | restartTwice he hsize hsize' =>
      rw [Link.restart_streaming, Link.restart_streaming, hlink] at hl
      cases hl
  | resize =>
      rw [Link.restart_streaming, hlink] at hl
      cases hl
  | apply => cases hlink.symm.trans hl
  | refresh =>
      rw [Link.restart_streaming] at hl
      cases hlink.symm.trans hl

theorem current_create (settings : Settings D) : (create settings).link.Current :=
  ⟨nofun, rfl, nofun⟩

end MainGui

/-! ### The plugin -/

namespace Plugin

open MainGui

variable {D : Type} [Double D] {toStdString : WxString → StdString} {s s' : Plugin D}

/-- There is no dialog between sessions, and the one there is has its tables in step and a
current subscription. -/
structure Wired (s : Plugin D) : Prop where
  vessels : s.Vessels False
  current : ∀ g, s.gui? = some g → g.link.Current
  ended : s.initialized = false → s.gui? = none

/-- A step with its dialogs seen through their links. -/
theorem linkMove_of_step (hconv : ∀ w, hasToken w = true → toStdString w ≠ []) (h : s.Wired)
    {e : PluginEvent D} (hstep : (system toStdString).step s e = some s') {g' : MainGui D}
    (hg' : s'.gui? = some g') :
    ∃ g, (s.gui? = some g ∨ s.gui? = none ∧ e = .toolbar ∧ g = MainGui.create s.settings) ∧
      g.link.Current ∧ LinkMove toStdString g e g'.link := by
  obtain ⟨g, hg, hmove⟩ := guiMove_of_move (move_of_step hstep) hg'
  refine ⟨g, hg, ?_⟩
  rcases hg with hg | ⟨-, -, rfl⟩
  · have hcurrent := h.current g hg
    exact ⟨hcurrent, linkMove_of_guiMove hconv (h.vessels.gui g hg) hcurrent.token hmove⟩
  · have hcurrent := current_create s.settings
    exact ⟨hcurrent, linkMove_of_guiMove hconv (vessels_create h.vessels.list) hcurrent.token hmove⟩

theorem wired_step (hconv : ∀ w, hasToken w = true → toStdString w ≠ []) (h : s.Wired)
    {e : PluginEvent D} (hstep : (system toStdString).step s e = some s') : s'.Wired := by
  refine ⟨vessels_step h.vessels hstep, fun g' hg' => ?_, fun hended => ?_⟩
  · obtain ⟨g, -, hcurrent, hmove⟩ := linkMove_of_step hconv h hstep hg'
    exact hmove.current hconv hcurrent
  · rcases initialized_step (move_of_step hstep) with hsame | hnone
    · -- a dialog is created only in a session
      cases hg' : s'.gui? with
      | none => rfl
      | some g' =>
          have hnone := h.ended (hsame.symm.trans hended)
          obtain ⟨g, hg | ⟨-, rfl, -⟩, -⟩ := linkMove_of_step hconv h hstep hg'
          · rw [hnone] at hg
            cases hg
          · cases move_of_step hstep with
            | toolbar hinit => cases hinit.symm.trans (hsame.symm.trans hended)
    · exact hnone

theorem wired_start (config : Config D) : ({ config } : Plugin D).Wired :=
  ⟨⟨VesselList.nil, (fun _ hg => nomatch hg), False.elim⟩, (fun _ hg => nomatch hg), fun _ => rfl⟩

theorem wired_of_reach (hconv : ∀ w, hasToken w = true → toStdString w ≠ []) {config : Config D}
    (hreach : (system toStdString).Reach { config } s) : s.Wired :=
  hreach.invariant (wired_start config) fun _ _ _ h hstep => wired_step hconv h hstep

theorem isStreamingData_eq (s : Plugin D) :
    s.isStreamingData = s.gui?.any (·.client.streaming) := by
  unfold isStreamingData gui?
  cases s.dialog <;> rfl

/-- The events after which a stream may have ended: the stop button, the toolbar button and the
window's own when they hide a window that is not to stay active, and the end of the session. -/
def stopsStream (s : Plugin D) (e : PluginEvent D) : Prop :=
  e = .ui .stopStream ∨
    (e = .toolbar ∧ s.isToolbarActive = true ∨ e = .close) ∧ s.settings.keepWindowActive = false ∨
    e = .deInit

/-- Showing the window ends no stream. -/
theorem isStreamingData_show (hactive : s.isToolbarActive = false) (hs : s.isStreamingData = true) :
    s.onToolbarToolCallback.isStreamingData = true := by
  rw [isStreamingData_eq] at hs ⊢
  obtain ⟨g, hg, hstreaming⟩ := (Option.any_eq_true _ _).mp hs
  rw [gui_onToolbarToolCallback, hactive, createdGui, hg]
  exact hstreaming

/-- **Only what stops a stream ends it**, of the plugin. -/
theorem stops_of_step (hconv : ∀ w, hasToken w = true → toStdString w ≠ []) (h : s.Wired)
    {e : PluginEvent D} (hstep : (system toStdString).step s e = some s')
    (hs : s.isStreamingData = true) (hs' : s'.isStreamingData = false) : s.stopsStream e := by
  have hhides : e = .toolbar → s.isToolbarActive = true := by
    rintro rfl
    rw [← Bool.not_eq_false]
    intro hactive
    cases move_of_step hstep with
    | toolbar hinit =>
        rw [isStreamingData_show hactive hs] at hs'
        cases hs'
  rw [isStreamingData_eq] at hs hs'
  obtain ⟨g, hg, hstreaming⟩ := (Option.any_eq_true _ _).mp hs
  cases hg' : s'.gui? with
  | none =>
      rcases gui_none_step (move_of_step hstep) hg' with hnone | ⟨-, hended⟩ | rfl
      · rw [hg] at hnone
        cases hnone
      · rw [h.ended hended] at hg
        cases hg
      · exact .inr (.inr rfl)
  | some g' =>
      rw [hg', Option.any_some] at hs'
      obtain ⟨g₀, hg₀ | ⟨hnone, -⟩, -, hmove⟩ := linkMove_of_step hconv h hstep hg'
      · rw [hg] at hg₀
        cases hg₀
        rw [stopsStream, ← settings_of_gui hg]
        rcases hmove.streaming hstreaming hs' with hstop | ⟨he | he, hkeep⟩
        · exact .inl hstop
        · exact .inr (.inl ⟨.inl ⟨he, hhides he⟩, hkeep⟩)
        · exact .inr (.inl ⟨.inr he, hkeep⟩)
      · rw [hg] at hnone
        cases hnone

/--
**The running subscription is never stale.**  In every reachable state of a streaming
dialog the live subscription was built from the present search position, box size and
vessel settings; no start has been refused for want of a token; and a step that ends a
stream is one that stops it.
-/
theorem subscription_current (hconv : ∀ w, hasToken w = true → toStdString w ≠ [])
    {config : Config D} (hreach : (system toStdString).Reach { config } s) :
    (∀ dialog, s.dialog = some dialog → dialog.client.streaming = true →
      dialog.client.subscriptions.getLast? = some (dialog.client.subscription
        { latitude := dialog.searchLatitude
          longitude := dialog.searchLongitude
          boxSizeDegrees := dialog.searchBoxSize
          activateVesselsFollowing := s.settings.activateVesselsFollowing
          mmsiList := s.settings.mmsiList
          snapshot := dialog.getSnapshot })) ∧
      (∀ dialog, s.dialog = some dialog → dialog.client.refusals = 0) ∧
      ∀ e s', (system toStdString).step s e = some s' → s.isStreamingData = true →
        s'.isStreamingData = false → s.stopsStream e := by
  have h := wired_of_reach hconv hreach
  have hgui : ∀ dialog, s.dialog = some dialog →
      ({ dialog with settings := s.settings } : MainGui D).link.Current :=
    fun d hd => h.current _ (gui_of_dialog hd rfl)
  exact ⟨fun d hd hs => ((hgui d hd).live hs).1, fun d hd => (hgui d hd).refused,
    fun _ _ hstep => stops_of_step hconv h hstep⟩

/-- `ToStdString` of a text whose characters are single bytes. -/
def byteString (text : WxString) : StdString := text.map fun c => c.toNat.toUInt8

theorem byteString_ne_nil {w : WxString} (h : hasToken w = true) : byteString w ≠ [] := by
  rw [byteString, Ne, List.map_eq_nil_iff]
  exact ne_nil_of_hasToken h

/-- A stream started with a token, moved to the cursor, given a vessel and kept active. -/
theorem subscription_current_keptActive :
    ∃ s : Plugin ℝ, s.isStreamingData = true ∧
      (∀ dialog, s.dialog = some dialog → dialog.client.streaming = true →
        dialog.client.subscriptions.getLast? = some (dialog.client.subscription
          { latitude := dialog.searchLatitude
            longitude := dialog.searchLongitude
            boxSizeDegrees := dialog.searchBoxSize
            activateVesselsFollowing := s.settings.activateVesselsFollowing
            mmsiList := s.settings.mmsiList
            snapshot := dialog.getSnapshot })) ∧
        (∀ dialog, s.dialog = some dialog → dialog.client.refusals = 0) ∧
        ∀ e s', (system byteString).step s e = some s' → s.isStreamingData = true →
          s'.isStreamingData = false → s.stopsStream e := by
  have h : ((system byteString).run ({} : Plugin ℝ)
      [.init, .toolbar, .preferencesOk ⟨true, true, true, wx "key"⟩, .ui .startStream,
        .cursor 43 7, .contextMenu .updateToCursor, .ui (.addMmsi 227000000 (wx "Tug")),
        .toolbar]).map (·.isStreamingData) = some true := by
    decide +kernel
  obtain ⟨s, hrun, hs⟩ := Option.map_eq_some_iff.mp h
  exact ⟨s, hs, subscription_current (fun _ => byteString_ne_nil)
    (System.reach_of_run hrun)⟩

end Plugin

end AisLive
