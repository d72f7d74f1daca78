/-
What the stream is made of.

`Link` is the part of the dialog that decides what is subscribed to: the client, the
arguments it would be given, the stored token and the messages built so far.  Seen through
it a handler does one of very few things, whichever widget it belongs to, and `LinkMove`
lists them with the events that cause each.

The operations of a `Link` never refuse.  `TokenSound` is why the dialog's do not either:
the client is never told to use a token it has not got.
-/
import AisLive.Plugin.Vessels

namespace AisLive

open Double

/-- The part of the dialog that decides what is subscribed to. -/
structure Link (D : Type) where
  client : StreamClient D
  args : StreamArgs D
  openWatersToken : WxString
  builds : List (Build D)

namespace Link

variable {D : Type} [Double D]

/-- The client has a token if it is to use one. -/
def TokenSound (l : Link D) : Prop := l.client.useToken = true → l.client.token ≠ []

/-- The message the client would build. -/
def build (l : Link D) : Build D :=
  ⟨l.client.subscription l.args, l.client.useToken, l.client.token, l.openWatersToken⟩

/-- The stream, subscribed with the arguments. -/
def subscribe (l : Link D) : Link D :=
  { l with client := l.client.subscribe l.build.subscription, builds := l.builds ++ [l.build] }

def stop (l : Link D) : Link D := { l with client := l.client.stop }

/-- New arguments; a running stream is subscribed again. -/
def restart (args : StreamArgs D) (l : Link D) : Link D :=
  if l.client.streaming then { l with args }.subscribe else { l with args }

/-- Another token is stored. -/
def store (openWatersToken : WxString) (l : Link D) : Link D := { l with openWatersToken }

/-- The client is told the stored token. -/
def tell (toStdString : WxString → StdString) (l : Link D) : Link D :=
  let client := l.client.setToken (toStdString l.openWatersToken)
  { l with client := client.setTokenEnabled (hasToken l.openWatersToken) }

def start (toStdString : WxString → StdString) (l : Link D) : Link D :=
  if l.client.streaming then l else (l.tell toStdString).subscribe

section

variable {l : Link D} {args : StreamArgs D}

theorem restart_of_streaming (h : l.client.streaming = true) :
    l.restart args = Link.subscribe { l with args } := if_pos h

theorem restart_of_not_streaming (h : l.client.streaming = false) :
    l.restart args = { l with args } := if_neg (by simp [h])

@[simp] theorem restart_args : (l.restart args).args = args := by
  unfold restart
  split <;> rfl

@[simp] theorem restart_streaming : (l.restart args).client.streaming = l.client.streaming := by
  unfold restart
  split
  · rename_i h
    exact h.symm
  · rfl

@[simp] theorem restart_useToken : (l.restart args).client.useToken = l.client.useToken := by
  unfold restart
  split <;> rfl

@[simp] theorem restart_token : (l.restart args).client.token = l.client.token := by
  unfold restart
  split <;> rfl

@[simp] theorem restart_openWatersToken :
    (l.restart args).openWatersToken = l.openWatersToken := by
  unfold restart
  split <;> rfl

theorem TokenSound.restart (h : l.TokenSound) : (l.restart args).TokenSound := by
  unfold TokenSound
  rw [restart_useToken, restart_token]
  exact h

end

end Link

namespace MainGui

variable {D : Type} [Double D] {toStdString : WxString → StdString} {g : MainGui D}

/-- The link of the dialog. -/
def link (g : MainGui D) : Link D := ⟨g.client, g.streamArgs, g.settings.openWatersToken, g.builds⟩

/-! ### The calls of the client, on the link -/

/-- A call that subscribes adds its message to the record. -/
theorem link_callClient_subscribe {f : StreamClient D → StreamClient D}
    (hf : f g.client = g.client.subscribe (g.client.subscription g.streamArgs)) :
    (g.callClient f).link = g.link.subscribe := by
  have hdrop : (g.client.subscriptions ++ [g.client.subscription g.streamArgs]).drop
      g.client.subscriptions.length = [g.client.subscription g.streamArgs] := List.drop_left
  simp only [link, callClient, hf, Link.subscribe, StreamClient.subscribe, hdrop]
  rfl

/-- A call that does not subscribe adds none. -/
theorem link_callClient {f : StreamClient D → StreamClient D}
    (hf : (f g.client).subscriptions = g.client.subscriptions) :
    (g.callClient f).link = { g.link with client := f g.client } := by
  simp only [link, callClient, hf, List.drop_length, List.map_nil, List.append_nil]
  rfl

theorem link_stopAisStream (g : MainGui D) : g.stopAisStream.link = g.link.stop := by
  unfold stopAisStream
  split
  · exact link_callClient rfl
  · rename_i hidle
    have hstopped : g.client.stop = g.client := by
      rw [StreamClient.stop, ← Bool.eq_false_iff.mpr hidle]
    show g.link = { g.link with client := g.client.stop }
    rw [hstopped]
    rfl

theorem link_restartAisStream (h : g.link.TokenSound) :
    g.restartAisStream.link = g.link.restart g.streamArgs := by
  unfold restartAisStream Link.restart
  by_cases hs : g.client.streaming
  · rw [if_pos hs, if_pos (show g.link.client.streaming = true from hs)]
    refine link_callClient_subscribe ?_
    rw [StreamClient.restart_of_streaming hs]
    exact StreamClient.start_accepted (c := g.client.stop) rfl h
  · rw [if_neg hs, if_neg (show ¬g.link.client.streaming = true from hs)]
    rfl

theorem link_setClientToken (g : MainGui D) :
    (g.setClientToken toStdString).link = g.link.tell toStdString := by
  unfold setClientToken
  exact link_callClient rfl

theorem tokenSound_setClientToken (hconv : ∀ w, hasToken w = true → toStdString w ≠ [])
    (g : MainGui D) : (g.setClientToken toStdString).link.TokenSound := fun hu => hconv _ hu

theorem link_startAisStream (hconv : ∀ w, hasToken w = true → toStdString w ≠ [])
    (g : MainGui D) : (g.startAisStream toStdString).link = g.link.start toStdString := by
  unfold startAisStream Link.start
  by_cases hs : g.client.streaming
  · rw [if_pos hs, if_pos (show g.link.client.streaming = true from hs)]
  · rw [if_neg hs, if_neg (show ¬g.link.client.streaming = true from hs), ← link_setClientToken]
    refine link_callClient_subscribe ?_
    exact StreamClient.start_accepted (Bool.eq_false_iff.mpr hs)
      (tokenSound_setClientToken hconv g)

/-! ### Which events subscribe again -/

/-- The edit of the cell is one that is written to the list. -/
def writesMmsi (row column : Nat) (g : MainGui D) : Bool :=
  row < g.rows.length && column == 0 &&
    match acceptedMmsi (g.cell row 0) with
    | none => false
    | some mmsi => !g.repeatsMmsi row mmsi

/-- The boat has left the search position, and is to be followed. -/
def follows (g : MainGui D) : Bool :=
  g.followBoatMode && !eq g.searchBoxSize (ofInt 0) && g.boatMovedFar

/-- The event calls `RestartAisStream`; preferences aside, which do so after the token. -/
def restarts (e : PluginEvent D) (g : MainGui D) : Bool :=
  match e with
  | .ui (.thumbRelease _) => true
  | .ui (.followBoat checked) => checked
  | .ui (.addMmsi mmsi _) => !g.settings.mmsiList.contains mmsi
  | .ui (.deleteMmsi row) => row < g.rows.length
  | .ui .clearMmsi => true
  | .ui (.editCell row column text) => (g.setCell row column text).writesMmsi row column
  | .ui (.vesselFollowing _) => true
  | .notify => g.notice.any fun (row, column) => g.writesMmsi row column
  | .positionFix lat lon =>
      !g.initialBoatPositionSet || follows { g with boatLatitude := lat, boatLongitude := lon }
  | .contextMenu action => action ≠ .none
  | _ => false

/-- The event starts a stream or stores a token, and nothing else. -/
def startsOrStores : PluginEvent D → Bool
  | .ui .startStream => true
  | .preferencesApply _ => true
  | _ => false

/-- What an event makes of the link. -/
inductive LinkMove (toStdString : WxString → StdString) (g : MainGui D) :
    PluginEvent D → Link D → Prop
  | start : LinkMove toStdString g (.ui .startStream) (g.link.start toStdString)
  | stop : LinkMove toStdString g (.ui .stopStream) g.link.stop
  | hide {e : PluginEvent D} (he : e = .toolbar ∨ e = .close)
      (hkeep : g.settings.keepWindowActive = false) : LinkMove toStdString g e g.link.stop
  | idle {e : PluginEvent D} (he : restarts e g = false) (hother : startsOrStores e = false) :
      LinkMove toStdString g e g.link
  | restart {e : PluginEvent D} {args : StreamArgs D} (he : restarts e g = true)
      (hsize : args.boxSizeDegrees = g.searchBoxSize) :
      LinkMove toStdString g e (g.link.restart args)
  | restartTwice {lat lon : D} {args args' : StreamArgs D}
      (he : restarts (.positionFix lat lon) g = true)
      (hsize : args.boxSizeDegrees = g.searchBoxSize)
      (hsize' : args'.boxSizeDegrees = g.searchBoxSize) :
      LinkMove toStdString g (.positionFix lat lon) ((g.link.restart args).restart args')
  | resize {value : Int} :
      LinkMove toStdString g (.ui (.thumbRelease value)) (g.link.restart
        { g.streamArgs with
          boxSizeDegrees :=
            clamp (ofInt value) (ofInt 0) (ofInt (maxSliderValue g.settings.openWatersToken)) })
  | apply {p : Preferences} :
      LinkMove toStdString g (.preferencesApply p) (g.link.store p.token)
  | refresh {p : Preferences} :
      LinkMove toStdString g (.preferencesOk p)
        (((g.link.store p.token).tell toStdString).restart
          { g.streamArgs with
            boxSizeDegrees :=
              clamp (ofInt g.slider.value) (ofInt 0) (ofInt (maxSliderValue p.token)) })

theorem LinkMove.of_eq {e : PluginEvent D} {l l' : Link D} (h : LinkMove toStdString g e l)
    (hl : l' = l) : LinkMove toStdString g e l' := hl ▸ h

variable {unique : Prop}

/-- A name is not part of what is subscribed to. -/
theorem link_onNameChanged (row : Nat) (g : MainGui D) : (g.onNameChanged row).link = g.link := by
  unfold onNameChanged
  extract_lets names
  split <;> rfl

theorem link_onValueChanged (h : g.Vessels unique) (ht : g.link.TokenSound) (row column : Nat) :
    (g.writesMmsi row column = false ∧ (g.onValueChanged row column).link = g.link) ∨
      (g.writesMmsi row column = true ∧ ∃ args, args.boxSizeDegrees = g.searchBoxSize ∧
        (g.onValueChanged row column).link = g.link.restart args) := by
  unfold onValueChanged writesMmsi
  by_cases hrow : g.rows.length ≤ row
  · rw [if_pos hrow, decide_eq_false (by omega)]
    exact .inl ⟨rfl, rfl⟩
  rw [if_neg hrow, decide_eq_true (by omega)]
  by_cases hcol : column = 0
  · rw [if_pos hcol, hcol, onMmsiChanged]
    have hrestore : (g.restoreMmsi row).link = g.link := by
      unfold restoreMmsi
      split <;> rfl
    cases hacc : acceptedMmsi (g.cell row 0) with
    | none => exact .inl ⟨rfl, hrestore⟩
    | some mmsi =>
        simp only
        by_cases hrep : g.repeatsMmsi row mmsi = true
        · rw [if_pos hrep, hrep]
          exact .inl ⟨rfl, hrestore⟩
        · have hlen := h.rows
          rw [if_neg hrep, if_neg (by omega), Bool.eq_false_iff.mpr hrep]
          exact .inr ⟨rfl, _, rfl, link_restartAisStream ht⟩
  · rw [if_neg hcol]
    refine .inl ⟨by simp [hcol], ?_⟩
    split
    · exact link_onNameChanged row g
    · rfl

theorem link_onAddMmsi (ht : g.link.TokenSound) (mmsi : Nat) (comment : WxString) :
    (g.settings.mmsiList.contains mmsi = true ∧ (g.onAddMmsi mmsi comment).link = g.link) ∨
      (g.settings.mmsiList.contains mmsi = false ∧ ∃ args, args.boxSizeDegrees = g.searchBoxSize ∧
        (g.onAddMmsi mmsi comment).link = g.link.restart args) := by
  unfold onAddMmsi
  by_cases hdup : g.settings.mmsiList.contains mmsi = true
  · rw [if_pos hdup]
    exact .inl ⟨hdup, rfl⟩
  · rw [if_neg hdup]
    exact .inr ⟨Bool.eq_false_iff.mpr hdup, _, rfl, link_restartAisStream ht⟩

theorem link_onDeleteMmsi (h : g.Vessels unique) (ht : g.link.TokenSound) (row : Nat) :
    (g.rows.length ≤ row ∧ (g.onDeleteMmsi row).link = g.link) ∨
      (row < g.rows.length ∧ ∃ args, args.boxSizeDegrees = g.searchBoxSize ∧
        (g.onDeleteMmsi row).link = g.link.restart args) := by
  unfold onDeleteMmsi
  by_cases hrow : g.rows.length ≤ row
  · rw [if_pos hrow]
    exact .inl ⟨hrow, rfl⟩
  · have hrows := h.rows
    have hnames := h.list.names
    rw [if_neg hrow, if_neg (by omega)]
    exact .inr ⟨by omega, _, rfl, link_restartAisStream ht⟩

theorem link_updateSearchPosition (ht : g.link.TokenSound) (lat lon : D) :
    (g.updateSearchPosition lat lon).link
      = g.link.restart { g.streamArgs with latitude := lat, longitude := lon } :=
  link_restartAisStream ht

theorem link_updateSearchBoxSize (ht : g.link.TokenSound) (degrees : D) :
    (g.updateSearchBoxSize degrees).link = g.link.restart
      { g.streamArgs with
        boxSizeDegrees :=
          clamp degrees (ofInt 0) (ofInt (maxSliderValue g.settings.openWatersToken)) } :=
  link_restartAisStream ht

theorem link_followBoat (ht : g.link.TokenSound) :
    (g.follows = false ∧ g.followBoat.link = g.link) ∨
      (g.follows = true ∧ ∃ args, args.boxSizeDegrees = g.searchBoxSize ∧
        g.followBoat.link = g.link.restart args) := by
  unfold followBoat follows
  cases g.followBoatMode with
  | false => exact .inl ⟨rfl, rfl⟩
  | true =>
      cases eq g.searchBoxSize (ofInt 0) with
      | true => exact .inl ⟨rfl, rfl⟩
      | false =>
          cases g.boatMovedFar with
          | false => exact .inl ⟨rfl, rfl⟩
          | true => exact .inr ⟨rfl, _, rfl, link_updateSearchPosition ht _ _⟩

theorem linkMove_positionFix (ht : g.link.TokenSound) (lat lon : D) :
    LinkMove toStdString g (.positionFix lat lon) (g.updateBoatPosition lat lon).link := by
  -- the dialog once it has the position of the boat
  let g' : MainGui D := { g with boatLatitude := lat, boatLongitude := lon }
  have hset : g.updateBoatPosition lat lon = (g'.setInitialPosition lat lon).followBoat := rfl
  have hrestarts : restarts (.positionFix lat lon) g
      = (!g.initialBoatPositionSet || g'.follows) := rfl
  rw [hset, setInitialPosition]
  by_cases hinit : g'.initialBoatPositionSet = true
  · rw [if_pos hinit]
    have hfollows : restarts (.positionFix lat lon) g = g'.follows := by
      rw [hrestarts, show g.initialBoatPositionSet = true from hinit]
      rfl
    rcases link_followBoat (g := g') ht with ⟨hno, hlink⟩ | ⟨hyes, args, hsize, hlink⟩
    · exact .of_eq (.idle (hfollows.trans hno) rfl) hlink
    · exact .of_eq (.restart (hfollows.trans hyes) hsize) hlink
  · rw [if_neg hinit]
    have hyes : restarts (.positionFix lat lon) g = true := by
      rw [hrestarts, show g.initialBoatPositionSet = false from Bool.eq_false_iff.mpr hinit]
      rfl
    have hfirst := link_updateSearchPosition
      (g := { g' with initialBoatPositionSet := true }) ht lat lon
    have hsize : (MainGui.updateSearchPosition lat lon
        { g' with initialBoatPositionSet := true }).searchBoxSize = g.searchBoxSize := by
      have hargs := congrArg Link.args hfirst
      rw [Link.restart_args] at hargs
      exact congrArg StreamArgs.boxSizeDegrees hargs
    rcases link_followBoat (g := MainGui.updateSearchPosition lat lon
      { g' with initialBoatPositionSet := true }) (hfirst ▸ ht.restart) with
      ⟨-, hlink⟩ | ⟨-, args', hsize', hlink⟩
    · exact .of_eq (.restart hyes rfl) (hlink.trans hfirst)
    · rw [hfirst] at hlink
      exact .of_eq (.restartTwice hyes rfl (hsize'.trans hsize)) hlink

theorem linkMove_ui (hconv : ∀ w, hasToken w = true → toStdString w ≠ []) (h : g.Vessels unique)
    (ht : g.link.TokenSound) {e : UiEvent} {g' : MainGui D}
    (hu : Plugin.uiStep toStdString e g = some g') : LinkMove toStdString g (.ui e) g'.link := by
  cases Plugin.uiMove_of_uiStep hu with
  | startStream =>
      rw [link_startAisStream hconv]
      exact .start
  | stopStream =>
      rw [link_stopAisStream]
      exact .stop
  | scroll kind value _ => exact .idle rfl rfl
  | thumbRelease value _ _ =>
      let g' : MainGui D := { g with slider := { g.slider with value }, dragging := false }
      exact .of_eq .resize (link_updateSearchBoxSize (g := g') ht _)
  | followBoat checked =>
      unfold onFollowBoatMode
      cases checked with
      | false => exact .idle rfl rfl
      | true =>
          let g' : MainGui D := { g with followBoatCheckBox := true, followBoatMode := true }
          exact .of_eq (.restart rfl rfl) (link_updateSearchPosition (g := g') ht _ _)
  | addMmsi mmsi comment _ =>
      rcases link_onAddMmsi ht mmsi comment with ⟨hdup, hlink⟩ | ⟨hnew, args, hsize, hlink⟩
      · exact .of_eq (.idle (by simp only [restarts, hdup, Bool.not_true]) rfl) hlink
      · exact .of_eq (.restart (by simp only [restarts, hnew, Bool.not_false]) hsize) hlink
  | deleteMmsi row =>
      rcases link_onDeleteMmsi h ht row with ⟨hno, hlink⟩ | ⟨hyes, args, hsize, hlink⟩
      · exact .of_eq (.idle (decide_eq_false (by omega)) rfl) hlink
      · exact .of_eq (.restart (decide_eq_true hyes) hsize) hlink
  | clearMmsi => exact .of_eq (.restart rfl rfl) (link_restartAisStream ht)
  | editCell row column text _ _ =>
      rcases link_onValueChanged (h.setCell row column text) ht row column with
        ⟨hno, hlink⟩ | ⟨hyes, args, hsize, hlink⟩
      · exact .of_eq (.idle hno rfl) hlink
      · exact .of_eq (.restart hyes hsize) hlink
  | vesselFollowing checked => exact .of_eq (.restart rfl rfl) (link_restartAisStream ht)

theorem link_hidden (g : MainGui D) :
    (g.settings.keepWindowActive = true ∧ (Plugin.hidden g).link = g.link) ∨
      (g.settings.keepWindowActive = false ∧ (Plugin.hidden g).link = g.link.stop) := by
  unfold Plugin.hidden Plugin.stoppedUnlessKept
  by_cases hkeep : g.settings.keepWindowActive = true
  · rw [if_pos hkeep]
    exact .inl ⟨hkeep, rfl⟩
  · rw [if_neg hkeep]
    exact .inr ⟨Bool.eq_false_iff.mpr hkeep, link_stopAisStream g⟩

theorem linkMove_hidden {e : PluginEvent D} (he : e = .toolbar ∨ e = .close) :
    LinkMove toStdString g e (Plugin.hidden g).link := by
  rcases link_hidden g with ⟨-, hlink⟩ | ⟨hkeep, hlink⟩
  · rcases he with rfl | rfl <;> exact .of_eq (.idle rfl rfl) hlink
  · exact .of_eq (.hide he hkeep) hlink

/-- **Every move of the dialog, on the link.** -/
theorem linkMove_of_guiMove (hconv : ∀ w, hasToken w = true → toStdString w ≠ [])
    (h : g.Vessels unique) (ht : g.link.TokenSound) {e : PluginEvent D} {g' : MainGui D}
    (hmove : Plugin.GuiMove toStdString g e g') : LinkMove toStdString g e g'.link := by
  cases hmove with
  | «show» => exact .idle rfl rfl
  | hide => exact linkMove_hidden (.inl rfl)
  | close => exact linkMove_hidden (.inr rfl)
  | ui hu => exact linkMove_ui hconv h ht hu
  | @notify row column hn =>
      have hrestarts : restarts (.notify : PluginEvent D) g = g.writesMmsi row column := by
        simp only [restarts, hn, Option.any_some]
      have hclear : g.clearNotice.Vessels unique := ⟨h.list, h.rows, h.sound⟩
      rcases link_onValueChanged hclear ht row column with
        ⟨hno, hlink⟩ | ⟨hyes, args, hsize, hlink⟩
      · exact .of_eq (.idle (hrestarts.trans hno) rfl) hlink
      · exact .of_eq (.restart (hrestarts.trans hyes) hsize) hlink
  | skipNotify => exact .idle rfl rfl
  | positionFix => exact linkMove_positionFix ht _ _
  | cursor | place | noAction => exact .idle rfl rfl
  | updateToCursor =>
      let g' : MainGui D := { g with followBoatMode := false, followBoatCheckBox := false }
      exact .of_eq (.restart rfl rfl) (link_updateSearchPosition (g := g') ht _ _)
  | updateToBoat =>
      let g' : MainGui D := { g with followBoatMode := true, followBoatCheckBox := true }
      exact .of_eq (.restart rfl rfl) (link_updateSearchPosition (g := g') ht _ _)
  | preferencesApply => exact .apply
  | @preferencesOk p window =>
      let g' : MainGui D :=
        { g with settings := (p.updated g.settings).placed window g.searchBoxSize }
      have htold : (g'.setClientToken toStdString).link = g'.link.tell toStdString :=
        link_setClientToken g'
      refine .of_eq .refresh ((link_updateSearchBoxSize
        (tokenSound_setClientToken hconv g') _).trans ?_)
      rw [htold]
      rfl

end MainGui

end AisLive
