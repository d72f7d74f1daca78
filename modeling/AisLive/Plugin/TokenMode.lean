/-
The token the client has and the token that is stored.

The cap on the box size is decided twice: by the dialog from the stored token, and by the
client from its own copy of it.  The copy is made by `StartAisStream` and by
`refreshTokenState`, so it is `Preferences::OnOK` that keeps the two together, and
`Preferences::OnApply` that can pull them apart.

`Link.Agreed` is what agreement means for the messages built so far and for the running
session.  `Link.settled` says, of an event about to happen, that it does not build a message
while the two are apart; `token_agreed_iff_settled` makes that exact.
-/
import AisLive.Plugin.Current

namespace AisLive

open Double Transition

variable {D : Type} [Double D] {toStdString : WxString → StdString}

/-- The message was built in the mode the stored token calls for, and not cut down. -/
structure Build.Agreed (toStdString : WxString → StdString) (b : Build D) : Prop where
  useToken : b.useToken = hasToken b.openWatersToken
  token : b.token = toStdString b.openWatersToken
  /-- The box sent has the side the dialog asked for. -/
  size : sentBoxSize b.useToken b.subscription.args.boxSizeDegrees
    = b.subscription.args.boxSizeDegrees
  /-- That side is within the bound the dialog sets. -/
  bound : lt (ofInt (maxSliderValue b.openWatersToken)) b.subscription.args.boxSizeDegrees = false

/-- The two ceilings are one. -/
theorem maxBoxSizeDegrees_hasToken (openWatersToken : WxString) :
    (maxBoxSizeDegrees (hasToken openWatersToken) : D)
      = ofInt (maxSliderValue openWatersToken) := by
  unfold maxBoxSizeDegrees maxSliderValue
  cases hasToken openWatersToken <;> rfl

/-- Within the bound nothing is cut down. -/
theorem sentBoxSize_of_bound {openWatersToken : WxString} {size : D}
    (h : lt (ofInt (maxSliderValue openWatersToken)) size = false) :
    sentBoxSize (hasToken openWatersToken) size = size := by
  rw [sentBoxSize, maxBoxSizeDegrees_hasToken]
  exact min_eq_left h

namespace Link

/-- Two stored tokens the client would be told alike. -/
def sameToken (toStdString : WxString → StdString) (w w' : WxString) : Prop :=
  hasToken w = hasToken w' ∧ toStdString w = toStdString w'

/-- The token that was stored when the running subscription was built. -/
def subscribedToken (l : Link D) : Option WxString :=
  if l.client.streaming then l.builds.getLast?.map (·.openWatersToken) else none

/-- Every message built agrees, and an authenticated session has its token still. -/
structure Agreed (toStdString : WxString → StdString) (l : Link D) : Prop where
  builds : ∀ b ∈ l.builds, b.Agreed toStdString
  session : l.client.streaming = true → ∀ sub ∈ l.client.subscriptions.getLast?,
    sub.authToken ≠ [] → hasToken l.openWatersToken = true

variable {l : Link D}

/-- The client has been told the stored token. -/
def Told (toStdString : WxString → StdString) (l : Link D) : Prop :=
  l.client.useToken = hasToken l.openWatersToken ∧ l.client.token = toStdString l.openWatersToken

theorem agreed_build_iff : l.build.Agreed toStdString ↔ l.Told toStdString ∧
    lt (ofInt (maxSliderValue l.openWatersToken)) l.args.boxSizeDegrees = false := by
  constructor
  · exact fun h => ⟨⟨h.useToken, h.token⟩, h.bound⟩
  · rintro ⟨⟨hu, ht⟩, hbound⟩
    refine ⟨hu, ht, ?_, hbound⟩
    rw [show l.build.useToken = _ from hu]
    exact sentBoxSize_of_bound hbound

theorem agreed_subscribe_iff (h : ∀ b ∈ l.builds, b.Agreed toStdString) :
    l.subscribe.Agreed toStdString ↔ l.Told toStdString ∧
      lt (ofInt (maxSliderValue l.openWatersToken)) l.args.boxSizeDegrees = false := by
  rw [← agreed_build_iff]
  constructor
  · exact fun hl => hl.builds _ (List.mem_append_right _ List.mem_cons_self)
  · intro hb
    refine ⟨fun b hmem => ?_, fun _ sub hsub hauth => ?_⟩
    · rcases List.mem_append.mp hmem with hmem | hmem
      · exact h b hmem
      · rwa [List.mem_singleton.mp hmem]
    · -- the session is authenticated only in the token mode
      have hlast : l.subscribe.client.subscriptions.getLast? = some l.build.subscription :=
        List.getLast?_concat
      rw [hlast] at hsub
      cases hsub
      by_cases hu : l.client.useToken = true
      · exact hb.useToken.symm.trans hu
      · exact absurd (if_neg hu) hauth

/-- What is known of a running session that agrees. -/
theorem Agreed.running (ha : l.Agreed toStdString) (hc : l.Current)
    (hs : l.client.streaming = true) :
    ∃ w, l.subscribedToken = some w ∧ l.client.useToken = hasToken w ∧
      l.client.token = toStdString w ∧ lt (ofInt (maxSliderValue w)) l.args.boxSizeDegrees = false := by
  obtain ⟨-, w, hlast⟩ := hc.live hs
  have hb := ha.builds _ (List.mem_of_getLast? hlast)
  refine ⟨w, ?_, hb.useToken, hb.token, hb.bound⟩
  rw [subscribedToken, if_pos hs, hlast]
  rfl

omit [Double D] in
theorem subscribedToken_of_not_streaming (hs : l.client.streaming = false) :
    l.subscribedToken = none := if_neg (by simp [hs])

theorem told_iff_sameToken (ha : l.Agreed toStdString) (hc : l.Current)
    (hs : l.client.streaming = true) :
    l.Told toStdString ↔ ∀ w ∈ l.subscribedToken, sameToken toStdString l.openWatersToken w := by
  obtain ⟨w, hw, hu, ht, -⟩ := ha.running hc hs
  rw [Told, hu, ht, hw]
  constructor
  · rintro ⟨hhas, hto⟩ w' hw'
    cases hw'
    exact ⟨hhas.symm, hto.symm⟩
  · intro h
    obtain ⟨hhas, hto⟩ := h w rfl
    exact ⟨hhas.symm, hto.symm⟩

/-- **A restart keeps the agreement exactly if the stored token is the one subscribed with.** -/
theorem agreed_restart_iff (ha : l.Agreed toStdString) (hc : l.Current) {args : StreamArgs D}
    (hsize : l.client.streaming = true → l.Told toStdString →
      lt (ofInt (maxSliderValue l.openWatersToken)) args.boxSizeDegrees = false) :
    (l.restart args).Agreed toStdString ↔
      ∀ w ∈ l.subscribedToken, sameToken toStdString l.openWatersToken w := by
  cases hs : l.client.streaming with
  | true =>
      rw [restart_of_streaming hs, ← told_iff_sameToken ha hc hs]
      refine (agreed_subscribe_iff (l := { l with args }) ha.builds).trans ?_
      exact ⟨fun h => h.1, fun h => ⟨h, hsize hs h⟩⟩
  | false =>
      rw [restart_of_not_streaming hs, subscribedToken_of_not_streaming hs]
      exact ⟨fun _ w hw => (by cases hw), fun _ => ⟨ha.builds, ha.session⟩⟩

/-- The size of a running session stays within the bound. -/
theorem Agreed.bound (ha : l.Agreed toStdString) (hc : l.Current)
    (hs : l.client.streaming = true) (ht : l.Told toStdString) :
    lt (ofInt (maxSliderValue l.openWatersToken)) l.args.boxSizeDegrees = false := by
  obtain ⟨w, -, hu, -, hbound⟩ := ha.running hc hs
  rwa [maxSliderValue, ← ht.1, hu]

theorem Agreed.stop (ha : l.Agreed toStdString) : l.stop.Agreed toStdString :=
  ⟨ha.builds, fun h => absurd h Bool.false_ne_true⟩

/-- Storing a token agrees exactly if an authenticated session keeps one. -/
theorem agreed_store_iff (ha : l.Agreed toStdString) (hc : l.Current)
    (openWatersToken : WxString) :
    (l.store openWatersToken).Agreed toStdString ↔
      ∀ w ∈ l.subscribedToken, hasToken w = true → hasToken openWatersToken = true := by
  cases hs : l.client.streaming with
  | false =>
      rw [subscribedToken_of_not_streaming hs]
      exact ⟨fun _ w hw => (by cases hw), fun _ =>
        ⟨ha.builds, fun h => (by cases hs.symm.trans h)⟩⟩
  | true =>
      obtain ⟨w, hw, hu, -⟩ := ha.running hc hs
      have hlast := (hc.live hs).1
      rw [hw]
      constructor
      · intro h w' hw' hhas
        cases hw'
        refine h.session hs _ hlast ?_
        rw [← hu] at hhas
        show (if l.client.useToken then l.client.token else []) ≠ []
        rw [if_pos hhas]
        exact hc.token hhas
      · intro h
        refine ⟨ha.builds, fun _ sub hsub hauth => h w rfl ?_⟩
        rw [show (l.store openWatersToken).client.subscriptions.getLast? = _ from hlast] at hsub
        cases hsub
        rw [← hu]
        by_contra hno
        exact hauth (if_neg hno)

end Link

namespace MainGui

variable {g : MainGui D}

/-- The event builds no message while the client's token and the stored one are apart, and
none that would be cut down. -/
def settled (toStdString : WxString → StdString) (e : PluginEvent D) (g : MainGui D) : Prop :=
  match e with
  | .ui .startStream => g.client.streaming = false →
      lt (ofInt (maxSliderValue g.settings.openWatersToken)) g.searchBoxSize = false
  | .preferencesApply p =>
      ∀ w ∈ g.link.subscribedToken, hasToken w = true → hasToken p.token = true
  | e => restarts e g = true →
      ∀ w ∈ g.link.subscribedToken, Link.sameToken toStdString g.settings.openWatersToken w

theorem settled_of_idle {e : PluginEvent D} (he : restarts e g = false)
    (hother : startsOrStores e = false) : g.settled toStdString e := by
  unfold settled
  split
  · cases hother
  · cases hother
  · exact fun h => by cases he.symm.trans h

theorem settled_iff_of_restarts {e : PluginEvent D} (he : restarts e g = true) :
    g.settled toStdString e ↔
      ∀ w ∈ g.link.subscribedToken, Link.sameToken toStdString g.settings.openWatersToken w := by
  unfold settled
  split
  · cases he
  · cases he
  · exact ⟨fun h => h he, fun h _ => h⟩

theorem subscribedToken_restart {l : Link D} {args : StreamArgs D} :
    ∀ w ∈ (l.restart args).subscribedToken, w = l.openWatersToken := by
  intro w hw
  cases hs : l.client.streaming with
  | true =>
      have hlast : (Link.subscribe { l with args }).subscribedToken = some l.openWatersToken :=
        congrArg (Option.map Build.openWatersToken) (List.getLast?_concat (l := l.builds))
      rw [Link.restart_of_streaming hs, hlast] at hw
      cases hw
      rfl
  | false =>
      rw [Link.subscribedToken_of_not_streaming (by rw [Link.restart_streaming, hs])] at hw
      cases hw

theorem agreed_restartTwice_iff {l : Link D} (ha : l.Agreed toStdString) (hc : l.Current)
    {args args' : StreamArgs D} (hsize : args.boxSizeDegrees = l.args.boxSizeDegrees)
    (hsize' : args'.boxSizeDegrees = l.args.boxSizeDegrees) :
    ((l.restart args).restart args').Agreed toStdString ↔
      ∀ w ∈ l.subscribedToken, Link.sameToken toStdString l.openWatersToken w := by
  have hfirst : (l.restart args).Agreed toStdString ↔
      ∀ w ∈ l.subscribedToken, Link.sameToken toStdString l.openWatersToken w :=
    Link.agreed_restart_iff ha hc fun hs ht => hsize ▸ ha.bound hc hs ht
  have hc' : (l.restart args).Current := .restart hc.token hc.refused args
  constructor
  · intro h
    -- the message of the first restart is among those built
    cases hs : l.client.streaming with
    | false =>
        rw [Link.subscribedToken_of_not_streaming hs]
        intro w hw
        cases hw
    | true =>
        refine (Link.told_iff_sameToken ha hc hs).mp ?_
        have hbuilt : Link.build { l with args } ∈ ((l.restart args).restart args').builds := by
          rw [Link.restart_of_streaming (by rw [Link.restart_streaming, hs]),
            Link.restart_of_streaming hs]
          exact List.mem_append_left _ (List.mem_append_right _ List.mem_cons_self)
        exact (Link.agreed_build_iff.mp (h.builds _ hbuilt)).1
  · intro h
    have ha' := hfirst.mpr h
    refine (Link.agreed_restart_iff ha' hc' fun hs ht => ?_).mpr fun w hw => ?_
    · have hbound := ha'.bound hc' hs ht
      rw [Link.restart_args, hsize, ← hsize'] at hbound
      exact hbound
    · rw [subscribedToken_restart w hw, Link.restart_openWatersToken]
      exact ⟨rfl, rfl⟩

/-- **The agreement is kept exactly by the events that are settled.** -/
theorem LinkMove.agreed_iff [LawfulDouble D] (hc : g.link.Current)
    (ha : g.link.Agreed toStdString) {e : PluginEvent D} {l : Link D}
    (hmove : LinkMove toStdString g e l) : l.Agreed toStdString ↔ g.settled toStdString e := by
  -- the size when it does not change
  have hkept : ∀ args : StreamArgs D, args.boxSizeDegrees = g.searchBoxSize →
      g.link.client.streaming = true → g.link.Told toStdString →
      lt (ofInt (maxSliderValue g.link.openWatersToken)) args.boxSizeDegrees = false :=
    fun args hsize hs ht => hsize ▸ ha.bound hc hs ht
  -- the size when it is clamped
  have hclamped : ∀ (w : WxString) (degrees : D), lt (ofInt (maxSliderValue w))
      (clamp degrees (ofInt 0) (ofInt (maxSliderValue w))) = false := by
    intro w degrees
    unfold maxSliderValue
    split <;> exact not_lt_clamp (by decide) (by decide) (by decide) degrees
  cases hmove with
  | start =>
      cases hs : g.client.streaming with
      | true =>
          rw [Link.start, if_pos (show g.link.client.streaming = true from hs)]
          exact ⟨fun _ h => (by cases hs.symm.trans h), fun _ => ha⟩
      | false =>
          rw [Link.start, if_neg (by simp [link, hs])]
          refine (Link.agreed_subscribe_iff (l := g.link.tell toStdString) ha.builds).trans ?_
          exact ⟨fun h _ => h.2, fun h => ⟨⟨rfl, rfl⟩, h hs⟩⟩
  | stop => exact ⟨fun _ => settled_of_idle rfl rfl, fun _ => ha.stop⟩
  | hide he hkeep =>
      refine ⟨fun _ => ?_, fun _ => ha.stop⟩
      rcases he with rfl | rfl <;> exact settled_of_idle rfl rfl
  | idle he hother => exact ⟨fun _ => settled_of_idle he hother, fun _ => ha⟩
  | restart he hsize =>
      rw [settled_iff_of_restarts he]
      exact Link.agreed_restart_iff ha hc (hkept _ hsize)
  | restartTwice he hsize hsize' =>
      rw [settled_iff_of_restarts he]
      exact agreed_restartTwice_iff ha hc hsize hsize'
  | resize =>
      rw [settled_iff_of_restarts rfl]
      exact Link.agreed_restart_iff ha hc fun _ _ => hclamped _ _
  | apply => exact Link.agreed_store_iff ha hc _
  | @refresh p =>
      refine ⟨fun _ => settled_of_idle rfl rfl, fun _ => ?_⟩
      cases hs : g.client.streaming with
      | true =>
          rw [Link.restart_of_streaming hs]
          exact (Link.agreed_subscribe_iff
            (l := { (g.link.store p.token).tell toStdString with args := _ }) ha.builds).mpr
            ⟨⟨rfl, rfl⟩, hclamped p.token _⟩
      | false =>
          rw [Link.restart_of_not_streaming hs]
          exact ⟨ha.builds, fun h => (by cases hs.symm.trans h)⟩

end MainGui

/-! ### The plugin -/

namespace Plugin

open MainGui

variable {s s' : Plugin D}

/-- **The dialog and the client agree on the token mode.** -/
def TokenAgreed (toStdString : WxString → StdString) (s : Plugin D) : Prop :=
  ∀ g, s.gui? = some g → g.link.Agreed toStdString

/-- No dialog has a message built while it disagrees with the client. -/
def settled (toStdString : WxString → StdString) (s : Plugin D) (e : PluginEvent D) : Prop :=
  ∀ g, s.gui? = some g → g.settled toStdString e

theorem tokenAgreed_step_iff [LawfulDouble D]
    (hconv : ∀ w, hasToken w = true → toStdString w ≠ []) (h : s.Wired)
    (ha : s.TokenAgreed toStdString) {e : PluginEvent D}
    (hstep : (system toStdString).step s e = some s') :
    s'.TokenAgreed toStdString ↔ s.settled toStdString e := by
  refine forall_gui_step_iff (move_of_step hstep) (fun g g' hg _ hm => ?_) (fun g' _ he hm => ?_) ?_
  · have hc := h.current g hg
    have hlink := linkMove_of_guiMove hconv (h.vessels.gui g hg) hc.token hm
    exact hlink.agreed_iff hc (ha g hg)
  · subst he
    have hc := current_create s.settings
    have hcreated : (MainGui.create s.settings).link.Agreed toStdString := ⟨nofun, nofun⟩
    have hlink := linkMove_of_guiMove hconv (vessels_create h.vessels.list) hc.token hm
    exact (hlink.agreed_iff hc hcreated).mpr (settled_of_idle rfl rfl)
  · rintro (⟨rfl, hended⟩ | rfl) g hg
    · rw [h.ended hended] at hg
      cases hg
    · exact settled_of_idle rfl rfl

/--
**The token mode is agreed on exactly as long as every event is settled.**  The dialog and
the client agree in every state of a run if and only if no event of it restarts a running
stream after another token has been stored than the one it was subscribed with, none stores
a blank token over the one of an authenticated session, and none starts a stream with a box
larger than the stored token allows.
-/
theorem token_agreed_iff_settled [LawfulDouble D]
    (hconv : ∀ w, hasToken w = true → toStdString w ≠ []) (config : Config D)
    (events : List (PluginEvent D)) :
    (system toStdString).Always (TokenAgreed toStdString) { config } events ↔
      (system toStdString).AllSteps (settled toStdString) { config } events :=
  System.always_iff_allSteps (I := Wired) (fun _ _ _ h hstep => wired_step hconv h hstep)
    (fun _ _ _ h ha hstep => tokenAgreed_step_iff hconv h ha hstep) events { config }
    (wired_start config) fun _ hg => nomatch hg

/-- A token entered, used and kept. -/
theorem token_agreed_iff_settled_kept :
    (system byteString).Always (TokenAgreed byteString) ({} : Plugin ℝ)
      [.init, .toolbar, .preferencesOk ⟨true, true, true, wx "key"⟩, .ui .startStream,
        .ui .clearMmsi, .toolbar] := by
  refine (token_agreed_iff_settled (fun _ => byteString_ne_nil) {} _).mpr fun s₁ h₁ => ?_
  refine ⟨fun _ _ => settled_of_idle rfl rfl, fun s₂ h₂ => ?_⟩
  refine ⟨fun _ _ => settled_of_idle rfl rfl, fun s₃ h₃ => ?_⟩
  refine ⟨fun _ _ => settled_of_idle rfl rfl, fun s₄ h₄ => ?_⟩
  cases h₁
  cases h₂
  cases h₃
  refine ⟨?_, fun s₅ h₅ => ⟨?_, fun _ _ => ⟨?_, trivial⟩⟩⟩
  · -- the size was clamped when the token was confirmed
    intro g hg _
    cases hg
    exact not_lt_clamp (by decide) (by decide) (by decide) _
  · intro g hg _ w hw
    cases h₄
    cases hg
    cases hw
    exact ⟨rfl, rfl⟩
  · exact fun _ _ => settled_of_idle rfl rfl

/-- The token is cleared with Apply while the stream runs; the next vessel added subscribes
with it again. -/
theorem cleared_token_used_again :
    ∃ s : Plugin ℝ, (system byteString).run {}
      [.init, .toolbar, .preferencesOk ⟨true, true, true, wx "key"⟩, .ui .startStream,
        .preferencesApply ⟨true, true, true, []⟩, .ui (.addMmsi 227000000 [])] = some s ∧
      ¬s.TokenAgreed byteString := by
  have h : ((system byteString).run ({} : Plugin ℝ)
      [.init, .toolbar, .preferencesOk ⟨true, true, true, wx "key"⟩, .ui .startStream,
        .preferencesApply ⟨true, true, true, []⟩, .ui (.addMmsi 227000000 [])]).map
      (fun s => s.dialog.any fun d => d.builds.any fun b =>
        b.useToken && !hasToken b.openWatersToken) = some true := by
    decide +kernel
  obtain ⟨s, hrun, hs⟩ := Option.map_eq_some_iff.mp h
  refine ⟨s, hrun, fun hagreed => ?_⟩
  obtain ⟨d, hd, hbuilds⟩ := (Option.any_eq_true _ _).mp hs
  obtain ⟨b, hb, hdiffer⟩ := List.any_eq_true.mp hbuilds
  have hlink := hagreed { d with settings := s.settings } (gui_of_dialog hd rfl)
  have hb' := (hlink.builds b hb).useToken
  rw [hb'] at hdiffer
  simp at hdiffer

end Plugin

end AisLive
