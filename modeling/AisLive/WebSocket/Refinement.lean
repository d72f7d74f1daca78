/-
The connection is the session it was taken for.

`Session` says what `run()` does once the client is connected in a few words: it delivers
messages and control frames, it is shut, it closes itself, or it goes on.  Here the words are
put together from the bytes.  `attended` is that session, with the thread that may close it;
`live` is the connection, in the same company.  In both the other thread looks at the ready state
before it sets it, and anything may come between.  Every step of the connection is a number of
steps of the session (`represents_step`), so every run is a run (`connection_refines_session`).
-/
import AisLive.Stream.SessionReports
import AisLive.WebSocket.Views

namespace AisLive.WebSocket

open Json Transition

/-! ### The session -/

/-- A session, and whether the other thread has looked at the ready state, to set it next. -/
structure Attended extends Solo where
  closing : Bool := false

/-- What happens to a session: a stage of `run()`, or the other thread clears `m_streaming` or
is at one of the steps of `close`. -/
inductive SessionAction
  | run (a : RunAction)
  | clearStreaming
  | closeRaise
  | closeLook
  | closeSet
  deriving DecidableEq

/-- The calls of the message callback. -/
def callbacks (log : List Event) : List Callback :=
  log.filterMap fun
    | .callback c => some c
    | .state _ _ | .sentence _ | .subscribe | .terminate _ => none

theorem callbacks_append (log evs : List Event) :
    callbacks (log ++ evs) = callbacks log ++ callbacks evs := List.filterMap_append

/-- What is reported calls no message callback. -/
theorem callbacks_reports (during : Option Callback) (reports : List Report) :
    callbacks (reports.map (.state during)) = [] := by
  induction reports with
  | nil => rfl
  | cons r reports ih => exact ih

theorem callbacks_onClose (v : Session) (streaming : Bool) :
    callbacks (v.onClose streaming) = [.close] := by
  unfold Session.onClose
  split <;> rfl

section

variable (parse : StdString → Option Value) (onSentence : Bool)

theorem Session.step_shut {v : Session} (hstage : v.stage = .dispatching)
    (hopen : v.readyState ≠ .closed) (streaming published reset : Bool) :
    v.step parse streaming published onSentence (.shut reset)
      = some ({ v with
          readyState := .closed
          requestInitCancellation := v.requestInitCancellation && !reset },
          v.onClose streaming) := by
  cases v
  cases hstage
  exact if_neg hopen

theorem Session.step_selfClose {v : Session} (hstage : v.stage = .dispatching)
    (streaming published : Bool) :
    v.step parse streaming published onSentence .selfClose
      = some ({ v with
          requestInitCancellation := true
          readyState := if v.readyState = .opened then .closing else v.readyState }, []) := by
  cases v
  cases hstage
  rfl

/-- A published session, and the thread that may close it. -/
def attended : System Attended SessionAction where
  step s a :=
    match a with
    | .clearStreaming => some { s with streaming := false }
    | .closeRaise => some { s with session := s.session.raiseRequest }
    | .closeLook =>
        if s.closing then none
        else if s.session.readyState = .closing ∨ s.session.readyState = .closed then some s
        else some { s with closing := true }
    | .closeSet =>
        if s.closing then some { s with session := s.session.setClosing, closing := false }
        else none
    | .run a =>
        match s.session.step parse s.streaming true onSentence a with
        | none => none
        | some (v, evs) => some { s with session := v, log := s.log ++ evs }

theorem attended_run {s : Attended} {a : RunAction} {v : Session} {evs : List Event}
    (h : s.session.step parse s.streaming true onSentence a = some (v, evs)) :
    (attended parse onSentence).step s (.run a)
      = some { s with session := v, log := s.log ++ evs } := by
  simp only [attended, h]

/-- A session in `dispatch`, as it is seen from outside. -/
structure Shows (before : List Callback) (streaming closing : Bool) (v : View) (s : Attended) :
    Prop where
  stage : s.session.stage = .dispatching
  readyState : s.session.readyState = v.1
  callbacks : callbacks s.log = before ++ v.2
  streaming : s.streaming = streaming
  closing : s.closing = closing

/-- The sentences of an event are published, which is not seen. -/
theorem run_publishing {before : List Callback} {streaming closing : Bool} {v : View}
    (rest : List WxString) {s : Attended} (hstage : s.session.stage = .publishing rest)
    (hstate : s.session.readyState = v.1) (hlog : callbacks s.log = before ++ v.2)
    (hstreaming : s.streaming = streaming) (hclosing : s.closing = closing) :
    ∃ bs s', (attended parse onSentence).run s bs = some s' ∧
      Shows before streaming closing v s' := by
  induction rest generalizing s with
  | nil =>
      have hstep : s.session.step parse s.streaming true onSentence .proceed
          = some ({ s.session with stage := .dispatching }, []) := by
        unfold Session.step
        rw [hstage]
      refine ⟨[.run .proceed], { s with
        session := { s.session with stage := .dispatching }
        log := s.log ++ [] }, ?_, ⟨rfl, hstate, ?_, hstreaming, hclosing⟩⟩
      · rw [System.run_cons, attended_run parse onSentence hstep]
        rfl
      · rw [List.append_nil]
        exact hlog
  | cons sentence rest ih =>
      have hstep : s.session.step parse s.streaming true onSentence .proceed
          = some ({ s.session with stage := .publishing rest }, [.sentence sentence]) := by
        unfold Session.step
        rw [hstage]
      obtain ⟨bs, s', hrun, hshows⟩ := ih (s := { s with
        session := { s.session with stage := .publishing rest }
        log := s.log ++ [.sentence sentence] }) rfl hstate
        (by rw [callbacks_append, hlog]; exact List.append_nil _) hstreaming hclosing
      refine ⟨.run .proceed :: bs, s', ?_, hshows⟩
      rw [System.run_cons, attended_run parse onSentence hstep]
      exact hrun

/-- The message callback is called with Message. -/
theorem run_message {before : List Callback} {streaming closing : Bool} {v : View} {s : Attended}
    (h : Shows before streaming closing v s) (payload : StdString) :
    ∃ bs s', (attended parse onSentence).run s bs = some s' ∧
      Shows before streaming closing (v.1, v.2 ++ [.message payload]) s' := by
  obtain ⟨hstage, hstate, hlog, hstreaming, hclosing⟩ := h
  have hstep : s.session.step parse s.streaming true onSentence (.message payload)
      = some (Session.onMessage parse onSentence s.session payload) := by
    unfold Session.step
    rw [hstage]
  have hcalled (evs : List Event) (hevs : callbacks evs = []) :
      callbacks (s.log ++ .callback (.message payload) :: evs)
        = before ++ (v.2 ++ [.message payload]) := by
    rw [callbacks_append, hlog, ← List.append_assoc]
    exact congrArg (fun cs => before ++ v.2 ++ .message payload :: cs) hevs
  cases hhandled : handleMessage parse onSentence payload with
  | error e =>
      rw [Session.onMessage, hhandled] at hstep
      refine ⟨[.run (.message payload)], { s with
        log := s.log ++ [.callback (.message payload), .terminate e] },
        ?_, ⟨hstage, hstate, hcalled [.terminate e] rfl, hstreaming, hclosing⟩⟩
      rw [System.run_cons, attended_run parse onSentence hstep]
      rfl
  | ok out =>
      rw [Session.onMessage, hhandled] at hstep
      have hreports := callbacks_reports (some (.message payload)) out.reports
      by_cases hrejected : out.rejected = true
      · simp only [if_pos hrejected] at hstep
        refine ⟨[.run (.message payload)], { s with
          session := { s.session with serverRejected := true, errorReported := true }
          log := s.log ++
            .callback (.message payload) :: out.reports.map (.state (some (.message payload))) },
          ?_, ⟨hstage, hstate, hcalled _ hreports, hstreaming, hclosing⟩⟩
        rw [System.run_cons, attended_run parse onSentence hstep]
        rfl
      · simp only [if_neg hrejected] at hstep
        obtain ⟨bs, s', hrun, hshows⟩ := run_publishing parse onSentence
          (v := (v.1, v.2 ++ [.message payload])) out.sentences (s := { s with
            session := { s.session with stage := .publishing out.sentences }
            log := s.log ++
              .callback (.message payload) :: out.reports.map (.state (some (.message payload))) })
          rfl hstate (hcalled _ hreports) hstreaming hclosing
        refine ⟨.run (.message payload) :: bs, s', ?_, hshows⟩
        rw [System.run_cons, attended_run parse onSentence hstep]
        exact hrun

/-- **The steps seen from outside are steps of the session.** -/
theorem run_steps {before : List Callback} {streaming closing : Bool} {v v' : View}
    {as : List RunAction} (hsteps : Steps v as v') {s : Attended}
    (h : Shows before streaming closing v s) :
    ∃ bs s', (attended parse onSentence).run s bs = some s' ∧
      Shows before streaming closing v' s' := by
  induction hsteps generalizing s with
  | nil v => exact ⟨[], s, rfl, h⟩
  | message payload _ ih =>
      obtain ⟨bs, s₁, hrun, h₁⟩ := run_message parse onSentence h payload
      obtain ⟨bs', s', hrun', h'⟩ := ih h₁
      exact ⟨bs ++ bs', s', by rw [System.run_append, hrun, Option.bind_some, hrun'], h'⟩
  | @control r cs _ _ _ ih =>
      obtain ⟨hstage, hstate, hlog, hstreaming, hclosing⟩ := h
      have hstep : s.session.step parse s.streaming true onSentence .control
          = some (s.session, [.callback .other]) := by
        unfold Session.step
        rw [hstage]
      obtain ⟨bs, s', hrun, h'⟩ := ih (s := { s with log := s.log ++ [.callback .other] })
        ⟨hstage, hstate, by rw [callbacks_append, hlog, List.append_assoc]; rfl, hstreaming,
          hclosing⟩
      refine ⟨.run .control :: bs, s', ?_, h'⟩
      rw [System.run_cons, attended_run parse onSentence hstep]
      exact hrun
  | @shut r hr cs _ _ _ ih =>
      obtain ⟨hstage, hstate, hlog, hstreaming, hclosing⟩ := h
      have hopen : s.session.readyState ≠ .closed := by
        rw [hstate]
        exact hr
      have hstep := Session.step_shut parse onSentence hstage hopen s.streaming true false
      obtain ⟨bs, s', hrun, h'⟩ := ih (s := { s with
          session := { s.session with
            readyState := .closed
            requestInitCancellation := s.session.requestInitCancellation && !false }
          log := s.log ++ s.session.onClose s.streaming })
        ⟨hstage, rfl, by rw [callbacks_append, hlog, callbacks_onClose, List.append_assoc],
          hstreaming, hclosing⟩
      refine ⟨.run (.shut false) :: bs, s', ?_, h'⟩
      rw [System.run_cons, attended_run parse onSentence hstep]
      exact hrun
  | @selfClose r cs _ _ _ ih =>
      obtain ⟨hstage, hstate, hlog, hstreaming, hclosing⟩ := h
      have hstep := Session.step_selfClose parse onSentence hstage s.streaming true
      obtain ⟨bs, s', hrun, h'⟩ := ih (s := { s with
          session := { s.session with
            requestInitCancellation := true
            readyState := if s.session.readyState = .opened then .closing
              else s.session.readyState }
          log := s.log ++ [] })
        ⟨hstage, by simp only [hstate], by rw [List.append_nil]; exact hlog, hstreaming, hclosing⟩
      refine ⟨.run .selfClose :: bs, s', ?_, h'⟩
      rw [System.run_cons, attended_run parse onSentence hstep]
      exact hrun

end

/-! ### The connection -/

/-- A connection, and what `m_streaming` reads. -/
structure Live where
  connection : Connection
  streaming : Bool := true

/-- A step of the connection, or the other thread clears `m_streaming`. -/
inductive LiveAction
  | library (a : Connection.Action)
  | clearStreaming
  deriving DecidableEq

/-- The connection as the client has it. -/
def live (env : Environment) : System Live LiveAction where
  step l a :=
    match a with
    | .clearStreaming => some { l with streaming := false }
    | .library a => (l.connection.step env a).map fun c => { l with connection := c }

/-- A close frame is next, and the transport is CLOSED. -/
def Connection.lateClose (c : Connection) : Bool :=
  match nextFrame c.rxbuf with
  | .item f _ => f.opcode = .close && c.readyState = .closed
  | .wait | .stuck _ => false

/-- No close frame is handled after the transport was closed. -/
def Timely (l : Live) (a : LiveAction) : Prop :=
  a = .library .round → l.connection.lateClose = false

instance (l : Live) (a : LiveAction) : Decidable (Timely l a) :=
  inferInstanceAs (Decidable (a = .library .round → l.connection.lateClose = false))

/-- The stage of the session. -/
def Phase.stage : Phase → Stage
  | .loop => .loop
  | .polling | .dispatching _ => .dispatching
  | .returned => .returned

/-- The other thread has looked at the ready state, and is about to set it. -/
def Closer.looked : Closer → Bool
  | .setting _ _ => true
  | .idle | .sending _ _ => false

/-- The session shows what the connection does. -/
structure Represents (before : List Callback) (l : Live) (s : Attended) : Prop where
  stage : s.session.stage = l.connection.phase.stage
  readyState : s.session.readyState = l.connection.readyState
  callbacks : callbacks s.log = before ++ l.connection.calls.map Call.callback
  streaming : s.streaming = l.streaming
  closing : s.closing = l.connection.closer.looked
  connected : l.connection.readyState ≠ .connecting
  /-- A close frame that is still to be sent shows nothing. -/
  shut : ∀ code reason, l.connection.closer = .sending code reason →
    l.connection.readyState = .closing ∨ l.connection.readyState = .closed

section

variable (env : Environment)

/-- **A step of the connection leads from one endpoint to the other**, unless it handles a close
frame too late, or `close` sets the ready state. -/
theorem leads_of_moves {c c' : Connection} {a : Connection.Action} (h : c.Moves env a c')
    (hset : a ≠ .closeSet) (htimely : a = .round → c.lateClose = false) :
    Leads c.toEndpoint c'.toEndpoint := by
  cases h with
  | leave | enter | noFrame | lookClosed | look => exact .refl _
  | poll hphase hsocket hpoll =>
      have hleads := leads_poll (Connection.polls_of_poll hsocket hpoll)
      exact hleads
  | frame hphase hnext =>
      refine Endpoint.leads_handleFrame env ?_
      have hnone := htimely rfl
      simp only [Connection.lateClose, hnext] at hnone
      simpa using hnone
  | @noHeader pollResult hphase hnext hheader =>
      by_cases hsucceeded : pollResult ≠ .succeeded
      · simp only [if_pos hsucceeded]
        exact leads_closeAbnormally _
      · simp only [if_neg hsucceeded]
        exact .refl _
  | stuck => exact Endpoint.leads_violate env _ _
  | set hsetting => exact absurd rfl hset
  | send hsending => exact Endpoint.leads_sendCloseFrame env _ _ _

variable (parse : StdString → Option Value) (onSentence : Bool)

/-- A connection that is dispatching, when its endpoint has been led somewhere. -/
theorem represents_leads {before : List Callback} {l : Live} {s : Attended}
    (h : Represents before l s) (hstage : l.connection.phase.stage = .dispatching)
    {e : Endpoint} (hleads : Leads l.connection.toEndpoint e) :
    ∃ bs s', (attended parse onSentence).run s bs = some s' ∧
      Shows before l.streaming l.connection.closer.looked e.view s' ∧
      e.readyState ≠ .connecting := by
  obtain ⟨⟨as, hsteps⟩, hconnected⟩ := hleads h.connected
  obtain ⟨bs, s', hrun, hshows⟩ := run_steps parse onSentence hsteps
    (⟨h.stage.trans hstage, h.readyState, h.callbacks, h.streaming, h.closing⟩ :
      Shows before l.streaming l.connection.closer.looked l.connection.toEndpoint.view s)
  exact ⟨bs, s', hrun, hshows, hconnected⟩

/-- The end of a dispatch. -/
theorem run_endDispatch {before : List Callback} {streaming closing : Bool} {v : View}
    {s : Attended} (h : Shows before streaming closing v s) :
    ∃ s', (attended parse onSentence).run s [.run .proceed] = some s' ∧
      s'.session.stage = .loop ∧ s'.session.readyState = v.1 ∧
      callbacks s'.log = before ++ v.2 ∧ s'.streaming = streaming ∧ s'.closing = closing := by
  have hstep : s.session.step parse s.streaming true onSentence .proceed
      = some ({ s.session with stage := .loop }, []) := by
    unfold Session.step
    rw [h.stage]
  refine ⟨{ s with session := { s.session with stage := .loop }, log := s.log ++ [] }, ?_, rfl,
    h.readyState, ?_, h.streaming, h.closing⟩
  · rw [System.run_cons, attended_run parse onSentence hstep]
    rfl
  · rw [List.append_nil]
    exact h.callbacks

/-- The connection goes on dispatching. -/
theorem represents_dispatching {before : List Callback} {l : Live} {s : Attended}
    (h : Represents before l s) (hstage : l.connection.phase.stage = .dispatching)
    {c : Connection} (hleads : Leads l.connection.toEndpoint c.toEndpoint)
    (hstage' : c.phase.stage = .dispatching) (hcloser : c.closer = l.connection.closer) :
    ∃ bs s', (attended parse onSentence).run s bs = some s' ∧
      Represents before { l with connection := c } s' := by
  obtain ⟨bs, s', hrun, hshows, hconnected⟩ := represents_leads parse onSentence h hstage hleads
  refine ⟨bs, s', hrun, hshows.stage.trans hstage'.symm, hshows.readyState, hshows.callbacks,
    hshows.streaming, ?_, hconnected, fun code reason hsending => ?_⟩
  · rw [hcloser]
    exact hshows.closing
  · exact hleads.shuts (h.shut code reason (hcloser ▸ hsending))

/-- The dispatch ends. -/
theorem represents_loop {before : List Callback} {l : Live} {s : Attended}
    (h : Represents before l s) (hstage : l.connection.phase.stage = .dispatching)
    {c : Connection} (hleads : Leads l.connection.toEndpoint c.toEndpoint)
    (hphase : c.phase = .loop) (hcloser : c.closer = l.connection.closer) :
    ∃ bs s', (attended parse onSentence).run s bs = some s' ∧
      Represents before { l with connection := c } s' := by
  obtain ⟨bs, s₁, hrun, hshows, hconnected⟩ := represents_leads parse onSentence h hstage hleads
  obtain ⟨s', hrun', hstage', hstate, hcallbacks, hstreaming, hclosing⟩ :=
    run_endDispatch parse onSentence hshows
  refine ⟨bs ++ [.run .proceed], s', ?_, ?_, hstate, hcallbacks, hstreaming, ?_, hconnected,
    fun code reason hsending => ?_⟩
  · rw [System.run_append, hrun, Option.bind_some, hrun']
  · rw [hstage', hphase]
    rfl
  · rw [hcloser]
    exact hclosing
  · exact hleads.shuts (h.shut code reason (hcloser ▸ hsending))

/-- The test at the top of the loop. -/
theorem represents_proceed {before : List Callback} {l : Live} {s : Attended}
    (h : Represents before l s) (hphase : l.connection.phase = .loop) :
    ∃ bs s', (attended parse onSentence).run s bs = some s' ∧
      Represents before { l with connection := { l.connection with
        phase := if l.connection.readyState = .closed then .returned else .polling } } s' := by
  obtain ⟨hstage, hstate, hcallbacks, hstreaming, hclosing, hconnected, hshut⟩ := h
  rw [hphase] at hstage
  have hstep : s.session.step parse s.streaming true onSentence .proceed
      = some ({ s.session with
          stage := if l.connection.readyState = .closed then .returned else .dispatching },
          []) := by
    unfold Session.step
    rw [hstage]
    simp only [Phase.stage, hstate]
    split <;> rfl
  refine ⟨[.run .proceed], { s with
    session := { s.session with
      stage := if l.connection.readyState = .closed then .returned else .dispatching }
    log := s.log ++ [] }, ?_, ?_, hstate, ?_, hstreaming, hclosing, hconnected, hshut⟩
  · rw [System.run_cons, attended_run parse onSentence hstep]
    rfl
  · simp only
    split <;> rfl
  · rw [List.append_nil]
    exact hcallbacks

/-- `close` raises the cancellation request and looks at the ready state. -/
theorem represents_look {before : List Callback} {l : Live} {s : Attended}
    (h : Represents before l s) (hidle : l.connection.closer = .idle) (code : Nat)
    (reason : StdString) :
    ∃ bs s', (attended parse onSentence).run s bs = some s' ∧
      Represents before { l with connection :=
        if l.connection.readyState = .closing ∨ l.connection.readyState = .closed then l.connection
        else { l.connection with closer := .setting code reason } } s' := by
  obtain ⟨hstage, hstate, hcallbacks, hstreaming, hclosing, hconnected, hshut⟩ := h
  have hfree : s.closing = false := by rw [hclosing, hidle, Closer.looked]
  by_cases hdone : l.connection.readyState = .closing ∨ l.connection.readyState = .closed
  · refine ⟨[.closeRaise, .closeLook], { s with session := s.session.raiseRequest }, ?_, ?_⟩
    · simp [System.run, attended, hfree, Session.raiseRequest, hstate, hdone]
    · rw [if_pos hdone]
      exact ⟨hstage, hstate, hcallbacks, hstreaming, hclosing, hconnected, hshut⟩
  · refine ⟨[.closeRaise, .closeLook],
      { s with session := s.session.raiseRequest, closing := true }, ?_, ?_⟩
    · simp [System.run, attended, hfree, Session.raiseRequest, hstate, hdone]
    · rw [if_neg hdone]
      exact ⟨hstage, hstate, hcallbacks, hstreaming, rfl, hconnected, by rintro _ _ ⟨⟩⟩

/-- It sets the ready state. -/
theorem represents_set {before : List Callback} {l : Live} {s : Attended}
    (h : Represents before l s) {code : Nat} {reason : StdString}
    (hsetting : l.connection.closer = .setting code reason) :
    ∃ bs s', (attended parse onSentence).run s bs = some s' ∧
      Represents before { l with connection := { l.connection with
        toEndpoint := l.connection.toEndpoint.setClosing code reason
        closer := .sending code reason } } s' := by
  obtain ⟨hstage, hstate, hcallbacks, hstreaming, hclosing, hconnected, hshut⟩ := h
  have hlooked : s.closing = true := by rw [hclosing, hsetting, Closer.looked]
  have hview := Endpoint.view_setClosing code reason l.connection.toEndpoint
  have hstate' := Endpoint.readyState_setClosing code reason l.connection.toEndpoint
  refine ⟨[.closeSet], { s with session := s.session.setClosing, closing := false }, ?_, hstage,
    hstate'.symm, ?_, hstreaming, rfl, ?_, fun _ _ _ => .inl hstate'⟩
  · simp [System.run, attended, hlooked]
  · refine hcallbacks.trans ?_
    rw [show (l.connection.toEndpoint.setClosing code reason).calls.map Call.callback = _ from
      congrArg Prod.snd hview]
  · rw [hstate']
    simp

/-- It sends the close frame, which shows nothing. -/
theorem Represents.send {before : List Callback} {l : Live} {s : Attended}
    (h : Represents before l s) {code : Nat} {reason : StdString}
    (hsending : l.connection.closer = .sending code reason) :
    Represents before { l with connection := { l.connection with
      toEndpoint := l.connection.toEndpoint.sendCloseFrame env code reason
      closer := .idle } } s := by
  obtain ⟨hstage, hstate, hcallbacks, hstreaming, hclosing, hconnected, hshut⟩ := h
  have hview := Endpoint.view_sendCloseFrame env (hshut code reason hsending) code reason
  have hstate' := congrArg Prod.fst hview
  have hcalls := congrArg Prod.snd hview
  refine ⟨hstage, hstate.trans hstate'.symm, ?_, hstreaming, ?_, ?_, by rintro _ _ ⟨⟩⟩
  · exact hcallbacks.trans (congrArg (before ++ ·) hcalls.symm)
  · rw [hclosing, hsending]
    rfl
  · exact fun hconnecting => hconnected (hstate'.symm.trans hconnecting)

/-- **Every step of the connection is a number of steps of the session.** -/
theorem represents_step {before : List Callback} {l l' : Live} {s : Attended} {a : LiveAction}
    (h : Represents before l s) (htimely : Timely l a) (hstep : (live env).step l a = some l') :
    ∃ bs s', (attended parse onSentence).run s bs = some s' ∧ Represents before l' s' := by
  cases a with
  | clearStreaming =>
      cases hstep
      exact ⟨[.clearStreaming], { s with streaming := false }, rfl, h.stage, h.readyState,
        h.callbacks, rfl, h.closing, h.connected, h.shut⟩
  | library a =>
      obtain ⟨c, hc, rfl⟩ := Option.map_eq_some_iff.mp hstep
      have hmoves := Connection.moves_of_step env hc
      have hleads (hset : a ≠ .closeSet) : Leads l.connection.toEndpoint c.toEndpoint :=
        leads_of_moves env hmoves hset fun hround => htimely (hround ▸ rfl)
      cases hmoves with
      | leave hphase hclosed =>
          have hproceed := represents_proceed parse onSentence h hphase
          rwa [if_pos hclosed] at hproceed
      | enter hphase hclosed =>
          have hproceed := represents_proceed parse onSentence h hphase
          rwa [if_neg hclosed] at hproceed
      | @poll polled exceeded hphase hsocket pollResult c' hpoll =>
          exact represents_dispatching parse onSentence h (by rw [hphase]; rfl) (hleads nofun) rfl
            (Connection.polls_of_poll hsocket hpoll).closer
      | @frame pollResult hphase f rest hnext =>
          exact represents_dispatching parse onSentence h (by rw [hphase]; rfl) (hleads nofun)
            (by simp only [hphase]; rfl) rfl
      | noHeader hphase | noFrame hphase | stuck hphase =>
          exact represents_loop parse onSentence h (by rw [hphase]; rfl) (hleads nofun) rfl rfl
      | @lookClosed code reason hidle hclosed =>
          have hlook := represents_look parse onSentence h hidle code reason
          rwa [if_pos hclosed] at hlook
      | @look code reason hidle hclosed =>
          have hlook := represents_look parse onSentence h hidle code reason
          rwa [if_neg hclosed] at hlook
      | set hsetting => exact represents_set parse onSentence h hsetting
      | send hsending => exact ⟨[], s, rfl, h.send env hsending⟩

/--
**The connection refines the session.**  Start the loop of `run()` on a transport that is OPEN,
next to a session that has just announced itself.  Every run of the connection, whatever bytes
arrive in whatever pieces, whichever polls and writes fail, whenever the other thread clears
`m_streaming`, and wherever it is in `close`, is matched by a run of the session: it ends at the
same stage with the same ready state, and the message callback has been called with the same
messages, in the same order.  The exception is a close frame handled in the state CLOSED.
-/
theorem connection_refines_session {l l' : Live} {s : Attended} {as : List LiveAction}
    (hphase : l.connection.phase = .loop) (hopened : l.connection.readyState = .opened)
    (hcalls : l.connection.calls = []) (hstage : s.session.stage = .loop)
    (hopened' : s.session.readyState = .opened) (hstreaming : s.streaming = l.streaming)
    (hclosing : s.closing = l.connection.closer.looked)
    (hsent : ∀ code reason, l.connection.closer ≠ .sending code reason)
    (htimely : (live env).AllSteps Timely l as) (hrun : (live env).run l as = some l') :
    ∃ bs s', (attended parse onSentence).run s bs = some s' ∧
      s'.session.stage = l'.connection.phase.stage ∧
      s'.session.readyState = l'.connection.readyState ∧ s'.streaming = l'.streaming ∧
      callbacks s'.log = callbacks s.log ++ l'.connection.calls.map Call.callback := by
  have hstart : Represents (callbacks s.log) l s := by
    refine ⟨?_, hopened'.trans hopened.symm, ?_, hstreaming, hclosing, ?_, ?_⟩
    · rw [hstage, hphase]
      rfl
    · rw [hcalls]
      exact (List.append_nil _).symm
    · rw [hopened]
      simp
    · exact fun code reason hsending => absurd hsending (hsent code reason)
  obtain ⟨bs, s', hrun', h'⟩ := System.simulated_run
    (fun _ _ _ _ h htimely hstep => represents_step env parse onSentence h htimely hstep)
    hstart htimely hrun
  exact ⟨bs, s', hrun', h'.stage, h'.readyState, h'.streaming, h'.callbacks⟩

end

/-- A client is told of a message, a ping and the end, with the flag cleared and `close` called in
between: its look comes before the close frame is handled, its set after that, and the closing
delay ends the session a second time. -/
theorem connection_refines_session_closeFrame :
    ∃ bs s', (attended (fun _ => none) true).run
        { session := { stage := .loop, readyState := .opened } } bs = some s' ∧
      s'.session.stage = .returned ∧
      callbacks s'.log = [.message [0x68, 0x69], .other, .close, .close] := by
  have hend : ((live Transport.client).run
      ⟨{ fragmentedMessageKind := .msgBinary,
         incoming := [0x81, 0x02, 0x68, 0x69, 0x89, 0x00, 0x88, 0x02, 0x03, 0xe8] }, true⟩
      [.library .proceed, .library (.poll (.readyForRead [10] false) false), .library .round,
        .clearStreaming, .library (.closeLook 1000 []), .library .round, .library .round,
        .library .closeSet, .library .closeSend, .library .round, .library .proceed,
        .library (.poll .error true), .library .round, .library .proceed]).map
      (fun l => (l.connection.phase, l.connection.calls.map Call.callback))
      = some (.returned, [.message [0x68, 0x69], .other, .close, .close]) := by decide +kernel
  obtain ⟨l', hrun, hend⟩ := Option.map_eq_some_iff.mp hend
  obtain ⟨hphase, hcalls⟩ := Prod.mk.inj hend
  obtain ⟨bs, s', hrun', hstage, -, -, hcallbacks⟩ := connection_refines_session Transport.client
    (fun _ => none) true (s := { session := { stage := .loop, readyState := .opened } }) rfl rfl rfl
    rfl rfl rfl rfl (by rintro _ _ ⟨⟩) (by decide +kernel) hrun
  refine ⟨bs, s', hrun', ?_, ?_⟩
  · rw [hstage, hphase]
    rfl
  · rw [hcallbacks, hcalls]
    rfl

end AisLive.WebSocket
