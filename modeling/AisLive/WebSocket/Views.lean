/-
What is seen of a connection.

The client sees two things of `run()`: the ready state and the calls of its message callback.
`Steps` says how the steps of a session change them: messages and control frames are delivered,
the session is shut, or it closes itself.  Everything the loop does to a transport is a number of
these (`Leads`), with one exception: a close frame handled when the transport is CLOSED already.
The source then goes through CLOSING to CLOSED again and calls the callback a second time.  The
other thread is apart: `close` sets CLOSING, whatever the state is by then (`view_setClosing`).
-/
import AisLive.WebSocket.Drop

namespace AisLive.WebSocket

/-- What the call of a callback becomes in `WebSocket`. -/
def Call.callback : Call → Callback
  | .message .msgText payload => .message payload
  | .message .msgBinary payload => .message payload
  | .message .ping _ | .message .pong _ | .message .fragment _ => .other
  | .closed _ _ _ => .close

/-- What a session shows of itself: the ready state, and the calls so far. -/
abbrev View := ReadyState × List Callback

namespace Endpoint

def view (e : Endpoint) : View := (e.readyState, e.calls.map Call.callback)

end Endpoint

/-! ### Steps of a session, seen from outside -/

/-- These steps lead from one view to the other. -/
inductive Steps : View → List RunAction → View → Prop
  | nil (v : View) : Steps v [] v
  | message (payload : StdString) {r : ReadyState} {cs : List Callback} {as : List RunAction}
      {v : View} (h : Steps (r, cs ++ [.message payload]) as v) :
      Steps (r, cs) (.message payload :: as) v
  | control {r : ReadyState} {cs : List Callback} {as : List RunAction} {v : View}
      (h : Steps (r, cs ++ [.other]) as v) : Steps (r, cs) (.control :: as) v
  | shut {r : ReadyState} (hr : r ≠ .closed) {cs : List Callback} {as : List RunAction} {v : View}
      (h : Steps (.closed, cs ++ [.close]) as v) : Steps (r, cs) (.shut false :: as) v
  | selfClose {r : ReadyState} {cs : List Callback} {as : List RunAction} {v : View}
      (h : Steps (if r = .opened then .closing else r, cs) as v) :
      Steps (r, cs) (.selfClose :: as) v

theorem Steps.trans {u v w : View} {as bs : List RunAction} (h : Steps u as v)
    (h' : Steps v bs w) : Steps u (as ++ bs) w := by
  induction h with
  | nil => exact h'
  | message payload _ ih => exact .message payload (ih h')
  | control _ ih => exact .control (ih h')
  | shut hr _ ih => exact .shut hr (ih h')
  | selfClose _ ih => exact .selfClose (ih h')

/-- A transport that is closing or closed is not opened again. -/
theorem Steps.shuts {v v' : View} {as : List RunAction} (h : Steps v as v')
    (hshut : v.1 = .closing ∨ v.1 = .closed) : v'.1 = .closing ∨ v'.1 = .closed := by
  induction h with
  | nil => exact hshut
  | message _ _ ih | control _ ih => exact ih hshut
  | shut hr _ ih => exact ih (.inr rfl)
  | selfClose _ ih =>
      refine ih ?_
      simp only at hshut ⊢
      split
      · exact .inl rfl
      · exact hshut

/-- Steps lead from one endpoint to another that is not connecting either. -/
def Leads (e e' : Endpoint) : Prop :=
  e.readyState ≠ .connecting → (∃ as, Steps e.view as e'.view) ∧ e'.readyState ≠ .connecting

namespace Leads

theorem of_view {e e' : Endpoint} (h : e'.view = e.view) : Leads e e' := by
  intro hr
  refine ⟨⟨[], h ▸ .nil _⟩, ?_⟩
  rwa [show e'.readyState = e.readyState from congrArg Prod.fst h]

theorem refl (e : Endpoint) : Leads e e := of_view rfl

theorem trans {e e' e'' : Endpoint} (h : Leads e e') (h' : Leads e' e'') : Leads e e'' := by
  intro hr
  obtain ⟨⟨as, has⟩, hr'⟩ := h hr
  obtain ⟨⟨bs, hbs⟩, hr''⟩ := h' hr'
  exact ⟨⟨as ++ bs, has.trans hbs⟩, hr''⟩

theorem shuts {e e' : Endpoint} (h : Leads e e')
    (hshut : e.readyState = .closing ∨ e.readyState = .closed) :
    e'.readyState = .closing ∨ e'.readyState = .closed := by
  have hr : e.readyState ≠ .connecting := by
    rintro hconnecting
    simp [hconnecting] at hshut
  obtain ⟨⟨as, has⟩, -⟩ := h hr
  exact has.shuts hshut

end Leads

namespace Endpoint

theorem view_setReadyState_closed {e : Endpoint} (h : e.readyState ≠ .closed) :
    (e.setReadyState .closed).view = (.closed, e.calls.map Call.callback ++ [.close]) := by
  rw [setReadyState, if_neg h, if_pos rfl, view, List.map_append]
  rfl

theorem view_closeSocketAndSwitchToClosedState {e : Endpoint} (h : e.readyState ≠ .closed)
    (code : Nat) (reason : StdString) (remote : Bool) :
    (e.closeSocketAndSwitchToClosedState code reason remote).view
      = (.closed, e.calls.map Call.callback ++ [.close]) :=
  view_setReadyState_closed (e := { e.closeSocket with
    closeReason := reason, closeCode := code, closeRemote := remote }) h

/-- Being shut: the ready state becomes CLOSED, if it was not, and the callback is called. -/
theorem leads_setReadyState_closed (e : Endpoint) : Leads e (e.setReadyState .closed) := by
  intro hr
  refine ⟨?_, by rw [readyState_setReadyState]; simp⟩
  by_cases hclosed : e.readyState = .closed
  · rw [setReadyState, if_pos hclosed]
    exact ⟨[], .nil _⟩
  · refine ⟨[.shut false], .shut hclosed ?_⟩
    rw [view_setReadyState_closed hclosed]
    exact .nil _

theorem leads_closeSocketAndSwitchToClosedState (code : Nat) (reason : StdString) (remote : Bool)
    (e : Endpoint) : Leads e (e.closeSocketAndSwitchToClosedState code reason remote) :=
  .trans (.of_view rfl) (leads_setReadyState_closed { e.closeSocket with
    closeReason := reason, closeCode := code, closeRemote := remote })

section

variable (env : Environment)

theorem leads_sendOnSocket (e : Endpoint) : Leads e (sendOnSocket env e).2 := by
  unfold sendOnSocket
  simp only
  split
  · exact .of_view rfl
  · simp only
    split
    · exact .of_view rfl
    · exact .trans (.of_view rfl)
        (leads_setReadyState_closed { e with sends := e.sends + 1 }.closeSocket)

theorem leads_sendFragment (type : Opcode) (fin : Bool) (message : StdString) (e : Endpoint) :
    Leads e (sendFragment env type fin message e).2 :=
  .trans (.of_view rfl) (leads_sendOnSocket env (e.appendToSendBuffer env type fin message))

theorem leads_sendFragments (type : Opcode) (steps : Nat) (message : StdString) (e : Endpoint) :
    Leads e (sendFragments env type steps message e).2 := by
  induction steps generalizing type message e with
  | zero => exact .refl e
  | succ steps ih =>
      have hfirst := leads_sendFragment env type false (message.take kChunkSize) e
      cases steps with
      | zero => exact leads_sendFragment env type true message e
      | succ steps =>
          rw [sendFragments]
          split
          · exact hfirst.trans (ih .continuation (message.drop kChunkSize) _)
          · exact hfirst

theorem leads_sendData (type : Opcode) (message : StdString) (e : Endpoint) :
    Leads e (sendData env type message e).2 := by
  unfold sendData
  split
  · exact .refl e
  · split
    · exact leads_sendFragment env type true message e
    · exact leads_sendFragments env type _ message e

/-- A write that fails while the transport is closing changes nothing that is seen, and once it
is closed nothing is written. -/
theorem view_sendCloseFrame {e : Endpoint} (h : e.readyState = .closing ∨ e.readyState = .closed)
    (code : Nat) (reason : StdString) : (e.sendCloseFrame env code reason).view = e.view := by
  rcases h with hclosing | hclosed
  · obtain ⟨txbuf, sends, socketOpen, hsent⟩ := sendCloseFrame_closing env hclosing code reason
    rw [hsent]
    rfl
  · have hnone (message : StdString) : (e.sendData env .close message).2 = e := by
      rw [sendData, if_pos (by simp [hclosed])]
    unfold sendCloseFrame
    split <;> rw [hnone]

theorem leads_sendCloseFrame (code : Nat) (reason : StdString) (e : Endpoint) :
    Leads e (e.sendCloseFrame env code reason) := by
  unfold sendCloseFrame
  split <;> exact leads_sendData env .close _ e

/-- `setReadyState(CLOSING)` in `close`, whatever the state is. -/
theorem view_setClosing (code : Nat) (reason : StdString) (e : Endpoint) :
    (e.setClosing code reason).view = (.closing, e.calls.map Call.callback) := by
  unfold setClosing setReadyState
  split
  · rename_i hclosing
    exact congrArg (·, _) hclosing
  · rfl

theorem view_close {e : Endpoint} (hr : e.readyState ≠ .connecting) (code : Nat)
    (reason : StdString) : (e.close env code reason).view
      = (if e.readyState = .opened then .closing else e.readyState, e.calls.map Call.callback) := by
  by_cases hopened : e.readyState = .opened
  · rw [close, if_neg (by rw [hopened]; decide), view_sendCloseFrame env
      (.inl (readyState_setClosing code reason e)), view_setClosing, if_pos hopened]
  · have hdone : e.readyState = .closing ∨ e.readyState = .closed := by
      cases h : e.readyState with
      | closing => exact .inl rfl
      | closed => exact .inr rfl
      | connecting => exact absurd h hr
      | opened => exact absurd h hopened
    rw [close_of_closing env hdone, if_neg hopened]
    rfl

/-- Closing does not lead back to CONNECTING. -/
theorem close_connected {e : Endpoint} (hr : e.readyState ≠ .connecting) (code : Nat)
    (reason : StdString) : (e.close env code reason).readyState ≠ .connecting := by
  rw [show (e.close env code reason).readyState = _ from
    congrArg Prod.fst (view_close env hr code reason)]
  split
  · simp
  · exact hr

theorem leads_close (code : Nat) (reason : StdString) (e : Endpoint) :
    Leads e (e.close env code reason) := by
  intro hr
  refine ⟨⟨[.selfClose], .selfClose ?_⟩, close_connected env hr code reason⟩
  rw [view_close env hr]
  exact .nil _

theorem leads_emitMessage (kind : MessageKind) (message : StdString) (e : Endpoint) :
    Leads e (e.emitMessage env kind message) := by
  unfold emitMessage
  split
  · exact leads_close env _ _ e
  · intro hr
    refine ⟨?_, hr⟩
    have hview : ({ e with calls := e.calls ++ [.message kind message] } : Endpoint).view
        = (e.readyState, e.calls.map Call.callback ++ [(Call.message kind message).callback]) := by
      simp [view]
    rw [hview]
    cases kind with
    | msgText | msgBinary => exact ⟨[.message message], .message message (.nil _)⟩
    | ping | pong | fragment => exact ⟨[.control], .control (.nil _)⟩

theorem leads_checkSequence (opcode : Opcode) (e : Endpoint) :
    Leads e (e.checkSequence env opcode) := by
  unfold checkSequence
  split
  · simp only
    split
    · exact .trans (.of_view rfl) (leads_close env _ _ { e with
        fragmentedMessageKind := if opcode = .textFrame then .msgText else .msgBinary })
    · exact .of_view rfl
  · split
    · exact leads_close env _ _ e
    · exact .refl e

theorem leads_collect (fin : Bool) (frameData : StdString) (e : Endpoint) :
    Leads e (e.collect env fin frameData) := by
  unfold collect
  split
  · exact leads_emitMessage env _ _ e
  · have hadded : Leads e { e with chunks := e.chunks ++ [frameData] } := .of_view rfl
    simp only
    split
    · exact (hadded.trans (leads_emitMessage env _ _ _)).trans (.of_view rfl)
    · exact hadded.trans (leads_emitMessage env _ _ _)

theorem leads_onPing (frameData : StdString) (e : Endpoint) : Leads e (e.onPing env frameData) := by
  unfold onPing
  split
  · exact (leads_sendData env .pong frameData e).trans (leads_emitMessage env _ _ _)
  · exact leads_emitMessage env _ _ e

/-- A close frame that is not the answer to one closes the transport, and the callback is
called, also when it was CLOSED before. -/
theorem view_onClose (frameData : StdString) {e : Endpoint} (hclosing : e.readyState ≠ .closing) :
    (e.onClose env frameData).view = (.closed, e.calls.map Call.callback ++ [.close]) := by
  unfold onClose
  simp only
  rw [if_pos hclosing]
  -- the state is CLOSING while the close frame is sent
  have hsent := view_sendCloseFrame env (.inl (readyState_setReadyState .closing e))
    (closeStatus frameData).1 (closeStatus frameData).2
  have hcalls : (e.setReadyState .closing).calls = e.calls := by
    simp [setReadyState, hclosing]
  generalize (e.setReadyState .closing).sendCloseFrame env _ _ = e' at hsent ⊢
  have hopen : e'.readyState ≠ .closed := by
    have hstate : e'.readyState = .closing :=
      (congrArg Prod.fst hsent).trans (readyState_setReadyState .closing e)
    rw [hstate]
    simp
  rw [view_closeSocketAndSwitchToClosedState hopen,
    show e'.calls.map Call.callback = _ from congrArg Prod.snd hsent, view, hcalls]

/-- A close frame, unless the transport is CLOSED already. -/
theorem leads_onClose (frameData : StdString) {e : Endpoint} (hlate : e.readyState ≠ .closed) :
    Leads e (e.onClose env frameData) := by
  by_cases hclosing : e.readyState = .closing
  · unfold onClose
    simp only
    rw [if_neg (by simp [hclosing])]
    split
    · exact leads_closeSocketAndSwitchToClosedState _ _ _ e
    · exact .refl e
  · have hview := view_onClose env frameData hclosing
    intro hr
    refine ⟨⟨[.shut false], .shut hlate ?_⟩, ?_⟩
    · rw [hview]
      exact .nil _
    · rw [show (e.onClose env frameData).readyState = _ from congrArg Prod.fst hview]
      simp

/-- **A frame is a number of steps of the session.** -/
theorem leads_handleFrame {e : Endpoint} {f : Frame}
    (hlate : ¬(f.opcode = .close ∧ e.readyState = .closed)) : Leads e (e.handleFrame env f) := by
  unfold handleFrame
  cases hopcode : f.opcode with
  | textFrame | binaryFrame | continuation =>
      exact (leads_checkSequence env _ e).trans (leads_collect env _ _ _)
  | ping => exact leads_onPing env _ e
  | pong => exact .trans (.of_view rfl) (leads_emitMessage env .pong f.payload
      { e with pongReceived := true })
  | close => exact leads_onClose env _ fun hclosed => hlate ⟨hopcode, hclosed⟩
  | unnamed bits => exact leads_close env _ _ e

theorem leads_violate (v : Violation) (e : Endpoint) : Leads e (e.violate env v) := by
  cases v with
  | tooLong => exact .refl e
  | reservedBitUsed | controlMessageFragmented | pingPayloadOversized => exact leads_close env _ _ e

end

end Endpoint

/-! ### A connection -/

theorem leads_closeAbnormally (t : Transport) :
    Leads t.toEndpoint t.closeAbnormally.toEndpoint := by
  unfold Transport.closeAbnormally
  simp only
  split
  · exact .trans (.of_view rfl) (Endpoint.leads_setReadyState_closed t.closeSocket)
  · split
    · exact Endpoint.leads_closeSocketAndSwitchToClosedState _ _ _ t.toEndpoint
    · exact .refl _

/-- A poll may shut the connection. -/
theorem leads_poll {c c' : Connection} {pollResult : PollResult} (h : c.Polls pollResult c') :
    Leads c.toEndpoint c'.toEndpoint := by
  cases h with
  | reads => exact .of_view rfl
  | flushFails | delayExceeded =>
      exact .trans (.of_view rfl) (Endpoint.leads_setReadyState_closed c.closeSocket)

end AisLive.WebSocket
