/-
What one session reports.

The supervisor shows the user one state at a time, so what matters about a session
that ended while streaming was still wanted is the last state it reported, and that
nothing said earlier is contradicted by it: the backoff sleep that follows should be
spent showing the error, with the most specific reason known.

A session is run here on its own, with the one thing the other thread can do to the
callback, clearing `m_streaming`.  The three parts of the property are

  * the last state reported is Error;
  * Running is never reported once Close or Error has been delivered;
  * the generic reason is not reported once a specific one has been.

The library delivers Close in two places: from the poll loop, and from inside the
`send` the Open handler makes, when the write fails.  In the second case the handler
is still running, and reports Running after it.  `session_reports_iff` says that this
is the only way the property fails.
-/
import AisLive.Lib.Transition
import AisLive.Stream.Session
import Mathlib.Data.List.Pairwise

namespace AisLive

open Json Transition

/-- The last state reported. -/
def lastReport (log : List Event) : Option Report := (log.filterMap Event.report?).getLast?

/-- The last state reported is Error. -/
def LastIsError (log : List Event) : Prop := ∃ r, lastReport log = some r ∧ r.state = .error

/-- Running is never reported after the end of the session was delivered. -/
def NoRunningAfterEnd (log : List Event) : Prop :=
  log.Pairwise fun a b => a.endsSession = true → b.isRunning = false

/-- The generic reason is never reported after a specific one. -/
def NoGenericAfterReason (log : List Event) : Prop :=
  log.Pairwise fun a b => a.isReason = true → b.isGeneric = false

/-- **What a session owes the user when it ends and streaming is still wanted.** -/
structure EndsInError (log : List Event) : Prop where
  last : LastIsError log
  running : NoRunningAfterEnd log
  reason : NoGenericAfterReason log

theorem lastReport_append (log evs : List Event) :
    lastReport (log ++ evs) = (lastReport evs).or (lastReport log) := by
  simp only [lastReport, List.filterMap_append, List.getLast?_append]

/-- Appending events that report nothing keeps the last report. -/
theorem LastIsError.append {log evs : List Event} (h : LastIsError log)
    (hevs : lastReport evs = none) : LastIsError (log ++ evs) := by
  obtain ⟨r, hr, he⟩ := h
  exact ⟨r, by rw [lastReport_append, hevs, hr]; rfl, he⟩

/-- Appending events whose last report is an error makes it the last report. -/
theorem lastIsError_append {log evs : List Event} (hevs : LastIsError evs) :
    LastIsError (log ++ evs) := by
  obtain ⟨r, hr, he⟩ := hevs
  exact ⟨r, by rw [lastReport_append, hr]; rfl, he⟩

/-! ### A session on its own -/

/-- A session, what `m_streaming` reads, and what has been observed so far. -/
structure Solo where
  session : Session := {}
  streaming : Bool := true
  log : List Event := []
  deriving DecidableEq, Repr

/-- What happens next: a stage of `run()`, or the other thread clearing
`m_streaming`. -/
inductive SoloAction
  | run (a : RunAction)
  | clearStreaming
  deriving DecidableEq, Repr

section

variable (parse : StdString → Option Value) (onSentence : Bool)

/-- A published session and its callback, with nothing else touching the socket. -/
def solo : System Solo SoloAction where
  step s a :=
    match a with
    | .clearStreaming => some { s with streaming := false }
    | .run a =>
        match s.session.step parse s.streaming true onSentence a with
        | none => none
        | some (v, evs) => some { s with session := v, log := s.log ++ evs }

end

namespace Stage

/-- The connection attempt has not been decided. -/
def undecided : Stage → Bool
  | entry => true
  | connectToUrl _ => true
  | io _ _ _ => true
  | validate _ => true
  | failed _ => true
  | _ => false

/-- The connection attempt is over and its callback has returned. -/
def settled : Stage → Bool
  | loop => true
  | dispatching => true
  | publishing _ => true
  | returned => true
  | _ => false

theorem settled_of_undecided {st : Stage} (h : st.undecided = true) : st.settled = false := by
  cases st <;> first | rfl | cases h

theorem undecided_of_inConnectToUrl {st : Stage} (h : st.inConnectToUrl = true) :
    st.undecided = true := by
  cases st <;> simp_all [inConnectToUrl, undecided]

end Stage

/-- What a session has reported, by the stage it is at, as long as no subscription
write has failed. -/
structure Orderly (s : Solo) : Prop where
  running : NoRunningAfterEnd s.log
  reason : NoGenericAfterReason s.log
  undecided : s.session.stage.undecided = true →
    s.log = [] ∧ s.session.readyState = .closed ∧ s.session.errorReported = false
  connected : s.session.stage = .connected →
    s.log = [] ∧ s.session.readyState = .opened ∧ s.session.errorReported = false
  announce : s.session.stage = .announce →
    (∀ e ∈ s.log, e.endsSession = false) ∧ s.session.readyState = .opened ∧
      s.session.errorReported = false
  /-- Until a reason is known, none has been reported. -/
  unreported : s.session.errorReported = false → ∀ e ∈ s.log, e.isReason = false
  /-- A session that is closed, or has a reason, last reported an error. -/
  last : s.streaming = true → s.session.stage.settled = true →
    s.session.readyState = .closed ∨ s.session.errorReported = true → LastIsError s.log
  /-- `run()` returns only from a closed socket. -/
  returned : s.session.stage = .returned → s.session.readyState = .closed

theorem orderly_init : Orderly {} where
  running := List.Pairwise.nil
  reason := List.Pairwise.nil
  undecided _ := ⟨rfl, rfl, rfl⟩
  connected h := by cases h
  announce h := by cases h
  unreported _ := by simp
  last _ h := by cases h
  returned h := by cases h

/-- A stage of the connection attempt that leaves it undecided and reports nothing. -/
theorem Orderly.stillUndecided {s : Solo} (h : Orderly s)
    (hu : s.session.stage.undecided = true) {v : Session} (hv : v.stage.undecided = true)
    (hr : v.readyState = s.session.readyState)
    (he : v.errorReported = s.session.errorReported) :
    Orderly { s with session := v, log := s.log ++ [] } := by
  obtain ⟨hlog, hclosed, hnone⟩ := h.undecided hu
  refine
    { running := ?_, reason := ?_, undecided := ?_, connected := ?_, announce := ?_,
      unreported := ?_, last := ?_, returned := ?_ }
  · simpa using h.running
  · simpa using h.reason
  · intro _
    exact ⟨by simp [hlog], hr.trans hclosed, he.trans hnone⟩
  · intro hc
    rw [show v.stage = .connected from hc] at hv
    cases hv
  · intro hc
    rw [show v.stage = .announce from hc] at hv
    cases hv
  · intro _ e hmem
    simp [hlog] at hmem
  · intro _ hs
    rw [show v.stage.settled = false from Stage.settled_of_undecided hv] at hs
    cases hs
  · intro hc
    rw [show v.stage = .returned from hc] at hv
    cases hv

/-- A step into a settled stage. -/
theorem Orderly.intoSettled {s : Solo} {v : Session} {evs : List Event} (h : Orderly s)
    (hv : v.stage.settled = true)
    (hrun : NoRunningAfterEnd evs)
    (hrunAfter : ∀ a ∈ s.log, a.endsSession = true → ∀ b ∈ evs, b.isRunning = false)
    (hgen : NoGenericAfterReason evs)
    (hgenAfter : ∀ a ∈ s.log, a.isReason = true → ∀ b ∈ evs, b.isGeneric = false)
    (hunrep : v.errorReported = false →
      s.session.errorReported = false ∧ ∀ e ∈ evs, e.isReason = false)
    (hlast : s.streaming = true → v.readyState = .closed ∨ v.errorReported = true →
      LastIsError (s.log ++ evs))
    (hret : v.stage = .returned → v.readyState = .closed) :
    Orderly { s with session := v, log := s.log ++ evs } := by
  refine
    { running := ?_, reason := ?_, undecided := ?_, connected := ?_, announce := ?_,
      unreported := ?_, last := ?_, returned := ?_ }
  · exact List.pairwise_append.mpr ⟨h.running, hrun, fun a ha b hb hend => hrunAfter a ha hend b hb⟩
  · exact List.pairwise_append.mpr ⟨h.reason, hgen, fun a ha b hb hrea => hgenAfter a ha hrea b hb⟩
  · intro hu
    rw [Stage.settled_of_undecided hu] at hv
    cases hv
  · intro hc
    rw [show v.stage = .connected from hc] at hv
    cases hv
  · intro hc
    rw [show v.stage = .announce from hc] at hv
    cases hv
  · intro hno e hmem
    obtain ⟨hold, hnew⟩ := hunrep hno
    rcases List.mem_append.mp hmem with hmem | hmem
    · exact h.unreported hold e hmem
    · exact hnew e hmem
  · intro hstr _ hor
    exact hlast hstr hor
  · exact hret

/-- A settled session keeps its order when the step reports nothing and makes it
neither closed nor rejected. -/
theorem Orderly.staySettled {s : Solo} {v : Session} {evs : List Event} (h : Orderly s)
    (hs : s.session.stage.settled = true) (hv : v.stage.settled = true)
    (hquiet : ∀ e ∈ evs, e.report? = none)
    (hr : v.readyState = .closed → s.session.readyState = .closed)
    (he : v.errorReported = s.session.errorReported)
    (hret : v.stage = .returned → v.readyState = .closed) :
    Orderly { s with session := v, log := s.log ++ evs } := by
  have hrun : ∀ e ∈ evs, e.isRunning = false := by
    intro e hmem
    have hq := hquiet e hmem
    cases e <;> simp_all [Event.report?, Event.isRunning]
  have hgen : ∀ e ∈ evs, e.isGeneric = false := by
    intro e hmem
    have hq := hquiet e hmem
    cases e <;> simp_all [Event.report?, Event.isGeneric]
  have hrea : ∀ e ∈ evs, e.isReason = false := by
    intro e hmem
    have hq := hquiet e hmem
    cases e <;> simp_all [Event.report?, Event.isReason]
  have hnone : lastReport evs = none := by
    rw [lastReport, List.filterMap_eq_nil_iff.mpr hquiet]
    rfl
  refine h.intoSettled hv ?_ ?_ ?_ ?_ ?_ ?_ hret
  · exact List.pairwise_of_forall_mem_list fun a _ b hb _ => hrun b hb
  · exact fun a _ _ b hb => hrun b hb
  · exact List.pairwise_of_forall_mem_list fun a _ b hb _ => hgen b hb
  · exact fun a _ _ b hb => hgen b hb
  · exact fun hno => ⟨he ▸ hno, hrea⟩
  · intro hstr hor
    refine (h.last hstr hs ?_).append hnone
    exact hor.imp hr fun hrep => he ▸ hrep

/-- The answer to Close reports the generic reason, or nothing when a specific one is
known. -/
theorem onClose_events (streaming : Bool) (v : Session) :
    (∀ e ∈ v.onClose streaming, e.isRunning = false ∧ e.isReason = false) ∧
      (v.errorReported = true → ∀ e ∈ v.onClose streaming, e.isGeneric = false) ∧
      (v.errorReported = true → lastReport (v.onClose streaming) = none) := by
  unfold Session.onClose
  cases streaming <;> cases v.errorReported <;>
    simp [Event.isRunning, Event.isReason, Event.isGeneric, lastReport, Event.report?]

/-- While streaming is wanted and no reason is known, Close reports an error. -/
theorem lastIsError_onClose {v : Session} (h : v.errorReported = false) :
    LastIsError (v.onClose true) := by
  rw [Session.onClose, h]
  exact ⟨_, rfl, rfl⟩

/-- The callback of Close reports in order, whatever has been reported before. -/
theorem Orderly.closed {s : Solo} {v : Session} (h : Orderly s)
    (hs : s.session.stage.settled = true) (hv : v.stage.settled = true)
    (he : v.errorReported = s.session.errorReported)
    (hret : v.stage = .returned → v.readyState = .closed) :
    Orderly { s with session := v, log := s.log ++ s.session.onClose s.streaming } := by
  obtain ⟨hplain, hgen, hnone⟩ := onClose_events s.streaming s.session
  refine h.intoSettled hv ?_ ?_ ?_ ?_ ?_ ?_ hret
  · exact List.pairwise_of_forall_mem_list fun a _ b hb _ => (hplain b hb).1
  · exact fun a _ _ b hb => (hplain b hb).1
  · refine List.pairwise_of_forall_mem_list fun a ha b _ hrea => ?_
    rw [(hplain a ha).2] at hrea
    cases hrea
  · intro a ha hrea b hb
    cases hrep : s.session.errorReported with
    | true => exact hgen hrep b hb
    | false =>
        rw [h.unreported hrep a ha] at hrea
        cases hrea
  · exact fun hno => ⟨he.symm.trans hno, fun e he => (hplain e he).2⟩
  · intro hstr _
    cases hrep : s.session.errorReported with
    | true => exact (h.last hstr hs (Or.inr hrep)).append (hnone hrep)
    | false => exact lastIsError_append (hstr ▸ lastIsError_onClose hrep)

section

variable {parse : StdString → Option Value} {onSentence : Bool}

/-- **Every step but a failed send keeps the reports in order.** -/
theorem orderly_step {s s' : Solo} {a : SoloAction} (h : Orderly s)
    (hok : a ≠ .run .sendFails) (hstep : (solo parse onSentence).step s a = some s') :
    Orderly s' := by
  cases a with
  | clearStreaming =>
      cases hstep
      exact { h with last := fun hstr => by cases hstr }
  | run a =>
      simp only [solo] at hstep
      split at hstep
      · cases hstep
      · rename_i v evs hv
        cases hstep
        cases Session.move_of_step hv with
        | skipConnect hst hr =>
            obtain ⟨-, hclosed, -⟩ := h.undecided (by rw [hst]; rfl)
            rw [hclosed] at hr
            rcases hr with hr | hr <;> cases hr
        | callConnect hst | startHandshake hst | poll hst | retry hst | nextIo hst
        | headersRead hst | redirected hst =>
            exact h.stillUndecided (by rw [hst]; rfl) rfl rfl rfl
        | refused hst =>
            exact h.stillUndecided (Stage.undecided_of_inConnectToUrl hst) rfl rfl rfl
        | accepted hst =>
            obtain ⟨hlog, -, hnone⟩ := h.undecided (by rw [hst]; rfl)
            exact
              { running := by simpa using h.running
                reason := by simpa using h.reason
                undecided := fun hu => by cases hu
                connected := fun _ => ⟨by simp [hlog], rfl, hnone⟩
                announce := fun hc => by cases hc
                unreported := fun _ e hmem => by simp [hlog] at hmem
                last := fun _ hs => by cases hs
                returned := fun hc => by cases hc }
        | reportFailure hst =>
            obtain ⟨hlog, -, -⟩ := h.undecided (by rw [hst]; rfl)
            refine h.intoSettled rfl ?_ ?_ ?_ ?_ ?_ ?_ fun hc => by cases hc
            · simp [NoRunningAfterEnd, Event.endsSession, Event.isRunning]
            · simp [hlog]
            · simp [NoGenericAfterReason, Event.isReason]
            · simp [hlog]
            · intro hno
              cases hno
            · exact fun _ _ => lastIsError_append ⟨_, rfl, rfl⟩
        | subscribe hst | skipSubscribe hst =>
            obtain ⟨hlog, hopen, hnone⟩ := h.connected hst
            exact
              { running := by simp [hlog, NoRunningAfterEnd, Event.isRunning]
                reason := by simp [hlog, NoGenericAfterReason, Event.isReason]
                undecided := fun hu => by cases hu
                connected := fun hc => by cases hc
                announce := fun _ => ⟨by simp [hlog, Event.endsSession], hopen, hnone⟩
                unreported := fun _ => by simp [hlog, Event.isReason]
                last := fun _ hs => by cases hs
                returned := fun hc => by cases hc }
        | sendFails => exact absurd rfl hok
        | reportRunning hst =>
            obtain ⟨hends, hopen, hnone⟩ := h.announce hst
            refine h.intoSettled rfl ?_ ?_ ?_ ?_ ?_ ?_ fun hc => by cases hc
            · exact List.pairwise_singleton _ _
            · intro a ha hend
              rw [hends a ha] at hend
              cases hend
            · exact List.pairwise_singleton _ _
            · simp [Event.isGeneric]
            · simp [hnone, Event.isReason]
            · intro _ hor
              simp [hopen, hnone] at hor
        | leave hst hr =>
            exact h.staySettled (by rw [hst]; rfl) rfl (by simp) id rfl fun _ => hr
        | pollSocket hst | endDispatch hst | published hst | sentence hst | publish hst =>
            exact h.staySettled (by rw [hst]; rfl) rfl (by simp [Event.report?]) id rfl
              fun hc => by cases hc
        | control hst | raise hst =>
            exact h.staySettled (by rw [hst]; rfl) (by rw [hst]; rfl) (by simp [Event.report?]) id
              rfl fun hc => absurd (hst.symm.trans hc) nofun
        | selfClose hst =>
            refine h.staySettled (by rw [hst]; rfl) (by rw [hst]; rfl) (by simp) ?_ rfl
              fun hc => absurd (hst.symm.trans hc) nofun
            intro hr
            change (if s.session.readyState = .opened then ReadyState.closing
              else s.session.readyState) = .closed at hr
            split at hr
            · cases hr
            · exact hr
        | reject hst =>
            refine h.intoSettled (by rw [hst]; rfl) ?_ ?_ ?_ ?_ ?_ ?_
              fun hc => absurd (hst.symm.trans hc) nofun
            · simp [NoRunningAfterEnd, Event.isRunning]
            · simp [Event.isRunning]
            · simp [NoGenericAfterReason, Event.isReason]
            · simp [Event.isGeneric]
            · intro hno
              cases hno
            · exact fun _ _ => lastIsError_append ⟨_, rfl, rfl⟩
        | shut hst hr =>
            exact h.closed (by rw [hst]; rfl) (by rw [hst]; rfl) rfl
              fun hc => absurd (hst.symm.trans hc) nofun

/-- A subscription write has failed: Close was delivered inside the Open handler, and
the handler has reported Running after it or is about to. -/
def Spoiled (s : Solo) : Prop :=
  (s.session.stage = .announce ∧ ∃ e ∈ s.log, e.endsSession = true) ∨ ¬ NoRunningAfterEnd s.log

theorem spoiled_sendFails {s s' : Solo}
    (hstep : (solo parse onSentence).step s (.run .sendFails) = some s') : Spoiled s' := by
  simp only [solo] at hstep
  split at hstep
  · cases hstep
  · rename_i v evs hv
    cases hstep
    cases Session.move_of_step hv with
    | sendFails =>
        exact Or.inl ⟨rfl, .callback .close, by simp [Session.onClose], rfl⟩
    | refused _ ha => rcases ha with ha | ha <;> cases ha

theorem spoiled_step {s s' : Solo} {a : SoloAction} (h : Spoiled s)
    (hstep : (solo parse onSentence).step s a = some s') : Spoiled s' := by
  cases a with
  | clearStreaming =>
      cases hstep
      exact h
  | run a =>
      simp only [solo] at hstep
      split at hstep
      · cases hstep
      · rename_i v evs hv
        cases hstep
        rcases h with ⟨hann, e, hmem, hend⟩ | hbad
        · -- The only stage after the locked send is the report of Running.
          refine Or.inr fun hpair => ?_
          cases Session.move_of_step hv with
          | reportRunning =>
              have hno := (List.pairwise_append.mp hpair).2.2 e hmem _ List.mem_cons_self hend
              cases hno
          | refused hst => rw [hann] at hst; cases hst
          | _ => simp_all
        · exact Or.inr fun hpair => hbad (List.pairwise_append.mp hpair).1

end

/--
**What a session reports before the backoff sleep.**  In every run of a session that
ends while streaming is wanted, the last state reported is Error, Running is never
reported after Close or Error, and no specific reason is followed by the generic one,
exactly when the write of the subscription did not fail inside the Open handler.
-/
theorem session_reports_iff (parse : StdString → Option Value) (onSentence : Bool)
    (actions : List SoloAction) (s : Solo)
    (hrun : (solo parse onSentence).run {} actions = some s)
    (hret : s.session.stage = .returned) (hstr : s.streaming = true) :
    EndsInError s.log ↔ SoloAction.run .sendFails ∉ actions := by
  constructor
  · intro hends hmem
    have hspoiled : Spoiled s :=
      System.run_of_mem (fun _ _ h => spoiled_sendFails h) (fun _ _ _ h => spoiled_step h) hmem
        hrun
    rcases hspoiled with ⟨hann, -⟩ | hbad
    · rw [hret] at hann
      cases hann
    · exact hbad hends.running
  · intro hno
    have horderly : Orderly s :=
      System.run_invariant (A := fun a => a ≠ .run .sendFails)
        (fun _ _ _ h hok => orderly_step h hok) (fun a ha heq => hno (heq ▸ ha)) orderly_init hrun
    have hsettled : s.session.stage.settled = true := by rw [hret]; rfl
    exact ⟨horderly.last hstr hsettled (Or.inl (horderly.returned hret)), horderly.running,
      horderly.reason⟩

/-- A run whose subscription write fails: Close is delivered inside the Open handler,
and Running is reported after it. -/
def failedSendRun : List SoloAction :=
  [.run .proceed, .run .proceed,
    .run .proceed, .run .done, .run .proceed, .run .done, .run .proceed, .run .done,
    .run .proceed, .run .done, .run .done, .run .sendFails, .run .proceed, .run .proceed]

/-- A run of a session that connects, is rejected by the server and is then closed. -/
def rejectedRun : List SoloAction :=
  failedSendRun.take 11 ++ [.run .proceed, .run .proceed, .run .proceed,
    .run (.message (ascii "E")), .run (.shut true), .run .proceed, .run .proceed]

/-- A parser that reads one document, a server error frame. -/
def parseErrorFrame : StdString → Option Value := fun p =>
  if p = ascii "E" then
    some (.object [(ascii "type", .string (ascii "error")),
      (ascii "error", .string (ascii "quota"))])
  else none

/-- The rejected session ends in Error, with the server's reason and nothing after it. -/
theorem session_reports_iff_rejected :
    ∃ s, (solo parseErrorFrame true).run {} rejectedRun = some s ∧ EndsInError s.log := by
  refine ⟨_, rfl, ?_⟩
  exact (session_reports_iff parseErrorFrame true rejectedRun _ rfl rfl rfl).mpr (by decide)

/-- With streaming still wanted, the session whose send failed leaves Running shown. -/
theorem failed_send_shows_running :
    ∃ s, (solo parseErrorFrame true).run {} failedSendRun = some s ∧
      s.session.stage = .returned ∧ s.streaming = true ∧
      lastReport s.log = some ⟨.running, []⟩ ∧ ¬ EndsInError s.log := by
  refine ⟨_, rfl, rfl, rfl, rfl, ?_⟩
  rintro ⟨⟨r, hr, he⟩, -, -⟩
  cases hr
  cases he

end AisLive
