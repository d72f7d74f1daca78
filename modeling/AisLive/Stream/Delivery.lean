/-
From the supervisor to OpenCPN.

The supervisor calls the dialog's callbacks on its own thread, and each of them does
one thing: `CallAfter`, which appends a call to the dialog's pending events.  The GUI
thread takes pending events in order when it is in its event loop, that is, outside
`Start`, `Stop` and `Restart`.  Destroying the dialog first runs `StopAisStream()`, then
the client's destructor, which stops again, and last drops what is still pending.

What arrives in OpenCPN is then a prefix of what `HandleMessage` published, over all
supervisors in the order they were spawned: the sentences of a supervisor are in the
queue before it exits, and the next one is spawned only after that.  The two halves are
`said`, about the client alone, and `delivered`, about the queue.
-/
import AisLive.Stream.Lifecycle

namespace AisLive

open Json Transition

/-! ### What is published -/

/-- The sentence an event hands over, if it is one. -/
def Event.sentence? : Event → Option WxString
  | sentence s => some s
  | _ => none

/-- The sentences `HandleMessage` publishes for one payload. -/
def sentencesOf (parse : StdString → Option Value) (payload : StdString) : List WxString :=
  match handleMessage parse true payload with
  | .ok out => out.sentences
  | .error _ => []

/-- The sentences of the event under way that are still to be handed over. -/
def Session.unpublished (v : Session) : List WxString :=
  match v.stage with
  | .publishing rest => rest
  | _ => []

section

variable {parse : StdString → Option Value} {streaming published : Bool} {v v' : Session}
  {a : RunAction} {evs : List Event}

/-- What a step hands over and what it leaves to be handed over are what was left before
and what it received. -/
theorem Session.sentences_step
    (h : v.step parse streaming published true a = some (v', evs)) :
    evs.filterMap Event.sentence? ++ v'.unpublished
      = v.unpublished ++ (Supervisor.receives a).flatMap (sentencesOf parse) := by
  have hclose : (v.onClose streaming).filterMap Event.sentence? = [] := by
    unfold onClose
    split <;> rfl
  cases move_of_step h with
  | sentence hst => simp [unpublished, hst, Event.sentence?, Supervisor.receives]
  | published hst => simp [unpublished, hst, Supervisor.receives]
  | publish hst hm hrej =>
      simp [unpublished, hst, Event.sentence?, Supervisor.receives, sentencesOf, hm]
  | raise hst hm =>
      simp [unpublished, hst, Event.sentence?, Supervisor.receives, sentencesOf, hm]
  | reject hst hm hrej hrep =>
      rcases handleMessage_ok hm with ⟨-, -, hnone⟩ | ⟨hacc, -⟩
      · simp [unpublished, hst, Event.sentence?, Supervisor.receives, sentencesOf, hm, hnone]
      · rw [hrej] at hacc
        cases hacc
  | shut hst => simp [unpublished, hst, hclose, Supervisor.receives]
  | sendFails hst =>
      rw [List.filterMap_cons_none rfl, hclose]
      simp [unpublished, hst, Supervisor.receives]
  | refused hst ha =>
      have hnone : v.unpublished = [] := by
        unfold unpublished
        split
        · rename_i hpub
          rw [hpub] at hst
          cases hst
        · rfl
      rw [hnone]
      rcases ha with rfl | rfl <;> rfl
  | _ => simp_all [unpublished, Event.sentence?, Supervisor.receives]

end

/-! ### One supervisor -/

namespace Supervisor

variable {D : Type}

/-- The sentences published for the payloads received so far. -/
def published (parse : StdString → Option Value) (v : Supervisor D) : List WxString :=
  v.received.flatMap (sentencesOf parse)

variable {parse : StdString → Option Value} {streaming mutexFree : Bool}
  {onSentence me : Nat} {socket socket' : Option Nat} {v v' : Supervisor D} {a : RunAction}
  {evs : List Event}

/-- Sentences are only left over inside `run()`. -/
theorem unpublished_step
    (h : v.Move parse streaming mutexFree onSentence socket me a v' socket' evs)
    (hv : v.pc ≠ .run → v.session.unpublished = []) :
    v'.pc ≠ .run → v'.session.unpublished = [] := by
  cases h with
  | session hpc => exact fun hne => absurd hpc hne
  | announce => exact fun _ => rfl
  | leave hpc hret =>
      intro _
      simp only [Session.unpublished, hret]
  | publish hpc => exact fun hne => absurd rfl hne
  | _ => exact fun _ => hv (by simp_all)

/-- A step hands over what it publishes, up to what it leaves over. -/
theorem said_published_step
    (h : v.Move parse streaming mutexFree onSentence socket me a v' socket' evs)
    (hset : onSentence ≠ 0) (hv : v.pc ≠ .run → v.session.unpublished = [])
    {before said : List WxString}
    (hsaid : said ++ v.session.unpublished = before ++ v.published parse) :
    said ++ evs.filterMap Event.sentence? ++ v'.session.unpublished
      = before ++ v'.published parse := by
  cases h with
  | session _ _ _ hst =>
      rw [decide_eq_true hset] at hst
      rw [List.append_assoc, Session.sentences_step hst, ← List.append_assoc, hsaid, published,
        published, List.flatMap_append, List.append_assoc]
  | announce hpc =>
      rw [hv (by rw [hpc]; nofun), List.append_nil] at hsaid
      show said ++ [] ++ [] = before ++ v.published parse
      rw [List.append_nil, List.append_nil, hsaid]
  | _ =>
      show said ++ [] ++ v.session.unpublished = before ++ v.published parse
      rw [List.append_nil, hsaid]

end Supervisor

/-! ### The client -/

/-- The sentences handed to the callback, in order. -/
def sentences (log : List Observed) : List WxString := log.filterMap (·.2.sentence?)

theorem sentences_append (log log' : List Observed) :
    sentences (log ++ log') = sentences log ++ sentences log' :=
  List.filterMap_append

theorem sentences_map (i : Nat) (evs : List Event) :
    sentences (evs.map (some i, ·)) = evs.filterMap Event.sentence? := by
  simp only [sentences, List.filterMap_map]
  rfl

/-- Statements of `Start` after the callback is set. -/
def Caller.callbackSet {D : Type} : Caller D → Bool
  | startFlag _ _ => true
  | startSpawn _ _ => true
  | _ => false

theorem flatMap_modify {α β : Type} {f : α → α} {g : α → List β} (hg : ∀ a, g (f a) = g a)
    (l : List α) (i : Nat) : (l.modify i f).flatMap g = l.flatMap g := by
  have hmap : (l.modify i f).map g = l.map g := by
    refine List.ext_getElem? fun j => ?_
    rw [List.getElem?_map, List.getElem?_map, List.getElem?_modify]
    cases l[j]? with
    | none => rfl
    | some a =>
        show some (g (if i = j then f a else a)) = some (g a)
        split
        · rw [hg]
        · rfl
  rw [List.flatMap_def, List.flatMap_def, hmap]

namespace Client

variable {D : Type}

/-- The sentences `ProcessAisEvent` emitted, over all supervisors and all their sessions, in
the order the payloads were received. -/
def emitted (parse : StdString → Option Value) (s : Client D) : List WxString :=
  s.supervisors.flatMap (Supervisor.published parse)

/-- The sentences still to be handed over. -/
def unpublished (s : Client D) : List WxString :=
  s.supervisors.flatMap (·.session.unpublished)

/-- The sentences handed over so far are those emitted, up to those of the event under way. -/
structure Publishing (parse : StdString → Option Value) (s : Client D) : Prop where
  coherent : s.Coherent
  callback : s.caller.callbackSet = true ∨ s.supervisors ≠ [] → s.onSentence ≠ 0
  inRun : ∀ v ∈ s.supervisors, v.pc ≠ .run → v.session.unpublished = []
  said : sentences s.log ++ s.unpublished = s.emitted parse

section

variable [Double D] {parse : StdString → Option Value}

theorem callback_step {s s' : Client D} {a : Action D}
    (h : s.caller.callbackSet = true ∨ s.supervisors ≠ [] → s.onSentence ≠ 0)
    (hstep : (system parse).step s a = some s') :
    s'.caller.callbackSet = true ∨ s'.supervisors ≠ [] → s'.onSentence ≠ 0 := by
  obtain ⟨-, hmove⟩ := move_of_step hstep
  cases hmove with
  | setCallback => exact fun _ => Nat.succ_ne_zero _
  | spawn hc => exact fun _ => h (Or.inl (by rw [hc]; rfl))
  | supervisor hv => exact fun _ => h (Or.inr (List.ne_nil_of_mem (List.mem_of_getElem? hv)))
  | @join next _ _ hc => cases next <;> simp_all [Caller.callbackSet, afterStop]
  | _ => simp_all [Caller.callbackSet, modifySession]

variable (parse) in
omit [Double D] in
/-- `close()` changes nothing that has to do with sentences. -/
theorem publishing_modify {s : Client D} {f : Session → Session}
    (hf : ∀ v : Session, (f v).stage = v.stage) (i : Nat)
    (h : ∀ v ∈ s.supervisors, v.pc ≠ .run → v.session.unpublished = []) :
    (∀ v ∈ (s.modifySession i f).supervisors, v.pc ≠ .run → v.session.unpublished = []) ∧
      (s.modifySession i f).unpublished = s.unpublished ∧
      (s.modifySession i f).emitted parse = s.emitted parse := by
  have hun : ∀ v : Session, (f v).unpublished = v.unpublished := fun v => by
    simp only [Session.unpublished, hf v]
  refine ⟨?_, ?_, ?_⟩
  · intro v hv hne
    obtain ⟨j, hj⟩ := List.mem_iff_getElem?.mp hv
    rw [modifySession, List.getElem?_modify] at hj
    obtain ⟨u, hu, rfl⟩ := Option.map_eq_some_iff.mp hj
    have hu' := h u (List.mem_of_getElem? hu)
    by_cases hij : i = j
    · rw [if_pos hij] at hne ⊢
      exact (hun u.session).trans (hu' hne)
    · rw [if_neg hij] at hne ⊢
      exact hu' hne
  · exact flatMap_modify (fun u : Supervisor D => hun u.session) s.supervisors i
  · exact flatMap_modify (f := fun u : Supervisor D => { u with session := f u.session })
      (fun _ => rfl) s.supervisors i

omit [Double D] in
/-- What the supervisors that have exited left over is nothing. -/
theorem flatMap_unpublished {l : List (Supervisor D)}
    (h : ∀ v ∈ l, v.pc ≠ .run → v.session.unpublished = []) (hex : ∀ v ∈ l, v.pc = .exited) :
    l.flatMap (·.session.unpublished) = [] := by
  refine List.flatMap_eq_nil_iff.mpr fun v hv => h v hv ?_
  rw [hex v hv]
  nofun

/-- **Every step hands over what it publishes, once and in order.** -/
theorem publishing_step {s s' : Client D} {a : Action D} (h : s.Publishing parse)
    (hstep : (system parse).step s a = some s') : s'.Publishing parse := by
  have hcoh := h.coherent
  have hsaid := h.said
  have hmove := (move_of_step hstep).2
  suffices hrest : (∀ v ∈ s'.supervisors, v.pc ≠ .run → v.session.unpublished = []) ∧
      sentences s'.log ++ s'.unpublished = s'.emitted parse from
    ⟨coherent_step hcoh hstep, callback_step h.callback hstep, hrest.1, hrest.2⟩
  cases hmove with
  | refuse =>
      refine ⟨h.inRun, ?_⟩
      show sentences (s.log ++ [_]) ++ s.unpublished = s.emitted parse
      rw [sentences_append, show sentences [_] = [] from rfl, List.append_nil, hsaid]
  | spawn hc =>
      refine ⟨?_, ?_⟩
      · intro v hv hne
        rcases List.mem_append.mp hv with hv | hv
        · exact h.inRun v hv hne
        · rw [List.mem_singleton.mp hv]
          rfl
      · simp only [unpublished, emitted, List.flatMap_append] at hsaid ⊢
        rw [← List.append_assoc, hsaid]
        simp [Session.unpublished, Supervisor.published]
  | @raiseRequest next i =>
      obtain ⟨hrun, hun, hem⟩ :=
        publishing_modify parse (f := Session.raiseRequest) (fun _ => rfl) i h.inRun
      refine ⟨hrun, ?_⟩
      show sentences s.log ++ (s.modifySession i Session.raiseRequest).unpublished
        = (s.modifySession i Session.raiseRequest).emitted parse
      rw [hun, hem, hsaid]
  | @setClosing next i =>
      obtain ⟨hrun, hun, hem⟩ :=
        publishing_modify parse (f := Session.setClosing) (fun _ => rfl) i h.inRun
      refine ⟨hrun, ?_⟩
      show sentences s.log ++ (s.modifySession i Session.setClosing).unpublished
        = (s.modifySession i Session.setClosing).emitted parse
      rw [hun, hem, hsaid]
  | supervisor hv hm =>
      rcases hcoh.threads with hq | ⟨past, w, hlive⟩
      · exact absurd hm (hq.not_move hv)
      · obtain ⟨rfl, rfl⟩ := hlive.moves_last hv hm
        have hlast : s.supervisors = past ++ [_] := hlive.last
        have hmem := List.mem_of_getElem? hv
        have hpast := flatMap_unpublished (fun u hu => h.inRun u (by simp [hlast, hu])) hlive.exited
        have hset : s.onSentence ≠ 0 := h.callback (Or.inr (List.ne_nil_of_mem hmem))
        refine ⟨?_, ?_⟩
        · intro u hu
          rcases List.mem_or_eq_of_mem_set hu with hu | rfl
          · exact h.inRun u hu
          · exact Supervisor.unpublished_step hm (h.inRun _ hmem)
        · simp only [unpublished, emitted, hlast, List.flatMap_append, hpast, List.nil_append,
            List.flatMap_singleton, sentences_append, sentences_map,
            List.set_append_right _ _ (Nat.le_refl _), Nat.sub_self, List.set_cons_zero] at hsaid ⊢
          exact Supervisor.said_published_step hm hset (h.inRun _ hmem) hsaid
  | _ => exact ⟨h.inRun, hsaid⟩

omit [Double D] in
theorem publishing_init : Publishing parse ({} : Client D) :=
  ⟨coherent_init, by simp [Caller.callbackSet], by simp, rfl⟩

omit [Double D] in
/-- The sentences handed over are the first of those emitted. -/
theorem Publishing.sentences_prefix {s : Client D} (h : s.Publishing parse) :
    sentences s.log <+: s.emitted parse :=
  ⟨s.unpublished, h.said⟩

/-- Nothing observed is ever taken back. -/
theorem log_step {s s' : Client D} {a : Action D} (hstep : (system parse).step s a = some s') :
    ∃ evs, s'.log = s.log ++ evs := by
  obtain ⟨-, hmove⟩ := move_of_step hstep
  cases hmove with
  | refuse | supervisor => exact ⟨_, rfl⟩
  | _ => exact ⟨[], (List.append_nil _).symm⟩

end

end Client

/-! ### The GUI thread -/

/-- A call queued by `CallAfter`. -/
inductive Pending
  | sendNmeaSentence (s : WxString)
  | onAisStreamStateChanged (r : Report)
  deriving DecidableEq, Repr

/-- The call a callback queues. -/
def Event.pending? : Event → Option Pending
  | sentence s => some (.sendNmeaSentence s)
  | state _ r => some (.onAisStreamStateChanged r)
  | _ => none

/-- The sentence a queued call passes to `Plugin::sendNmeaSentence`. -/
def Pending.sentence? : Pending → Option WxString
  | sendNmeaSentence s => some s
  | _ => none

/-- `OnAisStreamStateChanged`: the label of the stream state. -/
def onAisStreamStateChanged (r : Report) : WxString :=
  match r.state with
  | .stopped => wx "Stopped"
  | .connecting => wx "Connecting..."
  | .running => wx "Running"
  | .error =>
      if r.detail.isEmpty then wx "Unknown error" else wx "Error" ++ wx " (" ++ r.detail ++ wx ")"

/-- How far the destruction of the dialog has come. -/
inductive DialogPhase
  | alive
  /-- In `~DialogMainGui`: `StopAisStream()`. -/
  | stopping
  /-- In `~AisStreamClient`: `Stop()`. -/
  | closing
  /-- The pending events are gone with the event handler. -/
  | destroyed
  deriving DecidableEq, Repr

/-- The dialog, its client, and what has reached OpenCPN. -/
structure Gui (D : Type) where
  client : Client D := {}
  /-- The pending events of the dialog, oldest first. -/
  pending : List Pending := []
  phase : DialogPhase := .alive
  label : WxString := []
  /-- The arguments of the calls of `Plugin::sendNmeaSentence`, in order. -/
  sent : List WxString := []

/-- What happens next. -/
inductive GuiAction (D : Type)
  /-- A step of the client: a call of the dialog, its next statement, or a supervisor. -/
  | client (a : Action D)
  /-- The event loop takes the oldest pending event. -/
  | dispatch
  /-- `delete` of the dialog. -/
  | destroy
  /-- The next part of the destruction. -/
  | destruct

namespace Gui

variable {D : Type} [Double D]

/-- A step of the client, with what its callbacks queue. -/
def clientStep (parse : StdString → Option Value) (s : Gui D) (a : Action D) : Option (Gui D) :=
  match (Client.system parse).step s.client a with
  | none => none
  | some client =>
      some { s with
        client := client
        pending := s.pending ++
          (client.log.drop s.client.log.length).filterMap fun e => e.2.pending? }

/-- The calling thread is outside the client. -/
def idle (s : Gui D) : Bool :=
  match s.client.caller with
  | .idle => true
  | _ => false

/-- Only the calls under way and the supervisors go on once the destruction has begun. -/
def continues : Action D → Bool
  | .caller => true
  | .supervisor _ _ => true
  | _ => false

/-- **The dialog and its client**, as a transition system. -/
def system (parse : StdString → Option Value) : Transition.System (Gui D) (GuiAction D) where
  step s a :=
    match a with
    | .client a =>
        if s.phase = .alive ∨ (s.phase ≠ .destroyed ∧ continues a = true) then
          s.clientStep parse a
        else none
    | .dispatch =>
        if s.phase = .alive ∧ s.idle = true then
          match s.pending with
          | [] => none
          | .sendNmeaSentence t :: rest => some { s with pending := rest, sent := s.sent ++ [t] }
          | .onAisStreamStateChanged r :: rest =>
              some { s with pending := rest, label := onAisStreamStateChanged r }
        else none
    | .destroy =>
        if s.phase = .alive ∧ s.idle = true then
          -- `StopAisStream` stops only a client that is streaming.
          if s.client.streaming then
            (s.clientStep parse .stop).map fun s' => { s' with phase := .stopping }
          else some { s with phase := .stopping }
        else none
    | .destruct =>
        if s.idle = true then
          match s.phase with
          | .stopping => (s.clientStep parse .stop).map fun s' => { s' with phase := .closing }
          | .closing => some { s with phase := .destroyed, pending := [] }
          | _ => none
        else none

variable {parse : StdString → Option Value}

/-- What has been sent and what is pending are the sentences handed over, until the dialog
is gone. -/
structure Delivering (parse : StdString → Option Value) (s : Gui D) : Prop where
  publishing : s.client.Publishing parse
  delivered : s.sent <+: sentences s.client.log
  pending : s.phase ≠ .destroyed →
    s.sent ++ s.pending.filterMap Pending.sentence? = sentences s.client.log

theorem filterMap_pending (log : List Observed) :
    (log.filterMap fun e => e.2.pending?).filterMap Pending.sentence? = sentences log := by
  rw [List.filterMap_filterMap, sentences]
  refine List.filterMap_congr fun e _ => ?_
  cases e.2 <;> rfl

/-- A step of the client queues what it hands over. -/
theorem delivering_clientStep {s s' : Gui D} {a : Action D} (h : s.Delivering parse)
    (hphase : s.phase ≠ .destroyed) (hstep : s.clientStep parse a = some s') :
    s'.Delivering parse ∧ s'.phase = s.phase := by
  unfold clientStep at hstep
  split at hstep
  · cases hstep
  · rename_i client hclient
    cases hstep
    obtain ⟨evs, hlog⟩ := Client.log_step hclient
    have hnew : client.log.drop s.client.log.length = evs := by
      rw [hlog, List.drop_left]
    refine ⟨⟨Client.publishing_step h.publishing hclient, ?_, fun _ => ?_⟩, rfl⟩
    · rw [hlog, sentences_append]
      exact h.delivered.trans (List.prefix_append _ _)
    · simp only [hnew, List.filterMap_append, filterMap_pending]
      rw [hlog, sentences_append, ← h.pending hphase, List.append_assoc]

omit [Double D] in
/-- A phase of the destruction that leaves the pending events where they are. -/
theorem Delivering.setPhase {s : Gui D} (h : s.Delivering parse) (hphase : s.phase ≠ .destroyed)
    (phase : DialogPhase) : Delivering parse { s with phase } :=
  ⟨h.publishing, h.delivered, fun _ => h.pending hphase⟩

/-- **Every step keeps the sentences in order.** -/
theorem delivering_step {s s' : Gui D} {a : GuiAction D} (h : s.Delivering parse)
    (hstep : (system parse).step s a = some s') : s'.Delivering parse := by
  cases a with
  | client a =>
      simp only [system] at hstep
      split at hstep
      · rename_i hphase
        refine (delivering_clientStep h ?_ hstep).1
        rcases hphase with hphase | hphase
        · rw [hphase]
          nofun
        · exact hphase.1
      · cases hstep
  | dispatch =>
      simp only [system] at hstep
      split at hstep
      · rename_i hphase
        have hall : s.sent ++ s.pending.filterMap Pending.sentence? = sentences s.client.log :=
          h.pending (by rw [hphase.1]; nofun)
        split at hstep
        · cases hstep
        · rename_i t rest hpend
          cases hstep
          have hrest : s.sent ++ [t] ++ rest.filterMap Pending.sentence?
              = sentences s.client.log := by
            rw [← hall, hpend, List.append_assoc]
            rfl
          exact ⟨h.publishing, ⟨_, hrest⟩, fun _ => hrest⟩
        · rename_i r rest hpend
          cases hstep
          refine ⟨h.publishing, h.delivered, fun _ => ?_⟩
          rw [← hall, hpend]
          rfl
      · cases hstep
  | destroy =>
      simp only [system] at hstep
      split at hstep
      · rename_i hphase
        have halive : s.phase ≠ .destroyed := by rw [hphase.1]; nofun
        split at hstep
        · obtain ⟨t, ht, rfl⟩ := Option.map_eq_some_iff.mp hstep
          obtain ⟨hdel, hsame⟩ := delivering_clientStep h halive ht
          exact hdel.setPhase (hsame ▸ halive) _
        · cases hstep
          exact h.setPhase halive _
      · cases hstep
  | destruct =>
      simp only [system] at hstep
      split at hstep
      · split at hstep
        · rename_i hphase
          have halive : s.phase ≠ .destroyed := by rw [hphase]; nofun
          obtain ⟨t, ht, rfl⟩ := Option.map_eq_some_iff.mp hstep
          obtain ⟨hdel, hsame⟩ := delivering_clientStep h halive ht
          exact hdel.setPhase (hsame ▸ halive) _
        · cases hstep
          exact ⟨h.publishing, h.delivered, fun hne => absurd rfl hne⟩
        · cases hstep
      · cases hstep

/--
**Sentences reach OpenCPN in order, once each.**  In every state reached by any calls of
the dialog, any supervisors, payloads and network, any dispatching of the pending events
and any destruction of the dialog, what has been passed to `sendNmeaSentence` is a prefix
of what `ProcessAisEvent` emitted over all sessions of all supervisors, in the order the
payloads were received.
-/
theorem sent_prefix_emitted (parse : StdString → Option Value) (s : Gui D)
    (hreach : (system parse).Reach {} s) : s.sent <+: s.client.emitted parse := by
  have h : s.Delivering parse :=
    hreach.invariant ⟨Client.publishing_init, List.prefix_refl _, fun _ => rfl⟩
      fun _ _ _ hs hstep => delivering_step hs hstep
  exact h.delivered.trans h.publishing.sentences_prefix

/-- A parser that reads two documents: an event with two sentences, and one with one. -/
def parseEvents : StdString → Option Value := fun p =>
  if p = ascii "A" then some (event ["!AIVDM,1", "!AIVDM,2"])
  else if p = ascii "B" then some (event ["!AIVDM,3"])
  else none
where
  event (sentences : List String) : Value :=
    .object [(ascii "type", .string (ascii "event")),
      (ascii "nmea", .array (sentences.map fun s => .string (ascii s)))]

/-- Supervisor `i` publishes its socket, connects, and hands over the sentences of one
payload, `n` of them. -/
def sessionSteps (i : Nat) (payload : String) (n : Nat) : List (Action ℝ) :=
  Client.publishSteps i ++ Client.steps i
    (connectSteps ++ [.proceed, .message (ascii payload)] ++ List.replicate (n + 1) .proceed)

/-- `Restart` by the calling thread, while the session of supervisor `i` is open. -/
noncomputable def restartSteps (i : Nat) : List (Action ℝ) :=
  .restart Client.brest :: List.replicate 6 .caller ++
    Client.steps i (.shut true :: List.replicate 6 .proceed) ++ List.replicate 7 .caller

/-- A session, a `Restart` with one sentence dispatched and one pending, and a second
session. -/
noncomputable def restartedRun : List (GuiAction ℝ) :=
  (Client.startCall ++ sessionSteps 0 "A" 2).map .client ++ List.replicate 3 .dispatch ++
    (restartSteps 0 ++ sessionSteps 1 "B" 1).map .client ++ List.replicate 4 .dispatch

/-- Across the restart the second sentence comes first, and the third is still pending. -/
theorem sent_prefix_emitted_restarted :
    ∃ s, (system parseEvents).run {} restartedRun = some s ∧
      s.sent = [wx "!AIVDM,1\r\n", wx "!AIVDM,2\r\n"] ∧
      s.sent <+: s.client.emitted parseEvents := by
  have hsent : ((system parseEvents).run {} restartedRun).map Gui.sent
      = some [wx "!AIVDM,1\r\n", wx "!AIVDM,2\r\n"] := by
    decide +kernel
  obtain ⟨s, hrun, hs⟩ := Option.map_eq_some_iff.mp hsent
  exact ⟨s, hrun, hs, sent_prefix_emitted parseEvents s (System.reach_of_run hrun)⟩

end Gui

end AisLive
