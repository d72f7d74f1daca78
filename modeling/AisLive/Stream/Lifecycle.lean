/-
The lifecycle of the client.

Between calls the client is in one of two states.  It is quiet: every supervisor
ever spawned has exited, none is joinable, no socket is published.  Or it is live:
the supervisor spawned last may still run, `m_thread` names it, and `m_socket` is
its socket exactly while it is inside or just past `run()`.  `Coherent` says which
of the two goes with each statement of the calling thread, and it survives every
step of either thread.

What the user is told is kept next to it.  The reports of one supervisor form a
block: Stopped alone, or Connecting, any number of reports that are not Stopped, and
Stopped.  `Reported` says that the log is made of such blocks, in the order the
supervisors were spawned, with a last one still open while its supervisor lives.

`lifecycle_safe` collects what follows for every reachable state.
-/
import AisLive.Real
import AisLive.Stream.Client

namespace AisLive

open Json Transition

/-! ### Program points -/

namespace SupervisorPc

/-- The points at which the session's socket is in `m_socket`. -/
def published : SupervisorPc → Bool
  | run => true
  | teardown => true
  | _ => false

/-- The points from the publication of a socket on that lead to the end of the thread
once `m_streaming` is false. -/
def pastPublication : SupervisorPc → Bool
  | run => true
  | teardown => true
  | recheck => true
  | stop => true
  | exited => true
  | _ => false

/-- The points from which the thread only says goodbye. -/
def leaving : SupervisorPc → Bool
  | stop => true
  | exited => true
  | _ => false

/-- The points reached before anything was reported. -/
def silent : SupervisorPc → Bool
  | test => true
  | announce => true
  | stop => true
  | _ => false

theorem pastPublication_of_published {pc : SupervisorPc} (h : pc.published = true) :
    pc.pastPublication = true := by
  cases pc <;> first | rfl | cases h

end SupervisorPc

/-! ### Blocks of reports -/

/-- A report and the supervisor it came from, none for the calling thread. -/
abbrev Reports := List (Option Nat × Report)

/-- The reports among the events. -/
def reports (log : List Observed) : Reports :=
  log.filterMap fun e => e.2.report?.map (e.1, ·)

theorem reports_append (log log' : List Observed) :
    reports (log ++ log') = reports log ++ reports log' :=
  List.filterMap_append

/-- The reports of supervisor `i` among its own events. -/
theorem reports_map (i : Nat) (evs : List Event) :
    reports (evs.map (some i, ·)) = (evs.filterMap Event.report?).map (some i, ·) := by
  simp only [reports, List.filterMap_map, List.map_filterMap]
  rfl

/-- What a supervisor has reported before its last report. -/
inductive OpenBlock : List Report → Prop
  | empty : OpenBlock []
  | started {rest : List Report} (h : ∀ r ∈ rest, r.state ≠ .stopped) :
      OpenBlock (⟨.connecting, []⟩ :: rest)

/-- What a supervisor has reported when it has exited: Stopped, or Connecting, other
reports, and Stopped. -/
def Block (b : List Report) : Prop := ∃ b', OpenBlock b' ∧ b = b' ++ [⟨.stopped, []⟩]

/-- The refusal of a `Start` for want of a token. -/
def refusal : Report := ⟨.error, wx "Token is missing"⟩

/-- The reports of supervisors `0` to `n - 1`, one block each, and refusals in between. -/
inductive Blocks : Nat → Reports → Prop
  | nil : Blocks 0 []
  | refusal {n : Nat} {log : Reports} (h : Blocks n log) : Blocks n (log ++ [(none, refusal)])
  | block {n : Nat} {log : Reports} {b : List Report} (h : Blocks n log) (hb : Block b) :
      Blocks (n + 1) (log ++ b.map (some n, ·))

theorem OpenBlock.append {b rest : List Report} (h : OpenBlock b) (hne : b ≠ [])
    (hrest : ∀ r ∈ rest, r.state ≠ .stopped) : OpenBlock (b ++ rest) := by
  cases h with
  | empty => exact absurd rfl hne
  | @started old hold =>
      refine OpenBlock.started fun r hr => ?_
      rcases List.mem_append.mp hr with hr | hr
      · exact hold r hr
      · exact hrest r hr

/-- A session reports Running and Error only. -/
theorem Session.reports_ne_stopped {parse : StdString → Option Value}
    {streaming published onSentence : Bool} {v v' : Session} {a : RunAction} {evs : List Event}
    (h : v.step parse streaming published onSentence a = some (v', evs)) :
    ∀ r ∈ evs.filterMap Event.report?, r.state ≠ .stopped := by
  have hclose : ∀ r ∈ (v.onClose streaming).filterMap Event.report?, r.state ≠ .stopped := by
    unfold Session.onClose
    split <;> simp [Event.report?]
  cases Session.move_of_step h with
  | sendFails => simpa [Event.report?] using hclose
  | shut => exact hclose
  | _ => simp [Event.report?]

/-! ### One supervisor -/

namespace Supervisor

variable {D : Type} {parse : StdString → Option Value} {streaming mutexFree : Bool}
  {onSentence me : Nat} {socket socket' : Option Nat} {v v' : Supervisor D} {a : RunAction}
  {evs : List Event}

/-- What `m_socket` holds when the supervisor `me` is the only one that can publish. -/
def slot (me : Nat) (v : Supervisor D) : Option Nat := if v.pc.published then some me else none

/-- An exited supervisor does nothing. -/
theorem not_exited (h : v.Move parse streaming mutexFree onSentence socket me a v' socket' evs) :
    v.pc ≠ .exited := by
  intro hex
  cases h <;> simp_all

theorem slot_step (h : v.Move parse streaming mutexFree onSentence socket me a v' socket' evs)
    (hs : socket = v.slot me) : socket' = v'.slot me := by
  cases h with
  | test hpc => cases streaming <;> simp [hs, slot, hpc, SupervisorPc.published]
  | session hpc => simpa [slot, hpc] using hs
  | doze hpc | leave hpc | publish hpc | teardown hpc | announce hpc | giveUp hpc | finish hpc
    | backOff hpc | wake hpc | advance hpc | stop hpc =>
      simp [hs, slot, hpc, SupervisorPc.published]

/-- While streaming is wanted the supervisor does not leave its loop. -/
theorem stays (h : v.Move parse true mutexFree onSentence socket me a v' socket' evs)
    (hv : v.pc.leaving = false) : v'.pc.leaving = false := by
  cases h <;> simp_all [SupervisorPc.leaving]

/-- Once streaming is not wanted, a supervisor past the publication of its socket comes
to no other one. -/
theorem pastPublication_step
    (h : v.Move parse false mutexFree onSentence socket me a v' socket' evs)
    (hv : v.pc.pastPublication = true) : v'.pc.pastPublication = true := by
  cases h <;> simp_all [SupervisorPc.pastPublication]

/-- Once streaming is not wanted, nothing is published. -/
theorem no_publication (h : v.Move parse false mutexFree onSentence socket me a v' socket' evs) :
    socket' = socket ∨ socket' = none := by
  cases h <;> first | exact Or.inl rfl | exact Or.inr rfl | simp_all

/-- A session keeps the mark that `close()` was called on it until the next one. -/
theorem closeCalled_step
    (h : v.Move parse streaming mutexFree onSentence socket me a v' socket' evs)
    (hpc : v.pc.pastPublication = true) (hv : v.session.closeCalled = true) :
    v'.session.closeCalled = true := by
  cases h with
  | session _ _ _ hst =>
      cases Session.move_of_step hst <;> exact hv
  | announce h => rw [h] at hpc; cases hpc
  | _ => exact hv

/-- The section of `m_socketMutex` keeps the supervisor where it is, apart from the end of
its sleep. -/
theorem published_step
    (h : v.Move parse streaming false onSentence socket me a v' socket' evs) :
    v'.pc.published = v.pc.published := by
  cases h with
  | test hpc => cases streaming <;> simp [hpc, SupervisorPc.published]
  | session => rfl
  | doze hpc | leave hpc | announce hpc | finish hpc | backOff hpc | wake hpc | advance hpc
    | stop hpc => simp [hpc, SupervisorPc.published]
  | publish _ hm | giveUp _ hm | teardown _ hm => cases hm

/-- What a supervisor at a program point has reported. -/
def Said (v : Supervisor D) (b : List Report) : Prop :=
  if v.pc = .exited then Block b else OpenBlock b ∧ (b = [] → v.pc.silent = true)

theorem said_step (h : v.Move parse streaming mutexFree onSentence socket me a v' socket' evs)
    {b : List Report} (hb : v.Said b) : v'.Said (b ++ evs.filterMap Event.report?) := by
  unfold Said at hb
  rw [if_neg (not_exited h)] at hb
  obtain ⟨hopen, hsilent⟩ := hb
  cases h with
  | stop hpc => exact ⟨b, hopen, rfl⟩
  | announce hpc =>
      refine ⟨?_, by simp [Event.report?]⟩
      cases hopen with
      | empty => exact OpenBlock.started (by simp)
      | started hold => exact (OpenBlock.started hold).append (by simp) (by simp [Event.report?])
  | session hpc _ _ hst =>
      have hne : b ≠ [] := fun hnil => by
        have hpc' := hsilent hnil
        rw [hpc] at hpc'
        cases hpc'
      simp only [Said, hpc]
      exact ⟨hopen.append hne (Session.reports_ne_stopped hst), by simp [hne]⟩
  | test hpc =>
      rw [List.filterMap_nil, List.append_nil]
      cases streaming <;> exact ⟨hopen, fun _ => rfl⟩
  | doze hpc | leave hpc | finish hpc | backOff hpc | wake hpc | advance hpc | publish hpc
    | giveUp hpc | teardown hpc =>
      rw [List.filterMap_nil, List.append_nil]
      refine ⟨hopen, fun hnil => ?_⟩
      have hpc' := hsilent hnil
      rw [hpc] at hpc'
      cases hpc'

end Supervisor

/-! ### The threads -/

theorem modify_concat_length {α : Type} (l : List α) (a : α) (f : α → α) :
    (l ++ [a]).modify l.length f = l ++ [f a] := by
  induction l with
  | nil => rfl
  | cons b l ih => rw [List.cons_append, List.length_cons, List.modify_succ_cons, ih,
      List.cons_append]

/-- What the supervisors have a part in, `m_streaming` apart. -/
structure Threads (D : Type) where
  supervisors : List (Supervisor D)
  thread : Option Nat
  socket : Option Nat
  log : List Observed

/-- The threads of a client. -/
def Client.threads {D : Type} (s : Client D) : Threads D :=
  ⟨s.supervisors, s.thread, s.socket, s.log⟩

namespace Threads

variable {D : Type} {t : Threads D} {past : List (Supervisor D)} {v : Supervisor D}

/-- No supervisor is left. -/
structure Quiet (t : Threads D) : Prop where
  exited : ∀ v ∈ t.supervisors, v.pc = .exited
  thread : t.thread = none
  socket : t.socket = none
  blocks : Blocks t.supervisors.length (reports t.log)

/-- The supervisor spawned last is `v`; those before it have exited. -/
structure Live (t : Threads D) (past : List (Supervisor D)) (v : Supervisor D) : Prop where
  last : t.supervisors = past ++ [v]
  exited : ∀ u ∈ past, u.pc = .exited
  thread : t.thread = some past.length
  socket : t.socket = v.slot past.length
  blocks : ∃ log b, reports t.log = log ++ b.map (some past.length, ·) ∧
    Blocks past.length log ∧ v.Said b

/-- The threads after a step of supervisor `i`. -/
def stepped (t : Threads D) (i : Nat) (v' : Supervisor D) (socket : Option Nat)
    (evs : List Event) : Threads D :=
  ⟨t.supervisors.set i v', t.thread, socket, t.log ++ evs.map (some i, ·)⟩

theorem Live.getElem? (h : t.Live past v) : t.supervisors[past.length]? = some v := by
  rw [h.last]
  exact List.getElem?_concat_length

section

variable {parse : StdString → Option Value} {streaming mutexFree : Bool} {onSentence i : Nat}
  {socket : Option Nat} {u v' : Supervisor D} {a : RunAction} {evs : List Event}

theorem Quiet.not_move (h : t.Quiet) (hu : t.supervisors[i]? = some u) :
    ¬ u.Move parse streaming mutexFree onSentence t.socket i a v' socket evs :=
  fun hm => Supervisor.not_exited hm (h.exited u (List.mem_of_getElem? hu))

/-- Only the supervisor spawned last can take a step. -/
theorem Live.moves_last (h : t.Live past v) (hu : t.supervisors[i]? = some u)
    (hm : u.Move parse streaming mutexFree onSentence t.socket i a v' socket evs) :
    i = past.length ∧ u = v := by
  rw [h.last, List.getElem?_append] at hu
  split at hu
  · exact absurd (h.exited u (List.mem_of_getElem? hu)) (Supervisor.not_exited hm)
  · rename_i hge
    obtain ⟨hlt, heq⟩ := List.getElem?_eq_some_iff.mp hu
    rw [List.length_singleton] at hlt
    exact ⟨by omega, by simpa using heq.symm⟩

/-- Only the supervisor spawned last can be alive. -/
theorem Live.alive_last (h : t.Live past v) (hu : t.supervisors[i]? = some u)
    (halive : u.alive = true) : i = past.length := by
  rw [h.last, List.getElem?_append] at hu
  split at hu
  · simp [Supervisor.alive, h.exited u (List.mem_of_getElem? hu)] at halive
  · obtain ⟨hlt, -⟩ := List.getElem?_eq_some_iff.mp hu
    rw [List.length_singleton] at hlt
    omega

/-- **A step of the last supervisor keeps the threads in order.** -/
theorem Live.step (h : t.Live past v)
    (hm : v.Move parse streaming mutexFree onSentence t.socket past.length a v' socket evs) :
    (t.stepped past.length v' socket evs).Live past v' := by
  obtain ⟨log, b, hlog, hblocks, hsaid⟩ := h.blocks
  refine ⟨?_, h.exited, h.thread, Supervisor.slot_step hm h.socket, ?_⟩
  · simp only [stepped, h.last, List.set_append_right _ _ (Nat.le_refl _), Nat.sub_self,
      List.set_cons_zero]
  · refine ⟨log, b ++ evs.filterMap Event.report?, ?_, hblocks, Supervisor.said_step hm hsaid⟩
    simp only [stepped, reports_append, hlog, reports_map, List.map_append, List.append_assoc]

end

/-- The last supervisor has exited: the threads are quiet but for the join. -/
theorem Live.reap (h : t.Live past v) (hex : v.pc = .exited) :
    ({ t with thread := none } : Threads D).Quiet := by
  obtain ⟨log, b, hlog, hblocks, hsaid⟩ := h.blocks
  refine ⟨?_, rfl, ?_, ?_⟩
  · intro u hu
    rw [show u ∈ t.supervisors ↔ u ∈ past ++ [v] by rw [h.last]] at hu
    rcases List.mem_append.mp hu with hu | hu
    · exact h.exited u hu
    · rw [List.mem_singleton.mp hu, hex]
  · show t.socket = none
    rw [h.socket, Supervisor.slot, hex]
    rfl
  · rw [Supervisor.Said, if_pos hex] at hsaid
    show Blocks t.supervisors.length (reports t.log)
    rw [hlog, h.last, List.length_append]
    exact hblocks.block hsaid

/-- Changing the session of the last supervisor and nothing else. -/
theorem Live.modify (h : t.Live past v) (f : Session → Session) :
    ({ t with supervisors := t.supervisors.modify past.length fun v =>
        { v with session := f v.session } } : Threads D).Live past
      { v with session := f v.session } := by
  refine ⟨?_, h.exited, h.thread, h.socket, h.blocks⟩
  simp only [h.last, modify_concat_length]

/-- A new supervisor. -/
theorem Quiet.spawn (h : t.Quiet) (hpc : v.pc = .test) :
    (⟨t.supervisors ++ [v], some t.supervisors.length, t.socket, t.log⟩ : Threads D).Live
      t.supervisors v := by
  refine ⟨rfl, h.exited, rfl, ?_, reports t.log, [], by simp, h.blocks, ?_⟩
  · show t.socket = _
    rw [h.socket, Supervisor.slot, hpc]
    rfl
  · rw [Supervisor.Said, hpc]
    exact ⟨OpenBlock.empty, fun _ => rfl⟩

/-- A refused `Start`. -/
theorem Quiet.refuse (h : t.Quiet) :
    ({ t with log := t.log ++ [(none, .state none refusal)] } : Threads D).Quiet := by
  refine ⟨h.exited, h.thread, h.socket, ?_⟩
  show Blocks t.supervisors.length (reports (t.log ++ _))
  rw [reports_append]
  exact h.blocks.refusal

end Threads

/-- Statements that lead to no new supervisor when streaming is not wanted. -/
def Caller.harmless {D : Type} : Caller D → Bool
  | idle => true
  | restartTest _ => true
  | stopFlag none => true
  | stopLook none => true
  | stopJoin none _ _ => true
  | _ => false

namespace Client

variable {D : Type}

/-! ### What goes with each statement of the calling thread -/

/-- Outside `Start` and `Stop`: live exactly while streaming is wanted. -/
def Settled (s : Client D) : Prop :=
  (s.streaming = false ∧ s.threads.Quiet) ∨
    (s.streaming = true ∧ ∃ past v, s.threads.Live past v ∧ v.pc.leaving = false)

/-- Inside the section `Stop` takes, with the socket of supervisor `i`. -/
def Closing (s : Client D) (i : Nat) (called : Bool) : Prop :=
  s.streaming = false ∧ ∃ past v, s.threads.Live past v ∧ i = past.length ∧
    v.pc.published = true ∧ (called = true → v.session.closeCalled = true)

/-- What goes with each statement of the calling thread. -/
def Coherent (s : Client D) : Prop :=
  match s.caller with
  | .idle | .startTest _ | .restartTest _ | .stopFlag _ => s.Settled
  | .startToken _ | .startReap _ _ | .startCallback _ _ | .startFlag _ _ =>
      s.streaming = false ∧ s.threads.Quiet
  | .startSpawn _ _ => s.streaming = true ∧ s.threads.Quiet
  | .stopLook _ =>
      s.streaming = false ∧ (s.threads.Quiet ∨ ∃ past v, s.threads.Live past v)
  | .closeRaise _ i => s.Closing i false
  | .closeLook _ i | .closeWake _ i | .closeSet _ i => s.Closing i true
  | .stopJoin _ found _ =>
      s.streaming = false ∧
        ((s.threads.Quiet ∧ found = none) ∨
          ∃ past v, s.threads.Live past v ∧ ∀ i, found = some i →
            i = past.length ∧ v.pc.pastPublication = true ∧ v.session.closeCalled = true)

theorem coherent_init : (({} : Client D)).Coherent :=
  Or.inl ⟨rfl, by simp [threads], rfl, rfl, Blocks.nil⟩

section

variable {parse : StdString → Option Value}

theorem joinable_eq {s : Client D} {past : List (Supervisor D)} {v : Supervisor D}
    (h : s.threads.Live past v) (hj : s.joinable? = true) : v.pc = .exited := by
  have hthread : s.thread = some past.length := h.thread
  have hget : s.supervisors[past.length]? = some v := h.getElem?
  simp only [joinable?, hthread, hget, Option.any_some, Supervisor.alive] at hj
  simpa using hj

theorem Settled.supervisor {s : Client D} (h : s.Settled) {i : Nat} {a : RunAction}
    {u v' : Supervisor D} {socket : Option Nat} {evs : List Event} {mutexFree : Bool}
    (hu : s.supervisors[i]? = some u)
    (hm : u.Move parse s.streaming mutexFree s.onSentence s.socket i a v' socket evs) :
    s.streaming = true ∧ ∃ past, (s.threads.stepped i v' socket evs).Live past v' ∧
      v'.pc.leaving = false := by
  rcases h with ⟨-, hq⟩ | ⟨hs, past, v, hlive, hpc⟩
  · exact absurd hm (hq.not_move hu)
  · obtain ⟨rfl, rfl⟩ := hlive.moves_last hu hm
    refine ⟨hs, past, hlive.step hm, ?_⟩
    rw [hs] at hm
    exact Supervisor.stays hm hpc

theorem Closing.supervisor {s : Client D} {j : Nat} {called : Bool} (h : s.Closing j called)
    {i : Nat} {a : RunAction} {u v' : Supervisor D} {socket : Option Nat} {evs : List Event}
    (hu : s.supervisors[i]? = some u)
    (hm : u.Move parse s.streaming false s.onSentence s.socket i a v' socket evs) :
    s.streaming = false ∧ ∃ past v, (s.threads.stepped i v' socket evs).Live past v ∧
      j = past.length ∧ v.pc.published = true ∧ (called = true → v.session.closeCalled = true) := by
  obtain ⟨hs, past, v, hlive, rfl, hpc, hcalled⟩ := h
  obtain ⟨rfl, rfl⟩ := hlive.moves_last hu hm
  refine ⟨hs, past, v', hlive.step hm, rfl, ?_, fun hc => ?_⟩
  · rw [Supervisor.published_step hm, hpc]
  · exact Supervisor.closeCalled_step hm (SupervisorPc.pastPublication_of_published hpc)
      (hcalled hc)

/-- A step of a supervisor, wherever the calling thread is. -/
theorem Coherent.supervisor {s : Client D} (h : s.Coherent) {i : Nat} {a : RunAction}
    {u v' : Supervisor D} {socket : Option Nat} {evs : List Event}
    (hu : s.supervisors[i]? = some u)
    (hm : u.Move parse s.streaming (!s.caller.holdsSocketMutex) s.onSentence s.socket i a v' socket
      evs) :
    Coherent { s with
      supervisors := s.supervisors.set i v'
      socket := socket
      log := s.log ++ evs.map (some i, ·)
      terminated := s.terminated || evs.any terminates } := by
  unfold Coherent at h
  cases hc : s.caller with
  | idle | startTest | restartTest | stopFlag =>
      rw [hc] at h
      obtain ⟨hs, past, hlive, hpc⟩ := Settled.supervisor h hu hm
      simp only [Coherent]
      exact Or.inr ⟨hs, past, _, hlive, hpc⟩
  | startToken | startReap | startCallback | startFlag | startSpawn =>
      rw [hc] at h
      exact absurd hm (h.2.not_move hu)
  | stopLook =>
      rw [hc] at h
      obtain ⟨hs, hq | ⟨past, v, hlive⟩⟩ := h
      · exact absurd hm (hq.not_move hu)
      · obtain ⟨rfl, rfl⟩ := hlive.moves_last hu hm
        simp only [Coherent]
        exact ⟨hs, Or.inr ⟨past, _, hlive.step hm⟩⟩
  | closeRaise | closeLook | closeWake | closeSet =>
      rw [hc] at h hm
      simp only [Coherent]
      exact Closing.supervisor h hu hm
  | stopJoin =>
      rw [hc] at h
      obtain ⟨hs, ⟨hq, -⟩ | ⟨past, v, hlive, hfound⟩⟩ := h
      · exact absurd hm (hq.not_move hu)
      · obtain ⟨rfl, rfl⟩ := hlive.moves_last hu hm
        simp only [Coherent]
        refine ⟨hs, Or.inr ⟨past, _, hlive.step hm, fun i hi => ?_⟩⟩
        obtain ⟨hlen, hpast, hcalled⟩ := hfound i hi
        have hkeep := Supervisor.closeCalled_step hm hpast hcalled
        rw [hs] at hm
        exact ⟨hlen, Supervisor.pastPublication_step hm hpast, hkeep⟩

variable [Double D]

/-- **The threads stay in order, whatever the two threads do.** -/
theorem coherent_step {s s' : Client D} {a : Action D} (h : s.Coherent)
    (hstep : (system parse).step s a = some s') : s'.Coherent := by
  obtain ⟨-, hmove⟩ := move_of_step hstep
  have hwhole := h
  unfold Coherent at h
  cases hmove with
  | setToken hc | setTokenEnabled hc =>
      rw [hc] at h
      simp only [Coherent, hc]
      exact h
  | start hc | stop hc | restart hc | startBusy hc | restartBusy hc | restartIdle hc =>
      rw [hc] at h
      exact h
  | startFree hc hs =>
      rw [hc] at h
      rcases h with h | ⟨hs', -⟩
      · exact h
      · rw [hs] at hs'
        cases hs'
  | refuse hc =>
      rw [hc] at h
      exact Or.inl ⟨h.1, h.2.refuse⟩
  | accept hc | setCallback hc =>
      rw [hc] at h
      exact h
  | reap hc =>
      rw [hc] at h
      exact ⟨h.1, h.2.exited, rfl, h.2.socket, h.2.blocks⟩
  | setFlag hc =>
      rw [hc] at h
      exact ⟨rfl, h.2⟩
  | spawnTwice hc ht =>
      rw [hc] at h
      exact absurd h.2.thread ht
  | spawn hc ht =>
      rw [hc] at h
      exact Or.inr ⟨h.1, _, _, h.2.spawn rfl, rfl⟩
  | clearFlag hc =>
      rw [hc] at h
      rcases h with ⟨-, hq⟩ | ⟨-, past, v, hlive, -⟩
      · exact ⟨rfl, Or.inl hq⟩
      · exact ⟨rfl, Or.inr ⟨past, v, hlive⟩⟩
  | lookNone hc =>
      rw [hc] at h
      rcases h with ⟨hs, hq | ⟨past, v, hlive⟩⟩
      · exact ⟨hs, Or.inl ⟨hq, rfl⟩⟩
      · exact ⟨hs, Or.inr ⟨past, v, hlive, nofun⟩⟩
  | @lookSome next i hc hsock =>
      rw [hc] at h
      rcases h with ⟨hs, hq | ⟨past, v, hlive⟩⟩
      · rw [show s.socket = none from hq.socket] at hsock
        cases hsock
      · have hslot : v.slot past.length = some i := hlive.socket.symm.trans hsock
        rw [Supervisor.slot] at hslot
        split at hslot <;> cases hslot
        exact ⟨hs, past, v, hlive, rfl, ‹_›, nofun⟩
  | raiseRequest hc =>
      rw [hc] at h
      obtain ⟨hs, past, v, hlive, rfl, hpc, -⟩ := h
      exact ⟨hs, past, _, hlive.modify Session.raiseRequest, rfl, hpc, fun _ => rfl⟩
  | sawClosed hc | sawOpen hc =>
      rw [hc] at h
      exact h
  | wakePoll hc =>
      rw [hc] at h
      obtain ⟨hs, past, v, hlive, rfl, hpc, hcalled⟩ := h
      refine ⟨hs, Or.inr ⟨past, v, hlive, fun i hi => ?_⟩⟩
      exact ⟨(Option.some.inj hi).symm, SupervisorPc.pastPublication_of_published hpc, hcalled rfl⟩
  | setClosing hc =>
      rw [hc] at h
      obtain ⟨hs, past, v, hlive, rfl, hpc, hcalled⟩ := h
      refine ⟨hs, Or.inr ⟨past, _, hlive.modify Session.setClosing, fun i hi => ?_⟩⟩
      exact ⟨(Option.some.inj hi).symm, SupervisorPc.pastPublication_of_published hpc, hcalled rfl⟩
  | join hc hj =>
      rw [hc] at h
      have hq : ({ s.threads with thread := none } : Threads D).Quiet := by
        rcases h.2 with ⟨hq, -⟩ | ⟨past, v, hlive, -⟩
        · exact ⟨hq.exited, rfl, hq.socket, hq.blocks⟩
        · exact hlive.reap (joinable_eq hlive hj)
      rename_i next _ _
      cases next with
      | none => exact Or.inl ⟨h.1, hq⟩
      | some args => exact Or.inl ⟨h.1, hq⟩
  | supervisor hv hm => exact hwhole.supervisor hv hm

theorem coherent_of_reach {s : Client D} (h : (system parse).Reach {} s) : s.Coherent :=
  h.invariant coherent_init fun _ _ _ hs hstep => coherent_step hs hstep

/-- At rest, in a statement that leads to no new supervisor, with the given log. -/
structure Dormant (log : List Observed) (s : Client D) : Prop where
  streaming : s.streaming = false
  quiet : s.threads.Quiet
  log : s.log = log
  caller : s.caller.harmless = true

theorem dormant_step {s s' : Client D} {a : Action D} {log : List Observed}
    (h : s.Dormant log) (ha : a.starts = false) (hstep : (system parse).step s a = some s') :
    s'.Dormant log := by
  obtain ⟨hs, hq, hlog, hcall⟩ := h
  obtain ⟨-, hmove⟩ := move_of_step hstep
  cases hmove with
  | start => cases ha
  | supervisor hv hm => exact absurd hm (hq.not_move hv)
  | setToken hc | setTokenEnabled hc => exact ⟨hs, hq, hlog, hcall⟩
  | stop hc | restart hc | restartIdle hc => exact ⟨hs, hq, hlog, rfl⟩
  | restartBusy _ hbusy =>
      rw [hs] at hbusy
      cases hbusy
  | @clearFlag next hc =>
      rw [hc] at hcall
      cases next with
      | none => exact ⟨rfl, hq, hlog, rfl⟩
      | some args => cases hcall
  | @lookNone next hc =>
      rw [hc] at hcall
      cases next with
      | none => exact ⟨hs, hq, hlog, rfl⟩
      | some args => cases hcall
  | lookSome hc hsock =>
      rw [show s.socket = none from hq.socket] at hsock
      cases hsock
  | @join next found mark hc =>
      rw [hc] at hcall
      cases next with
      | none => exact ⟨hs, ⟨hq.exited, rfl, hq.socket, hq.blocks⟩, hlog, rfl⟩
      | some args => cases hcall
  | startBusy hc | startFree hc | refuse hc | accept hc | reap hc | setCallback hc | setFlag hc
    | spawnTwice hc | spawn hc | raiseRequest hc | sawClosed hc | sawOpen hc | wakePoll hc
    | setClosing hc =>
      rw [hc] at hcall
      cases hcall

/-! ### What holds in every reachable state -/

omit [Double D] in
theorem Coherent.threads {s : Client D} (h : s.Coherent) :
    s.threads.Quiet ∨ ∃ past v, s.threads.Live past v := by
  unfold Coherent at h
  split at h
  case h_1 | h_2 | h_3 | h_4 =>
    rcases h with ⟨-, hq⟩ | ⟨-, past, v, hlive, -⟩
    · exact Or.inl hq
    · exact Or.inr ⟨past, v, hlive⟩
  case h_5 | h_6 | h_7 | h_8 | h_9 => exact Or.inl h.2
  case h_10 => exact h.2
  case h_11 | h_12 | h_13 | h_14 =>
    obtain ⟨-, past, v, hlive, -⟩ := h
    exact Or.inr ⟨past, v, hlive⟩
  case h_15 =>
    rcases h.2 with ⟨hq, -⟩ | ⟨past, v, hlive, -⟩
    · exact Or.inl hq
    · exact Or.inr ⟨past, v, hlive⟩

omit [Double D] in
/-- While `Stop` is under way streaming is not wanted. -/
theorem Coherent.stopping {s : Client D} (h : s.Coherent) (hc : s.caller.stopping = true) :
    s.streaming = false := by
  unfold Coherent at h
  split at h <;> rename_i hcall <;> rw [hcall] at hc <;> first | exact h.1 | cases hc

omit [Double D] in
theorem quiet_anyAlive {s : Client D} (h : s.threads.Quiet) : s.anyAlive = false := by
  refine List.any_eq_false.mpr fun v hv => ?_
  simp [Supervisor.alive, h.exited v hv]

omit [Double D] in
theorem live_anyAlive {s : Client D} {past : List (Supervisor D)} {v : Supervisor D}
    (h : s.threads.Live past v) : s.anyAlive = v.alive := by
  have hpast : past.any Supervisor.alive = false :=
    List.any_eq_false.mpr fun u hu => by simp [Supervisor.alive, h.exited u hu]
  rw [anyAlive, show s.supervisors = past ++ [v] from h.last, List.any_append, hpast]
  simp

variable (parse) in
/-- **What the lifecycle owes its callers**, in a state of the client. -/
structure LifecycleSafe (s : Client D) : Prop where
  /-- At most one supervisor is alive. -/
  oneAlive : ∀ (i j : Nat) (u v : Supervisor D), s.supervisors[i]? = some u →
    s.supervisors[j]? = some v → u.alive = true → v.alive = true → i = j
  /-- `m_thread` and `m_onSentence` are assigned only when none is. -/
  assigned : ∀ a s', (system parse).step s a = some s' →
    s'.thread ≠ s.thread ∨ s'.onSentence ≠ s.onSentence → s.anyAlive = false
  /-- `m_thread` is not joinable when the new thread is assigned to it. -/
  notJoinable : ∀ args authToken, s.caller = .startSpawn args authToken → s.thread = none
  /-- A socket is published by its supervisor alone, which is alive. -/
  published : ∀ a s' i, (system parse).step s a = some s' → s'.socket = some i →
    s.socket ≠ some i → (∃ r, a = .supervisor i r) ∧
      ∃ v, s.supervisors[i]? = some v ∧ v.alive = true
  /-- No socket is published from the moment `Stop` has cleared the flag to its return. -/
  notPublished : s.caller.stopping = true → ∀ a s', (system parse).step s a = some s' →
    s'.socket = s.socket ∨ s'.socket = none
  /-- `close()` has been called on the socket `Stop` found before it joins. -/
  closed : ∀ next i mark, s.caller = .stopJoin next (some i) mark →
    ∃ v, s.supervisors[i]? = some v ∧ v.session.closeCalled = true
  /-- With no supervisor alive, each one spawned has left one whole block of reports. -/
  blocks : s.anyAlive = false → Blocks s.supervisors.length (reports s.log)
  /-- The supervisor that is alive is in the middle of the last block. -/
  openBlock : ∀ past v, s.supervisors = past ++ [v] → v.alive = true →
    ∃ log b, reports s.log = log ++ b.map (some past.length, ·) ∧ Blocks past.length log ∧
      OpenBlock b
  /-- `IsStreaming()` is true exactly while a supervisor is alive and `Stop` has not begun
  to end it. -/
  streaming : s.caller.spawning = false →
    (s.streaming = true ↔ s.anyAlive = true ∧ s.caller.stopping = false)
  /-- `Stop` returns with streaming not wanted. -/
  stopReturns : ∀ found mark s', s.caller = .stopJoin none found mark →
    (system parse).step s .caller = some s' → s'.caller = .idle ∧ s'.streaming = false
  /-- From then on no callback is invoked before the next `Start`. -/
  silent : s.caller = .idle → s.streaming = false → ∀ actions s',
    (∀ a ∈ actions, a.starts = false) → (system parse).run s actions = some s' → s'.log = s.log

theorem assigned_step {s s' : Client D} {a : Action D} (h : s.Coherent)
    (hstep : (system parse).step s a = some s')
    (hne : s'.thread ≠ s.thread ∨ s'.onSentence ≠ s.onSentence) : s.anyAlive = false := by
  obtain ⟨-, hmove⟩ := move_of_step hstep
  cases hmove with
  | reap hc | setCallback hc | spawn hc =>
      rw [Coherent, hc] at h
      exact quiet_anyAlive h.2
  | join hc hj =>
      rcases h.threads with hq | ⟨past, v, hlive⟩
      · exact quiet_anyAlive hq
      · rw [live_anyAlive hlive, Supervisor.alive, joinable_eq hlive hj]
        rfl
  | _ => rcases hne with hne | hne <;> exact absurd rfl hne

theorem published_step {s s' : Client D} {a : Action D} {i : Nat}
    (hstep : (system parse).step s a = some s') (hi : s'.socket = some i)
    (hne : s.socket ≠ some i) :
    (∃ r, a = .supervisor i r) ∧ ∃ v, s.supervisors[i]? = some v ∧ v.alive = true := by
  obtain ⟨-, hmove⟩ := move_of_step hstep
  cases hmove with
  | @supervisor j r v v' socket evs hv hm =>
      change socket = some i at hi
      cases hm with
      | publish hpc =>
          cases hi
          exact ⟨⟨_, rfl⟩, v, hv, by simp [Supervisor.alive, hpc]⟩
      | teardown => cases hi
      | _ => exact absurd hi hne
  | _ => exact absurd hi hne

theorem socket_step {s s' : Client D} {a : Action D} (hs : s.streaming = false)
    (hstep : (system parse).step s a = some s') : s'.socket = s.socket ∨ s'.socket = none := by
  obtain ⟨-, hmove⟩ := move_of_step hstep
  cases hmove with
  | supervisor hv hm =>
      rw [hs] at hm
      exact Supervisor.no_publication hm
  | _ => exact Or.inl rfl

omit [Double D] in
theorem Coherent.streaming_iff {s : Client D} (h : s.Coherent)
    (hc : s.caller.spawning = false) :
    s.streaming = true ↔ s.anyAlive = true ∧ s.caller.stopping = false := by
  cases hstop : s.caller.stopping with
  | true => simp [h.stopping hstop]
  | false =>
      have hset : s.Settled := by
        unfold Coherent at h
        split at h
        case h_1 | h_2 | h_3 | h_4 => exact h
        case h_5 | h_6 | h_7 | h_8 => exact Or.inl h
        case h_9 hcall =>
          rw [hcall] at hc
          cases hc
        all_goals
          rename_i hcall
          rw [hcall] at hstop
          cases hstop
      rcases hset with ⟨hs, hq⟩ | ⟨hs, past, v, hlive, hpc⟩
      · simp [hs, quiet_anyAlive hq]
      · have halive : v.alive = true := by
          rw [Supervisor.alive, decide_eq_true_eq]
          rintro hex
          rw [hex] at hpc
          cases hpc
        simp [hs, live_anyAlive hlive, halive]

omit [Double D] in
theorem Coherent.blocks {s : Client D} (h : s.Coherent) (hno : s.anyAlive = false) :
    Blocks s.supervisors.length (reports s.log) := by
  rcases h.threads with hq | ⟨past, v, hlive⟩
  · exact hq.blocks
  · rw [live_anyAlive hlive, Supervisor.alive] at hno
    exact (hlive.reap (by simpa using hno)).blocks

omit [Double D] in
theorem Coherent.openBlock {s : Client D} (h : s.Coherent) {past : List (Supervisor D)}
    {v : Supervisor D} (hlast : s.supervisors = past ++ [v]) (halive : v.alive = true) :
    ∃ log b, reports s.log = log ++ b.map (some past.length, ·) ∧ Blocks past.length log ∧
      OpenBlock b := by
  have hne : v.pc ≠ .exited := by simpa [Supervisor.alive] using halive
  rcases h.threads with hq | ⟨past', v', hlive⟩
  · have hmem : v ∈ s.supervisors := by rw [hlast]; exact List.mem_concat_self
    exact absurd (hq.exited v hmem) hne
  · obtain ⟨rfl, hv⟩ := List.append_inj' (hlast.symm.trans hlive.last) rfl
    cases hv
    obtain ⟨log, b, hlog, hblocks, hsaid⟩ := hlive.blocks
    rw [Supervisor.Said, if_neg hne] at hsaid
    exact ⟨log, b, hlog, hblocks, hsaid.1⟩

/--
**The lifecycle of the client is safe.**  In every state reached by any calls of one
thread, any steps of the supervisors and any behaviour of the network: one supervisor
at most is alive and nothing is assigned under it; sockets are published by that one,
never behind the back of `Stop`, and closed before it joins; the reports form one block
for each supervisor; and between `Stop` and the next `Start` nothing is called back.
-/
theorem lifecycle_safe (parse : StdString → Option Value) (s : Client D)
    (hreach : (system parse).Reach {} s) : LifecycleSafe parse s := by
  have h : s.Coherent := coherent_of_reach hreach
  refine
    { oneAlive := ?_, assigned := ?_, notJoinable := ?_, published := ?_, notPublished := ?_,
      closed := ?_, blocks := ?_, openBlock := ?_, streaming := ?_, stopReturns := ?_,
      silent := ?_ }
  · intro i j u v hu hv hualive hvalive
    rcases h.threads with hq | ⟨past, w, hlive⟩
    · simp [Supervisor.alive, hq.exited u (List.mem_of_getElem? hu)] at hualive
    · rw [hlive.alive_last hu hualive, hlive.alive_last hv hvalive]
  · intro a s' hstep hne
    exact assigned_step h hstep hne
  · intro args authToken hc
    rw [Coherent, hc] at h
    exact h.2.thread
  · intro a s' i hstep hi hne
    exact published_step hstep hi hne
  · intro hc a s' hstep
    exact socket_step (h.stopping hc) hstep
  · intro next i mark hc
    rw [Coherent, hc] at h
    obtain ⟨-, ⟨-, hnone⟩ | ⟨past, v, hlive, hfound⟩⟩ := h
    · cases hnone
    · obtain ⟨rfl, -, hcalled⟩ := hfound i rfl
      exact ⟨v, hlive.getElem?, hcalled⟩
  · exact h.blocks
  · intro past v hlast halive
    exact h.openBlock hlast halive
  · exact h.streaming_iff
  · intro found mark s' hc hstep
    obtain ⟨-, hmove⟩ := move_of_step hstep
    cases hmove with
    | join hc' =>
        rw [hc] at hc'
        cases hc'
        exact ⟨rfl, h.stopping (by rw [hc]; rfl)⟩
    | _ => simp_all
  · intro hc hs actions s' hok hrun
    rw [Coherent, hc] at h
    rcases h with ⟨-, hq⟩ | ⟨hs', -⟩
    · have hdormant : s.Dormant s.log := ⟨hs, hq, rfl, by rw [hc]; rfl⟩
      exact (System.run_invariant (A := fun a => a.starts = false)
        (fun _ _ _ hd ha hst => dormant_step hd ha hst) hok hdormant hrun).log
    · rw [hs] at hs'
      cases hs'

end

/-- The arguments of a `Start` near Brest. -/
noncomputable def brest : StreamArgs ℝ :=
  ⟨Double.ofInt 48, Double.ofInt (-5), Double.ofInt 2, false, [], false⟩

/-- `Start` by the calling thread. -/
noncomputable def startCall : List (Action ℝ) := .start brest :: List.replicate 6 .caller

/-- Steps of supervisor `i`. -/
def steps (i : Nat) (as : List RunAction) : List (Action ℝ) := as.map (.supervisor i)

/-- A supervisor's way to the publication of its socket. -/
def publishSteps (i : Nat) : List (Action ℝ) := steps i (List.replicate 3 .proceed)

/-- `Start`, a session that fails to resolve the host, and a `Stop` that comes during the
backoff sleep, to the supervisor's exit. -/
noncomputable def failedSessionRun : List (Action ℝ) :=
  startCall ++ publishSteps 0 ++
    steps 0 ([.proceed, .proceed, .fail (ascii "no host")] ++ List.replicate 5 .proceed) ++
    [.stop, .caller, .caller] ++ steps 0 (List.replicate 4 .proceed) ++ [.caller]

/-- The failed session, stopped while its supervisor sleeps. -/
theorem lifecycle_safe_failedSession :
    ∃ s, (system fun _ => none).run {} failedSessionRun = some s ∧
      reports s.log = [(some 0, ⟨.connecting, []⟩), (some 0, ⟨.error, wx "no host"⟩),
        (some 0, ⟨.stopped, []⟩)] ∧
      LifecycleSafe (fun _ => none) s := by
  have hreports : ((system fun _ => none).run {} failedSessionRun).map (reports ·.log)
      = some [(some 0, ⟨.connecting, []⟩), (some 0, ⟨.error, wx "no host"⟩),
        (some 0, ⟨.stopped, []⟩)] := by
    decide +kernel
  obtain ⟨s, hrun, hlog⟩ := Option.map_eq_some_iff.mp hreports
  exact ⟨s, hrun, hlog, lifecycle_safe _ s (System.reach_of_run hrun)⟩

end Client

end AisLive
