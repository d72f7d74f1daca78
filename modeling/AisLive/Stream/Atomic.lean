/-
The client as its callers see it.

Nothing in the dialog knows of supervisors.  `Start`, `Stop` and `Restart` return having
done one thing to three variables and to the list of subscriptions started so far, and
`StreamClient` says which.

`atomic_run` is why it may be used in place of the threads: a call of the threaded client
has the outcome of the operation, whatever the supervisors do while it runs.
-/
import AisLive.Stream.Lifecycle

namespace AisLive

open Json Transition

/-- What a `Start` that is not refused hands to its supervisor. -/
structure Subscription (D : Type) where
  args : StreamArgs D
  subscribeMsg : SubscribeMessage D
  authToken : StdString
  deriving DecidableEq

/-- The client between calls. -/
structure StreamClient (D : Type) where
  /-- `m_streaming`. -/
  streaming : Bool := false
  /-- `m_useToken`. -/
  useToken : Bool := false
  /-- `m_token`. -/
  token : StdString := []
  /-- Every subscription ever started; the last one is live while streaming. -/
  subscriptions : List (Subscription D) := []
  /-- How often `Start` was refused for want of a token. -/
  refusals : Nat := 0
  deriving DecidableEq

namespace StreamClient

variable {D : Type}

def setToken (token : StdString) (c : StreamClient D) : StreamClient D := { c with token }

def setTokenEnabled (enabled : Bool) (c : StreamClient D) : StreamClient D :=
  { c with useToken := enabled }

/-- The end of a `Start` that is not refused. -/
def subscribe (sub : Subscription D) (c : StreamClient D) : StreamClient D :=
  { c with streaming := true, subscriptions := c.subscriptions ++ [sub] }

def stop (c : StreamClient D) : StreamClient D := { c with streaming := false }

section

variable [Double D]

/-- What `Start` makes of its arguments in the token mode of the client. -/
def subscription (c : StreamClient D) (args : StreamArgs D) : Subscription D where
  args := args
  subscribeMsg := buildSubscribeMessage c.useToken args
  authToken := if c.useToken then c.token else []

def start (args : StreamArgs D) (c : StreamClient D) : StreamClient D :=
  if c.streaming then c
  else if c.useToken && c.token.isEmpty then { c with refusals := c.refusals + 1 }
  else c.subscribe (c.subscription args)

def restart (args : StreamArgs D) (c : StreamClient D) : StreamClient D :=
  if c.streaming then c.stop.start args else c

variable {c : StreamClient D} {args : StreamArgs D}

theorem start_of_streaming (h : c.streaming = true) : c.start args = c := if_pos h

theorem start_refused (h : c.streaming = false) (hu : c.useToken = true) (ht : c.token = []) :
    c.start args = { c with refusals := c.refusals + 1 } := by
  simp [start, h, hu, ht]

theorem start_accepted (h : c.streaming = false) (hu : c.useToken = true → c.token ≠ []) :
    c.start args = c.subscribe (c.subscription args) := by
  rw [start, if_neg (by simp [h]), if_neg]
  rw [Bool.and_eq_true, List.isEmpty_iff]
  exact fun hrefused => hu hrefused.1 hrefused.2

theorem restart_of_streaming (h : c.streaming = true) : c.restart args = c.stop.start args :=
  if_pos h

theorem restart_of_not_streaming (h : c.streaming = false) : c.restart args = c :=
  if_neg (by simp [h])

/-- A `Restart` is not lost on a running client: it subscribes again, or is refused. -/
theorem restart_eq_self_iff : c.restart args = c ↔ c.streaming = false := by
  refine ⟨fun h => ?_, restart_of_not_streaming⟩
  by_contra hs
  rw [Bool.not_eq_false] at hs
  rw [restart_of_streaming hs] at h
  by_cases hrefused : c.useToken = true ∧ c.token = []
  · rw [start_refused (c := c.stop) rfl hrefused.1 hrefused.2] at h
    have hstreaming := congrArg StreamClient.streaming h
    rw [hs] at hstreaming
    cases hstreaming
  · rw [start_accepted (c := c.stop) rfl fun hu ht => hrefused ⟨hu, ht⟩] at h
    have hlength := congrArg (fun c => c.subscriptions.length) h
    simp [subscribe, stop] at hlength

end

end StreamClient

/-! ### The outcome of a call -/

/-- What a supervisor was spawned with. -/
def Supervisor.subscription {D : Type} (v : Supervisor D) : Subscription D :=
  ⟨v.args, v.subscribeMsg, v.authToken⟩

theorem Supervisor.subscription_step {D : Type} {parse : StdString → Option Value}
    {streaming mutexFree : Bool} {onSentence me : Nat} {socket socket' : Option Nat}
    {v v' : Supervisor D} {a : RunAction} {evs : List Event}
    (h : v.Move parse streaming mutexFree onSentence socket me a v' socket' evs) :
    v'.subscription = v.subscription := by
  cases h <;> rfl

/-- The refusals among the events: the reports of the calling thread. -/
def refusals (log : List Observed) : Nat := log.countP fun e => e.1.isNone

/-- What the rest of a `Stop` leads to. -/
def StreamClient.stopThen {D : Type} [Double D] (next : Option (StreamArgs D))
    (c : StreamClient D) : StreamClient D :=
  match next with
  | none => c.stop
  | some args => c.stop.start args

/-- What the rest of the call under way makes of the client. -/
def Caller.outcome {D : Type} [Double D] (c : StreamClient D) : Caller D → StreamClient D
  | idle => c
  | startTest args => c.start args
  | startToken args => c.start args
  | startReap args authToken | startCallback args authToken | startFlag args authToken
  | startSpawn args authToken => c.subscribe ⟨args, buildSubscribeMessage c.useToken args, authToken⟩
  | stopFlag next | stopLook next | stopJoin next _ _ => c.stopThen next
  | closeRaise next _ | closeLook next _ | closeWake next _ | closeSet next _ => c.stopThen next
  | restartTest args => c.restart args

namespace Client

variable {D : Type}

/-- The client as it stands. -/
def view (s : Client D) : StreamClient D where
  streaming := s.streaming
  useToken := s.useToken
  token := s.token
  subscriptions := s.supervisors.map Supervisor.subscription
  refusals := refusals s.log

theorem map_subscription_modify (l : List (Supervisor D)) (i : Nat) (f : Session → Session) :
    (l.modify i fun v => { v with session := f v.session }).map Supervisor.subscription
      = l.map Supervisor.subscription := by
  refine List.ext_getElem? fun j => ?_
  rw [List.getElem?_map, List.getElem?_map, List.getElem?_modify]
  cases l[j]? with
  | none => rfl
  | some v =>
      show some (if i = j then _ else v).subscription = some v.subscription
      split <;> rfl

/-- What a supervisor does is not seen by the callers. -/
theorem map_subscription_set {l : List (Supervisor D)} {i : Nat} {v v' : Supervisor D}
    (hv : l[i]? = some v) (hsub : v'.subscription = v.subscription) :
    (l.set i v').map Supervisor.subscription = l.map Supervisor.subscription := by
  refine List.ext_getElem? fun j => ?_
  rw [List.getElem?_map, List.getElem?_map, List.getElem?_set]
  split
  · rename_i hij
    subst hij
    split <;> simp_all
  · rfl

theorem refusals_append (log : List Observed) (i : Nat) (evs : List Event) :
    refusals (log ++ evs.map (some i, ·)) = refusals log := by
  simp [refusals, List.countP_append, List.countP_map]

section

variable [Double D]

/-- The client as it will be when the call under way returns. -/
def outcome (s : Client D) : StreamClient D := s.caller.outcome s.view

/-- What an action does to the client its callers see. -/
def op : Action D → StreamClient D → StreamClient D
  | .setToken token => .setToken token
  | .setTokenEnabled enabled => .setTokenEnabled enabled
  | .start args => .start args
  | .stop => .stop
  | .restart args => .restart args
  | .caller => id
  | .supervisor _ _ => id

variable {parse : StdString → Option Value}

/-- **A call has the outcome of its operation**, whatever the supervisors do meanwhile. -/
theorem outcome_step {s s' : Client D} {a : Action D} (h : s.Coherent)
    (hstep : (system parse).step s a = some s') : s'.outcome = op a s.outcome := by
  obtain ⟨-, hmove⟩ := move_of_step hstep
  cases hmove with
  | supervisor hv hm =>
      simp only [outcome, view, map_subscription_set hv (Supervisor.subscription_step hm),
        refusals_append]
      rfl
  | setToken hc | setTokenEnabled hc | start hc | stop hc | restart hc =>
      simp only [outcome, hc]
      rfl
  | raiseRequest hc | setClosing hc =>
      simp only [outcome, hc, view, modifySession, map_subscription_modify]
      rfl
  | spawnTwice hc | sawClosed hc | sawOpen hc | wakePoll hc | lookNone hc | lookSome hc
    | setCallback hc | reap hc | setFlag hc =>
      simp only [outcome, hc]
      rfl
  | startBusy hc hs =>
      simp only [outcome, hc, Caller.outcome]
      exact (StreamClient.start_of_streaming (c := s.view) hs).symm
  | startFree hc hs =>
      simp only [outcome, hc]
      rfl
  | refuse hc hu ht =>
      rw [Coherent, hc] at h
      simp only [outcome, hc, Caller.outcome]
      rw [StreamClient.start_refused (c := s.view) h.1 hu ht]
      have hcount : refusals (s.log ++ [(none, .state none refusal)]) = refusals s.log + 1 := by
        simp [refusals]
      simp only [view]
      rw [show wx "Token is missing" = refusal.detail from rfl]
      exact congrArg (StreamClient.mk _ _ _ _) hcount
  | accept hc hu =>
      rw [Coherent, hc] at h
      simp only [outcome, hc, Caller.outcome]
      rw [StreamClient.start_accepted (c := s.view) h.1 hu]
      rfl
  | spawn hc ht =>
      rw [Coherent, hc] at h
      simp only [outcome, hc, Caller.outcome, StreamClient.subscribe, view, List.map_append, h.1]
      rfl
  | @clearFlag next hc =>
      simp only [outcome, hc]
      cases next <;> rfl
  | @join next _ _ hc hj =>
      have hs : s.streaming = false := h.stopping (by rw [hc]; rfl)
      have hview : s.view.stop = s.view := by simp only [StreamClient.stop, view, hs]
      simp only [outcome, hc]
      cases next with
      | none => exact hview.symm
      | some args =>
          show s.view.start args = s.view.stop.start args
          rw [hview]
  | restartBusy hc hs =>
      simp only [outcome, hc, Caller.outcome]
      exact (StreamClient.restart_of_streaming (c := s.view) hs).symm
  | restartIdle hc hs =>
      simp only [outcome, hc, Caller.outcome]
      exact (StreamClient.restart_of_not_streaming (c := s.view) hs).symm

/--
**The threads refine the atomic client.**  After any run, the client will be, once the
call under way has returned, what the operations of the calls made so far make of it.
-/
theorem atomic_run {s : Client D} {actions : List (Action D)}
    (hrun : (system parse).run {} actions = some s) :
    s.outcome = actions.foldl (fun c a => op a c) {} :=
  System.view_run (I := Coherent) (fun _ _ _ h hstep => coherent_step h hstep)
    (fun _ _ _ h hstep => outcome_step h hstep) coherent_init hrun

end

end Client

end AisLive
