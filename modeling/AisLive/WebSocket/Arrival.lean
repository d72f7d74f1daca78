/-
From the URL to the messages.

The handshake reads its answer a byte at a time and stops behind the head; the frames are read
in pieces, from there on.  Each half has been shown to be right for itself.  Here they are put
together: no byte is lost, and none read twice, where the one ends and the other begins
(`messages_arrive`).
-/
import AisLive.WebSocket.Handshake
import AisLive.WebSocket.Reception

namespace AisLive.WebSocket

/-- The connection `run()` goes on with: the transport as the Open handler leaves it, with its
receive buffer empty, what is left in the socket, and the other thread, wherever it is. -/
def Connected.connection (connected : Connected) (e : Endpoint) (closer : Closer) : Connection where
  toEndpoint := e
  incoming := connected.incoming
  closer := closer

/-- It is fresh. -/
theorem Connected.fresh_connection (connected : Connected) {e : Endpoint} (hchunks : e.chunks = [])
    (closer : Closer) : Connection.Fresh (connected.connection e closer) :=
  ⟨rfl, rfl, hchunks, rfl⟩

/--
**What the last server sends arrives.**  The client is redirected from server to server, ten
rounds at most, and the last accepts it and sends the frames of some messages.  Then
`connectToUrl` succeeds; and over every run from there, whatever the polls meet, however the
bytes are cut, and wherever another thread is in a call of `close`, the messages passed on are
the first of those sent, text that is not UTF-8 left out, and all of them once the loop polls
with nothing more to be read, unless Close has been delivered.
-/
theorem messages_arrive (env : Environment) {surroundings : Surroundings}
    {network : Nat → Attempt} {url : StdString} {us : List Url} {ms : List Message}
    {sent : List SentFrame} (hlength : us.length ≤ Session.maxRedirections)
    (hroute : Route surroundings network 0 url us (sent.flatMap SentFrame.bytes))
    (hstream : Stream ms (sent.map SentFrame.frame)) (hproper : ∀ s ∈ sent, s.frame.Proper)
    (headers : Headers) {e : Endpoint} (hchunks : e.chunks = []) (closer : Closer) :
    (connectToUrl surroundings network url headers).result.success = true ∧
      ∀ c, (Connection.system env).Reach
          ((connectToUrl surroundings network url headers).connection e closer) c →
        c.received <+: e.received ++ ms.filter Message.deliverable ∧
          (c.phase = .polling → c.incoming = [] → c.closings = e.closings →
            c.received = e.received ++ ms.filter Message.deliverable) := by
  obtain ⟨-, hsuccess, hincoming⟩ := @connectLoop_route surroundings network url headers 0
    Session.maxRedirections url us _ hroute {} rfl
  refine ⟨hsuccess.mpr hlength, fun c hreach => ?_⟩
  have hfresh := (connectToUrl surroundings network url headers).fresh_connection hchunks closer
  have hserving := Connection.serving_of_reach env
    (hfresh.serving hstream hproper (hincoming hlength)) hreach
  exact ⟨hserving.serves.start, hserving.complete⟩

/-- A message in two fragments and another, right behind the head of the second server, read in
two polls while `close` has looked and not yet set. -/
theorem messages_arrive_behindHead : ∃ c, (Connection.system Transport.client).run
      ((connectToUrl sampleSurroundings sampleNetwork (ascii "wss://a/") []).connection
        { fragmentedMessageKind := .msgBinary } (.setting 1000 []))
      [.proceed, .poll (.readyForRead [5] false) false, .round, .round, .proceed,
        .poll (.readyForRead [1, 4] false) false, .round, .round, .round, .proceed] = some c ∧
    c.received = [⟨false, [0x68, 0x69, 0x21]⟩, ⟨true, [0xff]⟩] := by
  have hincoming := (@connectLoop_route sampleSurroundings sampleNetwork (ascii "wss://a/") [] 0
    Session.maxRedirections _ _ _ sampleRoute {} rfl).2.2 (by decide)
  let start : Connection :=
    { fragmentedMessageKind := .msgBinary, incoming := sampleFrames, closer := .setting 1000 [] }
  have hstart : (connectToUrl sampleSurroundings sampleNetwork (ascii "wss://a/") []).connection
      { fragmentedMessageKind := .msgBinary } (.setting 1000 []) = start :=
    congrArg (fun incoming => { start with incoming }) hincoming
  have hstate : ((Connection.system Transport.client).run start
      [.proceed, .poll (.readyForRead [5] false) false, .round, .round, .proceed,
        .poll (.readyForRead [1, 4] false) false, .round, .round, .round, .proceed]).map
      (fun c => (c.phase, c.incoming, c.closings)) = some (.polling, [], 0) := by decide +kernel
  rw [← hstart] at hstate
  obtain ⟨c, hrun, hstate⟩ := Option.map_eq_some_iff.mp hstate
  obtain ⟨hphase, hnone, hclosings⟩ :
      c.phase = .polling ∧ c.incoming = [] ∧ c.closings = 0 := by simpa using hstate
  let sent : List SentFrame :=
    [⟨false, ⟨0, 0, 0, 0⟩, ⟨false, .textFrame, [0x68, 0x69]⟩⟩,
      ⟨false, ⟨0, 0, 0, 0⟩, ⟨true, .continuation, [0x21]⟩⟩,
      ⟨false, ⟨0, 0, 0, 0⟩, ⟨true, .binaryFrame, [0xff]⟩⟩]
  have hbytes : sent.flatMap SentFrame.bytes = sampleFrames := by decide +kernel
  have hroute := sampleRoute
  rw [← hbytes] at hroute
  have hstream : Stream [⟨false, [0x68, 0x69, 0x21]⟩, ⟨true, [0xff]⟩] (sent.map SentFrame.frame) :=
    .message (.parts rfl (.last _)) (.message .whole .nil)
  have hproper : ∀ s ∈ sent, s.frame.Proper := by
    intro s hs
    simp only [sent, List.mem_cons, List.not_mem_nil, or_false] at hs
    rcases hs with rfl | rfl | rfl <;> exact proper_of_data (by simp) (by simp [maxFrameSize])
  have harrive := (messages_arrive Transport.client (by decide) hroute hstream hproper [] rfl
    (.setting 1000 [])).2 c (Transition.System.reach_of_run hrun)
  refine ⟨c, hrun, ?_⟩
  rw [harrive.2 hphase hnone hclosings]
  decide +kernel

end AisLive.WebSocket
