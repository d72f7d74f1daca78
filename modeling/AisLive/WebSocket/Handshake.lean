/-
Connecting.

`connectToUrl` opens a socket to the host a URL names, asks for an upgrade and reads the head of
the answer.  If the answer is a redirection it starts again with the URL of the `Location`
field, ten times at most.  What the network does is a parameter, one attempt after another, so
that what is proved holds for any servers, also for those that try to mislead the client.

Two things are expected of a handshake.  A server that answers as the standard has it is
accepted, and what it sends behind the head is left in the socket for the first poll; if it
redirects, the redirections decide where the next request goes, and whether it goes there in the
clear (`route_followed`).  And the client says what it wants to say and nothing else: no answer
adds a line to a request (`requests_whole`).
-/
import AisLive.Stream.Session
import AisLive.WebSocket.KeyGen
import AisLive.WebSocket.Url

namespace AisLive.WebSocket

/-- `WebSocketInitResult`; `protocol` is looked up in the headers. -/
structure InitResult where
  success : Bool := false
  httpStatus : Int := 0
  errorStr : StdString := []
  headers : Headers := []
  uri : StdString := []
  deriving DecidableEq

/-- `WebSocketInitResult::protocol`. -/
def InitResult.protocol (result : InitResult) : StdString :=
  (result.headers.find (ascii "Sec-WebSocket-Protocol")).getD []

/-- What a handshake takes from its surroundings: the text of `userAgent()`, and the random
strings, one for each attempt. -/
structure Surroundings where
  userAgent : StdString
  random : Nat → StdString
  userAgent_unbroken : Unbroken userAgent
  length_random : ∀ i, (random i).length = 16

/-- What happens to an attempt, up to the end of what the server sends. -/
inductive Attempt
  /-- `createSocket` fails. -/
  | noSocket (errorMsg : StdString)
  /-- `Socket::connect` fails. -/
  | connectFails (errMsg : StdString)
  /-- The request cannot be written. -/
  | writeFails
  | answers (input : StdString)
  deriving DecidableEq

/-- A request, and where it has been sent. -/
structure Contact where
  tls : Bool
  host : StdString
  port : Int
  request : StdString
  deriving DecidableEq

/-- The host in brackets, if it is an IPv6 address. -/
def bracketedHost (host : StdString) : StdString :=
  if colonChar ∈ host then [openBracket] ++ host ++ [closeBracket] else host

/-- A line of the request, out of its parts. -/
def requestLine (parts : List StdString) : StdString := parts.flatten ++ crlf

/-- A line, if the field is not among the extra headers. -/
def unlessGiven (extraHeaders : Headers) (name : String) (parts : List StdString) : StdString :=
  if extraHeaders.find (ascii name) = none then requestLine parts else []

/-- The request `clientHandshake` sends. -/
def request (userAgent : StdString) (extraHeaders : Headers) (u : Url) (secWebSocketKey : StdString) :
    StdString :=
  requestLine [ascii "GET ", u.path, ascii " HTTP/1.1"] ++
  unlessGiven extraHeaders "Host" [ascii "Host: ", bracketedHost u.host, ascii ":", intBytes u.port] ++
  requestLine [ascii "Upgrade: websocket"] ++
  requestLine [ascii "Connection: Upgrade"] ++
  requestLine [ascii "Sec-WebSocket-Version: 13"] ++
  requestLine [ascii "Sec-WebSocket-Key: ", secWebSocketKey] ++
  unlessGiven extraHeaders "User-Agent" [ascii "User-Agent: ", userAgent] ++
  unlessGiven extraHeaders "Origin"
    [ascii "Origin: ", u.protocol, ascii "://", bracketedHost u.host, ascii ":", intBytes u.port] ++
  (extraHeaders.flatMap fun it => requestLine [it.1, ascii ": ", it.2]) ++
  crlf

/-- What `clientHandshake` makes of a head that it could read. -/
def checkHead (url path secWebSocketKey line : StdString) (status : Int) (headers : Headers) :
    InitResult :=
  if status ≠ 101 then
    { httpStatus := status
      errorStr := ascii "Expecting status 101 (Switching Protocol), got " ++ intBytes status ++
        ascii " status connecting to " ++ url ++ ascii ", HTTP Status line: " ++ line
      headers
      uri := path }
  else
    match headers.find (ascii "connection") with
    | none => { httpStatus := status, errorStr := ascii "Missing connection value" }
    | some connection =>
        if !insensitiveStringCompare connection (ascii "Upgrade") then
          { httpStatus := status, errorStr := ascii "Invalid connection value: " ++ connection }
        else if KeyGen.generate secWebSocketKey
            ≠ (headers.find (ascii "sec-websocket-accept")).getD [] then
          { httpStatus := status, errorStr := ascii "Invalid Sec-WebSocket-Accept value" }
        else { success := true, httpStatus := status, headers, uri := path }

/-- What it makes of the answer, and what it leaves in the socket. -/
def readAnswer (url path secWebSocketKey input : StdString) : InitResult × StdString :=
  match readLine input with
  | (false, _, rest) => ({ errorStr := ascii "Failed reading HTTP status line from " ++ url }, rest)
  | (true, line, rest) =>
      match parseStatusLine line with
      | (httpVersion, status) =>
          if httpVersion ≠ ascii "HTTP/1.1" then
            ({ httpStatus := status
               errorStr := ascii "Expecting HTTP/1.1, got " ++ httpVersion ++
                 ascii ". Rejecting connection to " ++ url ++ ascii ", status: " ++
                 intBytes status ++ ascii ", HTTP Status line: " ++ line }, rest)
          else
            match parseHttpHeaders rest with
            | (false, _, rest) =>
                ({ httpStatus := status, errorStr := ascii "Error parsing HTTP headers" }, rest)
            | (true, headers, rest) =>
                (checkHead url path secWebSocketKey line status headers, rest)

/-- The request of a handshake, and where it goes. -/
def contact (userAgent : StdString) (extraHeaders : Headers) (u : Url) (random : StdString) :
    Contact where
  tls := u.protocol == ascii "wss"
  host := u.host
  port := u.port
  request := request userAgent extraHeaders u (KeyGen.encode random)

/-- `clientHandshake`, without compression: the result, the request if it got that far, and what
can still be read from the socket. -/
def clientHandshake (userAgent url : StdString) (extraHeaders : Headers) (u : Url)
    (random : StdString) (attempt : Attempt) : InitResult × List Contact × StdString :=
  match attempt with
  | .noSocket errorMsg => ({ errorStr := errorMsg }, [], [])
  | .connectFails errMsg =>
      ({ errorStr := ascii "Unable to connect to " ++ u.host ++ ascii " on port " ++ intBytes u.port ++
           ascii ", error: " ++ errMsg }, [], [])
  | .writeFails =>
      ({ errorStr := ascii "Failed sending GET request to " ++ url },
        [contact userAgent extraHeaders u random], [])
  | .answers input =>
      ((readAnswer url u.path (KeyGen.encode random) input).1,
        [contact userAgent extraHeaders u random],
        (readAnswer url u.path (KeyGen.encode random) input).2)

/-- What `connectToUrl` comes to: its result, the requests sent, and what can still be read from
the last socket. -/
structure Connected where
  result : InitResult
  contacts : List Contact
  incoming : StdString
  deriving DecidableEq

/-- The loop of `connectToUrl`, this many rounds before its end. -/
def connectLoop (env : Surroundings) (network : Nat → Attempt) (url : StdString) (headers : Headers) :
    Nat → Nat → StdString → InitResult → Connected
  | 0, _, _, result => ⟨result, [], []⟩
  | n + 1, i, remoteUrl, _ =>
      match parse remoteUrl with
      | none => ⟨{ errorStr := ascii "Could not parse url: '" ++ url ++ ascii "'" }, [], []⟩
      | some u =>
          match clientHandshake env.userAgent remoteUrl headers u (env.random i) (network i) with
          | (result, contacts, rest) =>
              if 300 ≤ result.httpStatus ∧ result.httpStatus < 400 then
                match result.headers.find (ascii "Location") with
                | none =>
                    ⟨{ result with
                        errorStr := ascii "Missing Location Header for HTTP Redirect response. " ++
                          ascii "Rejecting connection to " ++ url ++ ascii ", status: " ++
                          intBytes result.httpStatus }, contacts, rest⟩
                | some location =>
                    let later := connectLoop env network url headers n (i + 1) location result
                    { later with contacts := contacts ++ later.contacts }
              else ⟨result, contacts, rest⟩

/-- `connectToUrl`. -/
def connectToUrl (env : Surroundings) (network : Nat → Attempt) (url : StdString) (headers : Headers) :
    Connected :=
  connectLoop env network url headers Session.maxRedirections 0 url {}

/-! ### A server that answers as it should -/

/-- A token up to a blank. -/
theorem getlines_token {token text rest : StdString} (h : space ∉ text) :
    getlines token (text ++ space :: rest) = (token ++ text) :: getlines [] rest := by
  induction text generalizing token with
  | nil => rw [List.nil_append, getlines, if_pos rfl, List.append_nil]
  | cons c text ih =>
      have hc : c ≠ space := fun hc => h (hc ▸ List.mem_cons_self)
      rw [List.cons_append, getlines, if_neg hc, ih fun hmem => h (List.mem_cons_of_mem _ hmem)]
      simp

/-- A status line, without its end. -/
def statusLine (status : Nat) (reason : StdString) : StdString :=
  ascii "HTTP/1.1 " ++ decimalBytes status ++ [space] ++ reason

/-- The head of an answer. -/
def head (status : Nat) (reason : StdString) (es : List Field) : StdString :=
  statusLine status reason ++ crlf ++ es.flatMap Field.line ++ crlf

/-- A status line, taken apart. -/
theorem parseStatusLine_statusLine {status : Nat} (hstatus : status ≤ 999) (reason : StdString) :
    parseStatusLine (statusLine status reason ++ crlf)
      = (ascii "HTTP/1.1", (status : Int)) := by
  have hversion : space ∉ ascii "HTTP/1.1" := by decide
  have hdigits : space ∉ decimalBytes status := fun hmem =>
    absurd (isdigit_of_mem hmem) (by decide)
  have htokens : getlines [] (statusLine status reason ++ crlf)
      = ascii "HTTP/1.1" :: decimalBytes status :: getlines [] (reason ++ crlf) := by
    have hsplit : statusLine status reason ++ crlf
        = ascii "HTTP/1.1" ++ space :: (decimalBytes status ++ space :: (reason ++ crlf)) := by
      simp [statusLine, ascii, space]
    rw [hsplit, getlines_token hversion, getlines_token hdigits]
    rfl
  have htrim : httpTrim (decimalBytes status) = decimalBytes status := by
    refine List.filter_eq_self.mpr fun c hc => ?_
    have hdigit := isdigit_of_mem hc
    simp only [Bool.and_eq_true, bne_iff_ne]
    refine ⟨⟨?_, ?_⟩, ?_⟩ <;> rintro rfl <;> exact absurd hdigit (by decide)
  have hmax : ((status : Nat) : Int) ≤ intMax := by
    have hnat : (status : Int) ≤ 999 := by omega
    exact Int.le_trans hnat (by decide)
  rw [parseStatusLine, htokens]
  simp only [htrim, extractInt_decimalBytes hmax]
  rfl

/-- **A head is read as it was written, and nothing behind it.** -/
theorem readAnswer_head {status : Nat} (hstatus : status ≤ 999) {reason : StdString}
    (hreason : Unbroken reason) (es : List Field) (rest url path key : StdString) :
    readAnswer url path key (head status reason es ++ rest)
      = (checkHead url path key (statusLine status reason ++ crlf) status (Field.headers es), rest) := by
  have hbreak : ∀ c ∈ decimalBytes status, c ≠ cr ∧ c ≠ lf := by
    intro c hc
    have hdigit := isdigit_of_mem hc
    constructor <;> rintro rfl <;> exact absurd hdigit (by decide)
  have hline : Unbroken ([] ++ statusLine status reason) := by
    have hversion : Unbroken (ascii "HTTP/1.1 ") := by constructor <;> decide
    have hdigits : Unbroken (decimalBytes status) :=
      ⟨fun h => (hbreak _ h).1 rfl, fun h => (hbreak _ h).2 rfl⟩
    have hspace : Unbroken [space] := by constructor <;> decide
    exact ((hversion.append hdigits).append hspace).append hreason
  have hhead : head status reason es ++ rest
      = statusLine status reason ++ (crlf ++ (es.flatMap Field.line ++ (crlf ++ rest))) := by
    simp [head, statusLine]
  rw [hhead, readAnswer, readLine, readLineFrom_crlf _ hline, List.nil_append]
  simp only [parseStatusLine_statusLine hstatus, Field.parseHttpHeaders_written]
  rw [if_neg (not_not_intro rfl)]

/-- The answer is the one the standard has for a key. -/
structure Agrees (key : StdString) (es : List Field) : Prop where
  connection : ∃ connection, (Field.headers es).find (ascii "connection") = some connection ∧
    insensitiveStringCompare connection (ascii "Upgrade") = true
  accept : (Field.headers es).find (ascii "sec-websocket-accept") = some (KeyGen.accept key)

/-- **An answer that agrees is accepted.** -/
theorem checkHead_agrees {random : StdString} (hrandom : random.length = 16) {es : List Field}
    (h : Agrees (KeyGen.encode random) es) (url path line : StdString) :
    checkHead url path (KeyGen.encode random) line 101 (Field.headers es)
      = { success := true, httpStatus := 101, headers := Field.headers es, uri := path } := by
  obtain ⟨connection, hfind, hupgrade⟩ := h.connection
  have hgenerate := KeyGen.generate_encode hrandom
  rw [checkHead, if_neg (not_not_intro rfl)]
  simp only [hfind, hupgrade, hgenerate, h.accept]
  simp

/-- Any other status is not, and the header fields go with the refusal. -/
theorem checkHead_status {status : Int} (hstatus : status ≠ 101) (url path key line : StdString)
    (headers : Headers) :
    (checkHead url path key line status headers).success = false ∧
      (checkHead url path key line status headers).httpStatus = status ∧
      (checkHead url path key line status headers).headers = headers := by
  rw [checkHead, if_pos hstatus]
  exact ⟨rfl, rfl, rfl⟩

/-! ### Redirections -/

/-- The servers that are asked, from attempt `i` on: each sends the client on to the next, and
the last accepts it and goes on with `rest`. -/
inductive Route (env : Surroundings) (network : Nat → Attempt) :
    Nat → StdString → List Url → StdString → Prop
  | accepted {i : Nat} {url : StdString} {u : Url} {reason : StdString} {es : List Field}
      {rest : StdString} (hurl : parse url = some u)
      (hanswer : network i = .answers (head 101 reason es ++ rest)) (hreason : Unbroken reason)
      (hagrees : Agrees (KeyGen.encode (env.random i)) es) : Route env network i url [u] rest
  | redirected {i : Nat} {url : StdString} {u : Url} {status : Nat} {reason : StdString}
      {es : List Field} {more location : StdString} {us : List Url} {rest : StdString}
      (hurl : parse url = some u) (hstatus : 300 ≤ status ∧ status < 400)
      (hanswer : network i = .answers (head status reason es ++ more)) (hreason : Unbroken reason)
      (hlocation : (Field.headers es).find (ascii "Location") = some location)
      (later : Route env network (i + 1) location us rest) : Route env network i url (u :: us) rest

section

variable {env : Surroundings} {network : Nat → Attempt} {url : StdString} {headers : Headers}
  {i n : Nat} {remoteUrl : StdString} {u : Url} {reason : StdString} {es : List Field}

/-- A round that is accepted is the last. -/
theorem connectLoop_accepted {rest : StdString} (hurl : parse remoteUrl = some u)
    (hanswer : network i = .answers (head 101 reason es ++ rest)) (hreason : Unbroken reason)
    (hagrees : Agrees (KeyGen.encode (env.random i)) es) (result : InitResult) :
    connectLoop env network url headers (n + 1) i remoteUrl result
      = ⟨{ success := true, httpStatus := 101, headers := Field.headers es, uri := u.path },
          [contact env.userAgent headers u (env.random i)], rest⟩ := by
  have hstatus : ¬((300 : Int) ≤ 101 ∧ (101 : Int) < 400) := by omega
  have hcast : ((101 : Nat) : Int) = 101 := rfl
  have hhead := checkHead_agrees (env.length_random i) hagrees remoteUrl u.path
    (statusLine 101 reason ++ crlf)
  simp only [connectLoop, hurl, clientHandshake, hanswer,
    readAnswer_head (show 101 ≤ 999 by omega) hreason, hcast, hhead, if_neg hstatus]

/-- A round that is redirected is followed by the next. -/
theorem connectLoop_redirected {status : Nat} {more location : StdString}
    (hurl : parse remoteUrl = some u) (hstatus : 300 ≤ status ∧ status < 400)
    (hanswer : network i = .answers (head status reason es ++ more)) (hreason : Unbroken reason)
    (hlocation : (Field.headers es).find (ascii "Location") = some location)
    (result : InitResult) :
    ∃ refusal : InitResult, refusal.success = false ∧
      connectLoop env network url headers (n + 1) i remoteUrl result
        = { connectLoop env network url headers n (i + 1) location refusal with
            contacts := contact env.userAgent headers u (env.random i) ::
              (connectLoop env network url headers n (i + 1) location refusal).contacts } := by
  have hother : (status : Int) ≠ 101 := by omega
  obtain ⟨hsuccess, hcode, hfields⟩ := checkHead_status hother remoteUrl u.path
    (KeyGen.encode (env.random i)) (statusLine status reason ++ crlf) (Field.headers es)
  refine ⟨_, hsuccess, ?_⟩
  have hredirect : (300 : Int) ≤ status ∧ (status : Int) < 400 := by omega
  simp only [connectLoop, hurl, clientHandshake, hanswer,
    readAnswer_head (show status ≤ 999 by omega) hreason, hcode, hfields, if_pos hredirect,
    hlocation, List.singleton_append]

/-- The loop follows a route as far as it goes. -/
theorem connectLoop_route {us : List Url} {rest : StdString}
    (h : Route env network i remoteUrl us rest) {result : InitResult}
    (hresult : result.success = false) :
    (connectLoop env network url headers n i remoteUrl result).contacts
        = (us.take n).mapIdx (fun k u => contact env.userAgent headers u (env.random (i + k))) ∧
      ((connectLoop env network url headers n i remoteUrl result).result.success = true
        ↔ us.length ≤ n) ∧
      (us.length ≤ n →
        (connectLoop env network url headers n i remoteUrl result).incoming = rest) := by
  induction h generalizing n result with
  | accepted hurl hanswer hreason hagrees =>
      cases n with
      | zero => simp [connectLoop, hresult]
      | succ n =>
          rw [connectLoop_accepted hurl hanswer hreason hagrees]
          simp
  | redirected hurl hstatus hanswer hreason hlocation later ih =>
      cases n with
      | zero => simp [connectLoop, hresult]
      | succ n =>
          obtain ⟨refusal, hrefusal, hloop⟩ := connectLoop_redirected (n := n) hurl hstatus hanswer
            hreason hlocation result
          obtain ⟨hcontacts, hsuccess, hincoming⟩ := ih (n := n) hrefusal
          rw [hloop]
          refine ⟨?_, ?_, ?_⟩
          · simp only [hcontacts, List.take_succ_cons, List.mapIdx_cons, Nat.add_zero]
            simp only [Nat.add_assoc, Nat.add_comm 1]
          · simpa using hsuccess
          · intro hlength
            exact hincoming (by simpa using hlength)

end

/--
**Redirections are followed wherever they lead.**  The client asks one server after the other,
each with a request made from the URL it has been given, which carries the extra headers, and
over TLS only if that URL says `wss`; it is connected if and only if ten rounds are enough, and
then what the last server sends behind its head is still to be read.
-/
theorem route_followed {env : Surroundings} {network : Nat → Attempt} {url : StdString}
    {us : List Url} {rest : StdString} (h : Route env network 0 url us rest) (headers : Headers) :
    (connectToUrl env network url headers).contacts
        = (us.take Session.maxRedirections).mapIdx
            (fun k u => contact env.userAgent headers u (env.random k)) ∧
      ((connectToUrl env network url headers).result.success = true
        ↔ us.length ≤ Session.maxRedirections) ∧
      (us.length ≤ Session.maxRedirections →
        (connectToUrl env network url headers).incoming = rest) := by
  have hroute := @connectLoop_route env network url headers 0 Session.maxRedirections url us rest h
    {} rfl
  simp only [Nat.zero_add] at hroute
  exact hroute

/-- A client that draws the key of the standard's example. -/
def sampleSurroundings : Surroundings where
  userAgent := ascii "ixwebsocket"
  random _ := ascii "the sample nonce"
  userAgent_unbroken := by constructor <;> decide
  length_random _ := by decide

/-- A redirection from `wss` to `ws`. -/
def sampleRedirect : List Field :=
  [{ name := ascii "Location"
     value := ascii "ws://b/"
     name_ne := by decide
     name_unbroken := by constructor <;> decide
     name_colon := by decide
     name_zero := by decide
     value_unbroken := by constructor <;> decide
     value_zero := by decide
     value_start := by rintro _ ⟨⟩; decide
     value_end := by rintro _ ⟨⟩; rfl
     fits := by decide }]

/-- The answer of the standard's example. -/
def sampleAnswer : List Field :=
  [{ name := ascii "connection"
     value := ascii "Upgrade"
     name_ne := by decide
     name_unbroken := by constructor <;> decide
     name_colon := by decide
     name_zero := by decide
     value_unbroken := by constructor <;> decide
     value_zero := by decide
     value_start := by rintro _ ⟨⟩; decide
     value_end := by rintro _ ⟨⟩; rfl
     fits := by decide },
   { name := ascii "Sec-WebSocket-Accept"
     value := ascii "s3pPLMBiTxaQ9kYGzzhZRbK+xOo="
     name_ne := by decide
     name_unbroken := by constructor <;> decide
     name_colon := by decide
     name_zero := by decide
     value_unbroken := by constructor <;> decide
     value_zero := by decide
     value_start := by rintro _ ⟨⟩; decide
     value_end := by rintro _ ⟨⟩; rfl
     fits := by decide }]

/-- What the second server sends behind its answer: a text message in two fragments, and a
binary message. -/
def sampleFrames : StdString := [0x01, 0x02, 0x68, 0x69, 0x80, 0x01, 0x21, 0x82, 0x01, 0xff]

/-- The first server sends the client on to the second, which accepts it. -/
def sampleNetwork : Nat → Attempt
  | 0 => .answers (head 302 (ascii "Found") sampleRedirect)
  | _ => .answers (head 101 (ascii "Switching Protocols") sampleAnswer ++ sampleFrames)

theorem sampleRoute :
    Route sampleSurroundings sampleNetwork 0 (ascii "wss://a/")
      [⟨ascii "wss", ascii "a", ascii "/", [], 443, true⟩, ⟨ascii "ws", ascii "b", ascii "/", [], 80, true⟩]
      sampleFrames := by
  have hagrees : Agrees (KeyGen.encode (ascii "the sample nonce")) sampleAnswer := by
    refine ⟨⟨ascii "Upgrade", by decide, by decide⟩, ?_⟩
    rw [← KeyGen.generate_encode (by decide), KeyGen.generate_sampleNonce]
    decide
  have hanswer : sampleNetwork 0
      = .answers (head 302 (ascii "Found") sampleRedirect ++ []) := by
    rw [List.append_nil]
    rfl
  have hlocation : (Field.headers sampleRedirect).find (ascii "Location")
      = some (ascii "ws://b/") := by decide
  have hfound : Unbroken (ascii "Found") := by constructor <;> decide
  have hswitching : Unbroken (ascii "Switching Protocols") := by constructor <;> decide
  exact .redirected (by decide +kernel) (by omega) hanswer hfound hlocation
    (.accepted (by decide +kernel) rfl hswitching hagrees)

/-- A client that asked over TLS is redirected to a server it asks in the clear. -/
theorem route_followed_downgrade :
    (connectToUrl sampleSurroundings sampleNetwork (ascii "wss://a/") []).contacts.map Contact.tls
        = [true, false] ∧
      (connectToUrl sampleSurroundings sampleNetwork (ascii "wss://a/") []).result.success = true := by
  obtain ⟨hcontacts, hsuccess, -⟩ := route_followed sampleRoute []
  refine ⟨?_, hsuccess.mpr (by decide)⟩
  rw [hcontacts]
  rfl

/-! ### Who is accepted -/

/-- The answer to the request with this key: a head that says the upgrade is made, with the
value only who has read the key can compute, and what is sent behind it. -/
structure Proves (key input : StdString) (fields : Headers) (rest : StdString) : Prop where
  head : ∃ line behind, readLine input = (true, line, behind) ∧
    parseStatusLine line = (ascii "HTTP/1.1", 101) ∧ parseHttpHeaders behind = (true, fields, rest)
  connection : ∃ connection, fields.find (ascii "connection") = some connection ∧
    insensitiveStringCompare connection (ascii "Upgrade") = true
  accept : fields.find (ascii "sec-websocket-accept") = some (KeyGen.accept key)

/-- A head that is accepted. -/
theorem checkHead_success {url path random line : StdString} {status : Int} {fields : Headers}
    (hrandom : random.length = 16)
    (h : (checkHead url path (KeyGen.encode random) line status fields).success = true) :
    status = 101 ∧
      (∃ connection, fields.find (ascii "connection") = some connection ∧
        insensitiveStringCompare connection (ascii "Upgrade") = true) ∧
      fields.find (ascii "sec-websocket-accept") = some (KeyGen.accept (KeyGen.encode random)) ∧
      checkHead url path (KeyGen.encode random) line status fields
        = { success := true, httpStatus := 101, headers := fields, uri := path } := by
  have hgenerate := KeyGen.generate_encode hrandom
  by_cases hstatus : status = 101
  · subst hstatus
    rw [checkHead, if_neg (not_not_intro rfl)] at h ⊢
    cases hconnection : fields.find (ascii "connection") with
    | none => simp [hconnection] at h
    | some connection =>
        by_cases hupgrade : insensitiveStringCompare connection (ascii "Upgrade") = true
        · by_cases haccept : KeyGen.generate (KeyGen.encode random)
              = (fields.find (ascii "sec-websocket-accept")).getD []
          · have hfind : fields.find (ascii "sec-websocket-accept")
                = some (KeyGen.accept (KeyGen.encode random)) := by
              rw [hgenerate] at haccept
              cases hvalue : fields.find (ascii "sec-websocket-accept") with
              | none =>
                  rw [hvalue] at haccept
                  have hlength := KeyGen.length_accept (KeyGen.encode random)
                  rw [haccept] at hlength
                  cases hlength
              | some value =>
                  rw [hvalue] at haccept
                  exact congrArg some haccept.symm
            refine ⟨rfl, ⟨connection, rfl, hupgrade⟩, hfind, ?_⟩
            simp [hupgrade, haccept]
          · simp [hconnection, hupgrade, haccept] at h
        · simp [hconnection, hupgrade] at h
  · rw [checkHead, if_pos hstatus] at h
    cases h

/-- An answer that is accepted. -/
theorem readAnswer_success {url path random input : StdString} (hrandom : random.length = 16)
    (h : (readAnswer url path (KeyGen.encode random) input).1.success = true) :
    ∃ fields rest, Proves (KeyGen.encode random) input fields rest ∧
      readAnswer url path (KeyGen.encode random) input
        = ({ success := true, httpStatus := 101, headers := fields, uri := path }, rest) := by
  unfold readAnswer at h ⊢
  split at h
  · cases h
  · rename_i line behind hline
    split at h
    rename_i httpVersion status hstatusLine
    split at h
    · cases h
    · rename_i hversion
      rw [ne_eq, not_not] at hversion
      split at h
      · cases h
      · rename_i fields rest hfields
        obtain ⟨rfl, hconnection, haccept, hresult⟩ := checkHead_success hrandom h
        refine ⟨fields, rest, ⟨⟨line, behind, hline, ?_, hfields⟩, hconnection, haccept⟩, ?_⟩
        · rw [hstatusLine, hversion]
        · simp only [hversion, hresult]
          simp

/-- A handshake that succeeds. -/
theorem clientHandshake_success {userAgent url : StdString} {extraHeaders : Headers} {u : Url}
    {random : StdString} (hrandom : random.length = 16) {attempt : Attempt}
    (h : (clientHandshake userAgent url extraHeaders u random attempt).1.success = true) :
    ∃ input fields rest, attempt = .answers input ∧
      Proves (KeyGen.encode random) input fields rest ∧
      clientHandshake userAgent url extraHeaders u random attempt
        = ({ success := true, httpStatus := 101, headers := fields, uri := u.path },
            [contact userAgent extraHeaders u random], rest) := by
  cases attempt with
  | noSocket | connectFails | writeFails => cases h
  | answers input =>
      obtain ⟨fields, rest, hproves, hanswer⟩ := readAnswer_success hrandom h
      refine ⟨input, fields, rest, rfl, hproves, ?_⟩
      rw [clientHandshake, hanswer]

/-- A status comes from an answer, and so from a server that has been asked. -/
theorem contacts_of_httpStatus {userAgent url : StdString} {extraHeaders : Headers} {u : Url}
    {random : StdString} {attempt : Attempt}
    (h : (clientHandshake userAgent url extraHeaders u random attempt).1.httpStatus ≠ 0) :
    (clientHandshake userAgent url extraHeaders u random attempt).2.1
      = [contact userAgent extraHeaders u random] := by
  cases attempt with
  | noSocket | connectFails | writeFails => exact absurd rfl h
  | answers input => rfl

/-- The round that ends the loop with success. -/
theorem connectLoop_success {env : Surroundings} {network : Nat → Attempt} {url : StdString}
    {headers : Headers} {n i : Nat} {remoteUrl : StdString} {result : InitResult}
    (hresult : result.success = false)
    (h : (connectLoop env network url headers n i remoteUrl result).result.success = true) :
    ∃ k < n, ∃ u input, network (i + k) = .answers input ∧
      (connectLoop env network url headers n i remoteUrl result).contacts.length = k + 1 ∧
      (connectLoop env network url headers n i remoteUrl result).contacts.getLast?
        = some (contact env.userAgent headers u (env.random (i + k))) ∧
      Proves (KeyGen.encode (env.random (i + k))) input
        (connectLoop env network url headers n i remoteUrl result).result.headers
        (connectLoop env network url headers n i remoteUrl result).incoming := by
  induction n generalizing i remoteUrl result with
  | zero =>
      rw [connectLoop, hresult] at h
      cases h
  | succ n ih =>
      cases hparse : parse remoteUrl with
      | none =>
          simp only [connectLoop, hparse] at h
          cases h
      | some u =>
          by_cases haccepted : (clientHandshake env.userAgent remoteUrl headers u (env.random i)
              (network i)).1.success = true
          · obtain ⟨input, fields, rest, hinput, hproves, hanswer⟩ :=
              clientHandshake_success (env.length_random i) haccepted
            have hstatus : ¬((300 : Int) ≤ 101 ∧ (101 : Int) < 400) := by omega
            have hloop : connectLoop env network url headers (n + 1) i remoteUrl result
                = ⟨{ success := true, httpStatus := 101, headers := fields, uri := u.path },
                    [contact env.userAgent headers u (env.random i)], rest⟩ := by
              simp only [connectLoop, hparse, hanswer, if_neg hstatus]
            rw [hloop]
            exact ⟨0, by omega, u, input, hinput, rfl, rfl, hproves⟩
          · -- A refusal ends the loop without success, unless it is a redirection.
            have hasked := @contacts_of_httpStatus env.userAgent remoteUrl headers u (env.random i)
              (network i)
            rw [connectLoop] at h ⊢
            simp only [hparse] at h ⊢
            generalize clientHandshake env.userAgent remoteUrl headers u (env.random i) (network i)
              = outcome at haccepted hasked h ⊢
            obtain ⟨answer, contacts, rest⟩ := outcome
            have hrefused : answer.success = false := by simpa using haccepted
            by_cases hredirect : 300 ≤ answer.httpStatus ∧ answer.httpStatus < 400
            · simp only [if_pos hredirect] at h ⊢
              cases hlocation : answer.headers.find (ascii "Location") with
              | none =>
                  simp only [hlocation, hrefused] at h
                  cases h
              | some location =>
                  simp only [hlocation] at h ⊢
                  obtain ⟨k, hk, u', input, hinput, hlength, hlast, hproves⟩ := ih hrefused h
                  have hindex : i + 1 + k = i + (k + 1) := by omega
                  rw [hindex] at hinput hlast hproves
                  have hcontacts := hasked (show answer.httpStatus ≠ 0 by omega)
                  simp only at hcontacts
                  refine ⟨k + 1, by omega, u', input, hinput, ?_, ?_, hproves⟩
                  · rw [hcontacts, List.length_append, hlength, List.length_singleton, Nat.add_comm]
                  · rw [List.getLast?_append, hlast]
                    rfl
            · simp only [if_neg hredirect, hrefused] at h
              cases h

/--
**Only a server that has read the request is accepted.**  If `connectToUrl` succeeds, however the
redirections went and whatever the servers sent, then the server asked last, in round `i` of ten
at most, has answered with status 101, an upgrade, and the Base64 of the SHA-1 of the key of that
very round; what it sent behind this head, byte for byte, is what is still to be read.
-/
theorem success_proven {env : Surroundings} {network : Nat → Attempt} {url : StdString}
    {headers : Headers} (h : (connectToUrl env network url headers).result.success = true) :
    ∃ i < Session.maxRedirections, ∃ u input, network i = .answers input ∧
      (connectToUrl env network url headers).contacts.length = i + 1 ∧
      (connectToUrl env network url headers).contacts.getLast?
        = some (contact env.userAgent headers u (env.random i)) ∧
      Proves (KeyGen.encode (env.random i)) input
        (connectToUrl env network url headers).result.headers
        (connectToUrl env network url headers).incoming := by
  obtain ⟨i, hi, u, input, hround⟩ := connectLoop_success rfl h
  rw [Nat.zero_add] at hround
  exact ⟨i, hi, u, input, hround⟩

/-- The second server is accepted, and has been asked in the clear. -/
theorem success_proven_downgrade :
    ∃ i < Session.maxRedirections, ∃ u input, sampleNetwork i = .answers input ∧
      (connectToUrl sampleSurroundings sampleNetwork (ascii "wss://a/") []).contacts.length = i + 1 ∧
      (connectToUrl sampleSurroundings sampleNetwork (ascii "wss://a/") []).contacts.getLast?
        = some (contact (ascii "ixwebsocket") [] u (ascii "the sample nonce")) ∧
      Proves (KeyGen.encode (ascii "the sample nonce")) input
        (connectToUrl sampleSurroundings sampleNetwork (ascii "wss://a/") []).result.headers
        (connectToUrl sampleSurroundings sampleNetwork (ascii "wss://a/") []).incoming := by
  have hroute := @connectLoop_route sampleSurroundings sampleNetwork (ascii "wss://a/") [] 0
    Session.maxRedirections _ _ _ sampleRoute {} rfl
  exact success_proven (hroute.2.1.mpr (by decide))

/-! ### What a request says -/

/-- A line is one line, if its parts are. -/
theorem count_requestLine {parts : List StdString} (h : ∀ part ∈ parts, lf ∉ part) :
    (requestLine parts).count lf = 1 := by
  have hparts : parts.flatten.count lf = 0 := by
    rw [List.count_eq_zero]
    intro hmem
    obtain ⟨part, hpart, hlf⟩ := List.mem_flatten.mp hmem
    exact h part hpart hlf
  rw [requestLine, List.count_append, hparts]
  rfl

/-- How many lines `clientHandshake` adds for a field it may be given. -/
def unlessGivenLines (extraHeaders : Headers) (name : String) : Nat :=
  if extraHeaders.find (ascii name) = none then 1 else 0

theorem count_unlessGiven (extraHeaders : Headers) (name : String) {parts : List StdString}
    (h : ∀ part ∈ parts, lf ∉ part) :
    (unlessGiven extraHeaders name parts).count lf = unlessGivenLines extraHeaders name := by
  rw [unlessGiven, unlessGivenLines]
  split
  · exact count_requestLine h
  · rfl

/-- How many lines a request has. -/
def requestLines (extraHeaders : Headers) : Nat :=
  6 + unlessGivenLines extraHeaders "Host" + unlessGivenLines extraHeaders "User-Agent" +
    unlessGivenLines extraHeaders "Origin" + extraHeaders.length

theorem lf_not_mem_intBytes (n : Int) : lf ∉ intBytes n := by
  have hdigits : ∀ m, lf ∉ decimalBytes m := fun m hmem => absurd (isdigit_of_mem hmem) (by decide)
  rw [intBytes]
  split
  · exact fun hmem => (List.mem_cons.mp hmem).elim (by decide) (hdigits _)
  · exact hdigits _

theorem lf_not_mem_bracketedHost {host : StdString} (h : lf ∉ host) : lf ∉ bracketedHost host := by
  rw [bracketedHost]
  split
  · simp only [List.mem_append, List.mem_singleton, not_or]
    exact ⟨⟨by decide, h⟩, by decide⟩
  · exact h

theorem lf_not_mem_key (random : StdString) : lf ∉ KeyGen.encode random := by
  intro hmem
  rw [KeyGen.encode_eq] at hmem
  exact absurd (Base64.mem_encode hmem) (by decide)

/-- The extra headers are what they seem to be. -/
def Headers.Whole (headers : Headers) : Prop := ∀ it ∈ headers, lf ∉ it.1 ∧ lf ∉ it.2

instance (headers : Headers) : Decidable headers.Whole :=
  inferInstanceAs (Decidable (∀ it ∈ headers, lf ∉ it.1 ∧ lf ∉ it.2))

theorem count_extraHeaders {headers : Headers} (h : headers.Whole) :
    (headers.flatMap fun it => requestLine [it.1, ascii ": ", it.2]).count lf = headers.length := by
  induction headers with
  | nil => rfl
  | cons it headers ih =>
      obtain ⟨hname, hvalue⟩ := h it List.mem_cons_self
      have hline : (requestLine [it.1, ascii ": ", it.2]).count lf = 1 := by
        refine count_requestLine ?_
        simp only [List.forall_mem_cons]
        exact ⟨hname, by decide, hvalue, by simp⟩
      rw [List.flatMap_cons, List.count_append, hline,
        ih fun it hit => h it (List.mem_cons_of_mem _ hit), List.length_cons, Nat.add_comm]

/-- **A request has the lines it is meant to have.** -/
theorem count_request {userAgent key : StdString} {headers : Headers} {u : Url}
    (hagent : lf ∉ userAgent) (hkey : lf ∉ key) (hheaders : headers.Whole)
    (hurl : lf ∉ u.protocol ∧ lf ∉ u.host ∧ lf ∉ u.path) :
    (request userAgent headers u key).count lf = requestLines headers := by
  obtain ⟨hprotocol, hhost, hpath⟩ := hurl
  have hhost' := lf_not_mem_bracketedHost hhost
  have hport := lf_not_mem_intBytes u.port
  have hget : ∀ part ∈ [ascii "GET ", u.path, ascii " HTTP/1.1"], lf ∉ part := by
    simp only [List.forall_mem_cons]
    exact ⟨by decide, hpath, by decide, by simp⟩
  have hhostLine : ∀ part ∈ [ascii "Host: ", bracketedHost u.host, ascii ":", intBytes u.port],
      lf ∉ part := by
    simp only [List.forall_mem_cons]
    exact ⟨by decide, hhost', by decide, hport, by simp⟩
  have hupgrade : (requestLine [ascii "Upgrade: websocket"]).count lf = 1 := by decide
  have hconnection : (requestLine [ascii "Connection: Upgrade"]).count lf = 1 := by decide
  have hversion : (requestLine [ascii "Sec-WebSocket-Version: 13"]).count lf = 1 := by decide
  have hkeyLine : ∀ part ∈ [ascii "Sec-WebSocket-Key: ", key], lf ∉ part := by
    simp only [List.forall_mem_cons]
    exact ⟨by decide, hkey, by simp⟩
  have hagentLine : ∀ part ∈ [ascii "User-Agent: ", userAgent], lf ∉ part := by
    simp only [List.forall_mem_cons]
    exact ⟨by decide, hagent, by simp⟩
  have horigin : ∀ part ∈ [ascii "Origin: ", u.protocol, ascii "://", bracketedHost u.host,
      ascii ":", intBytes u.port], lf ∉ part := by
    simp only [List.forall_mem_cons]
    exact ⟨by decide, hprotocol, by decide, hhost', by decide, hport, by simp⟩
  have hend : crlf.count lf = 1 := rfl
  simp only [request, List.count_append, count_requestLine hget,
    count_unlessGiven headers "Host" hhostLine, hupgrade, hconnection, hversion, count_requestLine hkeyLine,
    count_unlessGiven headers "User-Agent" hagentLine, count_unlessGiven headers "Origin" horigin,
    count_extraHeaders hheaders, hend, requestLines]
  omega

/-! ### Where its lines begin -/

theorem crlf_suffix_requestLine (written : StdString) (parts : List StdString) :
    crlf <:+ written ++ requestLine parts := by
  rw [requestLine, ← List.append_assoc]
  exact List.suffix_append _ _

theorem crlf_suffix_unlessGiven {written : StdString} (h : crlf <:+ written)
    (extraHeaders : Headers) (name : String) (parts : List StdString) :
    crlf <:+ written ++ unlessGiven extraHeaders name parts := by
  unfold unlessGiven
  split
  · exact crlf_suffix_requestLine written parts
  · rwa [List.append_nil]

theorem crlf_suffix_extraHeaders {written : StdString} (h : crlf <:+ written)
    (headers : Headers) :
    crlf <:+ written ++ headers.flatMap fun it => requestLine [it.1, ascii ": ", it.2] := by
  induction headers generalizing written with
  | nil => rwa [List.flatMap_nil, List.append_nil]
  | cons it headers ih =>
      rw [List.flatMap_cons, ← List.append_assoc]
      exact ih (crlf_suffix_requestLine written _)

/-- Every extra header is in the request, as a line of its own: behind the end of another. -/
theorem infix_request {headers : Headers} {it : StdString × StdString} (h : it ∈ headers)
    (userAgent key : StdString) (u : Url) :
    crlf ++ requestLine [it.1, ascii ": ", it.2] <:+: request userAgent headers u key := by
  obtain ⟨before, after, hheaders⟩ := List.append_of_mem h
  have hbefore := crlf_suffix_extraHeaders (crlf_suffix_unlessGiven (crlf_suffix_unlessGiven
    (crlf_suffix_requestLine
      (requestLine [ascii "GET ", u.path, ascii " HTTP/1.1"] ++
        unlessGiven headers "Host"
          [ascii "Host: ", bracketedHost u.host, ascii ":", intBytes u.port] ++
        requestLine [ascii "Upgrade: websocket"] ++
        requestLine [ascii "Connection: Upgrade"] ++
        requestLine [ascii "Sec-WebSocket-Version: 13"])
      [ascii "Sec-WebSocket-Key: ", key])
    headers "User-Agent" [ascii "User-Agent: ", userAgent])
    headers "Origin"
    [ascii "Origin: ", u.protocol, ascii "://", bracketedHost u.host, ascii ":", intBytes u.port])
    before
  obtain ⟨front, hfront⟩ := hbefore
  refine ⟨front, (after.flatMap fun it => requestLine [it.1, ascii ": ", it.2]) ++ crlf, ?_⟩
  rw [request, show (headers.flatMap fun it => requestLine [it.1, ascii ": ", it.2])
    = (before.flatMap fun it => requestLine [it.1, ascii ": ", it.2]) ++
      (requestLine [it.1, ascii ": ", it.2] ++
        after.flatMap fun it => requestLine [it.1, ascii ": ", it.2]) by
      rw [hheaders, List.flatMap_append, List.flatMap_cons]]
  simp only [← List.append_assoc] at hfront ⊢
  rw [hfront]

/-! ### No answer adds to it -/

/-- A head that is refused for its fields keeps none of them. -/
theorem headers_checkHead (url path key line : StdString) (status : Int) (headers : Headers) :
    (checkHead url path key line status headers).headers = [] ∨
      (checkHead url path key line status headers).headers = headers := by
  unfold checkHead
  split
  · exact .inr rfl
  · split
    · exact .inl rfl
    · split
      · exact .inl rfl
      · split
        · exact .inl rfl
        · exact .inr rfl

/-- The header fields of a result are those read, if any. -/
theorem lf_not_mem_readAnswer (url path key input : StdString) :
    (readAnswer url path key input).1.headers.Without lf := by
  have hnone : Headers.Without lf [] := fun it hit => absurd hit (by simp)
  unfold readAnswer
  split
  · exact hnone
  · rename_i line behind hline
    simp only
    split
    · exact hnone
    · split
      · exact hnone
      · rename_i fields rest hparse
        obtain hfields | hfields := headers_checkHead url path key line (parseStatusLine line).2 fields
        · rw [hfields]
          exact hnone
        · rw [hfields]
          exact lf_not_mem_value hparse

theorem lf_not_mem_clientHandshake (userAgent url : StdString) (extraHeaders : Headers) (u : Url)
    (random : StdString) (attempt : Attempt) :
    (clientHandshake userAgent url extraHeaders u random attempt).1.headers.Without lf := by
  have hnone : Headers.Without lf [] := fun it hit => absurd hit (by simp)
  cases attempt with
  | noSocket | connectFails | writeFails => exact hnone
  | answers input => exact lf_not_mem_readAnswer url u.path _ input

/-- A handshake sends one request at most. -/
theorem contacts_clientHandshake (userAgent url : StdString) (extraHeaders : Headers) (u : Url)
    (random : StdString) (attempt : Attempt) :
    (clientHandshake userAgent url extraHeaders u random attempt).2.1 = [] ∨
      (clientHandshake userAgent url extraHeaders u random attempt).2.1
        = [contact userAgent extraHeaders u random] := by
  cases attempt with
  | noSocket | connectFails => exact .inl rfl
  | writeFails | answers => exact .inr rfl

/-- What is asked of a request. -/
structure Contact.Whole (headers : Headers) (c : Contact) : Prop where
  lines : c.request.count lf = requestLines headers
  carries : ∀ it ∈ headers, crlf ++ requestLine [it.1, ascii ": ", it.2] <:+: c.request

/-- The rounds of the loop send whole requests only, and one a round at most. -/
theorem connectLoop_whole {env : Surroundings} {network : Nat → Attempt} {url : StdString}
    {headers : Headers} (hheaders : headers.Whole) {n i : Nat} {remoteUrl : StdString}
    (hurl : lf ∉ remoteUrl) (result : InitResult) :
    (connectLoop env network url headers n i remoteUrl result).contacts.length ≤ n ∧
      ∀ c ∈ (connectLoop env network url headers n i remoteUrl result).contacts,
        c.Whole headers := by
  induction n generalizing i remoteUrl result with
  | zero => simp [connectLoop]
  | succ n ih =>
      unfold connectLoop
      split
      · simp
      · rename_i u hparse
        have hparts := lf_not_mem_parse hurl hparse
        have hwhole : (contact env.userAgent headers u (env.random i)).Whole headers :=
          ⟨count_request env.userAgent_unbroken.2 (lf_not_mem_key _) hheaders hparts,
            fun it hit => infix_request hit _ _ _⟩
        have hfields := lf_not_mem_clientHandshake env.userAgent remoteUrl headers u (env.random i)
          (network i)
        have hsent := contacts_clientHandshake env.userAgent remoteUrl headers u (env.random i)
          (network i)
        generalize clientHandshake env.userAgent remoteUrl headers u (env.random i) (network i)
          = outcome at hfields hsent ⊢
        obtain ⟨answer, contacts, rest⟩ := outcome
        have hcontacts : contacts.length ≤ 1 ∧ ∀ c ∈ contacts, c.Whole headers := by
          rcases hsent with rfl | rfl
          · simp
          · simpa using hwhole
        have hroom : contacts.length ≤ n + 1 := by omega
        simp only
        split
        · split
          · exact ⟨hroom, hcontacts.2⟩
          · rename_i location hlocation
            obtain ⟨hlength, hlater⟩ := ih (i := i + 1) (hfields.of_find hlocation) answer
            constructor
            · rw [List.length_append]
              omega
            · intro c hc
              exact (List.mem_append.mp hc).elim (hcontacts.2 c) (hlater c)
        · exact ⟨hroom, hcontacts.2⟩

/--
**No answer adds a line to a request.**  Whatever the servers answer, the client sends ten
requests at most, and each has exactly the lines the client writes, every extra header being one
of them, behind the end of another: a redirection moves the request to another server, but cannot
put anything into it.
-/
theorem requests_whole (env : Surroundings) (network : Nat → Attempt) {url : StdString}
    {headers : Headers} (hurl : lf ∉ url) (hheaders : headers.Whole) :
    (connectToUrl env network url headers).contacts.length ≤ Session.maxRedirections ∧
      ∀ c ∈ (connectToUrl env network url headers).contacts, c.Whole headers :=
  connectLoop_whole hheaders hurl {}

/-- The token is a line, of ten, of the request to either server, also in the clear. -/
theorem requests_whole_token :
    (connectToUrl sampleSurroundings sampleNetwork (ascii "wss://a/")
        [(ascii "Authorization", ascii "Bearer x")]).contacts.map
      (fun c => (c.tls, c.request.count lf)) = [(true, 10), (false, 10)] ∧
    ∀ c ∈ (connectToUrl sampleSurroundings sampleNetwork (ascii "wss://a/")
        [(ascii "Authorization", ascii "Bearer x")]).contacts,
      crlf ++ ascii "Authorization: Bearer x" ++ crlf <:+: c.request := by
  have hurl : lf ∉ ascii "wss://a/" := by decide
  have hheaders : Headers.Whole [(ascii "Authorization", ascii "Bearer x")] := by decide
  have hwhole := (requests_whole sampleSurroundings sampleNetwork hurl hheaders).2
  have hroute := (@connectLoop_route sampleSurroundings sampleNetwork (ascii "wss://a/")
    [(ascii "Authorization", ascii "Bearer x")] 0 Session.maxRedirections _ _ _ sampleRoute {} rfl).1
  refine ⟨?_, fun c hc => (hwhole c hc).carries _ List.mem_cons_self⟩
  rw [connectToUrl, hroute] at hwhole ⊢
  obtain ⟨hfirst, hrest⟩ := List.forall_mem_cons.mp hwhole
  obtain ⟨hsecond, -⟩ := List.forall_mem_cons.mp hrest
  have hlines : requestLines [(ascii "Authorization", ascii "Bearer x")] = 10 := by decide
  refine congrArg₂ (fun a b => [(true, a), (false, b)]) ?_ ?_
  · exact hfirst.lines.trans hlines
  · exact hsecond.lines.trans hlines

end AisLive.WebSocket
