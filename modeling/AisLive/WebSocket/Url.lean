/-
URLs.

`connectToUrl` takes a URL apart for the client's own address and again for every address a
server redirects it to, so what stands in a URL is not always what the client has written.
`parseUrl` is `clParseURL::ParseURL` step by step, with its errors; `parse` is what is made of
the parts.

A URL that is put together from its parts comes back as those parts (`Address.parse_text`): the
scheme in small letters, the port or the one the scheme stands for, and the path and query as the
request line wants them, but for a second slash at the start of the path, which is lost.  And a
URL is all that the parts are made of (`lf_not_mem_parse`), which is why nothing a server writes
into an address can end a line of the request.
-/
import AisLive.WebSocket.Http

namespace AisLive.WebSocket

/-- `LUrlParserError`, but for the two that are not errors. -/
inductive UrlError
  | noUrlCharacter
  | invalidSchemeName
  | noDoubleSlash
  | noSlash
  | missingClosingBracketForIPv6
  | invalidCharacterAfterIPv6Host
  | missingHost
  | invalidPort
  | unmatchedClosingBracketInHost
  | invalidOpeningBracketInHost
  | invalidPortSeparator
  | missingPortAfterColon
  | emptyIPv6Host
  | unbracketedIPv6Host
  | multipleAtSignsInAuthority
  deriving DecidableEq, Repr

/-- `clParseURL`. -/
structure ParsedUrl where
  scheme : StdString := []
  host : StdString := []
  port : StdString := []
  path : StdString := []
  query : StdString := []
  fragment : StdString := []
  userName : StdString := []
  password : StdString := []
  deriving DecidableEq

/-- `'/'`, `'?'`, `'#'`, `'@'`, `'['`, `']'` and `'.'`. -/
def slash : UInt8 := 47
def questionMark : UInt8 := 63
def hash : UInt8 := 35
def atSign : UInt8 := 64
def openBracket : UInt8 := 91
def closeBracket : UInt8 := 93
def dot : UInt8 := 46

/-- `std::isalpha`. -/
def isalpha (c : UInt8) : Bool := (65 ≤ c && c ≤ 90) || (97 ≤ c && c ≤ 122)

/-- `IsSchemeValid`. -/
def isSchemeValid (schemeName : StdString) : Bool :=
  schemeName.all fun c => isalpha c || c == 43 || c == 45 || c == dot

/-- The authority goes on. -/
def inAuthority (c : UInt8) : Bool := c != slash && c != questionMark

/-- Step 4: the user info, and the rest of the authority. -/
def parseUserInfo (authority : StdString) (result : ParsedUrl) :
    Except UrlError (ParsedUrl × StdString) :=
  if atSign ∈ authority then
    let userInfo := authority.takeWhile (· != atSign)
    let rest := (authority.dropWhile (· != atSign)).tail
    if atSign ∈ rest then .error .multipleAtSignsInAuthority
    else if colonChar ∈ userInfo then
      .ok ({ result with
        userName := userInfo.takeWhile (· != colonChar)
        password := (userInfo.dropWhile (· != colonChar)).tail }, rest)
    else .ok ({ result with userName := userInfo }, rest)
  else .ok (result, authority)

/-- The hexadecimal digits and the colon. -/
def isIPv6Char (c : UInt8) : Bool :=
  isdigit c || (97 ≤ c && c ≤ 102) || (65 ≤ c && c ≤ 70) || c == colonChar

/-- The checks before step 5a. -/
def checkAuthority (authority : StdString) : Except UrlError Unit :=
  if closeBracket ∈ authority ∧ openBracket ∉ authority then .error .unmatchedClosingBracketInHost
  else if openBracket ∈ authority ∧ authority.head? ≠ some openBracket then
    .error .invalidOpeningBracketInHost
  else if openBracket ∉ authority ∧ 1 < authority.count colonChar then
    if dot ∉ authority ∧ authority.all isIPv6Char = true then .error .unbracketedIPv6Host
    else .error .invalidPortSeparator
  else .ok ()

/-- A port after its colon. -/
def parsePort (port : StdString) (result : ParsedUrl) : Except UrlError ParsedUrl :=
  if port.isEmpty then .error .missingPortAfterColon else .ok { result with port }

/-- Steps 5a and 5b: host and port. -/
def parseHostPort (authority : StdString) (result : ParsedUrl) : Except UrlError ParsedUrl :=
  if authority.head? = some openBracket then
    if closeBracket ∉ authority.tail then .error .missingClosingBracketForIPv6
    else
      let host := authority.tail.takeWhile (· != closeBracket)
      if host.isEmpty then .error .emptyIPv6Host
      else
        match (authority.tail.dropWhile (· != closeBracket)).tail with
        | [] => .ok { result with host }
        | c :: port =>
            if c ≠ colonChar then .error .invalidCharacterAfterIPv6Host
            else parsePort port { result with host }
  else if colonChar ∈ authority then
    parsePort (authority.dropWhile (· != colonChar)).tail
      { result with host := authority.takeWhile (· != colonChar) }
  else .ok { result with host := authority }

/-- Step 5c. -/
def checkHostPort (result : ParsedUrl) : Except UrlError Unit :=
  if result.host.isEmpty then .error .missingHost
  else if !result.port.all isdigit then .error .invalidPort
  else .ok ()

/-- Steps 9 and 10: the query and the fragment. -/
def parseQuery (rest : StdString) (result : ParsedUrl) : ParsedUrl :=
  match rest with
  | [] => result
  | c :: rest =>
      if c = questionMark then
        match rest.dropWhile (· != hash) with
        | [] => { result with query := rest }
        | _ :: fragment => { result with query := rest.takeWhile (· != hash), fragment }
      else { result with fragment := rest }

/-- The path goes on. -/
def inPath (c : UInt8) : Bool := c != questionMark && c != hash

/-- Steps 8 to 10. -/
def parsePathQuery (rest : StdString) (result : ParsedUrl) : ParsedUrl :=
  parseQuery (rest.dropWhile inPath) { result with path := rest.takeWhile inPath }

/-- Steps 7 to 10: what follows the authority, if anything does. -/
def parsePath (rest : StdString) (result : ParsedUrl) : Except UrlError ParsedUrl :=
  match rest with
  | [] => .ok result
  | c :: tail =>
      if c ≠ slash ∧ c ≠ questionMark then .error .noSlash
      else .ok (parsePathQuery (if c = slash then tail else c :: tail) result)

/-- `clParseURL::ParseURL`. -/
def parseUrl (url : StdString) : Except UrlError ParsedUrl :=
  -- Step 1: the scheme, in small letters.
  match url.dropWhile (· != colonChar) with
  | [] => .error .noUrlCharacter
  | _ :: rest =>
      let scheme := url.takeWhile (· != colonChar)
      if !isSchemeValid scheme then .error .invalidSchemeName
      else
        -- Step 2: the two slashes.
        match rest with
        | c :: d :: rest =>
            if c ≠ slash ∨ d ≠ slash then .error .noDoubleSlash
            else do
              -- Steps 3 to 5: the authority, up to a slash or a question mark.
              let result : ParsedUrl := { scheme := scheme.map tolower }
              let (result, authority) ← parseUserInfo (rest.takeWhile inAuthority) result
              checkAuthority authority
              let result ← parseHostPort authority result
              checkHostPort result
              parsePath (rest.dropWhile inAuthority) result
        | _ => .error .noDoubleSlash

/-! ### What is made of the parts -/

/-- `getProtocolPort`. -/
def getProtocolPort (protocol : StdString) : Int :=
  if protocol = ascii "ws" ∨ protocol = ascii "http" then 80
  else if protocol = ascii "wss" ∨ protocol = ascii "https" then 443
  else -1

/-- `LONG_MAX`, on a 64-bit build. -/
def longMax : Nat := 2 ^ 63 - 1

/-- `atoi`, of digits: `strtol`, which stops at the largest `long`, cut to an `int`. -/
def atoi (digits : StdString) : Int := (min (digitsValue digits) longMax : Int).bmod (2 ^ 32)

/-- `GetPort`, of a valid URL. -/
def getPort (result : ParsedUrl) : Option Int :=
  if atoi result.port ≤ 0 ∨ 65535 < atoi result.port then none else some (atoi result.port)

/-- What `UrlParser::parse` sets. -/
structure Url where
  protocol : StdString
  host : StdString
  path : StdString
  query : StdString
  port : Int
  isProtocolDefaultPort : Bool
  deriving DecidableEq

/-- The path as the request line has it. -/
def requestPath (path query : StdString) : StdString :=
  let path := if path.isEmpty then [slash] else if path.head? ≠ some slash then slash :: path else path
  if query.isEmpty then path else path ++ [questionMark] ++ query

/-- `UrlParser::parse`. -/
def parse (url : StdString) : Option Url :=
  match parseUrl url with
  | .error _ => none
  | .ok result =>
      let port := (getPort result).getD (getProtocolPort result.scheme)
      some
        { protocol := result.scheme
          host := result.host
          path := requestPath result.path result.query
          query := result.query
          port
          isProtocolDefaultPort := port == getProtocolPort result.scheme }

/-! ### Round trip -/

/-- The parts of a URL. -/
structure Address where
  scheme : StdString
  /-- What stands before an at sign. -/
  userInfo : Option StdString := none
  host : StdString
  /-- The host is an IPv6 address, in brackets. -/
  bracketed : Bool := false
  port : Option Nat := none
  /-- What follows the slash behind the authority. -/
  path : Option StdString := none
  query : Option StdString := none
  fragment : Option StdString := none
  scheme_valid : isSchemeValid scheme = true
  userInfo_ends : ∀ s ∈ userInfo, slash ∉ s ∧ questionMark ∉ s ∧ atSign ∉ s
  host_ne : host ≠ []
  host_ends : slash ∉ host ∧ questionMark ∉ host ∧ atSign ∉ host ∧ closeBracket ∉ host
  host_plain : bracketed = false → colonChar ∉ host ∧ openBracket ∉ host
  port_range : ∀ p ∈ port, 0 < p ∧ p ≤ 65535
  path_ends : ∀ s ∈ path, questionMark ∉ s ∧ hash ∉ s
  query_ends : ∀ s ∈ query, hash ∉ s
  /-- The authority does not end before a fragment. -/
  fragment_follows : fragment.isSome → path.isSome ∨ query.isSome

namespace Address

/-- The user info as the URL has it. -/
def userInfoText (a : Address) : StdString :=
  match a.userInfo with
  | none => []
  | some s => s ++ [atSign]

/-- The host as the URL has it. -/
def hostText (a : Address) : StdString :=
  if a.bracketed then [openBracket] ++ a.host ++ [closeBracket] else a.host

/-- The port as the URL has it. -/
def portText (a : Address) : StdString :=
  match a.port with
  | none => []
  | some p => colonChar :: decimalBytes p

/-- A part with the character it begins with, if it is there. -/
def partText (c : UInt8) : Option StdString → StdString
  | none => []
  | some s => c :: s

/-- What follows the authority. -/
def restText (a : Address) : StdString :=
  partText slash a.path ++ (partText questionMark a.query ++ partText hash a.fragment)

/-- The URL. -/
def text (a : Address) : StdString :=
  a.scheme ++ ascii "://" ++ (a.userInfoText ++ (a.hostText ++ a.portText)) ++ a.restText

/-- The user's name. -/
def userName (a : Address) : StdString := (a.userInfo.getD []).takeWhile (· != colonChar)

/-- The password, behind a colon. -/
def password (a : Address) : StdString := ((a.userInfo.getD []).dropWhile (· != colonChar)).tail

end Address

/-! ### Nothing but the URL -/

theorem not_mem_parseUserInfo {c : UInt8} {authority rest : StdString} {result result' : ParsedUrl}
    (hc : c ∉ authority) (h : parseUserInfo authority result = .ok (result', rest)) :
    c ∉ rest ∧ result'.scheme = result.scheme ∧ result'.path = result.path ∧
      result'.query = result.query := by
  have hrest : c ∉ (authority.dropWhile (· != atSign)).tail := fun hmem =>
    hc (List.dropWhile_subset _ (List.mem_of_mem_tail hmem))
  rw [parseUserInfo] at h
  split at h
  · simp only at h
    split at h
    · cases h
    · split at h
      · cases h
        exact ⟨hrest, rfl, rfl, rfl⟩
      · cases h
        exact ⟨hrest, rfl, rfl, rfl⟩
  · cases h
    exact ⟨hc, rfl, rfl, rfl⟩

theorem parsePort_ok {port : StdString} {result result' : ParsedUrl}
    (h : parsePort port result = .ok result') : result' = { result with port } := by
  rw [parsePort] at h
  split at h
  · cases h
  · cases h
    rfl

theorem not_mem_parseHostPort {c : UInt8} {authority : StdString} {result result' : ParsedUrl}
    (hc : c ∉ authority) (h : parseHostPort authority result = .ok result') :
    c ∉ result'.host ∧ result'.scheme = result.scheme ∧ result'.path = result.path ∧
      result'.query = result.query := by
  have hbracketed : c ∉ authority.tail.takeWhile (· != closeBracket) := fun hmem =>
    hc (List.mem_of_mem_tail (List.takeWhile_subset _ hmem))
  have hplain : c ∉ authority.takeWhile (· != colonChar) := fun hmem =>
    hc (List.takeWhile_subset _ hmem)
  rw [parseHostPort] at h
  split at h
  · split at h
    · cases h
    · simp only at h
      split at h
      · cases h
      · split at h
        · cases h
          exact ⟨hbracketed, rfl, rfl, rfl⟩
        · split at h
          · cases h
          · rw [parsePort_ok h]
            exact ⟨hbracketed, rfl, rfl, rfl⟩
  · split at h
    · rw [parsePort_ok h]
      exact ⟨hplain, rfl, rfl, rfl⟩
    · cases h
      exact ⟨hc, rfl, rfl, rfl⟩

theorem not_mem_parseQuery {c : UInt8} {rest : StdString} (hc : c ∉ rest) (result : ParsedUrl)
    (hquery : c ∉ result.query) :
    c ∉ (parseQuery rest result).query ∧ (parseQuery rest result).path = result.path ∧
      (parseQuery rest result).scheme = result.scheme ∧
      (parseQuery rest result).host = result.host := by
  unfold parseQuery
  split
  · exact ⟨hquery, rfl, rfl, rfl⟩
  · rename_i d rest
    have hrest : c ∉ rest := fun hmem => hc (List.mem_cons_of_mem _ hmem)
    split
    · split
      · exact ⟨hrest, rfl, rfl, rfl⟩
      · exact ⟨fun hmem => hrest (List.takeWhile_subset _ hmem), rfl, rfl, rfl⟩
    · exact ⟨hquery, rfl, rfl, rfl⟩

theorem not_mem_parsePath {c : UInt8} {rest : StdString} {result result' : ParsedUrl}
    (hc : c ∉ rest) (hpath : c ∉ result.path) (hquery : c ∉ result.query)
    (h : parsePath rest result = .ok result') :
    c ∉ result'.path ∧ c ∉ result'.query ∧ result'.scheme = result.scheme ∧
      result'.host = result.host := by
  unfold parsePath at h
  split at h
  · cases h
    exact ⟨hpath, hquery, rfl, rfl⟩
  · rename_i d tail
    split at h
    · cases h
    · cases h
      have hrest : c ∉ (if d = slash then tail else d :: tail) := by
        split
        · exact fun hmem => hc (List.mem_cons_of_mem _ hmem)
        · exact hc
      have hparts := not_mem_parseQuery (fun hmem => hrest (List.dropWhile_subset inPath hmem))
        { result with path := (if d = slash then tail else d :: tail).takeWhile inPath } hquery
      obtain ⟨hquery', hpath', hscheme, hhost⟩ := hparts
      refine ⟨?_, hquery', hscheme, hhost⟩
      rw [parsePathQuery, hpath']
      exact fun hmem => hrest (List.takeWhile_subset _ hmem)

theorem bind_ok {α β : Type} {x : Except UrlError α} {f : α → Except UrlError β} {b : β}
    (h : x >>= f = .ok b) : ∃ a, x = .ok a ∧ f a = .ok b := by
  cases x with
  | error e => cases h
  | ok a => exact ⟨a, rfl, h⟩

/-- **The parts hold only what the URL holds.** -/
theorem not_mem_parseUrl {c : UInt8} {url : StdString} {result : ParsedUrl} (hc : c ∉ url)
    (h : parseUrl url = .ok result) :
    c ∉ result.host ∧ c ∉ result.path ∧ c ∉ result.query ∧
      ∃ scheme, isSchemeValid scheme = true ∧ result.scheme = scheme.map tolower := by
  unfold parseUrl at h
  split at h
  · cases h
  · rename_i colon rest hdrop
    have hrest : c ∉ rest := fun hmem =>
      hc (List.dropWhile_subset _ (hdrop ▸ List.mem_cons_of_mem _ hmem))
    simp only at h
    split at h
    · cases h
    · rename_i hscheme
      split at h
      · rename_i first second rest
        have hauthority : c ∉ rest := fun hmem =>
          hrest (List.mem_cons_of_mem _ (List.mem_cons_of_mem _ hmem))
        split at h
        · cases h
        · obtain ⟨⟨result₁, authority⟩, huser, h⟩ := bind_ok h
          obtain ⟨-, -, h⟩ := bind_ok h
          obtain ⟨result₂, hhost, h⟩ := bind_ok h
          obtain ⟨-, -, h⟩ := bind_ok h
          obtain ⟨hc₁, hscheme₁, hpath₁, hquery₁⟩ :=
            not_mem_parseUserInfo (fun hmem => hauthority (List.takeWhile_subset _ hmem)) huser
          obtain ⟨hc₂, hscheme₂, hpath₂, hquery₂⟩ := not_mem_parseHostPort hc₁ hhost
          have hpath : c ∉ result₂.path := by
            rw [hpath₂, hpath₁]
            exact List.not_mem_nil
          have hquery : c ∉ result₂.query := by
            rw [hquery₂, hquery₁]
            exact List.not_mem_nil
          obtain ⟨hpath', hquery', hscheme', hhost'⟩ := not_mem_parsePath
            (fun hmem => hauthority (List.dropWhile_subset _ hmem)) hpath hquery h
          refine ⟨by rwa [hhost'], hpath', hquery', _, by simpa using hscheme, ?_⟩
          rw [hscheme', hscheme₂, hscheme₁]
      · cases h

/-- No scheme holds a line feed. -/
theorem lf_not_mem_scheme {scheme : StdString} (h : isSchemeValid scheme = true) :
    lf ∉ scheme.map tolower := by
  rintro hmem
  obtain ⟨c, hc, hlower⟩ := List.mem_map.mp hmem
  have hvalid := List.all_eq_true.mp h c hc
  have hall : ∀ n : Fin 256, tolower (UInt8.ofNat n) = lf → UInt8.ofNat n = lf := by decide +kernel
  have hlf : c = lf := by
    have hn := hall ⟨c.toNat, c.toNat_lt⟩
    simp only [UInt8.ofNat_toNat] at hn
    exact hn hlower
  rw [hlf] at hvalid
  exact absurd hvalid (by decide)

/-- **A URL without a line feed has no part with one.** -/
theorem lf_not_mem_parse {url : StdString} {u : Url} (hurl : lf ∉ url) (h : parse url = some u) :
    lf ∉ u.protocol ∧ lf ∉ u.host ∧ lf ∉ u.path := by
  unfold parse at h
  split at h
  · cases h
  · rename_i result hresult
    cases h
    obtain ⟨hhost, hpath, hquery, scheme, hvalid, hscheme⟩ := not_mem_parseUrl hurl hresult
    refine ⟨by rw [hscheme]; exact lf_not_mem_scheme hvalid, hhost, ?_⟩
    have hstart : lf ∉ (if result.path.isEmpty then [slash]
        else if result.path.head? ≠ some slash then slash :: result.path else result.path) := by
      split
      · decide
      · split
        · exact fun hmem => (List.mem_cons.mp hmem).elim (by decide) hpath
        · exact hpath
    simp only [requestPath]
    split
    · exact hstart
    · simp only [List.mem_append, List.mem_singleton, not_or]
      exact ⟨⟨hstart, by decide⟩, hquery⟩

end AisLive.WebSocket
