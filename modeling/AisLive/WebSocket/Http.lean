/-
The head of an HTTP response, read a byte at a time.

A server answers a handshake with a status line, header lines and an empty line, and the first
frame may follow at once.  The client reads that head byte by byte, so that what is behind it
stays in the socket: `parseHttpHeaders_written` says that any header fields that keep to the
format come back, and that nothing behind the empty line has been touched.

A line ends with a line feed, or with whatever comes after a carriage return, or when the buffer
of 1023 bytes is full; what a server has put into a line may therefore come out as something
else, but never as a value with a line feed in it (`lf_not_mem_value`).  The client
relies on that without saying so when it follows a redirection.

A socket is what can still be read from it.  Reading fails where that ends, whether the
connection has broken, the server is too slow or the handshake has been cancelled.
-/
import AisLive.Text
import Mathlib.Algebra.Group.Int.Defs
import Mathlib.Data.List.GetD
import Mathlib.Data.List.TakeWhile

namespace AisLive.WebSocket

/-- `'\r'`. -/
def cr : UInt8 := 13

/-- `'\n'`. -/
def lf : UInt8 := 10

/-- `':'`. -/
def colonChar : UInt8 := 58

/-- `' '`. -/
def space : UInt8 := 32

/-- The end of a line, as it is written. -/
def crlf : StdString := [cr, lf]

/-- `std::isspace`, in the C locale. -/
def isspace (c : UInt8) : Bool := c == 32 || (9 ≤ c && c ≤ 13)

/-! ### Header maps -/

/-- `std::tolower`, in the C locale. -/
def tolower (c : UInt8) : UInt8 := if 65 ≤ c ∧ c ≤ 90 then c + 32 else c

/-- `CaseInsensitiveLess::cmp`. -/
def cmp : StdString → StdString → Bool
  | _, [] => false
  | [], _ :: _ => true
  | c :: s, d :: t =>
      tolower c < tolower d || (!decide (tolower d < tolower c) && cmp s t)

/-- `insensitiveStringCompare`. -/
def insensitiveStringCompare (a b : StdString) : Bool := !cmp a b && !cmp b a

/-- `WebSocketHttpHeaders`, in the order of its keys. -/
abbrev Headers := List (StdString × StdString)

namespace Headers

/-- `headers.find(name)`. -/
def find (name : StdString) : Headers → Option StdString
  | [] => none
  | (key, value) :: rest => if insensitiveStringCompare key name then some value else find name rest

/-- `headers[name] = value`. -/
def insert (name value : StdString) : Headers → Headers
  | [] => [(name, value)]
  | (key, old) :: rest =>
      if cmp name key then (name, value) :: (key, old) :: rest
      else if cmp key name then (key, old) :: insert name value rest
      else (key, value) :: rest

end Headers

/-! ### Lines -/

/-- The loop of `readLine` is over. -/
def lineEnded (line : StdString) : Bool :=
  !(decide (line.length < 2) ||
    (line.getD (line.length - 2) 0 != cr && line.getD (line.length - 1) 0 != lf))

/-- `Socket::readLine`, with part of the line read. -/
def readLineFrom (line : StdString) : StdString → Bool × StdString × StdString
  | [] => (lineEnded line, line, [])
  | c :: input => if lineEnded line then (true, line, c :: input) else readLineFrom (line ++ [c]) input

/-- `Socket::readLine`: whether a line could be read, the line, and what is left. -/
def readLine (input : StdString) : Bool × StdString × StdString := readLineFrom [] input

/-- The loop that reads a header line is over. -/
def headerLineEnded (line : StdString) : Bool :=
  !(decide (line.length < 2) ||
    (decide (line.length < 1023) &&
      line.getD (line.length - 2) 0 != cr && line.getD (line.length - 1) 0 != lf))

/-- The loop that reads a header line, with part of it read; the place of the colon goes with
it, and nothing comes out if a byte cannot be read. -/
def readHeaderLine (line : StdString) (colon : Nat) :
    StdString → Option (StdString × Nat × StdString)
  | [] => if headerLineEnded line then some (line, colon, []) else none
  | c :: input =>
      if headerLineEnded line then some (line, colon, c :: input)
      else
        readHeaderLine (line ++ [c]) (if c = colonChar ∧ colon = 0 then line.length else colon)
          input

/-- Without the white space at its end. -/
def trimEnd (value : StdString) : StdString := (value.reverse.dropWhile isspace).reverse

/-- A header line is split at its colon, if it has one. -/
def addEntry (line : StdString) (colon : Nat) (headers : Headers) : Headers :=
  if 0 < colon then
    let lineStr := line.takeWhile (· ≠ 0)
    headers.insert (lineStr.take colon)
      (trimEnd ((lineStr.drop (colon + 1)).dropWhile (· == space)))
  else headers

/-- The loop of `parseHttpHeaders`. -/
def headerLoop : Nat → Headers → StdString → Bool × Headers × StdString
  | 0, headers, input => (false, headers, input)
  | n + 1, headers, input =>
      match readHeaderLine [] 0 input with
      | none => (false, headers, [])
      | some (line, colon, rest) =>
          if line.getD 0 0 = cr ∧ line.getD 1 0 = lf then (true, headers, rest)
          else headerLoop n (addEntry line colon headers) rest

/-- `parseHttpHeaders`.  Every line takes two bytes at least. -/
def parseHttpHeaders (input : StdString) : Bool × Headers × StdString :=
  headerLoop (input.length + 1) [] input

/-! ### The status line -/

/-- `Http::trim`. -/
def httpTrim (str : StdString) : StdString := str.filter fun c => c != space && c != lf && c != cr

/-- `std::getline` over and over, at each blank; the first token is partly read. -/
def getlines (token : StdString) : StdString → List StdString
  | [] => if token.isEmpty then [] else [token]
  | c :: rest => if c = space then token :: getlines [] rest else getlines (token ++ [c]) rest

/-- `INT_MAX`. -/
def intMax : Int := 2 ^ 31 - 1

/-- The value of decimal digits. -/
def digitsValue (digits : StdString) : Nat :=
  digits.foldl (fun n c => 10 * n + (c.toNat - 48)) 0

/-- A number put into a stream. -/
def decimalBytes (n : Nat) : StdString := (decimal n).map fun c => c.toNat.toUInt8

/-- An `int` put into a stream. -/
def intBytes (n : Int) : StdString := if n < 0 then 45 :: decimalBytes n.natAbs else decimalBytes n.natAbs

/-- `std::isdigit`. -/
def isdigit (c : UInt8) : Bool := 48 ≤ c && c ≤ 57

/-- `ss >> n`, of a text and the old value.  Without a number the value is zero, unless there
was no text to read it from; a number that does not fit is cut to the nearest that does. -/
def extractInt (text : StdString) (old : Int) : Int :=
  let body := text.dropWhile isspace
  if body.isEmpty then old
  else
    let negative := body.head? == some 45
    let digits := (if negative || body.head? == some 43 then body.tail else body).takeWhile isdigit
    if negative then max (-digitsValue digits) (-intMax - 1) else min (digitsValue digits) intMax

/-- `Http::parseStatusLine`: the version and the status. -/
def parseStatusLine (line : StdString) : StdString × Int :=
  match getlines [] line with
  | [] => ([], -1)
  | [version] => (httpTrim version, -1)
  | version :: status :: _ => (httpTrim version, extractInt (httpTrim status) (-1))

/-! ### Numbers -/

theorem toNat_of_isDigit {c : Char} (hc : c.isDigit = true) : c.toNat.toUInt8.toNat = c.toNat := by
  rw [Char.isDigit, Bool.and_eq_true, decide_eq_true_eq, decide_eq_true_eq] at hc
  have hhigh : c.toNat ≤ 57 := hc.2
  show c.toNat % 256 = c.toNat
  omega

/-- The digits of a number are digits. -/
theorem isdigit_of_mem {n : Nat} {c : UInt8} (hc : c ∈ decimalBytes n) : isdigit c = true := by
  obtain ⟨d, hd, rfl⟩ := List.mem_map.mp hc
  have hdigit := isDigit_of_mem_decimal hd
  have hnat := toNat_of_isDigit hdigit
  rw [Char.isDigit, Bool.and_eq_true, decide_eq_true_eq, decide_eq_true_eq] at hdigit
  have hlow : 48 ≤ d.toNat := hdigit.1
  have hhigh : d.toNat ≤ 57 := hdigit.2
  simp only [isdigit, Bool.and_eq_true, decide_eq_true_eq, UInt8.le_iff_toNat_le, hnat]
  exact ⟨hlow, hhigh⟩

/-- **A number that is written comes back.** -/
theorem digitsValue_decimalBytes (n : Nat) : digitsValue (decimalBytes n) = n := by
  have hfold : ∀ (digits : List Char) (m : Nat), (∀ c ∈ digits, c.isDigit = true) →
      (digits.map fun c => c.toNat.toUInt8).foldl (fun n (c : UInt8) => 10 * n + (c.toNat - 48)) m
        = Nat.ofDigitChars 10 digits m := by
    intro digits
    induction digits with
    | nil => exact fun m _ => rfl
    | cons c digits ih =>
        intro m hdigits
        rw [List.map_cons, List.foldl_cons, Nat.ofDigitChars_cons,
          toNat_of_isDigit (hdigits c List.mem_cons_self),
          ih _ fun d hd => hdigits d (List.mem_cons_of_mem _ hd)]
        rfl
  rw [digitsValue, decimalBytes, hfold _ _ fun c hc => isDigit_of_mem_decimal hc]
  exact Nat.ofDigitChars_ten_toDigits

theorem decimalBytes_ne_nil (n : Nat) : decimalBytes n ≠ [] := fun h =>
  decimal_ne_nil n (List.map_eq_nil_iff.mp h)

/-- And out of a stream. -/
theorem extractInt_decimalBytes {n : Nat} (hn : (n : Int) ≤ intMax) (old : Int) :
    extractInt (decimalBytes n) old = n := by
  obtain ⟨c, rest, hcons⟩ := List.exists_cons_of_ne_nil (decimalBytes_ne_nil n)
  have hdigit : isdigit c = true := isdigit_of_mem (n := n) (by rw [hcons]; exact List.mem_cons_self)
  have hother : ∀ d : UInt8, isdigit d = false → c ≠ d := by
    rintro d hd rfl
    rw [hdigit] at hd
    cases hd
  have hspace : isspace c = false := by
    have hall : ∀ n : Fin 256, isdigit (UInt8.ofNat n) = true → isspace (UInt8.ofNat n) = false := by
      decide +kernel
    have h := hall ⟨c.toNat, c.toNat_lt⟩
    simp only [UInt8.ofNat_toNat] at h
    exact h hdigit
  have hbody : (decimalBytes n).dropWhile isspace = decimalBytes n := by
    rw [hcons, List.dropWhile_cons_of_neg (by simp [hspace])]
  have hminus : ((decimalBytes n).head? == some 45) = false := by
    rw [hcons]
    simpa using hother 45 rfl
  have hplus : ((decimalBytes n).head? == some 43) = false := by
    rw [hcons]
    simpa using hother 43 rfl
  have hall : (decimalBytes n).takeWhile isdigit = decimalBytes n :=
    List.takeWhile_eq_self_iff.mpr fun d hd => isdigit_of_mem hd
  have hempty : (decimalBytes n).isEmpty = false := by rw [hcons]; rfl
  simp only [extractInt, hbody, hempty, hminus, hplus, Bool.or_false, Bool.false_eq_true, if_false,
    hall, digitsValue_decimalBytes]
  exact Int.min_eq_left hn

/-! ### What is written comes back -/

/-- A text without a line break. -/
def Unbroken (text : StdString) : Prop := cr ∉ text ∧ lf ∉ text

theorem Unbroken.append {s t : StdString} (hs : Unbroken s) (ht : Unbroken t) : Unbroken (s ++ t) :=
  ⟨fun h => (List.mem_append.mp h).elim hs.1 ht.1, fun h => (List.mem_append.mp h).elim hs.2 ht.2⟩

/-- A byte of a text, or nothing. -/
theorem getD_ne {text : StdString} {c : UInt8} (hc : c ∉ text) (hzero : c ≠ 0) (i : Nat) :
    text.getD i 0 ≠ c := by
  rw [List.getD_eq_getElem?_getD]
  cases hget : text[i]? with
  | none => exact fun h => hzero h.symm
  | some d =>
      rintro rfl
      exact hc (List.mem_of_getElem? hget)

/-- A line goes on until there is a break in it. -/
theorem lineEnded_unbroken {line : StdString} (h : Unbroken line) : lineEnded line = false := by
  have hcr := getD_ne h.1 (by decide) (line.length - 2)
  have hlf := getD_ne h.2 (by decide) (line.length - 1)
  simp only [lineEnded, bne_iff_ne.mpr hcr, bne_iff_ne.mpr hlf]
  simp

/-- The carriage return does not end it yet. -/
theorem lineEnded_cr {line : StdString} (h : Unbroken line) : lineEnded (line ++ [cr]) = false := by
  cases line with
  | nil => rfl
  | cons c line =>
      have hbefore : (c :: line ++ [cr]).getD ((c :: line ++ [cr]).length - 2) 0 ≠ cr := by
        have hplace : (c :: line ++ [cr]).length - 2 < (c :: line).length := by simp
        rw [List.getD_append _ _ _ _ hplace]
        exact getD_ne h.1 (by decide) _
      have hlast : (c :: line ++ [cr]).getD ((c :: line ++ [cr]).length - 1) 0 ≠ lf := by
        have hplace : (c :: line ++ [cr]).length - 1 = (c :: line).length := by simp
        rw [hplace, List.getD_append_right _ _ _ _ (Nat.le_refl _), Nat.sub_self]
        decide
      simp only [lineEnded, bne_iff_ne.mpr hbefore, bne_iff_ne.mpr hlast]
      simp

/-- The line feed after it does. -/
theorem lineEnded_crlf (line : StdString) : lineEnded (line ++ crlf) = true := by
  have hcr : (line ++ crlf).getD ((line ++ crlf).length - 2) 0 = cr := by
    have hplace : (line ++ crlf).length - 2 = line.length := by simp [crlf]
    rw [hplace, List.getD_append_right _ _ _ _ (Nat.le_refl _), Nat.sub_self]
    rfl
  simp only [lineEnded, hcr]
  simp [crlf]

/-- A header line also ends when the buffer is full. -/
theorem headerLineEnded_eq (line : StdString) :
    headerLineEnded line = (lineEnded line || decide (1023 ≤ line.length)) := by
  by_cases hfull : 1023 ≤ line.length
  · simp [headerLineEnded, lineEnded, hfull, show ¬line.length < 2 by omega,
      show ¬line.length < 1023 by omega]
  · have hshort : decide (line.length < 1023) = true := decide_eq_true (by omega)
    rw [headerLineEnded, lineEnded, hshort, decide_eq_false hfull, Bool.true_and, Bool.or_false]

theorem headerLineEnded_of_short {line : StdString} (hlength : line.length < 1023) :
    headerLineEnded line = lineEnded line := by
  rw [headerLineEnded_eq, decide_eq_false (by omega), Bool.or_false]

/-- **A line of any length is read to its end.** -/
theorem readLineFrom_crlf {line text : StdString} (rest : StdString) (h : Unbroken (line ++ text)) :
    readLineFrom line (text ++ (crlf ++ rest)) = (true, line ++ text ++ crlf, rest) := by
  induction text generalizing line with
  | nil =>
      rw [List.append_nil] at h
      have happend : line ++ [cr] ++ [lf] = line ++ crlf := by simp [crlf]
      have hend := lineEnded_crlf line
      rw [List.nil_append, List.append_nil, crlf, List.cons_append, List.cons_append,
        List.nil_append, readLineFrom, lineEnded_unbroken h, if_neg Bool.false_ne_true, readLineFrom,
        lineEnded_cr h, if_neg Bool.false_ne_true, happend]
      cases rest with
      | nil => rw [readLineFrom, hend]; rfl
      | cons c rest => rw [readLineFrom, if_pos hend]; rfl
  | cons c text ih =>
      have hline : Unbroken line :=
        ⟨fun hc => h.1 (List.mem_append_left _ hc), fun hc => h.2 (List.mem_append_left _ hc)⟩
      have happend : line ++ c :: text = line ++ [c] ++ text := by simp
      rw [List.cons_append, readLineFrom, lineEnded_unbroken hline, if_neg Bool.false_ne_true,
        happend]
      rw [happend] at h
      exact ih h

/-- The place of the colon is not noted again. -/
def Noted (colon : Nat) (text : StdString) : Prop := colon ≠ 0 ∨ colonChar ∉ text

/-- Reading part of a line. -/
theorem readHeaderLine_append {line text : StdString} {colon : Nat} (rest : StdString)
    (h : Unbroken (line ++ text)) (hlength : (line ++ text).length ≤ 1023)
    (hnoted : Noted colon text) :
    readHeaderLine line colon (text ++ rest) = readHeaderLine (line ++ text) colon rest := by
  induction text generalizing line with
  | nil => rw [List.nil_append, List.append_nil]
  | cons c text ih =>
      have hline : Unbroken line :=
        ⟨fun hc => h.1 (List.mem_append_left _ hc), fun hc => h.2 (List.mem_append_left _ hc)⟩
      have hshort : line.length < 1023 := by
        simp only [List.length_append, List.length_cons] at hlength
        omega
      have hcolon : (if c = colonChar ∧ colon = 0 then line.length else colon) = colon := by
        refine if_neg fun hc => ?_
        rcases hnoted with hnoted | hnoted
        · exact hnoted hc.2
        · exact hnoted (hc.1 ▸ List.mem_cons_self)
      have hrest : Noted colon text :=
        hnoted.imp id fun hnoted hc => hnoted (List.mem_cons_of_mem _ hc)
      have happend : line ++ c :: text = line ++ [c] ++ text := by simp
      rw [List.cons_append, readHeaderLine, headerLineEnded_of_short hshort, lineEnded_unbroken hline,
        if_neg Bool.false_ne_true, hcolon, happend]
      rw [happend] at h hlength
      exact ih h hlength hrest

/-- Reading the end of a line. -/
theorem readHeaderLine_crlf {line : StdString} {colon : Nat} (rest : StdString)
    (h : Unbroken line) (hlength : line.length ≤ 1021) :
    readHeaderLine line colon (crlf ++ rest) = some (line ++ crlf, colon, rest) := by
  have hbreak : ∀ (c : UInt8) (n : Nat), c = cr ∨ c = lf →
      (if c = colonChar ∧ colon = 0 then n else colon) = colon := by
    rintro c n (rfl | rfl) <;> exact if_neg fun hc => absurd hc.1 (by decide)
  have hmiddle : headerLineEnded (line ++ [cr]) = false := by
    rw [headerLineEnded_of_short (by simp only [List.length_append, List.length_singleton]; omega),
      lineEnded_cr h]
  have hend : headerLineEnded (line ++ crlf) = true := by
    rw [headerLineEnded_eq, lineEnded_crlf, Bool.true_or]
  have happend : line ++ [cr] ++ [lf] = line ++ crlf := by simp [crlf]
  rw [crlf, List.cons_append, List.cons_append, List.nil_append, readHeaderLine,
    headerLineEnded_of_short (by omega), lineEnded_unbroken h, if_neg Bool.false_ne_true, hbreak cr _ (.inl rfl),
    readHeaderLine, hmiddle, if_neg Bool.false_ne_true, hbreak lf _ (.inr rfl), happend]
  cases rest with
  | nil => rw [readHeaderLine, if_pos hend]; rfl
  | cons c rest => rw [readHeaderLine, if_pos hend]; rfl

/-- A header field that keeps to the format. -/
structure Field where
  name : StdString
  value : StdString
  name_ne : name ≠ []
  name_unbroken : Unbroken name
  name_colon : colonChar ∉ name
  name_zero : (0 : UInt8) ∉ name
  value_unbroken : Unbroken value
  value_zero : (0 : UInt8) ∉ value
  value_start : ∀ c ∈ value.head?, c ≠ space
  value_end : ∀ c ∈ value.getLast?, isspace c = false
  fits : name.length + value.length ≤ 1019

namespace Field

/-- The field as a server writes it. -/
def line (e : Field) : StdString := e.name ++ [colonChar, space] ++ e.value ++ crlf

/-- The map of some fields. -/
def headers (es : List Field) : Headers := es.foldl (fun headers e => headers.insert e.name e.value) []

/-- **A field is read as one line.** -/
theorem readHeaderLine_line (e : Field) (rest : StdString) :
    readHeaderLine [] 0 (e.line ++ rest) = some (e.line, e.name.length, rest) := by
  have hfits := e.fits
  have hmark : Unbroken [colonChar, space] := by
    constructor <;> decide
  have hname : Unbroken ([] ++ e.name) := e.name_unbroken
  have hcolon : (if colonChar = colonChar ∧ 0 = 0 then e.name.length else 0) = e.name.length :=
    if_pos ⟨rfl, rfl⟩
  have hpos : e.name.length ≠ 0 := fun h => e.name_ne (List.length_eq_zero_iff.mp h)
  have htail : Unbroken (e.name ++ [colonChar] ++ (space :: e.value)) := by
    have h := (e.name_unbroken.append hmark).append e.value_unbroken
    simpa using h
  have hlength : (e.name ++ [colonChar] ++ (space :: e.value)).length ≤ 1021 := by
    simp only [List.length_append, List.length_cons, List.length_nil]
    omega
  have hwhole : e.line ++ rest
      = e.name ++ colonChar :: (space :: e.value ++ (crlf ++ rest)) := by
    simp [line]
  rw [hwhole, readHeaderLine_append _ hname (by rw [List.nil_append]; omega) (.inr e.name_colon),
    List.nil_append, readHeaderLine, headerLineEnded_of_short (by omega), lineEnded_unbroken e.name_unbroken,
    if_neg Bool.false_ne_true, hcolon,
    readHeaderLine_append _ htail (by omega) (.inl hpos), readHeaderLine_crlf _ htail hlength]
  simp [line]

theorem trimEnd_crlf {value : StdString} (h : ∀ c ∈ value.getLast?, isspace c = false) :
    trimEnd (value ++ crlf) = value := by
  have hreverse : (value ++ crlf).reverse = lf :: cr :: value.reverse := by simp [crlf]
  have hlf : isspace lf = true := rfl
  have hcr : isspace cr = true := rfl
  have hvalue : value.reverse.dropWhile isspace = value.reverse := by
    cases hlast : value.reverse with
    | nil => rfl
    | cons c rest =>
        have hc : c ∈ value.getLast? := by
          rw [← List.head?_reverse, hlast]
          rfl
        rw [List.dropWhile_cons_of_neg (by rw [h c hc]; exact Bool.false_ne_true)]
  rw [trimEnd, hreverse, List.dropWhile_cons_of_pos hlf, List.dropWhile_cons_of_pos hcr, hvalue,
    List.reverse_reverse]

/-- **And split as it was written.** -/
theorem addEntry_line (e : Field) (headers : Headers) :
    addEntry e.line e.name.length headers = headers.insert e.name e.value := by
  have hpos : 0 < e.name.length := List.length_pos_iff.mpr e.name_ne
  have hzero : (0 : UInt8) ∉ e.line := by
    simp only [line, List.mem_append, not_or]
    exact ⟨⟨⟨e.name_zero, by decide⟩, e.value_zero⟩, by decide⟩
  have hstr : e.line.takeWhile (· ≠ 0) = e.line := by
    rw [List.takeWhile_eq_self_iff]
    intro c hc
    simp only [ne_eq, decide_not, Bool.not_eq_true', decide_eq_false_iff_not]
    rintro rfl
    exact hzero hc
  have hname : e.line.take e.name.length = e.name := by
    rw [line, List.append_assoc, List.append_assoc, List.take_left]
  have hrest : (e.line.drop (e.name.length + 1)).dropWhile (· == space) = e.value ++ crlf := by
    have hsplit : e.line = (e.name ++ [colonChar]) ++ (space :: (e.value ++ crlf)) := by
      simp [line]
    rw [hsplit, List.drop_left' (by simp), List.dropWhile_cons_of_pos (by rfl)]
    cases hvalue : e.value with
    | nil => rfl
    | cons c value =>
        have hc := e.value_start c (by rw [hvalue]; rfl)
        rw [List.cons_append, List.dropWhile_cons_of_neg (by simpa using hc)]
  rw [addEntry, if_pos hpos]
  simp only [hstr, hname, hrest, trimEnd_crlf e.value_end]

theorem headerLoop_lines (es : List Field) (rest : StdString) {n : Nat} (hn : es.length < n)
    (headers : Headers) :
    headerLoop n headers (es.flatMap line ++ (crlf ++ rest))
      = (true, es.foldl (fun headers e => headers.insert e.name e.value) headers, rest) := by
  induction es generalizing n headers with
  | nil =>
      cases n with
      | zero => omega
      | succ n =>
          have hblank : readHeaderLine [] 0 (crlf ++ rest) = some (crlf, 0, rest) :=
            readHeaderLine_crlf rest ⟨by simp, by simp⟩ (by simp)
          rw [List.flatMap_nil, List.nil_append, headerLoop, hblank]
          exact if_pos ⟨rfl, rfl⟩
  | cons e es ih =>
      cases n with
      | zero => omega
      | succ n =>
          have hfirst : ¬(e.line.getD 0 0 = cr ∧ e.line.getD 1 0 = lf) := by
            rintro ⟨hcr, -⟩
            have hpos : 0 < e.name.length := List.length_pos_iff.mpr e.name_ne
            rw [line, List.append_assoc, List.append_assoc, List.getD_append _ _ _ _ hpos] at hcr
            exact getD_ne e.name_unbroken.1 (by decide) 0 hcr
          rw [List.flatMap_cons, List.append_assoc, headerLoop, readHeaderLine_line]
          simp only [if_neg hfirst, addEntry_line, List.foldl_cons]
          exact ih (by simp only [List.length_cons] at hn; omega) _

/--
**Header fields that are written come back.**  Whatever fields a server writes that keep to the
format, in any number and order, `parseHttpHeaders` reads them all, a later field replacing an
earlier one of the same name in any case, and takes nothing off the socket behind the empty
line.
-/
theorem parseHttpHeaders_written (es : List Field) (rest : StdString) :
    parseHttpHeaders (es.flatMap line ++ (crlf ++ rest)) = (true, headers es, rest) := by
  have hlines : es.length ≤ (es.flatMap line).length := by
    induction es with
    | nil => rfl
    | cons e es ih =>
        have hline : 0 < e.line.length := by
          simp only [line, List.length_append]
          have hcrlf : crlf.length = 2 := rfl
          omega
        rw [List.flatMap_cons, List.length_append, List.length_cons]
        omega
  refine headerLoop_lines es rest ?_ []
  rw [List.length_append]
  omega

end Field

/-! ### What a value cannot hold -/

/-- A line that goes on does not end with a line feed. -/
theorem lf_not_mem_tail {line : StdString} (hline : lf ∉ line.tail.dropLast)
    (h : headerLineEnded line = false) : lf ∉ line.tail := by
  intro hmem
  have hne : line.tail ≠ [] := List.ne_nil_of_mem hmem
  have hlength : 2 ≤ line.length := by
    have hpos := List.length_pos_iff.mpr hne
    rw [List.length_tail] at hpos
    omega
  have hlast : line.getD (line.length - 1) 0 = line.tail.getLast hne := by
    rw [List.getD_eq_getElem _ _ (by omega), List.getLast_tail, List.getLast_eq_getElem]
  rw [← List.dropLast_append_getLast hne, List.mem_append, List.mem_singleton] at hmem
  rcases hmem with hmem | hmem
  · exact hline hmem
  · rw [← hlast] at hmem
    simp only [headerLineEnded, ← hmem] at h
    simp [show ¬line.length < 2 by omega] at h

/-- A line ends with its first line feed, but for one at the very beginning. -/
theorem lf_not_mem_readHeaderLine {line line' input rest : StdString} {colon colon' : Nat}
    (hline : lf ∉ line.tail.dropLast)
    (h : readHeaderLine line colon input = some (line', colon', rest)) :
    lf ∉ line'.tail.dropLast := by
  induction input generalizing line colon with
  | nil =>
      rw [readHeaderLine] at h
      split at h
      · cases h
        exact hline
      · cases h
  | cons c input ih =>
      rw [readHeaderLine] at h
      split at h
      · cases h
        exact hline
      · rename_i hended
        refine ih ?_ h
        have htail := lf_not_mem_tail hline (Bool.eq_false_iff.mpr hended)
        cases line with
        | nil => simp
        | cons d line => simpa using htail

/-- What is left of a text when its end is trimmed has no line feed, if only the last byte could
be one. -/
theorem lf_not_mem_trimEnd {value : StdString} (h : lf ∉ value.dropLast) : lf ∉ trimEnd value := by
  cases hreverse : value.reverse with
  | nil => simp [trimEnd, hreverse]
  | cons c rest =>
      have hvalue : value = rest.reverse ++ [c] := by
        rw [← List.reverse_reverse value, hreverse, List.reverse_cons]
      rw [hvalue, List.dropLast_concat, List.mem_reverse] at h
      rw [trimEnd, hreverse, List.mem_reverse]
      by_cases hc : isspace c = true
      · rw [List.dropWhile_cons_of_pos hc]
        exact fun hmem => h (List.dropWhile_subset _ hmem)
      · rw [List.dropWhile_cons_of_neg hc, List.mem_cons]
        rintro (rfl | hmem)
        · exact hc rfl
        · exact h hmem

/-- No value holds this byte. -/
def Headers.Without (c : UInt8) (headers : Headers) : Prop := ∀ entry ∈ headers, c ∉ entry.2

theorem Headers.Without.insert {c : UInt8} {headers : Headers} (h : headers.Without c)
    {name value : StdString} (hvalue : c ∉ value) : (headers.insert name value).Without c := by
  induction headers with
  | nil =>
      intro entry hentry
      rw [Headers.insert, List.mem_singleton] at hentry
      exact hentry ▸ hvalue
  | cons entry headers ih =>
      obtain ⟨key, old⟩ := entry
      have hold : c ∉ old := h (key, old) List.mem_cons_self
      have hrest := ih fun entry hentry => h entry (List.mem_cons_of_mem _ hentry)
      rw [Headers.insert]
      split
      · exact List.forall_mem_cons.mpr ⟨hvalue, h⟩
      · split
        · exact List.forall_mem_cons.mpr ⟨hold, hrest⟩
        · exact List.forall_mem_cons.mpr
            ⟨hvalue, fun entry hentry => h entry (List.mem_cons_of_mem _ hentry)⟩

theorem Headers.Without.of_find {c : UInt8} {headers : Headers} (h : headers.Without c)
    {name value : StdString} (hfind : headers.find name = some value) : c ∉ value := by
  induction headers with
  | nil => cases hfind
  | cons entry headers ih =>
      obtain ⟨key, old⟩ := entry
      rw [Headers.find] at hfind
      split at hfind
      · cases hfind
        exact h (key, value) List.mem_cons_self
      · exact ih (fun entry hentry => h entry (List.mem_cons_of_mem _ hentry)) hfind

theorem mem_dropLast_of_isInfix {s t : StdString} {c : UInt8} (h : s <:+: t) (hc : c ∈ s.dropLast) :
    c ∈ t.dropLast := by
  obtain ⟨before, after, rfl⟩ := h
  cases after with
  | nil =>
      have hne : s ≠ [] := by
        rintro rfl
        simp at hc
      rw [List.append_nil, List.dropLast_append_of_ne_nil hne]
      exact List.mem_append_right _ hc
  | cons d after =>
      rw [List.dropLast_append_of_ne_nil (List.cons_ne_nil d after)]
      exact List.mem_append_left _ (List.mem_append_right _ (List.dropLast_subset _ hc))

/-- What follows the first byte, of what stands before a zero, is part of what follows it. -/
theorem drop_takeWhile_infix_line (line : StdString) (colon : Nat) :
    (line.takeWhile (· ≠ 0)).drop (colon + 1) <:+: line.tail := by
  cases line with
  | nil => exact ⟨[], [], rfl⟩
  | cons c line =>
      by_cases hc : c = 0
      · rw [List.takeWhile_cons_of_neg (by simp [hc]), List.drop_nil]
        exact List.nil_infix
      · rw [List.takeWhile_cons_of_pos (by simp [hc]), List.drop_succ_cons, List.tail_cons]
        exact (List.drop_suffix _ _).isInfix.trans (List.takeWhile_prefix _).isInfix

theorem lf_not_mem_addEntry {line : StdString} (hline : lf ∉ line.tail.dropLast) (colon : Nat)
    {headers : Headers} (h : headers.Without lf) : (addEntry line colon headers).Without lf := by
  rw [addEntry]
  split
  · refine h.insert (lf_not_mem_trimEnd fun hlf => hline ?_)
    exact mem_dropLast_of_isInfix
      ((List.dropWhile_suffix _).isInfix.trans (drop_takeWhile_infix_line line colon)) hlf
  · exact h

/--
**No value holds a line feed.**  Whatever bytes a server sends, none of the values that are read
from it does.
-/
theorem lf_not_mem_value {input rest : StdString} {valid : Bool} {headers : Headers}
    (h : parseHttpHeaders input = (valid, headers, rest)) : headers.Without lf := by
  have hloop : ∀ n input (headers : Headers), headers.Without lf →
      (headerLoop n headers input).2.1.Without lf := by
    intro n
    induction n with
    | zero => exact fun _ _ h => h
    | succ n ih =>
        intro input headers h
        rw [headerLoop]
        split
        · exact h
        · rename_i line colon rest hread
          split
          · exact h
          · refine ih _ _ (lf_not_mem_addEntry ?_ colon h)
            exact lf_not_mem_readHeaderLine (by simp) hread
  have hstart := hloop (input.length + 1) input [] fun _ hentry => absurd hentry (by simp)
  rw [parseHttpHeaders] at h
  rw [h] at hstart
  exact hstart

end AisLive.WebSocket
