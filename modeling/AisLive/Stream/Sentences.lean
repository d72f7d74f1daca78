/-
The sentences of an event as lines.

OpenCPN takes what it is given line by line, and `ProcessAisEvent` filters by element: it
looks at the first characters of a string and at its last two.  What it hands on is each
VDM sentence with one line end of its own, `sentenceOf_eq`, and the lines that come out are
the sentences that went in exactly when none of them holds a break of its own.
-/
import AisLive.Lib.Lines
import AisLive.Stream.Message

namespace AisLive

open Json

/-- The lines OpenCPN reads: ended by CR, by LF or by both. -/
def nmeaLines (text : WxString) : List WxString := Lines.lines '\r' '\n' text

/-- The text of an element that is a VDM sentence. -/
def vdmText : Value → Option WxString
  | .string s => if (wx "!AIVDM").isPrefixOf (fromUTF8 s) then some (fromUTF8 s) else none
  | _ => none

/-- The text before the CRLF it ends with, if it does. -/
def beforeCrlf (text : WxString) : WxString :=
  if (wx "\r\n").isSuffixOf text then text.take (text.length - 2) else text

/-- The text before the terminator it ends with, whichever that is. -/
def beforeEnd (text : WxString) : WxString :=
  if (wx "\r\n").isSuffixOf text then text.take (text.length - 2)
  else if text.getLast? = some '\r' ∨ text.getLast? = some '\n' then text.dropLast
  else text

/-- **Only VDM sentences, each as exactly one line.**  What the elements of an event were
turned into, and what comes of it line by line. -/
structure OneLineEach (elements : List Value) (sent : List WxString) : Prop where
  lines : nmeaLines sent.flatten = (elements.filterMap vdmText).map beforeEnd
  vdm : ∀ line ∈ nmeaLines sent.flatten, line ≠ [] ∧ (wx "!AIVDM").isPrefixOf line = true
  ended : ∀ sentence ∈ sent, ∃ line, '\r' ∉ line ∧ '\n' ∉ line ∧ sentence = line ++ wx "\r\n"
  /-- What is sent does not depend on which of them had been terminated. -/
  same : ∀ elements' : List Value,
    List.Forall₂ (fun v v' => (vdmText v).map beforeCrlf = (vdmText v').map beforeCrlf)
      elements elements' → elements'.filterMap sentenceOf = sent

/-! ### What is sent for an element -/

theorem isSuffixOf_crlf {text : WxString} (h : (wx "\r\n").isSuffixOf text = true) :
    text = beforeCrlf text ++ wx "\r\n" := by
  obtain ⟨before, rfl⟩ := List.isSuffixOf_iff_suffix.mp h
  rw [beforeCrlf, if_pos h, List.length_append, show (wx "\r\n").length = 2 from rfl,
    Nat.add_sub_cancel, List.take_left]

/-- **A VDM sentence is sent with a line end of its own**, once. -/
theorem sentenceOf_eq (v : Value) :
    sentenceOf v = ((vdmText v).map beforeCrlf).map (Lines.terminated '\r' '\n') := by
  cases v with
  | string s =>
      simp only [sentenceOf, vdmText]
      cases hvdm : (wx "!AIVDM").isPrefixOf (fromUTF8 s) with
      | false => simp
      | true =>
          simp only [Bool.not_true, Bool.false_eq_true, if_false, if_true, Option.map_some]
          cases hend : (wx "\r\n").isSuffixOf (fromUTF8 s) with
          | false =>
              rw [beforeCrlf, hend]
              rfl
          | true =>
              simp only [Bool.not_true, Bool.false_eq_true, if_false, Option.some.injEq]
              exact isSuffixOf_crlf hend
  | _ => rfl

theorem filterMap_sentenceOf (elements : List Value) :
    elements.filterMap sentenceOf
      = ((elements.filterMap vdmText).map beforeCrlf).map (Lines.terminated '\r' '\n') := by
  rw [List.map_filterMap, List.map_filterMap]
  exact List.filterMap_congr fun v _ => sentenceOf_eq v

/-- What is sent depends on the sentences before their CRLF alone. -/
theorem filterMap_sentenceOf_congr {elements elements' : List Value}
    (h : List.Forall₂ (fun v v' => (vdmText v).map beforeCrlf = (vdmText v').map beforeCrlf)
      elements elements') : elements'.filterMap sentenceOf = elements.filterMap sentenceOf := by
  induction h with
  | nil => rfl
  | cons hv _ ih => rw [List.filterMap_cons, List.filterMap_cons, ih, sentenceOf_eq, sentenceOf_eq, hv]

/-- A sentence without its CRLF is still one. -/
theorem isPrefixOf_beforeCrlf {text : WxString} (h : (wx "!AIVDM").isPrefixOf text = true) :
    (wx "!AIVDM").isPrefixOf (beforeCrlf text) = true := by
  by_cases hend : (wx "\r\n").isSuffixOf text = true
  · have hpre := List.isPrefixOf_iff_prefix.mp h
    rw [isSuffixOf_crlf hend, show wx "\r\n" = ['\r'] ++ ['\n'] from rfl, ← List.append_assoc,
      List.prefix_concat_iff] at hpre
    rcases hpre with hall | hpre
    · have hlast := congrArg List.getLast? hall
      rw [List.getLast?_concat] at hlast
      cases hlast
    · rcases List.prefix_concat_iff.mp hpre with hall | hpre
      · have hlast := congrArg List.getLast? hall
        rw [List.getLast?_concat] at hlast
        cases hlast
      · exact List.isPrefixOf_iff_prefix.mpr hpre
  · rwa [beforeCrlf, if_neg hend]

theorem isPrefixOf_of_mem_vdmText {elements : List Value} {text : WxString}
    (h : text ∈ elements.filterMap vdmText) : (wx "!AIVDM").isPrefixOf text = true := by
  obtain ⟨v, -, hv⟩ := List.mem_filterMap.mp h
  cases v with
  | string s =>
      simp only [vdmText] at hv
      split at hv <;> cases hv
      assumption
  | _ => cases hv

/-- Without breaks there is no other terminator. -/
theorem beforeEnd_eq {text : WxString} (hcr : '\r' ∉ beforeCrlf text)
    (hlf : '\n' ∉ beforeCrlf text) : beforeEnd text = beforeCrlf text := by
  unfold beforeEnd
  split
  · rw [beforeCrlf, if_pos (by assumption)]
  · rename_i hend
    rw [beforeCrlf, if_neg hend] at hcr hlf ⊢
    rw [if_neg]
    rintro (h | h)
    · exact hcr (List.mem_of_getLast? h)
    · exact hlf (List.mem_of_getLast? h)

/-! ### What comes out, line by line -/

/-- The sentence holds no break, the CRLF at its end apart. -/
def unbroken (text : WxString) : Prop := '\r' ∉ beforeCrlf text ∧ '\n' ∉ beforeCrlf text

instance (text : WxString) : Decidable (unbroken text) :=
  inferInstanceAs (Decidable ('\r' ∉ beforeCrlf text ∧ '\n' ∉ beforeCrlf text))

theorem oneLineEach_iff (elements : List Value) :
    OneLineEach elements (elements.filterMap sentenceOf) ↔
      ∀ text ∈ elements.filterMap vdmText, unbroken text := by
  have hne : ('\r' : Char) ≠ '\n' := by decide
  have hbodies : (∀ text ∈ elements.filterMap vdmText, unbroken text) ↔
      ∀ l ∈ (elements.filterMap vdmText).map beforeCrlf, '\r' ∉ l ∧ '\n' ∉ l := by
    rw [List.forall_mem_map]
    rfl
  constructor
  · intro h
    have hlen := congrArg List.length h.lines
    rw [List.length_map, filterMap_sentenceOf] at hlen
    rw [hbodies, ← Lines.length_lines_eq_iff hne, List.length_map]
    exact hlen
  · intro h
    have hlines : nmeaLines (elements.filterMap sentenceOf).flatten
        = (elements.filterMap vdmText).map beforeCrlf := by
      rw [filterMap_sentenceOf]
      exact Lines.lines_flatten hne (hbodies.mp h)
    refine ⟨?_, fun line hline => ?_, fun sentence hsentence => ?_,
      fun elements' hsame => filterMap_sentenceOf_congr hsame⟩
    · rw [hlines]
      exact List.map_congr_left fun text ht => (beforeEnd_eq (h text ht).1 (h text ht).2).symm
    · rw [hlines] at hline
      obtain ⟨text, ht, rfl⟩ := List.mem_map.mp hline
      have hvdm := isPrefixOf_beforeCrlf (isPrefixOf_of_mem_vdmText ht)
      refine ⟨fun hnil => ?_, hvdm⟩
      rw [hnil] at hvdm
      cases hvdm
    · rw [filterMap_sentenceOf] at hsentence
      obtain ⟨line, hline, rfl⟩ := List.mem_map.mp hsentence
      exact ⟨line, (hbodies.mp h line hline).1, (hbodies.mp h line hline).2, rfl⟩

/--
**When an event comes out as its VDM sentences, one line each.**  Whatever the elements of
`nmea` are, exactly when every string among them that begins with `!AIVDM` holds no CR and
no LF, one CRLF at its very end apart.
-/
theorem sentences_one_line_iff {members : List (StdString × Value)} {elements : List Value}
    (htype : Value.lookup members (ascii "type") = .string (ascii "event"))
    (hnmea : Value.lookup members (ascii "nmea") = .array elements) :
    ∃ sent, processAisEvent (.object members) = .ok sent ∧
      (OneLineEach elements sent ↔ ∀ text ∈ elements.filterMap vdmText, unbroken text) := by
  refine ⟨elements.filterMap sentenceOf, ?_, oneLineEach_iff elements⟩
  rw [processAisEvent_object (t := ascii "event") (by rw [htype]; rfl), if_pos rfl, nmeaSentences,
    hnmea]
  rfl

/-- An event with these elements. -/
def eventOf (elements : List Value) : List (StdString × Value) :=
  [(ascii "type", .string (ascii "event")), (ascii "nmea", .array elements)]

/-- A sentence that is terminated, one that is not, and a sentence of another kind. -/
def mixedElements : List Value :=
  [.string (ascii "!AIVDM,1\r\n"), .bool true, .string (ascii "!AIVDM,2"),
    .string (ascii "$GPGGA,3\n")]

theorem sentences_one_line_iff_mixed :
    ∃ sent, processAisEvent (.object (eventOf mixedElements)) = .ok sent ∧
      OneLineEach mixedElements sent := by
  have htype : Value.lookup (eventOf mixedElements) (ascii "type") = .string (ascii "event") := rfl
  obtain ⟨sent, hsent, hiff⟩ := sentences_one_line_iff htype rfl
  refine ⟨sent, hsent, hiff.mpr ?_⟩
  decide +kernel

/-- A sentence with another one behind its line end. -/
def hiddenElements : List Value := [.string (ascii "!AIVDM,1\r\n$GPGGA,2")]

/-- What stands behind the line end comes out as a line of its own. -/
theorem hidden_line_sent :
    ∃ sent, processAisEvent (.object (eventOf hiddenElements)) = .ok sent ∧
      ¬OneLineEach hiddenElements sent := by
  refine ⟨hiddenElements.filterMap sentenceOf, rfl, fun h => ?_⟩
  have hline : wx "$GPGGA,2" ∈ nmeaLines (hiddenElements.filterMap sentenceOf).flatten := by
    decide +kernel
  have hvdm := (h.vdm _ hline).2
  cases hvdm

end AisLive
