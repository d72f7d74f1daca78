/-
What the client does with one payload from the server.

`handleMessage` parses the payload and either surfaces a server error frame or
hands the sentences of an event to the sentence callback, by `processAisEvent`.
The parser is JsonCpp's and is a parameter, one that always returns: a payload it
cannot read is `none`.  (JsonCpp itself raises on a payload nested beyond its limit.)
Everything after the parse is the client's own code, each access to a value in the
order the source makes it, so an access the value does not support raises where the
source would raise.

Nothing around the call catches the error: the message callback runs on the
supervisor thread, and an exception that leaves a thread function ends the
process.  `handleMessage_safe_iff` says which payloads are safe.
-/
import AisLive.Json

namespace AisLive

open Json

/-- `AisStreamClient::State`. -/
inductive State
  | stopped
  | connecting
  | running
  | error
  deriving DecidableEq, Repr

/-- One call of `SetState`: the state and the detail shown with an error. -/
structure Report where
  state : State
  detail : WxString
  deriving DecidableEq, Repr

/-- The string `ProcessAisEvent` publishes for one element of `nmea`, if any. -/
def sentenceOf : Value → Option WxString
  | .string s =>
      let nmea := fromUTF8 s
      if !(wx "!AIVDM").isPrefixOf nmea then none
      else if !(wx "\r\n").isSuffixOf nmea then some (nmea ++ wx "\r\n")
      else some nmea
  | _ => none

/-- `ProcessAisEvent`: the strings sent to the callback, in order. -/
def processAisEvent (ev : Value) : Except LogicError (List WxString) := do
  if !(← ev.isMember (ascii "type")) then return []
  if (← (← ev.index (ascii "type")).asString) ≠ ascii "event" then return []
  if !(← ev.isMember (ascii "nmea")) then return []
  let nmea ← ev.index (ascii "nmea")
  if !nmea.isArray then return []
  return nmea.elements.filterMap sentenceOf

/-- What one call of `HandleMessage` did: its result, the states it reported and the
sentences it published. -/
structure Handled where
  rejected : Bool
  reports : List Report
  sentences : List WxString
  deriving DecidableEq, Repr

/-- A payload that had no effect. -/
def Handled.ignored : Handled := ⟨false, [], []⟩

/-- The reason shown for a server error frame. -/
def errorReason : Value → WxString
  | .string s => fromUTF8 s
  | _ => wx "server error"

/-! ### Processing an event -/

/-- The sentences an event carries, once its `type` has been read as `event`. -/
def nmeaSentences (members : List (StdString × Value)) : List WxString :=
  if (Value.lookup members (ascii "nmea")).isArray then
    (Value.lookup members (ascii "nmea")).elements.filterMap sentenceOf
  else []

theorem processAisEvent_null : processAisEvent .null = .ok [] := rfl

/-- Once the `type` of an object can be read, no access of `processAisEvent` raises:
every later one is guarded by a test of the kind it needs. -/
theorem processAisEvent_object {members : List (StdString × Value)} {t : StdString}
    (ht : (Value.lookup members (ascii "type")).asString = .ok t) :
    processAisEvent (.object members)
      = .ok (if t = ascii "event" then nmeaSentences members else []) := by
  unfold processAisEvent nmeaSentences
  simp only [Value.isMember_object, Value.index_object, bind, Except.bind, pure, Except.pure]
  cases hty : members.any fun m => decide (m.1 = ascii "type") with
  | false =>
      rw [Value.lookup_of_not_member hty] at ht
      simp only [Value.asString, Except.ok.injEq] at ht
      have hne : t ≠ ascii "event" := by rw [← ht]; decide
      simp [hne]
  | true =>
      simp only [Bool.not_true, Bool.false_eq_true, if_false, ht]
      by_cases hev : t = ascii "event"
      · simp only [hev, ne_eq, not_true_eq_false, if_false, if_true]
        cases hnm : members.any fun m => decide (m.1 = ascii "nmea") with
        | false =>
            rw [Value.lookup_of_not_member hnm]
            simp [Value.isArray]
        | true =>
            cases harr : (Value.lookup members (ascii "nmea")).isArray <;> simp
      · simp [hev]

section

variable (parse : StdString → Option Value)

/-- `AisStreamClient::HandleMessage`.  `onSentence` says whether a sentence callback
is set; `parse` is taken never to raise. -/
def handleMessage (onSentence : Bool) (payload : StdString) : Except LogicError Handled :=
  match parse payload with
  | none => .ok .ignored
  | some ev => do
      let isError ← do
        if !(← ev.isMember (ascii "type")) then pure false
        else pure ((← (← ev.index (ascii "type")).asString) == ascii "error")
      if isError then
        return ⟨true, [⟨.error, errorReason (← ev.index (ascii "error"))⟩], []⟩
      if onSentence then
        return ⟨false, [], ← processAisEvent ev⟩
      return .ignored

/-! ### What each kind of payload does -/

variable {parse} {payload : StdString} {onSentence : Bool}

theorem handleMessage_none (hp : parse payload = none) :
    handleMessage parse onSentence payload = .ok .ignored := by
  simp only [handleMessage, hp]

theorem handleMessage_null (hp : parse payload = some .null) :
    handleMessage parse onSentence payload = .ok .ignored := by
  simp only [handleMessage, hp, Value.isMember_null, processAisEvent_null]
  cases onSentence <;> rfl

/-- The effect of an object whose `type` reads as `t`. -/
def objectEffect (onSentence : Bool) (members : List (StdString × Value)) (t : StdString) :
    Handled :=
  if t = ascii "error" then
    ⟨true, [⟨.error, errorReason (Value.lookup members (ascii "error"))⟩], []⟩
  else if onSentence && t = ascii "event" then ⟨false, [], nmeaSentences members⟩
  else .ignored

theorem handleMessage_object {members : List (StdString × Value)} {t : StdString}
    (hp : parse payload = some (.object members))
    (ht : (Value.lookup members (ascii "type")).asString = .ok t) :
    handleMessage parse onSentence payload = .ok (objectEffect onSentence members t) := by
  unfold handleMessage objectEffect
  simp only [hp, Value.isMember_object, Value.index_object, processAisEvent_object ht, bind,
    Except.bind, pure, Except.pure]
  cases hty : members.any fun m => decide (m.1 = ascii "type") with
  | false =>
      rw [Value.lookup_of_not_member hty] at ht
      simp only [Value.asString, Except.ok.injEq] at ht
      have hne : t ≠ ascii "error" := by rw [← ht]; decide
      have hnv : t ≠ ascii "event" := by rw [← ht]; decide
      cases onSentence <;> simp [hne, hnv, Handled.ignored]
  | true =>
      simp only [Bool.not_true, Bool.false_eq_true, if_false, ht, beq_iff_eq]
      by_cases herr : t = ascii "error"
      · simp [herr]
      · by_cases hev : t = ascii "event"
        · have hne : ascii "event" ≠ ascii "error" := by decide
          cases onSentence <;> simp [hev, hne, Handled.ignored]
        · cases onSentence <;> simp [herr, hev, Handled.ignored]

/-- An object whose `type` is an array or an object: the conversion raises. -/
theorem handleMessage_object_error {members : List (StdString × Value)} {e : LogicError}
    (hp : parse payload = some (.object members))
    (ht : (Value.lookup members (ascii "type")).asString = .error e) :
    handleMessage parse onSentence payload = .error e := by
  have hmem : (members.any fun m => decide (m.1 = ascii "type")) = true := by
    by_contra hno
    rw [Value.lookup_of_not_member (Bool.not_eq_true _ ▸ hno)] at ht
    simp [Value.asString] at ht
  unfold handleMessage
  simp only [hp, Value.isMember_object, Value.index_object, hmem, ht, bind, Except.bind]
  rfl

/-- A root that is neither an object nor null: the first access raises. -/
theorem handleMessage_root_error {ev : Value} (hp : parse payload = some ev)
    (hm : ev.isMember (ascii "type") = .error .requiresObjectValue) :
    handleMessage parse onSentence payload = .error .requiresObjectValue := by
  unfold handleMessage
  simp only [hp, hm, bind, Except.bind]

/-- **What a handled payload can do.**  A rejection reports one error and publishes
nothing; anything else reports nothing. -/
theorem handleMessage_ok {out : Handled} (h : handleMessage parse onSentence payload = .ok out) :
    (out.rejected = true ∧ (∃ detail, out.reports = [⟨.error, detail⟩]) ∧ out.sentences = []) ∨
      (out.rejected = false ∧ out.reports = []) := by
  cases hp : parse payload with
  | none =>
      rw [handleMessage_none hp, Except.ok.injEq] at h
      exact Or.inr (h ▸ ⟨rfl, rfl⟩)
  | some ev =>
      cases ev with
      | null =>
          rw [handleMessage_null hp, Except.ok.injEq] at h
          exact Or.inr (h ▸ ⟨rfl, rfl⟩)
      | object members =>
          cases ht : (Value.lookup members (ascii "type")).asString with
          | error e => rw [handleMessage_object_error hp ht] at h; cases h
          | ok t =>
              rw [handleMessage_object hp ht, Except.ok.injEq] at h
              subst h
              unfold objectEffect
              split
              · exact Or.inl ⟨rfl, ⟨_, rfl⟩, rfl⟩
              · refine Or.inr ?_
                split <;> exact ⟨rfl, rfl⟩
      | _ => rw [handleMessage_root_error hp rfl] at h; cases h

/-! ### Which payloads are safe -/

/-- The `type` of a value can be asked for and converted to a string: the value is
null, or an object whose `type` is neither an array nor an object. -/
def typeReadable : Value → Bool
  | .null => true
  | .object members =>
      !(Value.lookup members (ascii "type")).isArray &&
        !(Value.lookup members (ascii "type")).isObject
  | _ => false

variable (parse) in
/-- The payload is an object with a string `type`. -/
def HasStringType (payload : StdString) : Prop :=
  ∃ members s, parse payload = some (.object members) ∧
    Value.lookup members (ascii "type") = .string s

/-- A payload that raises is one whose root's `type` cannot be read. -/
theorem handleMessage_returns_iff :
    (∃ out, handleMessage parse onSentence payload = .ok out) ↔
      ∀ ev, parse payload = some ev → typeReadable ev = true := by
  cases hp : parse payload with
  | none => simp [handleMessage_none hp]
  | some ev =>
      simp only [Option.some.injEq, forall_eq']
      cases ev with
      | null => simp [handleMessage_null hp, typeReadable]
      | object members =>
          have hiff := Value.asString_ok_iff (Value.lookup members (ascii "type"))
          cases ht : (Value.lookup members (ascii "type")).asString with
          | error e =>
              rw [ht] at hiff
              simpa [handleMessage_object_error hp ht, typeReadable] using hiff
          | ok t =>
              rw [ht] at hiff
              simpa [handleMessage_object hp ht, typeReadable] using hiff
      | _ => simp [handleMessage_root_error hp rfl, typeReadable]

/-- A payload that is handled and is not an object with a string `type` has no
effect: what any other value prints as is neither `error` nor `event`. -/
theorem handleMessage_ignored {out : Handled}
    (h : handleMessage parse onSentence payload = .ok out)
    (hty : ¬ HasStringType parse payload) : out = .ignored := by
  cases hp : parse payload with
  | none =>
      rw [handleMessage_none hp, Except.ok.injEq] at h
      exact h.symm
  | some ev =>
      cases ev with
      | null =>
          rw [handleMessage_null hp, Except.ok.injEq] at h
          exact h.symm
      | object members =>
          cases ht : (Value.lookup members (ascii "type")).asString with
          | error e => rw [handleMessage_object_error hp ht] at h; cases h
          | ok t =>
              rw [handleMessage_object hp ht, Except.ok.injEq] at h
              have hstr : (Value.lookup members (ascii "type")).isString = false := by
                cases hv : Value.lookup members (ascii "type") with
                | string s => exact absurd ⟨members, s, hp, hv⟩ hty
                | _ => rfl
              have herr : t ≠ ascii "error" :=
                Value.asString_ne_of_not_string hstr ht (by decide) (by decide) (by decide)
                  (by decide)
              have hev : t ≠ ascii "event" :=
                Value.asString_ne_of_not_string hstr ht (by decide) (by decide) (by decide)
                  (by decide)
              rw [← h]
              simp [objectEffect, herr, hev]
      | _ => rw [handleMessage_root_error hp rfl] at h; cases h

end

/--
**Which payloads the message handler survives.**  It returns, and ignores whatever
is not an object with a string `type`, exactly when the payload is not JSON, or its
root is null, or its root is an object whose `type` is neither an array nor an
object.  Every other root raises at the first `isMember`, and nothing catches it.
-/
theorem handleMessage_safe_iff (parse : StdString → Option Value) (onSentence : Bool)
    (payload : StdString) :
    ((∃ out, handleMessage parse onSentence payload = .ok out) ∧
        (¬ HasStringType parse payload →
          handleMessage parse onSentence payload = .ok .ignored)) ↔
      ∀ ev, parse payload = some ev → typeReadable ev = true := by
  constructor
  · rintro ⟨hret, -⟩
    exact handleMessage_returns_iff.mp hret
  · intro hsafe
    obtain ⟨out, hout⟩ := handleMessage_returns_iff.mpr hsafe
    refine ⟨⟨out, hout⟩, fun hty => ?_⟩
    rw [hout, handleMessage_ignored hout hty]

/-- The two-byte document `[]` raises. -/
theorem handleMessage_empty_array :
    ¬ ∃ out, handleMessage (fun p => if p = ascii "[]" then some (.array []) else none) true
      (ascii "[]") = .ok out := by
  rintro ⟨out, hout⟩
  cases (handleMessage_root_error rfl rfl).symm.trans hout

end AisLive
