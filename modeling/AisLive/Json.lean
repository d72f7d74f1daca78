/-
JSON values as JsonCpp hands them out.

JsonCpp is not part of the repository, so what stands here is its documented
behaviour and nothing more: a value has one of a few kinds, `isMember` and
`operator[]` with a key raise on a value that is neither an object nor null,
`asString` raises on an array or an object, and the kind tests never raise.  An
error raised is a C++ exception, modelled by `Except`; nothing in the client
catches one.
-/
import AisLive.Text

namespace AisLive

namespace Json

/-- What JsonCpp throws when a value does not have the kind an access needs. -/
inductive LogicError
  | requiresObjectValue
  | notConvertibleToString
  deriving DecidableEq, Repr

/-- A byte a printed number can begin with. -/
def startsNumber (b : UInt8) : Bool := b == 45 || (48 ≤ b && b ≤ 57)

/-- The text JsonCpp prints for a number: it begins with a digit or a minus sign. -/
structure NumberText where
  text : StdString
  numeric : text.head?.any startsNumber = true

/-- `Json::Value`.  A number carries the text `asString` prints for it. -/
inductive Value
  | null
  | bool (b : Bool)
  | number (printed : NumberText)
  | string (s : StdString)
  | array (elements : List Value)
  | object (members : List (StdString × Value))

namespace Value

/-- The value stored under a key, null when there is none. -/
def lookup (members : List (StdString × Value)) (key : StdString) : Value :=
  match members with
  | [] => null
  | (k, v) :: rest => if k = key then v else lookup rest key

/-- `isMember(key)`. -/
def isMember (v : Value) (key : StdString) : Except LogicError Bool :=
  match v with
  | null => .ok false
  | object members => .ok (members.any fun m => m.1 = key)
  | _ => .error .requiresObjectValue

/-- `operator[](key)`. -/
def index (v : Value) (key : StdString) : Except LogicError Value :=
  match v with
  | null => .ok null
  | object members => .ok (lookup members key)
  | _ => .error .requiresObjectValue

def isArray : Value → Bool
  | array _ => true
  | _ => false

def isObject : Value → Bool
  | object _ => true
  | _ => false

def isString : Value → Bool
  | string _ => true
  | _ => false

/-- `asString()`. -/
def asString : Value → Except LogicError StdString
  | null => .ok []
  | bool true => .ok (ascii "true")
  | bool false => .ok (ascii "false")
  | number printed => .ok printed.text
  | string s => .ok s
  | array _ => .error .notConvertibleToString
  | object _ => .error .notConvertibleToString

/-- The elements a range-based `for` visits: those of an array, the member values of
an object, none otherwise. -/
def elements : Value → List Value
  | array elements => elements
  | object members => members.map Prod.snd
  | _ => []

@[simp] theorem isMember_null (key : StdString) : null.isMember key = .ok false := rfl

@[simp] theorem isMember_object (members : List (StdString × Value)) (key : StdString) :
    (object members).isMember key = .ok (members.any fun m => m.1 = key) := rfl

@[simp] theorem index_object (members : List (StdString × Value)) (key : StdString) :
    (object members).index key = .ok (lookup members key) := rfl

/-- A key that is not a member reads as null. -/
theorem lookup_of_not_member {members : List (StdString × Value)} {key : StdString}
    (h : (members.any fun m => m.1 = key) = false) : lookup members key = null := by
  induction members with
  | nil => rfl
  | cons m rest ih =>
      simp only [List.any_cons, Bool.or_eq_false_iff, decide_eq_false_iff_not] at h
      simp only [lookup, if_neg h.1]
      exact ih h.2

theorem asString_ok_iff (v : Value) :
    (∃ t, v.asString = .ok t) ↔ v.isArray = false ∧ v.isObject = false := by
  cases v with
  | bool b => cases b <;> simp [asString, isArray, isObject]
  | _ => simp [asString, isArray, isObject]

/-- What a value that is not a string prints as is never a word that begins with
neither a digit nor a minus sign, `true` and `false` apart. -/
theorem asString_ne_of_not_string {v : Value} {t word : StdString} (hv : v.isString = false)
    (ht : v.asString = .ok t) (hword : word.head?.any startsNumber = false) (hne : word ≠ [])
    (htrue : word ≠ ascii "true") (hfalse : word ≠ ascii "false") : t ≠ word := by
  rintro rfl
  cases v with
  | null => simp only [asString, Except.ok.injEq] at ht; exact hne ht.symm
  | bool b =>
      cases b with
      | true => simp only [asString, Except.ok.injEq] at ht; exact htrue ht.symm
      | false => simp only [asString, Except.ok.injEq] at ht; exact hfalse ht.symm
  | number printed =>
      simp only [asString, Except.ok.injEq] at ht
      have hnum := printed.numeric
      rw [ht, hword] at hnum
      exact Bool.noConfusion hnum
  | string s => simp [isString] at hv
  | array elements => simp [asString] at ht
  | object members => simp [asString] at ht

end Value

end Json

end AisLive
