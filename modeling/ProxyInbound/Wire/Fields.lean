import ProxyInbound.Header.Map

/-!
# Fields of stored sections

A stored section holds a field only if the field holds something: a blank text, an empty sequence
and an absent value are left out. What a form cannot say is absent on the way to storage, and what
is absent in storage leaves the form as it is.

A port is usually a number. Any other text, such as a range or a reference to the environment, is
taken as it is, trimmed.
-/

namespace ProxyInbound.Wire

open Text.White Text.Numeral

/-! ## Optional fields -/

/-- A text unless it is blank. -/
def textField (s : Option String) : Option Json :=
  (keepNonBlank s).map .string

/-- A sequence of texts unless it is empty. -/
def textsField (xs : List String) : Option Json :=
  if xs.isEmpty then none else some (Json.texts xs)

/-- A sequence of objects unless it is empty. -/
def objectsField (toJson : α → Json) (xs : List α) : Option Json :=
  if xs.isEmpty then none else some (.array (xs.map toJson))

/-- A truth value that is present. -/
def flagField (b : Option Bool) : Option Json :=
  b.map .bool

/-- An unsigned word that is present. -/
def wordField (w : Option UInt64) : Option Json :=
  w.map Json.word

/-- A signed word that is present. -/
def signedWordField (w : Option Int64) : Option Json :=
  w.map Json.signedWord

/-- A header map that is present. -/
def headersField (m : Option HeaderMap) : Option Json :=
  m.map HeaderMap.toJson

/-- The text of a word in the stead of what a form holds, if there is a word. -/
def wordText (w : Option UInt64) (held : String) : String :=
  (w.map unsignedText).getD held

/-- The text of a signed word in the stead of what a form holds, if there is a word. -/
def signedWordText (w : Option Int64) (held : String) : String :=
  (w.map signedText).getD held

/-- A sequence is left out exactly when it is empty. -/
theorem textsField_eq_none_iff (xs : List String) : textsField xs = none ↔ xs = [] := by
  cases xs <;> simp [textsField]

/-! ## Ports -/

/-- Where an inbound listens or a fallback leads. -/
inductive Port where
  /-- A number. -/
  | number (value : UInt64)
  /-- Any other text. -/
  | text (value : String)
  deriving DecidableEq, Repr

namespace Port

/-- The port that a text names; a blank text names none. -/
def ofText? (s : String) : Option Port :=
  if blank s then none
  else some (match unsigned? s with
    | some n => number n
    | none => text (trim s))

/-- The port that a text names, zero for a blank text. -/
def ofText (s : String) : Port :=
  (ofText? s).getD (number 0)

/-- The text of a port. -/
def toText : Port → String
  | number n => unsignedText n
  | text s => s

/-- The port as JSON: a number or a text. -/
def toJson : Port → Json
  | number n => Json.word n
  | text s => Json.string s

/-- A text names no port exactly when it is blank. -/
theorem ofText?_eq_none_iff (s : String) : ofText? s = none ↔ blank s = true := by
  unfold ofText?
  cases blank s <;> simp

end Port

end ProxyInbound.Wire
