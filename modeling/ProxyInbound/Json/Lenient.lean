import ProxyInbound.Json
import ProxyInbound.Text.Basic

/-!
# Lenient access to stored documents

Stored inbounds are edited by hand and written by programs of several ages, so each accessor takes
what it can: a number or a truth value where text is expected, text where a number or a truth value
is. It gives nothing for any other value and for an absent member, and the caller keeps what it
had. A value that is no object has no members at all.
-/

namespace ProxyInbound

open Text.White Text.Parts Text.Numeral

/-- The unsigned word that an integer is. A double is none, whatever it holds. -/
def Number.toWord? : Number → Option UInt64
  | integer i => if 0 ≤ i then word? i.toNat else none
  | double _ => none

/-- The signed word that an integer is. A double is none, whatever it holds. -/
def Number.toSignedWord? : Number → Option Int64
  | integer i => signedWord? i
  | double _ => none

namespace Json

/-- The text of a truth value. -/
def boolText (b : Bool) : String :=
  if b then "true" else "false"

/-- The text of a value that is neither null nor a container. -/
def scalarText? : Json → Option String
  | string s => some s
  | number n => some n.text
  | bool b => some (boolText b)
  | _ => none

/-- The truth value that a value stands for. A number is true unless it is zero. -/
def toFlag? : Json → Option Bool
  | bool b => some b
  | number n => some (!n.isZero)
  | string s =>
    if trim s = "true" then some true
    else if trim s = "false" then some false
    else none
  | _ => none

/-- The unsigned word that an integer or a numeral holds. -/
def toWord? : Json → Option UInt64
  | number n => n.toWord?
  | string s => unsigned? s
  | _ => none

/-- The signed word that an integer or a numeral holds. -/
def toSignedWord? : Json → Option Int64
  | number n => n.toSignedWord?
  | string s => signed? s
  | _ => none

/-- The texts of a sequence, its null and container items skipped, or the values of one text. -/
def toTexts? : Json → Option (List String)
  | array items => some (items.filterMap scalarText?)
  | string s => some (values s)
  | _ => none

/-- The items of a sequence. -/
def toItems? : Json → Option (List Json)
  | array items => some items
  | _ => none

/-- The member if it is an object. -/
def objectAt? (v : Json) (key : String) : Option Json :=
  (v.get? key).filter isObject

/-- The member if it is an object, else null, on which every accessor gives nothing. -/
def objectAt (v : Json) (key : String) : Json :=
  (v.objectAt? key).getD null

/-- The text of a member. -/
def textAt? (v : Json) (key : String) : Option String :=
  (v.get? key).bind scalarText?

/-- The truth value of a member. -/
def flagAt? (v : Json) (key : String) : Option Bool :=
  (v.get? key).bind toFlag?

/-- The unsigned word of a member. -/
def wordAt? (v : Json) (key : String) : Option UInt64 :=
  (v.get? key).bind toWord?

/-- The signed word of a member. -/
def signedWordAt? (v : Json) (key : String) : Option Int64 :=
  (v.get? key).bind toSignedWord?

/-- The texts of a member. -/
def textsAt? (v : Json) (key : String) : Option (List String) :=
  (v.get? key).bind toTexts?

/-- The texts of a member, none where there is no list. -/
def textsAt (v : Json) (key : String) : List String :=
  (v.textsAt? key).getD []

/-- The items of a member. -/
def itemsAt? (v : Json) (key : String) : Option (List Json) :=
  (v.get? key).bind toItems?

/-- The items of a member, none where there is no sequence. -/
def itemsAt (v : Json) (key : String) : List Json :=
  (v.itemsAt? key).getD []

/-- The text of a range: a scalar stands for itself; the ends of an object are joined by a hyphen
unless there is but one. -/
def rangeText? (v : Json) : Option String :=
  match v.scalarText? with
  | some s => some s
  | none => do
    let low ← v.textAt? "from"
    match v.textAt? "to" with
    | some high => if high = low then some low else some (low ++ "-" ++ high)
    | none => some low

/-- The range of a member. -/
def rangeAt? (v : Json) (key : String) : Option String :=
  (v.get? key).bind rangeText?

/-- Null, a blank text and an empty sequence hold nothing. -/
def isVoid : Json → Bool
  | null => true
  | string s => blank s
  | array items => items.isEmpty
  | _ => false

/-- What an accessor finds is what the member holds. -/
theorem textAt?_of_get? {v m : Json} {key : String} (h : v.get? key = some m) :
    v.textAt? key = m.scalarText? := by
  rw [textAt?, h, Option.bind_some]

end Json

end ProxyInbound
