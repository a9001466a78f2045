import ProxyInbound.Double.Shortest
import ProxyInbound.Entries
import ProxyInbound.Text.Numeral

/-!
# JSON values

Stored inbounds and forms are JSON documents. A number is an integer of 64 bits, signed or
unsigned, or a double; the way it was written decides which. The members of an object stand in
ascending order of their keys, one member a key: every object that is read or built here is made
by `ofMembers`.
-/

namespace ProxyInbound

/-- A JSON number. -/
inductive Number where
  /-- An integer between `-2 ^ 63` and `2 ^ 64 - 1`. -/
  | integer (value : Int)
  /-- A double. -/
  | double (value : Double)
  deriving DecidableEq, Repr

/-- A JSON value. -/
inductive Json where
  /-- The null value. -/
  | null
  /-- A truth value. -/
  | bool (value : Bool)
  /-- A number. -/
  | number (value : Number)
  /-- A text. -/
  | string (value : String)
  /-- A sequence of values. -/
  | array (items : List Json)
  /-- Named values. -/
  | object (members : List (String × Json))
  deriving Repr, Inhabited

namespace Number

/-- The text of a number: integers in decimal, doubles by their shortest digits. -/
def text : Number → String
  | integer i => Text.Numeral.decimalInt i
  | double d => d.text

/-- Whether the number is zero. -/
def isZero : Number → Bool
  | integer i => i == 0
  | double d => d.isZero

end Number

namespace Json

mutual

/-- Equality of two values is decided member by member. -/
def decideEq : (a b : Json) → Decidable (a = b)
  | null, null => isTrue rfl
  | bool a, bool b =>
    if h : a = b then isTrue (by rw [h]) else isFalse (by intro e; cases e; exact h rfl)
  | number a, number b =>
    if h : a = b then isTrue (by rw [h]) else isFalse (by intro e; cases e; exact h rfl)
  | string a, string b =>
    if h : a = b then isTrue (by rw [h]) else isFalse (by intro e; cases e; exact h rfl)
  | array a, array b =>
    match decideEqItems a b with
    | isTrue h => isTrue (by rw [h])
    | isFalse h => isFalse (by intro e; cases e; exact h rfl)
  | object a, object b =>
    match decideEqMembers a b with
    | isTrue h => isTrue (by rw [h])
    | isFalse h => isFalse (by intro e; cases e; exact h rfl)
  | null, bool _ | null, number _ | null, string _ | null, array _ | null, object _ =>
    isFalse nofun
  | bool _, null | bool _, number _ | bool _, string _ | bool _, array _ | bool _, object _ =>
    isFalse nofun
  | number _, null | number _, bool _ | number _, string _ | number _, array _
  | number _, object _ => isFalse nofun
  | string _, null | string _, bool _ | string _, number _ | string _, array _
  | string _, object _ => isFalse nofun
  | array _, null | array _, bool _ | array _, number _ | array _, string _
  | array _, object _ => isFalse nofun
  | object _, null | object _, bool _ | object _, number _ | object _, string _
  | object _, array _ => isFalse nofun

/-- Equality of two sequences of values. -/
def decideEqItems : (a b : List Json) → Decidable (a = b)
  | [], [] => isTrue rfl
  | [], _ :: _ => isFalse nofun
  | _ :: _, [] => isFalse nofun
  | a :: as, b :: bs =>
    match decideEq a b, decideEqItems as bs with
    | isTrue h, isTrue hs => isTrue (by rw [h, hs])
    | isFalse h, _ => isFalse (by intro e; cases e; exact h rfl)
    | _, isFalse hs => isFalse (by intro e; cases e; exact hs rfl)

/-- Equality of two sequences of members. -/
def decideEqMembers : (a b : List (String × Json)) → Decidable (a = b)
  | [], [] => isTrue rfl
  | [], _ :: _ => isFalse nofun
  | _ :: _, [] => isFalse nofun
  | (k, a) :: as, (l, b) :: bs =>
    match decEq k l, decideEq a b, decideEqMembers as bs with
    | isTrue hk, isTrue h, isTrue hs => isTrue (by rw [hk, h, hs])
    | isFalse hk, _, _ => isFalse (by intro e; cases e; exact hk rfl)
    | _, isFalse h, _ => isFalse (by intro e; cases e; exact h rfl)
    | _, _, isFalse hs => isFalse (by intro e; cases e; exact hs rfl)

end

instance : DecidableEq Json := decideEq

/-- The value of a member. Only objects have members. -/
def get? : Json → String → Option Json
  | object members, key => Entries.find? key members
  | _, _ => none

/-- Whether the value is an object. -/
def isObject : Json → Bool
  | object _ => true
  | _ => false

/-- A value that is no object has no members. -/
theorem get?_of_not_isObject {v : Json} (h : v.isObject = false) (key : String) :
    v.get? key = none := by
  cases v with
  | object members => cases h
  | _ => rfl

/-- The object with the given members in key order; of two with one key the later stays. -/
def ofMembers (members : List (String × Json)) : Json :=
  object (Entries.ofList members)

/-- The object with those of the given fields that have a value. -/
def ofFields (fields : List (String × Option Json)) : Json :=
  ofMembers (fields.filterMap fun f => f.2.map fun v => (f.1, v))

/-- An integer as a value. -/
def integer (i : Int) : Json :=
  number (.integer i)

/-- An unsigned word as a value. -/
def word (w : UInt64) : Json :=
  integer w.toNat

/-- A signed word as a value. -/
def signedWord (w : Int64) : Json :=
  integer w.toInt

/-- A sequence of texts as a value. -/
def texts (xs : List String) : Json :=
  array (xs.map string)

/-- A value or null. -/
def orNull (v : Option Json) : Json :=
  v.getD null

/-- An object has the member that its entries find. -/
@[simp] theorem get?_object (members : List (String × Json)) (key : String) :
    (object members).get? key = Entries.find? key members := rfl

/-- Of the members a built object was given for a key it has the last. -/
theorem get?_ofMembers (members : List (String × Json)) (key : String) :
    (ofMembers members).get? key = Entries.find? key members.reverse :=
  Entries.find?_ofList key members

/-- A built object has under each key the value of its field, if no two fields share a key. -/
theorem get?_ofFields {fields : List (String × Option Json)} (h : (fields.map (·.1)).Nodup)
    (key : String) : (ofFields fields).get? key = (Entries.find? key fields).join := by
  have hkeys := h.sublist (Entries.keys_filterMap_sublist id fields)
  rw [ofFields, get?_ofMembers]
  exact (Entries.find?_reverse hkeys key).trans (Entries.find?_filterMap h id key)

/-- Null has no members. -/
@[simp] theorem get?_null (key : String) : null.get? key = none := rfl

end Json

end ProxyInbound
