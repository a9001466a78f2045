import ProxyInbound.Json.Strict

/-!
# Records as JSON objects

A record type is described by its slots, one a field: the field's name, the codec of its values,
and how the field is read from and put into a record. The same description reads an object, reads
a sequence that fills the fields in their order, and writes an object with every field.

Reading an object starts from a template and visits the members in key order, so that an absent
field keeps the template's value, a member with another key is passed over, and the first fault in
that order is the one reported.
-/

namespace ProxyInbound.Json

open Strict

/-- One field of a record type. -/
structure Slot (R : Type) where
  /-- The field's name in the object. -/
  name : String
  /-- The type of the field's values. -/
  Value : Type
  /-- How the field's values are read and written. -/
  codec : Codec Value
  /-- The field's value in a record. -/
  get : R → Value
  /-- The record with another value in the field. -/
  set : Value → R → R

namespace Slot

/-- A field with a text. -/
def text (name : String) (get : R → String) (set : String → R → R) : Slot R :=
  ⟨name, String, Strict.text, get, set⟩

/-- A field with a truth value. -/
def flag (name : String) (get : R → Bool) (set : Bool → R → R) : Slot R :=
  ⟨name, Bool, Strict.flag, get, set⟩

/-- A field with a sequence of texts. -/
def texts (name : String) (get : R → List String) (set : List String → R → R) : Slot R :=
  ⟨name, List String, Strict.listOf Strict.text, get, set⟩

/-- A field with one of several names. -/
def named [Named α] (name : String) (get : R → α) (set : α → R → R) : Slot R :=
  ⟨name, α, Strict.named α, get, set⟩

/-- The field of a part of a record as a field of the whole. -/
def within (part : R → S) (put : S → R → R) (slot : Slot S) : Slot R :=
  ⟨slot.name, slot.Value, slot.codec, fun r => slot.get (part r),
    fun v r => put (slot.set v (part r)) r⟩

/-- The record after reading a value into the field. -/
def store (slot : Slot R) (v : Json) (r : R) : Except Fault R :=
  match slot.codec.read v with
  | .ok a => .ok (slot.set a r)
  | .error e => .error e

/-- The field's value in a record, written. -/
def emit (slot : Slot R) (r : R) : Json :=
  slot.codec.write (slot.get r)

end Slot

/-- A record type with the description of its fields. -/
structure Record (R : Type) where
  /-- The title under which faults name the record. -/
  title : String
  /-- The fields in their order. -/
  slots : List (Slot R)
  /-- The record that holds the values of absent fields. -/
  template : R

namespace Record

variable {R : Type}

/-- The field of a name. -/
def slot? (shape : Record R) (name : String) : Option (Slot R) :=
  shape.slots.find? fun s => s.name == name

/-- Read one member into a record; a name that is no field's changes nothing. -/
def storeMember (shape : Record R) (r : R) (m : String × Json) : Except Fault R :=
  match shape.slot? m.1 with
  | none => .ok r
  | some slot => slot.store m.2 r

/-- Read the members of an object in turn. -/
def readMembers (shape : Record R) : R → List (String × Json) → Except Fault R
  | r, [] => .ok r
  | r, m :: ms =>
    match shape.storeMember r m with
    | .ok r => readMembers shape r ms
    | .error e => .error e

/-- Read items into fields, one each, until either runs out. -/
def fill : List (Slot R) → R → List Json → Except Fault R
  | slot :: slots, r, v :: vs =>
    match slot.store v r with
    | .ok r => fill slots r vs
    | .error e => .error e
  | _, r, _ => .ok r

/-- Read a sequence into the fields in their order. -/
def readItems (shape : Record R) (items : List Json) : Except Fault R :=
  match fill shape.slots shape.template items with
  | .error e => .error e
  | .ok r =>
    if shape.slots.length < items.length then .error (.surplusItems items.length) else .ok r

/-- Read a record from an object or a sequence. -/
def read (shape : Record R) : Json → Except Fault R
  | object members => shape.readMembers shape.template members
  | array items => shape.readItems items
  | v => .error (.wrongType v (.record shape.title))

/-- The fields of a record by name. -/
def fields (shape : Record R) (r : R) : List (String × Json) :=
  shape.slots.map fun slot => (slot.name, slot.emit r)

/-- Write a record as an object with every field. -/
def write (shape : Record R) (r : R) : Json :=
  ofMembers (shape.fields r)

/-- The fields in which a record differs from an earlier one, with their new values. -/
def changes (shape : Record R) (before after : R) : List (String × Json) :=
  (shape.slots.filter fun slot => slot.emit before ≠ slot.emit after).map fun slot =>
    (slot.name, slot.emit after)

/-- Records of a type are read and written by its description. -/
def codec (shape : Record R) : Codec R :=
  ⟨shape.read, shape.write⟩

end Record

/-- A field with a sequence of records. -/
def Slot.rows (shape : Record S) (name : String) (get : R → List S) (set : List S → R → R) :
    Slot R :=
  ⟨name, List S, Strict.listOf shape.codec, get, set⟩

end ProxyInbound.Json
