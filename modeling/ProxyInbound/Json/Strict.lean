import ProxyInbound.Json
import ProxyInbound.Text.Quoted
import ProxyInbound.Vocabulary

/-!
# Strict reading of typed values

A submitted value must have the type its place asks for; nothing is converted and null is a fault
like any other. A fault names what was found and what was expected.
-/

namespace ProxyInbound.Json.Strict

open Text.Quoted Text.Numeral

/-- What a place asks for. -/
inductive Expected where
  /-- A text. -/
  | text
  /-- A truth value. -/
  | flag
  /-- A sequence. -/
  | sequence
  /-- An object with any keys. -/
  | map
  /-- An object, or a sequence, that fills a record of this title. -/
  | record (title : String)
  /-- One of several names. -/
  | name
  /-- Null beside a name. -/
  | nothing
  deriving DecidableEq, Repr

/-- The wording of what a place asks for. -/
def Expected.wording : Expected → String
  | text => "a string"
  | flag => "a boolean"
  | sequence => "a sequence"
  | map => "a map"
  | record title => "struct " ++ title
  | name => "string or map"
  | nothing => "unit"

/-- Why a value is refused. -/
inductive Fault where
  /-- The value is not of the expected type. -/
  | wrongType (found : Json) (expected : Expected)
  /-- The text is none of the names. -/
  | unknownName (given : String) (names : List String)
  /-- A name written as an object needs exactly one member. -/
  | notOneMember
  /-- A sequence has more items than the record has fields. -/
  | surplusItems (length : Nat)
  /-- A header value is neither a text nor a sequence of texts. -/
  | noHeaderValue
  deriving DecidableEq, Repr

/-- The wording of what was found. -/
def foundWording : Json → String
  | null => "null"
  | bool b => "boolean `" ++ (if b then "true" else "false") ++ "`"
  | number (.integer i) => "integer `" ++ decimalInt i ++ "`"
  | number (.double d) => "floating point `" ++ d.text ++ "`"
  | string s => "string " ++ quoted s
  | array _ => "sequence"
  | object _ => "map"

/-- A name between grave accents. -/
def accented (s : String) : String :=
  "`" ++ s ++ "`"

/-- The message of a fault. -/
def Fault.message : Fault → String
  | wrongType found expected =>
    "invalid type: " ++ foundWording found ++ ", expected " ++ expected.wording
  | unknownName given names =>
    "unknown variant " ++ accented given ++ ", expected one of " ++
      ", ".intercalate (names.map accented)
  | notOneMember => "invalid value: map, expected map with a single key"
  | surplusItems length =>
    "invalid length " ++ decimalNat length ++ ", expected fewer elements in array"
  | noHeaderValue => "data did not match any variant of untagged enum HeaderValue"

/-- How the values of a type are read and written. -/
structure Codec (α : Type) where
  /-- The value that a JSON value holds, or why there is none. -/
  read : Json → Except Fault α
  /-- The JSON value of a value. -/
  write : α → Json

/-- Whether every value is read back from what it is written as. -/
def Codec.Lawful (codec : Codec α) : Prop :=
  ∀ a, codec.read (codec.write a) = .ok a

/-- A text. -/
def readText : Json → Except Fault String
  | string s => .ok s
  | v => .error (.wrongType v .text)

/-- Texts are read and written as they are. -/
def text : Codec String := ⟨readText, string⟩

/-- A truth value. -/
def readFlag : Json → Except Fault Bool
  | bool b => .ok b
  | v => .error (.wrongType v .flag)

/-- Truth values are read and written as they are. -/
def flag : Codec Bool := ⟨readFlag, bool⟩

/-- The items of a sequence, the first fault among them reported. -/
def readItems (read : Json → Except Fault α) : List Json → Except Fault (List α)
  | [] => .ok []
  | v :: vs =>
    match read v with
    | .error e => .error e
    | .ok a =>
      match readItems read vs with
      | .error e => .error e
      | .ok as => .ok (a :: as)

/-- A sequence of values of one type. -/
def readList (read : Json → Except Fault α) : Json → Except Fault (List α)
  | array items => readItems read items
  | v => .error (.wrongType v .sequence)

/-- Sequences are read and written item by item. -/
def listOf (item : Codec α) : Codec (List α) :=
  ⟨readList item.read, fun as => array (as.map item.write)⟩

/-- Null or a value. -/
def readOptional (read : Json → Except Fault α) : Json → Except Fault (Option α)
  | null => .ok none
  | v => (read v).map some

/-- The value with exactly the given name. -/
def readExactName (α : Type) [Named α] (s : String) : Except Fault α :=
  match Named.ofName? s with
  | some a => .ok a
  | none => .error (.unknownName s ((Named.all (α := α)).map Named.name))

/-- A name is a text, or an object whose only key is the name and whose only value is null. -/
def readName (α : Type) [Named α] : Json → Except Fault α
  | string s => readExactName α s
  | object [(key, payload)] =>
    match readExactName α key, payload with
    | .error e, _ => .error e
    | .ok a, null => .ok a
    | .ok _, v => .error (.wrongType v .nothing)
  | object _ => .error .notOneMember
  | v => .error (.wrongType v .name)

/-- Named values are written as their names. -/
def named (α : Type) [Named α] : Codec α :=
  ⟨readName α, fun a => string (Named.name a)⟩

/-- Texts are read back. -/
theorem text_lawful : text.Lawful := fun _ => rfl

/-- Truth values are read back. -/
theorem flag_lawful : flag.Lawful := fun _ => rfl

/-- Sequences are read back if their items are. -/
theorem listOf_lawful {item : Codec α} (h : item.Lawful) : (listOf item).Lawful := by
  intro as
  change readItems item.read (as.map item.write) = .ok as
  induction as with
  | nil => rfl
  | cons a as ih => rw [List.map_cons, readItems, h a, ih]

/-- Named values are read back if each is found by its name. -/
theorem named_lawful [Named α] (h : ∀ a : α, Named.ofName? (Named.name a) = some a) :
    (named α).Lawful := by
  intro a
  change readExactName α (Named.name a) = .ok a
  rw [readExactName, h a]

end ProxyInbound.Json.Strict
