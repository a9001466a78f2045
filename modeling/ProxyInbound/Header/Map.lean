import ProxyInbound.Entries
import ProxyInbound.Json.Lenient
import ProxyInbound.Json.Strict

/-!
# Header maps

A header map holds a value or several under each name, the names in ascending order. Stored maps
are read leniently: scalars become text, what holds nothing is dropped, and objects are skipped.
Names are told apart exactly, but a header is taken out under any ASCII case of its name.

Networks that speak HTTP name the host in a field of its own, in a `Host` header, or in both. Where
the field holds several values the header's values join them, each once. Where it holds one, an
absent field is filled from the first value of the header, and the others stay in the map.
-/

namespace ProxyInbound

open Json

/-- What a header map holds under a name. -/
inductive HeaderValue where
  /-- One value, written as a text. -/
  | single (value : String)
  /-- A list of values, written as a sequence. -/
  | multi (values : List String)
  deriving DecidableEq, Repr

namespace HeaderValue

/-- One value is written as a text, any other number of them as a sequence. -/
def ofValues : List String → HeaderValue
  | [v] => single v
  | vs => multi vs

/-- The values in their order. -/
def values : HeaderValue → List String
  | single v => [v]
  | multi vs => vs

/-- The value as JSON. -/
def toJson : HeaderValue → Json
  | single v => string v
  | multi vs => texts vs

/-- The value that a stored member holds, if it holds any. The items of a sequence stay a list
even if only one holds something. -/
def ofStored? : Json → Option HeaderValue
  | array items =>
    match (items.filter fun item => !item.isVoid).filterMap scalarText? with
    | [] => none
    | vs => some (multi vs)
  | v => if v.isVoid then none else v.scalarText?.map single

/-- Read a submitted header value. -/
def read : Json → Except Strict.Fault HeaderValue
  | string s => .ok (single s)
  | array items =>
    match Strict.readItems Strict.readText items with
    | .ok vs => .ok (multi vs)
    | .error _ => .error .noHeaderValue
  | _ => .error .noHeaderValue

/-- The values that a header value is made of are its values. -/
@[simp] theorem values_ofValues (vs : List String) : (ofValues vs).values = vs := by
  match vs with
  | [] => rfl
  | [_] => rfl
  | _ :: _ :: _ => rfl

end HeaderValue

/-- Header values under names in ascending order. -/
structure HeaderMap where
  /-- The names with their values. -/
  entries : List (String × HeaderValue)
  /-- No name occurs twice and the names are in order. -/
  ascending : Entries.Ascending entries
  deriving DecidableEq

namespace HeaderMap

/-- Two maps with the same entries are the same. -/
theorem ext {a b : HeaderMap} (h : a.entries = b.entries) : a = b := by
  cases a
  cases b
  cases h
  rfl

/-- The map without names. -/
def empty : HeaderMap := ⟨[], List.Pairwise.nil⟩

/-- Whether the map has no names. -/
def isEmpty (m : HeaderMap) : Bool :=
  m.entries.isEmpty

/-- The map unless it is empty. -/
def nonEmpty? (m : HeaderMap) : Option HeaderMap :=
  if m.isEmpty then none else some m

/-- The value under exactly this name. -/
def find? (m : HeaderMap) (name : String) : Option HeaderValue :=
  Entries.find? name m.entries

/-- Enter a value under a name, in the stead of the one that is there. -/
def insert (m : HeaderMap) (name : String) (value : HeaderValue) : HeaderMap :=
  ⟨Entries.insert name value m.entries, m.ascending.insert name value⟩

/-- The map without a name. -/
def remove (m : HeaderMap) (name : String) : HeaderMap :=
  ⟨Entries.remove name m.entries, m.ascending.filter _⟩

/-- The map of the given entries; of two with one name the later stays. -/
def ofEntries (entries : List (String × HeaderValue)) : HeaderMap :=
  ⟨Entries.ofList entries, Entries.ascending_ofList entries⟩

/-- The map as an object. -/
def toJson (m : HeaderMap) : Json :=
  ofMembers (m.entries.map fun e => (e.1, e.2.toJson))

/-- The map that a stored value holds, if it holds any header. -/
def ofStored? : Json → Option HeaderMap
  | object members =>
    (ofEntries (members.filterMap fun m =>
      (HeaderValue.ofStored? m.2).map fun v => (m.1, v))).nonEmpty?
  | _ => none

/-- The map that a member of a stored value holds. -/
def storedAt? (v : Json) (key : String) : Option HeaderMap :=
  (v.get? key).bind ofStored?

/-- Read the members of a submitted header map in turn. -/
def readMembers : HeaderMap → List (String × Json) → Except Strict.Fault HeaderMap
  | m, [] => .ok m
  | m, (name, v) :: r =>
    match HeaderValue.read v with
    | .ok value => readMembers (m.insert name value) r
    | .error e => .error e

/-- Read a submitted header map. -/
def read : Json → Except Strict.Fault HeaderMap
  | object members => readMembers empty members
  | v => .error (.wrongType v .map)

/-- The first name in the map that is the given one up to ASCII case. -/
def nameLike? (m : HeaderMap) (name : String) : Option String :=
  (m.entries.find? fun e => Text.Ascii.sameName e.1 name).map (·.1)

/-- Take out the first header of a name, whatever its ASCII case, and leave the others. -/
def take (m : HeaderMap) (name : String) : Option HeaderValue × HeaderMap :=
  match m.nameLike? name with
  | none => (none, m)
  | some key => (m.find? key, m.remove key)

/-! ## The host beside the other headers -/

/-- The spelling under which hosts are entered. -/
def hostName : String := "Host"

/-- Append those values that are not there yet. -/
def appendMissing (hosts : List String) (vs : List String) : List String :=
  vs.foldl (fun sofar v => if v ∈ sofar then sofar else sofar ++ [v]) hosts

/-- Take the host header out and join its values to the hosts. -/
def drainHost (m : HeaderMap) (hosts : List String) : List String × HeaderMap :=
  let (taken, rest) := m.take hostName
  (appendMissing hosts ((taken.map HeaderValue.values).getD []), rest)

/-- Put hosts into the map, nothing if there are none. -/
def putHosts (m : HeaderMap) (value : List String → HeaderValue) (hosts : List String) :
    HeaderMap :=
  if hosts.isEmpty then m else m.insert hostName (value hosts)

/-- Fill an absent host from the first value of the host header; further values stay in the map
under the usual spelling. -/
def liftHost (host : Option String) (headers : Option HeaderMap) :
    Option String × Option HeaderMap :=
  match host, headers with
  | some h, headers => (some h, headers)
  | none, none => (none, none)
  | none, some m =>
    let (taken, rest) := m.take hostName
    let vs := (taken.map HeaderValue.values).getD []
    (vs.head?, (rest.putHosts HeaderValue.ofValues vs.tail).nonEmpty?)

/-- A host that is given stays, and so do the headers. -/
theorem liftHost_some (h : String) (headers : Option HeaderMap) :
    liftHost (some h) headers = (some h, headers) := rfl

/-- No values append nothing. -/
theorem appendMissing_nil (hosts : List String) : appendMissing hosts [] = hosts := rfl

end HeaderMap

end ProxyInbound
