import ProxyInbound.Text.Numeral
import ProxyInbound.Vocabulary

/-!
# What happened during a conversion

A conversion never fails; where it could not take a value as it was, and what it left out, it says
in events. Only a value that was replaced is worth a warning.
-/

namespace ProxyInbound

/-- How much an event matters. -/
inductive Level where
  /-- Of interest to someone who looks for it. -/
  | debug
  /-- Something was not taken as it was given. -/
  | warn
  deriving DecidableEq, Repr

/-- The name of a level. -/
def Level.name : Level → String
  | debug => "DEBUG"
  | warn => "WARN"

/-- One thing that a conversion has to say. -/
inductive Event where
  /-- A field was absent and got the fallback. -/
  | missing (field fallback : String)
  /-- The text of a field named nothing and was replaced by the fallback. -/
  | replaced (error : UnknownName) (field fallback : String)
  /-- The stored clients are left out of the form. -/
  | clientsLeftOut (count : Nat)
  /-- An inbound was read into a form. -/
  | parsed (tag : String) (protocol : Protocol) (network : Network) (security : Security)
  /-- A form is being written as an inbound, with or without a stream layer. -/
  | serializing (tag : String) (protocol : Protocol) (stream : Bool)
  deriving DecidableEq, Repr

namespace Event

/-- How much the event matters. -/
def level : Event → Level
  | replaced .. => .warn
  | _ => .debug

/-- What the event says. -/
def message : Event → String
  | missing .. => "field missing, using default"
  | replaced .. => "unrecognized value replaced by default"
  | clientsLeftOut _ => "stored clients are not part of the form"
  | parsed .. => "parsed inbound"
  | serializing .. => "serializing inbound"

/-- The particulars of the event by name. -/
def particulars : Event → List (String × String)
  | missing field fallback => [("field", field), ("fallback", fallback)]
  | replaced error field fallback =>
    [("err", error.message), ("field", field), ("fallback", fallback)]
  | clientsLeftOut count => [("clients", Text.Numeral.decimalNat count)]
  | parsed tag protocol network security =>
    [ ("tag", tag), ("protocol", Named.name protocol), ("network", Named.name network),
      ("security", Named.name security) ]
  | serializing tag protocol stream =>
    [ ("tag", tag), ("protocol", Named.name protocol),
      ("stream", if stream then "true" else "false") ]

end Event

end ProxyInbound
