import ProxyInbound.Event
import ProxyInbound.Wire.Inbound

/-!
# Converting between stored inbounds and forms

Parsing turns any stored document into a form, starting from the defaults of its protocol and
filling in one section after the other. Serializing writes a form as an inbound. Neither fails: a
protocol, network or security that is missing or unknown is replaced by its fallback, and the
events say so. Normalizing is parsing and serializing.
-/

namespace ProxyInbound.Conversion

open Wire

/-- A named value taken from a document, with what there is to say about it. -/
structure Choice (α : Type) where
  /-- The value. -/
  value : α
  /-- Why it is the fallback, if it is for want of a better one. -/
  events : List Event

/-- The value that a member names, else the fallback. -/
def choose [Named α] (v : Json) (field : String) (fallback : α) : Choice α :=
  match v.textAt? field with
  | none => ⟨fallback, [.missing field (Named.name fallback)]⟩
  | some given =>
    match Named.read given with
    | .ok value => ⟨value, []⟩
    | .error error => ⟨fallback, [.replaced error field (Named.name fallback)]⟩

/-- The protocol of a stored inbound. -/
def protocolChoice (w : Json) : Choice Protocol :=
  choose w "protocol" Protocol.fallback

/-- The network of stored stream settings. -/
def networkChoice (stream : Json) : Choice Network :=
  choose stream "network" Network.fallback

/-- The security of stored stream settings. -/
def securityChoice (stream : Json) : Choice Security :=
  choose stream "security" Security.fallback

/-- The stream settings that a protocol reads; the plain proxies read none. -/
def streamOf? (protocol : Protocol) (w : Json) : Option Json :=
  if protocol.hasStream then w.objectAt? "streamSettings" else none

/-- The form with the name, address and port of a stored inbound. -/
def fillHead (w : Json) (form : Form) : Form :=
  { form with
    tag := (w.textAt? "tag").getD form.tag
    listen := (w.textAt? "listen").getD form.listen
    port := (w.textAt? "port").getD form.port }

/-- The form with the protocol settings of a stored inbound. -/
def fillSettings (protocol : Protocol) (w : Json) (form : Form) : Form :=
  (Settings.ofStored protocol (w.objectAt "settings")).fill form

/-- The form with the sniffing block of a stored inbound, if it has one. -/
def fillSniffing (w : Json) (form : Form) : Form :=
  match w.objectAt? "sniffing" with
  | some v => { form with sniffing := Sniffing.fillStored v form.sniffing }
  | none => form

/-- The form with the network of stored stream settings. -/
def fillTransport (stream : Json) (form : Form) : Form :=
  (Transport.ofStored (networkChoice stream).value stream).fill form

/-- The form with the security of stored stream settings. -/
def fillSecurity (stream : Json) (form : Form) : Form :=
  match SecuritySettings.ofStored? (securityChoice stream).value stream with
  | some s => s.fill form
  | none => { form with security := .none }

/-- The form with the socket options of stored stream settings, if they hold any. -/
def fillSockopt (stream : Json) (form : Form) : Form :=
  match stream.objectAt? "sockopt" with
  | some v => { form with sockopt := (Sockopt.ofStored v).fill form.sockopt }
  | none => form

/-- The form with a stream layer, if one is read. -/
def fillStream (stream : Option Json) (form : Form) : Form :=
  match stream with
  | some stream => fillSockopt stream (fillSecurity stream (fillTransport stream form))
  | none => form

/-- The form of a stored inbound, for any document at all. -/
def parse (w : Json) : Form :=
  let protocol := (protocolChoice w).value
  fillStream (streamOf? protocol w)
    (fillSniffing w (fillSettings protocol w (fillHead w (Form.defaults protocol))))

/-- What there is to say about stored clients: those of a protocol that lists them are left
out. -/
def clientEvents (protocol : Protocol) (w : Json) : List Event :=
  let count := ((w.objectAt "settings").itemsAt "clients").length
  if protocol.carriesClients ∧ 0 < count then [.clientsLeftOut count] else []

/-- What there is to say about the choices of a stream layer. -/
def streamEvents (stream : Option Json) : List Event :=
  match stream with
  | some stream => (networkChoice stream).events ++ (securityChoice stream).events
  | none => []

/-- What there is to say about parsing a document, in the order in which it happens. -/
def parseEvents (w : Json) : List Event :=
  let choice := protocolChoice w
  let form := parse w
  choice.events ++ clientEvents choice.value w ++ streamEvents (streamOf? choice.value w) ++
    [.parsed form.tag form.protocol form.network form.security]

/-- The stored inbound of a form. -/
def serialize (form : Form) : Json :=
  (Inbound.ofForm form).toJson

/-- What there is to say about serializing a form. -/
def serializeEvents (form : Form) : List Event :=
  [.serializing form.tag form.protocol form.protocol.hasStream]

/-- The stored inbound of the form of a stored inbound. -/
def normalize (w : Json) : Json :=
  serialize (parse w)

/-- What there is to say about normalizing a document. -/
def normalizeEvents (w : Json) : List Event :=
  parseEvents w ++ serializeEvents (parse w)

end ProxyInbound.Conversion
