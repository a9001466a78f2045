import ProxyInbound.Wire.Security
import ProxyInbound.Wire.Settings
import ProxyInbound.Wire.Sockopt
import ProxyInbound.Wire.Transport

/-!
# Stored inbounds

An inbound that is written holds its name, address and port, the settings of its protocol, a stream
layer unless the protocol has none, and the sniffing block. The stream layer tells its network and
security and holds the settings of exactly these.
-/

namespace ProxyInbound.Wire

open Text.White

/-- The stream layer of an inbound. -/
structure Stream where
  /-- The settings of the network. -/
  transport : Transport
  /-- The settings of the security, if there is any. -/
  security : Option SecuritySettings
  /-- The socket options, if they are enabled. -/
  sockopt : Option Sockopt
  deriving DecidableEq

namespace Stream

/-- The security that the layer has. -/
def securityName (s : Stream) : Security :=
  (s.security.map SecuritySettings.security).getD .none

/-- The stream layer that a form describes. -/
def ofForm (form : Form) : Stream where
  transport := Transport.ofForm form
  security := SecuritySettings.ofForm? form
  sockopt := if form.sockopt.enabled then some (Sockopt.ofForm form.sockopt) else none

/-- The member that holds the settings of the security. -/
def securityFields (s : Option SecuritySettings) : List (String × Option Json) :=
  match s with
  | some s => [(s.key, some s.toJson)]
  | none => []

/-- The stream layer as JSON. -/
def toJson (s : Stream) : Json :=
  Json.ofFields
    ([ ("network", some (.string (Named.name s.transport.network))),
       ("security", some (.string (Named.name s.securityName))),
       (s.transport.network.settingsKey, some s.transport.toJson) ] ++
      securityFields s.security ++
      [("sockopt", s.sockopt.map Sockopt.toJson)])

/-- The layer of a form has the form's security. -/
theorem securityName_ofForm (form : Form) : (ofForm form).securityName = form.security := by
  unfold securityName ofForm SecuritySettings.ofForm?
  cases form.security <;> rfl

end Stream

/-- An inbound as it is stored. -/
structure Inbound where
  /-- The name. -/
  tag : String
  /-- The address that is listened on. -/
  listen : Option String
  /-- The port. -/
  port : Port
  /-- The settings of the protocol. -/
  settings : Settings
  /-- The stream layer. -/
  stream : Option Stream
  /-- The sniffing block. -/
  sniffing : Sniffing
  deriving DecidableEq

namespace Inbound

/-- The inbound that a form describes. Nothing is checked: an empty name stays empty and a blank
port becomes zero. -/
def ofForm (form : Form) : Inbound where
  tag := form.tag
  listen := nonBlank? form.listen
  port := Port.ofText form.port
  settings := Settings.ofForm form
  stream := if form.protocol.hasStream then some (Stream.ofForm form) else none
  sniffing := Sniffing.ofForm form.sniffing

/-- The inbound as JSON. -/
def toJson (i : Inbound) : Json :=
  Json.ofFields
    [ ("tag", some (.string i.tag)),
      ("listen", textField i.listen),
      ("port", some i.port.toJson),
      ("protocol", some (.string (Named.name i.settings.protocol))),
      ("settings", some i.settings.toJson),
      ("streamSettings", i.stream.map Stream.toJson),
      ("sniffing", some i.sniffing.toJson) ]

end Inbound

end ProxyInbound.Wire
