import ProxyInbound.Wire.Transport.Packet
import ProxyInbound.Wire.Transport.Http
import ProxyInbound.Wire.Transport.Tcp
import ProxyInbound.Wire.Transport.Upgrade

/-!
# Transport settings

The stream settings of an inbound hold one object, under a key that tells the network. Objects of
other networks are never read, and filling in the settings of one network leaves the fields of the
others alone.
-/

namespace ProxyInbound.Wire

/-- The stored settings of a network. -/
inductive Transport where
  /-- TCP. -/
  | tcp (settings : Tcp)
  /-- KCP. -/
  | kcp (settings : Kcp)
  /-- WebSocket. -/
  | ws (settings : Ws)
  /-- HTTP/2. -/
  | http (settings : Http)
  /-- QUIC. -/
  | quic (settings : Quic)
  /-- gRPC. -/
  | grpc (settings : Grpc)
  /-- HTTP upgrade. -/
  | httpUpgrade (settings : HttpUpgrade)
  /-- Split HTTP. -/
  | splitHttp (settings : SplitHttp)
  /-- A Unix domain socket. -/
  | domainSocket (settings : DomainSocket)
  deriving DecidableEq

namespace Transport

/-- The network whose settings these are. -/
def network : Transport → Network
  | tcp _ => .tcp
  | kcp _ => .kcp
  | ws _ => .ws
  | http _ => .http
  | quic _ => .quic
  | grpc _ => .grpc
  | httpUpgrade _ => .httpUpgrade
  | splitHttp _ => .splitHttp
  | domainSocket _ => .domainSocket

/-- The settings that a form describes for its network. -/
def ofForm (form : Form) : Transport :=
  match form.network with
  | .tcp => tcp (Tcp.ofForm form.tcp)
  | .kcp => kcp (Kcp.ofForm form.kcp)
  | .ws => ws (Ws.ofForm form.ws)
  | .http => http (Http.ofForm form.http)
  | .quic => quic (Quic.ofForm form.quic)
  | .grpc => grpc (Grpc.ofForm form.grpc)
  | .httpUpgrade => httpUpgrade (HttpUpgrade.ofForm form.httpUpgrade)
  | .splitHttp => splitHttp (SplitHttp.ofForm form.splitHttp)
  | .domainSocket => domainSocket (DomainSocket.ofForm form.domainSocket)

/-- The settings of a network that its own stored object holds. -/
def ofObject (network : Network) (v : Json) : Transport :=
  match network with
  | .tcp => tcp (Tcp.ofStored v)
  | .kcp => kcp (Kcp.ofStored v)
  | .ws => ws (Ws.ofStored v)
  | .http => http (Http.ofStored v)
  | .quic => quic (Quic.ofStored v)
  | .grpc => grpc (Grpc.ofStored v)
  | .httpUpgrade => httpUpgrade (HttpUpgrade.ofStored v)
  | .splitHttp => splitHttp (SplitHttp.ofStored v)
  | .domainSocket => domainSocket (DomainSocket.ofStored v)

/-- The settings of a network that stored stream settings hold. -/
def ofStored (network : Network) (stream : Json) : Transport :=
  ofObject network (stream.objectAt network.settingsKey)

/-- The settings as JSON. -/
def toJson : Transport → Json
  | tcp s => s.toJson
  | kcp s => s.toJson
  | ws s => s.toJson
  | http s => s.toJson
  | quic s => s.toJson
  | grpc s => s.toJson
  | httpUpgrade s => s.toJson
  | splitHttp s => s.toJson
  | domainSocket s => s.toJson

/-- The form with the network selected and its settings filled in. -/
def fill (t : Transport) (form : Form) : Form :=
  match t with
  | tcp s => { form with network := .tcp, tcp := s.fill form.tcp }
  | kcp s => { form with network := .kcp, kcp := s.fill form.kcp }
  | ws s => { form with network := .ws, ws := s.fill form.ws }
  | http s => { form with network := .http, http := s.fill form.http }
  | quic s => { form with network := .quic, quic := s.fill form.quic }
  | grpc s => { form with network := .grpc, grpc := s.fill form.grpc }
  | httpUpgrade s =>
    { form with network := .httpUpgrade, httpUpgrade := s.fill form.httpUpgrade }
  | splitHttp s => { form with network := .splitHttp, splitHttp := s.fill form.splitHttp }
  | domainSocket s =>
    { form with network := .domainSocket, domainSocket := s.fill form.domainSocket }

/-- A form's transport is that of its network. -/
theorem network_ofForm (form : Form) : (ofForm form).network = form.network := by
  unfold ofForm
  cases form.network <;> rfl

/-- The settings read for a network are its own. -/
theorem network_ofStored (n : Network) (stream : Json) : (ofStored n stream).network = n := by
  cases n <;> rfl

end Transport

end ProxyInbound.Wire
