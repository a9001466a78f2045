import ProxyInbound.Form.Security
import ProxyInbound.Form.Settings
import ProxyInbound.Form.Sockopt
import ProxyInbound.Form.Transport

/-!
# The editing form of an inbound

A form holds a concrete value in every field, whatever protocol, network and security are
selected; the fields of the others keep their values and mean nothing. The fields that belong
together form groups. As a JSON object a form is flat: the fields of all groups stand side by side
under names of their own, in the order listed here.
-/

namespace ProxyInbound

open Json

/-- The editable state of one inbound. -/
structure Form where
  /-- The name of the inbound. -/
  tag : String
  /-- The address that is listened on. -/
  listen : String
  /-- The port as typed. -/
  port : String
  /-- The selected protocol. -/
  protocol : Protocol
  /-- The decryption of a VLESS inbound. -/
  vlessDecryption : String
  /-- The fallbacks of a VLESS or Trojan inbound. -/
  fallbacks : List FallbackRow
  /-- The fields of a Shadowsocks inbound. -/
  shadowsocks : ShadowsocksForm
  /-- The accounts of an HTTP or SOCKS inbound. -/
  accounts : List AccountRow
  /-- Whether an HTTP inbound takes transparent requests. -/
  httpAllowTransparent : Bool
  /-- The fields of a SOCKS inbound. -/
  socks : SocksForm
  /-- How destinations are sniffed. -/
  sniffing : SniffingForm
  /-- The selected network. -/
  network : Network
  /-- The selected security. -/
  security : Security
  /-- The fields of the TCP network. -/
  tcp : TcpForm
  /-- The fields of the KCP network. -/
  kcp : KcpForm
  /-- The fields of the WebSocket network. -/
  ws : WsForm
  /-- The fields of the HTTP/2 network. -/
  http : HttpForm
  /-- The fields of the QUIC network. -/
  quic : QuicForm
  /-- The fields of the gRPC network. -/
  grpc : GrpcForm
  /-- The fields of the HTTP upgrade network. -/
  httpUpgrade : HttpUpgradeForm
  /-- The fields of the split HTTP network. -/
  splitHttp : SplitHttpForm
  /-- The fields of the domain socket network. -/
  domainSocket : DomainSocketForm
  /-- The fields of TLS. -/
  tls : TlsForm
  /-- The fields of REALITY. -/
  reality : RealityForm
  /-- The socket options. -/
  sockopt : SockoptForm
  deriving DecidableEq, Repr

namespace Form

/-- The fields that stand before those of the plain proxies. -/
def headSlots : List (Slot Form) :=
  [ .text "tag" (·.tag) (fun v f => { f with tag := v }),
    .text "listen" (·.listen) (fun v f => { f with listen := v }),
    .text "port" (·.port) (fun v f => { f with port := v }),
    .named "protocol" (·.protocol) (fun v f => { f with protocol := v }),
    .text "vlessDecryption" (·.vlessDecryption) (fun v f => { f with vlessDecryption := v }),
    .rows FallbackRow.shape "fallbacks" (·.fallbacks) (fun v f => { f with fallbacks := v }) ]

/-- The fields that HTTP and SOCKS inbounds share and that only HTTP inbounds use. -/
def proxySlots : List (Slot Form) :=
  [ .rows AccountRow.shape "accounts" (·.accounts) (fun v f => { f with accounts := v }),
    .flag "httpAllowTransparent" (·.httpAllowTransparent)
      (fun v f => { f with httpAllowTransparent := v }) ]

/-- The selections of the stream layer. -/
def streamSlots : List (Slot Form) :=
  [ .named "streamNetwork" (·.network) (fun v f => { f with network := v }),
    .named "streamSecurity" (·.security) (fun v f => { f with security := v }) ]

/-- Every field by name, in its order. -/
def slots : List (Slot Form) :=
  headSlots ++
  ShadowsocksForm.slots.map (Slot.within (·.shadowsocks) fun v f => { f with shadowsocks := v }) ++
  proxySlots ++
  SocksForm.slots.map (Slot.within (·.socks) fun v f => { f with socks := v }) ++
  SniffingForm.slots.map (Slot.within (·.sniffing) fun v f => { f with sniffing := v }) ++
  streamSlots ++
  TcpForm.slots.map (Slot.within (·.tcp) fun v f => { f with tcp := v }) ++
  KcpForm.slots.map (Slot.within (·.kcp) fun v f => { f with kcp := v }) ++
  WsForm.slots.map (Slot.within (·.ws) fun v f => { f with ws := v }) ++
  HttpForm.slots.map (Slot.within (·.http) fun v f => { f with http := v }) ++
  QuicForm.slots.map (Slot.within (·.quic) fun v f => { f with quic := v }) ++
  GrpcForm.slots.map (Slot.within (·.grpc) fun v f => { f with grpc := v }) ++
  HttpUpgradeForm.slots.map (Slot.within (·.httpUpgrade) fun v f => { f with httpUpgrade := v }) ++
  SplitHttpForm.slots.map (Slot.within (·.splitHttp) fun v f => { f with splitHttp := v }) ++
  DomainSocketForm.slots.map
    (Slot.within (·.domainSocket) fun v f => { f with domainSocket := v }) ++
  TlsForm.slots.map (Slot.within (·.tls) fun v f => { f with tls := v }) ++
  RealityForm.slots.map (Slot.within (·.reality) fun v f => { f with reality := v }) ++
  SockoptForm.slots.map (Slot.within (·.sockopt) fun v f => { f with sockopt := v })

/-- What a new form holds before a protocol is selected. -/
def template : Form where
  tag := ""
  listen := ""
  port := ""
  protocol := Protocol.fallback
  vlessDecryption := "none"
  fallbacks := []
  shadowsocks := ShadowsocksForm.template
  accounts := [AccountRow.blank]
  httpAllowTransparent := false
  socks := SocksForm.template
  sniffing := SniffingForm.template
  network := Network.fallback
  security := Security.fallback
  tcp := TcpForm.template
  kcp := KcpForm.template
  ws := WsForm.template
  http := HttpForm.template
  quic := QuicForm.template
  grpc := GrpcForm.template
  httpUpgrade := HttpUpgradeForm.template
  splitHttp := SplitHttpForm.template
  domainSocket := DomainSocketForm.template
  tls := TlsForm.template
  reality := RealityForm.template
  sockopt := SockoptForm.template

/-- The form of a new inbound of a protocol. -/
def defaults (protocol : Protocol) : Form :=
  { template with protocol }

/-- The description of the form as an object. -/
def shape : Record Form :=
  ⟨"InboundForm", slots, template⟩

/-- The form that a JSON value holds, absent fields as in the template. -/
def ofJson (v : Json) : Except Strict.Fault Form :=
  shape.read v

/-- The form as an object with every field. -/
def toJson (form : Form) : Json :=
  shape.write form

/-- The fields in which a form differs from an earlier one, with their new values. -/
def changes (before after : Form) : List (String × Json) :=
  shape.changes before after

end Form

end ProxyInbound
