import ProxyInbound.Form
import ProxyInbound.Proofs.Json.Fields
import ProxyInbound.Wire.Transport.Tcp

/-!
# Groups of fields

Each protocol, network and security has a group of fields of its own; fallbacks and accounts belong
to two protocols. Two forms agree on some of their fields exactly if they agree on these fields
group by group.
-/

namespace ProxyInbound

open Json

/-- The fields that a protocol uses. -/
def Protocol.fieldNames : Protocol → List String
  | vmess => []
  | vless => ["vlessDecryption", "fallbacks"]
  | trojan => ["fallbacks"]
  | shadowsocks => names ShadowsocksForm.slots
  | http => ["accounts", "httpAllowTransparent"]
  | socks => "accounts" :: names SocksForm.slots

/-- The fields that a network uses. -/
def Network.fieldNames : Network → List String
  | tcp => names TcpForm.slots
  | kcp => names KcpForm.slots
  | ws => names WsForm.slots
  | http => names HttpForm.slots
  | quic => names QuicForm.slots
  | grpc => names GrpcForm.slots
  | httpUpgrade => names HttpUpgradeForm.slots
  | splitHttp => names SplitHttpForm.slots
  | domainSocket => names DomainSocketForm.slots

/-- The fields that a security uses. -/
def Security.fieldNames : Security → List String
  | none => []
  | tls => names TlsForm.slots
  | reality => names RealityForm.slots

namespace Form

/-- Two forms hold the same in every field whose name counts, group by group. -/
@[mk_iff]
structure Same (counts : String → Prop) (f g : Form) : Prop where
  /-- The name. -/
  tag : counts "tag" → f.tag = g.tag
  /-- The address. -/
  listen : counts "listen" → f.listen = g.listen
  /-- The port. -/
  port : counts "port" → f.port = g.port
  /-- The selected protocol. -/
  protocol : counts "protocol" → f.protocol = g.protocol
  /-- The decryption. -/
  vlessDecryption : counts "vlessDecryption" → f.vlessDecryption = g.vlessDecryption
  /-- The fallbacks. -/
  fallbacks : counts "fallbacks" → f.fallbacks = g.fallbacks
  /-- The fields of Shadowsocks. -/
  shadowsocks : AgreeOn ShadowsocksForm.slots counts f.shadowsocks g.shadowsocks
  /-- The accounts. -/
  accounts : counts "accounts" → f.accounts = g.accounts
  /-- Whether transparent requests are taken. -/
  httpAllowTransparent :
    counts "httpAllowTransparent" → f.httpAllowTransparent = g.httpAllowTransparent
  /-- The fields of SOCKS. -/
  socks : AgreeOn SocksForm.slots counts f.socks g.socks
  /-- The fields of sniffing. -/
  sniffing : AgreeOn SniffingForm.slots counts f.sniffing g.sniffing
  /-- The selected network. -/
  network : counts "streamNetwork" → f.network = g.network
  /-- The selected security. -/
  security : counts "streamSecurity" → f.security = g.security
  /-- The fields of the TCP network. -/
  tcp : AgreeOn TcpForm.slots counts f.tcp g.tcp
  /-- The fields of the KCP network. -/
  kcp : AgreeOn KcpForm.slots counts f.kcp g.kcp
  /-- The fields of the WebSocket network. -/
  ws : AgreeOn WsForm.slots counts f.ws g.ws
  /-- The fields of the HTTP/2 network. -/
  http : AgreeOn HttpForm.slots counts f.http g.http
  /-- The fields of the QUIC network. -/
  quic : AgreeOn QuicForm.slots counts f.quic g.quic
  /-- The fields of the gRPC network. -/
  grpc : AgreeOn GrpcForm.slots counts f.grpc g.grpc
  /-- The fields of the HTTP upgrade network. -/
  httpUpgrade : AgreeOn HttpUpgradeForm.slots counts f.httpUpgrade g.httpUpgrade
  /-- The fields of the split HTTP network. -/
  splitHttp : AgreeOn SplitHttpForm.slots counts f.splitHttp g.splitHttp
  /-- The fields of the domain socket network. -/
  domainSocket : AgreeOn DomainSocketForm.slots counts f.domainSocket g.domainSocket
  /-- The fields of TLS. -/
  tls : AgreeOn TlsForm.slots counts f.tls g.tls
  /-- The fields of REALITY. -/
  reality : AgreeOn RealityForm.slots counts f.reality g.reality
  /-- The socket options. -/
  sockopt : AgreeOn SockoptForm.slots counts f.sockopt g.sockopt

variable {counts : String → Prop}

/-- Forms agree on the fields before those of the plain proxies if they hold the same in each. -/
theorem agreeOn_headSlots {f g : Form} :
    AgreeOn headSlots counts f g ↔
      (counts "tag" → f.tag = g.tag) ∧ (counts "listen" → f.listen = g.listen) ∧
      (counts "port" → f.port = g.port) ∧ (counts "protocol" → f.protocol = g.protocol) ∧
      (counts "vlessDecryption" → f.vlessDecryption = g.vlessDecryption) ∧
      (counts "fallbacks" → f.fallbacks = g.fallbacks) := by
  simp only [AgreeOn, headSlots, List.forall_mem_cons]
  simp [Slot.text, Slot.named, Slot.rows]

/-- Forms agree on the fields of the plain proxies if they hold the same in each. -/
theorem agreeOn_proxySlots {f g : Form} :
    AgreeOn proxySlots counts f g ↔
      (counts "accounts" → f.accounts = g.accounts) ∧
      (counts "httpAllowTransparent" → f.httpAllowTransparent = g.httpAllowTransparent) := by
  simp only [AgreeOn, proxySlots, List.forall_mem_cons]
  simp [Slot.flag, Slot.rows]

/-- Forms agree on the selections of the stream layer if they hold the same in each. -/
theorem agreeOn_streamSlots {f g : Form} :
    AgreeOn streamSlots counts f g ↔
      (counts "streamNetwork" → f.network = g.network) ∧
      (counts "streamSecurity" → f.security = g.security) := by
  simp only [AgreeOn, streamSlots, List.forall_mem_cons]
  simp [Slot.named]

/-- Forms agree on some fields exactly if they hold the same in these fields of every group. -/
theorem agreeOn_iff {f g : Form} : AgreeOn slots counts f g ↔ Same counts f g := by
  simp only [slots, agreeOn_append, agreeOn_within, agreeOn_headSlots, agreeOn_proxySlots,
    agreeOn_streamSlots, same_iff, and_assoc]

/-- A form holds the same as itself. -/
theorem Same.refl (counts : String → Prop) (f : Form) : Same counts f f :=
  agreeOn_iff.mp (AgreeOn.refl slots counts f)

end Form

end ProxyInbound
