import ProxyInbound.Text.Quoted
import ProxyInbound.Text.Basic

/-!
# The names an inbound is described by

A protocol, a transport network and a transport security are each one of a few names. A name is
read from text after trimming and with its case; any other text is an unknown name, reported with
the text as it was given.
-/

namespace ProxyInbound

/-- A text that names nothing of its kind. -/
structure UnknownName where
  /-- What the text was to name. -/
  kind : String
  /-- The text as it was given. -/
  value : String
  deriving DecidableEq, Repr

/-- The message shows the text quoted. -/
def UnknownName.message (e : UnknownName) : String :=
  "unknown " ++ e.kind ++ ": " ++ Text.Quoted.quoted e.value

/-- A type with finitely many values, each with a name of its own. -/
class Named (α : Type) where
  /-- What the names name, for messages. -/
  kind : String
  /-- Every value, in the order in which they are listed. -/
  all : List α
  /-- The name of a value. -/
  name : α → String

namespace Named

variable {α : Type} [Named α]

/-- The value with exactly this name. -/
def ofName? (s : String) : Option α :=
  (all (α := α)).find? fun a => name a == s

/-- The value that a text names, white space around the name ignored. -/
def read (s : String) : Except UnknownName α :=
  match ofName? (Text.White.trim s) with
  | some a => .ok a
  | none => .error ⟨kind α, s⟩

end Named

/-- What an inbound speaks to its clients. -/
inductive Protocol where
  /-- VMess. -/
  | vmess
  /-- VLESS, taken where no protocol is known. -/
  | vless
  /-- Trojan. -/
  | trojan
  /-- Shadowsocks. -/
  | shadowsocks
  /-- An HTTP proxy. -/
  | http
  /-- A SOCKS proxy. -/
  | socks
  deriving DecidableEq, Repr

namespace Protocol

instance : Named Protocol where
  kind := "protocol"
  all := [vmess, vless, trojan, shadowsocks, http, socks]
  name
    | vmess => "vmess"
    | vless => "vless"
    | trojan => "trojan"
    | shadowsocks => "shadowsocks"
    | http => "http"
    | socks => "socks"

/-- The protocol taken where none is given. -/
def fallback : Protocol := vless

/-- Whether users are listed as clients in the protocol's settings. -/
def carriesClients : Protocol → Bool
  | vmess | vless | trojan | shadowsocks => true
  | http | socks => false

/-- Whether the inbound has a stream layer. The two plain proxies listen without one. -/
def hasStream : Protocol → Bool
  | http | socks => false
  | _ => true

end Protocol

/-- How a stream is carried. -/
inductive Network where
  /-- Plain TCP, taken where no network is known. -/
  | tcp
  /-- Reliable UDP. -/
  | kcp
  /-- WebSocket. -/
  | ws
  /-- HTTP/2. -/
  | http
  /-- QUIC. -/
  | quic
  /-- gRPC. -/
  | grpc
  /-- HTTP upgrade. -/
  | httpUpgrade
  /-- Split HTTP. -/
  | splitHttp
  /-- A Unix domain socket. -/
  | domainSocket
  deriving DecidableEq, Repr

namespace Network

instance : Named Network where
  kind := "network"
  all := [tcp, kcp, ws, http, quic, grpc, httpUpgrade, splitHttp, domainSocket]
  name
    | tcp => "tcp"
    | kcp => "kcp"
    | ws => "ws"
    | http => "http"
    | quic => "quic"
    | grpc => "grpc"
    | httpUpgrade => "httpupgrade"
    | splitHttp => "splithttp"
    | domainSocket => "domainsocket"

/-- The network taken where none is given. -/
def fallback : Network := tcp

/-- The member of the stream settings that holds the settings of the network. -/
def settingsKey : Network → String
  | tcp => "tcpSettings"
  | kcp => "kcpSettings"
  | ws => "wsSettings"
  | http => "httpSettings"
  | quic => "quicSettings"
  | grpc => "grpcSettings"
  | httpUpgrade => "httpupgradeSettings"
  | splitHttp => "splithttpSettings"
  | domainSocket => "dsSettings"

end Network

/-- How a stream is secured. -/
inductive Security where
  /-- Not at all, taken where no security is known. -/
  | none
  /-- TLS. -/
  | tls
  /-- REALITY. -/
  | reality
  deriving DecidableEq, Repr

namespace Security

instance : Named Security where
  kind := "security"
  all := [none, tls, reality]
  name
    | none => "none"
    | tls => "tls"
    | reality => "reality"

/-- The security taken where none is given. -/
def fallback : Security := none

/-- The member of the stream settings that holds the settings of the security, if it has any. -/
def settingsKey? : Security → Option String
  | none => .none
  | tls => some "tlsSettings"
  | reality => some "realitySettings"

end Security

/-- Every protocol is found by its name. -/
theorem Protocol.ofName?_name (p : Protocol) : Named.ofName? (Named.name p) = some p := by
  cases p <;> decide

/-- Every network is found by its name. -/
theorem Network.ofName?_name (n : Network) : Named.ofName? (Named.name n) = some n := by
  cases n <;> decide

/-- Every security is found by its name. -/
theorem Security.ofName?_name (s : Security) : Named.ofName? (Named.name s) = some s := by
  cases s <;> decide

/-- Every protocol is listed. -/
theorem Protocol.mem_all (p : Protocol) : p ∈ (Named.all : List Protocol) :=
  List.mem_of_find?_eq_some p.ofName?_name

/-- Every network is listed. -/
theorem Network.mem_all (n : Network) : n ∈ (Named.all : List Network) :=
  List.mem_of_find?_eq_some n.ofName?_name

/-- Every security is listed. -/
theorem Security.mem_all (s : Security) : s ∈ (Named.all : List Security) :=
  List.mem_of_find?_eq_some s.ofName?_name

end ProxyInbound
