import ProxyInbound.Form
import ProxyInbound.Json.Lenient
import ProxyInbound.Wire.Fields

/-!
# The KCP, QUIC and domain socket networks

None of these networks carries HTTP headers. KCP and QUIC run over packets and may disguise them
under a header that has nothing but a kind. A Unix domain socket has a path, which may be an
abstract name.
-/

namespace ProxyInbound.Wire

open Text.White Text.Numeral

/-- The packet header of a kind as JSON. -/
def packetHeaderField (kind : Option String) : Option Json :=
  kind.map fun k => Json.ofFields [("type", some (.string k))]

/-- The kind of the packet header that a stored value holds. -/
def storedPacketHeader? (v : Json) : Option String :=
  (v.objectAt? "header").bind fun h => h.textAt? "type"

/-- The stored settings of the KCP network. -/
structure Kcp where
  /-- The packet size. -/
  mtu : Option UInt64
  /-- The interval between transmissions. -/
  tti : Option UInt64
  /-- The capacity upward. -/
  uplinkCapacity : Option UInt64
  /-- The capacity downward. -/
  downlinkCapacity : Option UInt64
  /-- Whether congestion is controlled. -/
  congestion : Option Bool
  /-- The size of the read buffer. -/
  readBufferSize : Option UInt64
  /-- The size of the write buffer. -/
  writeBufferSize : Option UInt64
  /-- The kind of packet disguise. -/
  headerKind : Option String
  /-- The seed of the obfuscation. -/
  seed : Option String
  deriving DecidableEq, Repr

namespace Kcp

/-- The settings that a form describes. -/
def ofForm (f : KcpForm) : Kcp where
  mtu := unsigned? f.mtu
  tti := unsigned? f.tti
  uplinkCapacity := unsigned? f.uplinkCapacity
  downlinkCapacity := unsigned? f.downlinkCapacity
  congestion := some f.congestion
  readBufferSize := unsigned? f.readBufferSize
  writeBufferSize := unsigned? f.writeBufferSize
  headerKind := nonBlank? f.headerType
  seed := nonBlank? f.seed

/-- The settings that a stored value holds. -/
def ofStored (v : Json) : Kcp where
  mtu := v.wordAt? "mtu"
  tti := v.wordAt? "tti"
  uplinkCapacity := v.wordAt? "uplinkCapacity"
  downlinkCapacity := v.wordAt? "downlinkCapacity"
  congestion := v.flagAt? "congestion"
  readBufferSize := v.wordAt? "readBufferSize"
  writeBufferSize := v.wordAt? "writeBufferSize"
  headerKind := storedPacketHeader? v
  seed := v.textAt? "seed"

/-- The settings as JSON. -/
def toJson (s : Kcp) : Json :=
  Json.ofFields
    [ ("mtu", wordField s.mtu),
      ("tti", wordField s.tti),
      ("uplinkCapacity", wordField s.uplinkCapacity),
      ("downlinkCapacity", wordField s.downlinkCapacity),
      ("congestion", flagField s.congestion),
      ("readBufferSize", wordField s.readBufferSize),
      ("writeBufferSize", wordField s.writeBufferSize),
      ("header", packetHeaderField s.headerKind),
      ("seed", textField s.seed) ]

/-- The form with the settings filled in. -/
def fill (s : Kcp) (f : KcpForm) : KcpForm where
  mtu := wordText s.mtu f.mtu
  tti := wordText s.tti f.tti
  uplinkCapacity := wordText s.uplinkCapacity f.uplinkCapacity
  downlinkCapacity := wordText s.downlinkCapacity f.downlinkCapacity
  congestion := s.congestion.getD f.congestion
  readBufferSize := wordText s.readBufferSize f.readBufferSize
  writeBufferSize := wordText s.writeBufferSize f.writeBufferSize
  headerType := s.headerKind.getD f.headerType
  seed := s.seed.getD f.seed

end Kcp

/-- The stored settings of the QUIC network. -/
structure Quic where
  /-- The cipher of the packets. -/
  security : Option String
  /-- The key of the cipher. -/
  key : Option String
  /-- The kind of packet disguise. -/
  headerKind : Option String
  deriving DecidableEq, Repr

namespace Quic

/-- The settings that a form describes. -/
def ofForm (f : QuicForm) : Quic where
  security := nonBlank? f.security
  key := nonBlank? f.key
  headerKind := nonBlank? f.headerType

/-- The settings that a stored value holds. -/
def ofStored (v : Json) : Quic where
  security := v.textAt? "security"
  key := v.textAt? "key"
  headerKind := storedPacketHeader? v

/-- The settings as JSON. -/
def toJson (s : Quic) : Json :=
  Json.ofFields
    [ ("security", textField s.security),
      ("key", textField s.key),
      ("header", packetHeaderField s.headerKind) ]

/-- The form with the settings filled in. -/
def fill (s : Quic) (f : QuicForm) : QuicForm where
  security := s.security.getD f.security
  key := s.key.getD f.key
  headerType := s.headerKind.getD f.headerType

end Quic

/-- The stored settings of the domain socket network. -/
structure DomainSocket where
  /-- The path of the socket. -/
  path : Option String
  /-- Whether the socket has an abstract name. -/
  abstractName : Option Bool
  /-- Whether the abstract name is padded. -/
  padding : Option Bool
  deriving DecidableEq, Repr

namespace DomainSocket

/-- The settings that a form describes. -/
def ofForm (f : DomainSocketForm) : DomainSocket where
  path := nonBlank? f.path
  abstractName := some f.abstractName
  padding := some f.padding

/-- The settings that a stored value holds. -/
def ofStored (v : Json) : DomainSocket where
  path := v.textAt? "path"
  abstractName := v.flagAt? "abstract"
  padding := v.flagAt? "padding"

/-- The settings as JSON. -/
def toJson (s : DomainSocket) : Json :=
  Json.ofFields
    [ ("path", textField s.path),
      ("abstract", flagField s.abstractName),
      ("padding", flagField s.padding) ]

/-- The form with the settings filled in. -/
def fill (s : DomainSocket) (f : DomainSocketForm) : DomainSocketForm where
  path := s.path.getD f.path
  abstractName := s.abstractName.getD f.abstractName
  padding := s.padding.getD f.padding

end DomainSocket

end ProxyInbound.Wire
