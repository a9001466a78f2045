import ProxyInbound.Form
import ProxyInbound.Json.Lenient
import ProxyInbound.Wire.Fields

/-!
# Socket options

The options are stored as one object, present only while they are enabled. Marks are unsigned
numbers; the times are signed ones, since negative times have a meaning to the system.
-/

namespace ProxyInbound.Wire

open Text.White Text.Numeral

/-- The stored socket options. -/
structure Sockopt where
  /-- Whether the proxy protocol is accepted. -/
  acceptProxyProtocol : Option Bool
  /-- Whether TCP fast open is used. -/
  tcpFastOpen : Option Bool
  /-- The mark of the packets. -/
  mark : Option UInt64
  /-- The mode of transparent proxying. -/
  tproxy : Option String
  /-- Whether multipath TCP is used. -/
  tcpMptcp : Option Bool
  /-- How domain names are resolved. -/
  domainStrategy : Option String
  /-- The time between keep-alive probes. -/
  keepAliveInterval : Option Int64
  /-- The idle time before keep-alive probes. -/
  keepAliveIdle : Option Int64
  /-- The time for unacknowledged data. -/
  userTimeout : Option Int64
  /-- The congestion control algorithm. -/
  congestion : Option String
  /-- The network interface. -/
  interface : Option String
  deriving DecidableEq

namespace Sockopt

/-- The options that a form describes. -/
def ofForm (f : SockoptForm) : Sockopt where
  acceptProxyProtocol := some f.acceptProxyProtocol
  tcpFastOpen := some f.tcpFastOpen
  mark := unsigned? f.mark
  tproxy := nonBlank? f.tproxy
  tcpMptcp := some f.tcpMptcp
  domainStrategy := nonBlank? f.domainStrategy
  keepAliveInterval := signed? f.keepAliveInterval
  keepAliveIdle := signed? f.keepAliveIdle
  userTimeout := signed? f.userTimeout
  congestion := nonBlank? f.congestion
  interface := nonBlank? f.interface

/-- The options that a stored value holds. -/
def ofStored (v : Json) : Sockopt where
  acceptProxyProtocol := v.flagAt? "acceptProxyProtocol"
  tcpFastOpen := v.flagAt? "tcpFastOpen"
  mark := v.wordAt? "mark"
  tproxy := v.textAt? "tproxy"
  tcpMptcp := v.flagAt? "tcpMptcp"
  domainStrategy := v.textAt? "domainStrategy"
  keepAliveInterval := v.signedWordAt? "tcpKeepAliveInterval"
  keepAliveIdle := v.signedWordAt? "tcpKeepAliveIdle"
  userTimeout := v.signedWordAt? "tcpUserTimeout"
  congestion := v.textAt? "tcpcongestion"
  interface := v.textAt? "interface"

/-- The options as JSON. -/
def toJson (s : Sockopt) : Json :=
  Json.ofFields
    [ ("acceptProxyProtocol", flagField s.acceptProxyProtocol),
      ("tcpFastOpen", flagField s.tcpFastOpen),
      ("mark", wordField s.mark),
      ("tproxy", textField s.tproxy),
      ("tcpMptcp", flagField s.tcpMptcp),
      ("domainStrategy", textField s.domainStrategy),
      ("tcpKeepAliveInterval", signedWordField s.keepAliveInterval),
      ("tcpKeepAliveIdle", signedWordField s.keepAliveIdle),
      ("tcpUserTimeout", signedWordField s.userTimeout),
      ("tcpcongestion", textField s.congestion),
      ("interface", textField s.interface) ]

/-- The form with the options filled in and enabled. -/
def fill (s : Sockopt) (f : SockoptForm) : SockoptForm where
  enabled := true
  acceptProxyProtocol := s.acceptProxyProtocol.getD f.acceptProxyProtocol
  tcpFastOpen := s.tcpFastOpen.getD f.tcpFastOpen
  mark := wordText s.mark f.mark
  tproxy := s.tproxy.getD f.tproxy
  tcpMptcp := s.tcpMptcp.getD f.tcpMptcp
  domainStrategy := s.domainStrategy.getD f.domainStrategy
  keepAliveInterval := signedWordText s.keepAliveInterval f.keepAliveInterval
  keepAliveIdle := signedWordText s.keepAliveIdle f.keepAliveIdle
  userTimeout := signedWordText s.userTimeout f.userTimeout
  congestion := s.congestion.getD f.congestion
  interface := s.interface.getD f.interface

end Sockopt

end ProxyInbound.Wire
