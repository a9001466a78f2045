import ProxyInbound.Json.Record

/-!
# Form fields of the socket options

The socket options are a group of their own, switched on and off as a whole.
-/

namespace ProxyInbound

open Json

/-- The socket options. They count only when enabled. -/
structure SockoptForm where
  /-- Whether socket options are set at all. -/
  enabled : Bool
  /-- Whether the proxy protocol is accepted. -/
  acceptProxyProtocol : Bool
  /-- Whether TCP fast open is used. -/
  tcpFastOpen : Bool
  /-- The mark of the packets, a numeral. -/
  mark : String
  /-- The mode of transparent proxying. -/
  tproxy : String
  /-- Whether multipath TCP is used. -/
  tcpMptcp : Bool
  /-- How domain names are resolved. -/
  domainStrategy : String
  /-- The time between keep-alive probes, a signed numeral. -/
  keepAliveInterval : String
  /-- The idle time before keep-alive probes, a signed numeral. -/
  keepAliveIdle : String
  /-- The time for unacknowledged data, a signed numeral. -/
  userTimeout : String
  /-- The congestion control algorithm. -/
  congestion : String
  /-- The network interface. -/
  interface : String
  deriving DecidableEq, Repr

namespace SockoptForm

/-- The fields by name, in their order. -/
def slots : List (Slot SockoptForm) :=
  [ .flag "sockoptEnabled" (·.enabled)
      (fun v r => { r with enabled := v }),
    .flag "sockoptAcceptProxyProtocol" (·.acceptProxyProtocol)
      (fun v r => { r with acceptProxyProtocol := v }),
    .flag "sockoptTcpFastOpen" (·.tcpFastOpen)
      (fun v r => { r with tcpFastOpen := v }),
    .text "sockoptMark" (·.mark)
      (fun v r => { r with mark := v }),
    .text "sockoptTproxy" (·.tproxy)
      (fun v r => { r with tproxy := v }),
    .flag "sockoptTcpMptcp" (·.tcpMptcp)
      (fun v r => { r with tcpMptcp := v }),
    .text "sockoptDomainStrategy" (·.domainStrategy)
      (fun v r => { r with domainStrategy := v }),
    .text "sockoptTcpKeepAliveInterval" (·.keepAliveInterval)
      (fun v r => { r with keepAliveInterval := v }),
    .text "sockoptTcpKeepAliveIdle" (·.keepAliveIdle)
      (fun v r => { r with keepAliveIdle := v }),
    .text "sockoptTcpUserTimeout" (·.userTimeout)
      (fun v r => { r with userTimeout := v }),
    .text "sockoptTcpCongestion" (·.congestion)
      (fun v r => { r with congestion := v }),
    .text "sockoptInterface" (·.interface)
      (fun v r => { r with interface := v }) ]

/-- What a new form holds. -/
def template : SockoptForm where
  enabled := false
  acceptProxyProtocol := false
  tcpFastOpen := false
  mark := ""
  tproxy := "off"
  tcpMptcp := false
  domainStrategy := "AsIs"
  keepAliveInterval := ""
  keepAliveIdle := ""
  userTimeout := ""
  congestion := ""
  interface := ""

end SockoptForm

end ProxyInbound
