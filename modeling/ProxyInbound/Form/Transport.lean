import ProxyInbound.Form.Rows

/-!
# Form fields of the networks

Each network has a group of fields of its own. The group of a network that is not selected keeps its
values and means nothing.
-/

namespace ProxyInbound

open Json

/-- The fields of the TCP network. The request and response count only under an HTTP header. -/
structure TcpForm where
  /-- Whether the proxy protocol is accepted. -/
  acceptProxyProtocol : Bool
  /-- The kind of header that disguises the stream. -/
  headerType : String
  /-- The hosts of the request, several values. -/
  hosts : String
  /-- The paths of the request, several values. -/
  paths : String
  /-- The HTTP version of the request. -/
  version : String
  /-- The method of the request. -/
  method : String
  /-- The headers of the request beside the hosts. -/
  headers : List HeaderRow
  /-- The HTTP version of the response. -/
  responseVersion : String
  /-- The status of the response. -/
  responseStatus : String
  /-- The reason phrase of the response. -/
  responseReason : String
  /-- The headers of the response. -/
  responseHeaders : List HeaderRow
  deriving DecidableEq, Repr

namespace TcpForm

/-- The fields by name, in their order. -/
def slots : List (Slot TcpForm) :=
  [ .flag "tcpAcceptProxyProtocol" (·.acceptProxyProtocol)
      (fun v r => { r with acceptProxyProtocol := v }),
    .text "tcpHeaderType" (·.headerType)
      (fun v r => { r with headerType := v }),
    .text "tcpHttpHosts" (·.hosts)
      (fun v r => { r with hosts := v }),
    .text "tcpHttpPaths" (·.paths)
      (fun v r => { r with paths := v }),
    .text "tcpHttpVersion" (·.version)
      (fun v r => { r with version := v }),
    .text "tcpHttpMethod" (·.method)
      (fun v r => { r with method := v }),
    .rows HeaderRow.shape "tcpHttpHeaders" (·.headers)
      (fun v r => { r with headers := v }),
    .text "tcpHttpResponseVersion" (·.responseVersion)
      (fun v r => { r with responseVersion := v }),
    .text "tcpHttpResponseStatus" (·.responseStatus)
      (fun v r => { r with responseStatus := v }),
    .text "tcpHttpResponseReason" (·.responseReason)
      (fun v r => { r with responseReason := v }),
    .rows HeaderRow.shape "tcpHttpResponseHeaders" (·.responseHeaders)
      (fun v r => { r with responseHeaders := v }) ]

/-- What a new form holds. -/
def template : TcpForm where
  acceptProxyProtocol := false
  headerType := "none"
  hosts := ""
  paths := "/"
  version := "1.1"
  method := "GET"
  headers := [HeaderRow.blank]
  responseVersion := ""
  responseStatus := ""
  responseReason := ""
  responseHeaders := [HeaderRow.blank]

end TcpForm

/-- The fields of the KCP network. The sizes and capacities are numerals. -/
structure KcpForm where
  /-- The packet size. -/
  mtu : String
  /-- The interval between transmissions. -/
  tti : String
  /-- The capacity upward. -/
  uplinkCapacity : String
  /-- The capacity downward. -/
  downlinkCapacity : String
  /-- Whether congestion is controlled. -/
  congestion : Bool
  /-- The size of the read buffer. -/
  readBufferSize : String
  /-- The size of the write buffer. -/
  writeBufferSize : String
  /-- The kind of packet disguise. -/
  headerType : String
  /-- The seed of the obfuscation. -/
  seed : String
  deriving DecidableEq, Repr

namespace KcpForm

/-- The fields by name, in their order. -/
def slots : List (Slot KcpForm) :=
  [ .text "kcpMtu" (·.mtu)
      (fun v r => { r with mtu := v }),
    .text "kcpTti" (·.tti)
      (fun v r => { r with tti := v }),
    .text "kcpUplinkCapacity" (·.uplinkCapacity)
      (fun v r => { r with uplinkCapacity := v }),
    .text "kcpDownlinkCapacity" (·.downlinkCapacity)
      (fun v r => { r with downlinkCapacity := v }),
    .flag "kcpCongestion" (·.congestion)
      (fun v r => { r with congestion := v }),
    .text "kcpReadBufferSize" (·.readBufferSize)
      (fun v r => { r with readBufferSize := v }),
    .text "kcpWriteBufferSize" (·.writeBufferSize)
      (fun v r => { r with writeBufferSize := v }),
    .text "kcpHeaderType" (·.headerType)
      (fun v r => { r with headerType := v }),
    .text "kcpSeed" (·.seed)
      (fun v r => { r with seed := v }) ]

/-- What a new form holds. -/
def template : KcpForm where
  mtu := "1350"
  tti := "20"
  uplinkCapacity := "5"
  downlinkCapacity := "20"
  congestion := false
  readBufferSize := "2"
  writeBufferSize := "2"
  headerType := "none"
  seed := ""

end KcpForm

/-- The fields of the WebSocket network. -/
structure WsForm where
  /-- The request path. -/
  path : String
  /-- The hosts, several values. -/
  host : String
  /-- The headers beside the hosts. -/
  headers : List HeaderRow
  /-- Whether the proxy protocol is accepted. -/
  acceptProxyProtocol : Bool
  deriving DecidableEq, Repr

namespace WsForm

/-- The fields by name, in their order. -/
def slots : List (Slot WsForm) :=
  [ .text "wsPath" (·.path)
      (fun v r => { r with path := v }),
    .text "wsHost" (·.host)
      (fun v r => { r with host := v }),
    .rows HeaderRow.shape "wsHeaders" (·.headers)
      (fun v r => { r with headers := v }),
    .flag "wsAcceptProxyProtocol" (·.acceptProxyProtocol)
      (fun v r => { r with acceptProxyProtocol := v }) ]

/-- What a new form holds. -/
def template : WsForm where
  path := "/"
  host := ""
  headers := [HeaderRow.blank]
  acceptProxyProtocol := false

end WsForm

/-- The fields of the HTTP/2 network. -/
structure HttpForm where
  /-- The hosts, several values. -/
  hosts : String
  /-- The request path. -/
  path : String
  /-- The request method. -/
  method : String
  /-- The request headers. -/
  headers : List HeaderRow
  deriving DecidableEq, Repr

namespace HttpForm

/-- The fields by name, in their order. -/
def slots : List (Slot HttpForm) :=
  [ .text "httpHosts" (·.hosts)
      (fun v r => { r with hosts := v }),
    .text "httpPath" (·.path)
      (fun v r => { r with path := v }),
    .text "httpMethod" (·.method)
      (fun v r => { r with method := v }),
    .rows HeaderRow.shape "httpHeaders" (·.headers)
      (fun v r => { r with headers := v }) ]

/-- What a new form holds. -/
def template : HttpForm where
  hosts := ""
  path := "/"
  method := ""
  headers := [HeaderRow.blank]

end HttpForm

/-- The fields of the QUIC network. -/
structure QuicForm where
  /-- The cipher of the packets. -/
  security : String
  /-- The key of the cipher. -/
  key : String
  /-- The kind of packet disguise. -/
  headerType : String
  deriving DecidableEq, Repr

namespace QuicForm

/-- The fields by name, in their order. -/
def slots : List (Slot QuicForm) :=
  [ .text "quicSecurity" (·.security)
      (fun v r => { r with security := v }),
    .text "quicKey" (·.key)
      (fun v r => { r with key := v }),
    .text "quicHeaderType" (·.headerType)
      (fun v r => { r with headerType := v }) ]

/-- What a new form holds. -/
def template : QuicForm where
  security := "none"
  key := ""
  headerType := "none"

end QuicForm

/-- The fields of the gRPC network. -/
structure GrpcForm where
  /-- The name of the service. -/
  serviceName : String
  /-- The authority of the requests. -/
  authority : String
  /-- Whether several messages share one call. -/
  multiMode : Bool
  deriving DecidableEq, Repr

namespace GrpcForm

/-- The fields by name, in their order. -/
def slots : List (Slot GrpcForm) :=
  [ .text "grpcServiceName" (·.serviceName)
      (fun v r => { r with serviceName := v }),
    .text "grpcAuthority" (·.authority)
      (fun v r => { r with authority := v }),
    .flag "grpcMultiMode" (·.multiMode)
      (fun v r => { r with multiMode := v }) ]

/-- What a new form holds. -/
def template : GrpcForm where
  serviceName := ""
  authority := ""
  multiMode := false

end GrpcForm

/-- The fields of the HTTP upgrade network. -/
structure HttpUpgradeForm where
  /-- The request path. -/
  path : String
  /-- The host. -/
  host : String
  /-- The headers beside the host. -/
  headers : List HeaderRow
  /-- Whether the proxy protocol is accepted. -/
  acceptProxyProtocol : Bool
  deriving DecidableEq, Repr

namespace HttpUpgradeForm

/-- The fields by name, in their order. -/
def slots : List (Slot HttpUpgradeForm) :=
  [ .text "httpupgradePath" (·.path)
      (fun v r => { r with path := v }),
    .text "httpupgradeHost" (·.host)
      (fun v r => { r with host := v }),
    .rows HeaderRow.shape "httpupgradeHeaders" (·.headers)
      (fun v r => { r with headers := v }),
    .flag "httpupgradeAcceptProxyProtocol" (·.acceptProxyProtocol)
      (fun v r => { r with acceptProxyProtocol := v }) ]

/-- What a new form holds. -/
def template : HttpUpgradeForm where
  path := "/"
  host := ""
  headers := [HeaderRow.blank]
  acceptProxyProtocol := false

end HttpUpgradeForm

/-- The fields of the split HTTP network. Limits are numbers or ranges, kept as text. -/
structure SplitHttpForm where
  /-- The request path. -/
  path : String
  /-- The host. -/
  host : String
  /-- The headers beside the host. -/
  headers : List HeaderRow
  /-- The number of uploads at a time. -/
  maxConcurrentPosts : String
  /-- The size of an upload. -/
  maxEachPostBytes : String
  /-- The time between uploads. -/
  minPostsIntervalMs : String
  /-- The size of the padding. -/
  paddingBytes : String
  /-- Whether the event stream header is left out. -/
  noSseHeader : Bool
  deriving DecidableEq, Repr

namespace SplitHttpForm

/-- The fields by name, in their order. -/
def slots : List (Slot SplitHttpForm) :=
  [ .text "splithttpPath" (·.path)
      (fun v r => { r with path := v }),
    .text "splithttpHost" (·.host)
      (fun v r => { r with host := v }),
    .rows HeaderRow.shape "splithttpHeaders" (·.headers)
      (fun v r => { r with headers := v }),
    .text "splithttpScMaxConcurrentPosts" (·.maxConcurrentPosts)
      (fun v r => { r with maxConcurrentPosts := v }),
    .text "splithttpScMaxEachPostBytes" (·.maxEachPostBytes)
      (fun v r => { r with maxEachPostBytes := v }),
    .text "splithttpScMinPostsIntervalMs" (·.minPostsIntervalMs)
      (fun v r => { r with minPostsIntervalMs := v }),
    .text "splithttpXPaddingBytes" (·.paddingBytes)
      (fun v r => { r with paddingBytes := v }),
    .flag "splithttpNoSseHeader" (·.noSseHeader)
      (fun v r => { r with noSseHeader := v }) ]

/-- What a new form holds. -/
def template : SplitHttpForm where
  path := "/"
  host := ""
  headers := [HeaderRow.blank]
  maxConcurrentPosts := "100-200"
  maxEachPostBytes := "1000000"
  minPostsIntervalMs := "30"
  paddingBytes := "100-1000"
  noSseHeader := false

end SplitHttpForm

/-- The fields of the domain socket network. -/
structure DomainSocketForm where
  /-- The path of the socket. -/
  path : String
  /-- Whether the socket has an abstract name. -/
  abstractName : Bool
  /-- Whether the abstract name is padded. -/
  padding : Bool
  deriving DecidableEq, Repr

namespace DomainSocketForm

/-- The fields by name, in their order. -/
def slots : List (Slot DomainSocketForm) :=
  [ .text "dsPath" (·.path)
      (fun v r => { r with path := v }),
    .flag "dsAbstract" (·.abstractName)
      (fun v r => { r with abstractName := v }),
    .flag "dsPadding" (·.padding)
      (fun v r => { r with padding := v }) ]

/-- What a new form holds. -/
def template : DomainSocketForm where
  path := ""
  abstractName := false
  padding := false

end DomainSocketForm

end ProxyInbound
