import ProxyInbound.Form
import ProxyInbound.Header.Map
import ProxyInbound.Header.Rows
import ProxyInbound.Wire.Fields

/-!
# The TCP network

A TCP stream may be disguised as HTTP. The request then has a list of hosts, stored as its `Host`
header and edited as a field of its own; the header is a sequence even for one host. Any other
disguise is left out, since none is the rule.
-/

namespace ProxyInbound.Wire

open Text.White Text.Parts

/-- The disguising request. -/
structure TcpRequest where
  /-- The HTTP version. -/
  version : Option String
  /-- The method. -/
  method : Option String
  /-- The paths. -/
  path : List String
  /-- The headers, hosts included. -/
  headers : Option HeaderMap
  deriving DecidableEq

namespace TcpRequest

/-- The headers of a form's request with its hosts among them. -/
def headersOfForm (f : TcpForm) : HeaderMap :=
  let given := (HeaderMap.ofRows? f.headers).getD HeaderMap.empty
  let (hosts, others) := given.drainHost (values f.hosts)
  others.putHosts .multi hosts

/-- The request that a form describes. -/
def ofForm (f : TcpForm) : TcpRequest where
  version := nonBlank? f.version
  method := nonBlank? f.method
  path := values f.paths
  headers := (headersOfForm f).nonEmpty?

/-- The request that a stored object holds. -/
def ofStored (v : Json) : TcpRequest where
  version := v.textAt? "version"
  method := v.textAt? "method"
  path := v.textsAt "path"
  headers := HeaderMap.storedAt? v "headers"

/-- The request as JSON. -/
def toJson (r : TcpRequest) : Json :=
  Json.ofFields
    [ ("version", textField r.version),
      ("method", textField r.method),
      ("path", textsField r.path),
      ("headers", headersField r.headers) ]

/-- The form with the request filled in. Hosts and headers are replaced even by none. -/
def fill (r : TcpRequest) (f : TcpForm) : TcpForm :=
  let (hosts, others) := (r.headers.getD HeaderMap.empty).drainHost []
  { f with
    hosts := join hosts
    paths := if r.path.isEmpty then f.paths else join r.path
    version := r.version.getD f.version
    method := r.method.getD f.method
    headers := HeaderMap.editRows (some others) }

end TcpRequest

/-- The disguising response. -/
structure TcpResponse where
  /-- The HTTP version. -/
  version : Option String
  /-- The status. -/
  status : Option String
  /-- The reason phrase. -/
  reason : Option String
  /-- The headers. -/
  headers : Option HeaderMap
  deriving DecidableEq

namespace TcpResponse

/-- Whether the response says nothing. -/
def isEmpty (r : TcpResponse) : Bool :=
  blankOpt r.version && blankOpt r.status && blankOpt r.reason && r.headers.isNone

/-- The response that a form describes, if it says anything. -/
def ofForm? (f : TcpForm) : Option TcpResponse :=
  let r : TcpResponse :=
    { version := nonBlank? f.responseVersion
      status := nonBlank? f.responseStatus
      reason := nonBlank? f.responseReason
      headers := HeaderMap.ofRows? f.responseHeaders }
  if r.isEmpty then none else some r

/-- The response that a stored object holds. -/
def ofStored (v : Json) : TcpResponse where
  version := v.textAt? "version"
  status := v.textAt? "status"
  reason := v.textAt? "reason"
  headers := HeaderMap.storedAt? v "headers"

/-- The response as JSON. -/
def toJson (r : TcpResponse) : Json :=
  Json.ofFields
    [ ("version", textField r.version),
      ("status", textField r.status),
      ("reason", textField r.reason),
      ("headers", headersField r.headers) ]

/-- The form with the response filled in. -/
def fill (r : TcpResponse) (f : TcpForm) : TcpForm :=
  { f with
    responseVersion := r.version.getD f.responseVersion
    responseStatus := r.status.getD f.responseStatus
    responseReason := r.reason.getD f.responseReason
    responseHeaders := HeaderMap.editRows r.headers }

end TcpResponse

/-- The header that disguises a stream. -/
structure TcpHeader where
  /-- Its kind. -/
  kind : String
  /-- The request of an HTTP disguise. -/
  request : Option TcpRequest
  /-- The response of an HTTP disguise. -/
  response : Option TcpResponse
  deriving DecidableEq

namespace TcpHeader

/-- The kind of the HTTP disguise. -/
def httpKind : String := "http"

/-- The kind that stands for no disguise. -/
def noneKind : String := "none"

/-- The header that a form describes. Only the HTTP disguise is described. -/
def ofForm? (f : TcpForm) : Option TcpHeader :=
  if f.headerType = httpKind then
    some ⟨httpKind, some (TcpRequest.ofForm f), TcpResponse.ofForm? f⟩
  else none

/-- The header that a stored object holds. -/
def ofStored (v : Json) : TcpHeader where
  kind := (v.textAt? "type").getD noneKind
  request := (v.objectAt? "request").map TcpRequest.ofStored
  response := (v.objectAt? "response").map TcpResponse.ofStored

/-- The header as JSON. -/
def toJson (h : TcpHeader) : Json :=
  Json.ofFields
    [ ("type", some (.string h.kind)),
      ("request", h.request.map TcpRequest.toJson),
      ("response", h.response.map TcpResponse.toJson) ]

/-- The form with a request filled in, if there is one. -/
def fillRequest (r : Option TcpRequest) (f : TcpForm) : TcpForm :=
  match r with
  | some r => r.fill f
  | none => f

/-- The form with a response filled in, if there is one. -/
def fillResponse (r : Option TcpResponse) (f : TcpForm) : TcpForm :=
  match r with
  | some r => r.fill f
  | none => f

/-- The form with the header filled in. -/
def fill (h : TcpHeader) (f : TcpForm) : TcpForm :=
  fillResponse h.response (fillRequest h.request { f with headerType := h.kind })

end TcpHeader

/-- The stored settings of the TCP network. -/
structure Tcp where
  /-- Whether the proxy protocol is accepted. -/
  acceptProxyProtocol : Option Bool
  /-- The disguise. -/
  header : Option TcpHeader
  deriving DecidableEq

namespace Tcp

/-- The settings that a form describes. -/
def ofForm (f : TcpForm) : Tcp where
  acceptProxyProtocol := some f.acceptProxyProtocol
  header := TcpHeader.ofForm? f

/-- The settings that a stored value holds. -/
def ofStored (v : Json) : Tcp where
  acceptProxyProtocol := v.flagAt? "acceptProxyProtocol"
  header := (v.objectAt? "header").map TcpHeader.ofStored

/-- The settings as JSON. -/
def toJson (s : Tcp) : Json :=
  Json.ofFields
    [ ("acceptProxyProtocol", flagField s.acceptProxyProtocol),
      ("header", s.header.map TcpHeader.toJson) ]

/-- The form with a disguise filled in, if there is one. -/
def fillHeader (h : Option TcpHeader) (f : TcpForm) : TcpForm :=
  match h with
  | some h => h.fill f
  | none => f

/-- The form with the settings filled in. -/
def fill (s : Tcp) (f : TcpForm) : TcpForm :=
  fillHeader s.header
    { f with acceptProxyProtocol := s.acceptProxyProtocol.getD f.acceptProxyProtocol }

end Tcp

end ProxyInbound.Wire
