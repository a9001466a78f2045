import ProxyInbound.Form
import ProxyInbound.Header.Rows
import ProxyInbound.Json.Lenient
import ProxyInbound.Wire.Fields

/-!
# The HTTP/2 and gRPC networks

HTTP/2 stores its hosts as a sequence of their own and its headers as they are. gRPC, which runs
over HTTP/2, has no headers to edit.
-/

namespace ProxyInbound.Wire

open Text.White Text.Parts

/-- The stored settings of the HTTP/2 network. -/
structure Http where
  /-- The hosts. -/
  host : List String
  /-- The request path. -/
  path : Option String
  /-- The request method. -/
  method : Option String
  /-- The request headers. -/
  headers : Option HeaderMap
  deriving DecidableEq

namespace Http

/-- The settings that a form describes. -/
def ofForm (f : HttpForm) : Http where
  host := values f.hosts
  path := nonBlank? f.path
  method := nonBlank? f.method
  headers := HeaderMap.ofRows? f.headers

/-- The settings that a stored value holds. -/
def ofStored (v : Json) : Http where
  host := v.textsAt "host"
  path := v.textAt? "path"
  method := v.textAt? "method"
  headers := HeaderMap.storedAt? v "headers"

/-- The settings as JSON. -/
def toJson (s : Http) : Json :=
  Json.ofFields
    [ ("host", textsField s.host),
      ("path", textField s.path),
      ("method", textField s.method),
      ("headers", headersField s.headers) ]

/-- The form with the settings filled in. Hosts and headers are replaced even by none. -/
def fill (s : Http) (f : HttpForm) : HttpForm where
  hosts := join s.host
  path := s.path.getD f.path
  method := s.method.getD f.method
  headers := HeaderMap.editRows s.headers

end Http

/-- The stored settings of the gRPC network. -/
structure Grpc where
  /-- The name of the service. -/
  serviceName : Option String
  /-- The authority of the requests. -/
  authority : Option String
  /-- Whether several messages share one call. -/
  multiMode : Option Bool
  deriving DecidableEq, Repr

namespace Grpc

/-- The settings that a form describes. -/
def ofForm (f : GrpcForm) : Grpc where
  serviceName := nonBlank? f.serviceName
  authority := nonBlank? f.authority
  multiMode := some f.multiMode

/-- The settings that a stored value holds. -/
def ofStored (v : Json) : Grpc where
  serviceName := v.textAt? "serviceName"
  authority := v.textAt? "authority"
  multiMode := v.flagAt? "multiMode"

/-- The settings as JSON. -/
def toJson (s : Grpc) : Json :=
  Json.ofFields
    [ ("serviceName", textField s.serviceName),
      ("authority", textField s.authority),
      ("multiMode", flagField s.multiMode) ]

/-- The form with the settings filled in. -/
def fill (s : Grpc) (f : GrpcForm) : GrpcForm where
  serviceName := s.serviceName.getD f.serviceName
  authority := s.authority.getD f.authority
  multiMode := s.multiMode.getD f.multiMode

end Grpc

end ProxyInbound.Wire
