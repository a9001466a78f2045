import ProxyInbound.Form
import ProxyInbound.Header.Map
import ProxyInbound.Header.Rows
import ProxyInbound.Wire.Fields

/-!
# The WebSocket, HTTP upgrade and split HTTP networks

WebSocket stores its hosts as the `Host` header, which servers of every age understand, and edits
them as a field with several values. A stored host field is read too and comes before the hosts of
the header.

The other two networks store one host in a field of its own. Without it the first value of a `Host`
header takes its place, and further values stay in the header.
-/

namespace ProxyInbound.Wire

open Text.White Text.Parts

/-- The stored settings of the WebSocket network. -/
structure Ws where
  /-- Whether the proxy protocol is accepted. -/
  acceptProxyProtocol : Option Bool
  /-- The request path. -/
  path : Option String
  /-- The headers, hosts included. -/
  headers : Option HeaderMap
  deriving DecidableEq

namespace Ws

/-- The headers with hosts among them, those of a host header last. -/
def withHosts (hosts : List String) (headers : Option HeaderMap) : Option HeaderMap :=
  let (hosts, others) := (headers.getD HeaderMap.empty).drainHost hosts
  (others.putHosts HeaderValue.ofValues hosts).nonEmpty?

/-- The settings that a form describes. -/
def ofForm (f : WsForm) : Ws where
  acceptProxyProtocol := some f.acceptProxyProtocol
  path := nonBlank? f.path
  headers := withHosts (values f.host) (HeaderMap.ofRows? f.headers)

/-- The settings that a stored value holds. -/
def ofStored (v : Json) : Ws where
  acceptProxyProtocol := v.flagAt? "acceptProxyProtocol"
  path := v.textAt? "path"
  headers :=
    withHosts (keepNonBlank (v.textAt? "host")).toList (HeaderMap.storedAt? v "headers")

/-- The settings as JSON. -/
def toJson (s : Ws) : Json :=
  Json.ofFields
    [ ("acceptProxyProtocol", flagField s.acceptProxyProtocol),
      ("path", textField s.path),
      ("headers", headersField s.headers) ]

/-- The form with the settings filled in. Without hosts the host field stays as it is. -/
def fill (s : Ws) (f : WsForm) : WsForm :=
  let (hosts, others) := (s.headers.getD HeaderMap.empty).drainHost []
  { path := s.path.getD f.path
    host := if hosts.isEmpty then f.host else join hosts
    headers := HeaderMap.editRows (some others)
    acceptProxyProtocol := s.acceptProxyProtocol.getD f.acceptProxyProtocol }

end Ws

/-- The host and the other headers that a form describes. -/
def hostOfForm (host : String) (rows : List HeaderRow) : Option String × Option HeaderMap :=
  HeaderMap.liftHost (nonBlank? host) (HeaderMap.ofRows? rows)

/-- The host and the other headers that a stored value holds. -/
def storedHost (v : Json) : Option String × Option HeaderMap :=
  HeaderMap.liftHost (keepNonBlank (v.textAt? "host")) (HeaderMap.storedAt? v "headers")

/-- The stored settings of the HTTP upgrade network. -/
structure HttpUpgrade where
  /-- Whether the proxy protocol is accepted. -/
  acceptProxyProtocol : Option Bool
  /-- The request path. -/
  path : Option String
  /-- The host. -/
  host : Option String
  /-- The headers beside the host. -/
  headers : Option HeaderMap
  deriving DecidableEq

namespace HttpUpgrade

/-- The settings that a form describes. -/
def ofForm (f : HttpUpgradeForm) : HttpUpgrade where
  acceptProxyProtocol := some f.acceptProxyProtocol
  path := nonBlank? f.path
  host := (hostOfForm f.host f.headers).1
  headers := (hostOfForm f.host f.headers).2

/-- The settings that a stored value holds. -/
def ofStored (v : Json) : HttpUpgrade where
  acceptProxyProtocol := v.flagAt? "acceptProxyProtocol"
  path := v.textAt? "path"
  host := (storedHost v).1
  headers := (storedHost v).2

/-- The settings as JSON. -/
def toJson (s : HttpUpgrade) : Json :=
  Json.ofFields
    [ ("acceptProxyProtocol", flagField s.acceptProxyProtocol),
      ("path", textField s.path),
      ("host", textField s.host),
      ("headers", headersField s.headers) ]

/-- The form with the settings filled in. -/
def fill (s : HttpUpgrade) (f : HttpUpgradeForm) : HttpUpgradeForm where
  path := s.path.getD f.path
  host := s.host.getD f.host
  headers := HeaderMap.editRows s.headers
  acceptProxyProtocol := s.acceptProxyProtocol.getD f.acceptProxyProtocol

end HttpUpgrade

/-- The stored settings of the split HTTP network. Limits are numbers or ranges, kept as text. -/
structure SplitHttp where
  /-- The request path. -/
  path : Option String
  /-- The host. -/
  host : Option String
  /-- The headers beside the host. -/
  headers : Option HeaderMap
  /-- The number of uploads at a time. -/
  maxConcurrentPosts : Option String
  /-- The size of an upload. -/
  maxEachPostBytes : Option String
  /-- The time between uploads. -/
  minPostsIntervalMs : Option String
  /-- The size of the padding. -/
  paddingBytes : Option String
  /-- Whether the event stream header is left out. -/
  noSseHeader : Option Bool
  deriving DecidableEq

namespace SplitHttp

/-- The settings that a form describes. -/
def ofForm (f : SplitHttpForm) : SplitHttp where
  path := nonBlank? f.path
  host := (hostOfForm f.host f.headers).1
  headers := (hostOfForm f.host f.headers).2
  maxConcurrentPosts := nonBlank? f.maxConcurrentPosts
  maxEachPostBytes := nonBlank? f.maxEachPostBytes
  minPostsIntervalMs := nonBlank? f.minPostsIntervalMs
  paddingBytes := nonBlank? f.paddingBytes
  noSseHeader := some f.noSseHeader

/-- The settings that a stored value holds. -/
def ofStored (v : Json) : SplitHttp where
  path := v.textAt? "path"
  host := (storedHost v).1
  headers := (storedHost v).2
  maxConcurrentPosts := v.rangeAt? "scMaxConcurrentPosts"
  maxEachPostBytes := v.rangeAt? "scMaxEachPostBytes"
  minPostsIntervalMs := v.rangeAt? "scMinPostsIntervalMs"
  paddingBytes := v.rangeAt? "xPaddingBytes"
  noSseHeader := v.flagAt? "noSSEHeader"

/-- The settings as JSON. -/
def toJson (s : SplitHttp) : Json :=
  Json.ofFields
    [ ("path", textField s.path),
      ("host", textField s.host),
      ("headers", headersField s.headers),
      ("scMaxConcurrentPosts", textField s.maxConcurrentPosts),
      ("scMaxEachPostBytes", textField s.maxEachPostBytes),
      ("scMinPostsIntervalMs", textField s.minPostsIntervalMs),
      ("xPaddingBytes", textField s.paddingBytes),
      ("noSSEHeader", flagField s.noSseHeader) ]

/-- The form with the settings filled in. -/
def fill (s : SplitHttp) (f : SplitHttpForm) : SplitHttpForm where
  path := s.path.getD f.path
  host := s.host.getD f.host
  headers := HeaderMap.editRows s.headers
  maxConcurrentPosts := s.maxConcurrentPosts.getD f.maxConcurrentPosts
  maxEachPostBytes := s.maxEachPostBytes.getD f.maxEachPostBytes
  minPostsIntervalMs := s.minPostsIntervalMs.getD f.minPostsIntervalMs
  paddingBytes := s.paddingBytes.getD f.paddingBytes
  noSseHeader := s.noSseHeader.getD f.noSseHeader

end SplitHttp

end ProxyInbound.Wire
