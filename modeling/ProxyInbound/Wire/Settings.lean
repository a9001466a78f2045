import ProxyInbound.Form
import ProxyInbound.Json.Lenient
import ProxyInbound.Text.Basic
import ProxyInbound.Wire.Fields

/-!
# Protocol settings and sniffing

Each protocol has settings of its own, so no protocol's fields appear under another. Users are kept
elsewhere: where a protocol lists them as clients, the list is always written and always empty.

A disabled sniffing block is written as the disabled switch alone. Reading takes from a stored block
only what it holds, so an inbound stored without one opens with sniffing as the form has it.
-/

namespace ProxyInbound.Wire

open Text.White Text.Parts Text.Numeral

/-- Where a connection goes that no user claims. -/
structure Fallback where
  /-- The destination. -/
  dest : Option Port
  /-- The request path that is matched. -/
  path : Option String
  /-- The kind of destination. -/
  kind : Option String
  /-- The negotiated protocols that are matched. -/
  alpn : List String
  /-- The version of the proxy protocol that is sent. -/
  xver : Option UInt64
  deriving DecidableEq, Repr

namespace Fallback

/-- The fallback that a row describes. -/
def ofRow (row : FallbackRow) : Fallback where
  dest := Port.ofText? row.dest
  path := nonBlank? row.path
  kind := nonBlank? row.kind
  alpn := commaParts row.alpn
  xver := unsigned? row.xver

/-- The fallback that a stored object holds. -/
def ofStored (v : Json) : Fallback where
  dest := (v.textAt? "dest").bind Port.ofText?
  path := v.textAt? "path"
  kind := v.textAt? "type"
  alpn := v.textsAt "alpn"
  xver := v.wordAt? "xver"

/-- The row that describes a fallback. -/
def toRow (f : Fallback) : FallbackRow where
  dest := (f.dest.map Port.toText).getD ""
  path := f.path.getD ""
  kind := f.kind.getD ""
  alpn := joinCommas f.alpn
  xver := (f.xver.map unsignedText).getD ""

/-- The fallback as JSON. -/
def toJson (f : Fallback) : Json :=
  Json.ofFields
    [ ("dest", f.dest.map Port.toJson),
      ("path", textField f.path),
      ("type", textField f.kind),
      ("alpn", textsField f.alpn),
      ("xver", wordField f.xver) ]

/-- The fallbacks that rows describe. Rows without a destination are unfinished and left out. -/
def ofRows (rows : List FallbackRow) : List Fallback :=
  (rows.map ofRow).filter fun f => f.dest.isSome

/-- The fallbacks that stored settings list; items that are no objects are passed over. -/
def listStored (settings : Json) : List Fallback :=
  ((settings.itemsAt "fallbacks").filter Json.isObject).map ofStored

end Fallback

/-- A user of a plain proxy. -/
structure Account where
  /-- The user name. -/
  user : String
  /-- The password. -/
  pass : Option String
  deriving DecidableEq, Repr

namespace Account

/-- The account that a row describes, if it names a user. -/
def ofRow? (row : AccountRow) : Option Account :=
  if blank row.user then none else some ⟨trim row.user, nonBlank? row.pass⟩

/-- The account that a stored value holds, if it names a user. -/
def ofStored? (v : Json) : Option Account :=
  (v.textAt? "user").map fun user => ⟨user, v.textAt? "pass"⟩

/-- The row that describes an account. -/
def toRow (a : Account) : AccountRow where
  user := a.user
  pass := a.pass.getD ""

/-- The account as JSON. -/
def toJson (a : Account) : Json :=
  Json.ofFields [("user", some (.string a.user)), ("pass", textField a.pass)]

/-- The accounts that stored settings list. -/
def listStored (settings : Json) : List Account :=
  (settings.itemsAt "accounts").filterMap ofStored?

/-- The rows that describe accounts. Without accounts the rows that are there stay. -/
def fillRows (accounts : List Account) (rows : List AccountRow) : List AccountRow :=
  if accounts.isEmpty then rows else accounts.map toRow

end Account

/-- The settings of an inbound, by protocol. -/
inductive Settings where
  /-- VMess has nothing but its clients. -/
  | vmess
  /-- The decryption and the fallbacks of VLESS. -/
  | vless (decryption : Option String) (fallbacks : List Fallback)
  /-- The fallbacks of Trojan. -/
  | trojan (fallbacks : List Fallback)
  /-- The cipher, the password and the networks of Shadowsocks. -/
  | shadowsocks (method password network : Option String)
  /-- The accounts of an HTTP proxy and whether it takes transparent requests. -/
  | http (accounts : List Account) (allowTransparent : Bool)
  /-- The authentication and accounts of a SOCKS proxy and how it relays UDP. -/
  | socks (auth : Option String) (accounts : List Account) (udp : Bool) (ip : Option String)
  deriving DecidableEq, Repr

namespace Settings

/-- The protocol whose settings these are. -/
def protocol : Settings → Protocol
  | vmess => .vmess
  | vless .. => .vless
  | trojan _ => .trojan
  | shadowsocks .. => .shadowsocks
  | http .. => .http
  | socks .. => .socks

/-- The settings that a form describes for its protocol. -/
def ofForm (form : Form) : Settings :=
  match form.protocol with
  | .vmess => vmess
  | .vless => vless (nonBlank? form.vlessDecryption) (Fallback.ofRows form.fallbacks)
  | .trojan => trojan (Fallback.ofRows form.fallbacks)
  | .shadowsocks =>
    shadowsocks (nonBlank? form.shadowsocks.method) (nonBlank? form.shadowsocks.password)
      (nonBlank? form.shadowsocks.network)
  | .http => http (form.accounts.filterMap Account.ofRow?) form.httpAllowTransparent
  | .socks =>
    socks (nonBlank? form.socks.auth) (form.accounts.filterMap Account.ofRow?) form.socks.udp
      (nonBlank? form.socks.ip)

/-- The settings of a protocol that a stored value holds. -/
def ofStored (protocol : Protocol) (v : Json) : Settings :=
  match protocol with
  | .vmess => vmess
  | .vless => vless (keepNonBlank (v.textAt? "decryption")) (Fallback.listStored v)
  | .trojan => trojan (Fallback.listStored v)
  | .shadowsocks => shadowsocks (v.textAt? "method") (v.textAt? "password") (v.textAt? "network")
  | .http => http (Account.listStored v) ((v.flagAt? "allowTransparent").getD false)
  | .socks =>
    socks (v.textAt? "auth") (Account.listStored v) ((v.flagAt? "udp").getD false)
      (v.textAt? "ip")

/-- The clients that are written: always none. -/
def noClients : Option Json :=
  some (.array [])

/-- The settings as JSON. -/
def toJson : Settings → Json
  | vmess => Json.ofFields [("clients", noClients)]
  | vless decryption fallbacks =>
    Json.ofFields
      [ ("clients", noClients),
        ("decryption", textField decryption),
        ("fallbacks", objectsField Fallback.toJson fallbacks) ]
  | trojan fallbacks =>
    Json.ofFields
      [ ("clients", noClients),
        ("fallbacks", objectsField Fallback.toJson fallbacks) ]
  | shadowsocks method password network =>
    Json.ofFields
      [ ("clients", noClients),
        ("method", textField method),
        ("password", textField password),
        ("network", textField network) ]
  | http accounts allowTransparent =>
    Json.ofFields
      [ ("accounts", objectsField Account.toJson accounts),
        ("allowTransparent", some (.bool allowTransparent)) ]
  | socks auth accounts udp ip =>
    Json.ofFields
      [ ("auth", textField auth),
        ("accounts", objectsField Account.toJson accounts),
        ("udp", some (.bool udp)),
        ("ip", textField ip) ]

/-- The form with the fields of these settings filled in. The selected protocol stays. -/
def fill (settings : Settings) (form : Form) : Form :=
  match settings with
  | vmess => form
  | vless decryption fallbacks =>
    { form with
      vlessDecryption := decryption.getD form.vlessDecryption
      fallbacks := fallbacks.map Fallback.toRow }
  | trojan fallbacks => { form with fallbacks := fallbacks.map Fallback.toRow }
  | shadowsocks method password network =>
    { form with
      shadowsocks :=
        { method := method.getD form.shadowsocks.method
          password := password.getD form.shadowsocks.password
          network := network.getD form.shadowsocks.network } }
  | http accounts allowTransparent =>
    { form with
      accounts := Account.fillRows accounts form.accounts
      httpAllowTransparent := allowTransparent }
  | socks auth accounts udp ip =>
    { form with
      accounts := Account.fillRows accounts form.accounts
      socks :=
        { auth := auth.getD form.socks.auth
          udp := udp
          ip := ip.getD form.socks.ip } }

/-- A form's settings are those of its protocol. -/
theorem protocol_ofForm (form : Form) : (ofForm form).protocol = form.protocol := by
  unfold ofForm
  cases form.protocol <;> rfl

/-- The settings read for a protocol are its own. -/
theorem protocol_ofStored (p : Protocol) (v : Json) : (ofStored p v).protocol = p := by
  cases p <;> rfl

/-- Filling in settings leaves the selected protocol. -/
theorem fill_protocol (settings : Settings) (form : Form) :
    (settings.fill form).protocol = form.protocol := by
  cases settings <;> rfl

end Settings

/-! ## Sniffing -/

/-- The sniffing block that is written. -/
structure Sniffing where
  /-- Whether traffic is sniffed. -/
  enabled : Bool
  /-- The kinds of traffic whose destination is taken over. -/
  destOverride : List String
  /-- Whether the sniffed destination is used for routing only. -/
  routeOnly : Option Bool
  /-- Whether only metadata is looked at. -/
  metadataOnly : Option Bool
  deriving DecidableEq, Repr

namespace Sniffing

/-- The block that says only that nothing is sniffed. -/
def disabled : Sniffing := ⟨false, [], none, none⟩

/-- The block that a form describes. -/
def ofForm (f : SniffingForm) : Sniffing :=
  if f.enabled then
    { enabled := true
      destOverride := (f.destinations.map trim).filter (· ≠ "")
      routeOnly := some f.routeOnly
      metadataOnly := some f.metadataOnly }
  else disabled

/-- The block as JSON. -/
def toJson (s : Sniffing) : Json :=
  Json.ofFields
    [ ("enabled", some (.bool s.enabled)),
      ("destOverride", textsField s.destOverride),
      ("routeOnly", flagField s.routeOnly),
      ("metadataOnly", flagField s.metadataOnly) ]

/-- The form with the fields that a stored block holds. -/
def fillStored (v : Json) (f : SniffingForm) : SniffingForm where
  enabled := (v.flagAt? "enabled").getD f.enabled
  destinations := (v.textsAt? "destOverride").getD f.destinations
  routeOnly := (v.flagAt? "routeOnly").getD f.routeOnly
  metadataOnly := (v.flagAt? "metadataOnly").getD f.metadataOnly

end Sniffing

end ProxyInbound.Wire
