import ProxyInbound.Form
import ProxyInbound.Json.Lenient
import ProxyInbound.Text.Basic
import ProxyInbound.Wire.Fields

/-!
# Transport security

TLS and REALITY are stored as objects of their own; without security there is none. The first
certificate of TLS has form fields of its own and the further ones are rows. REALITY keeps the
parameters of its clients beside those of the server.
-/

namespace ProxyInbound.Wire

open Text.White Text.Parts Text.Numeral

/-- A certificate and its key: paths, inline lines, or both. -/
structure Certificate where
  /-- The path of the certificate. -/
  certificateFile : Option String
  /-- The path of the key. -/
  keyFile : Option String
  /-- The lines of the certificate. -/
  certificate : List String
  /-- The lines of the key. -/
  key : List String
  deriving DecidableEq, Repr

namespace Certificate

/-- The certificate that holds nothing. -/
def empty : Certificate := ⟨none, none, [], []⟩

/-- The certificate that a row describes, if it describes anything. -/
def ofRow? (row : CertificateRow) : Option Certificate :=
  let c : Certificate :=
    { certificateFile := nonBlank? row.certificateFile
      keyFile := nonBlank? row.keyFile
      certificate := lines row.certificate
      key := lines row.key }
  if c = empty then none else some c

/-- The certificate that a stored object holds. -/
def ofStored (v : Json) : Certificate where
  certificateFile := v.textAt? "certificateFile"
  keyFile := v.textAt? "keyFile"
  certificate := v.textsAt "certificate"
  key := v.textsAt "key"

/-- The row that describes a certificate. -/
def toRow (c : Certificate) : CertificateRow where
  certificateFile := c.certificateFile.getD ""
  keyFile := c.keyFile.getD ""
  certificate := join c.certificate
  key := join c.key

/-- The certificate as JSON. -/
def toJson (c : Certificate) : Json :=
  Json.ofFields
    [ ("certificateFile", textField c.certificateFile),
      ("keyFile", textField c.keyFile),
      ("certificate", textsField c.certificate),
      ("key", textsField c.key) ]

end Certificate

/-- The stored settings of TLS. -/
structure Tls where
  /-- The name of the server. -/
  serverName : Option String
  /-- The negotiated protocols. -/
  alpn : List String
  /-- The least version. -/
  minVersion : Option String
  /-- The greatest version. -/
  maxVersion : Option String
  /-- Whether unknown server names are rejected. -/
  rejectUnknownSni : Option Bool
  /-- The certificates. -/
  certificates : List Certificate
  deriving DecidableEq, Repr

namespace Tls

/-- The first certificate of a form as a row. -/
def firstRow (f : TlsForm) : CertificateRow :=
  ⟨f.certificateFile, f.keyFile, f.certificate, f.key⟩

/-- The form with another first certificate. -/
def setFirstRow (row : CertificateRow) (f : TlsForm) : TlsForm :=
  { f with
    certificateFile := row.certificateFile
    keyFile := row.keyFile
    certificate := row.certificate
    key := row.key }

/-- The settings that a form describes. -/
def ofForm (f : TlsForm) : Tls where
  serverName := nonBlank? f.serverName
  alpn := values f.alpn
  minVersion := nonBlank? f.minVersion
  maxVersion := nonBlank? f.maxVersion
  rejectUnknownSni := some f.rejectUnknownSni
  certificates := (firstRow f :: f.extraCertificates).filterMap Certificate.ofRow?

/-- The settings that a stored value holds; certificates that are no objects are passed over. -/
def ofStored (v : Json) : Tls where
  serverName := v.textAt? "serverName"
  alpn := v.textsAt "alpn"
  minVersion := v.textAt? "minVersion"
  maxVersion := v.textAt? "maxVersion"
  rejectUnknownSni := v.flagAt? "rejectUnknownSni"
  certificates := ((v.itemsAt "certificates").filter Json.isObject).map Certificate.ofStored

/-- The settings as JSON. -/
def toJson (s : Tls) : Json :=
  Json.ofFields
    [ ("serverName", textField s.serverName),
      ("alpn", textsField s.alpn),
      ("minVersion", textField s.minVersion),
      ("maxVersion", textField s.maxVersion),
      ("rejectUnknownSni", flagField s.rejectUnknownSni),
      ("certificates", objectsField Certificate.toJson s.certificates) ]

/-- The form with the certificates laid out: the first in its own fields, if there is one, and
the others as rows. -/
def fillCertificates (rows : List CertificateRow) (f : TlsForm) : TlsForm :=
  match rows with
  | [] => { f with extraCertificates := [] }
  | first :: others => { setFirstRow first f with extraCertificates := others }

/-- The form with the settings filled in. -/
def fill (s : Tls) (f : TlsForm) : TlsForm :=
  fillCertificates (s.certificates.map Certificate.toRow)
    { f with
      serverName := s.serverName.getD f.serverName
      alpn := join s.alpn
      minVersion := s.minVersion.getD f.minVersion
      maxVersion := s.maxVersion.getD f.maxVersion
      rejectUnknownSni := s.rejectUnknownSni.getD f.rejectUnknownSni }

end Tls

/-- The parameters that REALITY clients are given. -/
structure RealityClient where
  /-- The public key. -/
  publicKey : Option String
  /-- The fingerprint. -/
  fingerprint : Option String
  /-- The crawl path. -/
  spiderX : Option String
  deriving DecidableEq, Repr

namespace RealityClient

/-- The parameters that a form describes, if it describes any. -/
def ofForm? (f : RealityForm) : Option RealityClient :=
  if blank f.publicKey ∧ blank f.fingerprint ∧ blank f.spiderX then none
  else some ⟨nonBlank? f.publicKey, nonBlank? f.fingerprint, nonBlank? f.spiderX⟩

/-- The parameters that a stored object holds. -/
def ofStored (v : Json) : RealityClient where
  publicKey := v.textAt? "publicKey"
  fingerprint := v.textAt? "fingerprint"
  spiderX := v.textAt? "spiderX"

/-- The parameters as JSON. -/
def toJson (c : RealityClient) : Json :=
  Json.ofFields
    [ ("publicKey", textField c.publicKey),
      ("fingerprint", textField c.fingerprint),
      ("spiderX", textField c.spiderX) ]

/-- The form with the parameters filled in. -/
def fill (c : RealityClient) (f : RealityForm) : RealityForm :=
  { f with
    publicKey := c.publicKey.getD f.publicKey
    fingerprint := c.fingerprint.getD f.fingerprint
    spiderX := c.spiderX.getD f.spiderX }

end RealityClient

/-- The stored settings of REALITY. -/
structure Reality where
  /-- Whether debug output is shown. -/
  showDebug : Option Bool
  /-- The disguise destination. -/
  dest : Option String
  /-- The version of the proxy protocol that is sent. -/
  xver : Option UInt64
  /-- The accepted server names. -/
  serverNames : List String
  /-- The private key. -/
  privateKey : Option String
  /-- The least client version. -/
  minClientVer : Option String
  /-- The greatest client version. -/
  maxClientVer : Option String
  /-- The greatest accepted time difference. -/
  maxTimeDiff : Option UInt64
  /-- The accepted short identifiers. -/
  shortIds : List String
  /-- The parameters that clients are given. -/
  client : Option RealityClient
  deriving DecidableEq

namespace Reality

/-- The settings that a form describes. -/
def ofForm (f : RealityForm) : Reality where
  showDebug := some f.showDebug
  dest := nonBlank? f.dest
  xver := unsigned? f.xver
  serverNames := values f.serverNames
  privateKey := nonBlank? f.privateKey
  minClientVer := nonBlank? f.minClientVer
  maxClientVer := nonBlank? f.maxClientVer
  maxTimeDiff := unsigned? f.maxTimeDiff
  shortIds := values f.shortIds
  client := RealityClient.ofForm? f

/-- The settings that a stored value holds. The destination has a newer name as well. -/
def ofStored (v : Json) : Reality where
  showDebug := v.flagAt? "show"
  dest := (v.textAt? "dest").or (v.textAt? "target")
  xver := v.wordAt? "xver"
  serverNames := v.textsAt "serverNames"
  privateKey := v.textAt? "privateKey"
  minClientVer := v.textAt? "minClientVer"
  maxClientVer := v.textAt? "maxClientVer"
  maxTimeDiff := v.wordAt? "maxTimeDiff"
  shortIds := v.textsAt "shortIds"
  client := (v.objectAt? "settings").map RealityClient.ofStored

/-- The settings as JSON. -/
def toJson (s : Reality) : Json :=
  Json.ofFields
    [ ("show", flagField s.showDebug),
      ("dest", textField s.dest),
      ("xver", wordField s.xver),
      ("serverNames", textsField s.serverNames),
      ("privateKey", textField s.privateKey),
      ("minClientVer", textField s.minClientVer),
      ("maxClientVer", textField s.maxClientVer),
      ("maxTimeDiff", wordField s.maxTimeDiff),
      ("shortIds", textsField s.shortIds),
      ("settings", s.client.map RealityClient.toJson) ]

/-- The form with the client parameters filled in, if there are any. -/
def fillClient (c : Option RealityClient) (f : RealityForm) : RealityForm :=
  match c with
  | some c => c.fill f
  | none => f

/-- The form with the settings filled in. -/
def fill (s : Reality) (f : RealityForm) : RealityForm :=
  fillClient s.client
    { f with
      showDebug := s.showDebug.getD f.showDebug
      dest := s.dest.getD f.dest
      xver := wordText s.xver f.xver
      serverNames := join s.serverNames
      privateKey := s.privateKey.getD f.privateKey
      minClientVer := s.minClientVer.getD f.minClientVer
      maxClientVer := s.maxClientVer.getD f.maxClientVer
      maxTimeDiff := wordText s.maxTimeDiff f.maxTimeDiff
      shortIds := join s.shortIds }

end Reality

/-- The stored settings of a security that has any. -/
inductive SecuritySettings where
  /-- TLS. -/
  | tls (settings : Tls)
  /-- REALITY. -/
  | reality (settings : Reality)
  deriving DecidableEq

namespace SecuritySettings

/-- The security whose settings these are. -/
def security : SecuritySettings → Security
  | tls _ => .tls
  | reality _ => .reality

/-- The settings that a form describes for its security. -/
def ofForm? (form : Form) : Option SecuritySettings :=
  match form.security with
  | .none => none
  | .tls => some (tls (Tls.ofForm form.tls))
  | .reality => some (reality (Reality.ofForm form.reality))

/-- The settings of a security that stored stream settings hold. -/
def ofStored? (security : Security) (stream : Json) : Option SecuritySettings :=
  match security with
  | .none => none
  | .tls => some (tls (Tls.ofStored (stream.objectAt "tlsSettings")))
  | .reality => some (reality (Reality.ofStored (stream.objectAt "realitySettings")))

/-- The member of the stream settings that holds the settings. -/
def key : SecuritySettings → String
  | tls _ => "tlsSettings"
  | reality _ => "realitySettings"

/-- The settings as JSON. -/
def toJson : SecuritySettings → Json
  | tls s => s.toJson
  | reality s => s.toJson

/-- The form with the security selected and its settings filled in. -/
def fill (s : SecuritySettings) (form : Form) : Form :=
  match s with
  | tls s => { form with security := .tls, tls := s.fill form.tls }
  | reality s => { form with security := .reality, reality := s.fill form.reality }

/-- The settings stand under the key of their security. -/
theorem key_eq_settingsKey (s : SecuritySettings) : s.security.settingsKey? = some s.key := by
  cases s <;> rfl

end SecuritySettings

end ProxyInbound.Wire
