import ProxyInbound.Json.Record

/-!
# Rows of a form

Headers, fallbacks, certificates and accounts are edited as rows of texts. A row is read from an
object or a sequence; what is absent is the empty text.
-/

namespace ProxyInbound

open Json

/-- One editable header: a name and a value. -/
structure HeaderRow where
  /-- The header name. -/
  name : String
  /-- The header value. -/
  value : String
  deriving DecidableEq, Repr

namespace HeaderRow

/-- The fields by name, in their order. -/
def slots : List (Slot HeaderRow) :=
  [ .text "name" (·.name)
      (fun v r => { r with name := v }),
    .text "value" (·.value)
      (fun v r => { r with value := v }) ]

/-- A row with nothing in it. -/
def blank : HeaderRow where
  name := ""
  value := ""

/-- The description of the row as an object. -/
def shape : Record HeaderRow :=
  ⟨"HeaderEntry", slots, blank⟩

end HeaderRow

/-- One editable fallback. A row without a destination is unfinished. -/
structure FallbackRow where
  /-- Where the connection goes: a port, an address or a socket path. -/
  dest : String
  /-- The request path that is matched. -/
  path : String
  /-- The kind of destination. -/
  kind : String
  /-- The negotiated protocols that are matched, between commas. -/
  alpn : String
  /-- The version of the proxy protocol that is sent, a numeral. -/
  xver : String
  deriving DecidableEq, Repr

namespace FallbackRow

/-- The fields by name, in their order. -/
def slots : List (Slot FallbackRow) :=
  [ .text "dest" (·.dest)
      (fun v r => { r with dest := v }),
    .text "path" (·.path)
      (fun v r => { r with path := v }),
    .text "type" (·.kind)
      (fun v r => { r with kind := v }),
    .text "alpn" (·.alpn)
      (fun v r => { r with alpn := v }),
    .text "xver" (·.xver)
      (fun v r => { r with xver := v }) ]

/-- A row with nothing in it. -/
def blank : FallbackRow where
  dest := ""
  path := ""
  kind := ""
  alpn := ""
  xver := ""

/-- The description of the row as an object. -/
def shape : Record FallbackRow :=
  ⟨"FallbackForm", slots, blank⟩

end FallbackRow

/-- One editable certificate. Inline certificates and keys have one line a line. -/
structure CertificateRow where
  /-- The path of the certificate. -/
  certificateFile : String
  /-- The path of the key. -/
  keyFile : String
  /-- The lines of an inline certificate. -/
  certificate : String
  /-- The lines of an inline key. -/
  key : String
  deriving DecidableEq, Repr

namespace CertificateRow

/-- The fields by name, in their order. -/
def slots : List (Slot CertificateRow) :=
  [ .text "certificateFile" (·.certificateFile)
      (fun v r => { r with certificateFile := v }),
    .text "keyFile" (·.keyFile)
      (fun v r => { r with keyFile := v }),
    .text "certificate" (·.certificate)
      (fun v r => { r with certificate := v }),
    .text "key" (·.key)
      (fun v r => { r with key := v }) ]

/-- A row with nothing in it. -/
def blank : CertificateRow where
  certificateFile := ""
  keyFile := ""
  certificate := ""
  key := ""

/-- The description of the row as an object. -/
def shape : Record CertificateRow :=
  ⟨"CertificateForm", slots, blank⟩

end CertificateRow

/-- One editable account of a plain proxy. -/
structure AccountRow where
  /-- The user name. -/
  user : String
  /-- The password. -/
  pass : String
  deriving DecidableEq, Repr

namespace AccountRow

/-- The fields by name, in their order. -/
def slots : List (Slot AccountRow) :=
  [ .text "user" (·.user)
      (fun v r => { r with user := v }),
    .text "pass" (·.pass)
      (fun v r => { r with pass := v }) ]

/-- A row with nothing in it. -/
def blank : AccountRow where
  user := ""
  pass := ""

/-- The description of the row as an object. -/
def shape : Record AccountRow :=
  ⟨"AccountForm", slots, blank⟩

end AccountRow

end ProxyInbound
