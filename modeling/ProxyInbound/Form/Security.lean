import ProxyInbound.Form.Rows

/-!
# Form fields of the securities

TLS and REALITY each have a group of fields.
-/

namespace ProxyInbound

open Json

/-- The fields of TLS. The first certificate has fields of its own; further ones are rows. -/
structure TlsForm where
  /-- The name of the server. -/
  serverName : String
  /-- The negotiated protocols, several values. -/
  alpn : String
  /-- The least version. -/
  minVersion : String
  /-- The greatest version. -/
  maxVersion : String
  /-- Whether unknown server names are rejected. -/
  rejectUnknownSni : Bool
  /-- The path of the first certificate. -/
  certificateFile : String
  /-- The path of the first key. -/
  keyFile : String
  /-- The lines of the first inline certificate. -/
  certificate : String
  /-- The lines of the first inline key. -/
  key : String
  /-- The certificates after the first. -/
  extraCertificates : List CertificateRow
  deriving DecidableEq, Repr

namespace TlsForm

/-- The fields by name, in their order. -/
def slots : List (Slot TlsForm) :=
  [ .text "tlsServerName" (·.serverName)
      (fun v r => { r with serverName := v }),
    .text "tlsAlpn" (·.alpn)
      (fun v r => { r with alpn := v }),
    .text "tlsMinVersion" (·.minVersion)
      (fun v r => { r with minVersion := v }),
    .text "tlsMaxVersion" (·.maxVersion)
      (fun v r => { r with maxVersion := v }),
    .flag "tlsRejectUnknownSni" (·.rejectUnknownSni)
      (fun v r => { r with rejectUnknownSni := v }),
    .text "tlsCertificateFile" (·.certificateFile)
      (fun v r => { r with certificateFile := v }),
    .text "tlsKeyFile" (·.keyFile)
      (fun v r => { r with keyFile := v }),
    .text "tlsCertificate" (·.certificate)
      (fun v r => { r with certificate := v }),
    .text "tlsKey" (·.key)
      (fun v r => { r with key := v }),
    .rows CertificateRow.shape "tlsExtraCertificates" (·.extraCertificates)
      (fun v r => { r with extraCertificates := v }) ]

/-- What a new form holds. -/
def template : TlsForm where
  serverName := ""
  alpn := ""
  minVersion := ""
  maxVersion := ""
  rejectUnknownSni := false
  certificateFile := ""
  keyFile := ""
  certificate := ""
  key := ""
  extraCertificates := []

end TlsForm

/-- The fields of REALITY, those of its clients included. -/
structure RealityForm where
  /-- Whether debug output is shown. -/
  showDebug : Bool
  /-- The disguise destination. -/
  dest : String
  /-- The version of the proxy protocol that is sent, a numeral. -/
  xver : String
  /-- The accepted server names, several values. -/
  serverNames : String
  /-- The private key. -/
  privateKey : String
  /-- The accepted short identifiers, several values. -/
  shortIds : String
  /-- The greatest accepted time difference, a numeral. -/
  maxTimeDiff : String
  /-- The least client version. -/
  minClientVer : String
  /-- The greatest client version. -/
  maxClientVer : String
  /-- The public key given to clients. -/
  publicKey : String
  /-- The fingerprint given to clients. -/
  fingerprint : String
  /-- The crawl path given to clients. -/
  spiderX : String
  deriving DecidableEq, Repr

namespace RealityForm

/-- The fields by name, in their order. -/
def slots : List (Slot RealityForm) :=
  [ .flag "realityShow" (·.showDebug)
      (fun v r => { r with showDebug := v }),
    .text "realityDest" (·.dest)
      (fun v r => { r with dest := v }),
    .text "realityXver" (·.xver)
      (fun v r => { r with xver := v }),
    .text "realityServerNames" (·.serverNames)
      (fun v r => { r with serverNames := v }),
    .text "realityPrivateKey" (·.privateKey)
      (fun v r => { r with privateKey := v }),
    .text "realityShortIds" (·.shortIds)
      (fun v r => { r with shortIds := v }),
    .text "realityMaxTimeDiff" (·.maxTimeDiff)
      (fun v r => { r with maxTimeDiff := v }),
    .text "realityMinClientVer" (·.minClientVer)
      (fun v r => { r with minClientVer := v }),
    .text "realityMaxClientVer" (·.maxClientVer)
      (fun v r => { r with maxClientVer := v }),
    .text "realityPublicKey" (·.publicKey)
      (fun v r => { r with publicKey := v }),
    .text "realityFingerprint" (·.fingerprint)
      (fun v r => { r with fingerprint := v }),
    .text "realitySpiderX" (·.spiderX)
      (fun v r => { r with spiderX := v }) ]

/-- What a new form holds. -/
def template : RealityForm where
  showDebug := false
  dest := ""
  xver := ""
  serverNames := ""
  privateKey := ""
  shortIds := ""
  maxTimeDiff := ""
  minClientVer := ""
  maxClientVer := ""
  publicKey := ""
  fingerprint := ""
  spiderX := ""

end RealityForm

end ProxyInbound
