import Mathlib.Tactic.MkIffOfInductiveProp
import ProxyInbound.Proofs.Reopening.Fields
import ProxyInbound.Wire.Security

/-!
# Security settings reopened

The fields of TLS and REALITY open as they were if their texts are saved, their lists have one
value a line and their numerals are written as words are. A certificate row that holds nothing is
left out, so either each certificate holds something or there is none at all.
-/

namespace ProxyInbound

open Text.White Text.Parts Text.Numeral Wire

/-! ## Certificates -/

/-- A certificate row that holds something and is settled in its fields. -/
@[mk_iff] structure CertificateRow.Settled (row : CertificateRow) : Prop where
  /-- There is something in the row. -/
  nonempty : row ≠ CertificateRow.blank
  /-- The path of the certificate is saved or empty. -/
  certificateFile : SettledText CertificateRow.blank.certificateFile row.certificateFile
  /-- The path of the key is saved or empty. -/
  keyFile : SettledText CertificateRow.blank.keyFile row.keyFile
  /-- The certificate has its lines and nothing else. -/
  certificate : row.certificate = join (lines row.certificate)
  /-- The key has its lines and nothing else. -/
  key : row.key = join (lines row.key)

/-- The certificate that a row holds, empty or not. -/
def Wire.Certificate.ofRow (row : CertificateRow) : Certificate where
  certificateFile := nonBlank? row.certificateFile
  keyFile := nonBlank? row.keyFile
  certificate := lines row.certificate
  key := lines row.key

/-- A blank row holds an empty certificate. -/
theorem Wire.Certificate.ofRow_blank : ofRow CertificateRow.blank = Certificate.empty := by
  decide

/-- A certificate row is laid out as it was exactly when it is settled. -/
theorem CertificateRow.map_toRow_iff (row : CertificateRow) :
    (Certificate.ofRow? row).map Certificate.toRow = some row ↔ row.Settled := by
  have hof : Certificate.ofRow? row =
      if Certificate.ofRow row = Certificate.empty then none
      else some (Certificate.ofRow row) := rfl
  have hfields : (Certificate.ofRow row).toRow = row ↔
      SettledText blank.certificateFile row.certificateFile ∧
        SettledText blank.keyFile row.keyFile ∧
        row.certificate = join (lines row.certificate) ∧
        row.key = join (lines row.key) := by
    obtain ⟨certificateFile, keyFile, certificate, key⟩ := row
    have hcertificate := getD_nonBlank?_iff_settled blank.certificateFile certificateFile
      (by decide)
    have hkey := getD_nonBlank?_iff_settled blank.keyFile keyFile (by decide)
    rw [← hcertificate, ← hkey, eq_comm (a := certificate), eq_comm (a := key)]
    simp only [Certificate.toRow, Certificate.ofRow, mk.injEq, blank]
  rw [settled_iff, ← hfields, hof]
  split <;> rename_i hempty
  · constructor
    · intro h
      cases h
    · rintro ⟨hne, h⟩
      rw [hempty] at h
      exact absurd h.symm hne
  · rw [Option.map_some, Option.some.injEq]
    refine ⟨fun h => ⟨?_, h⟩, And.right⟩
    rintro rfl
    exact hempty Certificate.ofRow_blank

/-! ## TLS -/

/-- The fields of TLS as they open. -/
def TlsForm.reopened (f : TlsForm) : TlsForm :=
  (Tls.ofForm f).fill template

/-- Certificates that open as they were: none at all, or each settled. -/
def TlsForm.SettledCertificates (f : TlsForm) : Prop :=
  Tls.firstRow f = CertificateRow.blank ∧ f.extraCertificates = [] ∨
    ∀ row ∈ Tls.firstRow f :: f.extraCertificates, row.Settled

/-- Fields of TLS that open as they were. -/
@[mk_iff] structure TlsForm.Settled (f : TlsForm) : Prop where
  /-- The name of the server is saved or empty. -/
  serverName : SettledText TlsForm.template.serverName f.serverName
  /-- The protocols have one value a line and nothing else. -/
  alpn : f.alpn = join (values f.alpn)
  /-- The least version is saved or empty. -/
  minVersion : SettledText TlsForm.template.minVersion f.minVersion
  /-- The greatest version is saved or empty. -/
  maxVersion : SettledText TlsForm.template.maxVersion f.maxVersion
  /-- The certificates are settled. -/
  certificates : f.SettledCertificates

/-- The certificates of a form as rows, the first among them. -/
def TlsForm.certificateRows (f : TlsForm) : List CertificateRow :=
  Tls.firstRow f :: f.extraCertificates

/-- The certificate rows that are laid out of those that hold something. -/
def TlsForm.laidOut (f : TlsForm) : List CertificateRow :=
  (f.certificateRows.filterMap Certificate.ofRow?).map Certificate.toRow

/-- Fields of TLS are the same if the certificates and all others are. -/
theorem TlsForm.eq_iff (f g : TlsForm) :
    f = g ↔ f.serverName = g.serverName ∧ f.alpn = g.alpn ∧ f.minVersion = g.minVersion ∧
      f.maxVersion = g.maxVersion ∧ f.rejectUnknownSni = g.rejectUnknownSni ∧
      f.certificateRows = g.certificateRows := by
  obtain ⟨_, _, _, _, _, _, _, _, _, _⟩ := f
  obtain ⟨_, _, _, _, _, _, _, _, _, _⟩ := g
  simp [certificateRows, Tls.firstRow, and_assoc]

/-- Certificates are laid out over a form without any: the first in its fields, if there is one,
and the others as rows. -/
theorem Wire.Tls.fillCertificates_eq {f : TlsForm} (h : firstRow f = CertificateRow.blank)
    (rows : List CertificateRow) :
    fillCertificates rows f =
      { setFirstRow (rows.headD CertificateRow.blank) f with extraCertificates := rows.tail } := by
  cases rows with
  | nil =>
    rw [List.headD_nil, ← h]
    rfl
  | cons row rest => rfl

/-- The fields of TLS that open, one by one. -/
theorem TlsForm.reopened_eq (f : TlsForm) :
    f.reopened =
      { Tls.setFirstRow (f.laidOut.headD CertificateRow.blank) template with
        serverName := (nonBlank? f.serverName).getD template.serverName
        alpn := join (values f.alpn)
        minVersion := (nonBlank? f.minVersion).getD template.minVersion
        maxVersion := (nonBlank? f.maxVersion).getD template.maxVersion
        rejectUnknownSni := f.rejectUnknownSni
        extraCertificates := f.laidOut.tail } := by
  rw [reopened, Tls.fill, Tls.fillCertificates_eq rfl]
  rfl

/-- The certificates that open are those that were exactly when they are settled. -/
theorem TlsForm.laidOut_iff (f : TlsForm) :
    f.laidOut.headD CertificateRow.blank :: f.laidOut.tail = f.certificateRows ↔
      f.SettledCertificates := by
  have hsettled : f.laidOut = f.certificateRows ↔ ∀ row ∈ f.certificateRows, row.Settled := by
    rw [laidOut, map_filterMap_eq_self_iff]
    simp only [CertificateRow.map_toRow_iff]
  rw [SettledCertificates, ← certificateRows, ← hsettled]
  cases hrows : f.laidOut with
  | nil =>
    rw [List.headD_nil, List.tail_nil, certificateRows, List.cons.injEq]
    constructor
    · rintro ⟨hfirst, hextra⟩
      exact Or.inl ⟨hfirst.symm, hextra.symm⟩
    · rintro (⟨hfirst, hextra⟩ | h)
      · exact ⟨hfirst.symm, hextra.symm⟩
      · cases h
  | cons row rest =>
    rw [List.headD_cons, List.tail_cons]
    refine ⟨Or.inr, ?_⟩
    rintro (⟨hfirst, hextra⟩ | h)
    · -- a single blank row would have been left out
      have hnone : Certificate.ofRow? CertificateRow.blank = none := by decide
      rw [laidOut, certificateRows, hfirst, hextra, List.filterMap_cons_none hnone] at hrows
      cases hrows
    · exact h

/-- The fields of TLS open as they were exactly when they are settled. -/
theorem TlsForm.reopened_eq_self_iff (f : TlsForm) : f.reopened = f ↔ f.Settled := by
  have hrows : f.reopened.certificateRows =
      f.laidOut.headD CertificateRow.blank :: f.laidOut.tail := by
    rw [reopened_eq]
    rfl
  rw [eq_iff, hrows, laidOut_iff, settled_iff, reopened_eq, eq_comm (a := f.alpn)]
  simp (disch := decide) only [getD_nonBlank?_iff_settled, true_and]

/-! ## REALITY -/

/-- The fields of REALITY as they open. -/
def RealityForm.reopened (f : RealityForm) : RealityForm :=
  (Reality.ofForm f).fill template

/-- Fields of REALITY that open as they were. -/
@[mk_iff] structure RealityForm.Settled (f : RealityForm) : Prop where
  /-- The destination is saved or empty. -/
  dest : SettledText RealityForm.template.dest f.dest
  /-- The version of the proxy protocol is a numeral or empty. -/
  xver : SettledWord RealityForm.template.xver f.xver
  /-- The server names have one value a line and nothing else. -/
  serverNames : f.serverNames = join (values f.serverNames)
  /-- The private key is saved or empty. -/
  privateKey : SettledText RealityForm.template.privateKey f.privateKey
  /-- The identifiers have one value a line and nothing else. -/
  shortIds : f.shortIds = join (values f.shortIds)
  /-- The time difference is a numeral or empty. -/
  maxTimeDiff : SettledWord RealityForm.template.maxTimeDiff f.maxTimeDiff
  /-- The least client version is saved or empty. -/
  minClientVer : SettledText RealityForm.template.minClientVer f.minClientVer
  /-- The greatest client version is saved or empty. -/
  maxClientVer : SettledText RealityForm.template.maxClientVer f.maxClientVer
  /-- The public key is saved or empty. -/
  publicKey : SettledText RealityForm.template.publicKey f.publicKey
  /-- The fingerprint is saved or empty. -/
  fingerprint : SettledText RealityForm.template.fingerprint f.fingerprint
  /-- The crawl path is saved or empty. -/
  spiderX : SettledText RealityForm.template.spiderX f.spiderX

/-- Client parameters that are left out are filled in like those that hold nothing. -/
theorem Wire.Reality.fillClient_ofForm? {f g : RealityForm}
    (h : g.publicKey = "" ∧ g.fingerprint = "" ∧ g.spiderX = "") :
    fillClient (RealityClient.ofForm? f) g =
      { g with
        publicKey := (nonBlank? f.publicKey).getD ""
        fingerprint := (nonBlank? f.fingerprint).getD ""
        spiderX := (nonBlank? f.spiderX).getD "" } := by
  obtain ⟨hpublic, hfingerprint, hspider⟩ := h
  unfold RealityClient.ofForm?
  split <;> rename_i hblank
  · rw [nonBlank?_of_blank hblank.1, nonBlank?_of_blank hblank.2.1,
      nonBlank?_of_blank hblank.2.2, Option.getD_none, ← hpublic]
    obtain ⟨_, _, _, _, _, _, _, _, _, _, _, _⟩ := g
    simp only at hpublic hfingerprint hspider
    rw [fillClient, hpublic, hfingerprint, hspider]
  · rw [fillClient, RealityClient.fill, hpublic, hfingerprint, hspider]

/-- The fields of REALITY that open, one by one. -/
theorem RealityForm.reopened_eq (f : RealityForm) :
    f.reopened =
      { showDebug := f.showDebug
        dest := (nonBlank? f.dest).getD template.dest
        xver := wordText (unsigned? f.xver) template.xver
        serverNames := join (values f.serverNames)
        privateKey := (nonBlank? f.privateKey).getD template.privateKey
        shortIds := join (values f.shortIds)
        maxTimeDiff := wordText (unsigned? f.maxTimeDiff) template.maxTimeDiff
        minClientVer := (nonBlank? f.minClientVer).getD template.minClientVer
        maxClientVer := (nonBlank? f.maxClientVer).getD template.maxClientVer
        publicKey := (nonBlank? f.publicKey).getD template.publicKey
        fingerprint := (nonBlank? f.fingerprint).getD template.fingerprint
        spiderX := (nonBlank? f.spiderX).getD template.spiderX } := by
  simp only [reopened, Reality.fill, Reality.ofForm]
  rw [Reality.fillClient_ofForm? ⟨rfl, rfl, rfl⟩]
  rfl

/-- The fields of REALITY open as they were exactly when they are settled. -/
theorem RealityForm.reopened_eq_self_iff (f : RealityForm) : f.reopened = f ↔ f.Settled := by
  rw [settled_iff, reopened_eq, eq_comm (a := f.serverNames), eq_comm (a := f.shortIds)]
  obtain ⟨_, _, _, _, _, _, _, _, _, _, _, _⟩ := f
  simp (disch := decide) only [mk.injEq, getD_nonBlank?_iff_settled, wordText_iff_settled,
    true_and]

end ProxyInbound
