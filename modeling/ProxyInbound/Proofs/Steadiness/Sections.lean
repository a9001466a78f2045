import ProxyInbound.Proofs.Reopening.Hosts
import ProxyInbound.Proofs.Reopening.Security
import ProxyInbound.Proofs.Reopening.Settings

/-!
# Sections that are steady

A group of fields is steady if saving it once more after it was opened writes the same section. What
a section left out returns from the template and is written then, so a group is steady exactly when
it says something wherever the template does. Records, lists and headers are steady by themselves.
-/

namespace ProxyInbound

open Text.White Text.Parts Text.Numeral Wire HeaderMap

/-! ## Fields -/

/-- A text that a new form leaves empty is saved again as it was. -/
theorem nonBlank?_getD_of_blank {template s : String} (h : blank template = true) :
    nonBlank? ((nonBlank? s).getD template) = nonBlank? s :=
  nonBlank?_getD_nonBlank?_iff.mpr (Or.inr h)

/-- A text that a new form fills is saved again as it was exactly when it was saved. -/
theorem nonBlank?_getD_iff {template s : String} (h : blank template = false) :
    nonBlank? ((nonBlank? s).getD template) = nonBlank? s ↔ blank s = false := by
  rw [nonBlank?_getD_nonBlank?_iff, h]
  simp

/-- A numeral that a new form leaves empty is saved again as it was. -/
theorem unsigned?_wordText_of_none {template s : String} (h : unsigned? template = none) :
    unsigned? (wordText (unsigned? s) template) = unsigned? s := by
  cases hs : unsigned? s with
  | none => exact h
  | some w => exact unsigned?_unsignedText w

/-- A numeral that a new form fills is saved again as it was exactly when it was saved. -/
theorem unsigned?_wordText_iff {template s : String} (h : (unsigned? template).isSome = true) :
    unsigned? (wordText (unsigned? s) template) = unsigned? s ↔
      (unsigned? s).isSome = true := by
  cases hs : unsigned? s with
  | none =>
    rw [wordText, Option.map_none, Option.getD_none, Option.isSome_none]
    constructor
    · intro hnone
      rw [hnone] at h
      exact h
    · intro hfalse
      cases hfalse
  | some w => simp [wordText]

/-- A signed numeral that a new form leaves empty is saved again as it was. -/
theorem signed?_signedWordText_of_none {template s : String} (h : signed? template = none) :
    signed? (signedWordText (signed? s) template) = signed? s := by
  cases hs : signed? s with
  | none => exact h
  | some w => exact signed?_signedText w

/-! ## Protocol settings -/

/-- A finished fallback is saved again as it was. -/
theorem Wire.Fallback.ofRow?_toRow {row : FallbackRow} {f : Fallback} (h : ofRow? row = some f) :
    ofRow? f.toRow = some f := by
  unfold ofRow? at h
  split at h <;> rename_i hdest
  · obtain rfl := Option.some.inj h
    obtain ⟨port, hport⟩ := Option.isSome_iff_exists.mp hdest
    have hport' : Port.ofText? row.dest = some port := hport
    have hxver := unsigned?_wordText_of_none (s := row.xver) unsigned?_empty
    rw [wordText] at hxver
    have hsame : ofRow (ofRow row).toRow = ofRow row := by
      simp [ofRow, toRow, hport', Port.ofText?_toText hport', hxver,
        nonBlank?_getD_of_blank blank_empty]
    rw [ofRow?, hsame, if_pos hdest]
  · cases h

/-- The fallbacks of rows are saved again as they were. -/
@[simp] theorem FallbackRow.ofRows_reopened (rows : List FallbackRow) :
    Fallback.ofRows (reopened rows) = Fallback.ofRows rows := by
  rw [reopened, Fallback.ofRows_eq, Fallback.ofRows_eq]
  exact filterMap_map_filterMap Fallback.ofRow? Fallback.toRow
    (fun _ _ => Fallback.ofRow?_toRow) rows

/-- An account that names a user is saved again as it was. -/
theorem Wire.Account.ofRow?_toRow {row : AccountRow} {a : Account} (h : ofRow? row = some a) :
    ofRow? a.toRow = some a := by
  unfold ofRow? at h
  split at h <;> rename_i huser
  · cases h
  · obtain rfl := Option.some.inj h
    simp [ofRow?, toRow, huser, nonBlank?_getD_of_blank blank_empty]

/-- The accounts of rows are saved again as they were. -/
@[simp] theorem AccountRow.filterMap_reopened (rows : List AccountRow) :
    (reopened rows).filterMap Account.ofRow? = rows.filterMap Account.ofRow? := by
  rw [reopened, Account.fillRows]
  split <;> rename_i hempty
  · rw [List.isEmpty_iff.mp hempty]
    decide
  · exact filterMap_map_filterMap Account.ofRow? Account.toRow
      (fun _ _ => Account.ofRow?_toRow) rows

/-- Fields of a Shadowsocks inbound that are saved again as they were. -/
@[mk_iff] structure ShadowsocksForm.Steady (f : ShadowsocksForm) : Prop where
  /-- The cipher is given. -/
  method : blank f.method = false
  /-- The networks are given. -/
  network : blank f.network = false

/-! ## Sniffing and socket options -/

/-- The sniffing block is saved again as it was exactly when a kind of traffic is given or it is
disabled. -/
theorem SniffingForm.ofForm_reopened_iff (f : SniffingForm) :
    Sniffing.ofForm f.reopened = Sniffing.ofForm f ↔ (f.enabled = true → f.saved ≠ []) := by
  have hsaved : (f.saved.map trim).filter (· ≠ "") = f.saved := by
    have hall : ∀ d ∈ f.saved, trim d = d ∧ d ≠ "" := by
      intro d hd
      obtain ⟨hmem, hne⟩ := List.mem_filter.mp hd
      obtain ⟨given, _, rfl⟩ := List.mem_map.mp hmem
      exact ⟨trim_trim given, by simpa using hne⟩
    exact (saved_eq_iff { f with destinations := f.saved }).mpr hall
  rw [reopened]
  by_cases henabled : f.enabled = true
  · rw [if_pos henabled, forall_prop_of_true henabled]
    simp only [Sniffing.ofForm, henabled, if_true, Sniffing.mk.injEq, true_and, and_true]
    rw [← saved]
    split <;> rename_i hnil
    · rw [hnil]
      constructor
      · intro h
        exact absurd h (by decide)
      · intro h
        exact absurd rfl h
    · exact ⟨fun _ => hnil, fun _ => hsaved⟩
  · rw [if_neg henabled]
    simp [Sniffing.ofForm, henabled]

/-- Socket options that are saved again as they were. -/
@[mk_iff] structure SockoptForm.Steady (f : SockoptForm) : Prop where
  /-- The mode is given. -/
  tproxy : blank f.tproxy = false
  /-- The strategy is given. -/
  domainStrategy : blank f.domainStrategy = false

/-- The socket options are saved again as they were exactly when they are steady. -/
theorem SockoptForm.ofForm_reopened_iff {f : SockoptForm} (henabled : f.enabled = true) :
    Sockopt.ofForm f.reopened = Sockopt.ofForm f ↔ f.Steady := by
  rw [reopened, if_pos henabled]
  simp (disch := decide) only [Sockopt.fill, Sockopt.ofForm, Sockopt.mk.injEq, steady_iff,
    Option.getD_some, nonBlank?_getD_iff, nonBlank?_getD_of_blank, unsigned?_wordText_of_none,
    signed?_signedWordText_of_none, true_and, and_true]

/-! ## Security -/

/-- A certificate that holds something is saved again as it was. -/
theorem Wire.Certificate.ofRow?_toRow {row : CertificateRow} {c : Certificate}
    (h : ofRow? row = some c) : ofRow? c.toRow = some c := by
  rw [ofRow?] at h
  split at h <;> rename_i hempty
  · cases h
  · obtain rfl := Option.some.inj h
    simp only [ofRow?, toRow, lines_join_lines, nonBlank?_getD_of_blank blank_empty,
      if_neg hempty]

/-- The settings of TLS are saved again as they were. -/
@[simp] theorem TlsForm.ofForm_reopened (f : TlsForm) : Tls.ofForm f.reopened = Tls.ofForm f := by
  have hrows : f.reopened.certificateRows.filterMap Certificate.ofRow? =
      f.certificateRows.filterMap Certificate.ofRow? := by
    have hagain := filterMap_map_filterMap Certificate.ofRow? Certificate.toRow
      (fun _ _ => Certificate.ofRow?_toRow) f.certificateRows
    rw [← laidOut] at hagain
    rw [reopened_eq, ← hagain]
    cases f.laidOut with
    | nil =>
      have hnone : Certificate.ofRow? CertificateRow.blank = none := by decide
      exact List.filterMap_cons_none hnone
    | cons row rest => rfl
  rw [certificateRows, certificateRows] at hrows
  rw [Tls.ofForm, hrows, reopened_eq]
  simp (disch := decide) only [nonBlank?_getD_of_blank, values_join_values, Tls.ofForm]

/-- The client parameters are saved again as they were. -/
theorem Wire.RealityClient.ofForm?_reopened {f g : RealityForm}
    (hpublic : g.publicKey = (nonBlank? f.publicKey).getD "")
    (hfingerprint : g.fingerprint = (nonBlank? f.fingerprint).getD "")
    (hspider : g.spiderX = (nonBlank? f.spiderX).getD "") : ofForm? g = ofForm? f := by
  have hblank (s : String) : blank ((nonBlank? s).getD "") = blank s := by
    cases h : blank s with
    | false => rw [nonBlank?_of_not_blank h, Option.getD_some, h]
    | true => rw [nonBlank?_of_blank h, Option.getD_none, blank_empty]
  simp only [ofForm?, hpublic, hfingerprint, hspider, hblank,
    nonBlank?_getD_of_blank blank_empty]

/-- The settings of REALITY are saved again as they were. -/
@[simp] theorem RealityForm.ofForm_reopened (f : RealityForm) :
    Reality.ofForm f.reopened = Reality.ofForm f := by
  rw [reopened_eq, Reality.ofForm, RealityClient.ofForm?_reopened rfl rfl rfl]
  simp (disch := decide) only [Reality.ofForm, nonBlank?_getD_of_blank, values_join_values,
    unsigned?_wordText_of_none]

/-! ## Networks -/

/-- Fields of the KCP network that are saved again as they were. -/
@[mk_iff] structure KcpForm.Steady (f : KcpForm) : Prop where
  /-- The packet size is a numeral. -/
  mtu : (unsigned? f.mtu).isSome = true
  /-- The interval is a numeral. -/
  tti : (unsigned? f.tti).isSome = true
  /-- The capacity upward is a numeral. -/
  uplinkCapacity : (unsigned? f.uplinkCapacity).isSome = true
  /-- The capacity downward is a numeral. -/
  downlinkCapacity : (unsigned? f.downlinkCapacity).isSome = true
  /-- The size of the read buffer is a numeral. -/
  readBufferSize : (unsigned? f.readBufferSize).isSome = true
  /-- The size of the write buffer is a numeral. -/
  writeBufferSize : (unsigned? f.writeBufferSize).isSome = true
  /-- The kind of disguise is given. -/
  headerType : blank f.headerType = false

/-- The fields of the KCP network are saved again as they were exactly when they are steady. -/
theorem KcpForm.ofForm_reopened_iff (f : KcpForm) :
    Kcp.ofForm f.reopened = Kcp.ofForm f ↔ f.Steady := by
  simp (disch := decide) only [reopened, Kcp.fill, Kcp.ofForm, Kcp.mk.injEq, steady_iff,
    nonBlank?_getD_iff, nonBlank?_getD_of_blank, unsigned?_wordText_iff, Option.getD_some,
    true_and, and_true]

/-- Fields of the QUIC network that are saved again as they were. -/
@[mk_iff] structure QuicForm.Steady (f : QuicForm) : Prop where
  /-- The cipher is given. -/
  security : blank f.security = false
  /-- The kind of disguise is given. -/
  headerType : blank f.headerType = false

/-- The fields of the QUIC network are saved again as they were exactly when they are steady. -/
theorem QuicForm.ofForm_reopened_iff (f : QuicForm) :
    Quic.ofForm f.reopened = Quic.ofForm f ↔ f.Steady := by
  simp (disch := decide) only [reopened, Quic.fill, Quic.ofForm, Quic.mk.injEq, steady_iff,
    nonBlank?_getD_iff, nonBlank?_getD_of_blank, true_and]

/-- The fields of the gRPC network are saved again as they were. -/
@[simp] theorem GrpcForm.ofForm_reopened (f : GrpcForm) :
    Grpc.ofForm f.reopened = Grpc.ofForm f := by
  simp (disch := decide) only [reopened, Grpc.fill, Grpc.ofForm, nonBlank?_getD_of_blank,
    Option.getD_some]

/-- The fields of the domain socket network are saved again as they were. -/
@[simp] theorem DomainSocketForm.ofForm_reopened (f : DomainSocketForm) :
    DomainSocket.ofForm f.reopened = DomainSocket.ofForm f := by
  simp (disch := decide) only [reopened, DomainSocket.fill, DomainSocket.ofForm,
    nonBlank?_getD_of_blank, Option.getD_some]

/-- The fields of the HTTP/2 network are saved again as they were exactly when the path is
given. -/
theorem HttpForm.ofForm_reopened_iff (f : HttpForm) :
    Http.ofForm f.reopened = Http.ofForm f ↔ blank f.path = false := by
  simp (disch := decide) only [reopened, Http.fill, Http.ofForm, Http.mk.injEq,
    values_join_values, nonBlank?_getD_iff, nonBlank?_getD_of_blank, ofRows?_editRows_ofRows?,
    true_and, and_true]

/-- The host and the headers beside it are saved again as they were. -/
@[simp] theorem hostOfForm_hostOfForm (host : String) (rows : List HeaderRow) :
    hostOfForm ((hostOfForm host rows).1.getD "") (editRows (hostOfForm host rows).2) =
      hostOfForm host rows := by
  have hsaved := saved_ofRows rows
  have hfilled := hsaved.toParted.toFilled
  have hleft : (liftedHeaders (nonBlank? host) (ofRows rows)).Saved := by
    unfold liftedHeaders
    split
    · exact hsaved
    · exact hsaved.dropHost.putHosts fun v hv =>
        hsaved.toParted.isPart_of_firstHostValues (List.mem_of_mem_tail hv)
  have hhost : nonBlank? (((nonBlank? host).or (ofRows rows).firstHostValues.head?).getD "") =
      (nonBlank? host).or (ofRows rows).firstHostValues.head? := by
    cases hlifted : (nonBlank? host).or (ofRows rows).firstHostValues.head? with
    | none => rfl
    | some v => exact nonBlank?_of_not_blank (not_blank_of_lifted hlifted)
  rw [hostOfForm_eq host rows, editRows_nonEmpty?, hostOfForm, ofRows?_eq,
    ofRows_editRows hleft.toParted, hleft.regroup_eq, hhost, liftHost_liftHost hfilled]

/-- The fields of the HTTP upgrade network are saved again as they were exactly when the path is
given. -/
theorem HttpUpgradeForm.ofForm_reopened_iff (f : HttpUpgradeForm) :
    HttpUpgrade.ofForm f.reopened = HttpUpgrade.ofForm f ↔ blank f.path = false := by
  have hhost := hostOfForm_hostOfForm f.host f.headers
  simp (disch := decide) only [reopened, HttpUpgrade.fill, HttpUpgrade.ofForm,
    HttpUpgrade.mk.injEq, nonBlank?_getD_iff, Option.getD_some, true_and]
  rw [show HttpUpgradeForm.template.host = "" from rfl, hhost]
  exact ⟨And.left, fun h => ⟨h, rfl, rfl⟩⟩

/-- Fields of the split HTTP network that are saved again as they were. -/
@[mk_iff] structure SplitHttpForm.Steady (f : SplitHttpForm) : Prop where
  /-- The path is given. -/
  path : blank f.path = false
  /-- The number of uploads is given. -/
  maxConcurrentPosts : blank f.maxConcurrentPosts = false
  /-- The size of an upload is given. -/
  maxEachPostBytes : blank f.maxEachPostBytes = false
  /-- The time between uploads is given. -/
  minPostsIntervalMs : blank f.minPostsIntervalMs = false
  /-- The size of the padding is given. -/
  paddingBytes : blank f.paddingBytes = false

/-- The fields of the split HTTP network are saved again as they were exactly when they are
steady. -/
theorem SplitHttpForm.ofForm_reopened_iff (f : SplitHttpForm) :
    SplitHttp.ofForm f.reopened = SplitHttp.ofForm f ↔ f.Steady := by
  have hhost := hostOfForm_hostOfForm f.host f.headers
  simp (disch := decide) only [reopened, SplitHttp.fill, SplitHttp.ofForm, SplitHttp.mk.injEq,
    nonBlank?_getD_iff, Option.getD_some, steady_iff, and_true]
  rw [show SplitHttpForm.template.host = "" from rfl, hhost]
  constructor
  · rintro ⟨hpath, _, _, h⟩
    exact ⟨hpath, h⟩
  · rintro ⟨hpath, h⟩
    exact ⟨hpath, rfl, rfl, h⟩

end ProxyInbound
