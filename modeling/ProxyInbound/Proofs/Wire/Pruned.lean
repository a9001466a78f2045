import ProxyInbound.Proofs.Json.Pruned
import ProxyInbound.Proofs.Wire.Settings
import ProxyInbound.Proofs.Wire.Transport
import ProxyInbound.Wire.Inbound

/-!
# Pruned sections

Every section that a form writes is pruned. A field of its own is left out if it is blank or empty;
the texts of a list are parts, which are never blank; and rows, certificates and headers that say
nothing are dropped before they are written.
-/

namespace ProxyInbound.Wire

open Json Text.White Text.Parts HeaderMap

/-! ## Fields -/

/-- A text that is present fits if it is not blank. -/
theorem fits_string {s : String} (h : blank s = false) : Fits (some (.string s)) :=
  fits_some h (pruned_of_scalarText? rfl)

/-- A text fits, since it is left out if it is blank. -/
theorem fits_textField (s : Option String) : Fits (textField s) := by
  intro v hv
  obtain ⟨t, ht, rfl⟩ := Option.map_eq_some_iff.mp hv
  obtain ⟨u, _, hu⟩ := Option.bind_eq_some_iff.mp ht
  obtain ⟨hvisible, rfl⟩ := nonBlank?_eq_some_iff.mp hu
  exact fits_string hvisible _ rfl

/-- A truth value fits. -/
theorem fits_bool (b : Bool) : Fits (some (.bool b)) :=
  fits_some rfl (pruned_of_scalarText? rfl)

/-- A truth value that is present fits. -/
theorem fits_flagField (b : Option Bool) : Fits (flagField b) := by
  cases b with
  | none => nofun
  | some b => exact fits_bool b

/-- An unsigned word fits. -/
theorem fits_wordField (w : Option UInt64) : Fits (wordField w) := by
  intro v hv
  obtain ⟨_, _, rfl⟩ := Option.map_eq_some_iff.mp hv
  exact ⟨rfl, pruned_of_scalarText? rfl⟩

/-- A signed word fits. -/
theorem fits_signedWordField (w : Option Int64) : Fits (signedWordField w) := by
  intro v hv
  obtain ⟨_, _, rfl⟩ := Option.map_eq_some_iff.mp hv
  exact ⟨rfl, pruned_of_scalarText? rfl⟩

/-- A sequence of texts is pruned if none is blank. -/
theorem pruned_texts {xs : List String} (h : ∀ x ∈ xs, blank x = false) : Pruned (texts xs) := by
  refine pruned_array fun v hv => ?_
  obtain ⟨x, hx, rfl⟩ := List.mem_map.mp hv
  exact ⟨⟨h x hx, nofun⟩, pruned_of_scalarText? rfl⟩

/-- A sequence of texts fits if none is blank, since it is left out if it is empty. -/
theorem fits_textsField {xs : List String} (h : ∀ x ∈ xs, blank x = false) :
    Fits (textsField xs) := by
  cases xs with
  | nil => nofun
  | cons x r => exact fits_some rfl (pruned_texts h)

/-- A sequence of objects fits if each is pruned and none is empty. -/
theorem fits_objectsField {toJson : α → Json} {xs : List α}
    (h : ∀ x ∈ xs, (toJson x).isObject = true ∧ toJson x ≠ object [] ∧ Pruned (toJson x)) :
    Fits (objectsField toJson xs) := by
  cases xs with
  | nil => nofun
  | cons x r =>
    refine fits_some rfl (pruned_array fun v hv => ?_)
    obtain ⟨y, hy, rfl⟩ := List.mem_map.mp hv
    obtain ⟨hobject, hne, hpruned⟩ := h y hy
    exact ⟨⟨isVoid_of_isObject hobject, hne⟩, hpruned⟩

/-- A section that is present fits if it is an object and pruned. -/
theorem fits_section {toJson : α → Json} {x : Option α}
    (h : ∀ y, x = some y → (toJson y).isVoid = false ∧ Pruned (toJson y)) :
    Fits (x.map toJson) := by
  intro v hv
  obtain ⟨y, hy, rfl⟩ := Option.map_eq_some_iff.mp hv
  exact h y hy

/-- A header value that holds something and nothing blank may stand under a key. -/
theorem pruned_headerValue {value : HeaderValue} (h : FilledValue value) :
    value.toJson.isVoid = false ∧ Pruned value.toJson := by
  obtain ⟨hne, hvisible⟩ := h
  cases value with
  | single v => exact ⟨hvisible v List.mem_cons_self, pruned_of_scalarText? rfl⟩
  | multi vs =>
    refine ⟨?_, pruned_texts hvisible⟩
    cases vs with
    | nil => exact absurd rfl hne
    | cons v r => rfl

/-- A map that can stand in rows is pruned. -/
theorem pruned_headers {m : HeaderMap} (h : Parted m) : Pruned m.toJson := by
  rw [toJson_eq_object]
  refine prunedExcept_object fun e he => ?_
  obtain ⟨d, hd, rfl⟩ := List.mem_map.mp he
  obtain ⟨htrim, hne⟩ := h.named d hd
  obtain ⟨hvoid, hpruned⟩ := pruned_headerValue (h.toFilled d hd)
  exact ⟨fun _ => ⟨(blank_eq_false_iff_of_trim htrim).mpr hne, hvoid⟩, hpruned⟩

/-- Headers fit if they can stand in rows. -/
theorem fits_headersField {m : HeaderMap} (h : Parted m) :
    Fits (headersField m.nonEmpty?) := by
  refine fits_section fun k hk => ?_
  have hsame : k = m := by rw [← m.getD_nonEmpty?, hk, Option.getD_some]
  exact ⟨rfl, hsame ▸ pruned_headers h⟩

/-- The headers of rows fit. -/
theorem fits_headersField_ofRows? (rows : List HeaderRow) :
    Fits (headersField (ofRows? rows)) :=
  fits_headersField (saved_ofRows rows).toParted

/-! ## Protocol settings and socket options -/

/-- The place of the clients in protocol settings. -/
def clientsPlace : List Place := [.member "clients"]

/-- The clients fit where they are exempt. -/
theorem fitsExcept_noClients : FitsExcept [clientsPlace] "clients" Settings.noClients := by
  intro v hv
  obtain rfl := Option.some.inj hv
  have hempty : Pruned (array []) := pruned_array nofun
  exact ⟨Or.inl List.mem_cons_self, hempty.prunedExcept _⟩

/-- A port is a number or a text that is not blank. -/
theorem fits_port {s : String} {p : Port} (h : Port.ofText? s = some p) : Fits (some p.toJson) := by
  have hvisible := Port.blank_toText h
  cases p with
  | number n => exact fits_some rfl (pruned_of_scalarText? rfl)
  | text t => exact fits_string hvisible

/-- The port of an inbound fits, zero for a blank text included. -/
theorem fits_ofText (s : String) : Fits (some (Port.ofText s).toJson) := by
  rw [Port.ofText]
  cases h : Port.ofText? s with
  | none => exact fits_some rfl (pruned_of_scalarText? rfl)
  | some p => exact fits_port h

/-- A fallback of a row is pruned. -/
theorem Fallback.pruned_toJson (row : FallbackRow) : Pruned (Fallback.ofRow row).toJson := by
  have hdest : Fits ((Fallback.ofRow row).dest.map Port.toJson) :=
    fits_section fun p hp => fits_port hp _ rfl
  have halpn : Fits (textsField (Fallback.ofRow row).alpn) :=
    fits_textsField fun _ hx => (isPart_of_mem_parts hx).not_blank
  refine pruned_ofFields (by simp +decide) ?_
  simp [hdest, halpn, fits_textField, fits_wordField]

/-- The fallbacks of rows fit, since each has a destination. -/
theorem Fallback.fits_ofRows (rows : List FallbackRow) :
    Fits (objectsField Fallback.toJson (Fallback.ofRows rows)) := by
  refine fits_objectsField fun f hf => ?_
  obtain ⟨hmem, hdest⟩ := List.mem_filter.mp hf
  obtain ⟨row, _, rfl⟩ := List.mem_map.mp hmem
  obtain ⟨p, hp⟩ := Option.isSome_iff_exists.mp hdest
  have hget : (Fallback.ofRow row).toJson.get? "dest" = some p.toJson := by
    simp [toJson, get?_ofFields, hp]
  exact ⟨rfl, ofFields_ne_empty hget, Fallback.pruned_toJson row⟩

/-- The accounts of rows fit, since each names a user. -/
theorem Account.fits_ofRows (rows : List AccountRow) :
    Fits (objectsField Account.toJson (rows.filterMap Account.ofRow?)) := by
  refine fits_objectsField fun a ha => ?_
  obtain ⟨row, _, hrow⟩ := List.mem_filterMap.mp ha
  unfold ofRow? at hrow
  split at hrow <;> rename_i hblank
  · cases hrow
  · obtain rfl := Option.some.inj hrow
    have huser : Fits (some (.string (trim row.user))) :=
      fits_string (by rwa [blank_trim, Bool.eq_false_iff])
    have hpruned : Pruned (toJson ⟨trim row.user, nonBlank? row.pass⟩) := by
      refine pruned_ofFields (by simp +decide) ?_
      simp [huser, fits_textField]
    have hget : (toJson ⟨trim row.user, nonBlank? row.pass⟩).get? "user" =
        some (.string (trim row.user)) := by simp [toJson, get?_ofFields]
    exact ⟨rfl, ofFields_ne_empty hget, hpruned⟩

/-- The settings of a form are pruned but for the clients. -/
theorem Settings.prunedExcept_toJson (form : Form) :
    PrunedExcept [clientsPlace] (Settings.ofForm form).toJson := by
  have hclients := fitsExcept_noClients
  have htext (s : Option String) (key : String) : FitsExcept [clientsPlace] key (textField s) :=
    (fits_textField s).fitsExcept _ key
  have hflag (b : Bool) (key : String) : FitsExcept [clientsPlace] key (some (.bool b)) :=
    (fits_bool b).fitsExcept _ key
  have hfallbacks := (Fallback.fits_ofRows form.fallbacks).fitsExcept [clientsPlace] "fallbacks"
  have haccounts := (Account.fits_ofRows form.accounts).fitsExcept [clientsPlace] "accounts"
  unfold ofForm
  cases form.protocol <;> refine prunedExcept_ofFields (by simp +decide) ?_ <;>
    simp [hclients, htext, hflag, hfallbacks, haccounts]

/-- The socket options of a form are pruned. -/
theorem Sockopt.pruned_toJson (f : SockoptForm) : Pruned (Sockopt.ofForm f).toJson := by
  refine pruned_ofFields (by simp +decide) ?_
  simp [fits_textField, fits_flagField, fits_wordField, fits_signedWordField]

/-- The sniffing block of a form is pruned. -/
theorem Sniffing.pruned_toJson (f : SniffingForm) : Pruned (Sniffing.ofForm f).toJson := by
  have hdestinations : ∀ x ∈ (Sniffing.ofForm f).destOverride, blank x = false := by
    unfold ofForm
    split
    · intro x hx
      obtain ⟨hmem, hne⟩ := List.mem_filter.mp hx
      obtain ⟨d, _, rfl⟩ := List.mem_map.mp hmem
      rw [blank_trim, blank_eq_false_iff_trim]
      exact of_decide_eq_true hne
    · exact nofun
  refine pruned_ofFields (by simp +decide) ?_
  simp [fits_textsField hdestinations, fits_flagField, fits_bool]

/-! ## Security -/

/-- A certificate that describes anything is written with a member. -/
theorem Certificate.toJson_ne_empty {row : CertificateRow} {c : Certificate}
    (h : Certificate.ofRow? row = some c) : c.toJson ≠ object [] := by
  rw [ofRow?] at h
  split at h <;> rename_i hempty
  · cases h
  · obtain rfl := Option.some.inj h
    intro hnil
    refine hempty ?_
    have hget (key : String) : (toJson ⟨nonBlank? row.certificateFile, nonBlank? row.keyFile,
        lines row.certificate, lines row.key⟩).get? key = none := by rw [hnil]; rfl
    have hfile := hget "certificateFile"
    have hkeyFile := hget "keyFile"
    have hlines := hget "certificate"
    have hkey := hget "key"
    simp [toJson, get?_ofFields, textField, textsField_eq_none_iff] at hfile hkeyFile hlines hkey
    rw [hfile, hkeyFile, hlines, hkey, empty]

/-- A certificate of a row is pruned. -/
theorem Certificate.pruned_toJson {row : CertificateRow} {c : Certificate}
    (h : Certificate.ofRow? row = some c) : Pruned c.toJson := by
  rw [ofRow?] at h
  split at h
  · cases h
  · obtain rfl := Option.some.inj h
    have hlines (s : String) : Fits (textsField (lines s)) :=
      fits_textsField fun _ hx => (isPart_of_mem_parts hx).not_blank
    refine pruned_ofFields (by simp +decide) ?_
    simp [fits_textField, hlines]

/-- The values of a text fit. -/
theorem fits_values (s : String) : Fits (textsField (values s)) :=
  fits_textsField fun _ => not_blank_of_mem_values

/-- The settings of TLS that a form describes are pruned. -/
theorem Tls.pruned_toJson (f : TlsForm) : Pruned (Tls.ofForm f).toJson := by
  have hcertificates : Fits (objectsField Certificate.toJson (Tls.ofForm f).certificates) := by
    refine fits_objectsField fun c hc => ?_
    obtain ⟨row, _, hrow⟩ := List.mem_filterMap.mp hc
    exact ⟨rfl, Certificate.toJson_ne_empty hrow, Certificate.pruned_toJson hrow⟩
  refine pruned_ofFields (by simp +decide) ?_
  simp only [ofForm] at hcertificates ⊢
  simp [fits_textField, fits_flagField, fits_values, hcertificates]

/-- The parameters of clients are pruned. -/
theorem RealityClient.pruned_toJson (c : RealityClient) : Pruned c.toJson := by
  refine pruned_ofFields (by simp +decide) ?_
  simp [fits_textField]

/-- The settings of REALITY that a form describes are pruned. -/
theorem Reality.pruned_toJson (f : RealityForm) : Pruned (Reality.ofForm f).toJson := by
  have hclient : Fits ((Reality.ofForm f).client.map RealityClient.toJson) :=
    fits_section fun c _ => ⟨rfl, RealityClient.pruned_toJson c⟩
  refine pruned_ofFields (by simp +decide) ?_
  simp only [ofForm] at hclient ⊢
  simp [fits_textField, fits_flagField, fits_wordField, fits_values, hclient]

/-- The settings of the security of a form are a pruned object. -/
theorem SecuritySettings.pruned_toJson {form : Form} {s : SecuritySettings}
    (h : SecuritySettings.ofForm? form = some s) : Fits (some s.toJson) := by
  unfold ofForm? at h
  cases hs : form.security <;> rw [hs] at h
  case none => cases h
  case tls =>
    obtain rfl := Option.some.inj h
    exact fits_some rfl (Tls.pruned_toJson form.tls)
  case reality =>
    obtain rfl := Option.some.inj h
    exact fits_some rfl (Reality.pruned_toJson form.reality)

/-! ## Networks -/

/-- A packet header fits if its kind is not blank. -/
theorem fits_packetHeaderField (kind : String) : Fits (packetHeaderField (nonBlank? kind)) := by
  refine fits_section fun k hk => ⟨rfl, ?_⟩
  obtain ⟨hvisible, rfl⟩ := nonBlank?_eq_some_iff.mp hk
  refine pruned_ofFields (by simp +decide) ?_
  simp [fits_string hvisible]

/-- The settings of the KCP network that a form describes are pruned. -/
theorem Kcp.pruned_toJson (f : KcpForm) : Pruned (Kcp.ofForm f).toJson := by
  refine pruned_ofFields (by simp +decide) ?_
  simp [ofForm, fits_textField, fits_flagField, fits_wordField, fits_packetHeaderField]

/-- The settings of the QUIC network that a form describes are pruned. -/
theorem Quic.pruned_toJson (f : QuicForm) : Pruned (Quic.ofForm f).toJson := by
  refine pruned_ofFields (by simp +decide) ?_
  simp [ofForm, fits_textField, fits_packetHeaderField]

/-- The settings of the gRPC network are pruned. -/
theorem Grpc.pruned_toJson (s : Grpc) : Pruned s.toJson := by
  refine pruned_ofFields (by simp +decide) ?_
  simp [fits_textField, fits_flagField]

/-- The settings of the domain socket network are pruned. -/
theorem DomainSocket.pruned_toJson (s : DomainSocket) : Pruned s.toJson := by
  refine pruned_ofFields (by simp +decide) ?_
  simp [fits_textField, fits_flagField]

/-- The settings of the HTTP/2 network that a form describes are pruned. -/
theorem Http.pruned_toJson (f : HttpForm) : Pruned (Http.ofForm f).toJson := by
  refine pruned_ofFields (by simp +decide) ?_
  simp [ofForm, fits_textField, fits_values, fits_headersField_ofRows?]

/-- The headers beside a host that is given or lifted fit. -/
theorem fits_hostOfForm (host : String) (rows : List HeaderRow) :
    Fits (headersField (hostOfForm host rows).2) := by
  rw [hostOfForm_eq]
  exact fits_headersField ((saved_ofRows rows).toParted.liftedHeaders _)

/-- The settings of the HTTP upgrade network that a form describes are pruned. -/
theorem HttpUpgrade.pruned_toJson (f : HttpUpgradeForm) : Pruned (HttpUpgrade.ofForm f).toJson := by
  refine pruned_ofFields (by simp +decide) ?_
  simp [ofForm, fits_textField, fits_flagField, fits_hostOfForm]

/-- The settings of the split HTTP network that a form describes are pruned. -/
theorem SplitHttp.pruned_toJson (f : SplitHttpForm) : Pruned (SplitHttp.ofForm f).toJson := by
  refine pruned_ofFields (by simp +decide) ?_
  simp [ofForm, fits_textField, fits_flagField, fits_hostOfForm]

/-- The settings of the WebSocket network that a form describes are pruned. -/
theorem Ws.pruned_toJson (f : WsForm) : Pruned (Ws.ofForm f).toJson := by
  have hheaders : Fits (headersField (Ws.ofForm f).headers) := by
    rw [headers_ofForm]
    exact fits_headersField (parted_headersOfForm f)
  refine pruned_ofFields (by simp +decide) ?_
  simp [hheaders, fits_textField, fits_flagField]

/-- The request of a disguise is pruned. -/
theorem TcpRequest.pruned_toJson (f : TcpForm) : Pruned (TcpRequest.ofForm f).toJson := by
  have hparted : (TcpRequest.headersOfForm f).Parted := by
    rw [headersOfForm_eq]
    exact (saved_ofRows f.headers).toParted.mergeHosts (fun _ => rfl)
      fun _ => isPart_isComma_of_mem_values
  refine pruned_ofFields (by simp +decide) ?_
  simp [ofForm, fits_textField, fits_values, fits_headersField hparted]

/-- The response of a disguise is pruned. -/
theorem TcpResponse.pruned_toJson {f : TcpForm} {r : TcpResponse}
    (h : TcpResponse.ofForm? f = some r) : Pruned r.toJson := by
  rw [ofForm?] at h
  split at h
  · cases h
  · obtain rfl := Option.some.inj h
    refine pruned_ofFields (by simp +decide) ?_
    simp [fits_textField, fits_headersField_ofRows?]

/-- The disguise of a form is pruned. -/
theorem TcpHeader.pruned_toJson {f : TcpForm} {h : TcpHeader} (hf : TcpHeader.ofForm? f = some h) :
    Pruned h.toJson := by
  have hresponse : Fits ((TcpResponse.ofForm? f).map TcpResponse.toJson) :=
    fits_section fun r hr => ⟨rfl, TcpResponse.pruned_toJson hr⟩
  have hrequest : Fits (some (TcpRequest.ofForm f).toJson) :=
    fits_some rfl (TcpRequest.pruned_toJson f)
  have hkind : Fits (some (.string httpKind)) := fits_string (by decide)
  unfold ofForm? at hf
  split at hf
  · obtain rfl := Option.some.inj hf
    refine pruned_ofFields (by simp +decide) ?_
    simp [hkind, hrequest, hresponse]
  · cases hf

/-- The settings of the TCP network that a form describes are pruned. -/
theorem Tcp.pruned_toJson (f : TcpForm) : Pruned (Tcp.ofForm f).toJson := by
  have hheader : Fits ((TcpHeader.ofForm? f).map TcpHeader.toJson) :=
    fits_section fun h hh => ⟨rfl, TcpHeader.pruned_toJson hh⟩
  refine pruned_ofFields (by simp +decide) ?_
  simp [ofForm, fits_flagField, hheader]

/-- The settings of the network of a form are a pruned object. -/
theorem Transport.pruned_toJson (form : Form) : Fits (some (Transport.ofForm form).toJson) := by
  unfold ofForm
  cases form.network with
  | tcp => exact fits_some rfl (Tcp.pruned_toJson form.tcp)
  | kcp => exact fits_some rfl (Kcp.pruned_toJson form.kcp)
  | ws => exact fits_some rfl (Ws.pruned_toJson form.ws)
  | http => exact fits_some rfl (Http.pruned_toJson form.http)
  | quic => exact fits_some rfl (Quic.pruned_toJson form.quic)
  | grpc => exact fits_some rfl (Grpc.pruned_toJson _)
  | httpUpgrade => exact fits_some rfl (HttpUpgrade.pruned_toJson form.httpUpgrade)
  | splitHttp => exact fits_some rfl (SplitHttp.pruned_toJson form.splitHttp)
  | domainSocket => exact fits_some rfl (DomainSocket.pruned_toJson _)

/-! ## Stream layers -/

/-- The stream layer of a form is pruned. -/
theorem Stream.pruned_toJson (form : Form) : Pruned (Stream.ofForm form).toJson := by
  have hnetwork (n : Network) : blank (Named.name n) = false ∧ blank n.settingsKey = false := by
    cases n <;> decide
  have hsecurity (s : Security) : blank (Named.name s) = false := by cases s <;> decide
  have hkey (s : SecuritySettings) : blank s.key = false := by
    cases s <;> rw [SecuritySettings.key] <;> decide
  have htransport := Transport.pruned_toJson form
  have hsockopt : Fits ((Stream.ofForm form).sockopt.map Sockopt.toJson) := by
    refine fits_section fun s hs => ⟨rfl, ?_⟩
    rw [ofForm] at hs
    split at hs
    · exact Option.some.inj hs ▸ Sockopt.pruned_toJson form.sockopt
    · cases hs
  have hsettings (s : SecuritySettings) (hs : (Stream.ofForm form).security = some s) :
      Fits (some s.toJson) := SecuritySettings.pruned_toJson hs
  rw [toJson]
  cases hs : (Stream.ofForm form).security with
  | none =>
    refine pruned_ofFields (by simp +decide [securityFields, hnetwork]) ?_
    simp [securityFields, fits_string, hnetwork, hsecurity, hsockopt]
    exact htransport
  | some s =>
    refine pruned_ofFields (by simp +decide [securityFields, hnetwork, hkey]) ?_
    simp [securityFields, fits_string, hnetwork, hsecurity, hsockopt, hsettings s hs]
    exact htransport

end ProxyInbound.Wire
