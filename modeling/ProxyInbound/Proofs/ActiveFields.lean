import ProxyInbound.Proofs.Form.Fields
import ProxyInbound.Proofs.Form.Groups
import ProxyInbound.Proofs.Reopening.Form
import ProxyInbound.Proofs.Wire.Keys

/-!
# Active fields

What is saved of a form depends on its active fields alone: those of its protocol and, under a
protocol with a stream layer, those of its network and its security, sniffing and the socket
options as far as they are enabled, and the HTTP disguise of TCP as far as it is chosen. The fields
of everything that is not selected keep their values in the form and leave no trace in what is
saved, neither in a value nor as a key.
-/

namespace ProxyInbound

open Json Wire

namespace Form

/-- The active fields of the network: all of them, but those of an HTTP disguise only if TCP is
disguised as HTTP. -/
def networkNames (form : Form) : List String :=
  if form.network = .tcp ∧ form.tcp.headerType ≠ TcpHeader.httpKind then
    ["tcpAcceptProxyProtocol", "tcpHeaderType"]
  else form.network.fieldNames

/-- The active fields of the stream layer. -/
def streamNames (form : Form) : List String :=
  ["streamNetwork", "streamSecurity", "sockoptEnabled"] ++ form.networkNames ++
    form.security.fieldNames ++ if form.sockopt.enabled then names SockoptForm.slots else []

/-- The active fields of a form. -/
def activeNames (form : Form) : List String :=
  ["tag", "listen", "port", "protocol", "sniffingEnabled"] ++
    (if form.sniffing.enabled then names SniffingForm.slots else []) ++
    form.protocol.fieldNames ++ if form.protocol.hasStream then form.streamNames else []

end Form

/-! ## Sections of forms that agree -/

variable {counts : String → Prop} {f g : Form}

/-- Forms of one protocol that agree on its fields describe the same settings. -/
theorem Wire.Settings.ofForm_congr (h : Form.Same counts f g) (hprotocol : f.protocol = g.protocol)
    (hcounts : ∀ n ∈ f.protocol.fieldNames, counts n) : ofForm f = ofForm g := by
  unfold ofForm
  rw [← hprotocol]
  cases hp : f.protocol with
  | vmess => rfl
  | vless =>
    rw [hp] at hcounts
    have hdecryption := h.vlessDecryption (hcounts _ List.mem_cons_self)
    have hfallbacks := h.fallbacks (hcounts _ (List.mem_cons_of_mem _ List.mem_cons_self))
    rw [hdecryption, hfallbacks]
  | trojan =>
    rw [hp] at hcounts
    have hfallbacks := h.fallbacks (hcounts _ List.mem_cons_self)
    rw [hfallbacks]
  | shadowsocks =>
    rw [hp] at hcounts
    have hgroup := h.shadowsocks.eq ShadowsocksForm.lawful hcounts
    rw [hgroup]
  | http =>
    rw [hp] at hcounts
    have haccounts := h.accounts (hcounts _ List.mem_cons_self)
    have htransparent :=
      h.httpAllowTransparent (hcounts _ (List.mem_cons_of_mem _ List.mem_cons_self))
    rw [haccounts, htransparent]
  | socks =>
    rw [hp] at hcounts
    have haccounts := h.accounts (hcounts _ List.mem_cons_self)
    have hgroup := h.socks.eq SocksForm.lawful fun n hn => hcounts n (List.mem_cons_of_mem _ hn)
    rw [haccounts, hgroup]

/-- TCP without an HTTP disguise is described by its first two fields. -/
theorem Wire.Tcp.ofForm_congr {f g : TcpForm} (h : AgreeOn TcpForm.slots counts f g)
    (hproxy : counts "tcpAcceptProxyProtocol") (htype : counts "tcpHeaderType")
    (hhttp : f.headerType = TcpHeader.httpKind → ∀ n ∈ names TcpForm.slots, counts n) :
    ofForm f = ofForm g := by
  by_cases hdisguise : f.headerType = TcpHeader.httpKind
  · rw [h.eq TcpForm.lawful (hhttp hdisguise)]
  · simp only [AgreeOn, TcpForm.slots, List.forall_mem_cons] at h
    obtain ⟨haccept, hheader, _⟩ := h
    have hsame : f.headerType = g.headerType := hheader htype
    have hnone : TcpHeader.ofForm? f = none := if_neg hdisguise
    have hnone' : TcpHeader.ofForm? g = none := if_neg (hsame ▸ hdisguise)
    have hflag : f.acceptProxyProtocol = g.acceptProxyProtocol := haccept hproxy
    rw [ofForm, ofForm, hnone, hnone', hflag]

/-- Forms of one network that agree on its active fields describe the same transport. -/
theorem Wire.Transport.ofForm_congr (h : Form.Same counts f g) (hnetwork : f.network = g.network)
    (hcounts : ∀ n ∈ f.networkNames, counts n) : ofForm f = ofForm g := by
  rw [Form.networkNames] at hcounts
  unfold ofForm
  rw [← hnetwork]
  cases hn : f.network with
  | tcp =>
    rw [hn] at hcounts
    refine congrArg tcp (Tcp.ofForm_congr h.tcp ?_ ?_ fun hhttp => ?_)
    · refine hcounts _ ?_
      split <;> simp [Network.fieldNames, names, TcpForm.slots, Slot.flag]
    · refine hcounts _ ?_
      split <;> simp [Network.fieldNames, names, TcpForm.slots, Slot.text]
    · rwa [if_neg fun hother => hother.2 hhttp] at hcounts
  | kcp =>
    rw [hn] at hcounts
    exact congrArg (kcp <| Kcp.ofForm ·) (h.kcp.eq KcpForm.lawful hcounts)
  | ws =>
    rw [hn] at hcounts
    exact congrArg (ws <| Ws.ofForm ·) (h.ws.eq WsForm.lawful hcounts)
  | http =>
    rw [hn] at hcounts
    exact congrArg (http <| Http.ofForm ·) (h.http.eq HttpForm.lawful hcounts)
  | quic =>
    rw [hn] at hcounts
    exact congrArg (quic <| Quic.ofForm ·) (h.quic.eq QuicForm.lawful hcounts)
  | grpc =>
    rw [hn] at hcounts
    exact congrArg (grpc <| Grpc.ofForm ·) (h.grpc.eq GrpcForm.lawful hcounts)
  | httpUpgrade =>
    rw [hn] at hcounts
    exact congrArg (httpUpgrade <| HttpUpgrade.ofForm ·)
      (h.httpUpgrade.eq HttpUpgradeForm.lawful hcounts)
  | splitHttp =>
    rw [hn] at hcounts
    exact congrArg (splitHttp <| SplitHttp.ofForm ·) (h.splitHttp.eq SplitHttpForm.lawful hcounts)
  | domainSocket =>
    rw [hn] at hcounts
    exact congrArg (domainSocket <| DomainSocket.ofForm ·)
      (h.domainSocket.eq DomainSocketForm.lawful hcounts)

/-- Forms of one security that agree on its fields describe the same settings of it. -/
theorem Wire.SecuritySettings.ofForm?_congr (h : Form.Same counts f g)
    (hsecurity : f.security = g.security) (hcounts : ∀ n ∈ f.security.fieldNames, counts n) :
    ofForm? f = ofForm? g := by
  unfold ofForm?
  rw [← hsecurity]
  cases hs : f.security with
  | none => rfl
  | tls =>
    rw [hs] at hcounts
    exact congrArg (some <| tls <| Tls.ofForm ·) (h.tls.eq TlsForm.lawful hcounts)
  | reality =>
    rw [hs] at hcounts
    exact congrArg (some <| reality <| Reality.ofForm ·) (h.reality.eq RealityForm.lawful hcounts)

/-- Sniffing is described by its switch alone unless it is enabled. -/
theorem Wire.Sniffing.ofForm_congr {f g : SniffingForm} (h : AgreeOn SniffingForm.slots counts f g)
    (hswitch : counts "sniffingEnabled")
    (hcounts : f.enabled = true → ∀ n ∈ names SniffingForm.slots, counts n) :
    ofForm f = ofForm g := by
  have hsame : f.enabled = g.enabled := by
    simp only [AgreeOn, SniffingForm.slots, List.forall_mem_cons] at h
    exact h.1 hswitch
  by_cases henabled : f.enabled = true
  · rw [h.eq SniffingForm.lawful (hcounts henabled)]
  · have hoff : ofForm f = disabled := if_neg henabled
    have hoff' : ofForm g = disabled := if_neg (hsame ▸ henabled)
    rw [hoff, hoff']

/-- Socket options are described by their switch alone unless they are enabled. -/
theorem Wire.Sockopt.ofForm_congr {f g : SockoptForm} (h : AgreeOn SockoptForm.slots counts f g)
    (hswitch : counts "sockoptEnabled")
    (hcounts : f.enabled = true → ∀ n ∈ names SockoptForm.slots, counts n) :
    (if f.enabled then some (ofForm f) else none) =
      if g.enabled then some (ofForm g) else none := by
  have hsame : f.enabled = g.enabled := by
    simp only [AgreeOn, SockoptForm.slots, List.forall_mem_cons] at h
    exact h.1 hswitch
  by_cases henabled : f.enabled = true
  · rw [h.eq SockoptForm.lawful (hcounts henabled)]
  · rw [if_neg henabled, if_neg (hsame ▸ henabled)]

/-- Forms that agree on the active fields of their stream layer describe the same one. -/
theorem Wire.Stream.ofForm_congr (h : Form.Same counts f g)
    (hcounts : ∀ n ∈ f.streamNames, counts n) : ofForm f = ofForm g := by
  simp only [Form.streamNames, List.forall_mem_append, List.forall_mem_cons] at hcounts
  obtain ⟨⟨⟨⟨hnetwork, hsecurity, hswitch, _⟩, htransport⟩, hsettings⟩, hsockopt⟩ := hcounts
  have hoptions : f.sockopt.enabled = true → ∀ n ∈ names SockoptForm.slots, counts n := by
    intro henabled
    rwa [if_pos henabled] at hsockopt
  rw [ofForm, ofForm, Transport.ofForm_congr h (h.network hnetwork) htransport,
    SecuritySettings.ofForm?_congr h (h.security hsecurity) hsettings,
    Sockopt.ofForm_congr h.sockopt hswitch hoptions]

/-- Forms that agree on the active fields of one describe the same inbound. -/
theorem Wire.Inbound.ofForm_congr (h : Form.Same counts f g)
    (hcounts : ∀ n ∈ f.activeNames, counts n) : ofForm f = ofForm g := by
  simp only [Form.activeNames, List.forall_mem_append, List.forall_mem_cons] at hcounts
  obtain ⟨⟨⟨⟨htag, hlisten, hport, hprotocol, hswitch, _⟩, hsniffing⟩, hsettings⟩, hstream⟩ :=
    hcounts
  have hsame : f.protocol = g.protocol := h.protocol hprotocol
  have hblock : f.sniffing.enabled = true → ∀ n ∈ names SniffingForm.slots, counts n := by
    intro henabled
    rwa [if_pos henabled] at hsniffing
  have hlayer : (if f.protocol.hasStream then some (Stream.ofForm f) else none) =
      if g.protocol.hasStream then some (Stream.ofForm g) else none := by
    rw [← hsame]
    split <;> rename_i hlayer
    · rw [if_pos hlayer] at hstream
      rw [Stream.ofForm_congr h hstream]
    · rfl
  rw [ofForm, ofForm, h.tag htag, h.listen hlisten, h.port hport,
    Settings.ofForm_congr h hsame hsettings, hlayer,
    Sniffing.ofForm_congr h.sniffing hswitch hblock]

/-! ## What is saved -/

namespace Conversion

/-- A saved inbound has the sections that a form selects and no others. -/
structure SelectedOnly (form : Form) (w : Json) : Prop where
  /-- Only the plain proxies have no stream layer. -/
  streamless : w.get? "streamSettings" = none ↔ form.protocol = .http ∨ form.protocol = .socks
  /-- The stream layer has the keys that the form describes. -/
  stream_keys : ∀ stream, w.get? "streamSettings" = some stream →
    stream.isObject = true ∧ ∀ key, key ∈ stream.keys ↔ key ∈ form.streamKeys
  /-- Disabled sniffing is written as its switch alone. -/
  sniffing_off : form.sniffing.enabled = false →
    w.get? "sniffing" = some (.object [("enabled", .bool false)])
  /-- The settings have keys of the protocol. -/
  settings_keys : ∃ settings, w.get? "settings" = some settings ∧ settings.isObject = true ∧
    settings.keys ⊆ form.protocol.settingsKeys

/-- A form is saved with the sections that it selects. -/
theorem selectedOnly_serialize (form : Form) : SelectedOnly form (serialize form) := by
  obtain ⟨_, _, _, _, hsettings, hstream, hsniffing⟩ := get?_serialize form
  constructor
  · rw [hstream, Inbound.ofForm]
    cases form.protocol <;> simp [Protocol.hasStream]
  · intro stream hget
    rw [hstream, Inbound.ofForm] at hget
    obtain ⟨s, hs, rfl⟩ := Option.map_eq_some_iff.mp hget
    split at hs
    · obtain rfl := Option.some.inj hs
      exact ⟨rfl, Stream.mem_keys_toJson form⟩
    · cases hs
  · intro hoff
    have hdisabled : Sniffing.ofForm form.sniffing = Sniffing.disabled := by
      rw [Sniffing.ofForm, hoff, if_neg Bool.false_ne_true]
    rw [hsniffing, hdisabled]
    rfl
  · refine ⟨_, hsettings, Settings.isObject_toJson _, ?_⟩
    rw [← Settings.protocol_ofForm form]
    exact Settings.keys_toJson _

/-- What is saved of a form depends on its active fields alone, and it has the sections that the
form selects and no others. -/
theorem serialize_active (form : Form) :
    (∀ g, AgreeOn Form.slots (· ∈ form.activeNames) form g → serialize form = serialize g) ∧
      SelectedOnly form (serialize form) := by
  refine ⟨fun g hagree => ?_, selectedOnly_serialize form⟩
  have hinbound : Inbound.ofForm form = Inbound.ofForm g :=
    Inbound.ofForm_congr (Form.agreeOn_iff.mp hagree) fun _ hn => hn
  rw [serialize, serialize, hinbound]

/-- A form whose inactive fields hold what was typed while another protocol, another network and
an HTTP disguise were selected. -/
def leftoverForm : Form :=
  { Form.defaults .vless with
    shadowsocks := { ShadowsocksForm.template with password := "earlier" }
    tcp := { TcpForm.template with hosts := "earlier.example" }
    ws := { WsForm.template with path := "/earlier" } }

/-- Leftovers in inactive fields leave no trace. -/
theorem serialize_leftoverForm :
    AgreeOn Form.slots (· ∈ (Form.defaults .vless).activeNames) (Form.defaults .vless)
        leftoverForm ∧
      leftoverForm ≠ Form.defaults .vless ∧
      serialize (Form.defaults .vless) = serialize leftoverForm := by
  have htcp : AgreeOn TcpForm.slots (· ∈ (Form.defaults .vless).activeNames)
      (Form.defaults .vless).tcp leftoverForm.tcp := by
    simp only [AgreeOn, TcpForm.slots, List.forall_mem_cons]
    refine ⟨fun _ => rfl, fun _ => rfl, fun hosts => absurd hosts (by decide), ?_⟩
    simp [Slot.text, Slot.rows, Form.defaults, Form.template, leftoverForm]
  have hagree : AgreeOn Form.slots (· ∈ (Form.defaults .vless).activeNames)
      (Form.defaults .vless) leftoverForm :=
    Form.agreeOn_iff.mpr
      { Form.Same.refl _ (Form.defaults .vless) with
        shadowsocks := AgreeOn.of_none (by decide) _ _
        tcp := htcp
        ws := AgreeOn.of_none (by decide) _ _ }
  exact ⟨hagree, by decide, (serialize_active (Form.defaults .vless)).1 leftoverForm hagree⟩

end Conversion

end ProxyInbound
