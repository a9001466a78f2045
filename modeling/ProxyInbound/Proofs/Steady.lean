import ProxyInbound.Proofs.Steadiness.Hosts
import ProxyInbound.Proofs.Wire.Injective

/-!
# Steady forms

A form is steady if every section that it writes is steady. Saving what opens from a stored form
writes the same inbound exactly when the form is steady, so normalizing a document once more changes
nothing exactly when the form of the document is steady.
-/

namespace ProxyInbound

open Text.White Wire

/-- The protocol settings are saved again as they were exactly when they say what a new form
says. -/
theorem Wire.Settings.ofForm_reopened_iff (form : Form) :
    ofForm form.reopened = ofForm form ↔
      (form.protocol = .vless → blank form.vlessDecryption = false) ∧
      (form.protocol = .shadowsocks → form.shadowsocks.Steady) ∧
      (form.protocol = .socks → blank form.socks.auth = false) := by
  have hprotocol : form.reopened.protocol = form.protocol := rfl
  rw [ofForm, ofForm, hprotocol]
  cases form.protocol with
  | vmess => simp
  | vless =>
    simp (disch := decide) only [Form.reopened, vless.injEq, nonBlank?_getD_iff,
      FallbackRow.ofRows_reopened]
    simp
  | trojan => simp [Form.reopened]
  | shadowsocks =>
    simp (disch := decide) only [Form.reopened, ShadowsocksForm.reopened, shadowsocks.injEq,
      nonBlank?_getD_iff, nonBlank?_getD_of_blank, ShadowsocksForm.steady_iff]
    simp
  | http => simp [Form.reopened]
  | socks =>
    simp (disch := decide) only [Form.reopened, SocksForm.reopened, socks.injEq,
      nonBlank?_getD_iff, nonBlank?_getD_of_blank, AccountRow.filterMap_reopened]
    simp

/-- The transport is saved again as it was exactly when the network is steady. -/
theorem Wire.Transport.ofForm_reopened_iff (form : Form) :
    ofForm form.reopened = ofForm form ↔
      (form.network = .tcp → form.tcp.headerType = TcpHeader.httpKind → form.tcp.SteadyHttp) ∧
      (form.network = .kcp → form.kcp.Steady) ∧
      (form.network = .ws → form.ws.Steady) ∧
      (form.network = .http → blank form.http.path = false) ∧
      (form.network = .quic → form.quic.Steady) ∧
      (form.network = .httpUpgrade → blank form.httpUpgrade.path = false) ∧
      (form.network = .splitHttp → form.splitHttp.Steady) := by
  have hnetwork : form.reopened.network = form.network := rfl
  rw [ofForm, ofForm, hnetwork]
  cases form.network <;>
    simp [Form.reopened, TcpForm.ofForm_reopened_iff, KcpForm.ofForm_reopened_iff,
      WsForm.ofForm_reopened_iff, HttpForm.ofForm_reopened_iff, QuicForm.ofForm_reopened_iff,
      HttpUpgradeForm.ofForm_reopened_iff, SplitHttpForm.ofForm_reopened_iff]

/-- The security is saved again as it was. -/
@[simp] theorem Wire.SecuritySettings.ofForm?_reopened (form : Form) :
    ofForm? form.reopened = ofForm? form := by
  have hsecurity : form.reopened.security = form.security := rfl
  rw [ofForm?, ofForm?, hsecurity]
  cases form.security <;> simp [Form.reopened]

/-- The stream layer is saved again as it was exactly when the network and the enabled socket
options are steady. -/
theorem Wire.Stream.ofForm_reopened_iff (form : Form) :
    ofForm form.reopened = ofForm form ↔
      Transport.ofForm form.reopened = Transport.ofForm form ∧
      (form.sockopt.enabled = true → form.sockopt.Steady) := by
  have hsockopt : form.reopened.sockopt = form.sockopt.reopened := rfl
  rw [ofForm, ofForm, mk.injEq, SecuritySettings.ofForm?_reopened, hsockopt]
  by_cases henabled : form.sockopt.enabled = true
  · have hstill : form.sockopt.reopened.enabled = true := by
      rw [SockoptForm.reopened, if_pos henabled]
      rfl
    rw [if_pos henabled, if_pos hstill, Option.some.injEq,
      SockoptForm.ofForm_reopened_iff henabled]
    simp [henabled]
  · have hstill : ¬ form.sockopt.reopened.enabled = true := by
      rw [SockoptForm.reopened, if_neg henabled]
      decide
    rw [if_neg henabled, if_neg hstill]
    simp [henabled]

namespace Form

/-- A form whose sections are saved again as they were. -/
@[mk_iff] structure Steady (form : Form) : Prop where
  /-- The decryption of VLESS is given. -/
  vlessDecryption : form.protocol = .vless → blank form.vlessDecryption = false
  /-- The cipher and the networks of Shadowsocks are given. -/
  shadowsocks : form.protocol = .shadowsocks → form.shadowsocks.Steady
  /-- The authentication of SOCKS is given. -/
  socks : form.protocol = .socks → blank form.socks.auth = false
  /-- A kind of traffic is given while sniffing is enabled. -/
  sniffing : form.sniffing.enabled = true → form.sniffing.saved ≠ []
  /-- An HTTP disguise of TCP is steady. -/
  tcp : form.UsesNetwork .tcp → form.tcp.headerType = TcpHeader.httpKind → form.tcp.SteadyHttp
  /-- The fields of the KCP network are steady if it is used. -/
  kcp : form.UsesNetwork .kcp → form.kcp.Steady
  /-- The fields of the WebSocket network are steady if it is used. -/
  ws : form.UsesNetwork .ws → form.ws.Steady
  /-- The path of the HTTP/2 network is given if it is used. -/
  http : form.UsesNetwork .http → blank form.http.path = false
  /-- The fields of the QUIC network are steady if it is used. -/
  quic : form.UsesNetwork .quic → form.quic.Steady
  /-- The path of the HTTP upgrade network is given if it is used. -/
  httpUpgrade : form.UsesNetwork .httpUpgrade → blank form.httpUpgrade.path = false
  /-- The fields of the split HTTP network are steady if it is used. -/
  splitHttp : form.UsesNetwork .splitHttp → form.splitHttp.Steady
  /-- The socket options are steady if they are used and enabled. -/
  sockopt : form.protocol.hasStream = true → form.sockopt.enabled = true → form.sockopt.Steady

/-- The inbound of a form is saved again as it was exactly when the form is steady. -/
theorem ofForm_reopened_iff (form : Form) :
    Inbound.ofForm form.reopened = Inbound.ofForm form ↔ form.Steady := by
  have hprotocol : form.reopened.protocol = form.protocol := rfl
  have hlisten : nonBlank? form.reopened.listen = nonBlank? form.listen :=
    nonBlank?_getD_of_blank blank_empty
  have hport : Port.ofText form.reopened.port = Port.ofText form.port :=
    Port.ofText_toText form.port
  have htag : form.reopened.tag = form.tag := rfl
  have hsniffing : form.reopened.sniffing = form.sniffing.reopened := rfl
  rw [Inbound.ofForm, Inbound.ofForm, Inbound.mk.injEq, hlisten, hport, hprotocol, htag, hsniffing,
    Settings.ofForm_reopened_iff, SniffingForm.ofForm_reopened_iff, steady_iff]
  cases hlayer : form.protocol.hasStream with
  | true =>
    simp only [if_true, Option.some.injEq, Stream.ofForm_reopened_iff,
      Transport.ofForm_reopened_iff, UsesNetwork, hlayer, true_and, forall_const]
    constructor
    · rintro ⟨⟨hvless, hss, hsocks⟩,
        ⟨⟨htcp, hkcp, hws, hhttp, hquic, hupgrade, hsplit⟩, hsockopt⟩, hsniffs⟩
      exact ⟨hvless, hss, hsocks, hsniffs, htcp, hkcp, hws, hhttp, hquic, hupgrade, hsplit,
        hsockopt⟩
    · rintro ⟨hvless, hss, hsocks, hsniffs, htcp, hkcp, hws, hhttp, hquic, hupgrade, hsplit,
        hsockopt⟩
      exact ⟨⟨hvless, hss, hsocks⟩,
        ⟨⟨htcp, hkcp, hws, hhttp, hquic, hupgrade, hsplit⟩, hsockopt⟩, hsniffs⟩
  | false =>
    simp [UsesNetwork, hlayer, and_assoc]

/-- A form writes the same inbound as the groups that it uses. -/
theorem ofForm_selected (form : Form) :
    Inbound.ofForm form.selected = Inbound.ofForm form := by
  have hprotocol : form.selected.protocol = form.protocol := rfl
  have hsettings : Settings.ofForm form.selected = Settings.ofForm form := by
    rw [Settings.ofForm, Settings.ofForm, hprotocol]
    cases h : form.protocol <;> simp [selected, h]
  -- without a stream layer the network and the security of the form are not selected
  have hstream (hlayer : form.protocol.hasStream = true) :
      Stream.ofForm form.selected = Stream.ofForm form := by
    have hnetwork : form.selected.network = form.network := if_pos hlayer
    have hsecurity : form.selected.security = form.security := if_pos hlayer
    have hsockopt : form.selected.sockopt = form.sockopt := if_pos hlayer
    have htransport : Transport.ofForm form.selected = Transport.ofForm form := by
      rw [Transport.ofForm, Transport.ofForm, hnetwork]
      cases h : form.network <;> simp [selected, UsesNetwork, hlayer, h]
    have hsecured : SecuritySettings.ofForm? form.selected = SecuritySettings.ofForm? form := by
      rw [SecuritySettings.ofForm?, SecuritySettings.ofForm?, hsecurity]
      cases h : form.security <;> simp [selected, UsesSecurity, hlayer, h]
    rw [Stream.ofForm, Stream.ofForm, htransport, hsecured, hsockopt]
  have hlayer : (if form.protocol.hasStream then some (Stream.ofForm form.selected) else none) =
      if form.protocol.hasStream then some (Stream.ofForm form) else none := by
    split <;> rename_i hlayer
    · rw [hstream hlayer]
    · rfl
  rw [Inbound.ofForm, hprotocol, hsettings, hlayer]
  rfl

end Form

namespace Conversion

/-- Normalizing a document once more changes nothing exactly when its form is steady. -/
theorem normalize_normalize_iff (w : Json) :
    normalize (normalize w) = normalize w ↔ (parse w).Steady := by
  rw [normalize, normalize, parse_serialize, serialize, Form.ofForm_selected, ← serialize,
    serialize_inj (a := (parse w).reopened) (b := parse w) rfl rfl rfl, Form.ofForm_reopened_iff]

/-- An inbound that sniffs for no kind of traffic. -/
def idleSniffer : Json :=
  Json.ofMembers [("sniffing",
    Json.ofMembers [("enabled", .bool true), ("destOverride", .array [])])]

/-- An empty list of kinds of traffic is left out, and the kinds of a new form take its place. -/
theorem normalize_normalize_idleSniffer_ne :
    normalize (normalize idleSniffer) ≠ normalize idleSniffer := by
  decide

end Conversion

end ProxyInbound
