import ProxyInbound.Proofs.Reopening.Form

/-!
# Settled forms

A form is settled if every group that it uses is settled. Saving a form and opening what was saved
gives the form back, up to the groups that it does not use, exactly when it is settled.
-/

namespace ProxyInbound

open Text.White Wire

/-- Two choices between a value and a default are the same exactly when the values are, where they
are chosen. -/
theorem ite_eq_ite_iff {c d : Prop} [Decidable c] [Decidable d] {x y default : α} (h : c ↔ d) :
    (if c then x else default) = (if d then y else default) ↔ (c → x = y) := by
  by_cases hc : c
  · simp [hc, h.mp hc]
  · simp [hc, mt h.mpr hc]

namespace Form

/-- Forms with the same selections use the same exactly when they agree in every group that they
select. -/
theorem selected_eq_iff {a b : Form} (hp : a.protocol = b.protocol)
    (hn : a.network = b.network) (hs : a.security = b.security) :
    a.selected = b.selected ↔
      a.tag = b.tag ∧ a.listen = b.listen ∧ a.port = b.port ∧
      (a.protocol = .vless → a.vlessDecryption = b.vlessDecryption) ∧
      (a.protocol = .vless ∨ a.protocol = .trojan → a.fallbacks = b.fallbacks) ∧
      (a.protocol = .shadowsocks → a.shadowsocks = b.shadowsocks) ∧
      (a.protocol = .http ∨ a.protocol = .socks → a.accounts = b.accounts) ∧
      (a.protocol = .http → a.httpAllowTransparent = b.httpAllowTransparent) ∧
      (a.protocol = .socks → a.socks = b.socks) ∧
      a.sniffing = b.sniffing ∧
      (a.UsesNetwork .tcp → a.tcp = b.tcp) ∧
      (a.UsesNetwork .kcp → a.kcp = b.kcp) ∧
      (a.UsesNetwork .ws → a.ws = b.ws) ∧
      (a.UsesNetwork .http → a.http = b.http) ∧
      (a.UsesNetwork .quic → a.quic = b.quic) ∧
      (a.UsesNetwork .grpc → a.grpc = b.grpc) ∧
      (a.UsesNetwork .httpUpgrade → a.httpUpgrade = b.httpUpgrade) ∧
      (a.UsesNetwork .splitHttp → a.splitHttp = b.splitHttp) ∧
      (a.UsesNetwork .domainSocket → a.domainSocket = b.domainSocket) ∧
      (a.UsesSecurity .tls → a.tls = b.tls) ∧
      (a.UsesSecurity .reality → a.reality = b.reality) ∧
      (a.protocol.hasStream = true → a.sockopt = b.sockopt) := by
  have hnetwork (n : Network) : a.UsesNetwork n ↔ b.UsesNetwork n := by
    rw [UsesNetwork, UsesNetwork, hp, hn]
  have hsecurity (s : Security) : a.UsesSecurity s ↔ b.UsesSecurity s := by
    rw [UsesSecurity, UsesSecurity, hp, hs]
  simp (disch := simp only [hp, hnetwork, hsecurity]) only [selected, mk.injEq, ite_eq_ite_iff]
  simp only [hp, hn, hs, true_and, implies_true]

/-- The form with those parts of its groups that are switched on. -/
def switchedOn (form : Form) : Form :=
  { form with
    tcp := form.tcp.active
    sniffing := form.sniffing.active
    sockopt := form.sockopt.active }

/-- The form with the fields that count and every other field as in a new form. -/
def active (form : Form) : Form :=
  form.switchedOn.selected

/-- A form whose fields that count are settled. -/
@[mk_iff] structure Settled (form : Form) : Prop where
  /-- The address is saved or empty. -/
  listen : SettledText template.listen form.listen
  /-- The port is the text of the port it names. -/
  port : (Port.ofText form.port).toText = form.port
  /-- The decryption of VLESS is saved. -/
  vlessDecryption :
    form.protocol = .vless → SettledText template.vlessDecryption form.vlessDecryption
  /-- The fallbacks of VLESS and Trojan are finished and settled. -/
  fallbacks :
    form.protocol = .vless ∨ form.protocol = .trojan → ∀ row ∈ form.fallbacks, row.Settled
  /-- The fields of Shadowsocks are settled. -/
  shadowsocks : form.protocol = .shadowsocks → form.shadowsocks.Settled
  /-- The accounts of HTTP and SOCKS are settled. -/
  accounts :
    form.protocol = .http ∨ form.protocol = .socks → AccountRow.SettledRows form.accounts
  /-- The fields of SOCKS are settled. -/
  socks : form.protocol = .socks → form.socks.Settled
  /-- The fields of sniffing are settled while it is enabled. -/
  sniffing : form.sniffing.enabled = true → form.sniffing.Settled
  /-- The fields of the TCP network are settled if it is used. -/
  tcp : form.UsesNetwork .tcp → form.tcp.Settled
  /-- The fields of the KCP network are settled if it is used. -/
  kcp : form.UsesNetwork .kcp → form.kcp.Settled
  /-- The fields of the WebSocket network are settled if it is used. -/
  ws : form.UsesNetwork .ws → form.ws.Settled
  /-- The fields of the HTTP/2 network are settled if it is used. -/
  http : form.UsesNetwork .http → form.http.Settled
  /-- The fields of the QUIC network are settled if it is used. -/
  quic : form.UsesNetwork .quic → form.quic.Settled
  /-- The fields of the gRPC network are settled if it is used. -/
  grpc : form.UsesNetwork .grpc → form.grpc.Settled
  /-- The fields of the HTTP upgrade network are settled if it is used. -/
  httpUpgrade : form.UsesNetwork .httpUpgrade → form.httpUpgrade.Settled
  /-- The fields of the split HTTP network are settled if it is used. -/
  splitHttp : form.UsesNetwork .splitHttp → form.splitHttp.Settled
  /-- The fields of the domain socket network are settled if it is used. -/
  domainSocket : form.UsesNetwork .domainSocket → form.domainSocket.Settled
  /-- The fields of TLS are settled if it is used. -/
  tls : form.UsesSecurity .tls → form.tls.Settled
  /-- The fields of REALITY are settled if it is used. -/
  reality : form.UsesSecurity .reality → form.reality.Settled
  /-- The socket options are settled if they are used and enabled. -/
  sockopt : form.protocol.hasStream = true → form.sockopt.enabled = true → form.sockopt.Settled

/-- Saving a form and opening what was saved gives the fields that count as they were, and every
other field as in a new form, exactly when the form is settled. -/
theorem parse_serialize_eq_active_iff (form : Form) :
    Conversion.parse (Conversion.serialize form) = form.active ↔ form.Settled := by
  rw [Conversion.parse_serialize, settled_iff, active,
    selected_eq_iff (a := form.reopened) (b := form.switchedOn) rfl rfl rfl]
  simp (disch := decide) only [reopened, switchedOn, UsesNetwork, UsesSecurity,
    getD_nonBlank?_iff_settled, FallbackRow.reopened_eq_self_iff,
    AccountRow.reopened_eq_self_iff, ShadowsocksForm.reopened_eq_self_iff,
    SocksForm.reopened_eq_self_iff, SniffingForm.reopened_eq_active_iff,
    TcpForm.reopened_eq_active_iff, KcpForm.reopened_eq_self_iff,
    WsForm.reopened_eq_self_iff, HttpForm.reopened_eq_self_iff,
    QuicForm.reopened_eq_self_iff, GrpcForm.reopened_eq_self_iff,
    HttpUpgradeForm.reopened_eq_self_iff, SplitHttpForm.reopened_eq_self_iff,
    DomainSocketForm.reopened_eq_self_iff, TlsForm.reopened_eq_self_iff,
    RealityForm.reopened_eq_self_iff, SockoptForm.reopened_eq_active_iff, true_and,
    implies_true]

end Form

end ProxyInbound
