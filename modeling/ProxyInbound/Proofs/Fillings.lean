import ProxyInbound.Proofs.Form.Frames
import ProxyInbound.Proofs.Wire.Assignments

/-!
# The order in which sections are filled in

Each stored section writes a group of fields and looks at no field but those that it writes, each
for itself. So sections of different families can be filled in in either order, the settings of two
networks or of two securities in either order leave at most another selection, and filling in a
section twice is filling it in once.
-/

namespace ProxyInbound

open Json

/-- The kinds of sections that are filled into a form. -/
inductive Family where
  /-- The settings of a protocol. -/
  | settings
  /-- The settings of a network. -/
  | transport
  /-- The settings of a security. -/
  | security
  /-- Socket options. -/
  | sockopt
  /-- A sniffing block. -/
  | sniffing
  deriving DecidableEq, Repr

/-- A section that is filled into a form. -/
inductive Filling where
  /-- The settings of a protocol. -/
  | settings (s : Wire.Settings)
  /-- The settings of a network. -/
  | transport (t : Wire.Transport)
  /-- The settings of a security. -/
  | security (s : Wire.SecuritySettings)
  /-- Socket options. -/
  | sockopt (s : Wire.Sockopt)
  /-- A stored sniffing block. -/
  | sniffing (v : Json)

namespace Filling

/-- The form with the section filled in. -/
def apply (filling : Filling) (form : Form) : Form :=
  match filling with
  | settings s => s.fill form
  | transport t => t.fill form
  | security s => s.fill form
  | sockopt s => { form with sockopt := s.fill form.sockopt }
  | sniffing v => { form with sniffing := Wire.Sniffing.fillStored v form.sniffing }

/-- The family of the section. -/
def family : Filling → Family
  | settings _ => .settings
  | transport _ => .transport
  | security _ => .security
  | sockopt _ => .sockopt
  | sniffing _ => .sniffing

/-- The fields that the section may write. -/
def fieldNames : Filling → List String
  | settings s => s.protocol.fieldNames
  | transport t => "streamNetwork" :: t.network.fieldNames
  | security s => "streamSecurity" :: s.security.fieldNames
  | sockopt _ => names SockoptForm.slots
  | sniffing _ => names SniffingForm.slots

end Filling

namespace Wire

/-- Settings of a protocol write their fields, each for itself and once and for all. -/
theorem Settings.writes_fill (s : Settings) :
    Writes Form.slots s.protocol.fieldNames s.fill where
  frame := s.fill_frame
  apart h := by
    rw [Form.agreeOn_iff] at h ⊢
    cases s with
    | vmess => exact h
    | vless decryption fallbacks =>
      exact { h with
        vlessDecryption := fun hc => congrArg decryption.getD (h.vlessDecryption hc)
        fallbacks := fun _ => rfl }
    | trojan fallbacks => exact { h with fallbacks := fun _ => rfl }
    | shadowsocks method password network =>
      exact { h with
        shadowsocks := (shadowsocks_assignment method password network).agreeOn h.shadowsocks }
    | http accounts allowTransparent =>
      exact { h with
        accounts := fun hc => congrArg (Account.fillRows accounts) (h.accounts hc)
        httpAllowTransparent := fun _ => rfl }
    | socks auth accounts udp ip =>
      exact { h with
        accounts := fun hc => congrArg (Account.fillRows accounts) (h.accounts hc)
        socks := (socks_assignment auth udp ip).agreeOn h.socks }
  again form := by
    cases s with
    | vmess => rfl
    | vless decryption fallbacks => cases decryption <;> rfl
    | trojan fallbacks => rfl
    | shadowsocks method password network =>
      have hagain := (shadowsocks_assignment method password network).again ShadowsocksForm.lawful
      simp only [fill] at hagain ⊢
      rw [hagain]
    | http accounts allowTransparent => cases accounts <;> rfl
    | socks auth accounts udp ip =>
      have hagain := (socks_assignment auth udp ip).again SocksForm.lawful
      cases accounts <;> simp only [fill] <;> rw [hagain] <;> rfl

/-- Settings of a network write their fields, each for itself and once and for all. -/
theorem Transport.writes_fill (t : Transport) :
    Writes Form.slots ("streamNetwork" :: t.network.fieldNames) t.fill where
  frame := t.fill_frame
  apart h := by
    rw [Form.agreeOn_iff] at h ⊢
    cases t with
    | tcp s => exact { h with network := fun _ => rfl, tcp := s.fill_assignment.agreeOn h.tcp }
    | kcp s => exact { h with network := fun _ => rfl, kcp := s.fill_assignment.agreeOn h.kcp }
    | ws s => exact { h with network := fun _ => rfl, ws := s.fill_assignment.agreeOn h.ws }
    | http s => exact { h with network := fun _ => rfl, http := s.fill_assignment.agreeOn h.http }
    | quic s => exact { h with network := fun _ => rfl, quic := s.fill_assignment.agreeOn h.quic }
    | grpc s => exact { h with network := fun _ => rfl, grpc := s.fill_assignment.agreeOn h.grpc }
    | httpUpgrade s =>
      exact { h with
        network := fun _ => rfl
        httpUpgrade := s.fill_assignment.agreeOn h.httpUpgrade }
    | splitHttp s =>
      exact { h with
        network := fun _ => rfl
        splitHttp := s.fill_assignment.agreeOn h.splitHttp }
    | domainSocket s =>
      exact { h with
        network := fun _ => rfl
        domainSocket := s.fill_assignment.agreeOn h.domainSocket }
  again form := by
    cases t with
    | tcp s => simp only [fill, s.fill_assignment.again TcpForm.lawful]
    | kcp s => simp only [fill, s.fill_assignment.again KcpForm.lawful]
    | ws s => simp only [fill, s.fill_assignment.again WsForm.lawful]
    | http s => simp only [fill, s.fill_assignment.again HttpForm.lawful]
    | quic s => simp only [fill, s.fill_assignment.again QuicForm.lawful]
    | grpc s => simp only [fill, s.fill_assignment.again GrpcForm.lawful]
    | httpUpgrade s => simp only [fill, s.fill_assignment.again HttpUpgradeForm.lawful]
    | splitHttp s => simp only [fill, s.fill_assignment.again SplitHttpForm.lawful]
    | domainSocket s => simp only [fill, s.fill_assignment.again DomainSocketForm.lawful]

/-- Settings of a security write their fields, each for itself and once and for all. -/
theorem SecuritySettings.writes_fill (s : SecuritySettings) :
    Writes Form.slots ("streamSecurity" :: s.security.fieldNames) s.fill where
  frame := s.fill_frame
  apart h := by
    rw [Form.agreeOn_iff] at h ⊢
    cases s with
    | tls s => exact { h with security := fun _ => rfl, tls := s.fill_assignment.agreeOn h.tls }
    | reality s =>
      exact { h with security := fun _ => rfl, reality := s.fill_assignment.agreeOn h.reality }
  again form := by
    cases s with
    | tls s => simp only [fill, s.fill_assignment.again TlsForm.lawful]
    | reality s => simp only [fill, s.fill_assignment.again RealityForm.lawful]

/-- Socket options write their fields, each for itself and once and for all. -/
theorem Sockopt.writes_fill (s : Sockopt) :
    Writes Form.slots (names SockoptForm.slots)
      fun form => { form with sockopt := s.fill form.sockopt } where
  frame form := by
    rw [Form.agreeOn_iff]
    exact { Form.Same.refl _ form with sockopt := .outside (List.Subset.refl _) _ _ }
  apart h := by
    rw [Form.agreeOn_iff] at h ⊢
    exact { h with sockopt := s.fill_assignment.agreeOn h.sockopt }
  again form := by
    simp only [s.fill_assignment.again SockoptForm.lawful]

/-- A stored sniffing block writes its fields, each for itself and once and for all. -/
theorem Sniffing.writes_fillStored (v : Json) :
    Writes Form.slots (names SniffingForm.slots)
      fun form => { form with sniffing := fillStored v form.sniffing } where
  frame form := by
    rw [Form.agreeOn_iff]
    exact { Form.Same.refl _ form with sniffing := .outside (List.Subset.refl _) _ _ }
  apart h := by
    rw [Form.agreeOn_iff] at h ⊢
    exact { h with sniffing := (fillStored_assignment v).agreeOn h.sniffing }
  again form := by
    simp only [(fillStored_assignment v).again SniffingForm.lawful]

end Wire

namespace Filling

/-- Filling in a section writes its fields, each for itself and once and for all. -/
theorem writes_apply (filling : Filling) :
    Writes Form.slots filling.fieldNames filling.apply := by
  cases filling with
  | settings s => exact s.writes_fill
  | transport t => exact t.writes_fill
  | security s => exact s.writes_fill
  | sockopt s => exact s.writes_fill
  | sniffing v => exact Wire.Sniffing.writes_fillStored v

end Filling

/-! ## Fields that no two sections share -/

/-- The fields that the sections of a family write. -/
def Family.fieldNames : Family → List String
  | settings => (Named.all : List Protocol).flatMap Protocol.fieldNames
  | transport => "streamNetwork" :: (Named.all : List Network).flatMap Network.fieldNames
  | security => "streamSecurity" :: (Named.all : List Security).flatMap Security.fieldNames
  | sockopt => names SockoptForm.slots
  | sniffing => names SniffingForm.slots

/-- No field is written by sections of two families. -/
theorem Family.disjoint_fieldNames {a b : Family} (h : a ≠ b) :
    a.fieldNames.Disjoint b.fieldNames := by
  have hall : ∀ a ∈ [settings, transport, security, sockopt, sniffing],
      ∀ b ∈ [settings, transport, security, sockopt, sniffing], a ≠ b →
        ∀ n ∈ a.fieldNames, n ∉ b.fieldNames := by decide +kernel
  exact fun n ha hb => hall a (by cases a <;> decide) b (by cases b <;> decide) h n ha hb

/-- No field is used by two networks. -/
theorem Network.disjoint_fieldNames {a b : Network} (h : a ≠ b) :
    a.fieldNames.Disjoint b.fieldNames := by
  have hall : ∀ a ∈ (Named.all : List Network), ∀ b ∈ (Named.all : List Network), a ≠ b →
      ∀ n ∈ a.fieldNames, n ∉ b.fieldNames := by decide +kernel
  exact fun n ha hb => hall a a.mem_all b b.mem_all h n ha hb

/-- No field is used by two securities. -/
theorem Security.disjoint_fieldNames {a b : Security} (h : a ≠ b) :
    a.fieldNames.Disjoint b.fieldNames := by
  have hall : ∀ a ∈ (Named.all : List Security), ∀ b ∈ (Named.all : List Security), a ≠ b →
      ∀ n ∈ a.fieldNames, n ∉ b.fieldNames := by decide +kernel
  exact fun n ha hb => hall a a.mem_all b b.mem_all h n ha hb

namespace Filling

/-- A section writes fields of its family. -/
theorem fieldNames_subset (filling : Filling) : filling.fieldNames ⊆ filling.family.fieldNames := by
  cases filling with
  | settings s => exact fun n hn => List.mem_flatMap.mpr ⟨_, s.protocol.mem_all, hn⟩
  | transport t =>
    exact List.cons_subset_cons _ fun n hn => List.mem_flatMap.mpr ⟨_, t.network.mem_all, hn⟩
  | security s =>
    exact List.cons_subset_cons _ fun n hn => List.mem_flatMap.mpr ⟨_, s.security.mem_all, hn⟩
  | sockopt s => exact List.Subset.refl _
  | sniffing v => exact List.Subset.refl _

/-- Sections of different families write no field in common. -/
theorem disjoint_fieldNames {a b : Filling} (h : a.family ≠ b.family) :
    a.fieldNames.Disjoint b.fieldNames :=
  fun _ ha hb => Family.disjoint_fieldNames h (a.fieldNames_subset ha) (b.fieldNames_subset hb)

/-- Filling in a section leaves the selected protocol. -/
theorem apply_protocol (filling : Filling) (form : Form) :
    (filling.apply form).protocol = form.protocol := by
  cases filling with
  | settings s => exact s.fill_protocol form
  | transport t => cases t <;> rfl
  | security s => cases s <;> rfl
  | sockopt s => rfl
  | sniffing v => rfl

/-- Lists with one name in common, and else apart, leave out any other name in one of them. -/
theorem not_mem_or_not_mem_cons {selection n : String} {a b : List String} (h : a.Disjoint b)
    (hn : n ≠ selection) : n ∉ selection :: a ∨ n ∉ selection :: b := by
  by_cases ha : n ∈ a
  · exact Or.inr (List.not_mem_cons_of_ne_of_not_mem hn (h ha))
  · exact Or.inl (List.not_mem_cons_of_ne_of_not_mem hn ha)

/-- Filling in a section changes only fields of its own and never the selected protocol; two
sections in either order give forms that differ at most in fields that both write, so sections of
different families give the same form, those of two networks differ at most in the selected network
and those of two securities in the selected security; and a section that is filled in twice is
filled in once. -/
theorem apply_frame_swap_again (form : Form) (a b : Filling) :
    (AgreeOn Form.slots (· ∉ a.fieldNames) (a.apply form) form ∧
      (a.apply form).protocol = form.protocol) ∧
    AgreeOn Form.slots (fun n => n ∉ a.fieldNames ∨ n ∉ b.fieldNames)
      (a.apply (b.apply form)) (b.apply (a.apply form)) ∧
    (a.family ≠ b.family → a.apply (b.apply form) = b.apply (a.apply form)) ∧
    (∀ s t : Wire.Transport, s.network ≠ t.network →
      AgreeOn Form.slots (· ≠ "streamNetwork") (s.fill (t.fill form)) (t.fill (s.fill form))) ∧
    (∀ s t : Wire.SecuritySettings, s.security ≠ t.security →
      AgreeOn Form.slots (· ≠ "streamSecurity") (s.fill (t.fill form)) (t.fill (s.fill form))) ∧
    a.apply (a.apply form) = a.apply form := by
  have ha := a.writes_apply
  have hb := b.writes_apply
  refine ⟨⟨ha.frame form, a.apply_protocol form⟩, ha.swap hb form, fun hfamily => ?_,
    fun s t hnetwork slot hslot hn => ?_, fun s t hsecurity slot hslot hn => ?_, ha.again form⟩
  · exact ha.comm hb Form.lawful (disjoint_fieldNames hfamily) form
  · have hapart := Network.disjoint_fieldNames hnetwork
    exact s.writes_fill.swap t.writes_fill form slot hslot (not_mem_or_not_mem_cons hapart hn)
  · have hapart := Security.disjoint_fieldNames hsecurity
    exact s.writes_fill.swap t.writes_fill form slot hslot (not_mem_or_not_mem_cons hapart hn)

/-- Stream settings that hold two networks and two securities. -/
def crowdedStream : Json :=
  object
    [ ("realitySettings", object [("dest", string "example.com:443"), ("xver", Json.word 1)]),
      ("tcpSettings", object [("acceptProxyProtocol", bool true)]),
      ("tlsSettings", object [("certificates", array [object [("keyFile", string "k.pem")]])]),
      ("wsSettings", object [("headers", object [("Host", string "a.example")])]) ]

/-- The sections of the stream settings are of different kinds, and their order does not matter but
for what is selected. -/
theorem apply_frame_swap_again_crowdedStream :
    let form := Form.defaults .trojan
    let ws := Wire.Transport.ofStored .ws crowdedStream
    let tcp := Wire.Transport.ofStored .tcp crowdedStream
    let tls := Wire.SecuritySettings.tls (.ofStored (crowdedStream.objectAt "tlsSettings"))
    let reality :=
      Wire.SecuritySettings.reality (.ofStored (crowdedStream.objectAt "realitySettings"))
    ((transport ws).family ≠ (security tls).family ∧
      (transport ws).apply ((security tls).apply form) =
        (security tls).apply ((transport ws).apply form)) ∧
    (ws.network ≠ tcp.network ∧
      AgreeOn Form.slots (· ≠ "streamNetwork") (ws.fill (tcp.fill form))
        (tcp.fill (ws.fill form))) ∧
    (tls.security ≠ reality.security ∧
      AgreeOn Form.slots (· ≠ "streamSecurity") (tls.fill (reality.fill form))
        (reality.fill (tls.fill form))) := by
  intro form ws tcp tls reality
  obtain ⟨_, _, hfamily, hnetwork, hsecurity, _⟩ :=
    apply_frame_swap_again form (.transport ws) (.security tls)
  have hws : (transport ws).family ≠ (security tls).family := by decide
  have htcp : ws.network ≠ tcp.network := by decide
  have htls : tls.security ≠ reality.security := by decide
  exact ⟨⟨hws, hfamily hws⟩, ⟨htcp, hnetwork ws tcp htcp⟩, ⟨htls, hsecurity tls reality htls⟩⟩

end Filling

end ProxyInbound
