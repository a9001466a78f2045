import ProxyInbound.Proofs.Form.Groups
import ProxyInbound.Wire.Inbound

/-!
# Fields that a section leaves alone

Filling in a stored section writes only the fields of the section: the settings of a protocol write
the fields of this protocol, those of a network its fields and the selection of the network, and
so on. Every other field of the form is what it was.
-/

namespace ProxyInbound.Wire

open Json

/-- Only the fields of the protocol are written when its settings are filled in. -/
theorem Settings.fill_frame (s : Settings) (form : Form) :
    AgreeOn Form.slots (· ∉ s.protocol.fieldNames) (s.fill form) form := by
  have hsame := Form.Same.refl (· ∉ s.protocol.fieldNames) form
  rw [Form.agreeOn_iff]
  cases s with
  | vmess => exact hsame
  | vless decryption fallbacks =>
    exact { hsame with
      vlessDecryption := absurd List.mem_cons_self
      fallbacks := absurd (List.mem_cons_of_mem _ List.mem_cons_self) }
  | trojan fallbacks => exact { hsame with fallbacks := absurd List.mem_cons_self }
  | shadowsocks method password network =>
    exact { hsame with shadowsocks := AgreeOn.outside (List.Subset.refl _) _ _ }
  | http accounts allowTransparent =>
    exact { hsame with
      accounts := absurd List.mem_cons_self
      httpAllowTransparent := absurd (List.mem_cons_of_mem _ List.mem_cons_self) }
  | socks auth accounts udp ip =>
    exact { hsame with
      accounts := absurd List.mem_cons_self
      socks := AgreeOn.outside (List.subset_cons_self _ _) _ _ }

/-- Only the fields of the network and its selection are written when its settings are filled
in. -/
theorem Transport.fill_frame (t : Transport) (form : Form) :
    AgreeOn Form.slots (· ∉ "streamNetwork" :: t.network.fieldNames) (t.fill form) form := by
  have hsame := Form.Same.refl (· ∉ "streamNetwork" :: t.network.fieldNames) form
  have hgroup := List.subset_cons_self "streamNetwork" t.network.fieldNames
  rw [Form.agreeOn_iff]
  have hselect {n n' : Network} :
      "streamNetwork" ∉ "streamNetwork" :: t.network.fieldNames → n = n' :=
    absurd List.mem_cons_self
  cases t with
  | tcp s => exact { hsame with network := hselect, tcp := .outside hgroup _ _ }
  | kcp s => exact { hsame with network := hselect, kcp := .outside hgroup _ _ }
  | ws s => exact { hsame with network := hselect, ws := .outside hgroup _ _ }
  | http s => exact { hsame with network := hselect, http := .outside hgroup _ _ }
  | quic s => exact { hsame with network := hselect, quic := .outside hgroup _ _ }
  | grpc s => exact { hsame with network := hselect, grpc := .outside hgroup _ _ }
  | httpUpgrade s => exact { hsame with network := hselect, httpUpgrade := .outside hgroup _ _ }
  | splitHttp s => exact { hsame with network := hselect, splitHttp := .outside hgroup _ _ }
  | domainSocket s => exact { hsame with network := hselect, domainSocket := .outside hgroup _ _ }

/-- Only the fields of the security and its selection are written when its settings are filled
in. -/
theorem SecuritySettings.fill_frame (s : SecuritySettings) (form : Form) :
    AgreeOn Form.slots (· ∉ "streamSecurity" :: s.security.fieldNames) (s.fill form) form := by
  have hsame := Form.Same.refl (· ∉ "streamSecurity" :: s.security.fieldNames) form
  have hgroup := List.subset_cons_self "streamSecurity" s.security.fieldNames
  rw [Form.agreeOn_iff]
  have hselect {t t' : Security} :
      "streamSecurity" ∉ "streamSecurity" :: s.security.fieldNames → t = t' :=
    absurd List.mem_cons_self
  cases s with
  | tls s => exact { hsame with security := hselect, tls := .outside hgroup _ _ }
  | reality s => exact { hsame with security := hselect, reality := .outside hgroup _ _ }

end ProxyInbound.Wire
