import ProxyInbound.Proofs.Wire.Security
import ProxyInbound.Proofs.Wire.Settings
import ProxyInbound.Proofs.Wire.Transport
import ProxyInbound.Session

/-!
# Sections read back

The sections that are written of a form are read back as the form described them, whatever its
texts are. A WebSocket whose rows spell the host header in several ways, or whose host field holds
a host twice, is read with its hosts merged once more; every other section is read back as it is.
-/

namespace ProxyInbound.Session

open Wire Json Text.White Text.Parts HeaderMap

/-- Rows that spell the name of the host header in one way at most. -/
def OneHostSpelling (rows : List HeaderRow) : Prop :=
  ∀ a ∈ rows, ∀ b ∈ rows, isHost (trim a.name) = true → isHost (trim b.name) = true →
    trim a.name = trim b.name

/-- Rows that spell the host header in one way leave none when the first is dropped. -/
theorem hostFree_dropHost {rows : List HeaderRow} (h : OneHostSpelling rows) :
    (ofRows rows).dropHost.HostFree := by
  intro e he
  by_contra hhost
  rw [Bool.not_eq_false] at hhost
  have hrow {d : String × HeaderValue} (hd : d ∈ (ofRows rows).entries) :
      ∃ row ∈ rows, trim row.name = d.1 :=
    exists_row_of_valuesOf (mem_entries_ofRows hd).2.1
  cases hf : (ofRows rows).firstHost? with
  | none =>
    have hfree := firstHost?_eq_none_iff.mp hf e (mem_of_mem_dropHost he)
    rw [hhost] at hfree
    cases hfree
  | some d =>
    obtain ⟨hd, hdhost⟩ := mem_of_firstHost? hf
    rw [dropHost, hf] at he
    obtain ⟨hmem, hne⟩ := Entries.mem_remove_iff.mp he
    -- a second host header would come from a row with another spelling
    obtain ⟨a, ha, haname⟩ := hrow hmem
    obtain ⟨b, hb, hbname⟩ := hrow hd
    have hsame := h a ha b hb (haname ▸ hhost) (hbname ▸ hdhost)
    exact hne (haname ▸ hbname ▸ hsame)

/-- The written transport has its settings under their key. -/
theorem get?_transportJson (t : Transport) :
    (transportJson t).get? t.network.settingsKey = some t.toJson := by
  simp [transportJson, get?_ofMembers]

/-- The written security has its settings under their key. -/
theorem get?_securityJson (s : SecuritySettings) :
    (securityJson (some s)).get? s.key = some s.toJson := by
  simp [securityJson, get?_ofMembers]

/-- The transport of a form is read back, hosts merged once more for a WebSocket. -/
theorem ofStored_transportJson (form : Form) :
    Transport.ofStored form.network (transportJson (Transport.ofForm form)) =
      (Transport.ofForm form).reread :=
  Transport.ofStored_of_get? (Transport.network_ofForm form ▸ get?_transportJson _)

/-- Every section of a form is read back from its JSON. Only for a WebSocket the hosts have to be
different and the rows have to spell the host header in one way. -/
theorem sections_read_back (form : Form)
    (hws : form.network = .ws →
      (values form.ws.host).Nodup ∧ OneHostSpelling form.ws.headers) :
    Settings.ofStored form.protocol (Settings.ofForm form).toJson = Settings.ofForm form ∧
      Transport.ofStored form.network (transportJson (Transport.ofForm form)) =
        Transport.ofForm form ∧
      SecuritySettings.ofStored? form.security (securityJson (SecuritySettings.ofForm? form)) =
        SecuritySettings.ofForm? form ∧
      Sockopt.ofStored (Sockopt.ofForm form.sockopt).toJson = Sockopt.ofForm form.sockopt := by
  refine ⟨Settings.ofStored_toJson form, ?_, ?_, Sockopt.ofStored_toJson form.sockopt⟩
  · rw [ofStored_transportJson]
    by_cases hnetwork : form.network = .ws
    · obtain ⟨hnodup, hspelling⟩ := hws hnetwork
      have hreread := Ws.reread_ofForm (hostFree_dropHost hspelling).usualHost hnodup
      rw [Transport.ofForm, hnetwork]
      exact congrArg Transport.ws hreread
    · exact Transport.reread_of_ne_ws (Transport.network_ofForm form ▸ hnetwork)
  · refine SecuritySettings.ofStored?_of_get? fun s hs => ?_
    rw [hs]
    exact get?_securityJson s

/-- A VLESS form over a WebSocket with REALITY, with texts as they are typed: untrimmed, several
values in one row, a fallback without a destination and a numeral that is none. -/
def typedForm : Form :=
  { Form.template with
    network := .ws
    security := .reality
    vlessDecryption := " none "
    fallbacks := [⟨" 00443 ", "/x", " ", "h2, http/1.1", "+1"⟩, ⟨" ", "/y", "", "", "2"⟩]
    ws :=
      { WsForm.template with
        host := "b.example,a.example\n"
        headers := [⟨" HOST ", "a.example, c.example"⟩, ⟨"X-Id", "1,,2"⟩, ⟨"HOST", "d.example"⟩] }
    reality := { RealityForm.template with xver := "one", serverNames := "a,b", spiderX := "/" }
    sockopt := { SockoptForm.template with keepAliveIdle := "-5", mark := "" } }

/-- The sections of a form as it is typed are read back. -/
theorem typedForm_read_back :
    (typedForm.network = .ws →
      (values typedForm.ws.host).Nodup ∧ OneHostSpelling typedForm.ws.headers) ∧
    Settings.ofStored typedForm.protocol (Settings.ofForm typedForm).toJson =
      Settings.ofForm typedForm ∧
    Transport.ofStored typedForm.network (transportJson (Transport.ofForm typedForm)) =
      Transport.ofForm typedForm ∧
    SecuritySettings.ofStored? typedForm.security
        (securityJson (SecuritySettings.ofForm? typedForm)) =
      SecuritySettings.ofForm? typedForm ∧
    Sockopt.ofStored (Sockopt.ofForm typedForm.sockopt).toJson =
      Sockopt.ofForm typedForm.sockopt := by
  have hws : typedForm.network = .ws →
      (values typedForm.ws.host).Nodup ∧ OneHostSpelling typedForm.ws.headers := by
    intro _
    constructor
    · decide
    · unfold OneHostSpelling
      decide
  exact ⟨hws, sections_read_back typedForm hws⟩

end ProxyInbound.Session
