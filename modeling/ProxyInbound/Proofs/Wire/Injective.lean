import ProxyInbound.Proofs.Reopening.Form
import ProxyInbound.Proofs.ReadBack

/-!
# Stored inbounds determine what they were written from

Every value that an inbound is written from stands in one member of its JSON and is read back from
there. Two forms with the same protocol, network and security therefore write the same document
exactly when they write the same inbound, although what is empty is left out.
-/

namespace ProxyInbound

open Text.White Text.Parts Text.Numeral Wire Json

/-- The JSON of a port determines the port. -/
theorem Wire.Port.toJson_inj {a b : Port} : a.toJson = b.toJson ↔ a = b := by
  cases a <;> cases b <;>
    simp only [toJson, word, integer, Json.number.injEq, Json.string.injEq, Number.integer.injEq,
      Int.ofNat_inj, UInt64.toNat_inj, number.injEq, text.injEq, reduceCtorEq]

/-- The JSON of a sniffing block determines the block. -/
theorem Wire.Sniffing.toJson_inj {a b : Sniffing} : a.toJson = b.toJson ↔ a = b := by
  refine ⟨fun h => ?_, congrArg _⟩
  have henabled := congrArg (fun v : Json => v.flagAt? "enabled") h
  have hdest := congrArg (fun v : Json => v.textsAt "destOverride") h
  have hroute := congrArg (fun v : Json => v.flagAt? "routeOnly") h
  have hmeta := congrArg (fun v : Json => v.flagAt? "metadataOnly") h
  obtain ⟨_, _, _, _⟩ := a
  obtain ⟨_, _, _, _⟩ := b
  simp [toJson, flagAt?, textsAt, textsAt?, get?_ofFields, toFlag?] at henabled hdest hroute hmeta
  rw [henabled, hdest, hroute, hmeta]

/-- The JSON of the settings of a WebSocket determines the settings. -/
theorem Wire.Ws.toJson_inj {a b : WsForm} (h : (ofForm a).toJson = (ofForm b).toJson) :
    ofForm a = ofForm b := by
  have hheaders (f : WsForm) : (headersField (headersOfForm f).nonEmpty?).bind
      HeaderMap.ofStored? = (headersOfForm f).nonEmpty? :=
    bind_headersField (parted_headersOfForm f).toFilled
  have haccept := congrArg (fun v : Json => v.flagAt? "acceptProxyProtocol") h
  have hpath := congrArg (fun v : Json => v.textAt? "path") h
  have hstored := congrArg (fun v : Json => HeaderMap.storedAt? v "headers") h
  rw [ofForm_eq, ofForm_eq] at haccept hpath hstored ⊢
  simp [toJson, HeaderMap.storedAt?, flagAt?, textAt?, get?_ofFields, hheaders]
    at haccept hpath hstored
  rw [haccept, hpath, hstored]

/-- The JSON of the settings of a network determines the settings. -/
theorem Wire.Transport.toJson_inj {a b : Form} (hn : a.network = b.network)
    (h : (ofForm a).toJson = (ofForm b).toJson) : ofForm a = ofForm b := by
  -- a WebSocket is not read back as it was written, so its members are compared one by one
  by_cases hws : a.network = .ws
  · have hwsb : b.network = .ws := hn ▸ hws
    rw [ofForm, ofForm, hws, hwsb] at h ⊢
    exact congrArg ws (Ws.toJson_inj h)
  · have hread (f : Form) (hf : f.network ≠ .ws) (stream : Json)
        (hget : stream.get? f.network.settingsKey = some (ofForm f).toJson) :
        ofStored f.network stream = ofForm f := by
      rw [ofStored_of_get? hget]
      exact reread_of_ne_ws (network_ofForm f ▸ hf)
    have hkey := Session.get?_transportJson (ofForm a)
    rw [network_ofForm] at hkey
    have ha := hread a hws _ hkey
    rw [hn, h] at hkey
    rw [← ha, hn, hread b (hn ▸ hws) _ hkey]

/-- The JSON of a stream layer determines the layer. -/
theorem Wire.Stream.toJson_inj {a b : Form} (hn : a.network = b.network)
    (hs : a.security = b.security) (h : (ofForm a).toJson = (ofForm b).toJson) :
    ofForm a = ofForm b := by
  have htransport (f : Form) : (ofForm f).toJson.get? f.network.settingsKey =
      some (Transport.ofForm f).toJson :=
    get?_toJson (by simp [ofForm, Transport.network_ofForm])
  have hsecurity (f : Form) :
      SecuritySettings.ofStored? f.security (ofForm f).toJson = SecuritySettings.ofForm? f :=
    SecuritySettings.ofStored?_of_get? fun s hs =>
      get?_toJson (by simp [ofForm, hs, securityFields])
  have hsockopt (f : Form) : (ofForm f).toJson.get? "sockopt" =
      (ofForm f).sockopt.map Sockopt.toJson :=
    get?_toJson (by simp)
  -- absent options are told from options without fields by the member itself
  have hread (f : Form) : ((ofForm f).sockopt.map Sockopt.toJson).map Sockopt.ofStored =
      (ofForm f).sockopt := by
    rw [ofForm]
    cases f.sockopt.enabled with
    | true => exact congrArg some (Sockopt.ofStored_toJson f.sockopt)
    | false => rfl
  have hsame : Transport.ofForm a = Transport.ofForm b := by
    refine Transport.toJson_inj hn (Option.some.inj ?_)
    rw [← htransport a, ← htransport b, hn, h]
  have hsecuritySame : SecuritySettings.ofForm? a = SecuritySettings.ofForm? b := by
    rw [← hsecurity a, ← hsecurity b, hs, h]
  have hsockoptSame : (ofForm a).sockopt = (ofForm b).sockopt := by
    rw [← hread a, ← hread b, ← hsockopt a, ← hsockopt b, h]
  rw [ofForm, ofForm, mk.injEq]
  exact ⟨hsame, hsecuritySame, hsockoptSame⟩

namespace Conversion

/-- Of forms with the same selections the stored inbound determines what it was written from. -/
theorem serialize_inj {a b : Form} (hp : a.protocol = b.protocol) (hn : a.network = b.network)
    (hs : a.security = b.security) :
    serialize a = serialize b ↔ Inbound.ofForm a = Inbound.ofForm b := by
  refine ⟨fun h => ?_, congrArg Inbound.toJson⟩
  obtain ⟨htag, hlisten, hport, _, hsettings, hstream, hsniffing⟩ := get?_serialize a
  rw [h] at htag hlisten hport hsettings hstream hsniffing
  obtain ⟨htag', hlisten', hport', _, hsettings', hstream', hsniffing'⟩ := get?_serialize b
  have hsame : a.tag = b.tag := Json.string.inj (Option.some.inj (htag.symm.trans htag'))
  have hlistenSame : nonBlank? a.listen = nonBlank? b.listen := by
    have htext := congrArg (fun v => v.bind scalarText?) (hlisten.symm.trans hlisten')
    simpa using htext
  have hportSame : Port.ofText a.port = Port.ofText b.port :=
    Port.toJson_inj.mp (Option.some.inj (hport.symm.trans hport'))
  have hsettingsSame : Settings.ofForm a = Settings.ofForm b := by
    rw [← Settings.ofStored_toJson a, ← Settings.ofStored_toJson b, hp,
      Option.some.inj (hsettings.symm.trans hsettings')]
  have hsniffingSame : Sniffing.ofForm a.sniffing = Sniffing.ofForm b.sniffing :=
    Sniffing.toJson_inj.mp (Option.some.inj (hsniffing.symm.trans hsniffing'))
  have hstreamSame : (Inbound.ofForm a).stream = (Inbound.ofForm b).stream := by
    have hjson := hstream.symm.trans hstream'
    simp only [Inbound.ofForm, hp] at hjson ⊢
    split <;> rename_i hlayer
    · rw [if_pos hlayer, if_pos hlayer, Option.map_some, Option.map_some, Option.some.injEq]
        at hjson
      exact congrArg some (Stream.toJson_inj hn hs hjson)
    · rfl
  rw [Inbound.ofForm, Inbound.ofForm, Inbound.mk.injEq]
  exact ⟨hsame, hlistenSame, hportSame, hsettingsSame, hstreamSame, hsniffingSame⟩

end Conversion

end ProxyInbound
