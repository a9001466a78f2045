import ProxyInbound.Conversion
import ProxyInbound.Proofs.Reopening.Hosts
import ProxyInbound.Proofs.Reopening.Security
import ProxyInbound.Proofs.Reopening.Settings
import ProxyInbound.Proofs.Wire.Security

/-!
# Forms reopened

Saving a form and opening what was saved gives a form in which each group that the protocol, the
network and the security use is reopened from what was saved of it, and every other group is that
of a new form.
-/

namespace ProxyInbound

open Text.White Wire Json

/-! ## Names -/

/-- The name of a protocol is read as the protocol. -/
theorem Protocol.read_name (p : Protocol) : Named.read (Named.name p) = .ok p := by
  have htrim : trim (Named.name p) = Named.name p := by cases p <;> decide
  rw [Named.read, htrim, ofName?_name]

/-- The name of a network is read as the network. -/
theorem Network.read_name (n : Network) : Named.read (Named.name n) = .ok n := by
  have htrim : trim (Named.name n) = Named.name n := by cases n <;> decide
  rw [Named.read, htrim, ofName?_name]

/-- The name of a security is read as the security. -/
theorem Security.read_name (s : Security) : Named.read (Named.name s) = .ok s := by
  have htrim : trim (Named.name s) = Named.name s := by cases s <;> decide
  rw [Named.read, htrim, ofName?_name]

/-- A value is chosen by its name. -/
theorem Conversion.value_choose [Named α] {v : Json} {field : String} {a fallback : α}
    (hget : v.get? field = some (string (Named.name a)))
    (hread : Named.read (Named.name a) = .ok a) : (choose v field fallback).value = a := by
  have htext : v.textAt? field = some (Named.name a) := textAt?_of_get? hget
  rw [choose, htext]
  simp only [hread]

/-! ## Members of a stored inbound -/

/-- The stored inbound of a form has its sections under their keys. -/
theorem Conversion.get?_serialize (form : Form) :
    (serialize form).get? "tag" = some (string form.tag) ∧
      (serialize form).get? "listen" = textField (nonBlank? form.listen) ∧
      (serialize form).get? "port" = some (Port.ofText form.port).toJson ∧
      (serialize form).get? "protocol" = some (string (Named.name form.protocol)) ∧
      (serialize form).get? "settings" = some (Settings.ofForm form).toJson ∧
      (serialize form).get? "streamSettings" =
        (Inbound.ofForm form).stream.map Stream.toJson ∧
      (serialize form).get? "sniffing" = some (Sniffing.ofForm form.sniffing).toJson := by
  simp [serialize, Inbound.toJson, Inbound.ofForm, get?_ofFields, Settings.protocol_ofForm]

/-- The stored inbound of a form has the stream layer of the form, if there is one. -/
theorem Conversion.objectAt?_streamSettings_serialize (form : Form) :
    (serialize form).objectAt? "streamSettings" =
      if form.protocol.hasStream then some (Stream.ofForm form).toJson else none := by
  obtain ⟨_, _, _, _, _, hstream, _⟩ := get?_serialize form
  rw [objectAt?, hstream, filter_isObject_map Stream.toJson fun _ => isObject_ofFields _,
    Inbound.ofForm, apply_ite (Option.map Stream.toJson)]
  rfl

/-- The stream layer of a form stands in its stored inbound. -/
theorem Conversion.objectAt_streamSettings_serialize {form : Form}
    (h : form.protocol.hasStream = true) :
    (serialize form).objectAt "streamSettings" = (Stream.ofForm form).toJson := by
  rw [objectAt, objectAt?_streamSettings_serialize, if_pos h, Option.getD_some]

/-- No two sections of a stream layer stand under one key. -/
theorem Wire.Stream.nodup_keys (n : Network) (s : Security) :
    (["network", "security", n.settingsKey] ++ s.settingsKey?.toList ++ ["sockopt"]).Nodup := by
  cases n <;> cases s <;> decide

/-- A stored stream layer has under the key of a section the section. -/
theorem Wire.Stream.get?_toJson {s : Stream} {key : String} {value : Option Json}
    (h : (key, value) ∈
      [ ("network", some (string (Named.name s.transport.network))),
        ("security", some (string (Named.name s.securityName))),
        (s.transport.network.settingsKey, some s.transport.toJson) ] ++
      securityFields s.security ++
      [("sockopt", s.sockopt.map Sockopt.toJson)]) :
    s.toJson.get? key = value := by
  have hkeys : (securityFields s.security).map (·.1) = s.securityName.settingsKey?.toList := by
    unfold securityName
    cases s.security with
    | none => rfl
    | some settings =>
      rw [Option.map_some, Option.getD_some, SecuritySettings.key_eq_settingsKey]
      rfl
  have hnodup := nodup_keys s.transport.network s.securityName
  rw [← hkeys] at hnodup
  rw [toJson, get?_ofFields (by simpa using hnodup), Entries.find?_of_mem (by simpa using hnodup) h,
    Option.join_some]

namespace Form

/-! ## Groups that are used -/

/-- Whether the inbound has a stream layer with the network. -/
def UsesNetwork (form : Form) (n : Network) : Prop :=
  form.protocol.hasStream = true ∧ form.network = n

/-- Whether the inbound has a stream layer with the security. -/
def UsesSecurity (form : Form) (s : Security) : Prop :=
  form.protocol.hasStream = true ∧ form.security = s

instance (form : Form) (n : Network) : Decidable (form.UsesNetwork n) :=
  inferInstanceAs (Decidable (_ ∧ _))

instance (form : Form) (s : Security) : Decidable (form.UsesSecurity s) :=
  inferInstanceAs (Decidable (_ ∧ _))

/-- The form with the groups that its protocol, network and security use, and every other group as
in a new form. -/
def selected (form : Form) : Form :=
  { form with
    vlessDecryption :=
      if form.protocol = .vless then form.vlessDecryption else template.vlessDecryption
    fallbacks :=
      if form.protocol = .vless ∨ form.protocol = .trojan then form.fallbacks
      else template.fallbacks
    shadowsocks :=
      if form.protocol = .shadowsocks then form.shadowsocks else template.shadowsocks
    accounts :=
      if form.protocol = .http ∨ form.protocol = .socks then form.accounts
      else template.accounts
    httpAllowTransparent :=
      if form.protocol = .http then form.httpAllowTransparent
      else template.httpAllowTransparent
    socks := if form.protocol = .socks then form.socks else template.socks
    network := if form.protocol.hasStream then form.network else template.network
    security := if form.protocol.hasStream then form.security else template.security
    tcp := if form.UsesNetwork .tcp then form.tcp else template.tcp
    kcp := if form.UsesNetwork .kcp then form.kcp else template.kcp
    ws := if form.UsesNetwork .ws then form.ws else template.ws
    http := if form.UsesNetwork .http then form.http else template.http
    quic := if form.UsesNetwork .quic then form.quic else template.quic
    grpc := if form.UsesNetwork .grpc then form.grpc else template.grpc
    httpUpgrade := if form.UsesNetwork .httpUpgrade then form.httpUpgrade else template.httpUpgrade
    splitHttp := if form.UsesNetwork .splitHttp then form.splitHttp else template.splitHttp
    domainSocket :=
      if form.UsesNetwork .domainSocket then form.domainSocket else template.domainSocket
    tls := if form.UsesSecurity .tls then form.tls else template.tls
    reality := if form.UsesSecurity .reality then form.reality else template.reality
    sockopt := if form.protocol.hasStream then form.sockopt else template.sockopt }

/-- The form with every group as it opens from what is saved of it. -/
def reopened (form : Form) : Form :=
  { form with
    listen := (nonBlank? form.listen).getD template.listen
    port := (Port.ofText form.port).toText
    vlessDecryption := (nonBlank? form.vlessDecryption).getD template.vlessDecryption
    fallbacks := FallbackRow.reopened form.fallbacks
    shadowsocks := form.shadowsocks.reopened
    accounts := AccountRow.reopened form.accounts
    socks := form.socks.reopened
    sniffing := form.sniffing.reopened
    tcp := form.tcp.reopened
    kcp := form.kcp.reopened
    ws := form.ws.reopened
    http := form.http.reopened
    quic := form.quic.reopened
    grpc := form.grpc.reopened
    httpUpgrade := form.httpUpgrade.reopened
    splitHttp := form.splitHttp.reopened
    domainSocket := form.domainSocket.reopened
    tls := form.tls.reopened
    reality := form.reality.reopened
    sockopt := form.sockopt.reopened }

end Form

/-! ## Sections filled in -/

/-- The settings of a form fill in the fields of its protocol. -/
theorem Wire.Settings.fill_ofForm (form g : Form) :
    (ofForm form).fill g =
      { g with
        vlessDecryption :=
          if form.protocol = .vless then (nonBlank? form.vlessDecryption).getD g.vlessDecryption
          else g.vlessDecryption
        fallbacks :=
          if form.protocol = .vless ∨ form.protocol = .trojan then
            FallbackRow.reopened form.fallbacks
          else g.fallbacks
        shadowsocks :=
          if form.protocol = .shadowsocks then
            { method := (nonBlank? form.shadowsocks.method).getD g.shadowsocks.method
              password := (nonBlank? form.shadowsocks.password).getD g.shadowsocks.password
              network := (nonBlank? form.shadowsocks.network).getD g.shadowsocks.network }
          else g.shadowsocks
        accounts :=
          if form.protocol = .http ∨ form.protocol = .socks then
            Account.fillRows (form.accounts.filterMap Account.ofRow?) g.accounts
          else g.accounts
        httpAllowTransparent :=
          if form.protocol = .http then form.httpAllowTransparent else g.httpAllowTransparent
        socks :=
          if form.protocol = .socks then
            { auth := (nonBlank? form.socks.auth).getD g.socks.auth
              udp := form.socks.udp
              ip := (nonBlank? form.socks.ip).getD g.socks.ip }
          else g.socks } := by
  unfold ofForm
  cases form.protocol <;> rfl

/-- The transport of a form, as it is read, fills in the fields of its network. -/
theorem Wire.Transport.fill_ofForm (form g : Form) :
    (ofForm form).reread.fill g =
      { g with
        network := form.network
        tcp := if form.network = .tcp then (Tcp.ofForm form.tcp).fill g.tcp else g.tcp
        kcp := if form.network = .kcp then (Kcp.ofForm form.kcp).fill g.kcp else g.kcp
        ws := if form.network = .ws then (Ws.ofForm form.ws).reread.fill g.ws else g.ws
        http := if form.network = .http then (Http.ofForm form.http).fill g.http else g.http
        quic := if form.network = .quic then (Quic.ofForm form.quic).fill g.quic else g.quic
        grpc := if form.network = .grpc then (Grpc.ofForm form.grpc).fill g.grpc else g.grpc
        httpUpgrade :=
          if form.network = .httpUpgrade then
            (HttpUpgrade.ofForm form.httpUpgrade).fill g.httpUpgrade
          else g.httpUpgrade
        splitHttp :=
          if form.network = .splitHttp then
            (SplitHttp.ofForm form.splitHttp).fill g.splitHttp
          else g.splitHttp
        domainSocket :=
          if form.network = .domainSocket then
            (DomainSocket.ofForm form.domainSocket).fill g.domainSocket
          else g.domainSocket } := by
  unfold ofForm
  cases form.network <;> rfl

/-- A stored sniffing block opens as the fields of a form open. -/
theorem Wire.Sniffing.fillStored_toJson (f : SniffingForm) :
    fillStored (ofForm f).toJson SniffingForm.template = f.reopened := by
  have htexts : (textsField f.saved).bind toTexts? =
      if f.saved = [] then none else some f.saved := by
    cases hsaved : f.saved with
    | nil => rfl
    | cons d r => exact congrArg some (HeaderMap.filterMap_scalarText? (d :: r))
  rw [SniffingForm.reopened, ofForm]
  split <;> rename_i henabled
  · rw [← SniffingForm.saved]
    simp [fillStored, toJson, flagAt?, textsAt?, get?_ofFields, toFlag?, htexts, henabled]
    split <;> rfl
  · rfl

namespace Conversion

/-- The settings of a form are opened from its stored inbound. -/
theorem fillSettings_serialize (form g : Form) :
    fillSettings form.protocol (serialize form) g = (Settings.ofForm form).fill g := by
  obtain ⟨_, _, _, _, hsettings, _, _⟩ := get?_serialize form
  rw [fillSettings, objectAt_of_get? hsettings (Settings.isObject_toJson _),
    Settings.ofStored_toJson]

/-- The name, the address and the port of a form are opened from its stored inbound. -/
theorem fillHead_serialize (form g : Form) :
    fillHead (serialize form) g =
      { g with
        tag := form.tag
        listen := (nonBlank? form.listen).getD g.listen
        port := (Port.ofText form.port).toText } := by
  obtain ⟨htag, hlisten, hport, _⟩ := get?_serialize form
  have htagText : (serialize form).textAt? "tag" = some form.tag := textAt?_of_get? htag
  have hportText : (serialize form).textAt? "port" = some (Port.ofText form.port).toText := by
    rw [textAt?_of_get? hport, Port.scalarText?_toJson]
  have hlistenText : (serialize form).textAt? "listen" = nonBlank? form.listen := by
    rw [textAt?, hlisten, bind_textField, keepNonBlank_nonBlank?]
  rw [fillHead, htagText, hportText, hlistenText]
  rfl

/-- The sniffing block of a form is opened from its stored inbound. -/
theorem fillSniffing_serialize {form g : Form} (h : g.sniffing = SniffingForm.template) :
    fillSniffing (serialize form) g = { g with sniffing := form.sniffing.reopened } := by
  obtain ⟨_, _, _, _, _, _, hsniffing⟩ := get?_serialize form
  rw [fillSniffing, objectAt?_of_get? hsniffing (isObject_ofFields _)]
  simp only [h, Sniffing.fillStored_toJson]

/-- The network of a form is opened from its stored stream layer. -/
theorem fillTransport_toJson (form g : Form) :
    fillTransport (Stream.ofForm form).toJson g = (Transport.ofForm form).reread.fill g := by
  have hnetwork : (networkChoice (Stream.ofForm form).toJson).value = form.network := by
    refine value_choose (Stream.get?_toJson ?_) (Network.read_name form.network)
    simp [Stream.ofForm, Transport.network_ofForm]
  rw [fillTransport, hnetwork, Transport.ofStored_of_get?]
  refine Stream.get?_toJson ?_
  simp [Stream.ofForm, Transport.network_ofForm]

/-- The security of a form is opened from its stored stream layer. -/
theorem fillSecurity_toJson (form g : Form) :
    fillSecurity (Stream.ofForm form).toJson g =
      { g with
        security := form.security
        tls := if form.security = .tls then (Tls.ofForm form.tls).fill g.tls else g.tls
        reality :=
          if form.security = .reality then (Reality.ofForm form.reality).fill g.reality
          else g.reality } := by
  have hsecurity : (securityChoice (Stream.ofForm form).toJson).value = form.security := by
    refine value_choose (Stream.get?_toJson ?_) (Security.read_name form.security)
    simp [Stream.securityName_ofForm]
  have hread : SecuritySettings.ofStored? form.security (Stream.ofForm form).toJson =
      SecuritySettings.ofForm? form := by
    refine SecuritySettings.ofStored?_of_get? fun s hs => Stream.get?_toJson ?_
    simp [Stream.ofForm, hs, Stream.securityFields]
  rw [fillSecurity, hsecurity, hread]
  unfold SecuritySettings.ofForm?
  cases form.security <;> rfl

/-- The socket options of a form are opened from its stored stream layer. -/
theorem fillSockopt_toJson {form g : Form} (h : g.sockopt = SockoptForm.template) :
    fillSockopt (Stream.ofForm form).toJson g = { g with sockopt := form.sockopt.reopened } := by
  have hsockopt : (Stream.ofForm form).toJson.get? "sockopt" =
      (if form.sockopt.enabled then some (Sockopt.ofForm form.sockopt) else none).map
        Sockopt.toJson := by
    refine Stream.get?_toJson ?_
    simp [Stream.ofForm]
  rw [fillSockopt, objectAt?, hsockopt,
    filter_isObject_map Sockopt.toJson fun _ => isObject_ofFields _,
    SockoptForm.reopened]
  cases form.sockopt.enabled with
  | true =>
    simp only [if_true, Option.map_some, Sockopt.ofStored_toJson, h]
  | false =>
    simp only [Bool.false_eq_true, if_false, Option.map_none, ← h]

/-- Opening what was saved of a form opens each group that the form uses. -/
theorem parse_serialize (form : Form) : parse (serialize form) = form.reopened.selected := by
  obtain ⟨_, _, _, hprotocol, _⟩ := get?_serialize form
  have hchoice : (protocolChoice (serialize form)).value = form.protocol :=
    value_choose hprotocol (Protocol.read_name form.protocol)
  rw [parse, hchoice, fillHead_serialize, fillSettings_serialize, Settings.fill_ofForm,
    fillSniffing_serialize rfl]
  cases hlayer : form.protocol.hasStream with
  | false =>
    -- a plain proxy has no stream layer, so the fields of every network stay as in a new form
    rw [streamOf?, hlayer, if_neg Bool.false_ne_true, fillStream]
    simp only [Form.selected, Form.UsesNetwork, Form.UsesSecurity, Form.reopened, hlayer]
    rfl
  | true =>
    have hobject : (serialize form).objectAt? "streamSettings" =
        some (Stream.ofForm form).toJson := by
      rw [objectAt?_streamSettings_serialize, if_pos hlayer]
    rw [streamOf?, hlayer, if_pos rfl, hobject]
    simp only [fillStream]
    rw [fillTransport_toJson, fillSecurity_toJson, Transport.fill_ofForm,
      fillSockopt_toJson rfl]
    simp only [Form.selected, Form.UsesNetwork, Form.UsesSecurity, Form.reopened, hlayer,
      true_and]
    rfl

end Conversion

end ProxyInbound
