import ProxyInbound.Conversion
import ProxyInbound.Proofs.Form.Frames

/-!
# What a form is read from

Opening a stored inbound reads a few of its members and, if the protocol has a stream layer, a few
members of the stream settings: the network and the security, the settings of exactly these, and
the socket options. Documents with the same of these members open as the same form, so whatever
else a document holds has no influence. And what is opened differs from a new form of the protocol
in the fields of what was read only.
-/

namespace ProxyInbound.Conversion

open Json Wire

/-! ## Members that are read -/

/-- The members of a stored inbound that are read whatever its protocol. -/
def readKeys : List String :=
  ["tag", "listen", "port", "protocol", "settings", "sniffing"]

/-- The members of stored stream settings that are read. -/
def streamReadKeys (stream : Json) : List String :=
  ["network", "security", "sockopt", (networkChoice stream).value.settingsKey] ++
    (securityChoice stream).value.settingsKey?.toList

/-- Two values have the same members under some keys. -/
def SameMembers (keys : List String) (v v' : Json) : Prop :=
  ∀ key ∈ keys, v.get? key = v'.get? key

/-- Two stored inbounds have the same of everything that is read: of the inbound itself and, if the
protocol has a stream layer, of the stream settings, unless neither has any. -/
structure SameSources (w w' : Json) : Prop where
  /-- The members that are read whatever the protocol are the same. -/
  members : SameMembers readKeys w w'
  /-- If there is a stream layer, its members that are read are the same. -/
  stream : (protocolChoice w).value.hasStream = true →
    Option.Rel (fun s => SameMembers (streamReadKeys s) s)
      (w.objectAt? "streamSettings") (w'.objectAt? "streamSettings")

/-- A choice depends on the member that names it. -/
theorem choose_congr [Named α] {v v' : Json} {field : String} (h : v.get? field = v'.get? field)
    (fallback : α) : choose v field fallback = choose v' field fallback := by
  rw [choose, choose, textAt?, textAt?, h]

/-- A member as an object depends on the member. -/
theorem objectAt?_congr {v v' : Json} {key : String} (h : v.get? key = v'.get? key) :
    v.objectAt? key = v'.objectAt? key := by
  rw [objectAt?, objectAt?, h]

/-- The head of a form depends on its three members. -/
theorem fillHead_congr {w w' : Json} (htag : w.get? "tag" = w'.get? "tag")
    (hlisten : w.get? "listen" = w'.get? "listen") (hport : w.get? "port" = w'.get? "port")
    (form : Form) : fillHead w form = fillHead w' form := by
  simp only [fillHead, textAt?, htag, hlisten, hport]

/-- The settings of a network depend on the member under its key. -/
theorem ofStored_congr {stream stream' : Json} {n : Network}
    (h : stream.get? n.settingsKey = stream'.get? n.settingsKey) :
    Transport.ofStored n stream = Transport.ofStored n stream' := by
  rw [Transport.ofStored, Transport.ofStored, objectAt, objectAt, objectAt?_congr h]

/-- The settings of a security depend on the member under its key. -/
theorem ofStored?_congr {stream stream' : Json} {s : Security}
    (h : ∀ key ∈ s.settingsKey?, stream.get? key = stream'.get? key) :
    SecuritySettings.ofStored? s stream = SecuritySettings.ofStored? s stream' := by
  cases s with
  | none => rfl
  | tls =>
    have hmember := objectAt?_congr (h "tlsSettings" rfl)
    rw [SecuritySettings.ofStored?, SecuritySettings.ofStored?, objectAt, objectAt, hmember]
  | reality =>
    have hmember := objectAt?_congr (h "realitySettings" rfl)
    rw [SecuritySettings.ofStored?, SecuritySettings.ofStored?, objectAt, objectAt, hmember]

/-- The name of a network or of a security is not the key of the settings of a network. -/
theorem settingsKey_not_name (n : Network) :
    n.settingsKey ≠ "network" ∧ n.settingsKey ≠ "security" := by
  cases n <;> decide

/-- The name of a network or of a security is not the key of the settings of a security. -/
theorem settingsKey?_not_name {s : Security} {key : String} (h : key ∈ s.settingsKey?) :
    key ≠ "network" ∧ key ≠ "security" := by
  cases s with
  | none => cases h
  | tls =>
    cases h
    decide
  | reality =>
    cases h
    decide

/-- A stream layer depends on the network and the security that are chosen and on the other members
of the stream settings that are read. -/
theorem fillStream_congr_values {stream stream' : Json}
    (hnetwork : (networkChoice stream).value = (networkChoice stream').value)
    (hsecurity : (securityChoice stream).value = (securityChoice stream').value)
    (h : ∀ key ∈ streamReadKeys stream, key ≠ "network" → key ≠ "security" →
      stream.get? key = stream'.get? key) (form : Form) :
    fillStream (some stream) form = fillStream (some stream') form := by
  have hsockopt : stream.get? "sockopt" = stream'.get? "sockopt" :=
    h _ (by simp [streamReadKeys]) (by decide) (by decide)
  have htransport : stream.get? (networkChoice stream).value.settingsKey =
      stream'.get? (networkChoice stream).value.settingsKey :=
    have hname := settingsKey_not_name (networkChoice stream).value
    h _ (by simp [streamReadKeys]) hname.1 hname.2
  have hsettings : ∀ key ∈ (securityChoice stream).value.settingsKey?,
      stream.get? key = stream'.get? key := by
    intro key hkey
    have hread : key ∈ streamReadKeys stream :=
      List.mem_append_right _ (Option.mem_toList.mpr hkey)
    exact h key hread (settingsKey?_not_name hkey).1 (settingsKey?_not_name hkey).2
  simp only [fillStream, fillTransport, fillSecurity, fillSockopt, ← hnetwork, ← hsecurity,
    ofStored_congr htransport, ofStored?_congr hsettings, objectAt?_congr hsockopt]

/-- A stream layer depends on the members of the stream settings that are read. -/
theorem fillStream_some_congr {stream stream' : Json}
    (h : SameMembers (streamReadKeys stream) stream stream') (form : Form) :
    fillStream (some stream) form = fillStream (some stream') form := by
  have hnetwork : networkChoice stream = networkChoice stream' :=
    choose_congr (h _ (by simp [streamReadKeys])) _
  have hsecurity : securityChoice stream = securityChoice stream' :=
    choose_congr (h _ (by simp [streamReadKeys])) _
  exact fillStream_congr_values (congrArg Choice.value hnetwork) (congrArg Choice.value hsecurity)
    (fun key hkey _ _ => h key hkey) form

/-- Without stream settings there is no layer; with them it depends on the members that are read. -/
theorem fillStream_congr {stream stream' : Option Json}
    (h : Option.Rel (fun s => SameMembers (streamReadKeys s) s) stream stream') (form : Form) :
    fillStream stream form = fillStream stream' form := by
  cases h with
  | none => rfl
  | some hmembers => exact fillStream_some_congr hmembers form

/-- A document depends on the protocol that is chosen, on what its stream layer fills in and on the
other members that are read. -/
theorem parse_congr_values {w w' : Json}
    (hprotocol : (protocolChoice w).value = (protocolChoice w').value)
    (hmembers : ∀ key ∈ readKeys, key ≠ "protocol" → w.get? key = w'.get? key)
    (hstream : fillStream (streamOf? (protocolChoice w).value w) =
      fillStream (streamOf? (protocolChoice w).value w')) : parse w = parse w' := by
  have hmember {key : String} (hkey : key ∈ readKeys) (hne : key ≠ "protocol") :
      w.get? key = w'.get? key := hmembers key hkey hne
  have hhead (form : Form) : fillHead w form = fillHead w' form :=
    fillHead_congr (hmember (by decide) (by decide)) (hmember (by decide) (by decide))
      (hmember (by decide) (by decide)) form
  have hsettings : w.objectAt? "settings" = w'.objectAt? "settings" :=
    objectAt?_congr (hmember (by decide) (by decide))
  have hsniffing : w.objectAt? "sniffing" = w'.objectAt? "sniffing" :=
    objectAt?_congr (hmember (by decide) (by decide))
  simp only [parse, ← hprotocol, hhead, fillSettings, fillSniffing, objectAt, hsettings, hsniffing,
    hstream]

/-- Documents with the same of everything that is read open as the same form. -/
theorem parse_congr {w w' : Json} (h : SameSources w w') : parse w = parse w' := by
  have hprotocol : protocolChoice w = protocolChoice w' :=
    choose_congr (h.members "protocol" (by decide)) _
  refine parse_congr_values (congrArg Choice.value hprotocol) (fun key hkey _ => h.members key hkey)
    (funext fun form => ?_)
  rw [streamOf?, streamOf?]
  split <;> rename_i hlayer
  · exact fillStream_congr (h.stream hlayer) form
  · rfl

/-! ## Fields that are filled in -/

/-- The fields that stored stream settings fill in. -/
def streamReadNames (stream : Json) : List String :=
  "streamNetwork" :: (networkChoice stream).value.fieldNames ++
    "streamSecurity" :: (securityChoice stream).value.fieldNames ++
    if (stream.objectAt? "sockopt").isSome then names SockoptForm.slots else []

/-- The fields that a stored inbound fills in. -/
def readNames (w : Json) : List String :=
  let protocol := (protocolChoice w).value
  ["tag", "listen", "port"] ++ protocol.fieldNames ++
    (if (w.objectAt? "sniffing").isSome then names SniffingForm.slots else []) ++
    (streamOf? protocol w).elim [] streamReadNames

/-- Only the head of a form is written from the members of an inbound itself. -/
theorem fillHead_frame (w : Json) (form : Form) :
    AgreeOn Form.slots (· ∉ ["tag", "listen", "port"]) (fillHead w form) form := by
  rw [Form.agreeOn_iff]
  exact { Form.Same.refl _ form with
    tag := absurd (by decide)
    listen := absurd (by decide)
    port := absurd (by decide) }

/-- Only the fields of the protocol are written from stored settings. -/
theorem fillSettings_frame (protocol : Protocol) (w : Json) (form : Form) :
    AgreeOn Form.slots (· ∉ protocol.fieldNames) (fillSettings protocol w form) form := by
  have hframe := (Settings.ofStored protocol (w.objectAt "settings")).fill_frame form
  rwa [Settings.protocol_ofStored] at hframe

/-- Only the fields of sniffing are written, and only from a stored block. -/
theorem fillSniffing_frame (w : Json) (form : Form) :
    AgreeOn Form.slots
      (· ∉ if (w.objectAt? "sniffing").isSome then names SniffingForm.slots else [])
      (fillSniffing w form) form := by
  rw [fillSniffing]
  cases w.objectAt? "sniffing" with
  | none => exact AgreeOn.refl _ _ _
  | some v =>
    exact Form.agreeOn_iff.mpr
      { Form.Same.refl _ form with sniffing := AgreeOn.outside (List.Subset.refl _) _ _ }

/-- Only the fields of the network and its selection are written from its stored settings. -/
theorem fillTransport_frame (stream : Json) (form : Form) :
    AgreeOn Form.slots (· ∉ "streamNetwork" :: (networkChoice stream).value.fieldNames)
      (fillTransport stream form) form := by
  have hframe := (Transport.ofStored (networkChoice stream).value stream).fill_frame form
  rwa [Transport.network_ofStored] at hframe

/-- Only the fields of the security and its selection are written from its stored settings. -/
theorem fillSecurity_frame (stream : Json) (form : Form) :
    AgreeOn Form.slots (· ∉ "streamSecurity" :: (securityChoice stream).value.fieldNames)
      (fillSecurity stream form) form := by
  rw [fillSecurity]
  cases hchoice : (securityChoice stream).value with
  | none =>
    exact Form.agreeOn_iff.mpr { Form.Same.refl _ form with security := absurd (by decide) }
  | tls => exact SecuritySettings.fill_frame (.tls _) form
  | reality => exact SecuritySettings.fill_frame (.reality _) form

/-- Only the socket options are written, and only from a stored block. -/
theorem fillSockopt_frame (stream : Json) (form : Form) :
    AgreeOn Form.slots
      (· ∉ if (stream.objectAt? "sockopt").isSome then names SockoptForm.slots else [])
      (fillSockopt stream form) form := by
  rw [fillSockopt]
  cases stream.objectAt? "sockopt" with
  | none => exact AgreeOn.refl _ _ _
  | some v =>
    exact Form.agreeOn_iff.mpr
      { Form.Same.refl _ form with sockopt := AgreeOn.outside (List.Subset.refl _) _ _ }

/-- Only the fields of a stream layer are written, and only from stored stream settings. -/
theorem fillStream_frame (stream : Option Json) (form : Form) :
    AgreeOn Form.slots (· ∉ stream.elim [] streamReadNames) (fillStream stream form) form := by
  cases stream with
  | none => exact AgreeOn.refl _ _ _
  | some stream =>
    have htransport := fillTransport_frame stream form
    have hsecurity := fillSecurity_frame stream (fillTransport stream form)
    exact (htransport.andThen hsecurity).andThen (fillSockopt_frame stream _)

/-- A form that is opened differs from a new form of its protocol in the fields of what was read
only. -/
theorem parse_frame (w : Json) :
    AgreeOn Form.slots (· ∉ readNames w) (parse w) (Form.defaults (protocolChoice w).value) := by
  have hhead := fillHead_frame w (Form.defaults (protocolChoice w).value)
  have hsettings := hhead.andThen (fillSettings_frame (protocolChoice w).value w _)
  have hsniffing := hsettings.andThen (fillSniffing_frame w _)
  exact hsniffing.andThen (fillStream_frame (streamOf? (protocolChoice w).value w) _)

/-! ## Sniffing and socket options -/

/-- The settings of a protocol leave sniffing and the socket options. -/
theorem fillSettings_others (protocol : Protocol) (w : Json) (form : Form) :
    (fillSettings protocol w form).sniffing = form.sniffing ∧
      (fillSettings protocol w form).sockopt = form.sockopt := by
  cases protocol <;> exact ⟨rfl, rfl⟩

/-- The settings of a network leave sniffing and the socket options. -/
theorem fillTransport_others (stream : Json) (form : Form) :
    (fillTransport stream form).sniffing = form.sniffing ∧
      (fillTransport stream form).sockopt = form.sockopt := by
  rw [fillTransport]
  cases (networkChoice stream).value <;> exact ⟨rfl, rfl⟩

/-- The settings of a security leave sniffing and the socket options. -/
theorem fillSecurity_others (stream : Json) (form : Form) :
    (fillSecurity stream form).sniffing = form.sniffing ∧
      (fillSecurity stream form).sockopt = form.sockopt := by
  rw [fillSecurity]
  cases (securityChoice stream).value <;> exact ⟨rfl, rfl⟩

/-- A stream layer leaves sniffing. -/
theorem sniffing_fillStream (stream : Option Json) (form : Form) :
    (fillStream stream form).sniffing = form.sniffing := by
  cases stream with
  | none => rfl
  | some stream =>
    have hbefore : (fillSecurity stream (fillTransport stream form)).sniffing = form.sniffing := by
      rw [(fillSecurity_others stream _).1, (fillTransport_others stream form).1]
    rw [fillStream, fillSockopt]
    split <;> exact hbefore

/-- Sniffing leaves the socket options. -/
theorem sockopt_fillSniffing (w : Json) (form : Form) :
    (fillSniffing w form).sockopt = form.sockopt := by
  rw [fillSniffing]
  split <;> rfl

/-- A stream layer enables the socket options of a form without any exactly if it has a block of
them. -/
theorem enabled_fillStream (stream : Option Json) {form : Form}
    (hoff : form.sockopt.enabled = false) :
    (fillStream stream form).sockopt.enabled = (stream.bind (·.objectAt? "sockopt")).isSome := by
  cases stream with
  | none => exact hoff
  | some stream =>
    rw [fillStream, fillSockopt, Option.bind_some]
    cases stream.objectAt? "sockopt" with
    | none =>
      simp only
      rw [(fillSecurity_others stream _).2, (fillTransport_others stream form).2, hoff]
      rfl
    | some options => rfl

/-- Socket options are enabled exactly by a stored block of them in a stream layer. -/
theorem sockopt_enabled_iff (w : Json) :
    (parse w).sockopt.enabled = true ↔
      (protocolChoice w).value.hasStream = true ∧
        ((w.objectAt "streamSettings").objectAt? "sockopt").isSome = true := by
  have hnew : (fillSniffing w (fillSettings (protocolChoice w).value w (fillHead w
      (Form.defaults (protocolChoice w).value)))).sockopt.enabled = false := by
    rw [sockopt_fillSniffing, (fillSettings_others _ w _).2]
    rfl
  rw [parse, enabled_fillStream _ hnew, streamOf?, objectAt]
  cases (protocolChoice w).value.hasStream with
  | false => simp
  | true =>
    cases w.objectAt? "streamSettings" with
    | none => simp [objectAt?]
    | some stream => simp

/-- Without a stored block of it sniffing is as in a new form. -/
theorem sniffing_parse {w : Json} (h : w.objectAt? "sniffing" = none) :
    (parse w).sniffing = SniffingForm.template := by
  rw [parse, sniffing_fillStream, fillSniffing, h]
  exact (fillSettings_others _ w _).1

/-- What a form is opened from: documents with the same of everything that is read open as the same
form; the other fields, and those of sniffing without a stored block, are as in a new form of the
protocol; and socket options are enabled exactly by a stored block of them in a stream layer. -/
theorem parse_sources (w : Json) :
    (∀ w', SameSources w w' → parse w = parse w') ∧
      AgreeOn Form.slots (· ∉ readNames w) (parse w) (Form.defaults (protocolChoice w).value) ∧
      (w.objectAt? "sniffing" = none → (parse w).sniffing = SniffingForm.template) ∧
      ((parse w).sockopt.enabled = true ↔
        (protocolChoice w).value.hasStream = true ∧
          ((w.objectAt "streamSettings").objectAt? "sockopt").isSome = true) := by
  exact ⟨fun _ => parse_congr, parse_frame w, sniffing_parse, sockopt_enabled_iff w⟩

/-- Stream settings of a WebSocket. -/
def ownStream : Json :=
  .object [("network", .string "ws"), ("wsSettings", .object [("path", .string "/own")])]

/-- The same with the settings of another network and of a security that is not selected. -/
def foreignStream : Json :=
  .object
    [ ("network", .string "ws"), ("realitySettings", .object [("dest", .string "foreign:443")]),
      ("tcpSettings", .object [("acceptProxyProtocol", .bool true)]),
      ("wsSettings", .object [("path", .string "/own")]) ]

/-- Foreign settings and unknown members leave no trace in the form. -/
theorem parse_foreignStream :
    SameSources (.object [("streamSettings", ownStream)])
        (.object [("remark", .string "unknown"), ("streamSettings", foreignStream)]) ∧
      parse (.object [("streamSettings", ownStream)]) =
        parse (.object [("remark", .string "unknown"), ("streamSettings", foreignStream)]) := by
  have hread : ∀ key ∈ streamReadKeys ownStream, ownStream.get? key = foreignStream.get? key := by
    decide
  have hsources : SameSources (.object [("streamSettings", ownStream)])
      (.object [("remark", .string "unknown"), ("streamSettings", foreignStream)]) :=
    { members := by unfold SameMembers; decide
      stream := fun _ => Option.Rel.some hread }
  exact ⟨hsources, (parse_sources _).1 _ hsources⟩

end ProxyInbound.Conversion
