import ProxyInbound.Proofs.Fillings
import ProxyInbound.Proofs.Sources
import ProxyInbound.Proofs.Steadiness.Sections
import ProxyInbound.Proofs.Reopening.Form

/-!
# Lists of records that are normalized

Fallbacks, accounts and certificates are read from a stored list, edited as rows and written as a
list again. What is written lists, in order, one record for each stored item that gives one and
nothing else: a fallback with a destination, an account with a user, a certificate that holds
something. Each record has what its item gives, texts as they stand unless they are blank, and
sequences taken apart at commas or line feeds.
-/

namespace ProxyInbound.Wire

open Json Text.White Text.Parts Text.Numeral

/-! ## The record of an item -/

/-- A list that is left out if nothing is in it. -/
def listing (records : List Json) : Option Json :=
  if records.isEmpty then none else some (array records)

/-- The fallback that is written for a stored item: none without a visible destination. -/
def Fallback.record? (item : Json) : Option Json :=
  ((item.textAt? "dest").bind Port.ofText?).map fun dest =>
    ofFields
      [ ("dest", some dest.toJson),
        ("path", textField (item.textAt? "path")),
        ("type", textField (item.textAt? "type")),
        ("alpn", textsField ((item.textsAt "alpn").flatMap commaParts)),
        ("xver", wordField (item.wordAt? "xver")) ]

/-- The account that is written for a stored item: none without a visible user. -/
def Account.record? (item : Json) : Option Json :=
  (keepNonBlank (item.textAt? "user")).map fun user =>
    ofFields
      [ ("user", some (string (trim user))),
        ("pass", textField (item.textAt? "pass")) ]

/-- The members of the certificate that is written for a stored item. -/
def Certificate.recordFields (item : Json) : List (String × Option Json) :=
  [ ("certificateFile", textField (item.textAt? "certificateFile")),
    ("keyFile", textField (item.textAt? "keyFile")),
    ("certificate", textsField ((item.textsAt "certificate").flatMap lines)),
    ("key", textsField ((item.textsAt "key").flatMap lines)) ]

/-- The certificate that is written for a stored item: none if it holds nothing. -/
def Certificate.record? (item : Json) : Option Json :=
  if (recordFields item).all (·.2.isNone) then none else some (ofFields (recordFields item))

/-! ## Items, rows and records -/

/-- Objects are written as the list of them. -/
theorem objectsField_eq_listing (toJson : α → Json) (xs : List α) :
    objectsField toJson xs = listing (xs.map toJson) := by
  cases xs <;> rfl

/-- A text that was laid out in a row is written as it was. -/
@[simp] theorem textField_nonBlank?_getD (s : Option String) :
    textField (nonBlank? (s.getD "")) = textField s := by
  cases s with
  | none => rfl
  | some t =>
    rw [Option.getD_some, textField, keepNonBlank_nonBlank?]
    rfl

/-- A port that was laid out in a row is the port that it was. -/
theorem Port.ofText?_getD_toText (s : Option String) :
    ofText? (((s.bind ofText?).map toText).getD "") = s.bind ofText? := by
  cases h : s.bind ofText? with
  | none => rfl
  | some port =>
    obtain ⟨text, _, htext⟩ := Option.bind_eq_some_iff.mp h
    exact ofText?_toText htext

/-- A stored item is laid out and written as the fallback that is its record. -/
theorem Fallback.map_toJson_ofRow? (item : Json) :
    (ofRow? (ofStored item).toRow).map toJson = record? item := by
  have hxver : unsigned? (((item.wordAt? "xver").map unsignedText).getD "") =
      item.wordAt? "xver" := by
    cases item.wordAt? "xver" <;> simp
  have hdest := Port.ofText?_getD_toText (item.textAt? "dest")
  simp only [ofRow?, ofRow, ofStored, toRow, record?, hdest, hxver, commaParts_joinCommas]
  cases (item.textAt? "dest").bind Port.ofText? with
  | none => rfl
  | some dest => simp [toJson]

/-- A stored account is laid out and written as the account that is its record. -/
theorem Account.bind_ofRow?_toRow (item : Json) :
    ((ofStored? item).bind fun a => (ofRow? a.toRow).map toJson) = record? item := by
  rw [ofStored?, record?]
  cases item.textAt? "user" with
  | none => rfl
  | some user =>
    cases hblank : blank user with
    | true => simp [ofRow?, toRow, keepNonBlank, nonBlank?_of_blank hblank, hblank]
    | false => simp [ofRow?, toRow, toJson, keepNonBlank, nonBlank?_of_not_blank hblank, hblank]

/-- A stored item is laid out and written as the certificate that is its record. -/
theorem Certificate.map_toJson_ofRow? (item : Json) :
    (ofRow? (ofStored item).toRow).map toJson = record? item := by
  have hempty : ∀ c : Certificate, c = empty ↔
      c.certificateFile = none ∧ c.keyFile = none ∧ c.certificate = [] ∧ c.key = [] := by
    rintro ⟨certificateFile, keyFile, certificate, key⟩
    simp [empty]
  have hfile (s : Option String) : nonBlank? (s.getD "") = none ↔ textField s = none := by
    rw [← textField_nonBlank?_getD, textField, keepNonBlank_nonBlank?, Option.map_eq_none_iff]
  simp only [ofRow?, ofStored, toRow, record?, recordFields, lines_join, hempty, hfile,
    ← textsField_eq_none_iff, List.all_cons, List.all_nil, Bool.and_true, Bool.and_eq_true,
    Option.isNone_iff_eq_none]
  split
  · rfl
  · simp [toJson]

/-! ## Items that are no objects -/

/-- An item that is no object is no fallback. -/
theorem Fallback.record?_of_not_isObject {item : Json} (h : item.isObject = false) :
    record? item = none := by
  have hdest : item.textAt? "dest" = none := by
    rw [textAt?, get?_of_not_isObject h]
    rfl
  rw [record?, hdest]
  rfl

/-- An item that is no object is no certificate. -/
theorem Certificate.record?_of_not_isObject {item : Json} (h : item.isObject = false) :
    record? item = none := by
  simp only [record?, recordFields, textAt?, textsAt, textsAt?, get?_of_not_isObject h]
  rfl

/-- Items give the same records whether or not those that are no objects are left out first. -/
theorem filterMap_filter_isObject {record? : Json → Option α}
    (h : ∀ {item : Json}, item.isObject = false → record? item = none) (items : List Json) :
    (items.filter isObject).filterMap record? = items.filterMap record? := by
  rw [List.filterMap_filter]
  refine List.filterMap_congr fun item _ => ?_
  cases hobject : item.isObject with
  | true => rfl
  | false => exact (h hobject).symm

/-! ## Lists of rows -/

/-- The fallbacks of stored settings are written, from the rows they are laid out as, as the records
of the items. -/
theorem Fallback.written_eq_listing (settings : Json) :
    objectsField toJson (ofRows ((listStored settings).map toRow)) =
      listing ((settings.itemsAt "fallbacks").filterMap record?) := by
  rw [objectsField_eq_listing, ofRows_eq, listStored, List.map_map, List.filterMap_map,
    List.map_filterMap, ← filterMap_filter_isObject record?_of_not_isObject]
  exact congrArg listing (List.filterMap_congr fun item _ => map_toJson_ofRow? item)

/-- The accounts of stored settings are written, from the rows they are laid out as, as the records
of the items; a blank row in the place of none is written as none. -/
theorem Account.written_eq_listing (settings : Json) :
    objectsField toJson
        ((fillRows (listStored settings) [AccountRow.blank]).filterMap ofRow?) =
      listing ((settings.itemsAt "accounts").filterMap record?) := by
  have hrows : (fillRows (listStored settings) [AccountRow.blank]).filterMap ofRow? =
      (listStored settings).filterMap fun a => ofRow? a.toRow := by
    rw [fillRows]
    split <;> rename_i hempty
    · rw [List.isEmpty_iff.mp hempty]
      rfl
    · rw [List.filterMap_map]
      rfl
  rw [objectsField_eq_listing, hrows, listStored, List.filterMap_filterMap, List.map_filterMap]
  refine congrArg listing (List.filterMap_congr fun item _ => ?_)
  rw [← bind_ofRow?_toRow item, Option.map_bind]
  rfl

/-- The certificates of stored settings are written, from the rows they are laid out as, as the
records of the items. -/
theorem Certificate.written_eq_listing (v : Json) :
    objectsField toJson (((Tls.ofStored v).certificates.map toRow).filterMap ofRow?) =
      listing ((v.itemsAt "certificates").filterMap record?) := by
  rw [objectsField_eq_listing, Tls.ofStored, List.map_map, List.filterMap_map, List.map_filterMap,
    ← filterMap_filter_isObject record?_of_not_isObject]
  exact congrArg listing (List.filterMap_congr fun item _ => map_toJson_ofRow? item)

/-- Certificates that are laid out over a form without any are saved row by row. The first row
stands in fields of its own, the others in a list. -/
theorem Tls.certificates_fillCertificates {f : TlsForm} (h : firstRow f = CertificateRow.blank)
    (rows : List CertificateRow) :
    (Tls.ofForm (fillCertificates rows f)).certificates = rows.filterMap Certificate.ofRow? := by
  rw [fillCertificates_eq h]
  cases rows with
  | nil =>
    have hnone : Certificate.ofRow? CertificateRow.blank = none := by decide
    exact List.filterMap_cons_none hnone
  | cons row rest => rfl

end ProxyInbound.Wire

namespace ProxyInbound.Conversion

open Json Wire

/-! ## Rows of an opened form -/

/-- A stream layer writes fields of networks, securities and socket options only. -/
theorem family_of_mem_streamReadNames {stream : Json} {n : String}
    (h : n ∈ streamReadNames stream) :
    n ∈ Family.transport.fieldNames ∨ n ∈ Family.security.fieldNames ∨
      n ∈ Family.sockopt.fieldNames := by
  rw [streamReadNames, List.mem_append, List.mem_append] at h
  rcases h with (h | h) | h
  · exact Or.inl (List.cons_subset_cons _ (fun n hn => List.mem_flatMap.mpr
      ⟨_, Network.mem_all _, hn⟩) h)
  · exact Or.inr (Or.inl (List.cons_subset_cons _ (fun n hn => List.mem_flatMap.mpr
      ⟨_, Security.mem_all _, hn⟩) h))
  · split at h
    · exact Or.inr (Or.inr h)
    · cases h

/-- The protocol and its fields are as they are after its settings are filled in. -/
theorem parse_settings (w : Json) :
    AgreeOn Form.slots (fun n => n = "protocol" ∨ n ∈ Family.settings.fieldNames) (parse w)
      (fillSettings (protocolChoice w).value w
        (fillHead w (Form.defaults (protocolChoice w).value))) := by
  have hsniffing := fillSniffing_frame w (fillSettings (protocolChoice w).value w
    (fillHead w (Form.defaults (protocolChoice w).value)))
  have hstream := hsniffing.andThen (fillStream_frame (streamOf? (protocolChoice w).value w) _)
  intro slot hslot hname
  refine hstream slot hslot fun hwritten => ?_
  -- whatever is written afterwards belongs to another family
  have hother : ∃ family ∈ [Family.sniffing, .transport, .security, .sockopt],
      slot.name ∈ family.fieldNames := by
    rcases List.mem_append.mp hwritten with h | h
    · split at h
      · exact ⟨.sniffing, by decide, h⟩
      · cases h
    · cases hstream : streamOf? (protocolChoice w).value w with
      | none => rw [hstream] at h; cases h
      | some stream =>
        rw [hstream] at h
        rcases family_of_mem_streamReadNames h with h | h | h
        · exact ⟨.transport, by decide, h⟩
        · exact ⟨.security, by decide, h⟩
        · exact ⟨.sockopt, by decide, h⟩
  obtain ⟨family, hfamily, hmem⟩ := hother
  rcases hname with hprotocol | hsettings
  · rw [hprotocol] at hmem
    revert family
    decide +kernel
  · have hne : Family.settings ≠ family := by
      rintro rfl
      exact absurd hfamily (by decide)
    exact Family.disjoint_fieldNames hne hsettings hmem

/-- The selected protocol of an opened form is that of the document. -/
theorem protocol_parse (w : Json) : (parse w).protocol = (protocolChoice w).value := by
  rw [(Form.agreeOn_iff.mp (parse_settings w)).protocol (Or.inl rfl), fillSettings,
    Settings.fill_protocol]
  rfl

/-- The fallbacks of a document open as the rows of its list. -/
theorem fallbacks_parse {w : Json}
    (h : (protocolChoice w).value = .vless ∨ (protocolChoice w).value = .trojan) :
    (parse w).fallbacks = (Fallback.listStored (w.objectAt "settings")).map Fallback.toRow := by
  rw [(Form.agreeOn_iff.mp (parse_settings w)).fallbacks (Or.inr (by decide)), fillSettings]
  rcases h with h | h <;> rw [h] <;> rfl

/-- The accounts of a document open as the rows of its list, or as a blank row. -/
theorem accounts_parse {w : Json}
    (h : (protocolChoice w).value = .http ∨ (protocolChoice w).value = .socks) :
    (parse w).accounts =
      Account.fillRows (Account.listStored (w.objectAt "settings")) [AccountRow.blank] := by
  rw [(Form.agreeOn_iff.mp (parse_settings w)).accounts (Or.inr (by decide)), fillSettings]
  rcases h with h | h <;> rw [h] <;> rfl

/-- The settings of TLS of a document open over those of a new form. -/
theorem tls_parse {w stream : Json} (hstream : streamOf? (protocolChoice w).value w = some stream)
    (htls : (securityChoice stream).value = .tls) :
    (parse w).security = .tls ∧
      (parse w).tls = (Tls.ofStored (stream.objectAt "tlsSettings")).fill TlsForm.template := by
  have hsockopt (f : Form) : (fillSockopt stream f).security = f.security ∧
      (fillSockopt stream f).tls = f.tls := by
    rw [fillSockopt]
    split <;> exact ⟨rfl, rfl⟩
  have htransport (f : Form) : (fillTransport stream f).tls = f.tls := by
    rw [fillTransport]
    cases (networkChoice stream).value <;> rfl
  have hsniffing (f : Form) : (fillSniffing w f).tls = f.tls := by
    rw [fillSniffing]
    split <;> rfl
  have hsettings (f : Form) : (fillSettings (protocolChoice w).value w f).tls = f.tls := by
    rw [fillSettings]
    cases (protocolChoice w).value <;> rfl
  rw [parse, hstream, fillStream, (hsockopt _).1, (hsockopt _).2, fillSecurity, htls]
  refine ⟨rfl, ?_⟩
  simp only [SecuritySettings.ofStored?, SecuritySettings.fill, htransport, hsniffing, hsettings]
  rfl

/-! ## Normalized lists -/

/-- The settings of a form are stored as an object. -/
theorem objectAt_settings_serialize (form : Form) :
    (serialize form).objectAt "settings" = (Settings.ofForm form).toJson := by
  obtain ⟨_, _, _, _, hsettings, _⟩ := get?_serialize form
  exact objectAt_of_get? hsettings (Settings.isObject_toJson _)

/-- The settings of TLS of a form are stored in the stream layer. -/
theorem objectAt_tlsSettings_serialize {form : Form} (hstream : form.protocol.hasStream = true)
    (htls : form.security = .tls) :
    ((serialize form).objectAt "streamSettings").objectAt "tlsSettings" =
      (Tls.ofForm form.tls).toJson := by
  have hsettings : (Stream.ofForm form).toJson.get? "tlsSettings" =
      some (Tls.ofForm form.tls).toJson :=
    Stream.get?_toJson (by
      simp [Stream.ofForm, SecuritySettings.ofForm?, htls, Stream.securityFields,
        SecuritySettings.key, SecuritySettings.toJson])
  rw [objectAt_streamSettings_serialize hstream, objectAt_of_get? hsettings rfl]

/-- Normalizing a document with TLS lists the records of the stored certificates. -/
theorem certificates_normalize {w stream : Json}
    (hstream : streamOf? (protocolChoice w).value w = some stream)
    (htls : (securityChoice stream).value = .tls) :
    (((normalize w).objectAt "streamSettings").objectAt "tlsSettings").get? "certificates" =
      listing (((stream.objectAt "tlsSettings").itemsAt "certificates").filterMap
        Certificate.record?) := by
  obtain ⟨hsecurity, hopened⟩ := tls_parse hstream htls
  have hlayer : (parse w).protocol.hasStream = true := by
    rw [protocol_parse]
    by_contra hnone
    rw [streamOf?, if_neg hnone] at hstream
    cases hstream
  have hcertificates : (Tls.ofForm (parse w).tls).certificates =
      ((Tls.ofStored (stream.objectAt "tlsSettings")).certificates.map
        Certificate.toRow).filterMap Certificate.ofRow? := by
    rw [hopened, Tls.fill, Tls.certificates_fillCertificates rfl]
  rw [normalize, objectAt_tlsSettings_serialize hlayer hsecurity,
    ← Certificate.written_eq_listing, ← hcertificates]
  simp [Tls.toJson, get?_ofFields]

/-- Normalizing a document lists, for a protocol with fallbacks, for one with accounts and for a
stream layer with TLS, the records of the stored items that give one, in their order and no
others. -/
theorem normalize_recordLists (w : Json) :
    ((protocolChoice w).value = .vless ∨ (protocolChoice w).value = .trojan →
      ((normalize w).objectAt "settings").get? "fallbacks" =
        listing (((w.objectAt "settings").itemsAt "fallbacks").filterMap Fallback.record?)) ∧
    ((protocolChoice w).value = .http ∨ (protocolChoice w).value = .socks →
      ((normalize w).objectAt "settings").get? "accounts" =
        listing (((w.objectAt "settings").itemsAt "accounts").filterMap Account.record?)) ∧
    ∀ stream, streamOf? (protocolChoice w).value w = some stream →
      (securityChoice stream).value = .tls →
      (((normalize w).objectAt "streamSettings").objectAt "tlsSettings").get? "certificates" =
        listing (((stream.objectAt "tlsSettings").itemsAt "certificates").filterMap
          Certificate.record?) := by
  refine ⟨fun hprotocol => ?_, fun hprotocol => ?_, fun stream hstream htls => ?_⟩
  · rw [normalize, objectAt_settings_serialize, ← Fallback.written_eq_listing,
      ← fallbacks_parse hprotocol, Settings.ofForm, protocol_parse]
    rcases hprotocol with h | h <;> rw [h] <;> simp [Settings.toJson, get?_ofFields]
  · rw [normalize, objectAt_settings_serialize, ← Account.written_eq_listing,
      ← accounts_parse hprotocol, Settings.ofForm, protocol_parse]
    rcases hprotocol with h | h <;> rw [h] <;> simp [Settings.toJson, get?_ofFields]
  · exact certificates_normalize hstream htls

/-- Fallbacks of which one is no object and one has no destination, and certificates of which the
first holds nothing. -/
def fallbackDocument : Json :=
  object
    [ ("protocol", string "trojan"),
      ("settings", object [("fallbacks", array
        [ integer 8080,
          object [("alpn", texts ["h2, http/1.1", ","]), ("dest", string " 0080 ")],
          object [("dest", string " "), ("path", string "/lost")],
          object [("dest", string "@web"), ("path", string " /in"), ("xver", string "1")] ])]),
      ("streamSettings", object
        [ ("security", string "tls"),
          ("tlsSettings", object [("certificates", array
            [ object [("key", array [string " "])],
              object
                [("certificate", texts ["begin\nbody", "end"]), ("keyFile", integer 7)] ])]) ])]

/-- Accounts of which one has no user. -/
def accountDocument : Json :=
  object
    [ ("protocol", string "socks"),
      ("settings", object [("accounts", array
        [ object [("pass", string "lost")],
          object [("pass", string " b "), ("user", string " a ")],
          object [("pass", string ""), ("user", bool true)] ])])]

/-- The records of the two documents. -/
theorem normalize_recordLists_documents :
    ((protocolChoice fallbackDocument).value = .trojan ∧
      ((normalize fallbackDocument).objectAt "settings").get? "fallbacks" =
        some (array
          [ object [("alpn", texts ["h2", "http/1.1"]), ("dest", word 80)],
            object [("dest", string "@web"), ("path", string " /in"), ("xver", word 1)] ])) ∧
    ((protocolChoice accountDocument).value = .socks ∧
      ((normalize accountDocument).objectAt "settings").get? "accounts" =
        some (array
          [ object [("pass", string " b "), ("user", string "a")],
            object [("user", string "true")] ])) ∧
    (securityChoice (fallbackDocument.objectAt "streamSettings")).value = .tls ∧
      (((normalize fallbackDocument).objectAt "streamSettings").objectAt "tlsSettings").get?
        "certificates" =
        some (array
          [object [("certificate", texts ["begin", "body", "end"]), ("keyFile", string "7")]]) := by
  have hfallbacks : (protocolChoice fallbackDocument).value = .trojan := by decide +kernel
  have haccounts : (protocolChoice accountDocument).value = .socks := by decide +kernel
  have htls : (securityChoice (fallbackDocument.objectAt "streamSettings")).value = .tls := by
    decide +kernel
  have hstream : streamOf? (protocolChoice fallbackDocument).value fallbackDocument =
      some (fallbackDocument.objectAt "streamSettings") := by decide +kernel
  obtain ⟨hlisted, _, hcertificates⟩ := normalize_recordLists fallbackDocument
  obtain ⟨_, hnamed, _⟩ := normalize_recordLists accountDocument
  exact ⟨⟨hfallbacks, (hlisted (Or.inr hfallbacks)).trans (by decide +kernel)⟩,
    ⟨haccounts, (hnamed (Or.inr haccounts)).trans (by decide +kernel)⟩, htls,
    (hcertificates _ hstream htls).trans (by decide +kernel)⟩

end ProxyInbound.Conversion
