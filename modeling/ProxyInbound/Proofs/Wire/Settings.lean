import ProxyInbound.Proofs.Wire.Optional
import ProxyInbound.Wire.Settings
import ProxyInbound.Wire.Sockopt

/-!
# Protocol settings and socket options read back

The settings that a form describes for its protocol are read back from their own JSON, and so are
the socket options that it describes. Ports are kept either as the number they name or as trimmed
text that names none, so the text of a port names the port again.
-/

namespace ProxyInbound.Wire

open Json Text.White Text.Numeral

/-! ## Ports -/

namespace Port

/-- The text of a port that a text names is not blank. -/
theorem blank_toText {s : String} {p : Port} (h : ofText? s = some p) :
    blank p.toText = false := by
  unfold ofText? at h
  split at h <;> rename_i hblank
  · cases h
  · rw [Bool.not_eq_true] at hblank
    cases hn : unsigned? s with
    | some n =>
      rw [hn] at h
      obtain rfl := Option.some.inj h
      exact blank_unsignedText n
    | none =>
      rw [hn] at h
      obtain rfl := Option.some.inj h
      rw [toText, blank_trim, hblank]

/-- The text of a port that a text names names the port. -/
theorem ofText?_toText {s : String} {p : Port} (h : ofText? s = some p) :
    ofText? p.toText = some p := by
  have hvisible := blank_toText h
  unfold ofText? at h
  split at h <;> rename_i hblank
  · cases h
  · cases hn : unsigned? s with
    | some n =>
      rw [hn] at h
      obtain rfl := Option.some.inj h
      rw [ofText?, hvisible, if_neg Bool.false_ne_true, toText, unsigned?_unsignedText]
    | none =>
      rw [hn] at h
      obtain rfl := Option.some.inj h
      rw [ofText?, hvisible, if_neg Bool.false_ne_true, toText, unsigned?_trim, hn, trim_trim]

/-- The text of the port that a text names names it, zero for a blank text included. -/
@[simp] theorem ofText_toText (s : String) : ofText (ofText s).toText = ofText s := by
  cases h : ofText? s with
  | none =>
    rw [ofText, ofText, h]
    rfl
  | some p => rw [ofText, ofText, h, Option.getD_some, ofText?_toText h, Option.getD_some]

/-- A port is written so that its text is read back. -/
@[simp] theorem scalarText?_toJson (p : Port) : p.toJson.scalarText? = some p.toText := by
  cases p <;> rfl

/-- A port that a text names is read back. -/
theorem bind_toJson (s : String) :
    (((ofText? s).map toJson).bind scalarText?).bind ofText? = ofText? s := by
  cases h : ofText? s with
  | none => rfl
  | some p => rw [Option.map_some, Option.bind_some, scalarText?_toJson, Option.bind_some,
      ofText?_toText h]

end Port

/-! ## Fallbacks and accounts -/

/-- A fallback of a row is read back. -/
theorem Fallback.ofStored_toJson (row : FallbackRow) :
    Fallback.ofStored (Fallback.ofRow row).toJson = Fallback.ofRow row := by
  simp [ofStored, toJson, ofRow, textAt?, textsAt, textsAt?, wordAt?, get?_ofFields,
    Port.bind_toJson]

/-- The fallbacks of rows are read back from the settings that list them. -/
theorem Fallback.listStored_of_field {settings : Json} (rows : List FallbackRow)
    (h : settings.get? "fallbacks" = objectsField Fallback.toJson (Fallback.ofRows rows)) :
    Fallback.listStored settings = Fallback.ofRows rows := by
  rw [listStored, itemsAt_of_objectsField h]
  refine map_filter_isObject (fun _ => isObject_ofFields _) fun f hf => ?_
  obtain ⟨row, _, rfl⟩ := List.mem_map.mp (List.mem_filter.mp hf).1
  exact ofStored_toJson row

/-- An account of a row is read back. -/
theorem Account.ofStored?_toJson {row : AccountRow} {a : Account}
    (h : Account.ofRow? row = some a) : Account.ofStored? a.toJson = some a := by
  unfold ofRow? at h
  split at h
  · cases h
  · obtain rfl := Option.some.inj h
    simp [ofStored?, toJson, textAt?, get?_ofFields, scalarText?]

/-- The accounts of rows are read back from the settings that list them. -/
theorem Account.listStored_of_field {settings : Json} (rows : List AccountRow)
    (h : settings.get? "accounts" =
      objectsField Account.toJson (rows.filterMap Account.ofRow?)) :
    Account.listStored settings = rows.filterMap Account.ofRow? := by
  rw [listStored, itemsAt_of_objectsField h, List.filterMap_map]
  refine (List.filterMap_congr fun a ha => ?_).trans List.filterMap_some
  obtain ⟨row, _, hrow⟩ := List.mem_filterMap.mp ha
  exact ofStored?_toJson hrow

/-! ## Settings -/

/-- The settings are written as an object. -/
theorem Settings.isObject_toJson (settings : Settings) : settings.toJson.isObject = true := by
  cases settings <;> rfl

/-- The settings of a form are read back from their JSON. -/
theorem Settings.ofStored_toJson (form : Form) :
    Settings.ofStored form.protocol (Settings.ofForm form).toJson = Settings.ofForm form := by
  unfold Settings.ofForm
  cases form.protocol with
  | vmess => rfl
  | vless =>
    simp only [ofStored, toJson]
    rw [Fallback.listStored_of_field form.fallbacks (by simp [get?_ofFields])]
    simp [textAt?, get?_ofFields]
  | trojan =>
    simp only [ofStored, toJson]
    rw [Fallback.listStored_of_field form.fallbacks (by simp [get?_ofFields])]
  | shadowsocks => simp [ofStored, toJson, textAt?, get?_ofFields]
  | http =>
    simp only [ofStored, toJson]
    rw [Account.listStored_of_field form.accounts (by simp [get?_ofFields])]
    simp [flagAt?, get?_ofFields, toFlag?]
  | socks =>
    simp only [ofStored, toJson]
    rw [Account.listStored_of_field form.accounts (by simp [get?_ofFields])]
    simp [textAt?, flagAt?, get?_ofFields, toFlag?]

/-- The socket options of a form are read back from their JSON. -/
theorem Sockopt.ofStored_toJson (f : SockoptForm) :
    Sockopt.ofStored (Sockopt.ofForm f).toJson = Sockopt.ofForm f := by
  simp [ofStored, toJson, ofForm, textAt?, flagAt?, wordAt?, signedWordAt?, get?_ofFields]

end ProxyInbound.Wire
