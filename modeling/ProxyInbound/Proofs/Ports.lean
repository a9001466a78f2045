import Mathlib.Logic.Function.Iterate
import ProxyInbound.Proofs.RecordLists
import ProxyInbound.Proofs.Steady
import ProxyInbound.Proofs.Text.Grammar

/-!
# Ports and destinations

A port is a number exactly if its text denotes one that fits a word, and is the trimmed text else.
The text of a port names the port again, and the port is read from its JSON as this text. Opening
and saving a stored form, over and over, therefore keeps the port of the inbound and the
destinations of its fallbacks.
-/

namespace ProxyInbound

open Json Text.White Text.Numeral Wire

/-! ## The port that a text names -/

namespace Wire.Port

/-- A text names a number exactly if it denotes it. -/
theorem ofText?_eq_some_number_iff {s : String} {w : UInt64} :
    ofText? s = some (number w) ↔ Kind.unsigned.Denotes s w.toNat := by
  rw [← Kind.read?_eq_some_iff, Kind.read?]
  constructor
  · intro h
    unfold ofText? at h
    split at h
    · cases h
    · split at h <;> rename_i hread
      · obtain rfl := number.inj (Option.some.inj h)
        rw [hread, Option.map_some]
      · cases h
  · intro h
    have hdenotes : Kind.unsigned.Denotes s w.toNat := Kind.read?_eq_some_iff.mp h
    have hvisible : blank s = false := hdenotes.not_blank
    obtain ⟨w', hread, hw⟩ := Option.map_eq_some_iff.mp h
    obtain rfl := UInt64.toNat_inj.mp (Int.ofNat.inj hw)
    rw [ofText?, hvisible, if_neg Bool.false_ne_true, hread]

/-- A text names another text exactly if this is what is left of it by trimming, and it neither is
blank nor denotes a number. -/
theorem ofText?_eq_some_text_iff {s t : String} :
    ofText? s = some (text t) ↔
      blank s = false ∧ t = trim s ∧ ∀ n, ¬ Kind.unsigned.Denotes s n := by
  rw [← Kind.read?_eq_none_iff, Kind.read?, Option.map_eq_none_iff]
  constructor
  · intro h
    unfold ofText? at h
    split at h <;> rename_i hblank
    · cases h
    · split at h <;> rename_i hread
      · cases h
      · exact ⟨Bool.eq_false_of_not_eq_true hblank, (text.inj (Option.some.inj h)).symm, hread⟩
  · rintro ⟨hvisible, rfl, hread⟩
    rw [ofText?, hvisible, if_neg Bool.false_ne_true, hread]

/-- A port is read from a member that holds its JSON as its text. -/
theorem textAt?_of_get?_toJson {v : Json} {key : String} {p : Port}
    (h : v.get? key = some p.toJson) : v.textAt? key = some p.toText := by
  rw [textAt?_of_get? h, scalarText?_toJson]

end Wire.Port

/-! ## Destinations -/

/-- Where the fallbacks of a form lead, in their order: nowhere unless its protocol has fallbacks.
A row without a destination is unfinished and leads nowhere. -/
def Form.destinations (form : Form) : List Port :=
  if form.protocol = .vless ∨ form.protocol = .trojan then
    form.fallbacks.filterMap fun row => Port.ofText? row.dest
  else []

/-- The fallbacks that a stored inbound lists. -/
def Conversion.storedFallbacks (w : Json) : List Json :=
  (w.objectAt "settings").itemsAt "fallbacks"

/-- The destinations that the fallbacks of a stored inbound have, none where one has none. -/
def Conversion.storedDestinations (w : Json) : List (Option Json) :=
  (storedFallbacks w).map fun item => item.get? "dest"

/-- Every fallback of rows has a destination, which is that of its row. -/
theorem Wire.Fallback.map_dest_ofRows (rows : List FallbackRow) :
    (ofRows rows).map Fallback.dest =
      (rows.filterMap fun row => Port.ofText? row.dest).map some := by
  rw [ofRows_eq, List.map_filterMap, List.map_filterMap]
  refine List.filterMap_congr fun row _ => ?_
  have hdest : (ofRow row).dest = Port.ofText? row.dest := rfl
  rw [ofRow?]
  cases h : Port.ofText? row.dest with
  | none => simp [hdest, h]
  | some p => simp [hdest, h]

namespace Conversion

/-- The stored inbound of a form lists the fallbacks of its finished rows if its protocol has
fallbacks, and none else. -/
theorem storedFallbacks_serialize (form : Form) :
    storedFallbacks (serialize form) =
      if form.protocol = .vless ∨ form.protocol = .trojan then
        (Fallback.ofRows form.fallbacks).map Fallback.toJson
      else [] := by
  rw [storedFallbacks, objectAt_settings_serialize]
  split <;> rename_i hprotocol
  · refine itemsAt_of_objectsField ?_
    rw [Settings.ofForm]
    rcases hprotocol with h | h <;> rw [h] <;> simp [Settings.toJson, get?_ofFields]
  · have hnone : (Settings.ofForm form).toJson.get? "fallbacks" = none := by
      rw [Settings.ofForm]
      cases h : form.protocol with
      | vless => exact absurd (Or.inl h) hprotocol
      | trojan => exact absurd (Or.inr h) hprotocol
      | vmess | shadowsocks | http | socks => simp [Settings.toJson, get?_ofFields]
    rw [itemsAt, itemsAt?, hnone]
    rfl

/-- The stored inbound of a form has the destinations of the form. -/
theorem storedDestinations_serialize (form : Form) :
    storedDestinations (serialize form) = form.destinations.map fun p => some p.toJson := by
  have hdest (f : Fallback) : f.toJson.get? "dest" = f.dest.map Port.toJson := by
    simp [Fallback.toJson, get?_ofFields]
  rw [storedDestinations, storedFallbacks_serialize, Form.destinations]
  split
  · have hports := congrArg (List.map (Option.map Port.toJson))
      (Fallback.map_dest_ofRows form.fallbacks)
    rw [List.map_map, List.map_map] at hports
    rw [List.map_map]
    simp only [Function.comp_def, hdest]
    exact hports
  · rfl

/-! ## Passes -/

/-- Saving turns reopening a form into normalizing what was saved of it. -/
theorem semiconj_serialize : Function.Semiconj serialize Form.reopened normalize := by
  intro form
  rw [normalize, parse_serialize, serialize, serialize, Form.ofForm_selected]

end Conversion

/-- A form that is reopened has the port and the destinations that it had. -/
theorem Form.ports_reopened (form : Form) :
    Port.ofText form.reopened.port = Port.ofText form.port ∧
      form.reopened.destinations = form.destinations := by
  refine ⟨Port.ofText_toText form.port, ?_⟩
  have hprotocol : form.reopened.protocol = form.protocol := rfl
  have hrows : form.reopened.fallbacks = FallbackRow.reopened form.fallbacks := rfl
  have hports := Fallback.map_dest_ofRows (FallbackRow.reopened form.fallbacks)
  rw [FallbackRow.ofRows_reopened, Fallback.map_dest_ofRows] at hports
  rw [destinations, destinations, hprotocol, hrows,
    List.map_injective_iff.mpr (Option.some_injective _) hports]

/-- A form that is reopened any number of times has the port and the destinations that it had. -/
theorem Form.ports_iterate_reopened (k : Nat) (form : Form) :
    Port.ofText (reopened^[k] form).port = Port.ofText form.port ∧
      (reopened^[k] form).destinations = form.destinations := by
  induction k with
  | zero => exact ⟨rfl, rfl⟩
  | succ k ih =>
    obtain ⟨hport, hdestinations⟩ := ports_reopened (reopened^[k] form)
    rw [Function.iterate_succ_apply']
    exact ⟨hport.trans ih.1, hdestinations.trans ih.2⟩

open Conversion

/-- A text names no port exactly if it is blank, a number exactly if it denotes it, and the trimmed
text else. The text of a port that a text names names the port again, and is read from its JSON.
The port and the destinations that are stored of a form are those that its texts name, however often
the inbound is opened and saved again. -/
theorem port_codec :
    (∀ s,
      (Port.ofText? s = none ↔ blank s = true) ∧
      (∀ w, Port.ofText? s = some (.number w) ↔ Kind.unsigned.Denotes s w.toNat) ∧
      (∀ t, Port.ofText? s = some (.text t) ↔
        blank s = false ∧ t = trim s ∧ ∀ n, ¬ Kind.unsigned.Denotes s n)) ∧
    (∀ s p, Port.ofText? s = some p →
      Port.ofText? p.toText = some p ∧
      ∀ (v : Json) key, v.get? key = some p.toJson → v.textAt? key = some p.toText) ∧
    ∀ form,
      (serialize form).get? "port" = some (Port.ofText form.port).toJson ∧
      storedDestinations (serialize form) = (form.destinations.map fun p => some p.toJson) ∧
      ∀ k,
        (normalize^[k] (serialize form)).get? "port" = (serialize form).get? "port" ∧
        storedDestinations (normalize^[k] (serialize form)) =
          storedDestinations (serialize form) := by
  have hport (form : Form) :
      (serialize form).get? "port" = some (Port.ofText form.port).toJson := by
    obtain ⟨_, _, hport, _⟩ := get?_serialize form
    exact hport
  refine ⟨fun s => ⟨Port.ofText?_eq_none_iff s, fun w => Port.ofText?_eq_some_number_iff,
    fun t => Port.ofText?_eq_some_text_iff⟩, fun s p h => ⟨Port.ofText?_toText h,
    fun v key hget => Port.textAt?_of_get?_toJson hget⟩, fun form => ?_⟩
  refine ⟨hport form, storedDestinations_serialize form, fun k => ?_⟩
  obtain ⟨hkept, hdestinations⟩ := Form.ports_iterate_reopened k form
  rw [← semiconj_serialize.iterate_right k form]
  constructor
  · rw [hport, hport, hkept]
  · rw [storedDestinations_serialize, storedDestinations_serialize, hdestinations]

/-- A padded numeral with a sign and leading zeros names a number, whose text names it again. -/
theorem port_codec_padded :
    Port.ofText? "\u3000+00443 " = some (.number 443) ∧
      Port.ofText? (Port.number 443).toText = some (.number 443) ∧
      (object [("dest", (Port.number 443).toJson)]).textAt? "dest" =
        some (Port.number 443).toText := by
  have hnamed : Port.ofText? "\u3000+00443 " = some (.number 443) := by decide +kernel
  obtain ⟨hagain, hread⟩ := port_codec.2.1 _ _ hnamed
  exact ⟨hnamed, hagain, hread _ "dest" rfl⟩

end ProxyInbound
