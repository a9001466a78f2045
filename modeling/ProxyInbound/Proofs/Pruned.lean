import ProxyInbound.Proofs.Reopening.Form
import ProxyInbound.Proofs.Wire.Pruned

/-!
# Saved inbounds are pruned

An inbound that is saved holds nothing that says nothing, whatever was typed into its form. Two
places are exempt: the name of the inbound, which may be empty, and the clients, which are written
as an empty array under every protocol that has users.
-/

namespace ProxyInbound.Conversion

open Json Text.White Wire

/-- The places of a saved inbound that may hold nothing: its name and its clients. -/
def exemptPlaces : List (List Place) :=
  [[.member "tag"], .member "settings" :: clientsPlace]

/-- The settings of a form list clients, none, exactly if its protocol has users. -/
theorem get?_clients (form : Form) :
    (Settings.ofForm form).toJson.get? "clients" =
      if form.protocol.carriesClients then some (.array []) else none := by
  unfold Settings.ofForm
  cases form.protocol <;>
    simp [Settings.toJson, get?_ofFields, Settings.noClients, Protocol.carriesClients]

/-- A saved inbound holds nothing blank or empty at any depth but its name and its clients, which
are listed, as none, exactly for a protocol with users. -/
theorem serialize_prunedExcept (form : Form) :
    PrunedExcept exemptPlaces (serialize form) ∧
      ((serialize form).objectAt "settings").get? "clients" =
        if form.protocol.carriesClients then some (.array []) else none := by
  constructor
  · have htag : FitsExcept exemptPlaces "tag" (some (.string form.tag)) := by
      intro v hv
      obtain rfl := Option.some.inj hv
      exact ⟨Or.inl List.mem_cons_self, (pruned_of_scalarText? rfl).prunedExcept _⟩
    have hprotocol : Fits (some (.string (Named.name form.protocol))) :=
      fits_string (by cases form.protocol <;> decide)
    have hsettings : FitsExcept exemptPlaces "settings" (some (Settings.ofForm form).toJson) := by
      intro v hv
      obtain rfl := Option.some.inj hv
      have hinside : inside (.member "settings") exemptPlaces = [clientsPlace] := by decide
      rw [hinside]
      exact ⟨Or.inr (isVoid_of_isObject (Settings.isObject_toJson _)),
        Settings.prunedExcept_toJson form⟩
    have hstream : Fits ((Inbound.ofForm form).stream.map Stream.toJson) := by
      refine fits_section fun s hs => ⟨rfl, ?_⟩
      rw [Inbound.ofForm] at hs
      split at hs
      · exact Option.some.inj hs ▸ Stream.pruned_toJson form
      · cases hs
    have hsniffing : Fits (some (Sniffing.ofForm form.sniffing).toJson) :=
      fits_some rfl (Sniffing.pruned_toJson form.sniffing)
    refine prunedExcept_ofFields (by simp +decide) ?_
    simpa [Inbound.ofForm, htag, hsettings, Settings.protocol_ofForm,
      (fits_textField _).fitsExcept, (fits_ofText _).fitsExcept, hprotocol.fitsExcept,
      hsniffing.fitsExcept] using hstream.fitsExcept exemptPlaces "streamSettings"
  · obtain ⟨_, _, _, _, hsettings, _, _⟩ := get?_serialize form
    rw [objectAt_of_get? hsettings (Settings.isObject_toJson _), get?_clients]

end ProxyInbound.Conversion
