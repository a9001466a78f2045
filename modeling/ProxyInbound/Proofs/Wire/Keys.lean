import ProxyInbound.Proofs.Entries
import ProxyInbound.Wire.Inbound

/-!
# Keys of saved sections

A saved section has the keys of those of its fields that have a value. The settings of a protocol
have keys of that protocol only, and a stream layer has, beside its network and its security, the
settings of exactly these.
-/

namespace ProxyInbound

namespace Json

/-- The keys of an object. -/
def keys : Json → List String
  | object members => members.map (·.1)
  | _ => []

/-- The keys of a built object are those of the fields that have a value. -/
theorem mem_keys_ofFields {fields : List (String × Option Json)} {key : String} :
    key ∈ (ofFields fields).keys ↔ ∃ v, (key, some v) ∈ fields := by
  rw [ofFields, ofMembers, keys, Entries.mem_keys_ofList, List.mem_map]
  constructor
  · rintro ⟨m, hm, rfl⟩
    obtain ⟨f, hf, hvalue⟩ := List.mem_filterMap.mp hm
    obtain ⟨v, hv, rfl⟩ := Option.map_eq_some_iff.mp hvalue
    exact ⟨v, hv ▸ hf⟩
  · rintro ⟨v, hv⟩
    exact ⟨(key, v), List.mem_filterMap.mpr ⟨_, hv, rfl⟩, rfl⟩

/-- A built object has no keys but those of its fields. -/
theorem keys_ofFields_subset (fields : List (String × Option Json)) :
    (ofFields fields).keys ⊆ fields.map (·.1) := by
  intro key hkey
  obtain ⟨v, hv⟩ := mem_keys_ofFields.mp hkey
  exact List.mem_map_of_mem hv

end Json

/-- The keys that the settings of a protocol may have. -/
def Protocol.settingsKeys : Protocol → List String
  | vmess => ["clients"]
  | vless => ["clients", "decryption", "fallbacks"]
  | trojan => ["clients", "fallbacks"]
  | shadowsocks => ["clients", "method", "password", "network"]
  | http => ["accounts", "allowTransparent"]
  | socks => ["auth", "accounts", "udp", "ip"]

/-- The keys of the stream layer that a form describes. -/
def Form.streamKeys (form : Form) : List String :=
  ["network", "security", form.network.settingsKey] ++ form.security.settingsKey?.toList ++
    if form.sockopt.enabled then ["sockopt"] else []

namespace Wire

open Json

/-- The settings of a protocol have keys of this protocol. -/
theorem Settings.keys_toJson (s : Settings) : s.toJson.keys ⊆ s.protocol.settingsKeys := by
  cases s <;> exact keys_ofFields_subset _

/-- The stream layer of a form has exactly the keys that the form describes. -/
theorem Stream.mem_keys_toJson (form : Form) (key : String) :
    key ∈ (Stream.ofForm form).toJson.keys ↔ key ∈ form.streamKeys := by
  rw [toJson, mem_keys_ofFields, Form.streamKeys]
  unfold ofForm SecuritySettings.ofForm?
  cases form.security <;> cases form.sockopt.enabled <;>
    simp [exists_or, Transport.network_ofForm, securityFields, Security.settingsKey?,
      SecuritySettings.key]

end Wire

end ProxyInbound
