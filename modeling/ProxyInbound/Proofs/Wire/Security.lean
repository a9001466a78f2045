import ProxyInbound.Proofs.Wire.Optional
import ProxyInbound.Wire.Security

/-!
# Security settings read back

The settings that a form describes for its security are read back from their own JSON, certificates
and client parameters included. Without security nothing is written and nothing is read.
-/

namespace ProxyInbound.Wire

open Json Text.White

/-- A certificate of a row is read back. -/
theorem Certificate.ofStored_toJson {row : CertificateRow} {c : Certificate}
    (h : Certificate.ofRow? row = some c) : Certificate.ofStored c.toJson = c := by
  rw [ofRow?] at h
  split at h
  · cases h
  · obtain rfl := Option.some.inj h
    simp [ofStored, toJson, textAt?, textsAt, textsAt?, get?_ofFields]

/-- The settings of TLS that a form describes are read back. -/
theorem Tls.ofStored_toJson (f : TlsForm) :
    Tls.ofStored (Tls.ofForm f).toJson = Tls.ofForm f := by
  have hcertificates : (((Tls.ofForm f).certificates.map Certificate.toJson).filter
      isObject).map Certificate.ofStored = (Tls.ofForm f).certificates := by
    refine map_filter_isObject (fun _ => isObject_ofFields _) fun c hc => ?_
    obtain ⟨row, _, hrow⟩ := List.mem_filterMap.mp hc
    exact Certificate.ofStored_toJson hrow
  simp only [ofStored, toJson, textAt?, textsAt, textsAt?, flagAt?, itemsAt, itemsAt?]
  simp only [ofForm] at hcertificates ⊢
  simp [get?_ofFields, hcertificates]

/-- Client parameters that a form describes are read back. -/
theorem RealityClient.ofStored_toJson {f : RealityForm} {c : RealityClient}
    (h : RealityClient.ofForm? f = some c) : RealityClient.ofStored c.toJson = c := by
  unfold ofForm? at h
  split at h
  · cases h
  · obtain rfl := Option.some.inj h
    simp [ofStored, toJson, textAt?, get?_ofFields]

/-- The settings of REALITY that a form describes are read back. -/
theorem Reality.ofStored_toJson (f : RealityForm) :
    Reality.ofStored (Reality.ofForm f).toJson = Reality.ofForm f := by
  have hclient : (((RealityClient.ofForm? f).map RealityClient.toJson).filter isObject).map
      RealityClient.ofStored = RealityClient.ofForm? f := by
    rw [filter_isObject_map RealityClient.toJson fun _ => isObject_ofFields _]
    cases h : RealityClient.ofForm? f with
    | none => rfl
    | some c => rw [Option.map_some, Option.map_some, RealityClient.ofStored_toJson h]
  simp [ofStored, toJson, ofForm, textAt?, textsAt, textsAt?, flagAt?, wordAt?, objectAt?,
    get?_ofFields, hclient]

/-- The settings of the security that a form describes are read back from stream settings that
hold them. -/
theorem SecuritySettings.ofStored?_of_get? {form : Form} {stream : Json}
    (h : ∀ s, SecuritySettings.ofForm? form = some s → stream.get? s.key = some s.toJson) :
    SecuritySettings.ofStored? form.security stream = SecuritySettings.ofForm? form := by
  unfold SecuritySettings.ofForm? at h ⊢
  cases hs : form.security with
  | none => rfl
  | tls =>
    have hget := h (tls (Tls.ofForm form.tls)) (by rw [hs])
    have hobject := objectAt_of_get? hget (isObject_ofFields _)
    rw [key] at hobject
    rw [ofStored?, hobject, toJson, Tls.ofStored_toJson]
  | reality =>
    have hget := h (reality (Reality.ofForm form.reality)) (by rw [hs])
    have hobject := objectAt_of_get? hget (isObject_ofFields _)
    rw [key] at hobject
    rw [ofStored?, hobject, toJson, Reality.ofStored_toJson]

end ProxyInbound.Wire
