import ProxyInbound.Header.Map
import ProxyInbound.Proofs.Header.Stored

/-!
# Taking hosts out and putting them in

Draining takes the first host header of a map, whatever its spelling, and joins its values to the
hosts that are there, each once. Putting enters hosts under the usual spelling, in the place of what
stands there. A map in which no other spelling is left gives back the hosts that were put.
-/

namespace ProxyInbound.HeaderMap

open Json Text.Ascii Text.White Text.Parts

/-! ## Appending each value once -/

/-- Values are appended one after the other. -/
theorem appendMissing_cons (hosts : List String) (v : String) (vs : List String) :
    appendMissing hosts (v :: vs) =
      appendMissing (if v ∈ hosts then hosts else hosts ++ [v]) vs := rfl

/-- The values that are there afterwards are those that were there and those appended. -/
theorem mem_appendMissing {hosts vs : List String} {v : String} :
    v ∈ appendMissing hosts vs ↔ v ∈ hosts ∨ v ∈ vs := by
  induction vs generalizing hosts with
  | nil => simp [appendMissing_nil]
  | cons w r ih =>
    rw [appendMissing_cons, ih, List.mem_cons]
    split <;> rename_i hw
    · constructor
      · exact Or.imp_right Or.inr
      · rintro (h | rfl | h)
        · exact Or.inl h
        · exact Or.inl hw
        · exact Or.inr h
    · rw [List.mem_append, List.mem_singleton, or_assoc]

/-- What was there stays in front. -/
theorem prefix_appendMissing (hosts vs : List String) : hosts <+: appendMissing hosts vs := by
  induction vs generalizing hosts with
  | nil => exact List.prefix_rfl
  | cons w r ih =>
    rw [appendMissing_cons]
    split
    · exact ih hosts
    · exact (List.prefix_append hosts [w]).trans (ih _)

/-- Appending keeps the values different. -/
theorem nodup_appendMissing {hosts : List String} (h : hosts.Nodup) (vs : List String) :
    (appendMissing hosts vs).Nodup := by
  induction vs generalizing hosts with
  | nil => exact h
  | cons w r ih =>
    rw [appendMissing_cons]
    split <;> rename_i hw
    · exact ih h
    · exact ih (List.nodup_append.mpr ⟨h, List.pairwise_singleton _ w, fun a ha b hb hab =>
        hw (List.mem_singleton.mp hb ▸ hab ▸ ha)⟩)

/-- The values are different afterwards exactly when they were before. -/
theorem nodup_appendMissing_iff {hosts vs : List String} :
    (appendMissing hosts vs).Nodup ↔ hosts.Nodup :=
  ⟨fun h => h.sublist (prefix_appendMissing hosts vs).sublist, fun h => nodup_appendMissing h vs⟩

/-- Values that are all different are all appended. -/
theorem appendMissing_eq_append {hosts vs : List String} (h : (hosts ++ vs).Nodup) :
    appendMissing hosts vs = hosts ++ vs := by
  induction vs generalizing hosts with
  | nil => rw [appendMissing_nil, List.append_nil]
  | cons w r ih =>
    have hw : w ∉ hosts := fun hmem =>
      (List.nodup_append.mp h).2.2 w hmem w List.mem_cons_self rfl
    have happ : hosts ++ w :: r = (hosts ++ [w]) ++ r := by
      rw [List.append_assoc, List.singleton_append]
    rw [appendMissing_cons, if_neg hw, ih (happ ▸ h), happ]

/-- Appended to nothing, values are as they were exactly when they are all different. -/
theorem appendMissing_nil_left_iff {vs : List String} : appendMissing [] vs = vs ↔ vs.Nodup :=
  ⟨fun h => h ▸ nodup_appendMissing List.nodup_nil vs, fun h => appendMissing_eq_append h⟩

/-- Values of which each was taken once are taken as they are. -/
@[simp] theorem appendMissing_appendMissing_nil (vs : List String) :
    appendMissing [] (appendMissing [] vs) = appendMissing [] vs :=
  appendMissing_nil_left_iff.mpr (nodup_appendMissing List.nodup_nil vs)

/-- Nothing is there afterwards exactly when nothing was there and nothing was appended. -/
theorem appendMissing_eq_nil_iff {hosts vs : List String} :
    appendMissing hosts vs = [] ↔ hosts = [] ∧ vs = [] := by
  simp only [List.eq_nil_iff_forall_not_mem, mem_appendMissing, not_or, forall_and]

/-! ## The first host header -/

/-- Whether a name is that of the host header, whatever its ASCII case. -/
def isHost (name : String) : Bool :=
  sameName name hostName

/-- The usual spelling is one of the host header. -/
@[simp] theorem isHost_hostName : isHost hostName = true := sameName_refl hostName

/-- The first host header. -/
def firstHost? (m : HeaderMap) : Option (String × HeaderValue) :=
  m.entries.find? fun e => isHost e.1

/-- The values of the first host header. -/
def firstHostValues (m : HeaderMap) : List String :=
  (m.firstHost?.map fun e => e.2.values).getD []

/-- The map without its first host header. -/
def dropHost (m : HeaderMap) : HeaderMap :=
  match m.firstHost? with
  | none => m
  | some e => m.remove e.1

/-- A map without host headers. -/
def HostFree (m : HeaderMap) : Prop :=
  ∀ e ∈ m.entries, isHost e.1 = false

/-- A map whose host header, if it has one, has the usual spelling. -/
def UsualHost (m : HeaderMap) : Prop :=
  ∀ e ∈ m.entries, isHost e.1 = true → e.1 = hostName

/-- The first host header is a host header of the map. -/
theorem mem_of_firstHost? {m : HeaderMap} {e : String × HeaderValue}
    (h : m.firstHost? = some e) : e ∈ m.entries ∧ isHost e.1 = true := by
  have hhost := List.find?_some h
  exact ⟨List.mem_of_find?_eq_some h, hhost⟩

/-- There is no first host header exactly when there is none at all. -/
theorem firstHost?_eq_none_iff {m : HeaderMap} : m.firstHost? = none ↔ HostFree m := by
  simp only [firstHost?, List.find?_eq_none, Bool.not_eq_true, HostFree]

/-- Taking the host header takes the first and leaves the other headers. -/
theorem take_hostName (m : HeaderMap) :
    m.take hostName = (m.firstHost?.map (·.2), m.dropHost) := by
  have hname : m.nameLike? hostName = m.firstHost?.map (·.1) := rfl
  rw [take, hname, dropHost]
  cases h : m.firstHost? with
  | none => rfl
  | some e =>
    have hfind : m.find? e.1 = some e.2 := find?_eq_some_iff.mpr (mem_of_firstHost? h).1
    simp only [Option.map_some, hfind]

/-- The values of the first host header are those of the value that is taken. -/
theorem firstHostValues_eq (m : HeaderMap) :
    ((m.firstHost?.map (·.2)).map HeaderValue.values).getD [] = m.firstHostValues := by
  rw [Option.map_map]
  rfl

/-- Draining takes the values of the first host header and leaves the other headers. -/
theorem drainHost_eq (m : HeaderMap) (hosts : List String) :
    m.drainHost hosts = (appendMissing hosts m.firstHostValues, m.dropHost) := by
  rw [drainHost, take_hostName]
  simp only [firstHostValues_eq]

/-- A map without host headers has no values of one. -/
theorem HostFree.firstHostValues_eq {m : HeaderMap} (h : HostFree m) :
    m.firstHostValues = [] := by
  rw [firstHostValues, firstHost?_eq_none_iff.mpr h]
  rfl

/-- A map without host headers is left as it is. -/
theorem HostFree.dropHost_eq {m : HeaderMap} (h : HostFree m) : m.dropHost = m := by
  rw [dropHost, firstHost?_eq_none_iff.mpr h]

/-- A map without host headers has none with an unusual spelling. -/
theorem HostFree.usualHost {m : HeaderMap} (h : HostFree m) : UsualHost m := by
  intro e he hhost
  rw [h e he] at hhost
  cases hhost

/-- What is left without the first host header was there. -/
theorem mem_of_mem_dropHost {m : HeaderMap} {e : String × HeaderValue}
    (h : e ∈ m.dropHost.entries) : e ∈ m.entries := by
  unfold dropHost at h
  split at h
  · exact h
  · exact (Entries.mem_remove_iff.mp h).1

/-- A map with a value under each name has no host header exactly when the first has no values. -/
theorem Populated.firstHostValues_eq_nil_iff {m : HeaderMap} (h : Populated m) :
    m.firstHostValues = [] ↔ HostFree m := by
  refine ⟨fun hnil => ?_, HostFree.firstHostValues_eq⟩
  rw [← firstHost?_eq_none_iff]
  cases hf : m.firstHost? with
  | none => rfl
  | some e =>
    rw [firstHostValues, hf] at hnil
    exact absurd hnil (h e (mem_of_firstHost? hf).1)

/-- The first host header of a map with the usual spelling only is what this spelling finds. -/
theorem UsualHost.firstHost?_eq {m : HeaderMap} (h : UsualHost m) :
    m.firstHost? = (m.find? hostName).map fun value => (hostName, value) := by
  cases hf : m.firstHost? with
  | none =>
    cases hv : m.find? hostName with
    | none => rfl
    | some value =>
      have hfree := firstHost?_eq_none_iff.mp hf _ (find?_eq_some_iff.mp hv)
      rw [isHost_hostName] at hfree
      cases hfree
  | some e =>
    obtain ⟨he, hhost⟩ := mem_of_firstHost? hf
    have hname := h e he hhost
    have hfind : m.find? hostName = some e.2 := hname ▸ find?_eq_some_iff.mpr he
    rw [hfind, ← hname]
    rfl

/-- A map with the usual spelling only loses what this spelling finds. -/
theorem UsualHost.dropHost_eq {m : HeaderMap} (h : UsualHost m) :
    m.dropHost = m.remove hostName := by
  rw [dropHost, h.firstHost?_eq]
  cases hv : m.find? hostName with
  | some value => rfl
  | none =>
    apply ext_find?
    intro name
    simp only [Option.map_none]
    rw [find?_remove]
    split <;> rename_i hname
    · rw [hname, hv]
    · rfl

/-- Without the usual spelling no host header is left of a map that has no other. -/
theorem UsualHost.hostFree_remove {m : HeaderMap} (h : UsualHost m) :
    HostFree (m.remove hostName) := by
  intro e he
  obtain ⟨hmem, hne⟩ := Entries.mem_remove_iff.mp he
  cases hhost : isHost e.1 with
  | false => rfl
  | true => exact absurd (h e hmem hhost) hne

/-! ## Putting hosts in -/

/-- No hosts leave the map as it is. -/
@[simp] theorem putHosts_nil (m : HeaderMap) (value : List String → HeaderValue) :
    m.putHosts value [] = m := rfl

/-- Hosts are entered under the usual spelling. -/
theorem putHosts_of_ne_nil (m : HeaderMap) (value : List String → HeaderValue)
    {hosts : List String} (h : hosts ≠ []) :
    m.putHosts value hosts = m.insert hostName (value hosts) := by
  rw [putHosts, if_neg (fun hempty => h (List.isEmpty_iff.mp hempty))]

/-- Putting hosts changes nothing under another name. -/
theorem find?_putHosts_of_ne (m : HeaderMap) (value : List String → HeaderValue)
    (hosts : List String) {name : String} (h : name ≠ hostName) :
    (m.putHosts value hosts).find? name = m.find? name := by
  by_cases hnil : hosts = []
  · rw [hnil, putHosts_nil]
  · rw [putHosts_of_ne_nil m value hnil, find?_insert, if_neg h]

/-- Hosts do not add another spelling. -/
theorem UsualHost.putHosts {m : HeaderMap} (h : UsualHost m) (value : List String → HeaderValue)
    (hosts : List String) : UsualHost (m.putHosts value hosts) := by
  by_cases hnil : hosts = []
  · rwa [hnil, putHosts_nil]
  · rw [putHosts_of_ne_nil m value hnil]
    intro e he hhost
    rcases m.ascending.mem_insert_iff.mp he with rfl | ⟨hmem, _⟩
    · rfl
    · exact h e hmem hhost

/-- A map has no other spelling if it has none with hosts put into it. -/
theorem UsualHost.of_putHosts {m : HeaderMap} {value : List String → HeaderValue}
    {hosts : List String} (h : UsualHost (m.putHosts value hosts)) : UsualHost m := by
  intro e he hhost
  by_contra hne
  have hfind := find?_putHosts_of_ne m value hosts hne
  rw [find?_eq_some_iff.mpr he] at hfind
  exact hne (h e (find?_eq_some_iff.mp hfind) hhost)

/-- What is entered under a name is entered as well if the name is taken out first. -/
theorem remove_insert (m : HeaderMap) (name : String) (value : HeaderValue) :
    (m.remove name).insert name value = m.insert name value := by
  refine ext_find? fun key => ?_
  rw [find?_insert, find?_insert, find?_remove]
  split <;> rfl

/-- A name that was entered and taken out again is as if it had been taken out at once. -/
theorem insert_remove (m : HeaderMap) (name : String) (value : HeaderValue) :
    (m.insert name value).remove name = m.remove name := by
  refine ext_find? fun key => ?_
  rw [find?_remove, find?_remove, find?_insert]
  split <;> rfl

/-- Hosts that were put are taken out again, and with them those they replaced. -/
theorem UsualHost.dropHost_putHosts {m : HeaderMap} (h : UsualHost m)
    (value : List String → HeaderValue) (hosts : List String) :
    (m.putHosts value hosts).dropHost = m.remove hostName := by
  rw [(h.putHosts value hosts).dropHost_eq]
  by_cases hnil : hosts = []
  · rw [hnil, putHosts_nil]
  · rw [putHosts_of_ne_nil m value hnil, insert_remove]

/-- The values of hosts that were put are the hosts. -/
theorem UsualHost.firstHostValues_putHosts {m : HeaderMap} (h : UsualHost m)
    {value : List String → HeaderValue} (hvalue : ∀ hosts, (value hosts).values = hosts)
    {hosts : List String} (hne : hosts ≠ []) :
    (m.putHosts value hosts).firstHostValues = hosts := by
  rw [firstHostValues, (h.putHosts value hosts).firstHost?_eq, putHosts_of_ne_nil m value hne,
    find?_insert, if_pos rfl]
  exact hvalue hosts

/-- Hosts that were put into a map without any are the only ones. -/
theorem HostFree.firstHostValues_putHosts {m : HeaderMap} (h : HostFree m)
    {value : List String → HeaderValue} (hvalue : ∀ hosts, (value hosts).values = hosts)
    (hosts : List String) : (m.putHosts value hosts).firstHostValues = hosts := by
  by_cases hnil : hosts = []
  · rw [hnil, putHosts_nil, h.firstHostValues_eq]
  · exact h.usualHost.firstHostValues_putHosts hvalue hnil

/-- Without the hosts that were put a map without any is as it was. -/
theorem HostFree.dropHost_putHosts {m : HeaderMap} (h : HostFree m)
    (value : List String → HeaderValue) (hosts : List String) :
    (m.putHosts value hosts).dropHost = m := by
  rw [h.usualHost.dropHost_putHosts, ← h.usualHost.dropHost_eq, h.dropHost_eq]

/-- Hosts that are put into a map without any determine themselves. -/
theorem HostFree.putHosts_inj {m : HeaderMap} (h : HostFree m)
    {value : List String → HeaderValue} (hvalue : ∀ hosts, (value hosts).values = hosts)
    {a b : List String} : m.putHosts value a = m.putHosts value b ↔ a = b := by
  constructor
  · intro heq
    rw [← h.firstHostValues_putHosts hvalue a, heq, h.firstHostValues_putHosts hvalue b]
  · exact congrArg _

/-! ## Entering a host header -/

/-- A map that is stored without host headers has none. -/
theorem hostFree_ofStored? {members : List (String × Json)} (h : (members.map (·.1)).Nodup)
    (hfree : ∀ m ∈ members, isHost m.1 = false) :
    HostFree ((ofStored? (object members)).getD empty) := by
  intro e he
  have hfind := find?_eq_some_iff.mpr he
  rw [find?_ofStored? h] at hfind
  obtain ⟨v, hv, _⟩ := Option.bind_eq_some_iff.mp hfind
  exact hfree _ (Entries.mem_of_find? hv)

section HostFree

variable {m : HeaderMap} {name : String} (h : HostFree m) (hname : isHost name = true)

include h hname

/-- A name of the host header is not in a map without host headers. -/
theorem HostFree.find?_eq_none : m.find? name = none := by
  cases hfind : m.find? name with
  | none => rfl
  | some value =>
    have hother := h _ (find?_eq_some_iff.mp hfind)
    rw [hname] at hother
    cases hother

/-- A host header that is entered into a map without any is the first. -/
theorem HostFree.firstHost?_insert (value : HeaderValue) :
    (m.insert name value).firstHost? = some (name, value) := by
  cases hfirst : (m.insert name value).firstHost? with
  | none =>
    have hentered : (name, value) ∈ (m.insert name value).entries :=
      m.ascending.mem_insert_iff.mpr (Or.inl rfl)
    have hnone := firstHost?_eq_none_iff.mp hfirst _ hentered
    rw [hname] at hnone
    cases hnone
  | some e =>
    obtain ⟨he, hhost⟩ := mem_of_firstHost? hfirst
    rcases m.ascending.mem_insert_iff.mp he with rfl | ⟨hmem, _⟩
    · rfl
    · rw [h e hmem] at hhost
      cases hhost

/-- The values of the host header that was entered are found. -/
theorem HostFree.firstHostValues_insert (value : HeaderValue) :
    (m.insert name value).firstHostValues = value.values := by
  rw [firstHostValues, h.firstHost?_insert hname]
  rfl

/-- Without the host header that was entered the map is as it was. -/
theorem HostFree.dropHost_insert (value : HeaderValue) : (m.insert name value).dropHost = m := by
  have hdrop : (m.insert name value).dropHost = (m.insert name value).remove name := by
    rw [dropHost, h.firstHost?_insert hname]
  rw [hdrop, insert_remove]
  refine ext_find? fun other => ?_
  rw [find?_remove]
  split <;> rename_i hother
  · rw [hother, h.find?_eq_none hname]
  · rfl

end HostFree

end ProxyInbound.HeaderMap
