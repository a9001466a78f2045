import ProxyInbound.Proofs.Header.Merging

/-!
# The values of host headers

A map can hold values under several spellings of the host header. Taking a host header takes the
first spelling only, and entering hosts replaces what the usual spelling holds. A header with the
usual spelling behind another one is therefore covered: it is not taken, and hosts that are put in
take its place. Of the values of a map these are the only ones that can be lost.
-/

namespace ProxyInbound.HeaderMap

variable {m : HeaderMap} {v : String}

/-- The values under exactly this name. -/
def valuesAt (m : HeaderMap) (name : String) : List String :=
  ((m.find? name).map HeaderValue.values).getD []

/-- The values under all spellings of the host header. -/
def hostValues (m : HeaderMap) : List String :=
  (m.entries.filter fun e => isHost e.1).flatMap fun e => e.2.values

/-- The values under the usual spelling of the host header if another spelling comes first. -/
def coveredValues (m : HeaderMap) : List String :=
  m.dropHost.valuesAt hostName

/-- The values under the first spelling of the host header and under the others that are not the
usual one. -/
def openValues (m : HeaderMap) : List String :=
  m.firstHostValues ++ (m.dropHost.remove hostName).hostValues

/-! ## Values and entries -/

/-- A value stands under a name exactly when it is one of an entry with this name. -/
theorem mem_valuesAt_iff {name : String} :
    v ∈ m.valuesAt name ↔ ∃ value, (name, value) ∈ m.entries ∧ v ∈ value.values := by
  rw [valuesAt]
  cases h : m.find? name with
  | none =>
    constructor
    · intro hv
      cases hv
    · rintro ⟨value, he, _⟩
      rw [find?_eq_some_iff.mpr he] at h
      cases h
  | some found =>
    constructor
    · intro hv
      exact ⟨found, find?_eq_some_iff.mp h, hv⟩
    · rintro ⟨value, he, hv⟩
      have hsame : found = value := Option.some.inj (h.symm.trans (find?_eq_some_iff.mpr he))
      rw [hsame]
      exact hv

/-- A value stands under a host header exactly when it is one of an entry with such a name. -/
theorem mem_hostValues_iff :
    v ∈ m.hostValues ↔ ∃ e ∈ m.entries, isHost e.1 = true ∧ v ∈ e.2.values := by
  simp only [hostValues, List.mem_flatMap, List.mem_filter, and_assoc]

/-- A map without host headers has no values of one. -/
theorem HostFree.hostValues_eq (h : HostFree m) : m.hostValues = [] := by
  rw [List.eq_nil_iff_forall_not_mem]
  intro v hv
  obtain ⟨e, he, hhost, _⟩ := mem_hostValues_iff.mp hv
  rw [h e he] at hhost
  cases hhost

/-- The values of a map are those under one name of a host header and those of the map without
that name. -/
theorem mem_hostValues_iff_remove {name : String} (h : isHost name = true) :
    v ∈ m.hostValues ↔ v ∈ m.valuesAt name ∨ v ∈ (m.remove name).hostValues := by
  rw [mem_hostValues_iff, mem_valuesAt_iff, mem_hostValues_iff]
  constructor
  · rintro ⟨e, he, hhost, hv⟩
    by_cases hname : e.1 = name
    · exact Or.inl ⟨e.2, hname ▸ he, hv⟩
    · exact Or.inr ⟨e, Entries.mem_remove_iff.mpr ⟨he, hname⟩, hhost, hv⟩
  · rintro (⟨value, he, hv⟩ | ⟨e, he, hhost, hv⟩)
    · exact ⟨(name, value), he, h, hv⟩
    · exact ⟨e, (Entries.mem_remove_iff.mp he).1, hhost, hv⟩

/-- With hosts entered under the usual spelling, the values are the hosts and those under the other
spellings. -/
theorem mem_hostValues_insert (value : HeaderValue) :
    v ∈ (m.insert hostName value).hostValues ↔
      v ∈ value.values ∨ v ∈ (m.remove hostName).hostValues := by
  have hentered : (m.insert hostName value).valuesAt hostName = value.values := by
    rw [valuesAt, find?_insert, if_pos rfl]
    rfl
  rw [mem_hostValues_iff_remove isHost_hostName, hentered, insert_remove]

/-! ## Values of the first host header and the others -/

/-- The values of a map are those of its first host header and those of the map without it. -/
theorem mem_hostValues_iff_dropHost :
    v ∈ m.hostValues ↔ v ∈ m.firstHostValues ∨ v ∈ m.dropHost.hostValues := by
  cases hf : m.firstHost? with
  | none =>
    have hfree := firstHost?_eq_none_iff.mp hf
    rw [hfree.dropHost_eq, hfree.firstHostValues_eq, hfree.hostValues_eq, or_self]
  | some e =>
    obtain ⟨he, hhost⟩ := mem_of_firstHost? hf
    have hfirst : m.firstHostValues = m.valuesAt e.1 := by
      rw [firstHostValues, hf, valuesAt, find?_eq_some_iff.mpr he]
      rfl
    have hdrop : m.dropHost = m.remove e.1 := by rw [dropHost, hf]
    rw [mem_hostValues_iff_remove hhost, hfirst, hdrop]

/-- Every value of a map is open or covered. -/
theorem mem_hostValues_iff_open_or_covered :
    v ∈ m.hostValues ↔ v ∈ m.openValues ∨ v ∈ m.coveredValues := by
  rw [mem_hostValues_iff_dropHost, mem_hostValues_iff_remove isHost_hostName, openValues,
    coveredValues, List.mem_append]
  constructor
  · rintro (h | h | h)
    · exact Or.inl (Or.inl h)
    · exact Or.inr h
    · exact Or.inl (Or.inr h)
  · rintro ((h | h) | h)
    · exact Or.inl h
    · exact Or.inr (Or.inr h)
    · exact Or.inr (Or.inl h)

/-- A map without host headers has no open values. -/
theorem HostFree.openValues_eq (h : HostFree m) : m.openValues = [] := by
  rw [List.eq_nil_iff_forall_not_mem]
  intro v hv
  have hmem := mem_hostValues_iff_open_or_covered.mpr (Or.inl hv)
  rw [h.hostValues_eq] at hmem
  cases hmem

/-- Headers that are no hosts stay when the first host header is dropped. -/
theorem find?_dropHost {name : String} (h : isHost name = false) :
    m.dropHost.find? name = m.find? name := by
  rw [dropHost]
  cases hf : m.firstHost? with
  | none => rfl
  | some e =>
    have hne : name ≠ e.1 := by
      rintro rfl
      rw [(mem_of_firstHost? hf).2] at h
      cases h
    exact (find?_remove m e.1 name).trans (if_neg hne)

/-- Headers that are no hosts have another name than the usual spelling. -/
theorem ne_hostName {name : String} (h : isHost name = false) : name ≠ hostName := by
  rintro rfl
  rw [isHost_hostName] at h
  cases h

/-- The rows of a host header that a map is edited in hold the hosts of the map. -/
theorem mem_editRows_isHost :
    v ∈ ((editRows (some m)).filter fun row => isHost row.name).map (·.value) ↔
      v ∈ m.hostValues := by
  have hrows : (editRows (some m)).filter (fun row => isHost row.name) =
      (toRows m).filter fun row => isHost row.name := by
    rw [editRows_eq, Option.getD_some, orBlankRow]
    split <;> rename_i hnil
    · rw [List.isEmpty_iff.mp hnil]
      rfl
    · rfl
  rw [hrows, mem_hostValues_iff]
  simp only [List.mem_map, List.mem_filter, mem_toRows_iff]
  constructor
  · rintro ⟨row, ⟨⟨value, he, hv⟩, hhost⟩, rfl⟩
    exact ⟨(row.name, value), he, hhost, hv⟩
  · rintro ⟨e, he, hhost, hv⟩
    exact ⟨⟨e.1, v⟩, ⟨⟨e.2, he, hv⟩, hhost⟩, rfl⟩

/-! ## Merging and lifting -/

/-- A map with a value under each name has one under each after merging. -/
theorem Populated.mergeHosts (h : Populated m) {value : List String → HeaderValue}
    (hvalue : ∀ hosts, (value hosts).values = hosts) (hosts : List String) :
    Populated (HeaderMap.mergeHosts value hosts m) := by
  have hdrop : Populated m.dropHost := fun e he => h e (mem_of_mem_dropHost he)
  rw [HeaderMap.mergeHosts]
  by_cases hnil : appendMissing hosts m.firstHostValues = []
  · rw [hnil, putHosts_nil]
    exact hdrop
  · rw [putHosts_of_ne_nil _ value hnil]
    intro e he
    rcases m.dropHost.ascending.mem_insert_iff.mp he with rfl | ⟨hmem, _⟩
    · rwa [hvalue]
    · exact hdrop e hmem

/-- After merging, the values are the hosts and the open values: a covered value is lost unless it
is one of these as well. -/
theorem mem_hostValues_mergeHosts (hm : Populated m) {value : List String → HeaderValue}
    (hvalue : ∀ hosts, (value hosts).values = hosts) (hosts : List String) :
    v ∈ (mergeHosts value hosts m).hostValues ↔ v ∈ hosts ++ m.openValues := by
  rw [mergeHosts]
  by_cases hnil : appendMissing hosts m.firstHostValues = []
  · -- the first host header of a populated map has values, so there is none at all
    obtain ⟨hhosts, hfirst⟩ := appendMissing_eq_nil_iff.mp hnil
    have hfree := hm.firstHostValues_eq_nil_iff.mp hfirst
    rw [hnil, putHosts_nil, hfree.dropHost_eq, hfree.hostValues_eq, hhosts, hfree.openValues_eq,
      List.append_nil]
  · rw [putHosts_of_ne_nil _ value hnil, mem_hostValues_insert, hvalue, mem_appendMissing,
      openValues, List.mem_append, List.mem_append, or_assoc]

/-- Merging hosts leaves the headers that are no hosts. -/
theorem find?_mergeHosts (value : List String → HeaderValue) (hosts : List String) {name : String}
    (h : isHost name = false) : (mergeHosts value hosts m).find? name = m.find? name := by
  rw [mergeHosts, find?_putHosts_of_ne _ value _ (ne_hostName h), find?_dropHost h]

/-- The first value and those behind it are all values. -/
theorem head?_toList_append_tail (vs : List String) : vs.head?.toList ++ vs.tail = vs := by
  cases vs <;> rfl

/-- Whether lifting a host puts values back: none is given, and one of several is lifted. -/
def LeavesHosts (host : Option String) (m : HeaderMap) : Prop :=
  host = none ∧ 2 ≤ m.firstHostValues.length

/-- If values are put back, the lifted host and the values that are left are the open ones. -/
theorem mem_liftedHeaders_of_leavesHosts {host : Option String} (h : LeavesHosts host m) :
    v ∈ (host.or m.firstHostValues.head?).toList ++ (liftedHeaders host m).hostValues ↔
      v ∈ m.openValues := by
  obtain ⟨rfl, hlength⟩ := h
  have htail : m.firstHostValues.tail ≠ [] := by
    rw [← List.length_pos_iff_ne_nil, List.length_tail]
    omega
  have hleft : liftedHeaders none m =
      m.dropHost.insert hostName (HeaderValue.ofValues m.firstHostValues.tail) := by
    rw [← putHosts_of_ne_nil m.dropHost HeaderValue.ofValues htail]
    rfl
  rw [Option.none_or, List.mem_append, hleft, mem_hostValues_insert, HeaderValue.values_ofValues,
    ← or_assoc, ← List.mem_append, head?_toList_append_tail, openValues, List.mem_append]

/-- If no values are put back, the host and the values that are left are all that there were. -/
theorem mem_liftedHeaders_of_not_leavesHosts {host : Option String} (h : ¬ LeavesHosts host m) :
    v ∈ (host.or m.firstHostValues.head?).toList ++ (liftedHeaders host m).hostValues ↔
      v ∈ host.toList ++ m.hostValues := by
  cases host with
  | some given => rfl
  | none =>
    have hlength : m.firstHostValues.length < 2 := by
      by_contra hmany
      exact h ⟨rfl, Nat.le_of_not_lt hmany⟩
    have htail : m.firstHostValues.tail = [] := by
      rw [List.eq_nil_iff_length_eq_zero, List.length_tail]
      omega
    have hleft : liftedHeaders none m = m.dropHost := by
      rw [liftedHeaders, htail]
      rfl
    rw [hleft, Option.none_or, List.mem_append, ← List.append_nil m.firstHostValues.head?.toList,
      ← htail, head?_toList_append_tail, ← mem_hostValues_iff_dropHost]
    rfl

/-- Lifting a host leaves the headers that are no hosts. -/
theorem find?_liftedHeaders (host : Option String) {name : String} (h : isHost name = false) :
    (liftedHeaders host m).find? name = m.find? name := by
  unfold liftedHeaders
  split
  · rfl
  · rw [find?_putHosts_of_ne _ _ _ (ne_hostName h), find?_dropHost h]

end ProxyInbound.HeaderMap
