import ProxyInbound.Proofs.Header.Saved

/-!
# Stored header maps

A map in which every name holds a value and no value is blank is read back from its own JSON, one
value as a text and several as a sequence. Maps of rows are of this kind, and so is every map that
comes of taking names out of one or of entering values that are not blank.
-/

namespace ProxyInbound.HeaderMap

open Json Text.White Text.Parts

/-- A header value that holds something and nothing blank. -/
structure FilledValue (value : HeaderValue) : Prop where
  /-- There is a value. -/
  filled : value.values ≠ []
  /-- No value is blank. -/
  visible : ∀ v ∈ value.values, blank v = false

/-- A header map whose names hold something and nothing blank. -/
def Filled (m : HeaderMap) : Prop :=
  ∀ e ∈ m.entries, FilledValue e.2

/-- A map in which no name is without a value. -/
def Populated (m : HeaderMap) : Prop :=
  ∀ e ∈ m.entries, e.2.values ≠ []

/-- A filled map has a value under each name. -/
theorem Filled.populated {m : HeaderMap} (h : Filled m) : Populated m :=
  fun e he => (h e he).filled

/-- A map that can stand in rows is filled. -/
theorem Parted.toFilled {m : HeaderMap} (h : Parted m) : Filled m :=
  fun e he => ⟨h.filled e he, fun v hv => (h.parted e he v hv).not_blank⟩

/-- The empty map is filled. -/
theorem filled_empty : Filled empty := fun _ he => nomatch he

/-- A filled map with another value that holds something and nothing blank is filled. -/
theorem Filled.insert {m : HeaderMap} (h : Filled m) (key : String) {value : HeaderValue}
    (hvalue : FilledValue value) : Filled (m.insert key value) := by
  intro e he
  rcases m.ascending.mem_insert_iff.mp he with rfl | ⟨he, _⟩
  · exact hvalue
  · exact h e he

/-- Texts are read back from the items they are written as. -/
theorem filterMap_scalarText? (vs : List String) : (vs.map string).filterMap scalarText? = vs := by
  rw [List.filterMap_map]
  exact List.filterMap_some

/-- Texts that are not blank are items that hold something. -/
theorem filter_isVoid {vs : List String} (h : ∀ v ∈ vs, blank v = false) :
    ((vs.map string).filter fun item => !item.isVoid) = vs.map string := by
  rw [List.filter_eq_self]
  intro item hitem
  obtain ⟨v, hv, rfl⟩ := List.mem_map.mp hitem
  rw [isVoid, h v hv]
  rfl

/-- A filled value is read back from its JSON. -/
theorem FilledValue.ofStored?_toJson {value : HeaderValue} (h : FilledValue value) :
    HeaderValue.ofStored? value.toJson = some value := by
  obtain ⟨hne, hvisible⟩ := h
  cases value with
  | single v =>
    have hv : blank v = false := hvisible v List.mem_cons_self
    simp [HeaderValue.toJson, HeaderValue.ofStored?, isVoid, hv, scalarText?]
  | multi vs =>
    simp only [HeaderValue.values] at hne hvisible
    simp only [HeaderValue.toJson, texts, HeaderValue.ofStored?]
    rw [filter_isVoid hvisible, filterMap_scalarText?]
    cases vs with
    | nil => exact absurd rfl hne
    | cons v r => rfl

/-- A map is written as an object with its names in their order. -/
theorem toJson_eq_object (m : HeaderMap) :
    m.toJson = object (m.entries.map fun e => (e.1, e.2.toJson)) := by
  rw [toJson, ofMembers, (m.ascending.map HeaderValue.toJson).ofList_eq]

/-- A filled map is read back from its JSON. -/
theorem Filled.ofStored?_toJson {m : HeaderMap} (h : Filled m) :
    ofStored? m.toJson = m.nonEmpty? := by
  have hmembers : (m.entries.map fun e => (e.1, e.2.toJson)).filterMap
      (fun e => (HeaderValue.ofStored? e.2).map fun v => (e.1, v)) = m.entries := by
    rw [List.filterMap_map]
    refine (List.filterMap_congr fun e he => ?_).trans List.filterMap_some
    simp only [Function.comp]
    rw [(h e he).ofStored?_toJson]
    rfl
  have hmap : ofEntries m.entries = m := ext m.ascending.ofList_eq
  rw [toJson_eq_object, ofStored?, hmembers, hmap]

/-! ## Maps of any document -/

/-- The map of a stored value is there unless it is empty. -/
theorem ofStored?_eq (v : Json) : ofStored? v = ((ofStored? v).getD empty).nonEmpty? := by
  unfold ofStored?
  split
  · rw [getD_nonEmpty?]
  · rfl

/-- A stored map is there unless it is empty. -/
theorem storedAt?_eq (v : Json) (key : String) :
    storedAt? v key = ((storedAt? v key).getD empty).nonEmpty? := by
  rw [storedAt?]
  cases v.get? key with
  | none => rfl
  | some headers => exact ofStored?_eq headers

/-- A name finds in a stored map what the member of that name holds. -/
theorem find?_ofStored? {members : List (String × Json)} (h : (members.map (·.1)).Nodup)
    (name : String) :
    ((ofStored? (object members)).getD empty).find? name =
      (Entries.find? name members).bind HeaderValue.ofStored? := by
  have hkeys := h.sublist (Entries.keys_filterMap_sublist HeaderValue.ofStored? members)
  rw [ofStored?, getD_nonEmpty?, find?, ofEntries, Entries.find?_ofList,
    Entries.find?_reverse hkeys, Entries.find?_filterMap h]

/-- One more stored header is one more header of the map. -/
theorem ofStored?_insert {members : List (String × Json)} {name : String} {v : Json}
    {value : HeaderValue} (h : (members.map (·.1)).Nodup) (hname : name ∉ members.map (·.1))
    (hvalue : HeaderValue.ofStored? v = some value) :
    (ofStored? (object (Entries.insert name v members))).getD empty =
      ((ofStored? (object members)).getD empty).insert name value := by
  refine ext_find? fun other => ?_
  rw [find?_ofStored? (Entries.nodup_insert v h hname), find?_insert, find?_ofStored? h]
  by_cases hother : other = name
  · rw [hother, Entries.find?_insert_self, if_pos rfl, Option.bind_some, hvalue]
  · rw [Entries.find?_insert_ne hother, if_neg hother]

/-- A stored value with anything in it has values. -/
theorem values_ne_nil_of_ofStored? {v : Json} {value : HeaderValue}
    (h : HeaderValue.ofStored? v = some value) : value.values ≠ [] := by
  unfold HeaderValue.ofStored? at h
  split at h
  · split at h <;> rename_i hitems
    · cases h
    · obtain rfl := Option.some.inj h
      exact hitems
  · split at h
    · cases h
    · obtain ⟨text, _, rfl⟩ := Option.map_eq_some_iff.mp h
      exact List.cons_ne_nil text []

/-- What a stored map holds under a name was read from some value. -/
theorem exists_ofStored?_of_mem {v : Json} {e : String × HeaderValue}
    (he : e ∈ ((ofStored? v).getD empty).entries) :
    ∃ stored, HeaderValue.ofStored? stored = some e.2 := by
  unfold ofStored? at he
  split at he
  · rw [getD_nonEmpty?] at he
    obtain ⟨member, _, hmember⟩ := List.mem_filterMap.mp (Entries.mem_of_mem_ofList he)
    obtain ⟨value, hvalue, rfl⟩ := Option.map_eq_some_iff.mp hmember
    exact ⟨member.2, hvalue⟩
  · cases he

/-- A stored map has a value under each name. -/
theorem populated_of_ofStored? {v : Json} {m : HeaderMap}
    (h : ofStored? v = some m) : Populated m := by
  intro e he
  have hstored : e ∈ ((ofStored? v).getD empty).entries := by
    rw [h]
    exact he
  obtain ⟨stored, hread⟩ := exists_ofStored?_of_mem hstored
  exact values_ne_nil_of_ofStored? hread

end ProxyInbound.HeaderMap
