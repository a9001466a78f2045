import ProxyInbound.Proofs.Header.Stored
import ProxyInbound.Proofs.Json.Distinct
import ProxyInbound.Proofs.Json.Readings

/-!
# Documents without nulls

A document without its nulls has no null member and no null item at any depth; everything else is
as it was, and a sequence of nulls only is left as an empty one. Every reading gives the same of it,
since a null member is read like an absent one and a null item is passed over.
-/

namespace ProxyInbound.Json

mutual

/-- The value without the null members and null items that it holds at any depth. -/
def strip : Json → Json
  | array items => array (stripItems items)
  | object members => object (stripMembers members)
  | v => v

/-- The items that are not null, without the nulls in them. -/
def stripItems : List Json → List Json
  | [] => []
  | null :: rest => stripItems rest
  | v :: rest => v.strip :: stripItems rest

/-- The members that are not null, without the nulls in them. -/
def stripMembers : List (String × Json) → List (String × Json)
  | [] => []
  | (_, null) :: rest => stripMembers rest
  | (key, v) :: rest => (key, v.strip) :: stripMembers rest

end

/-- What is left of a member or an item. -/
def stripped? : Json → Option Json
  | null => none
  | v => some v.strip

/-- The items that are left are what is left of each. -/
theorem stripItems_eq (items : List Json) : stripItems items = items.filterMap stripped? := by
  induction items with
  | nil => rfl
  | cons v rest ih =>
    rw [List.filterMap_cons, ← ih]
    cases v <;> rfl

/-- The members that are left are what is left of each under its key. -/
theorem stripMembers_eq (members : List (String × Json)) :
    stripMembers members =
      members.filterMap fun m => (stripped? m.2).map fun v => (m.1, v) := by
  induction members with
  | nil => rfl
  | cons m rest ih =>
    obtain ⟨key, v⟩ := m
    rw [List.filterMap_cons, ← ih]
    cases v <;> rfl

/-- A key finds what is left of what it found. -/
theorem get?_strip {v : Json} (h : v.DistinctKeys) (key : String) :
    v.strip.get? key = (v.get? key).bind stripped? := by
  cases v with
  | object members =>
    rw [strip, stripMembers_eq, get?_object, get?_object, Entries.find?_filterMap h.nodup]
  | array items => rw [strip]; rfl
  | _ => rfl

/-! ## Single values -/

/-- What gives nothing of null and the same of a value without its nulls gives the same of what is
left of a member. -/
theorem bind_stripped? {read : Json → Option α} (hnull : read null = none)
    {m : Option Json} (h : ∀ v ∈ m, read v.strip = read v) :
    (m.bind stripped?).bind read = m.bind read := by
  cases m with
  | none => rfl
  | some v =>
    have hv := h v rfl
    cases v with
    | null => exact hnull.symm
    | _ => exact hv

/-- The text of a value is that of the value without its nulls. -/
@[simp] theorem scalarText?_strip (v : Json) : v.strip.scalarText? = v.scalarText? := by
  cases v <;> simp [strip, scalarText?]

/-- The texts of items are those of the items that are left. -/
theorem filterMap_scalarText?_strip (items : List Json) :
    (stripItems items).filterMap scalarText? = items.filterMap scalarText? := by
  rw [stripItems_eq, List.filterMap_filterMap]
  exact List.filterMap_congr fun v _ =>
    bind_stripped? (m := some v) rfl fun w _ => scalarText?_strip w

/-- The range of a value is that of the value without its nulls. -/
theorem rangeText?_strip {v : Json} (h : v.DistinctKeys) : v.strip.rangeText? = v.rangeText? := by
  have hend (key : String) : v.strip.textAt? key = v.textAt? key := by
    rw [textAt?, textAt?, get?_strip h]
    exact bind_stripped? rfl fun w _ => scalarText?_strip w
  rw [rangeText?, rangeText?, scalarText?_strip, hend, hend]

/-- The header value of a member is that of the member without its nulls. -/
theorem ofStored?_strip (v : Json) :
    HeaderValue.ofStored? v.strip = HeaderValue.ofStored? v := by
  cases v with
  | array items =>
    have hitems : ((stripItems items).filter fun item => !item.isVoid).filterMap scalarText? =
        (items.filter fun item => !item.isVoid).filterMap scalarText? := by
      rw [stripItems_eq, List.filterMap_filter, List.filterMap_filter, List.filterMap_filterMap]
      refine List.filterMap_congr fun item _ => ?_
      cases item with
      | null => rfl
      | array inner => simp [stripped?, strip, scalarText?]
      | _ => simp [stripped?, strip, scalarText?, isVoid]
    rw [strip, HeaderValue.ofStored?, hitems, HeaderValue.ofStored?]
  | object members => simp [strip, HeaderValue.ofStored?, isVoid, scalarText?]
  | _ => rfl

/-- The header map of a member is that of the member without its nulls. -/
theorem headers_strip {v : Json} (h : v.DistinctKeys) :
    HeaderMap.ofStored? v.strip = HeaderMap.ofStored? v := by
  cases v with
  | object members =>
    have hkeys : ((stripMembers members).map (·.1)).Nodup := by
      rw [stripMembers_eq]
      exact h.nodup.sublist (Entries.keys_filterMap_sublist stripped? members)
    have hmap : (HeaderMap.ofStored? (object (stripMembers members))).getD HeaderMap.empty =
        (HeaderMap.ofStored? (object members)).getD HeaderMap.empty := by
      refine HeaderMap.ext_find? fun name => ?_
      rw [HeaderMap.find?_ofStored? hkeys, HeaderMap.find?_ofStored? h.nodup, stripMembers_eq,
        Entries.find?_filterMap h.nodup]
      exact bind_stripped? rfl fun w _ => ofStored?_strip w
    rw [strip, HeaderMap.ofStored?_eq, hmap, ← HeaderMap.ofStored?_eq]
  | array items => rw [strip]; rfl
  | _ => rfl

/-- A single value is read the same without its nulls. -/
theorem Leaf.same_strip (l : Leaf) {m : Option Json} (h : ∀ v ∈ m, v.DistinctKeys) :
    l.Same (m.bind stripped?) m := by
  cases l with
  | text => exact bind_stripped? rfl fun v _ => scalarText?_strip v
  | flag => exact bind_stripped? rfl fun v _ => by cases v <;> simp [strip, toFlag?]
  | word => exact bind_stripped? rfl fun v _ => by cases v <;> simp [strip, toWord?]
  | signedWord => exact bind_stripped? rfl fun v _ => by cases v <;> simp [strip, toSignedWord?]
  | texts =>
    refine bind_stripped? rfl fun v _ => ?_
    cases v <;> simp [strip, toTexts?, filterMap_scalarText?_strip]
  | range => exact bind_stripped? rfl fun v hv => rangeText?_strip (h v hv)
  | headers => exact bind_stripped? rfl fun v hv => headers_strip (h v hv)

/-! ## Objects and lists of objects -/

/-- An object is left as an object, and nothing else is. -/
theorem filter_isObject_stripped? (m : Option Json) :
    (m.bind stripped?).filter isObject = (m.filter isObject).map strip := by
  cases m with
  | none => rfl
  | some v => cases v <;> simp [stripped?, strip, isObject, Option.filter]

/-- The objects among the items that are left are the objects without their nulls. -/
theorem objectItems_stripped? (m : Option Json) :
    objectItems (m.bind stripped?) = (objectItems m).map strip := by
  cases m with
  | none => rfl
  | some v =>
    cases v with
    | array items =>
      have hitems : (stripItems items).filter isObject = (items.filter isObject).map strip := by
        rw [stripItems_eq, List.filter_filterMap, ← List.filterMap_eq_map, List.filterMap_filter]
        refine List.filterMap_congr fun item _ => ?_
        cases item <;> simp [stripped?, strip, isObject, Option.filter]
      exact hitems
    | _ => rfl

/-- The objects among the items of a document with distinct keys have distinct keys. -/
theorem distinctKeys_objectItems {m : Option Json} (h : ∀ v ∈ m, v.DistinctKeys) :
    ∀ item ∈ objectItems m, item.DistinctKeys := by
  intro item hitem
  have hmem := (List.mem_filter.mp hitem).1
  cases m with
  | none => cases hmem
  | some v =>
    cases v with
    | array items => exact (h _ rfl).item hmem
    | _ => cases hmem

mutual

/-- A member is read the same without its nulls. -/
theorem Reading.same_strip (reading : Reading) {m : Option Json} (h : ∀ v ∈ m, v.DistinctKeys) :
    reading.Same (m.bind stripped?) m := by
  cases reading with
  | leaf l => exact l.same_strip h
  | object fields =>
    rw [Reading.Same, filter_isObject_stripped?]
    cases hm : m.filter isObject with
    | none => exact .none
    | some v => exact .some (sameFields_strip fields (h v (Option.filter_eq_some_iff.mp hm).1))
  | objects fields =>
    rw [Reading.Same, objectItems_stripped?, List.forall₂_map_left_iff, List.forall₂_same]
    exact fun item hitem => sameFields_strip fields (distinctKeys_objectItems h item hitem)

/-- The members of a value are read the same without its nulls. -/
theorem sameFields_strip (fields : List (String × Reading)) {v : Json} (h : v.DistinctKeys) :
    SameFields fields v.strip v := by
  cases fields with
  | nil => trivial
  | cons field rest =>
    obtain ⟨key, reading⟩ := field
    rw [SameFields, get?_strip h]
    exact ⟨reading.same_strip fun w hw => h.get? hw, sameFields_strip rest h⟩

end

end ProxyInbound.Json
