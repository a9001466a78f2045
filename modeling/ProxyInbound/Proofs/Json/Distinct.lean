import ProxyInbound.Json.Reader
import ProxyInbound.Proofs.Json.Pruned

/-!
# Documents with distinct keys

No object that a text holds has a key twice, at any depth: of two members with one key the reader
keeps the later. So statements on documents may assume distinct keys.
-/

namespace ProxyInbound.Json

/-- A document in which no object has a key twice, at any depth. -/
def DistinctKeys (v : Json) : Prop :=
  ∀ path members, v.Holds path (object members) → (members.map (·.1)).Nodup

namespace DistinctKeys

variable {members : List (String × Json)} {items : List Json} {v : Json}

/-- An object with distinct keys has different keys. -/
theorem nodup (h : (object members).DistinctKeys) : (members.map (·.1)).Nodup :=
  h [] members (.here _)

/-- The members of a document with distinct keys have distinct keys. -/
theorem member (h : (object members).DistinctKeys) {key : String} (hv : (key, v) ∈ members) :
    v.DistinctKeys :=
  fun path inner hinner => h (.member key :: path) inner (.member hv hinner)

/-- The items of a document with distinct keys have distinct keys. -/
theorem item (h : (array items).DistinctKeys) (hv : v ∈ items) : v.DistinctKeys :=
  fun path inner hinner => h (.item :: path) inner (.item hv hinner)

/-- What a key finds in a document with distinct keys has distinct keys. -/
theorem get? {w : Json} (h : w.DistinctKeys) {key : String} (hv : w.get? key = some v) :
    v.DistinctKeys := by
  cases w with
  | object members => exact h.member (Entries.mem_of_find? hv)
  | _ => cases hv

/-- An object has distinct keys if its keys are different and its members have distinct keys. -/
theorem object (hkeys : (members.map (·.1)).Nodup) (h : ∀ m ∈ members, m.2.DistinctKeys) :
    (Json.object members).DistinctKeys := by
  intro path inner hinner
  cases hinner with
  | here => exact hkeys
  | member hv hinner => exact h _ hv _ inner hinner

/-- An array has distinct keys if its items have. -/
theorem array (h : ∀ v ∈ items, v.DistinctKeys) : (Json.array items).DistinctKeys := by
  intro path inner hinner
  cases hinner with
  | item hv hinner => exact h _ hv _ inner hinner

/-- An object has distinct keys exactly if its keys are different and its members have distinct
keys. -/
@[simp] theorem object_iff :
    (Json.object members).DistinctKeys ↔
      (members.map (·.1)).Nodup ∧ ∀ m ∈ members, m.2.DistinctKeys :=
  ⟨fun h => ⟨h.nodup, fun _ hm => h.member hm⟩, fun h => object h.1 h.2⟩

/-- An array has distinct keys exactly if its items have. -/
@[simp] theorem array_iff : (Json.array items).DistinctKeys ↔ ∀ v ∈ items, v.DistinctKeys :=
  ⟨fun h _ hv => h.item hv, array⟩

/-- A built object has distinct keys if its members have. -/
theorem ofMembers (h : ∀ m ∈ members, m.2.DistinctKeys) : (ofMembers members).DistinctKeys :=
  object (Entries.ascending_ofList members).nodup fun m hm => h m (Entries.mem_of_mem_ofList hm)

/-- A value that is neither an object nor an array has distinct keys. -/
theorem scalar (hobject : ∀ members, v ≠ Json.object members)
    (harray : ∀ items, v ≠ Json.array items) : v.DistinctKeys := by
  intro path inner hinner
  cases hinner with
  | here => exact absurd rfl (hobject inner)
  | member hv hinner => exact absurd rfl (hobject _)
  | item hv hinner => exact absurd rfl (harray _)

end DistinctKeys

/-! ## Documents that are read -/

namespace Reader

/-- Items between commas have a property that every item has. -/
theorem forall_separated {item : Step α} {close : Char} {P : α → Prop}
    (hitem : ∀ cs v r, item cs = some (v, r) → P v) {limit : Nat} {cs r : List Char} {vs : List α}
    (h : separated item close limit cs = some (vs, r)) : ∀ v ∈ vs, P v := by
  induction limit generalizing cs vs with
  | zero => cases h
  | succ limit ih =>
    obtain ⟨⟨v, rest⟩, hv, h⟩ := Option.bind_eq_some_iff.mp h
    have hhead := hitem cs v rest hv
    dsimp only at h
    split at h
    · obtain ⟨⟨ws, rest'⟩, hws, h⟩ := Option.bind_eq_some_iff.mp h
      cases h
      exact List.forall_mem_cons.mpr ⟨hhead, ih hws⟩
    · split at h
      · cases h
        exact List.forall_mem_singleton.mpr hhead
      · cases h
    · cases h

/-- Items up to a closing character have a property that every item has. -/
theorem forall_itemsUpTo {item : Step α} {close : Char} {P : α → Prop}
    (hitem : ∀ cs v r, item cs = some (v, r) → P v) {cs r : List Char} {vs : List α}
    (h : itemsUpTo item close cs = some (vs, r)) : ∀ v ∈ vs, P v := by
  rw [itemsUpTo] at h
  split at h
  · split at h
    · cases h
      exact fun _ hv => nomatch hv
    · exact forall_separated hitem h
  · cases h

/-- The value of a member is one that the reader of values gives. -/
theorem exists_of_member {item : Step Json} {cs r : List Char} {m : String × Json}
    (h : member item cs = some (m, r)) : ∃ before, item before = some (m.2, r) := by
  rw [member] at h
  split at h
  · obtain ⟨⟨key, rest⟩, _, h⟩ := Option.bind_eq_some_iff.mp h
    dsimp only at h
    split at h
    · obtain ⟨⟨v, rest'⟩, hv, h⟩ := Option.bind_eq_some_iff.mp h
      cases h
      exact ⟨_, hv⟩
    · cases h
  · cases h

/-- A single value that is read has distinct keys. -/
theorem distinctKeys_scalar {cs r : List Char} {v : Json} (h : scalar cs = some (v, r)) :
    v.DistinctKeys := by
  rw [scalar.eq_def] at h
  split at h
  case h_3 | h_4 | h_5 =>
    cases h
    exact .scalar nofun nofun
  all_goals
    obtain ⟨x, _, h⟩ := Option.map_eq_some_iff.mp h
    cases h
    exact .scalar nofun nofun

/-- A value that is read has distinct keys. -/
theorem distinctKeys_value (depth : Nat) {cs r : List Char} {v : Json}
    (h : value depth cs = some (v, r)) : v.DistinctKeys := by
  induction depth generalizing cs v r with
  | zero => exact distinctKeys_scalar h
  | succ depth ih =>
    rw [value] at h
    dsimp only at h
    split at h
    · obtain ⟨⟨items, rest⟩, hitems, h⟩ := Option.map_eq_some_iff.mp h
      cases h
      exact .array (forall_itemsUpTo (fun _ _ _ => ih) hitems)
    · obtain ⟨⟨members, rest⟩, hmembers, h⟩ := Option.map_eq_some_iff.mp h
      cases h
      refine .ofMembers (forall_itemsUpTo (P := fun m => m.2.DistinctKeys) ?_ hmembers)
      intro before m after hm
      obtain ⟨_, hv⟩ := exists_of_member hm
      exact ih hv
    · exact distinctKeys_scalar h

/-- A document that a text holds has distinct keys. -/
theorem distinctKeys_read? {text : String} {v : Json} (h : read? text = some v) :
    v.DistinctKeys := by
  rw [read?, readWithin?] at h
  split at h
  · rename_i w rest hvalue
    split at h
    · cases h
      exact distinctKeys_value _ hvalue
    · cases h
  · cases h

end Reader

end ProxyInbound.Json
