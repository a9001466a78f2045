import ProxyInbound.Json.Lenient
import ProxyInbound.Proofs.Entries

/-!
# Pruned documents

A document is pruned if it holds nothing that says nothing: no key of an object is blank, no member
is null, a blank text or an empty array, and no item is one of these or an empty object. This is
said of every value that the document holds at any depth, with the places that lead to it, so that
single places can be exempt.
-/

namespace ProxyInbound.Json

open Text.White

/-- Where a value stands in the value around it. -/
inductive Place where
  /-- Under a key of an object. -/
  | member (key : String)
  /-- Among the items of an array. -/
  | item
  deriving DecidableEq, Repr

/-- What a value holds at any depth, with the places that lead there from the outside in. -/
inductive Holds : Json → List Place → Json → Prop where
  /-- A value holds itself. -/
  | here (v : Json) : Holds v [] v
  /-- An object holds what its members hold. -/
  | member {members : List (String × Json)} {key : String} {v w : Json} {path : List Place}
      (hmem : (key, v) ∈ members) (h : Holds v path w) :
      Holds (object members) (.member key :: path) w
  /-- An array holds what its items hold. -/
  | item {items : List Json} {v w : Json} {path : List Place}
      (hmem : v ∈ items) (h : Holds v path w) : Holds (array items) (.item :: path) w

/-- What may stand at a place of a pruned document. -/
def Place.Admits : Place → Json → Prop
  | member key, v => blank key = false ∧ v.isVoid = false
  | item, v => v.isVoid = false ∧ v ≠ object []

/-- A document in which every place but the exempt ones holds what may stand there. -/
def PrunedExcept (exempt : List (List Place)) (v : Json) : Prop :=
  ∀ path place w, v.Holds (path ++ [place]) w → path ++ [place] ∉ exempt → place.Admits w

/-- A document in which every place holds what may stand there. -/
def Pruned (v : Json) : Prop :=
  PrunedExcept [] v

/-- The exempt places inside the value at a place. -/
def inside (place : Place) (exempt : List (List Place)) : List (List Place) :=
  (exempt.filter fun path => path.head? = some place).map List.tail

/-- A place inside a value is exempt exactly when it is exempt inside the value around it. -/
theorem mem_inside {place : Place} {exempt : List (List Place)} {path : List Place} :
    path ∈ inside place exempt ↔ place :: path ∈ exempt := by
  simp only [inside, List.mem_map, List.mem_filter, decide_eq_true_eq]
  constructor
  · rintro ⟨p, ⟨hp, hhead⟩, rfl⟩
    cases p with
    | nil => cases hhead
    | cons first rest =>
      obtain rfl := Option.some.inj hhead
      exact hp
  · intro h
    exact ⟨place :: path, ⟨h, rfl⟩, rfl⟩

/-- An object is not void, even without members. -/
theorem isVoid_of_isObject {v : Json} (h : v.isObject = true) : v.isVoid = false := by
  cases v with
  | object members => rfl
  | _ => cases h

/-- An object is pruned if each member is and may stand under its key. -/
theorem prunedExcept_object {exempt : List (List Place)} {members : List (String × Json)}
    (h : ∀ m ∈ members, ([.member m.1] ∉ exempt → Place.Admits (.member m.1) m.2) ∧
      PrunedExcept (inside (.member m.1) exempt) m.2) :
    PrunedExcept exempt (object members) := by
  intro path place w hw hexempt
  cases path with
  | nil =>
    cases hw with
    | member hmem hv =>
      cases hv
      exact (h _ hmem).1 hexempt
  | cons first rest =>
    cases hw with
    | member hmem hv =>
      have hinside := (h _ hmem).2
      exact hinside rest place w hv fun hin => hexempt (mem_inside.mp hin)

/-- An array is pruned if each item is and may stand among items. -/
theorem pruned_array {items : List Json}
    (h : ∀ v ∈ items, Place.Admits .item v ∧ Pruned v) : Pruned (array items) := by
  intro path place w hw hexempt
  cases path with
  | nil =>
    cases hw with
    | item hmem hv =>
      cases hv
      exact (h _ hmem).1
  | cons first rest =>
    cases hw with
    | item hmem hv => exact (h _ hmem).2 rest place w hv List.not_mem_nil

/-- A value that is neither an object nor an array holds nothing but itself. -/
theorem pruned_of_scalarText? {v : Json} (h : v.scalarText?.isSome = true) : Pruned v := by
  intro path place w hw hexempt
  cases v with
  | object members => cases h
  | array items => cases h
  | _ =>
    -- a path of at least one place leads nowhere
    generalize hp : path ++ [place] = p at hw
    cases hw
    cases path <;> cases hp

/-- What is pruned is pruned but for exempt places. -/
theorem Pruned.prunedExcept {v : Json} (h : Pruned v) (exempt : List (List Place)) :
    PrunedExcept exempt v :=
  fun path place w hw _ => h path place w hw List.not_mem_nil

/-! ## Objects of fields -/

/-- A field that is left out or may stand under its key, unless its place is exempt. -/
def FitsExcept (exempt : List (List Place)) (key : String) (field : Option Json) : Prop :=
  ∀ v, field = some v →
    ([.member key] ∈ exempt ∨ v.isVoid = false) ∧ PrunedExcept (inside (.member key) exempt) v

/-- A field that is left out or may stand in a pruned object. -/
def Fits (field : Option Json) : Prop :=
  ∀ v, field = some v → v.isVoid = false ∧ Pruned v

/-- A field that may stand in a pruned object may stand in one that is pruned but for exempt
places. -/
theorem Fits.fitsExcept {field : Option Json} (h : Fits field) (exempt : List (List Place))
    (key : String) : FitsExcept exempt key field := by
  intro v hv
  obtain ⟨hvoid, hpruned⟩ := h v hv
  exact ⟨Or.inr hvoid, hpruned.prunedExcept _⟩

/-- A field with a value fits if the value may stand under a key and is pruned. -/
theorem fits_some {v : Json} (hvoid : v.isVoid = false) (h : Pruned v) : Fits (some v) :=
  fun _ hw => Option.some.inj hw ▸ ⟨hvoid, h⟩

/-- The members of a built object are the fields that have a value. -/
theorem mem_of_mem_ofFields {fields : List (String × Option Json)} {m : String × Json}
    (h : m ∈ Entries.ofList (fields.filterMap fun f => f.2.map fun v => (f.1, v))) :
    (m.1, some m.2) ∈ fields := by
  obtain ⟨f, hf, hm⟩ := List.mem_filterMap.mp (Entries.mem_of_mem_ofList h)
  obtain ⟨v, hv, rfl⟩ := Option.map_eq_some_iff.mp hm
  have hfield : f = (f.1, some v) := by rw [← hv]
  exact hfield ▸ hf

/-- An object of fields is pruned but for exempt places if no key is blank and every field may
stand under its key. -/
theorem prunedExcept_ofFields {exempt : List (List Place)} {fields : List (String × Option Json)}
    (hkeys : (fields.map (·.1)).any blank = false)
    (h : ∀ f ∈ fields, FitsExcept exempt f.1 f.2) : PrunedExcept exempt (ofFields fields) := by
  refine prunedExcept_object fun m hm => ?_
  have hfield := mem_of_mem_ofFields hm
  obtain ⟨hvoid, hpruned⟩ := h _ hfield m.2 rfl
  have hkey : blank m.1 = false := by
    rw [List.any_eq_false] at hkeys
    simpa using hkeys m.1 (List.mem_map.mpr ⟨_, hfield, rfl⟩)
  exact ⟨fun hexempt => ⟨hkey, hvoid.resolve_left hexempt⟩, hpruned⟩

/-- An object of fields is pruned if no key is blank and every field fits. -/
theorem pruned_ofFields {fields : List (String × Option Json)}
    (hkeys : (fields.map (·.1)).any blank = false) (h : ∀ f ∈ fields, Fits f.2) :
    Pruned (ofFields fields) :=
  prunedExcept_ofFields hkeys fun f hf => (h f hf).fitsExcept [] f.1

/-- An object of fields of which one has a value is not empty. -/
theorem ofFields_ne_empty {fields : List (String × Option Json)} {key : String} {v : Json}
    (h : (ofFields fields).get? key = some v) : ofFields fields ≠ object [] := by
  intro hempty
  rw [hempty] at h
  cases h

end ProxyInbound.Json
