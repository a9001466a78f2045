import Mathlib.Data.List.Forall2
import ProxyInbound.Header.Map
import ProxyInbound.Json.Lenient

/-!
# How documents are read

A section of a stored document is read member by member: a member is a single value of some kind, an
object with readings of its own, or a list of objects. What is read of two documents is the same if
it is the same member by member, whatever else the documents hold. For a single value that is what
its accessor gives, for an object and a list of objects it is the same in turn, and an absent member
is like one of a shape that is not asked for.
-/

namespace ProxyInbound.Json

/-- The kinds of single values. -/
inductive Leaf where
  /-- A text. -/
  | text
  /-- A truth value. -/
  | flag
  /-- An unsigned word. -/
  | word
  /-- A signed word. -/
  | signedWord
  /-- A sequence of texts. -/
  | texts
  /-- A number or a range of numbers. -/
  | range
  /-- A header map. -/
  | headers
  deriving DecidableEq, Repr

/-- What a member is read as. -/
inductive Reading where
  /-- A single value. -/
  | leaf (leaf : Leaf)
  /-- An object. -/
  | object (fields : List (String × Reading))
  /-- A sequence, the objects among its items. -/
  | objects (fields : List (String × Reading))

/-- Two members give the same as a single value of a kind. -/
def Leaf.Same : Leaf → Option Json → Option Json → Prop
  | text, m, m' => m.bind scalarText? = m'.bind scalarText?
  | flag, m, m' => m.bind toFlag? = m'.bind toFlag?
  | word, m, m' => m.bind toWord? = m'.bind toWord?
  | signedWord, m, m' => m.bind toSignedWord? = m'.bind toSignedWord?
  | texts, m, m' => m.bind toTexts? = m'.bind toTexts?
  | range, m, m' => m.bind rangeText? = m'.bind rangeText?
  | headers, m, m' => m.bind HeaderMap.ofStored? = m'.bind HeaderMap.ofStored?

/-- The objects among the items of a member. -/
def objectItems (m : Option Json) : List Json :=
  ((m.bind toItems?).getD []).filter isObject

mutual

/-- Two members are read the same. -/
def Reading.Same : Reading → Option Json → Option Json → Prop
  | .leaf l, m, m' => l.Same m m'
  | .object fields, m, m' =>
    Option.Rel (fun v v' => SameFields fields v v') (m.filter isObject) (m'.filter isObject)
  | .objects fields, m, m' =>
    List.Forall₂ (fun v v' => SameFields fields v v') (objectItems m) (objectItems m')

/-- The members that are read of two values are read the same. -/
def SameFields : List (String × Reading) → Json → Json → Prop
  | [], _, _ => True
  | (key, reading) :: rest, v, v' =>
    reading.Same (v.get? key) (v'.get? key) ∧ SameFields rest v v'

end

/-- The members of two values are read the same exactly if each is. -/
theorem sameFields_iff {fields : List (String × Reading)} {v v' : Json} :
    SameFields fields v v' ↔ ∀ f ∈ fields, f.2.Same (v.get? f.1) (v'.get? f.1) := by
  induction fields with
  | nil => simp [SameFields]
  | cons f rest ih =>
    obtain ⟨key, reading⟩ := f
    rw [SameFields, ih, List.forall_mem_cons]

/-- A member that is read of two values is read the same. -/
theorem SameFields.same {fields : List (String × Reading)} {v v' : Json} {key : String}
    {reading : Reading} (h : SameFields fields v v') (hmem : (key, reading) ∈ fields) :
    reading.Same (v.get? key) (v'.get? key) :=
  sameFields_iff.mp h (key, reading) hmem

/-! ## What is made of members that are read the same -/

variable {fields : List (String × Reading)} {α : Type} {f : Json → α}

/-- Objects that are read the same are absent alike, or there alike with members that are read the
same. -/
theorem objectAt?_cases {v v' : Json} {key : String}
    (h : (Reading.object fields).Same (v.get? key) (v'.get? key)) :
    (v.objectAt? key = none ∧ v'.objectAt? key = none) ∨
      ∃ w w', v.objectAt? key = some w ∧ v'.objectAt? key = some w' ∧ SameFields fields w w' := by
  rw [Reading.Same] at h
  rw [objectAt?, objectAt?]
  generalize (v.get? key).filter isObject = m, (v'.get? key).filter isObject = m' at h
  cases h with
  | none => exact Or.inl ⟨rfl, rfl⟩
  | some hfields => exact Or.inr ⟨_, _, rfl, rfl, hfields⟩

/-- What is made of an object is the same if it depends on what is read only. -/
theorem map_objectAt?_congr (hf : ∀ {v v'}, SameFields fields v v' → f v = f v') {v v' : Json}
    {key : String} (h : (Reading.object fields).Same (v.get? key) (v'.get? key)) :
    (v.objectAt? key).map f = (v'.objectAt? key).map f := by
  rcases objectAt?_cases h with ⟨hv, hv'⟩ | ⟨w, w', hv, hv', hfields⟩
  · rw [hv, hv']
  · rw [hv, hv', Option.map_some, Option.map_some, hf hfields]

/-- What is made of an object or, where there is none, of null, is the same. -/
theorem objectAt_congr (hf : ∀ {v v'}, SameFields fields v v' → f v = f v') {v v' : Json}
    {key : String} (h : (Reading.object fields).Same (v.get? key) (v'.get? key)) :
    f (v.objectAt key) = f (v'.objectAt key) := by
  rw [objectAt, objectAt]
  rcases objectAt?_cases h with ⟨hv, hv'⟩ | ⟨w, w', hv, hv', hfields⟩
  · rw [hv, hv']
  · rw [hv, hv', Option.getD_some, Option.getD_some, hf hfields]

/-- What is made of a list of objects is the same object by object. -/
theorem map_objectItems_congr (hf : ∀ {v v'}, SameFields fields v v' → f v = f v')
    {m m' : Option Json} (h : (Reading.objects fields).Same m m') :
    (objectItems m).map f = (objectItems m').map f := by
  rw [Reading.Same] at h
  generalize objectItems m = items, objectItems m' = items' at h ⊢
  induction h with
  | nil => rfl
  | cons hfields _ ih => rw [List.map_cons, List.map_cons, hf hfields, ih]

/-! ## Documents that differ in one member -/

/-- A member gives the same as itself. -/
theorem Leaf.same_refl (l : Leaf) (m : Option Json) : l.Same m m := by
  cases l <;> exact rfl

mutual

/-- A member is read the same as itself. -/
theorem Reading.same_refl : (reading : Reading) → (m : Option Json) → reading.Same m m
  | .leaf l, m => by
    rw [Reading.Same]
    exact l.same_refl m
  | .object fields, m => by
    rw [Reading.Same]
    cases m.filter isObject with
    | none => exact Option.Rel.none
    | some v => exact Option.Rel.some (sameFields_refl fields v)
  | .objects fields, m => by
    rw [Reading.Same, List.forall₂_same]
    exact fun v _ => sameFields_refl fields v

/-- The members of a value are read the same as themselves. -/
theorem sameFields_refl : (fields : List (String × Reading)) → (v : Json) → SameFields fields v v
  | [], _ => by
    rw [SameFields]
    trivial
  | (key, reading) :: rest, v => by
    rw [SameFields]
    exact ⟨reading.same_refl (v.get? key), sameFields_refl rest v⟩

end

/-- Objects that differ in the value of one member are read the same if that member is. -/
theorem sameFields_insert {fields : List (String × Reading)} {key : String} {v v' : Json}
    (h : ∀ f ∈ fields, f.1 = key → f.2.Same (some v) (some v')) (members : List (String × Json)) :
    SameFields fields (object (Entries.insert key v members))
      (object (Entries.insert key v' members)) := by
  rw [sameFields_iff]
  intro f hf
  rw [get?_object, get?_object]
  by_cases hkey : f.1 = key
  · rw [hkey, Entries.find?_insert_self, Entries.find?_insert_self]
    exact h f hf hkey
  · rw [Entries.find?_insert_ne hkey, Entries.find?_insert_ne hkey]
    exact f.2.same_refl _

end ProxyInbound.Json
