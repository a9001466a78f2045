import ProxyInbound.Proofs.Json.Fields

/-!
# Records from any object

An object is read into a record exactly if every member that is a field's can be read by that
field. Each field then holds what its member was read as, and a field without a member holds what
the template holds; members that are no field's play no part. A record is determined by its fields,
so these conditions say which record is read.
-/

namespace ProxyInbound.Json

open Strict

variable {R : Type}

/-- Every member that is a field's holds a value that the field can read. -/
def Readable (slots : List (Slot R)) (members : List (String × Json)) : Prop :=
  ∀ m ∈ members, ∀ s ∈ slots, s.name = m.1 → ∃ a, s.codec.read m.2 = .ok a

/-- Whether a field can read a value. -/
def Slot.accepts (s : Slot R) (v : Json) : Bool :=
  match s.codec.read v with
  | .ok _ => true
  | .error _ => false

/-- A field accepts the values that it reads something from. -/
theorem Slot.accepts_iff {s : Slot R} {v : Json} :
    s.accepts v = true ↔ ∃ a, s.codec.read v = .ok a := by
  unfold Slot.accepts
  cases s.codec.read v with
  | ok a => simp
  | error fault => simp

/-- A field that does not accept a value reports a fault. -/
theorem Slot.accepts_eq_false_iff {s : Slot R} {v : Json} :
    s.accepts v = false ↔ ∃ fault, s.codec.read v = .error fault := by
  unfold Slot.accepts
  cases s.codec.read v with
  | ok a => simp
  | error fault => simp

/-- Members can be read if the field of each accepts it, which can be tried. -/
theorem readable_iff_accepts {slots : List (Slot R)} {members : List (String × Json)} :
    Readable slots members ↔
      ∀ m ∈ members, ∀ s ∈ slots, s.name = m.1 → s.accepts m.2 = true := by
  simp only [Readable, Slot.accepts_iff]

instance (slots : List (Slot R)) (members : List (String × Json)) :
    Decidable (Readable slots members) :=
  decidable_of_iff' _ readable_iff_accepts

/-- A field without a member is as in the template, any other holds what its member is read as. -/
structure Slot.Overlaid (s : Slot R) (members : List (String × Json)) (template r : R) : Prop where
  /-- A field without a member is as in the template. -/
  absent : Entries.find? s.name members = none → s.get r = s.get template
  /-- A field with a member holds what the member is read as. -/
  present : ∀ v, Entries.find? s.name members = some v → s.codec.read v = .ok (s.get r)

namespace Record

variable {shape : Record R}

/-- The field that a readable member is found by can read it. -/
theorem exists_read_of_slot? {members : List (String × Json)}
    (h : Readable shape.slots members) : ∀ m ∈ members, ∀ s, shape.slot? m.1 = some s →
      ∃ a, s.codec.read m.2 = .ok a := by
  intro m hm s hs
  obtain ⟨hmem, hname⟩ := mem_of_slot? hs
  exact h m hm s hmem hname

/-- A name has no field exactly if it is none of the fields' names. -/
theorem slot?_eq_none_iff {name : String} : shape.slot? name = none ↔ name ∉ names shape.slots := by
  simp only [slot?, names, List.find?_eq_none, List.mem_map, beq_iff_eq, not_exists, not_and]

/-- A member that is no field's changes nothing. -/
theorem storeMember_of_not_mem {m : String × Json} (h : m.1 ∉ names shape.slots) (r : R) :
    shape.storeMember r m = .ok r := by
  rw [storeMember, slot?_eq_none_iff.mpr h]

/-- Members that are no fields' may be left out, whether the others can be read or not. -/
theorem readMembers_filter (r : R) (members : List (String × Json)) :
    shape.readMembers r (members.filter fun m => m.1 ∈ names shape.slots) =
      shape.readMembers r members := by
  induction members generalizing r with
  | nil => rfl
  | cons m rest ih =>
    by_cases hm : m.1 ∈ names shape.slots
    · rw [List.filter_cons_of_pos (by simpa using hm), readMembers, readMembers]
      cases shape.storeMember r m with
      | ok stored => exact ih stored
      | error fault => rfl
    · rw [List.filter_cons_of_neg (by simpa using hm), readMembers, storeMember_of_not_mem hm]
      exact ih r

/-- Members that were read can be read: none of their values was refused. -/
theorem readable_of_readMembers (h : LawfulFields shape.slots) {members : List (String × Json)}
    {r r' : R} (hread : shape.readMembers r members = .ok r') : Readable shape.slots members := by
  induction members generalizing r with
  | nil => exact fun _ hm => nomatch hm
  | cons m rest ih =>
    rw [readMembers] at hread
    cases hstore : shape.storeMember r m with
    | error fault =>
      rw [hstore] at hread
      cases hread
    | ok stored =>
      rw [hstore] at hread
      intro m' hm' s hs hname
      rcases List.mem_cons.mp hm' with rfl | hm'
      · rw [storeMember, ← hname, slot?_name h hs] at hstore
        cases ha : s.codec.read m'.2 with
        | ok a => exact ⟨a, rfl⟩
        | error fault =>
          simp only [Slot.store, ha] at hstore
          cases hstore
      · exact ih hread m' hm' s hs hname

/-- A field holds what was overlaid if the members were read. -/
theorem overlaid_of_readMembers (h : LawfulFields shape.slots) {members : List (String × Json)}
    (hkeys : (members.map (·.1)).Nodup) {r r' : R} (hread : shape.readMembers r members = .ok r') :
    ∀ s ∈ shape.slots, s.Overlaid members r r' := by
  have hreadable := readable_of_readMembers h hread
  obtain ⟨found, hfound, hfields⟩ :=
    exists_readMembers h hkeys (exists_read_of_slot? hreadable) r
  obtain rfl : found = r' := Except.ok.inj (hfound.symm.trans hread)
  intro s hs
  refine ⟨(hfields s hs).1, fun v hv => ?_⟩
  obtain ⟨a, ha⟩ := hreadable _ (Entries.mem_of_find? hv) s hs rfl
  rw [(hfields s hs).2 v a hv ha, ha]

/-- Members can be read into some record exactly if none of them is refused by its field. -/
theorem exists_read_object_iff (h : LawfulFields shape.slots) {members : List (String × Json)}
    (hkeys : (members.map (·.1)).Nodup) :
    (∃ r, shape.read (object members) = .ok r) ↔ Readable shape.slots members := by
  constructor
  · rintro ⟨r, hr⟩
    exact readable_of_readMembers h hr
  · intro hreadable
    obtain ⟨r, hr, _⟩ :=
      exists_readMembers h hkeys (exists_read_of_slot? hreadable) shape.template
    exact ⟨r, hr⟩

/-- An object is read into a record exactly if every field of it is overlaid by the members. -/
theorem read_object_eq_ok_iff (h : LawfulFields shape.slots) {members : List (String × Json)}
    (hkeys : (members.map (·.1)).Nodup) {r : R} :
    shape.read (object members) = .ok r ↔
      ∀ s ∈ shape.slots, s.Overlaid members shape.template r := by
  refine ⟨overlaid_of_readMembers h hkeys, fun hoverlaid => ?_⟩
  have hreadable : Readable shape.slots members := by
    intro m hm s hs hname
    have hfind : Entries.find? s.name members = some m.2 :=
      Entries.find?_of_mem hkeys (hname ▸ hm)
    exact ⟨s.get r, (hoverlaid s hs).present m.2 hfind⟩
  obtain ⟨found, hfound⟩ := (exists_read_object_iff h hkeys).mpr hreadable
  have hsame : found = r := by
    refine h.determine found r fun s hs => ?_
    have hread := overlaid_of_readMembers h hkeys hfound s hs
    cases hfind : Entries.find? s.name members with
    | none => rw [hread.absent hfind, (hoverlaid s hs).absent hfind]
    | some v => exact Except.ok.inj ((hread.present v hfind).symm.trans
        ((hoverlaid s hs).present v hfind))
  rw [hfound, hsame]

end Record

end ProxyInbound.Json
