import Mathlib.Data.List.Nodup
import Mathlib.Data.List.Pairwise
import Mathlib.Tactic.MkIffOfInductiveProp
import ProxyInbound.Json.Record
import ProxyInbound.Proofs.Entries

/-!
# Fields of records

The fields of a record are lawful if each gives what was stored into it, no two touch each other,
and all of them together determine the record. Records are put together from groups of fields, and
the fields of the whole are lawful if those of the groups are. A record with
lawful fields is read back from the object that it is written as.
-/

namespace ProxyInbound.Json

open Strict

variable {R S : Type}

/-- The names of fields. -/
def names (slots : List (Slot R)) : List String :=
  slots.map (·.name)

/-- Two records hold the same in every field whose name counts. -/
def AgreeOn (slots : List (Slot R)) (counts : String → Prop) (a b : R) : Prop :=
  ∀ slot ∈ slots, counts slot.name → slot.get a = slot.get b

/-- Storing into one of two fields leaves the other as it is. -/
@[mk_iff]
structure Slot.Apart (s t : Slot R) : Prop where
  /-- Storing into the first leaves the second. -/
  left : ∀ v r, t.get (s.set v r) = t.get r
  /-- Storing into the second leaves the first. -/
  right : ∀ v r, s.get (t.set v r) = s.get r

/-- A field on its own: it holds what was stored into it, and its values are read back. -/
structure Slot.Lawful (s : Slot R) : Prop where
  /-- The field holds what was stored into it. -/
  get_set : ∀ v r, s.get (s.set v r) = v
  /-- The values of the field are read back. -/
  codec : s.codec.Lawful

/-- Fields that a record consists of. -/
structure LawfulFields (slots : List (Slot R)) : Prop where
  /-- Different fields have different names. -/
  names : (names slots).Nodup
  /-- Each field is lawful on its own. -/
  lawful : ∀ s ∈ slots, s.Lawful
  /-- No two fields touch each other. -/
  apart : slots.Pairwise Slot.Apart
  /-- Records that hold the same in every field are the same. -/
  determine : ∀ a b, (∀ s ∈ slots, s.get a = s.get b) → a = b

/-- A field with a text is lawful if it holds what was stored into it. -/
@[simp] theorem Slot.lawful_text {name : String} {get : R → String} {set : String → R → R} :
    (Slot.text name get set).Lawful ↔ ∀ v r, get (set v r) = v :=
  ⟨fun h => h.get_set, fun h => ⟨h, text_lawful⟩⟩

/-- A field with a truth value is lawful if it holds what was stored into it. -/
@[simp] theorem Slot.lawful_flag {name : String} {get : R → Bool} {set : Bool → R → R} :
    (Slot.flag name get set).Lawful ↔ ∀ v r, get (set v r) = v :=
  ⟨fun h => h.get_set, fun h => ⟨h, flag_lawful⟩⟩

/-- A field with texts is lawful if it holds what was stored into it. -/
@[simp] theorem Slot.lawful_texts {name : String} {get : R → List String}
    {set : List String → R → R} :
    (Slot.texts name get set).Lawful ↔ ∀ v r, get (set v r) = v :=
  ⟨fun h => h.get_set, fun h => ⟨h, listOf_lawful text_lawful⟩⟩

/-- Records agree on two lists of fields exactly when they agree on each. -/
theorem agreeOn_append {s t : List (Slot R)} {counts : String → Prop} {a b : R} :
    AgreeOn (s ++ t) counts a b ↔ AgreeOn s counts a b ∧ AgreeOn t counts a b :=
  List.forall_mem_append

/-- Records agree on the fields of a part exactly when the parts do. -/
theorem agreeOn_within {part : R → S} {put : S → R → R} {slots : List (Slot S)}
    {counts : String → Prop} {a b : R} :
    AgreeOn (slots.map (Slot.within part put)) counts a b ↔
      AgreeOn slots counts (part a) (part b) :=
  List.forall_mem_map

namespace AgreeOn

variable {slots : List (Slot R)} {counts : String → Prop} {a b c : R}

/-- A record agrees with itself. -/
theorem refl (slots : List (Slot R)) (counts : String → Prop) (a : R) :
    AgreeOn slots counts a a :=
  fun _ _ _ => rfl

/-- Two steps that each leave the fields outside a group leave the fields outside both groups. -/
theorem andThen {earlier later : List String} (hab : AgreeOn slots (· ∉ earlier) b a)
    (hbc : AgreeOn slots (· ∉ later) c b) : AgreeOn slots (· ∉ earlier ++ later) c a := by
  intro s hs hother
  rw [List.mem_append, not_or] at hother
  exact (hbc s hs hother.2).trans (hab s hs hother.1)

/-- Records agree on fields of which none counts. -/
theorem of_none (h : ∀ n ∈ names slots, ¬ counts n) (a b : R) : AgreeOn slots counts a b :=
  fun _ hs hcounts => absurd hcounts (h _ (List.mem_map_of_mem hs))

/-- Records agree on fields of which all are among those that do not count. -/
theorem outside {others : List String} (h : names slots ⊆ others) (a b : R) :
    AgreeOn slots (· ∉ others) a b :=
  of_none (fun _ hn hother => hother (h hn)) a b

/-- Records that agree on every field are the same. -/
theorem eq (h : AgreeOn slots counts a b) (hlawful : LawfulFields slots)
    (hall : ∀ n ∈ names slots, counts n) : a = b :=
  hlawful.determine a b fun s hs => h s hs (hall _ (List.mem_map_of_mem hs))

end AgreeOn

/-! ## Groups of fields -/

/-- Fields of a record that belong together. -/
structure FieldGroup (R : Type) where
  /-- The record of these fields alone. -/
  Value : Type
  /-- The group of a record. -/
  get : R → Value
  /-- The record with another group. -/
  set : Value → R → R
  /-- The fields of the group. -/
  slots : List (Slot Value)

namespace FieldGroup

/-- The fields of the group as fields of the record. -/
def fields (p : FieldGroup R) : List (Slot R) :=
  p.slots.map (Slot.within p.get p.set)

/-- A field as a group that has only this field. -/
def ofSlot (s : Slot R) : FieldGroup R :=
  ⟨s.Value, s.get, s.set, [⟨s.name, s.Value, s.codec, id, fun v _ => v⟩]⟩

/-- Groups of one field each have these fields. -/
theorem flatMap_fields_ofSlot (slots : List (Slot R)) :
    (slots.map ofSlot).flatMap fields = slots := by
  rw [List.flatMap_map]
  exact List.flatMap_singleton' slots

/-- Putting one of two groups into a record leaves the other as it is. -/
@[mk_iff]
structure Apart (p q : FieldGroup R) : Prop where
  /-- Putting the first leaves the second. -/
  left : ∀ x r, q.get (p.set x r) = q.get r
  /-- Putting the second leaves the first. -/
  right : ∀ x r, p.get (q.set x r) = p.get r

/-- The groups that a record consists of. -/
structure LawfulGroups (groups : List (FieldGroup R)) : Prop where
  /-- The fields of a group are lawful. -/
  lawful : ∀ p ∈ groups, LawfulFields p.slots
  /-- A record has the group that was put into it. -/
  get_set : ∀ p ∈ groups, ∀ x r, p.get (p.set x r) = x
  /-- No two groups touch each other. -/
  apart : groups.Pairwise Apart
  /-- Records with the same groups are the same. -/
  determine : ∀ a b, (∀ p ∈ groups, p.get a = p.get b) → a = b

/-- The single field of a group is lawful. -/
theorem lawful_ofSlot {s : Slot R} (h : s.codec.Lawful) : LawfulFields (ofSlot s).slots where
  names := List.nodup_singleton _
  lawful := List.forall_mem_singleton.mpr ⟨fun _ _ => rfl, h⟩
  apart := List.pairwise_singleton _ _
  determine _ _ hab := hab _ List.mem_cons_self

/-- Fields that are apart in a group are apart in the record. -/
theorem apart_within {p : FieldGroup R} (h : ∀ x r, p.get (p.set x r) = x) {s t : Slot p.Value}
    (hst : s.Apart t) : (s.within p.get p.set).Apart (t.within p.get p.set) where
  left v r := (congrArg t.get (h _ r)).trans (hst.left v (p.get r))
  right v r := (congrArg s.get (h _ r)).trans (hst.right v (p.get r))

/-- Fields of groups that are apart are apart. -/
theorem Apart.within {p q : FieldGroup R} (h : p.Apart q) (s : Slot p.Value) (t : Slot q.Value) :
    (s.within p.get p.set).Apart (t.within q.get q.set) where
  left _ r := congrArg t.get (h.left _ r)
  right _ r := congrArg s.get (h.right _ r)

/-- The fields of all groups together are lawful if no two share a name. -/
theorem LawfulGroups.lawfulFields {groups : List (FieldGroup R)} (h : LawfulGroups groups)
    (hnames : (names (groups.flatMap fields)).Nodup) :
    LawfulFields (groups.flatMap fields) where
  names := hnames
  lawful := by
    intro s hs
    obtain ⟨p, hp, hs⟩ := List.mem_flatMap.mp hs
    obtain ⟨t, ht, rfl⟩ := List.mem_map.mp hs
    obtain ⟨hget, hcodec⟩ := (h.lawful p hp).lawful t ht
    exact ⟨fun v r => (congrArg t.get (h.get_set p hp _ r)).trans (hget v (p.get r)), hcodec⟩
  apart := by
    rw [List.pairwise_flatMap]
    constructor
    · intro p hp
      rw [fields, List.pairwise_map]
      exact (h.lawful p hp).apart.imp (apart_within (h.get_set p hp))
    · refine h.apart.imp fun hpq s hs t ht => ?_
      obtain ⟨s, _, rfl⟩ := List.mem_map.mp hs
      obtain ⟨t, _, rfl⟩ := List.mem_map.mp ht
      exact hpq.within s t
  determine := by
    intro a b hab
    refine h.determine a b fun p hp => ?_
    refine (h.lawful p hp).determine _ _ fun s hs => ?_
    exact hab _ (List.mem_flatMap.mpr ⟨p, hp, List.mem_map_of_mem hs⟩)

end FieldGroup

/-! ## Reading what was written -/

instance : Std.Symm (Slot.Apart (R := R)) where
  symm _ _ h := ⟨h.right, h.left⟩

namespace Record

variable {shape : Record R}

/-- The field of a name is one of the fields and has the name. -/
theorem mem_of_slot? {name : String} {s : Slot R} (h : shape.slot? name = some s) :
    s ∈ shape.slots ∧ s.name = name :=
  ⟨List.mem_of_find?_eq_some h, by simpa using List.find?_some h⟩

/-- A field is the one of its name. -/
theorem slot?_name (h : LawfulFields shape.slots) {s : Slot R} (hs : s ∈ shape.slots) :
    shape.slot? s.name = some s := by
  cases hfound : shape.slot? s.name with
  | none => exact absurd (beq_self_eq_true s.name) (List.find?_eq_none.mp hfound s hs)
  | some t =>
    obtain ⟨ht, hname⟩ := mem_of_slot? hfound
    rw [List.inj_on_of_nodup_map h.names ht hs hname]

/-- Fields with different names do not touch each other. -/
theorem get_set_of_ne (h : LawfulFields shape.slots) {s t : Slot R} (hs : s ∈ shape.slots)
    (ht : t ∈ shape.slots) (hne : t.name ≠ s.name) (v : t.Value) (r : R) :
    s.get (t.set v r) = s.get r := by
  have hapart : t.Apart s :=
    h.apart.forall ht hs fun heq => hne (congrArg _ heq)
  exact hapart.left v r

/-- Members of different keys whose values can be read are read in turn, and then each field holds
the value of its member, or what it held before if there is none. -/
theorem exists_readMembers (h : LawfulFields shape.slots) {members : List (String × Json)}
    (hkeys : (members.map (·.1)).Nodup)
    (hread : ∀ m ∈ members, ∀ s, shape.slot? m.1 = some s → ∃ a, s.codec.read m.2 = .ok a)
    (r : R) :
    ∃ r', shape.readMembers r members = .ok r' ∧ ∀ s ∈ shape.slots,
      (Entries.find? s.name members = none → s.get r' = s.get r) ∧
      ∀ v a, Entries.find? s.name members = some v → s.codec.read v = .ok a → s.get r' = a := by
  induction members generalizing r with
  | nil => exact ⟨r, rfl, fun _ _ => ⟨fun _ => rfl, nofun⟩⟩
  | cons m rest ih =>
    obtain ⟨hm, hrest⟩ := List.nodup_cons.mp hkeys
    have htail := fun m' hm' => hread m' (List.mem_cons_of_mem m hm')
    cases hslot : shape.slot? m.1 with
    | none =>
      -- the member is no field's, so no field finds it
      obtain ⟨r', hr', hfields⟩ := ih hrest htail r
      refine ⟨r', ?_, fun s hs => ?_⟩
      · rw [readMembers, storeMember, hslot]
        exact hr'
      · have hne : m.1 ≠ s.name := by
          intro heq
          rw [heq, slot?_name h hs] at hslot
          cases hslot
        rw [Entries.find?_cons, if_neg hne]
        exact hfields s hs
    | some t =>
      obtain ⟨ht, hname⟩ := mem_of_slot? hslot
      obtain ⟨a, ha⟩ := hread m List.mem_cons_self t hslot
      obtain ⟨r', hr', hfields⟩ := ih hrest htail (t.set a r)
      refine ⟨r', ?_, fun s hs => ?_⟩
      · rw [readMembers, storeMember, hslot]
        simp only [Slot.store, ha]
        exact hr'
      · rw [Entries.find?_cons]
        by_cases heq : m.1 = s.name
        · have hst : s = t := by
            rw [heq, slot?_name h hs] at hslot
            exact Option.some.inj hslot
          subst hst
          have hnone : Entries.find? s.name rest = none :=
            Entries.find?_eq_none_of_not_mem (heq ▸ hm)
          rw [if_pos heq]
          refine ⟨nofun, fun v b hv hb => ?_⟩
          obtain rfl := Option.some.inj hv
          rw [(hfields s hs).1 hnone, (h.lawful s hs).get_set]
          exact Except.ok.inj (ha.symm.trans hb)
        · rw [if_neg heq]
          obtain ⟨habsent, hpresent⟩ := hfields s hs
          refine ⟨fun hnone => ?_, hpresent⟩
          rw [habsent hnone, get_set_of_ne h hs ht (hname ▸ heq)]

/-- The members of a written record are its fields. -/
theorem find?_fields (h : LawfulFields shape.slots) (r : R) {s : Slot R} (hs : s ∈ shape.slots) :
    Entries.find? s.name (Entries.ofList (shape.fields r)) = some (s.emit r) := by
  have hnodup : ((shape.fields r).map (·.1)).Nodup := by
    rw [fields, List.map_map]
    exact h.names
  rw [Entries.find?_ofList, Entries.find?_reverse hnodup]
  exact Entries.find?_of_mem hnodup (List.mem_map.mpr ⟨s, hs, rfl⟩)

/-- A record is read back from the object that it is written as. -/
theorem read_write (h : LawfulFields shape.slots) (r : R) : shape.read (shape.write r) = .ok r := by
  have hread : ∀ m ∈ Entries.ofList (shape.fields r), ∀ s, shape.slot? m.1 = some s →
      ∃ a, s.codec.read m.2 = .ok a := by
    intro m hm s hs
    obtain ⟨t, ht, rfl⟩ := List.mem_map.mp (Entries.mem_of_mem_ofList hm)
    rw [slot?_name h ht] at hs
    obtain rfl := Option.some.inj hs
    exact ⟨t.get r, (h.lawful t ht).codec (t.get r)⟩
  obtain ⟨r', hr', hfields⟩ := exists_readMembers h
    (Entries.ascending_ofList (shape.fields r)).nodup hread shape.template
  have hsame : r' = r := h.determine r' r fun s hs =>
    (hfields s hs).2 _ _ (find?_fields h r hs) ((h.lawful s hs).codec (s.get r))
  exact hr'.trans (congrArg Except.ok hsame)

/-- The description of a record with lawful fields is a lawful codec. -/
theorem codec_lawful (h : LawfulFields shape.slots) : shape.codec.Lawful :=
  read_write h

end Record

/-- A field with rows is lawful if it holds what was stored into it and the rows are read back. -/
theorem Slot.lawful_rows {shape : Record S} (h : LawfulFields shape.slots) {name : String}
    {get : R → List S} {set : List S → R → R} (hget : ∀ v r, get (set v r) = v) :
    (Slot.rows shape name get set).Lawful :=
  ⟨hget, listOf_lawful (Record.codec_lawful h)⟩

end ProxyInbound.Json
