import ProxyInbound.Proofs.Form.Fields
import ProxyInbound.Proofs.Json.Members

/-!
# Forms from any object

A form is read from an object with any of its fields: those that are there are read, the others are
as in the template, and members under other keys play no part. Nothing is read only if the value of
some field is refused, and no field accepts null.
-/

namespace ProxyInbound.Form

open Json

/-- No field of a form is read from null. -/
theorem read_null_error : ∀ slot ∈ slots, ∃ fault, slot.codec.read null = .error fault := by
  have hnone : ∀ slot ∈ slots, slot.accepts null = false := by decide +kernel
  exact fun slot hslot => Slot.accepts_eq_false_iff.mp (hnone slot hslot)

/-- A form is read back from the object that it is written as. An object is read as a form exactly
if every member under a field's name holds a value that this field reads; each field then holds the
value of its member or, if it has none, what it holds in the template, which determines the form.
Members under other names change neither the form nor the fault, and null is refused by every
field. -/
theorem ofJson_object :
    (∀ form, ofJson form.toJson = .ok form) ∧
      (∀ members, (members.map (·.1)).Nodup →
        ((∃ form, ofJson (object members) = .ok form) ↔
            ∀ m ∈ members, ∀ slot ∈ slots, slot.name = m.1 → ∃ a, slot.codec.read m.2 = .ok a) ∧
          ∀ form, ofJson (object members) = .ok form ↔ ∀ slot ∈ slots,
            ((object members).get? slot.name = none → slot.get form = slot.get template) ∧
              ∀ v, (object members).get? slot.name = some v →
                slot.codec.read v = .ok (slot.get form)) ∧
      (∀ members, ofJson (object (members.filter fun m => m.1 ∈ names slots)) =
        ofJson (object members)) ∧
      ∀ slot ∈ slots, ∃ fault, slot.codec.read null = .error fault := by
  refine ⟨ofJson_toJson, fun members hkeys => ⟨?readable, fun form => ?overlaid⟩,
    fun members => ?others, read_null_error⟩
  case readable =>
    have hread : (∃ form, shape.read (object members) = .ok form) ↔
        Readable shape.slots members :=
      Record.exists_read_object_iff lawful hkeys
    exact hread
  case overlaid =>
    have hread : shape.read (object members) = .ok form ↔
        ∀ slot ∈ shape.slots, slot.Overlaid members shape.template form :=
      Record.read_object_eq_ok_iff lawful hkeys
    exact hread.trans (forall₂_congr fun slot _ =>
      ⟨fun h => ⟨h.absent, h.present⟩, fun h => ⟨h.1, h.2⟩⟩)
  case others =>
    have hread : shape.readMembers template
        (members.filter fun m => m.1 ∈ names shape.slots) = shape.readMembers template members :=
      Record.readMembers_filter template members
    exact hread

/-- Some fields of a form, with a row that has no value and a member that is no field's. -/
def partialMembers : List (String × Json) :=
  [("note", null), ("port", string "443"), ("streamNetwork", string "ws"),
    ("wsHeaders", array [object [("name", string "Via"), ("hidden", null)]])]

/-- The partial form is read with the template's values in the other fields, but no form has null
for a port. -/
theorem ofJson_partialMembers :
    (∃ form, ofJson (object partialMembers) = .ok form ∧ form.port = "443" ∧ form.tag = "") ∧
      ¬ ∃ form, ofJson (object [("port", null)]) = .ok form := by
  obtain ⟨_, hobject, _⟩ := ofJson_object
  obtain ⟨hreadable, hfields⟩ := hobject partialMembers (by decide)
  have hpartial : Readable slots partialMembers := by decide +kernel
  have hport : ¬ Readable slots [("port", null)] := by decide +kernel
  refine ⟨?_, fun hread => hport ((hobject _ (by decide)).1.mp hread)⟩
  obtain ⟨form, hform⟩ := hreadable.mpr hpartial
  have hslots := (hfields form).mp hform
  obtain ⟨htag, _, hport, _⟩ : (_ ∧ _ ∧ _ ∧ _) := by
    simpa only [slots, headSlots, List.cons_append, List.forall_mem_cons] using hslots
  refine ⟨form, hform, ?_, htag.1 rfl⟩
  exact (Except.ok.inj (hport.2 (string "443") rfl)).symm

end ProxyInbound.Form
