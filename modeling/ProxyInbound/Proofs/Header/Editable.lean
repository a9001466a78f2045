import ProxyInbound.Proofs.Header.Merging
import ProxyInbound.Proofs.Text.Numerals
import ProxyInbound.Proofs.Text.Utf8

/-!
# Rows that can be edited

A list of header rows can be edited if it is a single blank row or if it has rows, none without a
value, in the order of their names. Whatever document a header map is read from, its names hold
something and nothing blank: blank texts are dropped, and numbers and truth values have visible
texts. The rows that such a map is laid out as can be edited.
-/

namespace ProxyInbound

open Text.White Text.Numeral

/-! ## Texts of single values -/

namespace Json

/-- A single value that holds something has a text that is not blank. -/
theorem blank_of_scalarText? {v : Json} {s : String} (hvoid : v.isVoid = false)
    (hs : v.scalarText? = some s) : blank s = false := by
  cases v with
  | null => cases hs
  | bool b =>
    obtain rfl := Option.some.inj hs
    cases b <;> decide
  | number n =>
    obtain rfl := Option.some.inj hs
    exact blank_numberText n
  | string t =>
    obtain rfl := Option.some.inj hs
    exact hvoid
  | array items => cases hs
  | object members => cases hs

end Json

namespace HeaderMap

open Json Text.Utf8

/-! ## Stored header maps -/

/-- A stored value holds something and nothing blank, if it is read. -/
theorem filledValue_of_ofStored? {v : Json} {value : HeaderValue}
    (h : HeaderValue.ofStored? v = some value) : FilledValue value := by
  refine ⟨values_ne_nil_of_ofStored? h, fun text htext => ?_⟩
  unfold HeaderValue.ofStored? at h
  split at h
  · split at h
    · cases h
    · obtain rfl := Option.some.inj h
      obtain ⟨item, hitem, htext⟩ := List.mem_filterMap.mp htext
      have hvoid : item.isVoid = false := by simpa using (List.mem_filter.mp hitem).2
      exact blank_of_scalarText? hvoid htext
  · split at h <;> rename_i hvoid
    · cases h
    · obtain ⟨held, hheld, rfl⟩ := Option.map_eq_some_iff.mp h
      obtain rfl := List.mem_singleton.mp htext
      exact blank_of_scalarText? (Bool.eq_false_iff.mpr hvoid) hheld

/-- A map that is read from a stored value is filled. -/
theorem filled_getD_ofStored? (v : Json) : Filled ((ofStored? v).getD empty) := by
  intro e he
  obtain ⟨stored, hread⟩ := exists_ofStored?_of_mem he
  exact filledValue_of_ofStored? hread

/-- A map that is read from a member of a document is filled, whatever the document. -/
theorem filled_getD_storedAt? (v : Json) (key : String) :
    Filled ((storedAt? v key).getD empty) := by
  rw [storedAt?]
  cases v.get? key with
  | none => exact filled_empty
  | some headers => exact filled_getD_ofStored? headers

/-! ## Rows -/

/-- A single blank row, or rows of which each has a value, in the order of the bytes of their
names. -/
def EditableRows (rows : List HeaderRow) : Prop :=
  rows = [⟨"", ""⟩] ∨
    rows ≠ [] ∧ (∀ row ∈ rows, blank row.value = false) ∧
      rows.Pairwise fun a b => bytes a.name ≤ bytes b.name

/-- A single blank row can be edited. -/
theorem editableRows_blank : EditableRows [HeaderRow.blank] := Or.inl rfl

/-- The rows of a filled map can be edited. -/
theorem editableRows_editRows {m : Option HeaderMap} (h : Filled (m.getD empty)) :
    EditableRows (editRows m) := by
  rw [editRows_eq, orBlankRow]
  split <;> rename_i hempty
  · exact editableRows_blank
  · refine Or.inr ⟨fun hnil => hempty (List.isEmpty_iff.mpr hnil), fun row hrow => ?_, ?_⟩
    · obtain ⟨value, he, hv⟩ := mem_toRows_iff.mp hrow
      exact (h _ he).visible _ hv
    · exact (pairwise_toRows _).imp fun hle => bytes_le_iff.mpr hle

end HeaderMap

end ProxyInbound
