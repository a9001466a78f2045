import ProxyInbound.Proofs.Header.Saved
import ProxyInbound.Proofs.Text.Joining

/-!
# The normal form of header maps

Laying a header map out as rows and saving the rows keeps the map exactly when it has the form in
which rows are saved. Any other map comes back changed: white space at the ends of a name or a value
is trimmed, a value with a comma is split, an empty name or value is dropped, a list of one value
becomes a text, and a map without names is left out. What rows are saved as has this form, so saving
it once more changes nothing.
-/

namespace ProxyInbound.HeaderMap

open Text.White Text.Parts

/-- A header map in the form in which rows are saved. -/
structure Normal (m : HeaderMap) : Prop where
  /-- There is a name in it. -/
  nonempty : m.entries ≠ []
  /-- Every name is trimmed and not empty. -/
  named : ∀ e ∈ m.entries, trim e.1 = e.1 ∧ e.1 ≠ ""
  /-- Every value is trimmed, not empty and free of commas. -/
  commaFree : ∀ e ∈ m.entries, ∀ v ∈ e.2.values, trim v = v ∧ v ≠ "" ∧ ',' ∉ v.toList
  /-- A name holds a text for one value and a list for two or more. -/
  shaped : ∀ e ∈ m.entries,
    (∃ v, e.2 = .single v) ∨ ∃ vs, e.2 = .multi vs ∧ 2 ≤ vs.length

/-- A part between commas is trimmed, not empty and free of commas. -/
theorem isPart_isComma_iff {v : String} :
    IsPart isComma v ↔ trim v = v ∧ v ≠ "" ∧ ',' ∉ v.toList := by
  have hseparators (c : Char) : isComma c = true ↔ c ∈ [','] := by
    simp [isComma]
  rw [isPart_iff_of_separators hseparators, List.forall_mem_singleton]

/-- A header value with something in it is grouped like the values of rows exactly when it is a text
for one value and a list for several. -/
theorem eq_ofValues_iff {value : HeaderValue} :
    value.values ≠ [] ∧ value = HeaderValue.ofValues value.values ↔
      (∃ v, value = .single v) ∨ ∃ vs, value = .multi vs ∧ 2 ≤ vs.length := by
  cases value with
  | single v => simp [HeaderValue.values, HeaderValue.ofValues]
  | multi vs =>
    match vs with
    | [] => simp [HeaderValue.values]
    | [v] => simp [HeaderValue.values, HeaderValue.ofValues]
    | v :: w :: rest => simp [HeaderValue.values, HeaderValue.ofValues]

/-- A map is normal exactly when it has a name and rows could be saved as it. -/
theorem normal_iff_saved {m : HeaderMap} : Normal m ↔ m ≠ empty ∧ Saved m := by
  constructor
  · intro h
    have hgrouped (e : String × HeaderValue) (he : e ∈ m.entries) :=
      eq_ofValues_iff.mpr (h.shaped e he)
    exact
      ⟨fun hempty => h.nonempty (congrArg entries hempty),
        { named := h.named
          filled := fun e he => (hgrouped e he).1
          parted := fun e he v hv => isPart_isComma_iff.mpr (h.commaFree e he v hv)
          grouped := fun e he => (hgrouped e he).2 }⟩
  · rintro ⟨hne, h⟩
    exact
      { nonempty := fun hnil => hne (ext hnil)
        named := h.named
        commaFree := fun e he v hv => isPart_isComma_iff.mp (h.parted e he v hv)
        shaped := fun e he => eq_ofValues_iff.mp ⟨h.filled e he, h.grouped e he⟩ }

/-- What rows are saved as is normal. -/
theorem normal_of_ofRows?_eq {rows : List HeaderRow} {m : HeaderMap} (h : ofRows? rows = some m) :
    Normal m := by
  have hm : ofRows rows = m := by
    rw [← getD_nonEmpty? (ofRows rows), ← ofRows?_eq, h, Option.getD_some]
  have hne : m ≠ empty := by
    rintro rfl
    rw [ofRows?_eq, hm] at h
    cases h
  exact normal_iff_saved.mpr ⟨hne, hm ▸ saved_ofRows rows⟩

/-- Rows are the normal form of header maps: a map that is laid out as rows and saved again is as it
was exactly when it is normal, and what rows are saved as, if anything, is saved again as it was. -/
theorem ofRows?_editRows_eq_iff_normal :
    (∀ m : HeaderMap, ofRows? (editRows (some m)) = some m ↔ Normal m) ∧
      ∀ rows : List HeaderRow, ofRows? (editRows (ofRows? rows)) = ofRows? rows := by
  refine ⟨fun m => ⟨normal_of_ofRows?_eq, fun h => ?_⟩, ofRows?_editRows_ofRows?⟩
  obtain ⟨hne, hsaved⟩ := normal_iff_saved.mp h
  have hnames : m.isEmpty = false := by
    rw [Bool.eq_false_iff]
    exact fun hempty => hne (ext (List.isEmpty_iff.mp hempty))
  rw [ofRows?_eq, ofRows_editRows hsaved.toParted, hsaved.regroup_eq, nonEmpty?, hnames]
  rfl

end ProxyInbound.HeaderMap
