import ProxyInbound.Proofs.Text.Numerals
import ProxyInbound.Proofs.Text.Splitting
import ProxyInbound.Wire.Fields

/-!
# Settled fields

A field is settled if saving the form and opening what was saved leaves the field as it was. For a
field with a text, a numeral or a list of records this is a property of what the field holds and of
what a new form holds in its place.
-/

namespace ProxyInbound

open Text.White Text.Parts Text.Numeral Wire

/-- A text that is saved, or an empty one where a new form has none. -/
def SettledText (template s : String) : Prop :=
  blank s = false ∨ s = "" ∧ template = ""

/-- The text of an unsigned word, or an empty one where a new form has none. -/
def SettledWord (template s : String) : Prop :=
  (∃ w : UInt64, s = unsignedText w) ∨ s = "" ∧ template = ""

/-- The text of a signed word, or an empty one where a new form has none. -/
def SettledSignedWord (template s : String) : Prop :=
  (∃ w : Int64, s = signedText w) ∨ s = "" ∧ template = ""

/-- A text that is left out and filled in again is as it was exactly when it is settled. -/
theorem getD_nonBlank?_iff_settled (template s : String)
    (h : blank template = true → template = "") :
    (nonBlank? s).getD template = s ↔ SettledText template s := by
  rw [getD_nonBlank?_eq_self_iff, SettledText]
  constructor
  · rintro (hs | rfl)
    · exact Or.inl hs
    · by_cases hblank : blank s = true
      · exact Or.inr ⟨h hblank, h hblank⟩
      · exact Or.inl (Bool.not_eq_true _ ▸ hblank)
  · rintro (hs | ⟨rfl, rfl⟩)
    · exact Or.inl hs
    · exact Or.inr rfl

/-- A value that is read and written again, or filled in, is as it was exactly when it was written
from a value, or is empty where a new form has none. -/
theorem getD_map_iff_written {read : String → Option α} {write : α → String}
    (hread : ∀ w, read (write w) = some w) (hempty : read "" = none) (template s : String)
    (h : read template = none → template = "") :
    ((read s).map write).getD template = s ↔ (∃ w, s = write w) ∨ s = "" ∧ template = "" := by
  constructor
  · intro heq
    cases hs : read s with
    | some w =>
      rw [hs] at heq
      exact Or.inl ⟨w, heq.symm⟩
    | none =>
      rw [hs] at heq
      obtain rfl : template = s := heq
      exact Or.inr ⟨h hs, h hs⟩
  · rintro (⟨w, rfl⟩ | ⟨rfl, rfl⟩)
    · rw [hread]
      rfl
    · rw [hempty]
      rfl

/-- A numeral that is read and written again is as it was exactly when it is settled. -/
theorem wordText_iff_settled (template s : String)
    (h : unsigned? template = none → template = "") :
    wordText (unsigned? s) template = s ↔ SettledWord template s :=
  getD_map_iff_written unsigned?_unsignedText rfl template s h

/-- A signed numeral that is read and written again is as it was exactly when it is settled. -/
theorem signedWordText_iff_settled (template s : String)
    (h : signed? template = none → template = "") :
    signedWordText (signed? s) template = s ↔ SettledSignedWord template s :=
  getD_map_iff_written signed?_signedText rfl template s h

/-- Records that are saved and laid out are as they were exactly when each of them is. -/
theorem map_filterMap_eq_self_iff (save : α → Option β) (layOut : β → α) (rows : List α) :
    (rows.filterMap save).map layOut = rows ↔ ∀ row ∈ rows, (save row).map layOut = some row := by
  constructor
  · intro h
    induction rows with
    | nil => exact fun _ hrow => nomatch hrow
    | cons row rest ih =>
      have hshort : (rest.filterMap save).length ≤ rest.length := List.length_filterMap_le save rest
      cases hsave : save row with
      | none =>
        -- one record fewer is laid out than there were
        rw [List.filterMap_cons_none hsave] at h
        have hlen := congrArg List.length h
        rw [List.length_map, List.length_cons] at hlen
        omega
      | some saved =>
        rw [List.filterMap_cons_some hsave, List.map_cons] at h
        obtain ⟨hhead, htail⟩ := List.cons.inj h
        intro r hr
        rcases List.mem_cons.mp hr with rfl | hr
        · rw [hsave, Option.map_some, hhead]
        · exact ih htail r hr
  · intro h
    rw [List.map_filterMap]
    exact (List.filterMap_congr h).trans List.filterMap_some

/-- Records that are saved, laid out and saved again are as they were saved first, if each of them
is. -/
theorem filterMap_map_filterMap (save : α → Option β) (layOut : β → α)
    (h : ∀ row saved, save row = some saved → save (layOut saved) = some saved)
    (rows : List α) :
    ((rows.filterMap save).map layOut).filterMap save = rows.filterMap save := by
  rw [List.filterMap_map]
  refine (List.filterMap_congr fun saved hsaved => ?_).trans List.filterMap_some
  obtain ⟨row, _, hrow⟩ := List.mem_filterMap.mp hsaved
  exact h row saved hrow

end ProxyInbound
