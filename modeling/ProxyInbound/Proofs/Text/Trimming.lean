import Mathlib.Data.List.DropRight
import ProxyInbound.Text.Basic

/-!
# Trimmed and blank texts

Trimming a text again changes nothing, text without white space is trimmed already, and nothing is
left exactly of a blank text. A field that leaves out blank text and is filled in again from a
default holds its text exactly when the text is not blank or is the default.
-/

namespace ProxyInbound.Text.White

/-- Text without white space is left as it is. -/
theorem trimChars_eq_self {cs : List Char} (h : ∀ c ∈ cs, isWhite c = false) :
    trimChars cs = cs := by
  have front (ds : List Char) (hd : ∀ c ∈ ds, isWhite c = false) :
      ds.dropWhile isWhite = ds := by
    rw [List.dropWhile_eq_self_iff]
    exact fun hl => Bool.eq_false_iff.mp (hd ds[0] (List.getElem_mem hl))
  unfold trimChars
  rw [front cs h, front cs.reverse (fun c hc => h c (List.mem_reverse.mp hc)),
    List.reverse_reverse]

/-- Trimming again changes nothing. -/
theorem trimChars_trimChars (cs : List Char) : trimChars (trimChars cs) = trimChars cs := by
  have hfront : (trimChars cs).dropWhile isWhite = trimChars cs := by
    rw [List.dropWhile_eq_self_iff]
    intro hl
    have hpre : trimChars cs <+: cs.dropWhile isWhite := List.rdropWhile_prefix isWhite _
    have hlen : 0 < (cs.dropWhile isWhite).length := hl.trans_le hpre.length_le
    rw [hpre.getElem hl]
    exact List.dropWhile_get_zero_not (p := isWhite) cs hlen
  have hback : (trimChars cs).rdropWhile isWhite = trimChars cs :=
    List.rdropWhile_idempotent isWhite (cs.dropWhile isWhite)
  change ((trimChars cs).dropWhile isWhite).rdropWhile isWhite = trimChars cs
  rw [hfront, hback]

/-- Trimming keeps some of the characters in their order. -/
theorem trimChars_sublist (cs : List Char) : (trimChars cs).Sublist cs :=
  (List.rdropWhile_prefix isWhite _).sublist.trans (List.dropWhile_sublist isWhite)

/-- A character that is no white space stays when a text is trimmed. -/
theorem mem_trimChars_of_not_white {cs : List Char} {c : Char} (hmem : c ∈ cs)
    (hc : isWhite c = false) : c ∈ trimChars cs := by
  have hdrop {ds : List Char} (hds : c ∈ ds) : c ∈ ds.dropWhile isWhite := by
    rw [← List.takeWhile_append_dropWhile (p := isWhite) (l := ds), List.mem_append] at hds
    refine hds.resolve_left fun htake => ?_
    have hwhite : isWhite c = true := List.mem_takeWhile_imp htake
    rw [hc] at hwhite
    cases hwhite
  rw [trimChars, List.mem_reverse]
  exact hdrop (List.mem_reverse.mpr (hdrop hmem))

/-- Trimming leaves nothing exactly when every character is white space. -/
theorem trimChars_eq_nil_iff {cs : List Char} : trimChars cs = [] ↔ cs.all isWhite = true := by
  rw [List.all_eq_true]
  constructor
  · intro h c hc
    -- a character that is no white space would stay
    by_contra hwhite
    have hmem := mem_trimChars_of_not_white hc (Bool.eq_false_iff.mpr hwhite)
    rw [h] at hmem
    cases hmem
  · intro h
    rw [trimChars, List.dropWhile_eq_nil_iff.mpr h]
    rfl

/-- A text is blank exactly when trimming leaves nothing of it. -/
theorem blank_iff_trim (s : String) : blank s = true ↔ trim s = "" := by
  rw [← String.toList_inj, toList_trim, String.toList_empty, trimChars_eq_nil_iff, blank]

/-- A trimmed text is trimmed. -/
@[simp] theorem trim_trim (s : String) : trim (trim s) = trim s := by
  rw [← String.toList_inj, toList_trim, toList_trim, trimChars_trimChars]

/-- A trimmed text is blank exactly when the text was. -/
@[simp] theorem blank_trim (s : String) : blank (trim s) = blank s := by
  rw [Bool.eq_iff_iff, blank_iff_trim, trim_trim, blank_iff_trim]

/-- A text is not blank exactly when trimming leaves something of it. -/
theorem blank_eq_false_iff_trim (s : String) : blank s = false ↔ trim s ≠ "" := by
  rw [Bool.eq_false_iff, ne_eq, blank_iff_trim]

/-- The empty text is blank. -/
@[simp] theorem blank_empty : blank "" = true := rfl

/-- A text with a character that is no white space is not blank. -/
theorem blank_eq_false_of_mem {s : String} {c : Char} (hmem : c ∈ s.toList)
    (hc : isWhite c = false) : blank s = false := by
  rw [Bool.eq_false_iff]
  intro hblank
  have hwhite : isWhite c = true := List.all_eq_true.mp hblank c hmem
  rw [hc] at hwhite
  cases hwhite

/-- A trimmed text is not blank exactly when it is not empty. -/
theorem blank_eq_false_iff_of_trim {s : String} (h : trim s = s) : blank s = false ↔ s ≠ "" := by
  rw [blank_eq_false_iff_trim, h]

/-- Nothing is kept of a text exactly when it is blank. -/
theorem nonBlank?_eq_none_iff {s : String} : nonBlank? s = none ↔ blank s = true := by
  unfold nonBlank?
  cases blank s <;> simp

/-- A text that is not blank is kept. -/
theorem nonBlank?_of_not_blank {s : String} (h : blank s = false) : nonBlank? s = some s :=
  nonBlank?_eq_some_iff.mpr ⟨h, rfl⟩

/-- Nothing is kept of a blank text. -/
theorem nonBlank?_of_blank {s : String} (h : blank s = true) : nonBlank? s = none :=
  nonBlank?_eq_none_iff.mpr h

/-- Of no text nothing is kept. -/
@[simp] theorem keepNonBlank_none : keepNonBlank none = none := rfl

/-- An optional text that is not blank is kept. -/
theorem keepNonBlank_eq_self {s : Option String} (h : ∀ t, s = some t → blank t = false) :
    keepNonBlank s = s := by
  cases s with
  | none => rfl
  | some t => exact nonBlank?_of_not_blank (h t rfl)

/-- What was kept of a text is kept. -/
@[simp] theorem keepNonBlank_nonBlank? (s : String) :
    keepNonBlank (nonBlank? s) = nonBlank? s := by
  cases h : blank s with
  | false => rw [nonBlank?_of_not_blank h]; exact nonBlank?_of_not_blank h
  | true => rw [nonBlank?_of_blank h]; rfl

/-- A text that may be left out is filled in as it was exactly when it is not blank or is the
default. -/
theorem getD_nonBlank?_eq_self_iff {s default : String} :
    (nonBlank? s).getD default = s ↔ blank s = false ∨ s = default := by
  cases h : blank s with
  | false => simp [nonBlank?_of_not_blank h]
  | true => simp [nonBlank?_of_blank h, eq_comm]

/-- Leaving a text out, filling in the default and leaving out again comes to leaving it out once
exactly when the text is not blank or the default is. -/
theorem nonBlank?_getD_nonBlank?_iff {s default : String} :
    nonBlank? ((nonBlank? s).getD default) = nonBlank? s ↔
      blank s = false ∨ blank default = true := by
  cases h : blank s with
  | false => simp [nonBlank?_of_not_blank h]
  | true => simp [nonBlank?_of_blank h, nonBlank?_eq_none_iff]

end ProxyInbound.Text.White
