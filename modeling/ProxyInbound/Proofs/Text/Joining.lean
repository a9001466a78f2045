import ProxyInbound.Proofs.Text.Splitting

/-!
# Lists kept by joining

Texts that are joined and split are found again exactly if each of them is a part: trimmed, not
empty and without a separator. Joining puts a line feed between two texts, at which both lines and
values are split, so this holds of lines, which may have commas in them, and of values, which may
not. A carriage return before a line feed ends no part of its own: it is white space at the end of
one.
-/

namespace ProxyInbound.Text.Parts

open White

variable {separator : Char → Bool}

/-! ## Parts that are found again -/

/-- Texts that are joined by a separator are found again exactly if each of them is a part. -/
theorem parts_intercalate_eq_self_iff {joint : String} {c : Char} (hj : joint.toList = [c])
    (hc : separator c = true) {xs : List String} :
    parts separator (joint.intercalate xs) = xs ↔ ∀ x ∈ xs, IsPart separator x := by
  constructor
  · intro h x hx
    rw [← h] at hx
    exact isPart_of_mem_parts hx
  · intro h
    exact (parts_intercalate hj hc xs).trans (flatMap_parts_of_isPart h)

/-- A part is a trimmed text with something in it and with none of the characters that separate. -/
theorem isPart_iff_of_separators {separators : List Char}
    (h : ∀ c, separator c = true ↔ c ∈ separators) {s : String} :
    IsPart separator s ↔ trim s = s ∧ s ≠ "" ∧ ∀ c ∈ separators, c ∉ s.toList := by
  constructor
  · intro hpart
    refine ⟨hpart.trimmed, hpart.nonempty, fun c hc hmem => ?_⟩
    exact Bool.eq_false_iff.mp (hpart.unbroken c hmem) ((h c).mpr hc)
  · rintro ⟨htrim, hne, hfree⟩
    exact ⟨htrim, hne, fun c hmem => Bool.eq_false_iff.mpr fun hc => hfree c ((h c).mp hc) hmem⟩

/-- A value is trimmed, not empty and free of line feeds and commas. -/
theorem isPart_isValueSeparator_iff {s : String} :
    IsPart isValueSeparator s ↔
      trim s = s ∧ s ≠ "" ∧ '\n' ∉ s.toList ∧ ',' ∉ s.toList := by
  have hseparators (c : Char) : isValueSeparator c = true ↔ c ∈ ['\n', ','] := by
    simp [isValueSeparator]
  rw [isPart_iff_of_separators hseparators, List.forall_mem_cons, List.forall_mem_singleton]

/-- A line is trimmed, not empty and free of line feeds. -/
theorem isPart_isLineSeparator_iff {s : String} :
    IsPart isLineSeparator s ↔ trim s = s ∧ s ≠ "" ∧ '\n' ∉ s.toList := by
  have hseparators (c : Char) : isLineSeparator c = true ↔ c ∈ ['\n'] := by
    simp [isLineSeparator]
  rw [isPart_iff_of_separators hseparators, List.forall_mem_singleton]

/-! ## Carriage returns -/

/-- White space at the end is trimmed away. -/
theorem trimChars_append_white {cs : List Char} {c : Char} (hc : isWhite c = true) :
    trimChars (cs ++ [c]) = trimChars cs := by
  have hend : [c].dropWhile isWhite = [] := List.dropWhile_cons_of_pos hc
  rw [trimChars, trimChars, List.dropWhile_append, hend]
  split <;> rename_i hfront
  · rw [List.isEmpty_iff.mp hfront]
  · rw [List.reverse_append, List.reverse_singleton, List.singleton_append,
      List.dropWhile_cons_of_pos hc]

/-- A text without the carriage return at its end, if there is one. -/
def dropReturn (s : String) : String :=
  if s.toList.getLast? = some '\r' then String.ofList s.toList.dropLast else s

/-- The lines of a text as a line feed ends them, alone or after a carriage return. What follows the
last line feed is a line as it stands, unless it is empty. -/
def endedLines (s : String) : List String :=
  (plainLines s).dropLast.map dropReturn ++ (plainLines s).getLast?.toList.filter (· ≠ "")

/-- A carriage return at the end of a text is trimmed away. -/
theorem trim_dropReturn (s : String) : trim (dropReturn s) = trim s := by
  rw [dropReturn]
  split <;> rename_i hend
  · have hsplit : s.toList.dropLast ++ ['\r'] = s.toList :=
      List.dropLast_append_getLast? '\r' hend
    rw [trim, trim, String.toList_ofList, ← hsplit, trimChars_append_white (by decide),
      List.dropLast_concat]
  · rfl

/-- The lines of a text are those that stand in it, trimmed, without the blank ones. -/
theorem lines_eq_plainLines (s : String) :
    lines s = ((plainLines s).map trim).filter (· ≠ "") := by
  have htrim (cs : List Char) : trim (String.ofList cs) = String.ofList (trimChars cs) := by
    rw [trim, String.toList_ofList]
  have hkept (cs : List Char) : decide (String.ofList cs ≠ "") = decide (cs ≠ []) := by
    rw [decide_eq_decide, ne_eq, ne_eq, ← String.toList_inj, String.toList_ofList,
      String.toList_empty]
  rw [lines, parts, partsChars, plainLines, List.map_map, List.filter_map, List.filter_map,
    List.map_map]
  simp only [Function.comp_def, htrim, hkept]

/-- The lines of a text are the same whether or not a carriage return before a line feed is part of
a line. -/
theorem lines_eq_endedLines (s : String) :
    lines s = ((endedLines s).map trim).filter (· ≠ "") := by
  have hne : plainLines s ≠ [] := by
    rw [plainLines, ne_eq, List.map_eq_nil_iff]
    exact List.splitOnP_ne_nil isLineSeparator s.toList
  obtain ⟨ended, last, hlines⟩ := (List.eq_nil_or_concat' (plainLines s)).resolve_left hne
  have hended : (ended.map dropReturn).map trim = ended.map trim := by
    rw [List.map_map]
    exact List.map_congr_left fun line _ => trim_dropReturn line
  rw [lines_eq_plainLines, endedLines, hlines, List.dropLast_concat, List.getLast?_concat,
    List.map_append, List.map_append, hended, List.filter_append, List.filter_append]
  congr 1
  -- an empty text after the last line feed is blank, so no line is lost with it
  by_cases hlast : last = ""
  · rw [hlast]
    decide
  · simp [hlast]

/-! ## Joined lists -/

/-- The values and the lines of joined texts are those of each text in turn. A list of values is
found again exactly if each is trimmed, not empty and free of line feeds and commas, and a list of
lines exactly if each is trimmed, not empty and free of line feeds. So what was split is found again
after it was joined. -/
theorem split_join :
    (∀ xs, values (join xs) = xs.flatMap values ∧ lines (join xs) = xs.flatMap lines) ∧
    (∀ xs, values (join xs) = xs ↔
      ∀ x ∈ xs, trim x = x ∧ x ≠ "" ∧ '\n' ∉ x.toList ∧ ',' ∉ x.toList) ∧
    (∀ xs, lines (join xs) = xs ↔ ∀ x ∈ xs, trim x = x ∧ x ≠ "" ∧ '\n' ∉ x.toList) ∧
    (∀ s, values (join (values s)) = values s ∧ lines (join (lines s)) = lines s) ∧
    ∀ s, lines s = ((endedLines s).map trim).filter (· ≠ "") := by
  refine ⟨fun xs => ⟨values_join xs, lines_join xs⟩, fun xs => ?_, fun xs => ?_,
    fun s => ⟨values_join_values s, lines_join_lines s⟩, lines_eq_endedLines⟩
  · simp only [← isPart_isValueSeparator_iff]
    exact parts_intercalate_eq_self_iff rfl rfl
  · simp only [← isPart_isLineSeparator_iff]
    exact parts_intercalate_eq_self_iff rfl rfl

end ProxyInbound.Text.Parts
