import ProxyInbound.Proofs.Text.Splitting

/-!
# Splitting at more separators

A character that is neither white space nor a separator stays in some part of its text. So taking a
text apart at further separators gives other parts exactly if one of them is in the text, provided
that the further separators are visible. Lines and values of a text differ by the comma.
-/

namespace ProxyInbound.Text.Parts

open White

variable {separator : Char → Bool}

/-- Separators that do the same on a text split it alike. -/
theorem splitOnP_congr {p q : Char → Bool} {cs : List Char} (h : ∀ c ∈ cs, p c = q c) :
    cs.splitOnP p = cs.splitOnP q := by
  induction cs with
  | nil => rfl
  | cons c r ih =>
    have hrest := ih fun d hd => h d (List.mem_cons_of_mem c hd)
    rw [List.splitOnP_cons_eq_if_modifyHead, List.splitOnP_cons_eq_if_modifyHead,
      h c List.mem_cons_self, hrest]

/-- Separators that do the same on a text give the same parts. -/
theorem parts_congr {p q : Char → Bool} {s : String} (h : ∀ c ∈ s.toList, p c = q c) :
    parts p s = parts q s := by
  rw [parts, parts, partsChars, partsChars, splitOnP_congr h]

/-- A character that is no separator stands in some piece. -/
theorem exists_mem_splitOnP {cs : List Char} {c : Char} (hmem : c ∈ cs)
    (hc : separator c = false) : ∃ piece ∈ cs.splitOnP separator, c ∈ piece := by
  induction cs with
  | nil => cases hmem
  | cons d r ih =>
    rw [List.splitOnP_cons_eq_if_modifyHead]
    split <;> rename_i hd
    · have hne : c ≠ d := by
        rintro rfl
        rw [hc] at hd
        cases hd
      obtain ⟨piece, hpiece, hin⟩ := ih (List.mem_of_ne_of_mem hne hmem)
      exact ⟨piece, List.mem_cons_of_mem [] hpiece, hin⟩
    · -- the character in front belongs to the first piece of the rest
      obtain ⟨first, others, hsplit⟩ := List.exists_cons_of_ne_nil
        (List.splitOnP_ne_nil separator r)
      rw [hsplit] at ih ⊢
      rcases List.mem_cons.mp hmem with rfl | hmem
      · exact ⟨c :: first, List.mem_cons_self, List.mem_cons_self⟩
      · obtain ⟨piece, hpiece, hin⟩ := ih hmem
        rcases List.mem_cons.mp hpiece with rfl | hpiece
        · exact ⟨d :: piece, List.mem_cons_self, List.mem_cons_of_mem d hin⟩
        · exact ⟨piece, List.mem_cons_of_mem _ hpiece, hin⟩

/-- A character of a text that is neither white space nor a separator stands in some part. -/
theorem exists_mem_parts {s : String} {c : Char} (hmem : c ∈ s.toList)
    (hc : separator c = false) (hwhite : isWhite c = false) :
    ∃ w ∈ parts separator s, c ∈ w.toList := by
  obtain ⟨piece, hpiece, hin⟩ := exists_mem_splitOnP hmem hc
  have htrimmed : c ∈ trimChars piece := mem_trimChars_of_not_white hin hwhite
  have hkept : trimChars piece ∈ partsChars separator s.toList :=
    List.mem_filter.mpr ⟨List.mem_map_of_mem hpiece,
      decide_eq_true (List.ne_nil_of_mem htrimmed)⟩
  refine ⟨String.ofList (trimChars piece), List.mem_map_of_mem hkept, ?_⟩
  rwa [String.toList_ofList]

/-- Splitting at further separators that are visible changes nothing exactly if none of them is in
the text. -/
theorem parts_eq_parts_iff {fewer more : Char → Bool}
    (hmore : ∀ c, fewer c = true → more c = true)
    (hvisible : ∀ c, more c = true → fewer c = false → isWhite c = false) {s : String} :
    parts more s = parts fewer s ↔ ∀ c ∈ s.toList, more c = true → fewer c = true := by
  constructor
  · intro h c hmem hc
    by_contra hfewer
    rw [Bool.not_eq_true] at hfewer
    -- the further separator would stand in a part that it separates
    obtain ⟨w, hw, hin⟩ := exists_mem_parts hmem hfewer (hvisible c hc hfewer)
    rw [← h] at hw
    have hunbroken := (isPart_of_mem_parts hw).unbroken c hin
    rw [hc] at hunbroken
    cases hunbroken
  · intro h
    exact parts_congr fun c hmem => Bool.eq_iff_iff.mpr ⟨h c hmem, hmore c⟩

/-- The values of a text are its lines exactly if there is no comma in it. -/
theorem values_eq_lines_iff {s : String} : values s = lines s ↔ ',' ∉ s.toList := by
  have hiff : values s = lines s ↔
      ∀ c ∈ s.toList, isValueSeparator c = true → isLineSeparator c = true := by
    refine parts_eq_parts_iff (fun c hc => ?_) fun c hc hline => ?_
    · rw [isValueSeparator, show (c == '\n') = true from hc, Bool.true_or]
    · rcases Bool.or_eq_true_iff.mp hc with hfeed | hcomma
      · exact absurd hfeed (Bool.eq_false_iff.mp hline)
      · rw [beq_iff_eq.mp hcomma]
        decide
  rw [hiff]
  constructor
  · intro h hmem
    exact absurd (h ',' hmem (by decide)) (by decide)
  · intro h c hmem hc
    rcases Bool.or_eq_true_iff.mp hc with hline | hcomma
    · exact hline
    · exact absurd (beq_iff_eq.mp hcomma ▸ hmem) h

/-- A value of a text is a line. -/
theorem isPart_line_of_mem_values {s w : String} (h : w ∈ values s) :
    IsPart isLineSeparator w := by
  have hvalue : IsPart isValueSeparator w := isPart_of_mem_parts h
  refine hvalue.of_unbroken fun c hc => ?_
  exact (Bool.or_eq_false_iff.mp (hvalue.unbroken c hc)).1

/-- The values of a text are lines that are left as they are. -/
theorem flatMap_lines_values (s : String) : (values s).flatMap lines = values s :=
  flatMap_parts_of_isPart fun _ => isPart_line_of_mem_values

/-- The lines of a text are left as they are. -/
theorem flatMap_lines_lines (s : String) : (lines s).flatMap lines = lines s :=
  flatMap_parts_of_isPart fun _ => isPart_of_mem_parts

end ProxyInbound.Text.Parts
