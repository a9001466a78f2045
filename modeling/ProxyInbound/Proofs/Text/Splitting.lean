import ProxyInbound.Proofs.Text.Trimming
import ProxyInbound.Text.Basic

/-!
# Splitting joined texts

A part is a trimmed text with something in it and without a separator. Splitting gives parts only,
splitting one part gives that part, and splitting at a separator that joins other texts splits each
of them. So parts that were joined are found again, and joining what was split and splitting it
again changes nothing.
-/

namespace ProxyInbound.Text.Parts

open White

variable {separator : Char → Bool}

/-- A text that stands as it is among the parts of a text. -/
structure IsPart (separator : Char → Bool) (s : String) : Prop where
  /-- No white space is at its ends. -/
  trimmed : trim s = s
  /-- There is something in it. -/
  nonempty : s ≠ ""
  /-- No separator is in it. -/
  unbroken : ∀ c ∈ s.toList, separator c = false

/-- A part is not blank. -/
theorem IsPart.not_blank {s : String} (h : IsPart separator s) : blank s = false :=
  (blank_eq_false_iff_of_trim h.trimmed).mpr h.nonempty

/-- A part between the separators of one kind is one between those of another if none of the
others is in it. -/
theorem IsPart.of_unbroken {other : Char → Bool} {s : String} (h : IsPart separator s)
    (hs : ∀ c ∈ s.toList, other c = false) : IsPart other s :=
  ⟨h.trimmed, h.nonempty, hs⟩

/-- A piece between separators has characters of the text only and no separator. -/
theorem mem_of_mem_splitOnP {cs w : List Char} (h : w ∈ cs.splitOnP separator) :
    ∀ c ∈ w, c ∈ cs ∧ separator c = false := by
  -- by length: the pieces are those of the shorter texts before and after some separator
  induction hn : cs.length using Nat.strong_induction_on generalizing cs with
  | _ n ih =>
    by_cases hclear : ∀ c ∈ cs, separator c = false
    · rw [List.splitOnP_eq_singleton hclear, List.mem_singleton] at h
      subst h
      exact fun c hc => ⟨hc, hclear c hc⟩
    · push Not at hclear
      obtain ⟨d, hmem, hd⟩ := hclear
      obtain ⟨before, after, rfl⟩ := List.append_of_mem hmem
      rw [List.length_append, List.length_cons] at hn
      rw [List.splitOnP_append_cons before after (by simpa using hd), List.mem_append] at h
      intro c hc
      rcases h with h | h
      · obtain ⟨hin, hs⟩ := ih before.length (by omega) h rfl c hc
        exact ⟨List.mem_append_left _ hin, hs⟩
      · obtain ⟨hin, hs⟩ := ih after.length (by omega) h rfl c hc
        exact ⟨List.mem_append_right _ (List.mem_cons_of_mem _ hin), hs⟩

/-- Splitting gives parts only. -/
theorem isPart_of_mem_parts {s w : String} (h : w ∈ parts separator s) :
    IsPart separator w := by
  obtain ⟨cs, hcs, rfl⟩ := List.mem_map.mp h
  obtain ⟨hmem, hne⟩ := List.mem_filter.mp hcs
  obtain ⟨piece, hpiece, rfl⟩ := List.mem_map.mp hmem
  refine ⟨?_, ?_, ?_⟩
  · rw [trim, String.toList_ofList, trimChars_trimChars]
  · intro he
    have : (String.ofList (trimChars piece)).toList = "".toList := by rw [he]
    rw [String.toList_ofList] at this
    simp [this] at hne
  · rw [String.toList_ofList]
    intro c hc
    exact (mem_of_mem_splitOnP hpiece c ((trimChars_sublist piece).subset hc)).2

/-- A part is split into itself. -/
theorem parts_of_isPart {s : String} (h : IsPart separator s) : parts separator s = [s] := by
  have htrim : trimChars s.toList = s.toList := by rw [← toList_trim, h.trimmed]
  have hne : s.toList ≠ [] := fun he => h.nonempty (String.toList_inj.mp he)
  rw [parts, partsChars, List.splitOnP_eq_singleton h.unbroken, List.map_singleton, htrim,
    List.filter_cons_of_pos (by simpa using hne), List.filter_nil, List.map_singleton,
    String.ofList_toList]

/-- Splitting one after the other the parts of a list gives the list. -/
theorem flatMap_parts_of_isPart {xs : List String} (h : ∀ x ∈ xs, IsPart separator x) :
    xs.flatMap (parts separator) = xs := by
  induction xs with
  | nil => rfl
  | cons x r ih =>
    rw [List.flatMap_cons, parts_of_isPart (h x List.mem_cons_self),
      ih fun y hy => h y (List.mem_cons_of_mem _ hy), List.singleton_append]

/-- A blank text has no parts. -/
theorem parts_of_blank {s : String} (h : blank s = true) : parts separator s = [] := by
  have hnil : partsChars separator s.toList = [] := by
    rw [partsChars, List.filter_eq_nil_iff]
    intro w hw
    obtain ⟨piece, hpiece, rfl⟩ := List.mem_map.mp hw
    have hwhite : piece.all isWhite = true := List.all_eq_true.mpr fun c hc =>
      List.all_eq_true.mp h c (mem_of_mem_splitOnP hpiece c hc).1
    simp [trimChars_eq_nil_iff.mpr hwhite]
  rw [parts, hnil, List.map_nil]

/-- Characters joined by a separator are split into the pieces of one list after the other. -/
theorem splitOnP_intercalate {c : Char} (hc : separator c = true) {xss : List (List Char)}
    (hne : xss ≠ []) :
    ([c].intercalate xss).splitOnP separator = xss.flatMap (List.splitOnP separator) := by
  induction xss with
  | nil => exact absurd rfl hne
  | cons xs rest ih =>
    cases rest with
    | nil => simp
    | cons ys rest =>
      rw [List.intercalate_cons_cons, List.append_assoc, List.singleton_append,
        List.splitOnP_append_cons _ _ hc, ih (List.cons_ne_nil ys rest)]
      rfl

/-- Characters joined by a separator are split one list after the other. -/
theorem partsChars_intercalate {c : Char} (hc : separator c = true) (xss : List (List Char)) :
    partsChars separator ([c].intercalate xss) = xss.flatMap (partsChars separator) := by
  by_cases hnil : xss = []
  · simp [hnil, partsChars, trimChars, List.splitOnP_nil]
  · rw [partsChars, splitOnP_intercalate hc hnil, List.map_flatMap, List.filter_flatMap]
    rfl

/-- Texts joined by a separator are split one after the other. -/
theorem parts_intercalate {joint : String} {c : Char} (hj : joint.toList = [c])
    (hc : separator c = true) (xs : List String) :
    parts separator (joint.intercalate xs) = xs.flatMap (parts separator) := by
  rw [parts, String.toList_intercalate, hj, partsChars_intercalate hc, List.flatMap_map,
    List.map_flatMap]
  rfl

/-- The lines of a text as they stand, blank ones too. -/
def plainLines (s : String) : List String :=
  (s.toList.splitOnP isLineSeparator).map String.ofList

/-- The lines of joined texts, as they stand, are those of each text in turn. -/
theorem plainLines_join {xs : List String} (hne : xs ≠ []) :
    plainLines (join xs) = xs.flatMap plainLines := by
  have hchars : xs.map String.toList ≠ [] := fun hnil => hne (List.map_eq_nil_iff.mp hnil)
  rw [plainLines, toList_join, splitOnP_intercalate rfl hchars, List.flatMap_map,
    List.map_flatMap]
  rfl

/-- The values of joined texts are those of each text in turn. -/
theorem values_join (xs : List String) : values (join xs) = xs.flatMap values :=
  parts_intercalate rfl rfl xs

/-- The lines of joined texts are those of each text in turn. -/
theorem lines_join (xs : List String) : lines (join xs) = xs.flatMap lines :=
  parts_intercalate rfl rfl xs

/-- The entries of a joined list are those of each text in turn. -/
theorem commaParts_joinCommas (xs : List String) :
    commaParts (joinCommas xs) = xs.flatMap commaParts :=
  parts_intercalate rfl rfl xs

/-- Values that are joined are found again. -/
theorem values_join_of_isPart {xs : List String} (h : ∀ x ∈ xs, IsPart isValueSeparator x) :
    values (join xs) = xs :=
  (values_join xs).trans (flatMap_parts_of_isPart h)

/-- Lines that are joined are found again. -/
theorem lines_join_of_isPart {xs : List String} (h : ∀ x ∈ xs, IsPart isLineSeparator x) :
    lines (join xs) = xs :=
  (lines_join xs).trans (flatMap_parts_of_isPart h)

/-- Entries that are joined are found again. -/
theorem commaParts_joinCommas_of_isPart {xs : List String} (h : ∀ x ∈ xs, IsPart isComma x) :
    commaParts (joinCommas xs) = xs :=
  (commaParts_joinCommas xs).trans (flatMap_parts_of_isPart h)

/-- Joining values and taking them apart again changes nothing. -/
@[simp] theorem values_join_values (s : String) : values (join (values s)) = values s :=
  values_join_of_isPart fun _ => isPart_of_mem_parts

/-- Joining lines and taking them apart again changes nothing. -/
@[simp] theorem lines_join_lines (s : String) : lines (join (lines s)) = lines s :=
  lines_join_of_isPart fun _ => isPart_of_mem_parts

/-- Joining entries and taking them apart again changes nothing. -/
@[simp] theorem commaParts_joinCommas_commaParts (s : String) :
    commaParts (joinCommas (commaParts s)) = commaParts s :=
  commaParts_joinCommas_of_isPart fun _ => isPart_of_mem_parts

end ProxyInbound.Text.Parts
