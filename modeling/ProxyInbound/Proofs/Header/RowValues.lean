import ProxyInbound.Proofs.Header.Saved

/-!
# What rows are saved as

A name is given the parts between commas of the values that stand beside it, in the order of the
rows. These values alone decide what the rows are saved as: a name without any is left out, one
value is a text, several are a list. So rows may change places as long as those of one name keep
their order, and rows without a name or without any part may come and go.
-/

namespace ProxyInbound.HeaderMap

open Text.White Text.Parts

/-- The parts of the values that rows of a name hold, row by row. A row holds something if its
trimmed value is not empty. -/
def heldValues (name : String) (rows : List HeaderRow) : List String :=
  (rows.filter fun row => trim row.name = name ∧ trim row.value ≠ "").flatMap fun row =>
    commaParts row.value

/-- A row that gives no value to any name. -/
def Vacant (row : HeaderRow) : Prop :=
  trim row.name = "" ∨ commaParts row.value = []

instance : DecidablePred Vacant := fun row =>
  inferInstanceAs (Decidable (trim row.name = "" ∨ commaParts row.value = []))

/-- A row in front gives its values first. -/
theorem valuesOf_row_cons (name : String) (row : HeaderRow) (rest : List HeaderRow) :
    valuesOf name (row :: rest) = valuesOf name [row] ++ valuesOf name rest :=
  valuesOf_append name [row] rest

/-- Rows that give a name no values may be left out. -/
theorem valuesOf_filter {name : String} {keep : HeaderRow → Bool}
    (h : ∀ row, keep row = false → valuesOf name [row] = []) (rows : List HeaderRow) :
    valuesOf name (rows.filter keep) = valuesOf name rows := by
  induction rows with
  | nil => rfl
  | cons row rest ih =>
    rw [valuesOf_row_cons name row rest, ← ih]
    cases hrow : keep row with
    | true =>
      rw [List.filter_cons_of_pos hrow]
      exact valuesOf_row_cons name row _
    | false =>
      rw [List.filter_cons_of_neg (by simp [hrow]), h row hrow, List.nil_append]

/-- A row of another name gives a name no values. -/
theorem valuesOf_of_name_ne {name : String} {row : HeaderRow} (h : trim row.name ≠ name) :
    valuesOf name [row] = [] := by
  rw [valuesOf, List.flatMap_singleton, if_neg h]

/-- A row without parts gives no values. -/
theorem valuesOf_of_commaParts {row : HeaderRow} (h : commaParts row.value = [])
    (name : String) : valuesOf name [row] = [] := by
  rw [valuesOf, List.flatMap_singleton, h, ite_self]

/-- A vacant row gives no name a value. -/
theorem Vacant.valuesOf_eq {row : HeaderRow} (h : Vacant row) {name : String}
    (hname : name ≠ "") : valuesOf name [row] = [] := by
  rcases h with hblank | hparts
  · exact valuesOf_of_name_ne fun heq => hname (heq.symm.trans hblank)
  · exact valuesOf_of_commaParts hparts name

/-- The values that rows hold are those they give: rows of other names and empty values give
none. -/
theorem heldValues_eq (name : String) (rows : List HeaderRow) :
    heldValues name rows = valuesOf name rows := by
  have hnone (row : HeaderRow)
      (h : decide (trim row.name = name ∧ trim row.value ≠ "") = false) :
      valuesOf name [row] = [] := by
    rw [decide_eq_false_iff_not, not_and_or, not_not] at h
    rcases h with hother | hempty
    · exact valuesOf_of_name_ne hother
    · exact valuesOf_of_commaParts (parts_of_blank ((blank_iff_trim _).mpr hempty)) name
  rw [← valuesOf_filter hnone]
  refine List.flatMap_congr fun row hrow => ?_
  have hname : trim row.name = name := (of_decide_eq_true (List.mem_filter.mp hrow).2).1
  rw [if_pos hname]

/-- Rows are saved as the same map exactly if they give every name the same values. -/
theorem ofRows?_eq_ofRows?_iff {a b : List HeaderRow} :
    ofRows? a = ofRows? b ↔ ∀ name, name ≠ "" → valuesOf name a = valuesOf name b := by
  rw [ofRows?_eq, ofRows?_eq, nonEmpty?_inj]
  constructor
  · intro h name hname
    have hfind := congrArg (fun m => ((m.find? name).map HeaderValue.values).getD []) h
    simp only [find?_ofRows, hname, false_or] at hfind
    have hvalues (rows : List HeaderRow) :
        ((if valuesOf name rows = [] then none
          else some (HeaderValue.ofValues (valuesOf name rows))).map HeaderValue.values).getD [] =
          valuesOf name rows := by
      split <;> rename_i hnil
      · exact hnil.symm
      · rw [Option.map_some, Option.getD_some, HeaderValue.values_ofValues]
    rwa [hvalues, hvalues] at hfind
  · intro h
    apply ext_find?
    intro name
    rw [find?_ofRows, find?_ofRows]
    by_cases hname : name = ""
    · rw [if_pos (Or.inl hname), if_pos (Or.inl hname)]
    · rw [h name hname]

/-- Nothing is saved exactly if no name is given a value. -/
theorem ofRows?_eq_none_iff {rows : List HeaderRow} :
    ofRows? rows = none ↔ ∀ name, name ≠ "" → valuesOf name rows = [] := by
  have hempty : ofRows? [] = none := rfl
  rw [← hempty, ofRows?_eq_ofRows?_iff]
  rfl

/-- What a name finds in the saved map is made of the values that the rows give to it. -/
theorem find?_of_ofRows? {rows : List HeaderRow} {m : HeaderMap} (h : ofRows? rows = some m)
    (name : String) :
    m.find? name =
      if name = "" ∨ valuesOf name rows = [] then none
      else some (HeaderValue.ofValues (valuesOf name rows)) := by
  have hm : ofRows rows = m := by
    rw [← getD_nonEmpty? (ofRows rows), ← ofRows?_eq, h, Option.getD_some]
  rw [← hm, find?_ofRows]

/-- Rows in which every name has the same rows in the same order are saved alike. -/
theorem ofRows?_of_filter_name {a b : List HeaderRow}
    (h : ∀ name, (a.filter fun row => trim row.name = name) =
      b.filter fun row => trim row.name = name) : ofRows? a = ofRows? b := by
  rw [ofRows?_eq_ofRows?_iff]
  intro name _
  have hother (row : HeaderRow) (hrow : decide (trim row.name = name) = false) :
      valuesOf name [row] = [] :=
    valuesOf_of_name_ne (of_decide_eq_false hrow)
  rw [← valuesOf_filter hother a, h name, valuesOf_filter hother b]

/-- Rows that differ in vacant rows only are saved alike. -/
theorem ofRows?_of_filter_vacant {a b : List HeaderRow}
    (h : (a.filter fun row => ¬ Vacant row) = b.filter fun row => ¬ Vacant row) :
    ofRows? a = ofRows? b := by
  rw [ofRows?_eq_ofRows?_iff]
  intro name hname
  have hvacant (row : HeaderRow) (hrow : decide (¬ Vacant row) = false) :
      valuesOf name [row] = [] := by
    rw [decide_eq_false_iff_not, not_not] at hrow
    exact hrow.valuesOf_eq hname
  rw [← valuesOf_filter hvacant a, h, valuesOf_filter hvacant b]

/-- The names of a saved map are those that the rows give values to. -/
theorem mem_names_of_ofRows? {rows : List HeaderRow} {m : HeaderMap} (h : ofRows? rows = some m)
    (name : String) :
    name ∈ m.entries.map (·.1) ↔ name ≠ "" ∧ valuesOf name rows ≠ [] := by
  have hnone : m.find? name = none ↔ name = "" ∨ valuesOf name rows = [] := by
    rw [find?_of_ofRows? h]
    split <;> rename_i hcase
    · exact iff_of_true rfl hcase
    · exact iff_of_false (Option.some_ne_none _) hcase
  rw [← not_iff_not, ← Entries.find?_eq_none_iff, not_and_or, not_not, not_not]
  exact hnone

/-- A name that rows give values to finds them in the saved map. -/
theorem find?_of_valuesOf {rows : List HeaderRow} {m : HeaderMap} (h : ofRows? rows = some m)
    {name : String} (hname : name ≠ "") (hvalues : valuesOf name rows ≠ []) :
    m.find? name = some (HeaderValue.ofValues (valuesOf name rows)) := by
  have hheld : ¬ (name = "" ∨ valuesOf name rows = []) := not_or.mpr ⟨hname, hvalues⟩
  rw [find?_of_ofRows? h, if_neg hheld]

/-- Rows are saved as the map of the values they hold. Nothing is saved exactly if no name holds a
value. Otherwise the names of the map are those that hold one, a single value is a text and several
are a list. Rows that change places without those of one name passing each other are saved alike,
and so are rows with vacant ones among them. -/
theorem ofRows?_heldValues (rows : List HeaderRow) :
    (ofRows? rows = none ↔ ∀ name, name ≠ "" → heldValues name rows = []) ∧
      (∀ m, ofRows? rows = some m →
        (∀ name, name ∈ m.entries.map (·.1) ↔ name ≠ "" ∧ heldValues name rows ≠ []) ∧
          (∀ name v, name ≠ "" → heldValues name rows = [v] →
            m.find? name = some (.single v)) ∧
          ∀ name, name ≠ "" → 2 ≤ (heldValues name rows).length →
            m.find? name = some (.multi (heldValues name rows))) ∧
      (∀ others : List HeaderRow,
        (∀ name, (others.filter fun row => trim row.name = name) =
          rows.filter fun row => trim row.name = name) →
        ofRows? others = ofRows? rows) ∧
      ∀ others : List HeaderRow,
        (others.filter fun row => ¬ Vacant row) = (rows.filter fun row => ¬ Vacant row) →
        ofRows? others = ofRows? rows := by
  simp only [heldValues_eq]
  refine ⟨ofRows?_eq_none_iff, fun m hm => ⟨mem_names_of_ofRows? hm, ?single, ?several⟩,
    fun _ => ofRows?_of_filter_name, fun _ => ofRows?_of_filter_vacant⟩
  case single =>
    intro name v hname hv
    have hne : valuesOf name rows ≠ [] := hv ▸ List.cons_ne_nil v []
    rw [find?_of_valuesOf hm hname hne, hv]
    rfl
  case several =>
    intro name hname hlen
    obtain ⟨v, w, rest, hvs⟩ : ∃ v w rest, valuesOf name rows = v :: w :: rest := by
      match hvs : valuesOf name rows with
      | [] => simp [hvs] at hlen
      | [v] => simp [hvs] at hlen
      | v :: w :: rest => exact ⟨v, w, rest, rfl⟩
    have hne : valuesOf name rows ≠ [] := hvs ▸ List.cons_ne_nil v (w :: rest)
    rw [find?_of_valuesOf hm hname hne, hvs]
    rfl

/-- Two rows of one name written with different spaces, with another header, a value of commas only
and a value without a name between them. -/
def paddedRows : List HeaderRow :=
  [⟨" Host ", "a"⟩, ⟨"Via", " , "⟩, ⟨"", "lost"⟩, ⟨"Host", "b, c"⟩, ⟨"Accept", " d "⟩]

/-- The padded rows with the last one in front. -/
def movedRows : List HeaderRow :=
  [⟨"Accept", " d "⟩, ⟨" Host ", "a"⟩, ⟨"Via", " , "⟩, ⟨"", "lost"⟩, ⟨"Host", "b, c"⟩]

/-- The map of the padded rows. -/
def paddedMap : HeaderMap :=
  ofEntries [("Accept", .single "d"), ("Host", .multi ["a", "b", "c"])]

/-- The padded rows are saved as their map, also if one is moved past those of another name or the
vacant ones are left out. -/
theorem ofRows?_paddedRows :
    paddedMap.find? "Host" = some (.multi ["a", "b", "c"]) ∧
      paddedMap.find? "Accept" = some (.single "d") ∧
      ofRows? movedRows = some paddedMap ∧
      ofRows? [⟨" Host ", "a"⟩, ⟨"Host", "b, c"⟩, ⟨"Accept", " d "⟩] = some paddedMap := by
  have hsaved : ofRows? paddedRows = some paddedMap := by decide +kernel
  have hhost : heldValues "Host" paddedRows = ["a", "b", "c"] := by decide +kernel
  have haccept : heldValues "Accept" paddedRows = ["d"] := by decide +kernel
  obtain ⟨_, hmap, hmoved, hvacant⟩ := ofRows?_heldValues paddedRows
  obtain ⟨_, hsingle, hseveral⟩ := hmap paddedMap hsaved
  refine ⟨?_, hsingle "Accept" "d" (by decide) haccept, ?_, ?_⟩
  · have h := hseveral "Host" (by decide) (by rw [hhost]; decide)
    rwa [hhost] at h
  · rw [← hsaved]
    refine hmoved movedRows fun name => ?_
    by_cases hname : name = "Accept"
    · subst hname
      decide +kernel
    · have hother : ¬ trim "Accept" = name := fun h => hname (h.symm.trans (by decide +kernel))
      simp [movedRows, paddedRows, List.filter_cons, hother]
  · rw [← hsaved]
    exact hvacant _ (by decide +kernel)

end ProxyInbound.HeaderMap
