import ProxyInbound.Header.Rows
import ProxyInbound.Proofs.Entries
import ProxyInbound.Proofs.Text.Splitting

/-!
# Header maps gathered from rows

The map of rows holds under each name the values of the rows with that name, in the order of the
rows. Such a map has trimmed names and comma-free values, and it is found again when it is laid out
as rows and gathered once more. Rows that are laid out from a map are laid out as they were.
-/

namespace ProxyInbound.HeaderMap

open Text.White Text.Parts

/-- The values that rows give to a name, in the order of the rows. -/
def valuesOf (name : String) (rows : List HeaderRow) : List String :=
  rows.flatMap fun row => if trim row.name = name then commaParts row.value else []

/-- The names that rows give values to are in order. -/
theorem ascending_valued_gather (rows : List HeaderRow) :
    Entries.Ascending (valued (gather rows)) :=
  ascending_valued (ascending_gather rows)

/-- The map of rows, without names if no row holds a header. -/
def ofRows (rows : List HeaderRow) : HeaderMap :=
  ⟨valued (gather rows), ascending_valued_gather rows⟩

/-- A map that is left out if it is empty is read as it was. -/
@[simp] theorem getD_nonEmpty? (m : HeaderMap) : m.nonEmpty?.getD empty = m := by
  unfold nonEmpty?
  split <;> rename_i h
  · exact (ext (List.isEmpty_iff.mp h)).symm
  · rfl

/-- Nothing is left of a map exactly when it is empty. -/
theorem nonEmpty?_eq_none_iff {m : HeaderMap} : m.nonEmpty? = none ↔ m = empty := by
  constructor
  · intro h
    have := getD_nonEmpty? m
    rw [h] at this
    exact this.symm
  · rintro rfl
    rfl

/-- A map is left out or not, and only one map is left the same. -/
theorem nonEmpty?_inj {m k : HeaderMap} : m.nonEmpty? = k.nonEmpty? ↔ m = k := by
  constructor
  · intro h
    rw [← getD_nonEmpty? m, h, getD_nonEmpty?]
  · exact congrArg _

/-- Rows are saved as their map unless it is empty. -/
theorem ofRows?_eq (rows : List HeaderRow) : ofRows? rows = (ofRows rows).nonEmpty? := rfl

/-- A name finds in an inserted map the new value or what it found before. -/
theorem find?_insert (m : HeaderMap) (key name : String) (value : HeaderValue) :
    (m.insert key value).find? name = if name = key then some value else m.find? name := by
  split <;> rename_i h
  · subst h
    exact Entries.find?_insert_self name value m.entries
  · exact Entries.find?_insert_ne h value m.entries

/-- A name finds in a map without a key what it found before, unless it is the key. -/
theorem find?_remove (m : HeaderMap) (key name : String) :
    (m.remove key).find? name = if name = key then none else m.find? name := by
  split <;> rename_i h
  · subst h
    exact Entries.find?_remove_self name m.entries
  · exact Entries.find?_remove_ne h m.entries

/-- Two maps in which each name finds the same are the same. -/
theorem ext_find? {a b : HeaderMap} (h : ∀ name, a.find? name = b.find? name) : a = b :=
  ext (a.ascending.eq_of_find? b.ascending h)

/-- A name finds a value exactly when the two stand among the entries. -/
theorem find?_eq_some_iff {m : HeaderMap} {name : String} {value : HeaderValue} :
    m.find? name = some value ↔ (name, value) ∈ m.entries :=
  m.ascending.find?_eq_some_iff

/-- The values of rows one after the other are those of the first and then those of the others. -/
theorem valuesOf_append (name : String) (a b : List HeaderRow) :
    valuesOf name (a ++ b) = valuesOf name a ++ valuesOf name b :=
  List.flatMap_append

/-- A row adds its values to those of its name. -/
theorem find?_addRow {name : String} (hname : name ≠ "") (groups : List (String × List String))
    (row : HeaderRow) :
    (Entries.find? name (addRow groups row)).getD [] =
      (Entries.find? name groups).getD [] ++ valuesOf name [row] := by
  rw [valuesOf, List.flatMap_singleton]
  unfold addRow
  split <;> rename_i h
  · have hnone : (if trim row.name = name then commaParts row.value else []) = [] := by
      rcases h with h | h
      · rw [blank_iff_trim] at h
        rw [if_neg (fun he => hname (he.symm.trans h))]
      · rw [commaParts, parts_of_blank h, ite_self]
    rw [hnone, List.append_nil]
  · unfold addValues
    by_cases hk : name = trim row.name
    · subst hk
      rw [Entries.find?_insert_self, Option.getD_some, if_pos rfl]
    · rw [Entries.find?_insert_ne hk, if_neg (Ne.symm hk), List.append_nil]

/-- Rows give no values to the empty name. -/
theorem find?_empty_addRow {groups : List (String × List String)}
    (h : Entries.find? "" groups = none) (row : HeaderRow) :
    Entries.find? "" (addRow groups row) = none := by
  unfold addRow
  split <;> rename_i hblank
  · exact h
  · have hne : "" ≠ trim row.name := by
      rw [not_or, Bool.not_eq_true, blank_eq_false_iff_trim] at hblank
      exact hblank.1.symm
    rw [addValues, Entries.find?_insert_ne hne, h]

/-- Gathering gives each name the values of its rows, and the empty name none. -/
theorem find?_gather (rows : List HeaderRow) :
    (∀ name, name ≠ "" → (Entries.find? name (gather rows)).getD [] = valuesOf name rows) ∧
      Entries.find? "" (gather rows) = none := by
  -- from the end, as the values of the last row come last
  induction rows using List.reverseRecOn with
  | nil => exact ⟨fun _ _ => rfl, rfl⟩
  | append_singleton rows row ih =>
    have hstep : gather (rows ++ [row]) = addRow (gather rows) row := by
      rw [gather, List.foldl_append]
      rfl
    rw [hstep]
    refine ⟨fun name hname => ?_, find?_empty_addRow ih.2 row⟩
    rw [find?_addRow hname, ih.1 name hname, valuesOf_append]

/-- The map of rows holds under a name the values that the rows give to it, if there are any. -/
theorem find?_ofRows (name : String) (rows : List HeaderRow) :
    (ofRows rows).find? name =
      if name = "" ∨ valuesOf name rows = [] then none
      else some (HeaderValue.ofValues (valuesOf name rows)) := by
  have hfind : (ofRows rows).find? name =
      ((Entries.find? name (gather rows)).filter fun vs => !vs.isEmpty).map
        HeaderValue.ofValues := by
    change Entries.find? name (valued (gather rows)) = _
    rw [valued, Entries.find?_map, (ascending_gather rows).find?_filter fun vs => !vs.isEmpty]
  rw [hfind]
  by_cases hname : name = ""
  · rw [if_pos (Or.inl hname), hname, (find?_gather rows).2]
    rfl
  · have hvalues := (find?_gather rows).1 name hname
    rw [← hvalues]
    cases hg : Entries.find? name (gather rows) with
    | none => simp
    | some vs =>
      cases vs with
      | nil => simp
      | cons v r => simp [hname]

end ProxyInbound.HeaderMap
