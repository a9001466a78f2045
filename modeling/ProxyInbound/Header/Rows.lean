import ProxyInbound.Form.Rows
import ProxyInbound.Header.Map
import ProxyInbound.Text.Basic

/-!
# Header maps and editable rows

Opening a header map makes one row for each value, and a single blank row where there is none, so
that there is always a row to type into. Saving rows drops those without a name or a value, splits
values at commas and gathers the values of one name in the order of the rows.
-/

namespace ProxyInbound.HeaderMap

open Text.White Text.Parts

/-- The rows of one name. -/
def entryRows (e : String × HeaderValue) : List HeaderRow :=
  e.2.values.map fun v => ⟨e.1, v⟩

/-- One row for each value, by name. -/
def toRows (m : HeaderMap) : List HeaderRow :=
  m.entries.flatMap entryRows

/-- Rows to edit, a blank one where there are none. -/
def orBlankRow (rows : List HeaderRow) : List HeaderRow :=
  if rows.isEmpty then [HeaderRow.blank] else rows

/-- The rows to edit a header map that may be absent. -/
def editRows (m : Option HeaderMap) : List HeaderRow :=
  orBlankRow ((m.map toRows).getD [])

/-- Add values to those that a name has so far. -/
def addValues (name : String) (vs : List String) (groups : List (String × List String)) :
    List (String × List String) :=
  Entries.insert name ((Entries.find? name groups).getD [] ++ vs) groups

/-- Add the values of a row to those of its name. A row without a name or a value adds nothing. -/
def addRow (groups : List (String × List String)) (row : HeaderRow) :
    List (String × List String) :=
  if blank row.name ∨ blank row.value then groups
  else addValues (trim row.name) (commaParts row.value) groups

/-- The values of each name, gathered from the rows in order. -/
def gather (rows : List HeaderRow) : List (String × List String) :=
  rows.foldl addRow []

/-- The names that have values, with their values. -/
def valued (groups : List (String × List String)) : List (String × HeaderValue) :=
  (groups.filter fun g => !g.2.isEmpty).map fun g => (g.1, HeaderValue.ofValues g.2)

/-- Gathering keeps the names in order. -/
theorem ascending_gather (rows : List HeaderRow) : Entries.Ascending (gather rows) := by
  have hfold : ∀ (rows : List HeaderRow) (start : List (String × List String)),
      Entries.Ascending start → Entries.Ascending (rows.foldl addRow start) := by
    intro rows
    induction rows with
    | nil => exact fun _ h => h
    | cons row rest ih =>
      intro start h
      refine ih _ ?_
      unfold addRow
      split
      · exact h
      · exact h.insert _ _
  exact hfold rows [] List.Pairwise.nil

/-- Leaving out the names without values keeps the others in order. -/
theorem ascending_valued {groups : List (String × List String)} (h : Entries.Ascending groups) :
    Entries.Ascending (valued groups) :=
  List.pairwise_map.mpr (h.filter _)

/-- The header map that rows are saved as, nothing if no row holds a header. -/
def ofRows? (rows : List HeaderRow) : Option HeaderMap :=
  nonEmpty? ⟨valued (gather rows), ascending_valued (ascending_gather rows)⟩

end ProxyInbound.HeaderMap
