import ProxyInbound.Proofs.Header.Gathering

/-!
# Saved header maps and normal rows

A map that rows are saved as has trimmed names, holds one value or a list of several under each
name, and every value is trimmed, free of commas and not empty. Laying such a map out and saving
the rows gives the map back. The rows that come of laying out a saved map are the normal ones: a
single blank row, or rows of trimmed names and comma-free values in the order of the names.
-/

namespace ProxyInbound.HeaderMap

open Text.White Text.Parts

/-- A header map whose names and values can stand in rows. -/
structure Parted (m : HeaderMap) : Prop where
  /-- No name is empty or has white space at its ends. -/
  named : ∀ e ∈ m.entries, trim e.1 = e.1 ∧ e.1 ≠ ""
  /-- No name is without a value. -/
  filled : ∀ e ∈ m.entries, e.2.values ≠ []
  /-- Every value is trimmed, not empty and free of commas. -/
  parted : ∀ e ∈ m.entries, ∀ v ∈ e.2.values, IsPart isComma v

/-- A header map of the kind that rows are saved as. -/
structure Saved (m : HeaderMap) : Prop extends Parted m where
  /-- A single value is no list. -/
  grouped : ∀ e ∈ m.entries, e.2 = HeaderValue.ofValues e.2.values

/-- The map with each single value as a text. -/
def regroup (m : HeaderMap) : HeaderMap :=
  ⟨m.entries.map fun e => (e.1, HeaderValue.ofValues e.2.values),
    m.ascending.map fun value => HeaderValue.ofValues value.values⟩

/-- A saved map has each single value as a text. -/
theorem Saved.regroup_eq {m : HeaderMap} (h : Saved m) : m.regroup = m := by
  refine ext ((List.map_congr_left fun e he => ?_).trans (List.map_id m.entries))
  rw [← h.grouped e he]
  rfl

/-- Every value that rows give to a name is a part between commas. -/
theorem isPart_of_mem_valuesOf {name v : String} {rows : List HeaderRow}
    (h : v ∈ valuesOf name rows) : IsPart isComma v := by
  obtain ⟨row, _, hv⟩ := List.mem_flatMap.mp h
  split at hv
  · exact isPart_of_mem_parts hv
  · cases hv

/-- A name to which rows give a value is the trimmed name of one of the rows. -/
theorem exists_row_of_valuesOf {name : String} {rows : List HeaderRow}
    (h : valuesOf name rows ≠ []) : ∃ row ∈ rows, trim row.name = name := by
  obtain ⟨v, hv⟩ := List.exists_mem_of_ne_nil _ h
  obtain ⟨row, hrow, hv⟩ := List.mem_flatMap.mp hv
  refine ⟨row, hrow, ?_⟩
  by_contra hne
  rw [if_neg hne] at hv
  cases hv

/-- An entry of the map of rows holds the values that the rows give to its name. -/
theorem mem_entries_ofRows {name : String} {value : HeaderValue} {rows : List HeaderRow}
    (h : (name, value) ∈ (ofRows rows).entries) :
    name ≠ "" ∧ valuesOf name rows ≠ [] ∧ value = HeaderValue.ofValues (valuesOf name rows) := by
  have hfind := find?_eq_some_iff.mpr h
  rw [find?_ofRows] at hfind
  split at hfind <;> rename_i hcase
  · cases hfind
  · rw [not_or] at hcase
    exact ⟨hcase.1, hcase.2, (Option.some.inj hfind).symm⟩

/-- The map of rows is saved. -/
theorem saved_ofRows (rows : List HeaderRow) : Saved (ofRows rows) where
  named e he := by
    obtain ⟨hne, hvs, _⟩ := mem_entries_ofRows he
    obtain ⟨row, _, hrow⟩ := exists_row_of_valuesOf hvs
    exact ⟨by rw [← hrow, trim_trim], hne⟩
  grouped e he := by
    obtain ⟨_, _, hvalue⟩ := mem_entries_ofRows he
    rw [hvalue, HeaderValue.values_ofValues]
  filled e he := by
    obtain ⟨_, hvs, hvalue⟩ := mem_entries_ofRows he
    rwa [hvalue, HeaderValue.values_ofValues]
  parted e he v hv := by
    obtain ⟨_, _, hvalue⟩ := mem_entries_ofRows he
    rw [hvalue, HeaderValue.values_ofValues] at hv
    exact isPart_of_mem_valuesOf hv

/-- A map without one of its names can stand in rows if it could before. -/
theorem Parted.remove {m : HeaderMap} (h : Parted m) (key : String) : Parted (m.remove key) where
  named e he := h.named e (Entries.mem_remove_iff.mp he).1
  filled e he := h.filled e (Entries.mem_remove_iff.mp he).1
  parted e he := h.parted e (Entries.mem_remove_iff.mp he).1

/-- A map with another value can stand in rows if the map and the value can. -/
theorem Parted.insert {m : HeaderMap} (h : Parted m) {key : String} {value : HeaderValue}
    (hname : trim key = key ∧ key ≠ "") (hfilled : value.values ≠ [])
    (hparted : ∀ v ∈ value.values, IsPart isComma v) : Parted (m.insert key value) := by
  have hcases {e : String × HeaderValue} (he : e ∈ (m.insert key value).entries) :
      e = (key, value) ∨ e ∈ m.entries :=
    (m.ascending.mem_insert_iff.mp he).imp_right And.left
  refine ⟨fun e he => ?_, fun e he => ?_, fun e he => ?_⟩
  · rcases hcases he with rfl | he
    · exact hname
    · exact h.named e he
  · rcases hcases he with rfl | he
    · exact hfilled
    · exact h.filled e he
  · rcases hcases he with rfl | he
    · exact hparted
    · exact h.parted e he

/-- A saved map without one of its names is saved. -/
theorem Saved.remove {m : HeaderMap} (h : Saved m) (key : String) : Saved (m.remove key) where
  toParted := h.toParted.remove key
  grouped e he := h.grouped e (Entries.mem_remove_iff.mp he).1

/-- A saved map with another group of values is saved if it can stand in rows. -/
theorem Saved.insert {m : HeaderMap} (h : Saved m) {key : String} {values : List String}
    (hparted : Parted (m.insert key (HeaderValue.ofValues values))) :
    Saved (m.insert key (HeaderValue.ofValues values)) where
  toParted := hparted
  grouped e he := by
    rcases m.ascending.mem_insert_iff.mp he with rfl | ⟨he, _⟩
    · rw [HeaderValue.values_ofValues]
    · exact h.grouped e he

/-! ## Laying out a map -/

/-- Entries laid out one after the other keep what the entry of a key is laid out as. -/
theorem flatMap_of_find? {entries : List (String × α)} (h : Entries.Ascending entries)
    (name : String) (f : α → List β) :
    (entries.flatMap fun e => if e.1 = name then f e.2 else []) =
      ((Entries.find? name entries).map f).getD [] := by
  induction entries with
  | nil => rfl
  | cons e r ih =>
    obtain ⟨k, v⟩ := e
    obtain ⟨hk, hr⟩ := List.pairwise_cons.mp h
    rw [List.flatMap_cons, ih hr, Entries.find?_cons]
    by_cases hkey : k = name
    · subst hkey
      rw [if_pos rfl, if_pos rfl, Entries.find?_eq_none_of_lt hk, Option.map_none,
        Option.getD_none, List.append_nil]
      rfl
    · rw [if_neg hkey, if_neg hkey, List.nil_append]

/-- The rows of one entry with a trimmed name give the parts of its values to its name. -/
theorem valuesOf_entryRows {e : String × HeaderValue} (h : trim e.1 = e.1) (name : String) :
    valuesOf name (entryRows e) = if e.1 = name then e.2.values.flatMap commaParts else [] := by
  rw [valuesOf, entryRows, List.flatMap_map]
  simp only [h]
  split
  · rfl
  · rw [List.flatMap_eq_nil_iff]
    exact fun _ _ => rfl

/-- The rows of a map of trimmed names give each name the parts of the values it has in the map. -/
theorem valuesOf_toRows_of_trimmed {m : HeaderMap} (h : ∀ e ∈ m.entries, trim e.1 = e.1)
    (name : String) :
    valuesOf name (toRows m) =
      ((m.find? name).map fun value => value.values.flatMap commaParts).getD [] := by
  rw [find?, ← flatMap_of_find? m.ascending, toRows, valuesOf, List.flatMap_assoc]
  exact List.flatMap_congr fun e he => valuesOf_entryRows (h e he) name

/-- The rows of a map give each name the values it has in the map. -/
theorem valuesOf_toRows {m : HeaderMap} (h : Parted m) (name : String) :
    valuesOf name (toRows m) = ((m.find? name).map HeaderValue.values).getD [] := by
  rw [valuesOf_toRows_of_trimmed fun e he => (h.named e he).1]
  cases hf : m.find? name with
  | none => rfl
  | some value => exact flatMap_parts_of_isPart (h.parted _ (find?_eq_some_iff.mp hf))

/-- A map is found again in its rows, each single value as a text. -/
theorem ofRows_toRows {m : HeaderMap} (h : Parted m) : ofRows (toRows m) = m.regroup := by
  apply ext_find?
  intro name
  have hgroup : m.regroup.find? name =
      (m.find? name).map fun value => HeaderValue.ofValues value.values :=
    Entries.find?_map name (fun value : HeaderValue => HeaderValue.ofValues value.values) m.entries
  rw [find?_ofRows, valuesOf_toRows h, hgroup]
  cases hf : m.find? name with
  | none => simp
  | some value =>
    have he := find?_eq_some_iff.mp hf
    rw [Option.map_some, Option.getD_some, if_neg, Option.map_some]
    rw [not_or]
    exact ⟨(h.named _ he).2, h.filled _ he⟩

/-- A blank row in the place of none adds no header. -/
theorem ofRows_orBlankRow (rows : List HeaderRow) : ofRows (orBlankRow rows) = ofRows rows := by
  unfold orBlankRow
  split <;> rename_i h
  · rw [List.isEmpty_iff.mp h]
    rfl
  · rfl

/-- An absent map is laid out like an empty one. -/
theorem editRows_eq (m : Option HeaderMap) : editRows m = orBlankRow (toRows (m.getD empty)) := by
  cases m <;> rfl

/-- A map that is left out if it is empty is laid out as it was. -/
@[simp] theorem editRows_nonEmpty? (m : HeaderMap) : editRows m.nonEmpty? = editRows (some m) := by
  rw [editRows_eq, editRows_eq, getD_nonEmpty?, Option.getD_some]

/-- A map is found again in the rows that it is edited in, each single value as a text. -/
theorem ofRows_editRows {m : HeaderMap} (h : Parted m) :
    ofRows (editRows (some m)) = m.regroup := by
  rw [editRows_eq, Option.getD_some, ofRows_orBlankRow, ofRows_toRows h]

/-- The headers of rows are saved again as they were. -/
@[simp] theorem ofRows?_editRows_ofRows? (rows : List HeaderRow) :
    ofRows? (editRows (ofRows? rows)) = ofRows? rows := by
  have hsaved := saved_ofRows rows
  rw [ofRows?_eq, ofRows?_eq, editRows_nonEmpty?, ofRows_editRows hsaved.toParted,
    hsaved.regroup_eq]

/-- A row stands among those of a map exactly when its value is one of its name's. -/
theorem mem_toRows_iff {m : HeaderMap} {row : HeaderRow} :
    row ∈ toRows m ↔ ∃ value, (row.name, value) ∈ m.entries ∧ row.value ∈ value.values := by
  simp only [toRows, entryRows, List.mem_flatMap, List.mem_map]
  constructor
  · rintro ⟨⟨name, value⟩, he, v, hv, rfl⟩
    exact ⟨value, he, hv⟩
  · rintro ⟨value, he, hv⟩
    exact ⟨(row.name, value), he, row.value, hv, rfl⟩

/-! ## Normal rows -/

/-- A row as it is laid out from a saved map. -/
structure NormalRow (row : HeaderRow) : Prop where
  /-- The name is trimmed. -/
  named : trim row.name = row.name
  /-- The name is not empty. -/
  nonempty : row.name ≠ ""
  /-- The value is trimmed, not empty and free of commas. -/
  parted : IsPart isComma row.value

/-- Rows as they are laid out from a saved map: a single blank row, or normal ones in the order of
their names. -/
def NormalRows (rows : List HeaderRow) : Prop :=
  rows = [HeaderRow.blank] ∨
    rows ≠ [] ∧ (∀ row ∈ rows, NormalRow row) ∧ rows.Pairwise fun a b => a.name ≤ b.name

/-- The rows of a map are normal. -/
theorem normalRow_of_mem_toRows {m : HeaderMap} (h : Parted m) {row : HeaderRow}
    (hrow : row ∈ toRows m) : NormalRow row := by
  obtain ⟨value, he, hv⟩ := mem_toRows_iff.mp hrow
  exact ⟨(h.named _ he).1, (h.named _ he).2, h.parted _ he _ hv⟩

/-- The rows of a map are in the order of their names. -/
theorem pairwise_toRows (m : HeaderMap) : (toRows m).Pairwise fun a b => a.name ≤ b.name := by
  rw [toRows, List.pairwise_flatMap]
  constructor
  · intro e _
    rw [entryRows, List.pairwise_map]
    exact List.pairwise_of_forall fun _ _ => String.le_refl e.1
  · refine m.ascending.imp ?_
    intro a b hlt x hx y hy
    obtain ⟨_, _, rfl⟩ := List.mem_map.mp hx
    obtain ⟨_, _, rfl⟩ := List.mem_map.mp hy
    exact Std.le_of_lt hlt

/-- A normal row gives its value to its name. -/
theorem valuesOf_cons {row : HeaderRow} (h : NormalRow row) (name : String)
    (rest : List HeaderRow) :
    valuesOf name (row :: rest) =
      (if row.name = name then [row.value] else []) ++ valuesOf name rest := by
  rw [← List.singleton_append, valuesOf_append, valuesOf, List.flatMap_singleton, h.named,
    commaParts, parts_of_isPart h.parted]

/-- The first of rows in the order of their names has the least name that gets a value. -/
theorem name_le_of_valuesOf {row : HeaderRow} {rest : List HeaderRow} {name : String}
    (hnormal : ∀ r ∈ row :: rest, NormalRow r)
    (hsorted : (row :: rest).Pairwise fun a b => a.name ≤ b.name)
    (h : valuesOf name (row :: rest) ≠ []) : row.name ≤ name := by
  obtain ⟨r, hr, hname⟩ := exists_row_of_valuesOf h
  rw [(hnormal r hr).named] at hname
  subst hname
  rcases List.mem_cons.mp hr with rfl | hr
  · exact String.le_refl _
  · exact (List.pairwise_cons.mp hsorted).1 r hr

/-- Normal rows in the order of their names are determined by the values they give. -/
theorem eq_of_valuesOf {a b : List HeaderRow} (ha : ∀ r ∈ a, NormalRow r)
    (hb : ∀ r ∈ b, NormalRow r) (sa : a.Pairwise fun x y => x.name ≤ y.name)
    (sb : b.Pairwise fun x y => x.name ≤ y.name)
    (h : ∀ name, valuesOf name a = valuesOf name b) : a = b := by
  induction a generalizing b with
  | nil =>
    cases b with
    | nil => rfl
    | cons y ys =>
      have hy := h y.name
      rw [valuesOf_cons (hb y List.mem_cons_self), if_pos rfl] at hy
      cases hy
  | cons x xs ih =>
    have hx := ha x List.mem_cons_self
    cases b with
    | nil =>
      have hxn := h x.name
      rw [valuesOf_cons hx, if_pos rfl] at hxn
      cases hxn
    | cons y ys =>
      have hy := hb y List.mem_cons_self
      have hxne : valuesOf x.name (x :: xs) ≠ [] := by
        rw [valuesOf_cons hx, if_pos rfl]
        exact List.cons_ne_nil _ _
      have hyne : valuesOf y.name (y :: ys) ≠ [] := by
        rw [valuesOf_cons hy, if_pos rfl]
        exact List.cons_ne_nil _ _
      -- each first row has the least name that is given a value
      have hname : x.name = y.name := String.le_antisymm
        (name_le_of_valuesOf ha sa (h y.name ▸ hyne))
        (name_le_of_valuesOf hb sb (h x.name ▸ hxne))
      have hhead := h x.name
      rw [valuesOf_cons hx, valuesOf_cons hy, if_pos rfl, if_pos hname.symm] at hhead
      have hvalue : x.value = y.value := (List.cons.inj hhead).1
      have htail : xs = ys := by
        refine ih (fun r hr => ha r (List.mem_cons_of_mem _ hr))
          (fun r hr => hb r (List.mem_cons_of_mem _ hr)) (List.pairwise_cons.mp sa).2
          (List.pairwise_cons.mp sb).2 fun name => ?_
        have hrest := h name
        rw [valuesOf_cons hx, valuesOf_cons hy, hname, hvalue] at hrest
        exact List.append_cancel_left hrest
      obtain ⟨xn, xv⟩ := x
      obtain ⟨yn, yv⟩ := y
      simp only at hname hvalue
      rw [hname, hvalue, htail]

/-- Rows that are saved and laid out again are as they were exactly when they are normal. -/
theorem editRows_ofRows_eq_self_iff (rows : List HeaderRow) :
    editRows (some (ofRows rows)) = rows ↔ NormalRows rows := by
  have hsaved := saved_ofRows rows
  rw [editRows_eq, Option.getD_some]
  constructor
  · intro h
    unfold orBlankRow at h
    split at h <;> rename_i hempty
    · exact Or.inl h.symm
    · right
      refine ⟨fun hnil => hempty (List.isEmpty_iff.mpr (h.trans hnil)), ?_, ?_⟩
      · rw [← h]
        exact fun row => normalRow_of_mem_toRows hsaved.toParted
      · rw [← h]
        exact pairwise_toRows _
  · rintro (rfl | ⟨hne, hnormal, hsorted⟩)
    · rfl
    · have hrows : toRows (ofRows rows) = rows := by
        refine eq_of_valuesOf (fun _ => normalRow_of_mem_toRows hsaved.toParted) hnormal
          (pairwise_toRows _) hsorted fun name => ?_
        rw [valuesOf_toRows hsaved.toParted, find?_ofRows]
        split <;> rename_i hcase
        · rcases hcase with rfl | hnil
          · by_contra hcontra
            obtain ⟨r, hr, hname⟩ := exists_row_of_valuesOf (Ne.symm hcontra)
            exact (hnormal r hr).nonempty ((hnormal r hr).named.symm.trans hname)
          · rw [hnil]
            rfl
        · rw [Option.map_some, Option.getD_some, HeaderValue.values_ofValues]
      rw [hrows, orBlankRow, if_neg (fun h => hne (List.isEmpty_iff.mp h))]

end ProxyInbound.HeaderMap
