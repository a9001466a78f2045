/-!
# Entries kept by key

Objects and header maps list their entries in ascending order of the keys, one entry a key. Texts
are ordered by code points. Entering a value takes its place in that order and replaces the value
its key had before. What a key finds after an insertion does not depend on the list being in
order, so no law below assumes it.
-/

namespace ProxyInbound.Entries

/-- The value of the first entry with the key. -/
def find? (key : String) : List (String × α) → Option α
  | [] => none
  | (k, v) :: r => if k = key then some v else find? key r

/-- Enter a value at its place, in the stead of one with the same key. -/
def insert (key : String) (value : α) : List (String × α) → List (String × α)
  | [] => [(key, value)]
  | (k, v) :: r =>
    if key < k then (key, value) :: (k, v) :: r
    else if key = k then (key, value) :: r
    else (k, v) :: insert key value r

/-- Enter every value in turn; of two with one key the later stays. -/
def ofList (entries : List (String × α)) : List (String × α) :=
  entries.foldl (fun sofar e => insert e.1 e.2 sofar) []

/-- The entries without those of the key. -/
def remove (key : String) (entries : List (String × α)) : List (String × α) :=
  entries.filter fun e => e.1 ≠ key

/-- The keys ascend strictly, so no key occurs twice. -/
def Ascending (entries : List (String × α)) : Prop :=
  entries.Pairwise fun a b => a.1 < b.1

/-- No entries find no value. -/
@[simp] theorem find?_nil (key : String) : find? key ([] : List (String × α)) = none := rfl

/-- An entry is found by its own key and hides no other. -/
@[simp] theorem find?_cons (key k : String) (v : α) (r : List (String × α)) :
    find? key ((k, v) :: r) = if k = key then some v else find? key r := rfl

/-- After an insertion the key finds the entered value. -/
theorem find?_insert_self (key : String) (value : α) (entries : List (String × α)) :
    find? key (insert key value entries) = some value := by
  induction entries with
  | nil => simp [insert]
  | cons e r ih =>
    obtain ⟨k, v⟩ := e
    unfold insert
    split
    · simp
    · split
      · simp
      · rename_i hne
        rw [find?_cons, if_neg (Ne.symm hne), ih]

/-- An insertion changes nothing for any other key. -/
theorem find?_insert_ne {key other : String} (h : other ≠ key) (value : α)
    (entries : List (String × α)) :
    find? other (insert key value entries) = find? other entries := by
  induction entries with
  | nil => simp [insert, h.symm]
  | cons e r ih =>
    obtain ⟨k, v⟩ := e
    unfold insert
    split
    · simp [h.symm]
    · split
      · rename_i heq
        subst heq
        simp [h.symm]
      · rw [find?_cons, find?_cons, ih]

/-- What a key finds in two lists joined is what it finds in the first that has the key. -/
theorem find?_append (key : String) (a b : List (String × α)) :
    find? key (a ++ b) = (find? key a).or (find? key b) := by
  induction a with
  | nil => rfl
  | cons e r ih =>
    obtain ⟨k, v⟩ := e
    rw [List.cons_append, find?_cons, find?_cons]
    split
    · rfl
    · exact ih

/-- After many insertions a key finds the last value entered for it, else what it found before. -/
theorem find?_foldl_insert (key : String) (entries start : List (String × α)) :
    find? key (entries.foldl (fun sofar e => insert e.1 e.2 sofar) start) =
      (find? key entries.reverse).or (find? key start) := by
  induction entries generalizing start with
  | nil => rfl
  | cons e r ih =>
    rw [List.foldl_cons, ih, List.reverse_cons, find?_append]
    by_cases h : e.1 = key
    · subst h
      rw [find?_insert_self, find?_cons, if_pos rfl, Option.or_assoc, Option.some_or]
    · rw [find?_insert_ne (Ne.symm h), find?_cons, if_neg h, find?_nil, Option.or_none]

/-- Of the values entered for a key the last one is found. -/
theorem find?_ofList (key : String) (entries : List (String × α)) :
    find? key (ofList entries) = find? key entries.reverse := by
  rw [ofList, find?_foldl_insert, find?_nil, Option.or_none]

/-- A key that no entry has finds nothing. -/
theorem find?_eq_none_of_not_mem {key : String} {entries : List (String × α)}
    (h : key ∉ entries.map (·.1)) : find? key entries = none := by
  induction entries with
  | nil => rfl
  | cons e r ih =>
    rw [List.map_cons, List.mem_cons, not_or] at h
    rw [find?_cons, if_neg (Ne.symm h.1), ih h.2]

/-- If no key occurs twice, the order of the entries does not matter to what a key finds. -/
theorem find?_reverse {entries : List (String × α)} (h : (entries.map (·.1)).Nodup)
    (key : String) : find? key entries.reverse = find? key entries := by
  induction entries with
  | nil => rfl
  | cons e r ih =>
    obtain ⟨hk, hr⟩ := List.nodup_cons.mp h
    rw [List.reverse_cons, find?_append, ih hr, find?_cons, find?_cons, find?_nil]
    split
    · rename_i heq
      rw [find?_eq_none_of_not_mem (heq ▸ hk), Option.none_or]
    · rw [Option.or_none]

/-- Entries with values that may be missing have some of the keys there were, in their order. -/
theorem keys_filterMap_sublist (f : α → Option β) (entries : List (String × α)) :
    ((entries.filterMap fun e => (f e.2).map fun v => (e.1, v)).map (·.1)).Sublist
      (entries.map (·.1)) := by
  induction entries with
  | nil => exact List.Sublist.slnil
  | cons e r ih =>
    obtain ⟨k, v⟩ := e
    cases hv : f v with
    | none =>
      rw [List.filterMap_cons_none (by rw [hv]; rfl)]
      exact ih.cons k
    | some w =>
      rw [List.filterMap_cons_some (by rw [hv]; rfl)]
      exact ih.cons_cons k

/-- If no key occurs twice, a key finds the image of the value that it found, if there is one. -/
theorem find?_filterMap {entries : List (String × α)} (h : (entries.map (·.1)).Nodup)
    (f : α → Option β) (key : String) :
    find? key (entries.filterMap fun e => (f e.2).map fun v => (e.1, v)) =
      (find? key entries).bind f := by
  induction entries with
  | nil => rfl
  | cons e r ih =>
    obtain ⟨k, v⟩ := e
    obtain ⟨hk, hr⟩ := List.nodup_cons.mp h
    cases hv : f v with
    | none =>
      rw [List.filterMap_cons_none (by rw [hv]; rfl), ih hr, find?_cons]
      split
      · rename_i hkey
        rw [find?_eq_none_of_not_mem (hkey ▸ hk), Option.bind_some, hv]
        rfl
      · rfl
    | some w =>
      rw [List.filterMap_cons_some (by rw [hv]; rfl), find?_cons, find?_cons, ih hr]
      split
      · rw [Option.bind_some, hv]
      · rfl

/-- A key that was removed finds nothing. -/
theorem find?_remove_self (key : String) (entries : List (String × α)) :
    find? key (remove key entries) = none := by
  induction entries with
  | nil => rfl
  | cons e r ih =>
    unfold remove at ih ⊢
    by_cases h : e.1 = key
    · rw [List.filter_cons_of_neg (by simpa using h), ih]
    · rw [List.filter_cons_of_pos (by simpa using h), find?_cons, if_neg h, ih]

/-- Removing a key changes nothing for any other. -/
theorem find?_remove_ne {key other : String} (h : other ≠ key) (entries : List (String × α)) :
    find? other (remove key entries) = find? other entries := by
  induction entries with
  | nil => rfl
  | cons e r ih =>
    unfold remove at ih ⊢
    by_cases he : e.1 = key
    · rw [List.filter_cons_of_neg (by simpa using he), ih, find?_cons,
        if_neg (he ▸ Ne.symm h)]
    · rw [List.filter_cons_of_pos (by simpa using he), find?_cons, find?_cons, ih]

/-- An entry of the result is the new one or was there before. -/
theorem mem_insert {key : String} {value : α} {entries : List (String × α)} {e : String × α}
    (h : e ∈ insert key value entries) : e = (key, value) ∨ e ∈ entries := by
  induction entries with
  | nil => simpa [insert] using h
  | cons d r ih =>
    obtain ⟨k, v⟩ := d
    unfold insert at h
    split at h
    · simpa using h
    · split at h
      · rcases List.mem_cons.mp h with he | hr
        · exact Or.inl he
        · exact Or.inr (List.mem_cons_of_mem _ hr)
      · rcases List.mem_cons.mp h with he | hr
        · exact Or.inr (he ▸ List.mem_cons_self)
        · exact (ih hr).imp id (List.mem_cons_of_mem _)

/-- Insertion keeps the keys ascending. -/
theorem Ascending.insert {entries : List (String × α)} (h : Ascending entries) (key : String)
    (value : α) : Ascending (insert key value entries) := by
  induction entries with
  | nil => simp [Ascending, Entries.insert]
  | cons e r ih =>
    obtain ⟨k, v⟩ := e
    obtain ⟨hk, hr⟩ := List.pairwise_cons.mp h
    unfold Entries.insert
    split
    · rename_i hlt
      refine List.pairwise_cons.mpr ⟨fun a ha => ?_, h⟩
      rcases List.mem_cons.mp ha with rfl | ha
      · exact hlt
      · exact String.lt_trans hlt (hk a ha)
    · split
      · rename_i heq
        subst heq
        exact List.pairwise_cons.mpr ⟨hk, hr⟩
      · rename_i hnlt hne
        refine List.pairwise_cons.mpr ⟨fun a ha => ?_, ih hr⟩
        rcases mem_insert ha with rfl | ha
        · rcases Std.lt_trichotomy key k with hlt | heq | hgt
          · exact absurd hlt hnlt
          · exact absurd heq hne
          · exact hgt
        · exact hk a ha

/-- Dropping entries keeps the keys ascending. -/
theorem Ascending.filter {entries : List (String × α)} (h : Ascending entries)
    (keep : String × α → Bool) : Ascending (entries.filter keep) :=
  List.Pairwise.sublist List.filter_sublist h

/-- Entering values into ascending entries one after the other keeps them ascending. -/
theorem Ascending.foldl_insert {start : List (String × α)} (h : Ascending start)
    (entries : List (String × α)) :
    Ascending (entries.foldl (fun sofar e => Entries.insert e.1 e.2 sofar) start) := by
  induction entries generalizing start with
  | nil => exact h
  | cons e r ih => exact ih (h.insert e.1 e.2)

/-- Entries built one by one are ascending. -/
theorem ascending_ofList (entries : List (String × α)) : Ascending (ofList entries) :=
  Ascending.foldl_insert List.Pairwise.nil entries

end ProxyInbound.Entries
