import ProxyInbound.Entries

/-!
# Ascending entries

Entries in ascending order are determined by what each key finds. So entries that are in order
already are left alone when they are entered one by one, and a value that stands among them is the
one its key finds.
-/

namespace ProxyInbound.Entries

/-- What a key finds stands among the entries. -/
theorem mem_of_find? {key : String} {value : α} {entries : List (String × α)}
    (h : find? key entries = some value) : (key, value) ∈ entries := by
  induction entries with
  | nil => cases h
  | cons e r ih =>
    obtain ⟨k, v⟩ := e
    rw [find?_cons] at h
    split at h <;> rename_i hk
    · cases h
      subst hk
      exact List.mem_cons_self
    · exact List.mem_cons_of_mem _ (ih h)

/-- Ascending entries have different keys. -/
theorem Ascending.nodup {entries : List (String × α)} (h : Ascending entries) :
    (entries.map (·.1)).Nodup := by
  rw [List.Nodup, List.pairwise_map]
  refine h.imp ?_
  intro a b hlt heq
  exact String.lt_irrefl b.1 (heq ▸ hlt)

/-- A value among entries with different keys is the one that its key finds. -/
theorem find?_of_mem {entries : List (String × α)} (h : (entries.map (·.1)).Nodup)
    {key : String} {value : α} (hmem : (key, value) ∈ entries) :
    find? key entries = some value := by
  induction entries with
  | nil => cases hmem
  | cons e r ih =>
    obtain ⟨k, v⟩ := e
    obtain ⟨hk, hr⟩ := List.nodup_cons.mp h
    rw [find?_cons]
    rcases List.mem_cons.mp hmem with heq | hmem
    · cases heq
      rw [if_pos rfl]
    · have hne : k ≠ key := by
        rintro rfl
        exact hk (List.mem_map.mpr ⟨_, hmem, rfl⟩)
      rw [if_neg hne, ih hr hmem]

/-- A value among ascending entries is the one that its key finds. -/
theorem Ascending.find?_of_mem {entries : List (String × α)} (h : Ascending entries)
    {key : String} {value : α} (hmem : (key, value) ∈ entries) :
    find? key entries = some value :=
  Entries.find?_of_mem h.nodup hmem

/-- A key finds a value among ascending entries exactly when the entry is there. -/
theorem Ascending.find?_eq_some_iff {entries : List (String × α)} (h : Ascending entries)
    {key : String} {value : α} : find? key entries = some value ↔ (key, value) ∈ entries :=
  ⟨mem_of_find?, h.find?_of_mem⟩

/-- A key that stands before every entry finds nothing. -/
theorem find?_eq_none_of_lt {key : String} {entries : List (String × α)}
    (h : ∀ e ∈ entries, key < e.1) : find? key entries = none := by
  apply find?_eq_none_of_not_mem
  intro hmem
  obtain ⟨e, he, rfl⟩ := List.mem_map.mp hmem
  exact String.lt_irrefl _ (h e he)

/-- A key that finds something does not stand before the first entry. -/
theorem Ascending.not_lt_of_find? {key : String} {value : α} {d : String × α}
    {entries : List (String × α)} (h : Ascending (d :: entries))
    (hfind : find? key (d :: entries) = some value) : ¬ key < d.1 := by
  intro hlt
  have hnone : find? key (d :: entries) = none := by
    refine find?_eq_none_of_lt fun e he => ?_
    rcases List.mem_cons.mp he with rfl | he
    · exact hlt
    · exact String.lt_trans hlt ((List.pairwise_cons.mp h).1 e he)
  rw [hnone] at hfind
  cases hfind

/-- Ascending entries are determined by what each key finds. -/
theorem Ascending.eq_of_find? {a b : List (String × α)} (ha : Ascending a) (hb : Ascending b)
    (h : ∀ key, find? key a = find? key b) : a = b := by
  induction a generalizing b with
  | nil =>
    cases b with
    | nil => rfl
    | cons e r =>
      have hfirst := h e.1
      rw [find?_cons, if_pos rfl] at hfirst
      cases hfirst
  | cons d r ih =>
    obtain ⟨k, v⟩ := d
    obtain ⟨hk, hr⟩ := List.pairwise_cons.mp ha
    cases b with
    | nil =>
      have hfirst := h k
      rw [find?_cons, if_pos rfl] at hfirst
      cases hfirst
    | cons e s =>
      obtain ⟨l, w⟩ := e
      obtain ⟨hl, hs⟩ := List.pairwise_cons.mp hb
      have hfound : find? k ((l, w) :: s) = some v := by
        rw [← h k, find?_cons, if_pos rfl]
      have hfound' : find? l ((k, v) :: r) = some w := by
        rw [h l, find?_cons, if_pos rfl]
      -- the smallest key is the same on both sides, else one side would not find the other's
      have hkl : k = l := String.le_antisymm
        (String.not_lt.mp (ha.not_lt_of_find? hfound'))
        (String.not_lt.mp (hb.not_lt_of_find? hfound))
      subst hkl
      have hvw : v = w := by
        rw [find?_cons, if_pos rfl] at hfound
        exact (Option.some.inj hfound).symm
      subst hvw
      have htail : r = s := ih hr hs fun key => by
        by_cases hkey : k = key
        · subst hkey
          rw [find?_eq_none_of_lt hk, find?_eq_none_of_lt hl]
        · have hrest := h key
          rwa [find?_cons, if_neg hkey, find?_cons, if_neg hkey] at hrest
      rw [htail]

/-- The entries that are left of a list are entries of the list. -/
theorem mem_of_mem_ofList {entries : List (String × α)} {e : String × α}
    (h : e ∈ ofList entries) : e ∈ entries := by
  have hfind : find? e.1 entries.reverse = some e.2 := by
    rw [← find?_ofList]
    exact (ascending_ofList entries).find?_of_mem h
  exact List.mem_reverse.mp (mem_of_find? hfind)

/-- Entering ascending entries one by one gives the same entries. -/
theorem Ascending.ofList_eq {entries : List (String × α)} (h : Ascending entries) :
    ofList entries = entries :=
  (ascending_ofList entries).eq_of_find? h fun key => by
    rw [find?_ofList, find?_reverse h.nodup]

/-- A key finds nothing exactly if no entry has it. -/
theorem find?_eq_none_iff {key : String} {entries : List (String × α)} :
    find? key entries = none ↔ key ∉ entries.map (·.1) := by
  refine ⟨fun hnone hmem => ?_, find?_eq_none_of_not_mem⟩
  induction entries with
  | nil => cases hmem
  | cons e r ih =>
    rw [find?_cons] at hnone
    split at hnone
    · cases hnone
    · rename_i hne
      rcases List.mem_cons.mp hmem with heq | hr
      · exact hne heq.symm
      · exact ih hnone hr

/-- Entries built one by one have the keys that were given. -/
theorem mem_keys_ofList {key : String} {entries : List (String × α)} :
    key ∈ (ofList entries).map (·.1) ↔ key ∈ entries.map (·.1) := by
  rw [← Decidable.not_iff_not, ← find?_eq_none_iff, find?_ofList, find?_eq_none_iff,
    List.map_reverse, List.mem_reverse]

/-- Other values under the same keys leave the keys ascending. -/
theorem Ascending.map {entries : List (String × α)} (h : Ascending entries) (f : α → β) :
    Ascending (entries.map fun e => (e.1, f e.2)) :=
  List.pairwise_map.mpr h

/-- A key finds the image of the value that it found, if each value has one under its key. -/
theorem find?_mapUnder (key : String) (f : String → α → β) (entries : List (String × α)) :
    find? key (entries.map fun e => (e.1, f e.1 e.2)) = (find? key entries).map (f key) := by
  induction entries with
  | nil => rfl
  | cons e r ih =>
    obtain ⟨k, v⟩ := e
    rw [List.map_cons, find?_cons, find?_cons, ih]
    split <;> rename_i hkey
    · rw [hkey, Option.map_some]
    · rfl

/-- A key finds the image of the value that it found. -/
theorem find?_map (key : String) (f : α → β) (entries : List (String × α)) :
    find? key (entries.map fun e => (e.1, f e.2)) = (find? key entries).map f :=
  find?_mapUnder key (fun _ => f) entries

/-- Dropping entries by their values drops what a key finds if its value is dropped. -/
theorem Ascending.find?_filter {entries : List (String × α)} (h : Ascending entries)
    (keep : α → Bool) (key : String) :
    find? key (entries.filter fun e => keep e.2) = (find? key entries).filter keep := by
  cases hf : find? key (entries.filter fun e => keep e.2) with
  | some v =>
    obtain ⟨hmem, hv⟩ := List.mem_filter.mp (mem_of_find? hf)
    rw [h.find?_of_mem hmem, Option.filter_some, if_pos hv]
  | none =>
    cases hg : find? key entries with
    | none => rfl
    | some v =>
      rw [Option.filter_some]
      split <;> rename_i hv
      · have hmem : (key, v) ∈ entries.filter fun e => keep e.2 :=
          List.mem_filter.mpr ⟨mem_of_find? hg, hv⟩
        rw [(h.filter _).find?_of_mem hmem] at hf
        cases hf
      · rfl

/-- Entering a value puts it among the entries and takes out what its key had. -/
theorem Ascending.mem_insert_iff {entries : List (String × α)} (h : Ascending entries)
    {key : String} {value : α} {e : String × α} :
    e ∈ Entries.insert key value entries ↔ e = (key, value) ∨ e ∈ entries ∧ e.1 ≠ key := by
  obtain ⟨k, v⟩ := e
  rw [← (h.insert key value).find?_eq_some_iff, ← h.find?_eq_some_iff]
  by_cases hk : k = key
  · subst hk
    rw [find?_insert_self]
    simp [eq_comm]
  · rw [find?_insert_ne hk]
    simp [hk]

/-- Taking a key out leaves the entries with other keys. -/
theorem mem_remove_iff {key : String} {entries : List (String × α)} {e : String × α} :
    e ∈ remove key entries ↔ e ∈ entries ∧ e.1 ≠ key := by
  simp [remove]

/-- Taking out a key among ascending entries counts one less if the key was counted. -/
theorem Ascending.countP_remove {entries : List (String × α)} (h : Ascending entries)
    {e : String × α} (he : e ∈ entries) (p : String → Bool) :
    ((remove e.1 entries).countP fun d => p d.1) + (if p e.1 then 1 else 0) =
      entries.countP fun d => p d.1 := by
  induction entries with
  | nil => cases he
  | cons d r ih =>
    obtain ⟨hd, hr⟩ := List.pairwise_cons.mp h
    rw [List.countP_cons]
    rcases List.mem_cons.mp he with rfl | he
    · have hrest : remove e.1 (e :: r) = r := by
        rw [remove, List.filter_cons_of_neg (by simp), List.filter_eq_self]
        intro d hmem
        have hne : d.1 ≠ e.1 := fun heq => String.lt_irrefl _ (heq ▸ hd d hmem)
        simpa using hne
      rw [hrest]
    · have hne : d.1 ≠ e.1 := fun heq => String.lt_irrefl _ (heq ▸ hd e he)
      have hrest : remove e.1 (d :: r) = d :: remove e.1 r :=
        List.filter_cons_of_pos (by simpa using hne)
      have hcount := ih hr he
      rw [hrest, List.countP_cons]
      omega

/-- Entering a value counts at most one more, and none if its key is not counted. -/
theorem countP_insert_le (key : String) (value : α) (entries : List (String × α))
    (p : String → Bool) :
    (insert key value entries).countP (fun d => p d.1) ≤
      entries.countP (fun d => p d.1) + (if p key then 1 else 0) := by
  induction entries with
  | nil => simp [insert, List.countP_cons]
  | cons e r ih =>
    obtain ⟨k, v⟩ := e
    unfold insert
    split
    · simp only [List.countP_cons]
      omega
    · split
      · simp only [List.countP_cons]
        omega
      · simp only [List.countP_cons]
        omega

/-- With one more entry the keys are still different if its key is none of theirs. -/
theorem nodup_insert {key : String} {entries : List (String × α)} (value : α)
    (h : (entries.map (·.1)).Nodup) (hkey : key ∉ entries.map (·.1)) :
    ((insert key value entries).map (·.1)).Nodup := by
  have hperm : ((insert key value entries).map (·.1)).Perm (key :: entries.map (·.1)) := by
    clear h
    induction entries with
    | nil => exact List.Perm.refl _
    | cons e rest ih =>
      rw [List.map_cons, List.mem_cons, not_or] at hkey
      unfold insert
      split
      · exact List.Perm.refl _
      · rw [if_neg hkey.1]
        exact ((ih hkey.2).cons e.1).trans (List.Perm.swap key e.1 _)
  exact hperm.nodup_iff.mpr (List.nodup_cons.mpr ⟨hkey, h⟩)

end ProxyInbound.Entries
