import ProxyInbound.Proofs.Header.Stored

/-!
# Stored headers that are saved again

Opening a stored header map lays out each value whole, in a row of its own, and saving the rows
takes every value apart at its commas. So a map that is written out in full, with trimmed names and
trimmed values, is saved with the parts of its values, and it is saved with the same names and the
same values in the same order exactly when none of its values contains a comma.
-/

namespace ProxyInbound.HeaderMap

open Json Text.White Text.Parts

/-- The map that a stored value is saved as after it was opened, without names if nothing is
saved. -/
def resaved (v : Json) : HeaderMap :=
  (ofRows? (editRows (ofStored? v))).getD empty

/-- A stored header that is written as one text, or as a sequence of texts with something in it. -/
inductive WrittenAs : Json → List String → Prop where
  /-- One text. -/
  | text (v : String) : WrittenAs (string v) [v]
  /-- A sequence of texts. -/
  | sequence {vs : List String} (h : vs ≠ []) : WrittenAs (texts vs) vs

/-- The members of a header map that is written out in full. -/
structure WrittenOut (members : List (String × Json)) : Prop where
  /-- No name occurs twice. -/
  distinct : (members.map (·.1)).Nodup
  /-- No name is empty or has white space at its ends. -/
  named : ∀ m ∈ members, trim m.1 = m.1 ∧ m.1 ≠ ""
  /-- Every member is a text or a sequence of texts, each trimmed and not empty. -/
  written : ∀ m ∈ members, ∃ vs, WrittenAs m.2 vs ∧ ∀ v ∈ vs, trim v = v ∧ v ≠ ""

/-- The values that members hold under a name. -/
def HoldsUnder (members : List (String × Json)) (name : String) (vs : List String) : Prop :=
  ∃ v, (name, v) ∈ members ∧ WrittenAs v vs

/-- There is a value in a stored header. -/
theorem WrittenAs.ne_nil {v : Json} {vs : List String} (h : WrittenAs v vs) : vs ≠ [] := by
  cases h with
  | text v => exact List.cons_ne_nil v []
  | sequence h => exact h

/-- A stored header is written as one list of values only. -/
theorem WrittenAs.unique {v : Json} {vs ws : List String} (h : WrittenAs v vs)
    (k : WrittenAs v ws) : vs = ws := by
  cases h with
  | text v =>
    cases k
    rfl
  | sequence h =>
    generalize hv : texts vs = v at k
    cases k with
    | text w => cases hv
    | sequence k =>
      exact List.map_injective_iff.mpr (fun _ _ => Json.string.inj) (Json.array.inj hv)

/-- A header of visible texts is read as the values that it is written as. -/
theorem WrittenAs.exists_ofStored? {v : Json} {vs : List String} (h : WrittenAs v vs)
    (hvisible : ∀ t ∈ vs, blank t = false) :
    ∃ value, HeaderValue.ofStored? v = some value ∧ value.values = vs := by
  cases h with
  | text t =>
    have hfilled : FilledValue (.single t) := ⟨List.cons_ne_nil t [], hvisible⟩
    exact ⟨_, hfilled.ofStored?_toJson, rfl⟩
  | sequence hne =>
    have hfilled : FilledValue (.multi vs) := ⟨hne, hvisible⟩
    exact ⟨_, hfilled.ofStored?_toJson, rfl⟩

section WrittenOut

variable {members : List (String × Json)} (h : WrittenOut members)

include h

/-- No text that is written out is blank. -/
theorem WrittenOut.text {name : String} {vs : List String} (hvs : HoldsUnder members name vs) :
    ∀ v ∈ vs, trim v = v ∧ v ≠ "" := by
  obtain ⟨value, hmem, hwritten⟩ := hvs
  obtain ⟨ws, hws, htexts⟩ := h.written _ hmem
  exact hwritten.unique hws ▸ htexts

/-- A map that is written out is read with the values that its members hold. -/
theorem WrittenOut.map_find?_iff {name : String} {vs : List String} :
    (((ofStored? (object members)).getD empty).find? name).map HeaderValue.values = some vs ↔
      HoldsUnder members name vs := by
  rw [find?_ofStored? h.distinct]
  constructor
  · intro hfind
    cases hmember : Entries.find? name members with
    | none => rw [hmember] at hfind; cases hfind
    | some v =>
      have hmem := Entries.mem_of_find? hmember
      obtain ⟨ws, hws, htexts⟩ := h.written _ hmem
      obtain ⟨value, hvalue, rfl⟩ := hws.exists_ofStored? fun t ht =>
        (blank_eq_false_iff_of_trim (htexts t ht).1).mpr (htexts t ht).2
      rw [hmember, Option.bind_some, hvalue] at hfind
      obtain rfl := Option.some.inj hfind
      exact ⟨v, hmem, hws⟩
  · intro hvs
    obtain ⟨v, hmem, hwritten⟩ := hvs
    have htexts := h.text ⟨v, hmem, hwritten⟩
    obtain ⟨value, hvalue, rfl⟩ := hwritten.exists_ofStored? fun t ht =>
      (blank_eq_false_iff_of_trim (htexts t ht).1).mpr (htexts t ht).2
    rw [Entries.find?_of_mem h.distinct hmem, Option.bind_some, hvalue]
    rfl

/-- The names of a map that is written out can stand in rows. -/
theorem WrittenOut.named_ofStored? {e : String × HeaderValue}
    (he : e ∈ ((ofStored? (object members)).getD empty).entries) : trim e.1 = e.1 ∧ e.1 ≠ "" := by
  have hfind : (((ofStored? (object members)).getD empty).find? e.1).map HeaderValue.values =
      some e.2.values := by
    rw [find?_eq_some_iff.mpr he]
    rfl
  obtain ⟨v, hmem, _⟩ := h.map_find?_iff.mp hfind
  exact h.named (e.1, v) hmem

/-- A map that is written out is saved with the parts of the values that its members hold. -/
theorem WrittenOut.find?_resaved_iff {name : String} {vs : List String} :
    ((resaved (object members)).find? name).map HeaderValue.values = some vs ↔
      ∃ ws, HoldsUnder members name ws ∧ ws.flatMap commaParts = vs ∧ vs ≠ [] := by
  rw [resaved, ofRows?_eq, getD_nonEmpty?, editRows_eq, ofRows_orBlankRow, find?_ofRows,
    valuesOf_toRows_of_trimmed fun e he => (h.named_ofStored? he).1]
  simp only [← h.map_find?_iff]
  cases hfind : ((ofStored? (object members)).getD empty).find? name with
  | none => simp
  | some value =>
    have hname : name ≠ "" := (h.named_ofStored? (find?_eq_some_iff.mp hfind)).2
    simp only [hname, false_or, Option.map_some, Option.getD_some, Option.some.injEq,
      exists_eq_left']
    split <;> rename_i hparts
    · rw [hparts]
      exact ⟨nofun, fun ⟨hnil, hne⟩ => absurd hnil.symm hne⟩
    · rw [Option.map_some, HeaderValue.values_ofValues, Option.some.injEq]
      exact ⟨fun heq => ⟨heq, heq ▸ hparts⟩, And.left⟩

end WrittenOut

/-- A header map that is written out in full is saved, after it was opened, with the parts between
the commas of its values, and with the names and the values that it had exactly when none of the
values contains a comma. -/
theorem resaved_eq_iff_commaFree {members : List (String × Json)} (h : WrittenOut members) :
    (∀ name vs, ((resaved (object members)).find? name).map HeaderValue.values = some vs ↔
      ∃ ws, HoldsUnder members name ws ∧ ws.flatMap commaParts = vs ∧ vs ≠ []) ∧
    ((∀ name vs, ((resaved (object members)).find? name).map HeaderValue.values = some vs ↔
      HoldsUnder members name vs) ↔
      ∀ name vs, HoldsUnder members name vs → ∀ v ∈ vs, ',' ∉ v.toList) := by
  refine ⟨fun name vs => h.find?_resaved_iff, fun hkept name vs hvs v hv hcomma => ?_,
    fun hfree name vs => ?_⟩
  · -- a saved value is a part between commas
    obtain ⟨ws, _, rfl, _⟩ := h.find?_resaved_iff.mp ((hkept name vs).mpr hvs)
    obtain ⟨w, _, hpart⟩ := List.mem_flatMap.mp hv
    exact absurd ((isPart_of_mem_parts hpart).unbroken ',' hcomma) (by decide)
  · have hparts : ∀ ws, HoldsUnder members name ws → ws.flatMap commaParts = ws := fun ws hws =>
      flatMap_parts_of_isPart fun v hv =>
        ⟨(h.text hws v hv).1, (h.text hws v hv).2, fun c hc =>
          beq_eq_false_iff_ne.mpr fun heq => hfree name ws hws v hv (heq ▸ hc)⟩
    rw [h.find?_resaved_iff]
    constructor
    · rintro ⟨ws, hws, rfl, _⟩
      rwa [hparts ws hws]
    · intro hvs
      obtain ⟨v, hmem, hwritten⟩ := hvs
      exact ⟨vs, ⟨v, hmem, hwritten⟩, hparts vs ⟨v, hmem, hwritten⟩, hwritten.ne_nil⟩

/-- A list of languages in two texts, the first with a comma in it. -/
def languageMembers : List (String × Json) :=
  [("Accept-Language", texts ["de, en;q=0.5", "fr"]), ("Via", string "1.1 gate")]

/-- The languages are written out in full. -/
theorem writtenOut_languageMembers : WrittenOut languageMembers where
  distinct := by decide +kernel
  named := by decide +kernel
  written m hm := by
    rcases List.mem_cons.mp hm with rfl | hm
    · exact ⟨_, .sequence (List.cons_ne_nil _ _), by decide +kernel⟩
    · rw [List.mem_singleton.mp hm]
      exact ⟨_, .text _, by decide +kernel⟩

/-- The languages are saved one by one. -/
theorem resaved_languageMembers :
    WrittenOut languageMembers ∧
      ((resaved (object languageMembers)).find? "Accept-Language").map HeaderValue.values =
        some ["de", "en;q=0.5", "fr"] :=
  ⟨writtenOut_languageMembers,
    ((resaved_eq_iff_commaFree writtenOut_languageMembers).1 "Accept-Language" _).mpr
      ⟨["de, en;q=0.5", "fr"],
        ⟨_, List.mem_cons_self, .sequence (List.cons_ne_nil _ _)⟩,
        by decide +kernel, List.cons_ne_nil _ _⟩⟩

/-- A browser's name with a comma in it. -/
def agentMembers : List (String × Json) :=
  [("User-Agent", string "Mozilla/5.0 (KHTML, like Gecko)")]

/-- A browser's name is written out in full, but it is saved as two values. -/
theorem resaved_agentMembers_ne :
    WrittenOut agentMembers ∧
      HoldsUnder agentMembers "User-Agent" ["Mozilla/5.0 (KHTML, like Gecko)"] ∧
      ((resaved (object agentMembers)).find? "User-Agent").map HeaderValue.values =
        some ["Mozilla/5.0 (KHTML", "like Gecko)"] := by
  refine ⟨⟨by decide +kernel, by decide +kernel, fun m hm => ?_⟩,
    ⟨_, List.mem_cons_self, .text _⟩, by decide +kernel⟩
  rw [List.mem_singleton.mp hm]
  exact ⟨_, .text _, by decide +kernel⟩

end ProxyInbound.HeaderMap
