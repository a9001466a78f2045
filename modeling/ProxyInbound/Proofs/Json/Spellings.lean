import ProxyInbound.Proofs.Json.Pruned
import ProxyInbound.Proofs.Json.Readings
import ProxyInbound.Proofs.Text.Numerals

/-!
# Integers spelled as texts

Any integers of a document may be spelled as the texts of their digits, each at its own position.
Texts, words, ranges and header maps are read the same either way, whatever the size and the sign
of the integers, and so are the items of a sequence of texts. Only where a truth value or a sequence
of texts is read does it matter whether an integer or a text stands there: an integer stands for a
truth value but a text of digits does not, and a text stands for a sequence but an integer does not.
-/

namespace ProxyInbound

open Text.Numeral

/-! ## Numerals of integers -/

/-- The text of an integer holds the unsigned word that the integer is. -/
theorem Text.Numeral.unsigned?_decimalInt (i : Int) :
    unsigned? (decimalInt i) = (Number.integer i).toWord? := by
  rw [unsigned?, trimChars_decimalInt, Number.toWord?]
  cases i with
  | ofNat n =>
    have hsign : (0 : Int) ≤ Int.ofNat n := Int.natCast_nonneg n
    rw [decimalInt, decimalNat, String.toList_ofList, natural?_toDigits, Option.bind_some,
      if_pos hsign]
    rfl
  | negSucc n =>
    have hminus : digits? ('-' :: Nat.toDigits 10 (n + 1)) = none :=
      if_neg fun h => Bool.false_ne_true h.2
    rw [decimalInt, String.toList_ofList, natural?, hminus, Option.bind_none,
      if_neg (Int.not_le.mpr (Int.negSucc_lt_zero n))]
    intro _ h
    cases h

/-- The text of an integer holds the signed word that the integer is. -/
theorem Text.Numeral.signed?_decimalInt (i : Int) :
    signed? (decimalInt i) = (Number.integer i).toSignedWord? := by
  rw [signed?, trimChars_decimalInt, integer?_decimalInt, Option.bind_some]
  rfl

namespace Json

/-! ## Positions -/

/-- One step from a value to a value in it. -/
inductive Step where
  /-- To the member under a key of an object. -/
  | member (key : String)
  /-- To an item of an array, counted from zero. -/
  | item (index : Nat)
  deriving DecidableEq, Repr

/-- The place that a step leads to, whichever item it is. -/
def Step.place : Step → Place
  | member key => .member key
  | item _ => .item

mutual

/-- The value with the integers at the chosen positions spelled as texts. A position is given by the
steps that lead to it from the outside in. -/
def spell (chosen : List Step → Bool) : Json → Json
  | number (.integer i) => if chosen [] then string (decimalInt i) else number (.integer i)
  | array items => array (spellItems chosen 0 items)
  | object members => object (spellMembers chosen members)
  | v => v

/-- The items, counted from a number on, with the chosen integers in them spelled as texts. -/
def spellItems (chosen : List Step → Bool) (index : Nat) : List Json → List Json
  | [] => []
  | v :: rest =>
    v.spell (fun position => chosen (.item index :: position)) ::
      spellItems chosen (index + 1) rest

/-- The members with the chosen integers in them spelled as texts. -/
def spellMembers (chosen : List Step → Bool) : List (String × Json) → List (String × Json)
  | [] => []
  | (key, v) :: rest =>
    (key, v.spell fun position => chosen (.member key :: position)) :: spellMembers chosen rest

end

mutual

/-- The places at which a reading asks for a kind of single value. -/
def Reading.placesOf (l : Leaf) : Reading → List (List Place)
  | .leaf other => if other = l then [[]] else []
  | .object fields => placesOfFields l fields
  | .objects fields => (placesOfFields l fields).map (.item :: ·)

/-- The places at which fields ask for a kind of single value. -/
def placesOfFields (l : Leaf) : List (String × Reading) → List (List Place)
  | [] => []
  | (key, reading) :: rest => (reading.placesOf l).map (.member key :: ·) ++ placesOfFields l rest

end

/-- What a field asks for somewhere, an object with this field asks for under its key. -/
theorem mem_placesOfFields {l : Leaf} {fields : List (String × Reading)} {key : String}
    {reading : Reading} (hfield : (key, reading) ∈ fields) {places : List Place}
    (h : places ∈ reading.placesOf l) : .member key :: places ∈ placesOfFields l fields := by
  induction fields with
  | nil => cases hfield
  | cons field rest ih =>
    obtain ⟨other, otherReading⟩ := field
    rw [placesOfFields, List.mem_append]
    rcases List.mem_cons.mp hfield with heq | hrest
    · cases heq
      exact Or.inl (List.mem_map_of_mem h)
    · exact Or.inr (ih hrest)

/-- A choice of positions without those of a truth value or of a sequence of texts. -/
def Spares (chosen : List Step → Bool) (reading : Reading) : Prop :=
  ∀ position, chosen position = true →
    position.map Step.place ∉ reading.placesOf .flag ∧
      position.map Step.place ∉ reading.placesOf .texts

namespace Spares

variable {chosen : List Step → Bool} {fields : List (String × Reading)}

/-- What is spared of an object is spared of its members. -/
theorem member (h : Spares chosen (.object fields)) {key : String} {reading : Reading}
    (hfield : (key, reading) ∈ fields) :
    Spares (fun position => chosen (.member key :: position)) reading := by
  intro position hchosen
  obtain ⟨hflag, htexts⟩ := h _ hchosen
  exact ⟨fun hmem => hflag (mem_placesOfFields hfield hmem),
    fun hmem => htexts (mem_placesOfFields hfield hmem)⟩

/-- What is spared of a sequence of objects is spared of each of them. -/
theorem item (h : Spares chosen (.objects fields)) (index : Nat) :
    Spares (fun position => chosen (.item index :: position)) (.object fields) := by
  intro position hchosen
  obtain ⟨hflag, htexts⟩ := h _ hchosen
  exact ⟨fun hmem => hflag (List.mem_map_of_mem hmem),
    fun hmem => htexts (List.mem_map_of_mem hmem)⟩

/-- A truth value is not chosen itself. -/
theorem not_chosen_flag (h : Spares chosen (.leaf .flag)) : chosen [] = false := by
  rw [Bool.eq_false_iff]
  exact fun hchosen => (h [] hchosen).1 (List.mem_singleton_self [])

/-- A sequence of texts is not chosen itself. -/
theorem not_chosen_texts (h : Spares chosen (.leaf .texts)) : chosen [] = false := by
  rw [Bool.eq_false_iff]
  exact fun hchosen => (h [] hchosen).2 (List.mem_singleton_self [])

end Spares

/-! ## Values with spelled integers -/

section Values

variable (chosen : List Step → Bool)

/-- The members are spelled one by one. -/
theorem spellMembers_eq (members : List (String × Json)) :
    spellMembers chosen members =
      members.map fun m => (m.1, m.2.spell fun position => chosen (.member m.1 :: position)) := by
  induction members with
  | nil => rfl
  | cons m rest ih => rw [spellMembers, ih, List.map_cons]

/-- What is read of integers and of the texts that they are spelled as is the same of a value with
spelled integers, if it is the same of arrays and of objects with spelled integers in them. -/
theorem read_spell {read : Json → α}
    (hinteger : chosen [] = true → ∀ i, read (string (decimalInt i)) = read (integer i))
    (harray : ∀ items, read (array (spellItems chosen 0 items)) = read (array items))
    (hobject : ∀ members, read (object (spellMembers chosen members)) = read (object members))
    (v : Json) : read (v.spell chosen) = read v := by
  cases v with
  | number n =>
    cases n with
    | integer i =>
      rw [spell]
      split <;> rename_i hchosen
      · exact hinteger hchosen i
      · rfl
    | double d => rfl
  | array items => rw [spell, harray]
  | object members => rw [spell, hobject]
  | null => rfl
  | bool b => rfl
  | string s => rfl

/-- A key finds what it found with the integers in it spelled. -/
theorem get?_spell (v : Json) (key : String) :
    (v.spell chosen).get? key =
      (v.get? key).map (spell fun position => chosen (.member key :: position)) := by
  cases v with
  | object members =>
    rw [spell, spellMembers_eq, get?_object, get?_object]
    exact Entries.find?_mapUnder key
      (fun key => spell fun position => chosen (.member key :: position)) members
  | number n =>
    cases n with
    | integer i => rw [spell]; split <;> rfl
    | double d => rfl
  | array items => rw [spell]; rfl
  | null => rfl
  | bool b => rfl
  | string s => rfl

/-- An object stays an object, and nothing else becomes one. -/
@[simp] theorem isObject_spell (v : Json) : (v.spell chosen).isObject = v.isObject :=
  read_spell chosen (fun _ _ => rfl) (fun _ => rfl) (fun _ => rfl) v

/-- What is found in items one by one is found in the items with spelled integers, if what is found
in an item does not depend on the spelling. -/
theorem filterMap_spellItems {f : Json → Option α} (hf : ∀ chosen v, f (v.spell chosen) = f v)
    (index : Nat) (items : List Json) :
    (spellItems chosen index items).filterMap f = items.filterMap f := by
  induction items generalizing index with
  | nil => rfl
  | cons v rest ih => rw [spellItems, List.filterMap_cons, List.filterMap_cons, hf, ih]

/-! ## Single values -/

/-- An integer has the text that it is spelled as. -/
@[simp] theorem scalarText?_spell (v : Json) : (v.spell chosen).scalarText? = v.scalarText? :=
  read_spell chosen (fun _ _ => rfl) (fun _ => rfl) (fun _ => rfl) v

/-- An unsigned word is found in an integer and in its text. -/
theorem toWord?_spell (v : Json) : (v.spell chosen).toWord? = v.toWord? :=
  read_spell chosen (fun _ => unsigned?_decimalInt) (fun _ => rfl) (fun _ => rfl) v

/-- A signed word is found in an integer and in its text. -/
theorem toSignedWord?_spell (v : Json) : (v.spell chosen).toSignedWord? = v.toSignedWord? :=
  read_spell chosen (fun _ => signed?_decimalInt) (fun _ => rfl) (fun _ => rfl) v

/-- A truth value is read the same unless it is itself spelled. -/
theorem toFlag?_spell (h : chosen [] = false) (v : Json) : (v.spell chosen).toFlag? = v.toFlag? :=
  read_spell chosen (fun hchosen => absurd (h ▸ hchosen) Bool.false_ne_true) (fun _ => rfl)
    (fun _ => rfl) v

/-- A sequence of texts is read the same unless it is itself spelled; its items may be. -/
theorem toTexts?_spell (h : chosen [] = false) (v : Json) :
    (v.spell chosen).toTexts? = v.toTexts? := by
  have hitems (items : List Json) :
      (array (spellItems chosen 0 items)).toTexts? = (array items).toTexts? :=
    congrArg some (filterMap_spellItems chosen scalarText?_spell 0 items)
  exact read_spell chosen (fun hchosen => absurd (h ▸ hchosen) Bool.false_ne_true) hitems
    (fun _ => rfl) v

/-- A range is read the same, whether it is an integer or has integers for its ends. -/
theorem rangeText?_spell (v : Json) : (v.spell chosen).rangeText? = v.rangeText? := by
  have hend (key : String) : (v.spell chosen).textAt? key = v.textAt? key := by
    rw [textAt?, textAt?, get?_spell, Option.bind_map]
    exact congrArg (v.get? key).bind (funext fun w => scalarText?_spell _ w)
  rw [rangeText?, rangeText?, scalarText?_spell, hend, hend]

/-- An integer holds something, and so does its text. -/
theorem isVoid_spell (v : Json) : (v.spell chosen).isVoid = v.isVoid := by
  refine read_spell chosen (fun _ i => blank_numberText (.integer i)) (fun items => ?_)
    (fun _ => rfl) v
  cases items <;> rfl

/-- A header value is read the same, be it one or several. -/
theorem HeaderValue.ofStored?_spell (v : Json) :
    HeaderValue.ofStored? (v.spell chosen) = HeaderValue.ofStored? v := by
  refine read_spell chosen (fun _ i => ?_) (fun items => ?_) (fun _ => rfl) v
  · have hvoid : (string (decimalInt i)).isVoid = false := blank_numberText (.integer i)
    simp only [HeaderValue.ofStored?, hvoid]
    rfl
  · have hitems : ((spellItems chosen 0 items).filter fun item => !item.isVoid).filterMap
        scalarText? = (items.filter fun item => !item.isVoid).filterMap scalarText? := by
      rw [List.filterMap_filter, List.filterMap_filter]
      exact filterMap_spellItems chosen
        (fun chosen item => by rw [isVoid_spell, scalarText?_spell]) 0 items
    rw [HeaderValue.ofStored?, hitems, HeaderValue.ofStored?]

/-- A header map is read the same value by value. -/
theorem HeaderMap.ofStored?_spell (v : Json) :
    HeaderMap.ofStored? (v.spell chosen) = HeaderMap.ofStored? v := by
  refine read_spell chosen (fun _ _ => rfl) (fun _ => rfl) (fun members => ?_) v
  rw [HeaderMap.ofStored?, HeaderMap.ofStored?, spellMembers_eq, List.filterMap_map]
  simp only [Function.comp_def, HeaderValue.ofStored?_spell]

end Values

/-! ## Readings -/

/-- A single value is read the same, with its own position spared if it is a truth value or a
sequence of texts. -/
theorem Leaf.same_spell (l : Leaf) {chosen : List Step → Bool} (h : Spares chosen (.leaf l))
    (m : Option Json) : l.Same (m.map (spell chosen)) m := by
  have hread {α : Type} {read : Json → Option α} (hv : ∀ v, read (v.spell chosen) = read v) :
      (m.map (spell chosen)).bind read = m.bind read := by
    rw [Option.bind_map]
    exact congrArg m.bind (funext hv)
  cases l with
  | text => exact hread (scalarText?_spell chosen)
  | flag => exact hread (toFlag?_spell chosen h.not_chosen_flag)
  | word => exact hread (toWord?_spell chosen)
  | signedWord => exact hread (toSignedWord?_spell chosen)
  | texts => exact hread (toTexts?_spell chosen h.not_chosen_texts)
  | range => exact hread (rangeText?_spell chosen)
  | headers => exact hread (HeaderMap.ofStored?_spell chosen)

/-- The items of a member are spelled one by one. -/
theorem objectItems_spell (chosen : List Step → Bool) (m : Option Json) :
    objectItems (m.map (spell chosen)) =
      (spellItems chosen 0 ((m.bind toItems?).getD [])).filter isObject := by
  cases m with
  | none => rfl
  | some v =>
    rw [Option.map_some]
    cases v with
    | array items => rw [spell]; rfl
    | object members => rw [spell]; rfl
    | number n =>
      cases n with
      | integer i => rw [spell]; split <;> rfl
      | double d => rfl
    | null => rfl
    | bool b => rfl
    | string s => rfl

/-- The objects among the items are objects with spelled integers in them. -/
theorem forall₂_spellItems {R : Json → Json → Prop} {chosen : List Step → Bool}
    (hR : ∀ index v, R (v.spell fun position => chosen (.item index :: position)) v)
    (index : Nat) (items : List Json) :
    List.Forall₂ R ((spellItems chosen index items).filter isObject) (items.filter isObject) := by
  induction items generalizing index with
  | nil => exact .nil
  | cons v rest ih =>
    rw [spellItems, List.filter_cons, List.filter_cons, isObject_spell]
    split
    · exact .cons (hR index v) (ih (index + 1))
    · exact ih (index + 1)

mutual

/-- A member is read the same with the chosen integers in it spelled. -/
theorem Reading.same_spell (reading : Reading) {chosen : List Step → Bool}
    (h : Spares chosen reading) (m : Option Json) : reading.Same (m.map (spell chosen)) m := by
  cases reading with
  | leaf l => exact l.same_spell h m
  | object fields =>
    have hobject : (m.map (spell chosen)).filter isObject =
        (m.filter isObject).map (spell chosen) := by
      cases m with
      | none => rfl
      | some v =>
        rw [Option.map_some, Option.filter_some, Option.filter_some, isObject_spell]
        split <;> rfl
    rw [Reading.Same, hobject]
    cases m.filter isObject with
    | none => exact .none
    | some v => exact .some (sameFields_spell fields (fun _ hf => h.member hf) v)
  | objects fields =>
    have hitem (index : Nat) (v : Json) : SameFields fields
        (v.spell fun position => chosen (.item index :: position)) v :=
      sameFields_spell fields (fun _ hf => (h.item index).member hf) v
    rw [Reading.Same, objectItems_spell, objectItems]
    exact forall₂_spellItems hitem 0 _

/-- The members of a value are read the same with the chosen integers in them spelled. -/
theorem sameFields_spell (fields : List (String × Reading)) {chosen : List Step → Bool}
    (h : ∀ f ∈ fields, Spares (fun position => chosen (.member f.1 :: position)) f.2)
    (v : Json) : SameFields fields (v.spell chosen) v := by
  cases fields with
  | nil => trivial
  | cons field rest =>
    obtain ⟨key, reading⟩ := field
    obtain ⟨hfirst, hrest⟩ := List.forall_mem_cons.mp h
    rw [SameFields, get?_spell]
    exact ⟨reading.same_spell hfirst (v.get? key), sameFields_spell rest hrest v⟩

end

end Json

end ProxyInbound
