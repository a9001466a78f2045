import ProxyInbound.Json.Lenient
import ProxyInbound.Proofs.Header.Stored
import ProxyInbound.Proofs.Text.Numerals
import ProxyInbound.Proofs.Text.Splitting
import ProxyInbound.Wire.Fields
import ProxyInbound.Wire.Transport.Packet

/-!
# Optional fields read back

A field that was written is read back as the value it was written from, and a field that was left
out is read as absent. The numerals of a form are read and written back as they were exactly when
they are in the form in which words are written, or where the form and its template have none.
-/

namespace ProxyInbound.Wire

open Json Text.White Text.Numeral

/-! ## Scalars -/

/-- A text is read back unless it is blank. -/
@[simp] theorem bind_textField (s : Option String) :
    (textField s).bind scalarText? = keepNonBlank s := by
  unfold textField
  cases keepNonBlank s <;> rfl

/-- A text that may be a range is read back unless it is blank. -/
@[simp] theorem bind_textField_range (s : Option String) :
    (textField s).bind rangeText? = keepNonBlank s := by
  unfold textField
  cases keepNonBlank s <;> rfl

/-- A truth value is read back. -/
@[simp] theorem bind_flagField (b : Option Bool) : (flagField b).bind toFlag? = b := by
  cases b <;> rfl

/-- An unsigned word is read back. -/
@[simp] theorem bind_wordField (w : Option UInt64) : (wordField w).bind toWord? = w := by
  cases w <;> simp [wordField, word, integer, toWord?, Number.toWord?]

/-- A signed word is read back. -/
@[simp] theorem bind_signedWordField (w : Option Int64) :
    (signedWordField w).bind toSignedWord? = w := by
  cases w <;> simp [signedWordField, signedWord, integer, toSignedWord?, Number.toSignedWord?]

/-! ## Sequences -/

/-- Texts are read back as a list. -/
@[simp] theorem getD_bind_textsField (xs : List String) :
    ((textsField xs).bind toTexts?).getD [] = xs := by
  cases xs with
  | nil => rfl
  | cons x r => exact HeaderMap.filterMap_scalarText? (x :: r)

/-- The items of a sequence of objects are the objects. -/
@[simp] theorem getD_bind_objectsField (toJson : α → Json) (xs : List α) :
    ((objectsField toJson xs).bind toItems?).getD [] = xs.map toJson := by
  cases xs <;> rfl

/-- The items of a member that holds a sequence of objects are the objects. -/
theorem itemsAt_of_objectsField {v : Json} {key : String} {toJson : α → Json} {xs : List α}
    (h : v.get? key = objectsField toJson xs) : v.itemsAt key = xs.map toJson := by
  rw [itemsAt, itemsAt?, h, getD_bind_objectsField]

/-- Objects that are read back one by one are read back from their sequence. -/
theorem map_filter_isObject {toJson : α → Json} {ofJson : Json → α} {xs : List α}
    (hobject : ∀ x, (toJson x).isObject = true) (hread : ∀ x ∈ xs, ofJson (toJson x) = x) :
    ((xs.map toJson).filter isObject).map ofJson = xs := by
  have hfilter : (xs.map toJson).filter isObject = xs.map toJson := by
    rw [List.filter_eq_self]
    intro item hitem
    obtain ⟨x, _, rfl⟩ := List.mem_map.mp hitem
    exact hobject x
  rw [hfilter, List.map_map]
  exact (List.map_congr_left hread).trans (List.map_id xs)

/-! ## Objects -/

/-- An object of fields is an object. -/
@[simp] theorem isObject_ofFields (fields : List (String × Option Json)) :
    (ofFields fields).isObject = true := rfl

/-- A section that is present is read as an object. -/
theorem filter_isObject_map (toJson : α → Json) (hobject : ∀ x, (toJson x).isObject = true)
    (x : Option α) : (x.map toJson).filter isObject = x.map toJson := by
  cases x with
  | none => rfl
  | some x => rw [Option.map_some, Option.filter_some, if_pos (hobject x)]

/-- A member that is an object is found as one. -/
theorem objectAt?_of_get? {v member : Json} {key : String} (h : v.get? key = some member)
    (hobject : member.isObject = true) : v.objectAt? key = some member := by
  rw [objectAt?, h, Option.filter_some, if_pos hobject]

/-- A member that is an object is found as it is. -/
theorem objectAt_of_get? {v member : Json} {key : String} (h : v.get? key = some member)
    (hobject : member.isObject = true) : v.objectAt key = member := by
  rw [objectAt, objectAt?_of_get? h hobject, Option.getD_some]

/-- A header map that is filled is read back unless it is empty. -/
theorem bind_headersField {m : HeaderMap} (h : m.Filled) :
    (headersField m.nonEmpty?).bind HeaderMap.ofStored? = m.nonEmpty? := by
  cases hm : m.nonEmpty? with
  | none => rfl
  | some k =>
    have hk : k = m := by rw [← m.getD_nonEmpty?, hm, Option.getD_some]
    subst hk
    rw [headersField, Option.map_some, Option.bind_some, h.ofStored?_toJson, hm]

/-- The kind of a packet header is read back. -/
@[simp] theorem bind_packetHeaderField (kind : Option String) :
    ((packetHeaderField kind).filter isObject).bind (fun h => h.textAt? "type") = kind := by
  cases kind with
  | none => rfl
  | some k => rfl

end ProxyInbound.Wire
