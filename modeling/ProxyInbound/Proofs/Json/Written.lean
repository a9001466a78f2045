import Mathlib.Tactic.SplitIfs
import ProxyInbound.Json.Printer
import ProxyInbound.Json.Reader
import ProxyInbound.Proofs.Entries

/-!
# Documents read back from their text

A document without numbers that does not nest too deeply is read back from its text in either
layout. A text is read back character by character, whatever characters it holds. A sequence of
items is read back if each item is, whatever white space stands before it and whatever follows it;
so are, level by level, arrays and objects, whose members come out in the order in which they
stand.
-/

namespace ProxyInbound.Json

open Printer Reader

/-! ## Texts -/

/-- A hexadecimal digit has its value. -/
theorem hexValue?_hexDigit {n : Nat} (h : n < 16) : hexValue? (hexDigit n) = some n := by
  revert n
  decide

/-- Two digits below U+0020 have the code point that they are written from. -/
theorem unit?_hexDigits {n : Nat} (h : n < 32) :
    unit? '0' '0' (hexDigit (n / 16)) (hexDigit (n % 16)) = some n := by
  have hhigh := hexValue?_hexDigit (n := n / 16) (by omega)
  have hlow := hexValue?_hexDigit (n := n % 16) (by omega)
  have hzero : hexValue? '0' = some 0 := rfl
  have hsum : ((0 * 16 + 0) * 16 + n / 16) * 16 + n % 16 = n := by omega
  simp only [unit?, hzero, hhigh, hlow, Option.bind_eq_bind, Option.bind_some, hsum]

/-- An escape of one letter is read as what it stands for. -/
theorem stringBody_shortEscape {c e : Char} (h : shortEscape? e = some c) (r : List Char) :
    stringBody ('\\' :: e :: r) = consChar c (stringBody r) := by
  have hunit : e ≠ 'u' := by
    rintro rfl
    cases h
  simp [stringBody, h, hunit]

/-- A control character is read from its code point. -/
theorem stringBody_unit {c : Char} (h : c.toNat < 32) (r : List Char) :
    stringBody
        ('\\' :: 'u' :: '0' :: '0' :: hexDigit (c.toNat / 16) :: hexDigit (c.toNat % 16) :: r) =
      consChar c (stringBody r) := by
  have hhigh : isHighSurrogate c.toNat = false := by simp [isHighSurrogate]; omega
  have hlow : isLowSurrogate c.toNat = false := by simp [isLowSurrogate]; omega
  rw [stringBody, unit?_hexDigits h]
  simp [hhigh, hlow, Char.ofNat_toNat]

/-- A character that needs no escape is read as it is. -/
theorem stringBody_plain {c : Char} (hquote : c ≠ '"') (hescape : c ≠ '\\') (h : 32 ≤ c.toNat)
    (r : List Char) : stringBody (c :: r) = consChar c (stringBody r) := by
  have hcontrol : ¬ (c = '\\' ∨ c.toNat < 32) := by
    rintro (heq | hlt)
    · exact hescape heq
    · omega
  rw [stringBody, if_neg hcontrol]
  · exact hquote
  · exact fun _ _ _ _ _ heq => absurd heq hescape
  · exact fun _ _ heq => absurd heq hescape

/-- A character is read back from its written form. -/
theorem stringBody_escape (c : Char) (r : List Char) :
    stringBody (escape c ++ r) = consChar c (stringBody r) := by
  unfold escape
  split_ifs with hquote hescape hfeed hreturn htab hback hform hcontrol
  · exact stringBody_shortEscape (by rw [hquote]; rfl) r
  · exact stringBody_shortEscape (by rw [hescape]; rfl) r
  · exact stringBody_shortEscape (by rw [hfeed]; rfl) r
  · exact stringBody_shortEscape (by rw [hreturn]; rfl) r
  · exact stringBody_shortEscape (by rw [htab]; rfl) r
  · have hc : c = '\x08' := Char.toNat_inj.mp hback
    exact stringBody_shortEscape (by rw [hc]; rfl) r
  · have hc : c = '\x0c' := Char.toNat_inj.mp hform
    exact stringBody_shortEscape (by rw [hc]; rfl) r
  · exact stringBody_unit hcontrol r
  · exact stringBody_plain hquote hescape (by omega) r

/-- A text is read back up to its closing quote. -/
theorem stringBody_flatMap_escape (cs r : List Char) :
    stringBody (cs.flatMap escape ++ '"' :: r) = some (cs, r) := by
  induction cs with
  | nil => simp [stringBody]
  | cons c cs ih => rw [List.flatMap_cons, List.append_assoc, stringBody_escape, ih]; rfl

/-! ## White space -/

/-- Characters that are white space only. -/
def IsGap (cs : List Char) : Prop :=
  ∀ c ∈ cs, isSpace c = true

/-- No characters at all are white space. -/
theorem isGap_nil : IsGap [] := nofun

/-- White space before another character is skipped. -/
theorem skipSpace_append {gap : List Char} (hgap : IsGap gap) {c : Char} (hc : isSpace c = false)
    (r : List Char) : skipSpace (gap ++ c :: r) = c :: r := by
  rw [skipSpace, List.dropWhile_append_of_pos hgap, List.dropWhile_cons_of_neg (by simp [hc])]

/-- Without white space nothing is skipped. -/
theorem skipSpace_cons {c : Char} (hc : isSpace c = false) (r : List Char) :
    skipSpace (c :: r) = c :: r :=
  skipSpace_append isGap_nil hc r

/-- Items are laid out with white space only. -/
theorem isGap_gap (layout : Layout) (level : Nat) : IsGap (layout.gap level) := by
  intro c hc
  cases layout with
  | compact => cases hc
  | pretty =>
    rcases List.mem_cons.mp hc with rfl | hindent
    · rfl
    · rw [List.eq_of_mem_replicate hindent]
      rfl

/-- The colon after a key is followed by white space only. -/
theorem exists_colon_eq (layout : Layout) : ∃ gap, layout.colon = ':' :: gap ∧ IsGap gap := by
  cases layout with
  | compact => exact ⟨[], rfl, isGap_nil⟩
  | pretty => exact ⟨[' '], rfl, List.forall_mem_singleton.mpr rfl⟩

/-! ## Sequences -/

section Sequences

variable {α : Type} {item : Step α} {close : Char} {text : α → List Char}
  {gap trail : List Char} {x : α} {xs : List α}

/-- A text from which an item is read, whatever white space stands before it and whatever follows
it. -/
def ReadsBack (item : Step α) (text : List Char) (x : α) : Prop :=
  ∀ gap, IsGap gap → ∀ r, item (gap ++ (text ++ r)) = some (x, r)

/-- Items that are read back one by one are read back from between commas. -/
theorem separated_append (hclose : isSpace close = false) (hcomma : close ≠ ',')
    (hgap : IsGap gap) (htrail : IsGap trail) (hx : ReadsBack item (text x) x)
    (hxs : ∀ y ∈ xs, ReadsBack item (text y) y) {before : List Char} (hbefore : IsGap before)
    {limit : Nat} (hlimit : xs.length < limit) (rest : List Char) :
    separated item close limit (before ++ (text x ++
        (xs.flatMap (fun y => ',' :: (gap ++ text y)) ++ (trail ++ close :: rest)))) =
      some (x :: xs, rest) := by
  -- the limit drops by one with each item, so it covers the items that are left
  induction xs generalizing x before limit with
  | nil =>
    cases limit with
    | zero => cases hlimit
    | succ limit => simp [separated, hx before hbefore, skipSpace_append htrail hclose]
  | cons y ys ih =>
    cases limit with
    | zero => cases hlimit
    | succ limit =>
      have hrest := ih (hxs y List.mem_cons_self) (fun z hz => hxs z (List.mem_cons_of_mem _ hz))
        hgap (Nat.lt_of_succ_lt_succ hlimit)
      have hskip (r : List Char) : skipSpace (',' :: r) = ',' :: r := skipSpace_cons rfl r
      rw [separated]
      simp [hx before hbefore, hskip, hrest]

/-- A sequence without items is read back. -/
theorem itemsUpTo_close (hclose : isSpace close = false) (rest : List Char) :
    itemsUpTo item close (close :: rest) = some ([], rest) := by
  simp [itemsUpTo, skipSpace_cons hclose]

/-- Each item takes a character at least. -/
theorem length_le_length_flatMap (xs : List α) (text : α → List Char) :
    xs.length ≤ (xs.flatMap fun y => ',' :: text y).length := by
  induction xs with
  | nil => exact Nat.le_refl 0
  | cons y ys ih =>
    simp only [List.flatMap_cons, List.length_append, List.length_cons]
    omega

/-- A sequence of items is read back up to its closing character. -/
theorem itemsUpTo_append (hclose : isSpace close = false) (hcomma : close ≠ ',')
    (hgap : IsGap gap) (htrail : IsGap trail)
    (hstart : ∃ c cs, text x = c :: cs ∧ isSpace c = false ∧ c ≠ close)
    (hxs : ∀ y ∈ x :: xs, ReadsBack item (text y) y) (rest : List Char) :
    itemsUpTo item close (gap ++ (text x ++
        (xs.flatMap (fun y => ',' :: (gap ++ text y)) ++ (trail ++ close :: rest)))) =
      some (x :: xs, rest) := by
  obtain ⟨c, cs, htext, hc, hne⟩ := hstart
  have hread (limit : Nat) (hlimit : xs.length < limit) :=
    separated_append hclose hcomma hgap htrail (hxs x List.mem_cons_self)
      (fun y hy => hxs y (List.mem_cons_of_mem _ hy)) isGap_nil hlimit rest
  rw [htext] at hread ⊢
  rw [itemsUpTo, List.cons_append, skipSpace_append hgap hc]
  simp only [if_neg hne]
  refine hread _ ?_
  have hlength := length_le_length_flatMap xs fun y => gap ++ text y
  simp only [List.length_cons, List.length_append]
  omega

end Sequences

/-! ## Documents -/

/-- Documents without numbers whose objects have ascending members and whose arrays and objects
nest to a given depth. -/
inductive Plain : Nat → Json → Prop where
  /-- Null. -/
  | null : Plain depth null
  /-- A truth value. -/
  | bool (b : Bool) : Plain depth (bool b)
  /-- A text. -/
  | string (s : String) : Plain depth (string s)
  /-- A sequence of values that nest one level less. -/
  | array {items : List Json} (h : ∀ v ∈ items, Plain depth v) : Plain (depth + 1) (array items)
  /-- Ascending members whose values nest one level less. -/
  | object {members : List (String × Json)} (hascending : Entries.Ascending members)
      (h : ∀ m ∈ members, Plain depth m.2) : Plain (depth + 1) (object members)

/-- The characters of a member. -/
def memberText (layout : Layout) (level : Nat) (m : String × Json) : List Char :=
  stringChars m.1 ++ (layout.colon ++ chars layout level m.2)

/-- The items after the first one stand after a comma each. -/
theorem itemChars_eq (layout : Layout) (level : Nat) (items : List Json) :
    itemChars layout level items =
      items.flatMap fun v => ',' :: (layout.gap level ++ chars layout level v) := by
  induction items with
  | nil => rw [itemChars, List.flatMap_nil]
  | cons v vs ih => simp [itemChars, ih]

/-- The members after the first one stand after a comma each. -/
theorem memberChars_eq (layout : Layout) (level : Nat) (members : List (String × Json)) :
    memberChars layout level members =
      members.flatMap fun m => ',' :: (layout.gap level ++ memberText layout level m) := by
  induction members with
  | nil => rw [memberChars, List.flatMap_nil]
  | cons m ms ih => simp [memberChars, ih, memberText]

/-- A plain document starts with a character that is neither white space nor closes an array. -/
theorem Plain.exists_chars_eq {depth : Nat} {v : Json} (h : Plain depth v) (layout : Layout)
    (level : Nat) :
    ∃ c cs, chars layout level v = c :: cs ∧ isSpace c = false ∧ c ≠ ']' := by
  cases h with
  | null => exact ⟨_, _, by rw [chars], rfl, by decide⟩
  | bool b => cases b <;> exact ⟨_, _, by rw [chars], rfl, by decide⟩
  | string s => exact ⟨_, _, by rw [chars, stringChars], rfl, by decide⟩
  | @array _ items h => cases items <;> exact ⟨_, _, by rw [chars], rfl, by decide⟩
  | @object _ members _ h => cases members <;> exact ⟨_, _, by rw [chars], rfl, by decide⟩

section Values

variable {gap : List Char} (hgap : IsGap gap)

include hgap

/-- A value that starts like neither an array nor an object is read as a scalar. -/
theorem value_scalar {c : Char} (hspace : isSpace c = false) (harray : c ≠ '[')
    (hobject : c ≠ '\x7b') (depth : Nat) (r : List Char) :
    value depth (gap ++ c :: r) = scalar (c :: r) := by
  cases depth with
  | zero => simp only [value, skipSpace_append hgap hspace]
  | succ depth =>
    simp only [value, skipSpace_append hgap hspace]
    split
    · rename_i heq
      exact absurd (List.cons.inj heq).1 harray
    · rename_i heq
      exact absurd (List.cons.inj heq).1 hobject
    · rfl

/-- A bracket opens an array. -/
theorem value_bracket (depth : Nat) (r : List Char) :
    value (depth + 1) (gap ++ '[' :: r) =
      (itemsUpTo (value depth) ']' r).map fun x => (array x.1, x.2) := by
  simp only [value, skipSpace_append hgap (c := '[') rfl]

/-- A brace opens an object. -/
theorem value_brace (depth : Nat) (r : List Char) :
    value (depth + 1) (gap ++ '\x7b' :: r) =
      (itemsUpTo (member (value depth)) '\x7d' r).map fun x => (ofMembers x.1, x.2) := by
  simp only [value, skipSpace_append hgap (c := '\x7b') rfl]

end Values

/-- A member is read back if its value is. -/
theorem readsBack_memberText {depth : Nat} {layout : Layout} {level : Nat} {m : String × Json}
    (hvalue : ReadsBack (value depth) (chars layout level m.2) m.2) :
    ReadsBack (member (value depth)) (memberText layout level m) m := by
  intro gap hgap r
  obtain ⟨space, hcolon, hspace⟩ := exists_colon_eq layout
  have hkey : gap ++ (memberText layout level m ++ r) =
      gap ++ '"' :: (m.1.toList.flatMap escape ++
        '"' :: (':' :: (space ++ (chars layout level m.2 ++ r)))) := by
    simp [memberText, stringChars, hcolon]
  have hmark (cs : List Char) : skipSpace (':' :: cs) = ':' :: cs := skipSpace_cons rfl cs
  rw [hkey, member, skipSpace_append hgap rfl]
  simp [stringBody_flatMap_escape, hmark, hvalue space hspace, String.ofList_toList]

/-- A plain document is read back from its characters. -/
theorem Plain.readsBack {depth : Nat} {v : Json} (h : Plain depth v) (layout : Layout)
    (level : Nat) : ReadsBack (value depth) (chars layout level v) v := by
  induction h generalizing level with
  | null =>
    intro gap hgap r
    rw [chars]
    exact value_scalar hgap rfl (by decide) (by decide) _ _
  | bool b =>
    intro gap hgap r
    cases b <;> rw [chars] <;> exact value_scalar hgap rfl (by decide) (by decide) _ _
  | string s =>
    intro gap hgap r
    have hscalar := value_scalar hgap (c := '"') rfl (by decide) (by decide)
    rw [chars, stringChars, List.cons_append, hscalar, List.append_assoc, scalar,
      List.cons_append, List.nil_append, stringBody_flatMap_escape, Option.map_some,
      String.ofList_toList]
  | @array depth items h ih =>
    intro gap hgap r
    cases items with
    | nil =>
      rw [chars, List.cons_append, value_bracket hgap, List.cons_append, List.nil_append,
        itemsUpTo_close rfl, Option.map_some]
    | cons v vs =>
      have hstart := (h v List.mem_cons_self).exists_chars_eq layout (level + 1)
      have hclose : isSpace ']' = false := rfl
      have hread := itemsUpTo_append hclose (by decide) (isGap_gap layout (level + 1))
        (isGap_gap layout level) hstart (fun y hy => ih y hy (level + 1)) r
      rw [chars, itemChars_eq, List.cons_append, value_bracket hgap]
      simp only [List.append_assoc, List.cons_append, List.nil_append] at hread ⊢
      rw [hread, Option.map_some]
  | @object depth members hascending h ih =>
    intro gap hgap r
    cases members with
    | nil =>
      rw [chars, List.cons_append, value_brace hgap, List.cons_append, List.nil_append,
        itemsUpTo_close rfl, Option.map_some]
      rfl
    | cons m ms =>
      have hstart : ∃ c cs, memberText layout (level + 1) m = c :: cs ∧ isSpace c = false ∧
          c ≠ '\x7d' := ⟨_, _, rfl, rfl, by decide⟩
      have hclose : isSpace '\x7d' = false := rfl
      have hread := itemsUpTo_append hclose (by decide) (isGap_gap layout (level + 1))
        (isGap_gap layout level) hstart (fun y hy => readsBack_memberText (ih y hy (level + 1))) r
      have hsame : ofMembers (m :: ms) = Json.object (m :: ms) :=
        congrArg Json.object hascending.ofList_eq
      rw [chars, memberChars_eq, List.cons_append, value_brace hgap]
      simp only [memberText, List.append_assoc, List.cons_append, List.nil_append] at hread ⊢
      rw [hread, Option.map_some, hsame]

/-- A plain document is read back from its text and the line feed after it. -/
theorem read?_render {v : Json} (h : Plain depthLimit v) (layout : Layout) :
    read? (render layout v ++ "\n") = some v := by
  have hread := h.readsBack layout 0 [] isGap_nil ['\n']
  rw [List.nil_append] at hread
  rw [read?, readWithin?, String.toList_append, toList_render]
  have hfeed : "\n".toList = ['\n'] := rfl
  rw [hfeed, hread]
  rfl

end ProxyInbound.Json
