import ProxyInbound.Json
import ProxyInbound.Proofs.Text.Trimming

/-!
# Numerals written by the library

A word is written as a run of digits, with a minus sign before the negative ones. Such a text has
no white space and reads back as the word, so a text reads and writes back as itself exactly when
it was written from a word. The text of any number, a double's among them, has something in it that
no name and no blank text has.
-/

namespace ProxyInbound.Text.Numeral

open White

/-- No digit is white space. -/
theorem isWhite_of_isDigit {c : Char} (h : c.isDigit = true) : isWhite c = false := by
  rw [Char.isDigit_iff_toNat] at h
  have hlo : 48 ≤ c.toNat := h.1
  have hhi : c.toNat ≤ 57 := h.2
  simp only [isWhite, Bool.or_eq_false_iff, Bool.and_eq_false_iff, decide_eq_false_iff_not,
    beq_eq_false_iff_ne]
  omega

/-- A run of digits that is not empty starts with a digit. -/
theorem toDigits_eq_cons (n : Nat) :
    ∃ c r, Nat.toDigits 10 n = c :: r ∧ c.isDigit = true := by
  obtain ⟨c, r, h⟩ := List.exists_cons_of_ne_nil (Nat.toDigits_ne_nil (n := n) (b := 10))
  refine ⟨c, r, h, Nat.isDigit_of_mem_toDigits (b := 10) (n := n) (by decide) (by decide) ?_⟩
  rw [h]
  exact List.mem_cons_self

/-- A natural number is read back from its digits where a sign could stand. -/
theorem natural?_toDigits (n : Nat) : natural? (Nat.toDigits 10 n) = some n := by
  obtain ⟨c, r, h, hc⟩ := toDigits_eq_cons n
  have hplus : c ≠ '+' := by rintro rfl; cases hc
  have hread := digits?_toDigits n
  rw [h] at hread ⊢
  rw [natural?, hread]
  intro r' he
  exact hplus (List.cons.inj he).1

/-- An integer is read back from its text. -/
theorem integer?_decimalInt (i : Int) : integer? (decimalInt i).toList = some i := by
  cases i with
  | ofNat n =>
    obtain ⟨c, r, h, hc⟩ := toDigits_eq_cons n
    have hminus : c ≠ '-' := by rintro rfl; cases hc
    have hread := natural?_toDigits n
    rw [decimalInt, decimalNat, String.toList_ofList]
    rw [h] at hread ⊢
    rw [integer?, hread]
    · rfl
    · intro r' he
      exact hminus (List.cons.inj he).1
  | negSucc n =>
    rw [decimalInt, String.toList_ofList, integer?, digits?_toDigits]
    rfl

/-- No white space is in the text of an integer. -/
theorem isWhite_of_mem_decimalInt {i : Int} {c : Char} (h : c ∈ (decimalInt i).toList) :
    isWhite c = false := by
  have digit (n : Nat) (hc : c ∈ Nat.toDigits 10 n) : isWhite c = false :=
    isWhite_of_isDigit (Nat.isDigit_of_mem_toDigits (by decide) (by decide) hc)
  cases i with
  | ofNat n =>
    rw [decimalInt, decimalNat, String.toList_ofList] at h
    exact digit n h
  | negSucc n =>
    rw [decimalInt, String.toList_ofList] at h
    rcases List.mem_cons.mp h with rfl | h
    · rfl
    · exact digit (n + 1) h

/-- The text of an integer is trimmed. -/
theorem trimChars_decimalInt (i : Int) :
    trimChars (decimalInt i).toList = (decimalInt i).toList :=
  trimChars_eq_self fun _ => isWhite_of_mem_decimalInt

/-- The text of a word is that of the number it holds. -/
theorem unsignedText_eq_decimalInt (w : UInt64) : unsignedText w = decimalInt w.toNat := rfl

/-- A word is read back from its text. -/
@[simp] theorem unsigned?_unsignedText (w : UInt64) : unsigned? (unsignedText w) = some w := by
  have htrim := trimChars_decimalInt w.toNat
  rw [← unsignedText_eq_decimalInt] at htrim
  rw [unsigned?, htrim, unsignedText, decimalNat, String.toList_ofList, natural?_toDigits,
    Option.bind_some, word?_toNat]

/-- A signed word is read back from its text. -/
@[simp] theorem signed?_signedText (w : Int64) : signed? (signedText w) = some w := by
  rw [signed?, signedText, trimChars_decimalInt, integer?_decimalInt, Option.bind_some,
    signedWord?_toInt]

/-- The text of a word is trimmed. -/
@[simp] theorem trim_unsignedText (w : UInt64) : trim (unsignedText w) = unsignedText w := by
  rw [← String.toList_inj, toList_trim, unsignedText_eq_decimalInt, trimChars_decimalInt]

/-- A numeral is read without the white space around it. -/
@[simp] theorem unsigned?_trim (s : String) : unsigned? (trim s) = unsigned? s := by
  rw [unsigned?, unsigned?, toList_trim, trimChars_trimChars]

/-- The text of a word is not empty. -/
theorem unsignedText_ne_empty (w : UInt64) : unsignedText w ≠ "" := by
  intro h
  have hread := unsigned?_unsignedText w
  rw [h] at hread
  cases hread

/-- The text of a word is not blank. -/
theorem blank_unsignedText (w : UInt64) : blank (unsignedText w) = false :=
  (blank_eq_false_iff_of_trim (trim_unsignedText w)).mpr (unsignedText_ne_empty w)

/-- An empty text holds no numeral. -/
@[simp] theorem unsigned?_empty : unsigned? "" = none := rfl

/-! ## Numbers -/

/-- The text of a magnitude has a point or the sign of an exponent in it. -/
theorem exists_mem_magnitudeChars (m : Magnitude) :
    ∃ c ∈ Double.magnitudeChars m, c = '.' ∨ c = '+' ∨ c = '-' := by
  unfold Double.magnitudeChars
  split
  · exact ⟨'.', by decide, Or.inl rfl⟩
  · dsimp only
    split
    · refine ⟨'.', ?_, Or.inl rfl⟩
      unfold Double.positional
      split <;> simp
    · refine ⟨if 0 ≤ (Double.shortest m).exponent then '+' else '-', ?_, ?_⟩
      · simp [Double.exponential]
      · split <;> simp

/-- In the text of a number stands a digit, a point or a sign, which is neither a letter nor white
space. -/
theorem exists_mem_text (n : Number) :
    ∃ c ∈ n.text.toList, c.toNat < 'A'.toNat ∧ isWhite c = false := by
  cases n with
  | integer i =>
    have hdigit (n : Nat) : ∃ c ∈ Nat.toDigits 10 n, c.toNat < 'A'.toNat ∧ isWhite c = false := by
      obtain ⟨c, r, h, hc⟩ := toDigits_eq_cons n
      have hlast : c.toNat ≤ '9'.toNat := (Char.isDigit_iff_toNat.mp hc).2
      exact ⟨c, h ▸ List.mem_cons_self, hlast.trans_lt (by decide), isWhite_of_isDigit hc⟩
    cases i with
    | ofNat n =>
      obtain ⟨c, hmem, hc⟩ := hdigit n
      exact ⟨c, by rwa [Number.text, decimalInt, decimalNat, String.toList_ofList], hc⟩
    | negSucc n =>
      obtain ⟨c, hmem, hc⟩ := hdigit (n + 1)
      refine ⟨c, ?_, hc⟩
      rw [Number.text, decimalInt, String.toList_ofList]
      exact List.mem_cons_of_mem _ hmem
  | double d =>
    obtain ⟨c, hmem, hmark⟩ := exists_mem_magnitudeChars d.magnitude
    refine ⟨c, ?_, ?_⟩
    · rw [Number.text, Double.text, String.toList_ofList]
      exact List.mem_append_right _ hmem
    · rcases hmark with rfl | rfl | rfl <;> decide

/-- The text of a number is not blank. -/
theorem blank_numberText (n : Number) : blank n.text = false := by
  obtain ⟨c, hmem, -, hc⟩ := exists_mem_text n
  exact blank_eq_false_of_mem hmem hc

end ProxyInbound.Text.Numeral
