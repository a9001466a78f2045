import ProxyInbound.Text.Basic

/-!
# Numerals in text fields

A numeral is an optional sign followed by decimal digits, leading zeros allowed, with white space
around it. Unsigned numerals take `+` only and hold 64 bits; signed ones take `+` or `-` and hold
the two's complement range. Any other text is no numeral. A number is written back as its
shortest decimal text.
-/

namespace ProxyInbound.Text.Numeral

open White

/-- The value of a non-empty run of ASCII digits, refused if another character occurs. -/
def digits? (cs : List Char) : Option Nat :=
  if cs ≠ [] ∧ cs.all Char.isDigit then some (Nat.ofDigitChars 10 cs 0) else none

/-- Digits after an optional plus sign. -/
def natural? : List Char → Option Nat
  | '+' :: r => digits? r
  | cs => digits? cs

/-- Digits after an optional sign. -/
def integer? : List Char → Option Int
  | '-' :: r => (digits? r).map (fun n => -(n : Int))
  | cs => (natural? cs).map Int.ofNat

/-- A natural number that fits 64 bits. -/
def word? (n : Nat) : Option UInt64 :=
  if n < UInt64.size then some (UInt64.ofNat n) else none

/-- An integer in the two's complement range of 64 bits. -/
def signedWord? (i : Int) : Option Int64 :=
  if -0x8000000000000000 ≤ i ∧ i < 0x8000000000000000 then some (Int64.ofInt i) else none

/-- The unsigned numeral that a text holds, white space around it ignored. -/
def unsigned? (s : String) : Option UInt64 :=
  (natural? (trimChars s.toList)).bind word?

/-- The signed numeral that a text holds, white space around it ignored. -/
def signed? (s : String) : Option Int64 :=
  (integer? (trimChars s.toList)).bind signedWord?

/-- The decimal text of a natural number. -/
def decimalNat (n : Nat) : String :=
  String.ofList (Nat.toDigits 10 n)

/-- The decimal text of an integer, a minus sign before the negative ones. -/
def decimalInt : Int → String
  | .ofNat n => decimalNat n
  | .negSucc n => String.ofList ('-' :: Nat.toDigits 10 (n + 1))

/-- The decimal text of an unsigned word. -/
def unsignedText (w : UInt64) : String :=
  decimalNat w.toNat

/-- The decimal text of a signed word. -/
def signedText (w : Int64) : String :=
  decimalInt w.toInt

/-- The digits of a natural number read back as that number. -/
theorem digits?_toDigits (n : Nat) : digits? (Nat.toDigits 10 n) = some n := by
  have hd : (Nat.toDigits 10 n).all Char.isDigit = true := by
    rw [List.all_eq_true]
    intro c hc
    exact Nat.isDigit_of_mem_toDigits (by decide) (by decide) hc
  have hn : Nat.toDigits 10 n ≠ [] := Nat.toDigits_ne_nil
  rw [digits?, if_pos ⟨hn, hd⟩, Nat.ofDigitChars_ten_toDigits]

/-- A word is the number it holds. -/
@[simp] theorem word?_toNat (w : UInt64) : word? w.toNat = some w := by
  rw [word?, if_pos w.toNat_lt, UInt64.ofNat_toNat]

/-- A signed word is the integer it holds. -/
@[simp] theorem signedWord?_toInt (w : Int64) : signedWord? w.toInt = some w := by
  have hl := w.le_toInt
  have hu := w.toInt_lt
  rw [signedWord?, if_pos ⟨hl, hu⟩, Int64.ofInt_toInt]

end ProxyInbound.Text.Numeral
