import Mathlib.Tactic.Ring
import ProxyInbound.Proofs.Text.Numerals

/-!
# The grammar of numerals

A numeral is a run of digits with at most one sign before it, and only a signed one takes a minus
sign. It spells the number that its digits make by their places, and a text denotes that number if
it fits a word of 64 bits. What is read from a text is the number that it denotes, and nothing is
read from a text that denotes none.
-/

namespace ProxyInbound.Text.Numeral

open White

/-- The number that digits make, each worth ten times as much as the one after it. -/
def placeValue : List Char → Nat
  | [] => 0
  | c :: r => (c.toNat - '0'.toNat) * 10 ^ r.length + placeValue r

/-- One decimal digit or several. -/
structure IsRun (ds : List Char) : Prop where
  /-- There is a digit. -/
  nonempty : ds ≠ []
  /-- There is nothing but digits. -/
  digits : ∀ c ∈ ds, '0' ≤ c ∧ c ≤ '9'

/-- How the words are written that numerals are read as. -/
inductive Kind where
  /-- Without a minus sign. -/
  | unsigned
  /-- With a minus sign before the negative ones. -/
  | signed
  deriving DecidableEq, Repr

/-- What a numeral of a kind spells, whatever its size. -/
inductive Spells : Kind → List Char → Int → Prop
  /-- Digits alone. -/
  | plain {kind : Kind} {ds : List Char} (h : IsRun ds) : Spells kind ds (placeValue ds)
  /-- Digits after a plus sign. -/
  | plus {kind : Kind} {ds : List Char} (h : IsRun ds) : Spells kind ('+' :: ds) (placeValue ds)
  /-- Digits after a minus sign. -/
  | minus {ds : List Char} (h : IsRun ds) : Spells .signed ('-' :: ds) (-placeValue ds)

namespace Kind

/-- A number that fits a word. -/
def Fits : Kind → Int → Prop
  | unsigned, n => 0 ≤ n ∧ n ≤ 2 ^ 64 - 1
  | signed, n => -2 ^ 63 ≤ n ∧ n ≤ 2 ^ 63 - 1

/-- The number that a text denotes, white space around its numeral ignored. -/
structure Denotes (kind : Kind) (s : String) (n : Int) : Prop where
  /-- The trimmed text is a numeral of the number. -/
  spells : Spells kind (trim s).toList n
  /-- The number fits a word. -/
  fits : kind.Fits n

/-- The number that is read from a text. -/
def read? : Kind → String → Option Int
  | unsigned, s => (unsigned? s).map fun w => w.toNat
  | signed, s => (signed? s).map Int64.toInt

end Kind

/-! ## Words -/

/-- The numbers that fit an unsigned word are those of the unsigned words. -/
theorem Kind.fits_unsigned_iff {n : Int} : unsigned.Fits n ↔ ∃ w : UInt64, (w.toNat : Int) = n := by
  constructor
  · rintro ⟨hlow, hhigh⟩
    obtain ⟨m, rfl⟩ := Int.eq_ofNat_of_zero_le hlow
    have hm : m < 2 ^ 64 := by omega
    exact ⟨UInt64.ofNat m, by rw [UInt64.toNat_ofNat_of_lt' hm]⟩
  · rintro ⟨w, rfl⟩
    have hw := w.toNat_lt
    exact ⟨Int.natCast_nonneg _, by omega⟩

/-- The numbers that fit a signed word are those of the signed words. -/
theorem Kind.fits_signed_iff {n : Int} : signed.Fits n ↔ ∃ w : Int64, w.toInt = n := by
  constructor
  · rintro ⟨hlow, hhigh⟩
    exact ⟨Int64.ofInt n, Int64.toInt_ofInt_of_le hlow (by omega)⟩
  · rintro ⟨w, rfl⟩
    have hw := w.toInt_lt
    exact ⟨w.le_toInt, by omega⟩

/-- The word that a number is has this number. -/
theorem toNat_of_word? {n : Nat} {w : UInt64} (h : word? n = some w) : w.toNat = n := by
  unfold word? at h
  split at h <;> rename_i hn
  · obtain rfl := Option.some.inj h
    exact UInt64.toNat_ofNat_of_lt' hn
  · cases h

/-- The signed word that a number is has this number. -/
theorem toInt_of_signedWord? {i : Int} {w : Int64} (h : signedWord? i = some w) : w.toInt = i := by
  unfold signedWord? at h
  split at h <;> rename_i hi
  · obtain rfl := Option.some.inj h
    exact Int64.toInt_ofInt_of_le hi.1 hi.2
  · cases h

/-! ## Digits -/

/-- Digits that are read after a number count by their places beside it. -/
theorem ofDigitChars_eq_placeValue (ds : List Char) (before : Nat) :
    Nat.ofDigitChars 10 ds before = before * 10 ^ ds.length + placeValue ds := by
  induction ds generalizing before with
  | nil => simp [Nat.ofDigitChars, placeValue]
  | cons c r ih =>
    rw [Nat.ofDigitChars_cons, ih, placeValue, List.length_cons]
    ring

/-- Digits are read exactly from a run, as the number that they make. -/
theorem digits?_eq_some_iff {ds : List Char} {n : Nat} :
    digits? ds = some n ↔ IsRun ds ∧ placeValue ds = n := by
  have hrun : (ds ≠ [] ∧ ds.all Char.isDigit = true) ↔ IsRun ds := by
    rw [List.all_eq_true]
    constructor
    · rintro ⟨hne, hall⟩
      exact ⟨hne, fun c hc => Char.isDigit_iff_toNat.mp (hall c hc)⟩
    · rintro ⟨hne, hall⟩
      exact ⟨hne, fun c hc => Char.isDigit_iff_toNat.mpr (hall c hc)⟩
  have hvalue : Nat.ofDigitChars 10 ds 0 = placeValue ds := by
    rw [ofDigitChars_eq_placeValue, Nat.zero_mul, Nat.zero_add]
  rw [digits?, hvalue]
  split <;> rename_i h
  · simp [hrun.mp h]
  · simp [mt hrun.mpr h]

/-- A run starts with no sign. -/
theorem IsRun.ne_sign {c : Char} {r : List Char} (h : IsRun (c :: r)) : c ≠ '+' ∧ c ≠ '-' := by
  obtain ⟨hlow, -⟩ := h.digits c List.mem_cons_self
  constructor <;> rintro rfl <;> exact absurd hlow (by decide)

/-- A run is read as digits where a sign could stand. -/
theorem IsRun.natural?_eq {ds : List Char} (h : IsRun ds) : natural? ds = digits? ds := by
  cases ds with
  | nil => rfl
  | cons c r =>
    rw [natural?]
    intro r' he
    exact h.ne_sign.1 (List.cons.inj he).1

/-- A run is read as a number without a minus sign where one could stand. -/
theorem IsRun.integer?_eq {ds : List Char} (h : IsRun ds) :
    integer? ds = (natural? ds).map Int.ofNat := by
  cases ds with
  | nil => rfl
  | cons c r =>
    rw [integer?]
    intro r' he
    exact h.ne_sign.2 (List.cons.inj he).1

/-! ## Signs -/

/-- A number without a minus sign is read exactly from its numerals. -/
theorem natural?_eq_some_iff {cs : List Char} {n : Nat} :
    natural? cs = some n ↔ Spells .unsigned cs n := by
  constructor
  · intro h
    unfold natural? at h
    split at h
    · obtain ⟨hrun, rfl⟩ := digits?_eq_some_iff.mp h
      exact .plus hrun
    · obtain ⟨hrun, rfl⟩ := digits?_eq_some_iff.mp h
      exact .plain hrun
  · intro h
    generalize hi : (n : Int) = i at h
    cases h with
    | plain hrun =>
      rw [hrun.natural?_eq]
      exact digits?_eq_some_iff.mpr ⟨hrun, (Int.ofNat.inj hi).symm⟩
    | plus hrun =>
      exact digits?_eq_some_iff.mpr ⟨hrun, (Int.ofNat.inj hi).symm⟩

/-- A numeral without a minus sign is one where minus signs are taken. -/
theorem Spells.signed {cs : List Char} {i : Int} (h : Spells .unsigned cs i) :
    Spells .signed cs i := by
  cases h with
  | plain hrun => exact .plain hrun
  | plus hrun => exact .plus hrun

/-- Digits after a minus sign are read as a negative number. -/
theorem integer?_minus (ds : List Char) :
    integer? ('-' :: ds) = Option.map (fun n : Nat => -(n : Int)) (digits? ds) := by
  rw [integer?]
  cases digits? ds <;> rfl

/-- A number is read exactly from its numerals where minus signs are taken. -/
theorem integer?_eq_some_iff {cs : List Char} {i : Int} :
    integer? cs = some i ↔ Spells .signed cs i := by
  constructor
  · intro h
    unfold integer? at h
    split at h
    · rw [← integer?.eq_1, integer?_minus] at h
      obtain ⟨n, hn, rfl⟩ := Option.map_eq_some_iff.mp h
      obtain ⟨hrun, rfl⟩ := digits?_eq_some_iff.mp hn
      exact .minus hrun
    · obtain ⟨n, hn, rfl⟩ := Option.map_eq_some_iff.mp h
      exact (natural?_eq_some_iff.mp hn).signed
  · intro h
    cases h with
    | plain hrun =>
      rw [hrun.integer?_eq, natural?_eq_some_iff.mpr (.plain hrun)]
      rfl
    | @plus _ ds hrun =>
      have hread : natural? ('+' :: ds) = some (placeValue ds) :=
        natural?_eq_some_iff.mpr (.plus hrun)
      exact congrArg (Option.map Int.ofNat) hread
    | @minus ds hrun =>
      rw [integer?_minus, digits?_eq_some_iff.mpr ⟨hrun, rfl⟩, Option.map_some]

/-! ## Texts -/

/-- What is read from a text is exactly the number that it denotes. -/
theorem Kind.read?_eq_some_iff {kind : Kind} {s : String} {n : Int} :
    kind.read? s = some n ↔ kind.Denotes s n := by
  cases kind with
  | unsigned =>
    constructor
    · intro h
      obtain ⟨w, hw, rfl⟩ := Option.map_eq_some_iff.mp h
      obtain ⟨m, hm, hword⟩ := Option.bind_eq_some_iff.mp hw
      obtain rfl := toNat_of_word? hword
      refine ⟨?_, fits_unsigned_iff.mpr ⟨w, rfl⟩⟩
      rw [toList_trim]
      exact natural?_eq_some_iff.mp hm
    · rintro ⟨hspells, hfits⟩
      obtain ⟨w, rfl⟩ := fits_unsigned_iff.mp hfits
      rw [toList_trim] at hspells
      rw [read?, unsigned?, natural?_eq_some_iff.mpr hspells, Option.bind_some, word?_toNat,
        Option.map_some]
  | signed =>
    constructor
    · intro h
      obtain ⟨w, hw, rfl⟩ := Option.map_eq_some_iff.mp h
      obtain ⟨i, hi, hword⟩ := Option.bind_eq_some_iff.mp hw
      obtain rfl := toInt_of_signedWord? hword
      refine ⟨?_, fits_signed_iff.mpr ⟨w, rfl⟩⟩
      rw [toList_trim]
      exact integer?_eq_some_iff.mp hi
    · rintro ⟨hspells, hfits⟩
      obtain ⟨w, rfl⟩ := fits_signed_iff.mp hfits
      rw [toList_trim] at hspells
      rw [read?, signed?, integer?_eq_some_iff.mpr hspells, Option.bind_some, signedWord?_toInt,
        Option.map_some]

/-- Nothing is read exactly from a text that denotes no number. -/
theorem Kind.read?_eq_none_iff {kind : Kind} {s : String} :
    kind.read? s = none ↔ ∀ n, ¬ kind.Denotes s n := by
  rw [Option.eq_none_iff_forall_ne_some]
  simp only [ne_eq, read?_eq_some_iff]

/-- A blank text denotes no number. -/
theorem Kind.Denotes.not_blank {kind : Kind} {s : String} {n : Int} (h : kind.Denotes s n) :
    blank s = false := by
  rw [← Bool.not_eq_true]
  intro hblank
  have hspells := h.spells
  rw [(blank_iff_trim s).mp hblank, String.toList_empty] at hspells
  cases hspells with
  | plain hrun => exact hrun.nonempty rfl

/-- A number that fits is read from its decimal text. -/
theorem Kind.read?_decimalInt {kind : Kind} {n : Int} (h : kind.Fits n) :
    kind.read? (decimalInt n) = some n := by
  cases kind with
  | unsigned =>
    obtain ⟨w, rfl⟩ := fits_unsigned_iff.mp h
    rw [read?, ← unsignedText_eq_decimalInt, unsigned?_unsignedText, Option.map_some]
  | signed =>
    obtain ⟨w, rfl⟩ := fits_signed_iff.mp h
    rw [read?, ← signedText, signed?_signedText, Option.map_some]

end ProxyInbound.Text.Numeral
