import ProxyInbound.Json

/-!
# Reading JSON text

The reader is strict: white space is space, tab, line feed and carriage return; a text holds no
raw control character and no lone surrogate; a number has no leading zero and digits after a point
and an exponent mark; nothing follows the document. Arrays and objects nest to a given depth, and
the reader recurses on that depth. A number too large for a double is refused.
-/

namespace ProxyInbound.Json.Reader

/-- A reading step: what was read and the characters after it, or nothing on a fault. -/
abbrev Step (α : Type) := List Char → Option (α × List Char)

/-- The four characters that may stand between tokens. -/
def isSpace (c : Char) : Bool :=
  c == ' ' || c == '\n' || c == '\t' || c == '\r'

/-- The characters after leading white space. -/
def skipSpace (cs : List Char) : List Char :=
  cs.dropWhile isSpace

/-- The value of a hexadecimal digit of either case. -/
def hexValue? (c : Char) : Option Nat :=
  if c.isDigit then some (c.toNat - '0'.toNat)
  else if 'a' ≤ c ∧ c ≤ 'f' then some (c.toNat - 'a'.toNat + 10)
  else if 'A' ≤ c ∧ c ≤ 'F' then some (c.toNat - 'A'.toNat + 10)
  else none

/-- The value of four hexadecimal digits. -/
def unit? (a b c d : Char) : Option Nat := do
  let a ← hexValue? a
  let b ← hexValue? b
  let c ← hexValue? c
  let d ← hexValue? d
  some (((a * 16 + b) * 16 + c) * 16 + d)

/-- Whether a 16-bit unit is the first half of a surrogate pair. -/
def isHighSurrogate (n : Nat) : Bool :=
  0xD800 ≤ n && n ≤ 0xDBFF

/-- Whether a 16-bit unit is the second half of a surrogate pair. -/
def isLowSurrogate (n : Nat) : Bool :=
  0xDC00 ≤ n && n ≤ 0xDFFF

/-- The character of a surrogate pair. -/
def pairChar (high low : Nat) : Char :=
  Char.ofNat ((high - 0xD800) * 0x400 + (low - 0xDC00) + 0x10000)

/-- The character that a one-letter escape stands for. -/
def shortEscape? : Char → Option Char
  | '"' => some '"'
  | '\\' => some '\\'
  | '/' => some '/'
  | 'b' => some '\x08'
  | 'f' => some '\x0c'
  | 'n' => some '\n'
  | 'r' => some '\r'
  | 't' => some '\t'
  | _ => none

/-- Put a character before a text that was read. -/
def consChar (c : Char) (rest : Option (List Char × List Char)) :
    Option (List Char × List Char) :=
  rest.map fun r => (c :: r.1, r.2)

/-- The characters of a text up to its closing quote. -/
def stringBody : Step (List Char)
  | [] => none
  | '"' :: r => some ([], r)
  | '\\' :: 'u' :: a :: b :: c :: d :: r =>
    match unit? a b c d with
    | none => none
    | some n =>
      if isHighSurrogate n then
        match r with
        | '\\' :: 'u' :: a :: b :: c :: d :: r =>
          match unit? a b c d with
          | none => none
          | some m => if isLowSurrogate m then consChar (pairChar n m) (stringBody r) else none
        | _ => none
      else if isLowSurrogate n then none
      else consChar (Char.ofNat n) (stringBody r)
  | '\\' :: c :: r =>
    match shortEscape? c with
    | none => none
    | some e => consChar e (stringBody r)
  | c :: r => if c = '\\' ∨ c.toNat < 32 then none else consChar c (stringBody r)

/-- The digits at the front. -/
def digits (cs : List Char) : List Char × List Char :=
  (cs.takeWhile Char.isDigit, cs.dropWhile Char.isDigit)

/-- At least one digit at the front. -/
def someDigits : Step (List Char) := fun cs =>
  match digits cs with
  | ([], _) => none
  | (ds, r) => some (ds, r)

/-- The digits before the point: a single zero, or digits that do not start with one. -/
def wholeDigits : Step (List Char)
  | '0' :: r =>
    match r with
    | c :: _ => if c.isDigit then none else some (['0'], r)
    | [] => some (['0'], r)
  | cs => someDigits cs

/-- The digits after a point, if a point follows. -/
def fractionDigits : Step (Option (List Char))
  | '.' :: r => (someDigits r).map fun x => (some x.1, x.2)
  | cs => some (none, cs)

/-- The exponent after its mark, if a mark follows. -/
def exponentPart : Step (Option Int)
  | c :: r =>
    if c = 'e' ∨ c = 'E' then
      match r with
      | '-' :: r => (someDigits r).map fun x => (some (-(Nat.ofDigitChars 10 x.1 0 : Int)), x.2)
      | '+' :: r => (someDigits r).map fun x => (some (Nat.ofDigitChars 10 x.1 0 : Int), x.2)
      | r => (someDigits r).map fun x => (some (Nat.ofDigitChars 10 x.1 0 : Int), x.2)
    else some (none, c :: r)
  | [] => some (none, [])

/-- Append a digit to a significand of 64 bits, if it still fits. -/
def appendDigit? (significand : Nat) (c : Char) : Option Nat :=
  let next := significand * 10 + (c.toNat - '0'.toNat)
  if next < UInt64.size then some next else none

/-- Take digits before the point into the significand. From the first one that does not fit on,
each raises the exponent by one instead. -/
def takeWhole (significand : Nat) : List Char → Nat × Nat
  | [] => (significand, 0)
  | c :: r =>
    match appendDigit? significand c with
    | some next => takeWhole next r
    | none => (significand, r.length + 1)

/-- Take digits after the point into the significand, each lowering the exponent by one. From the
first one that does not fit on, they are left out. -/
def takeFraction (significand : Nat) : List Char → Nat × Nat
  | [] => (significand, 0)
  | c :: r =>
    match appendDigit? significand c with
    | some next => let (s, lowered) := takeFraction next r; (s, lowered + 1)
    | none => (significand, 0)

/-- The double of a numeral, unless it is too large. -/
def double? (negative : Bool) (whole fraction : List Char) (exponent : Int) : Option Number :=
  let (significand, raised) := takeWhole 0 whole
  let (significand, lowered) := takeFraction significand fraction
  (Magnitude.ofDecimal? significand (raised - lowered + exponent)).map fun m =>
    .double ⟨negative, m⟩

/-- The integer of a numeral without point and exponent, if it fits. Minus zero is no integer. -/
def integer? (negative : Bool) (whole : List Char) : Option Number :=
  let n := Nat.ofDigitChars 10 whole 0
  if negative then
    if n ≠ 0 ∧ n ≤ 0x8000000000000000 then some (.integer (-(n : Int))) else none
  else if n < UInt64.size then some (.integer n)
  else none

/-- The number that the parts of a numeral make. -/
def assemble (negative : Bool) (whole : List Char) (fraction : Option (List Char))
    (exponent : Option Int) : Option Number :=
  match fraction, exponent with
  | none, none => (integer? negative whole).or (double? negative whole [] 0)
  | fraction, exponent => double? negative whole (fraction.getD []) (exponent.getD 0)

/-- A number without its sign. -/
def unsignedNumber (negative : Bool) : Step Number := fun cs => do
  let (whole, r) ← wholeDigits cs
  let (fraction, r) ← fractionDigits r
  let (exponent, r) ← exponentPart r
  let n ← assemble negative whole fraction exponent
  some (n, r)

/-- A value that is neither an array nor an object. -/
def scalar : Step Json
  | '"' :: r => (stringBody r).map fun x => (string (String.ofList x.1), x.2)
  | '-' :: r => (unsignedNumber true r).map fun x => (number x.1, x.2)
  | 'n' :: 'u' :: 'l' :: 'l' :: r => some (null, r)
  | 't' :: 'r' :: 'u' :: 'e' :: r => some (bool true, r)
  | 'f' :: 'a' :: 'l' :: 's' :: 'e' :: r => some (bool false, r)
  | cs => (unsignedNumber false cs).map fun x => (number x.1, x.2)

/-- Items between commas up to the closing character, at least one and at most `limit` many. -/
def separated (item : Step α) (close : Char) : (limit : Nat) → Step (List α)
  | 0 => fun _ => none
  | limit + 1 => fun cs => do
    let (v, r) ← item cs
    match skipSpace r with
    | ',' :: r =>
      let (vs, r) ← separated item close limit r
      some (v :: vs, r)
    | c :: r => if c = close then some ([v], r) else none
    | [] => none

/-- Items between commas up to the closing character, possibly none. Each takes a character at
least, which bounds their number. -/
def itemsUpTo (item : Step α) (close : Char) : Step (List α) := fun cs =>
  match skipSpace cs with
  | c :: r => if c = close then some ([], r) else separated item close (c :: r).length (c :: r)
  | [] => none

/-- A key, a colon and a value. -/
def member (item : Step Json) : Step (String × Json) := fun cs =>
  match skipSpace cs with
  | '"' :: r => do
    let (key, r) ← stringBody r
    match skipSpace r with
    | ':' :: r =>
      let (v, r) ← item r
      some ((String.ofList key, v), r)
    | _ => none
  | _ => none

/-- A value in which arrays and objects nest to the given depth. -/
def value : (depth : Nat) → Step Json
  | 0 => fun cs => scalar (skipSpace cs)
  | depth + 1 => fun cs =>
    match skipSpace cs with
    | '[' :: r => (itemsUpTo (value depth) ']' r).map fun x => (array x.1, x.2)
    | '\x7b' :: r =>
      (itemsUpTo (member (value depth)) '\x7d' r).map fun x => (ofMembers x.1, x.2)
    | cs => scalar cs

/-- The depth to which documents may nest. -/
def depthLimit : Nat := 127

/-- The document that a text holds and nothing else, nesting to the given depth. -/
def readWithin? (depth : Nat) (text : String) : Option Json :=
  match value depth text.toList with
  | some (v, r) => if (skipSpace r).isEmpty then some v else none
  | none => none

/-- The document that a text holds. -/
def read? (text : String) : Option Json :=
  readWithin? depthLimit text

end ProxyInbound.Json.Reader
