/-!
# Texts

White space is the Unicode property `White_Space`. Text is trimmed at both ends by it, and text
that holds nothing else is blank. A blank text stands for an absent value wherever a field is
optional.

Names of HTTP headers are the same if they differ in the case of ASCII letters only.

A field with several values is edited as one text: one value a line, commas accepted too. The
parts of a text are its pieces between separators, trimmed, the empty ones dropped; joining puts
one value on each line. Lines of certificates are parts between line feeds only, so that a comma
stays inside its line.
-/

/-! ## White space -/

namespace ProxyInbound.Text.White

/-- The characters with the Unicode property `White_Space`. -/
def isWhite (c : Char) : Bool :=
  let n := c.toNat
  (0x9 ≤ n && n ≤ 0xD) || n == 0x20 || n == 0x85 || n == 0xA0 || n == 0x1680 ||
    (0x2000 ≤ n && n ≤ 0x200A) || n == 0x2028 || n == 0x2029 || n == 0x202F ||
    n == 0x205F || n == 0x3000

/-- A list of characters without the white space at its two ends. -/
def trimChars (cs : List Char) : List Char :=
  ((cs.dropWhile isWhite).reverse.dropWhile isWhite).reverse

/-- A text without the white space at its two ends. -/
def trim (s : String) : String :=
  String.ofList (trimChars s.toList)

/-- The characters of a trimmed text. -/
@[simp] theorem toList_trim (s : String) : (trim s).toList = trimChars s.toList :=
  String.toList_ofList

/-- A text that holds white space only, the empty text included. -/
def blank (s : String) : Bool :=
  s.toList.all isWhite

/-- The text itself unless it is blank. -/
def nonBlank? (s : String) : Option String :=
  if blank s then none else some s

/-- A text is kept, unchanged, exactly when it is not blank. -/
theorem nonBlank?_eq_some_iff {s t : String} :
    nonBlank? s = some t ↔ blank s = false ∧ t = s := by
  unfold nonBlank?
  cases h : blank s <;> simp [eq_comm]

/-- An optional text without the blank ones. -/
def keepNonBlank (s : Option String) : Option String :=
  s.bind nonBlank?

/-- An absent text and a blank one are alike empty. -/
def blankOpt (s : Option String) : Bool :=
  s.all blank

/-- Nothing is kept of an optional text exactly when it is absent or blank. -/
theorem keepNonBlank_eq_none_iff {s : Option String} :
    keepNonBlank s = none ↔ blankOpt s = true := by
  cases s with
  | none => simp [keepNonBlank, blankOpt]
  | some t => cases h : blank t <;> simp [keepNonBlank, blankOpt, nonBlank?, h]

end ProxyInbound.Text.White

/-! ## ASCII case -/

namespace ProxyInbound.Text.Ascii

/-- The lower-case form of an ASCII capital; any other character stays. -/
def lower (c : Char) : Char :=
  c.toLower

/-- Two texts are the same name if they agree after the ASCII letters are made lower case. -/
def sameName (a b : String) : Bool :=
  a.toList.map lower == b.toList.map lower

/-- Every text is the same name as itself. -/
theorem sameName_refl (a : String) : sameName a a = true :=
  beq_self_eq_true _

end ProxyInbound.Text.Ascii

/-! ## Several values -/

namespace ProxyInbound.Text.Parts

open White

/-- The trimmed pieces between separators that are not empty. -/
def partsChars (separator : Char → Bool) (cs : List Char) : List (List Char) :=
  ((cs.splitOnP separator).map trimChars).filter (· ≠ [])

/-- The parts of a text between the separators. -/
def parts (separator : Char → Bool) (s : String) : List String :=
  (partsChars separator s.toList).map String.ofList

/-- Values are separated by line feeds and commas. -/
def isValueSeparator (c : Char) : Bool :=
  c == '\n' || c == ','

/-- Lines are separated by line feeds alone; a carriage return before one is trimmed away. -/
def isLineSeparator (c : Char) : Bool :=
  c == '\n'

/-- Lists written on one line are separated by commas alone. -/
def isComma (c : Char) : Bool :=
  c == ','

/-- The values of a text with one value a line or several between commas. -/
def values (s : String) : List String :=
  parts isValueSeparator s

/-- The lines of a text that are not blank, trimmed. -/
def lines (s : String) : List String :=
  parts isLineSeparator s

/-- The entries of a list between commas. -/
def commaParts (s : String) : List String :=
  parts isComma s

/-- One value a line. -/
def join (xs : List String) : String :=
  "\n".intercalate xs

/-- One line with a comma between the values. -/
def joinCommas (xs : List String) : String :=
  ",".intercalate xs

/-- The joined text has a line feed between two values. -/
theorem toList_join (xs : List String) :
    (join xs).toList = ['\n'].intercalate (xs.map String.toList) :=
  String.toList_intercalate

end ProxyInbound.Text.Parts
