import ProxyInbound.Json

/-!
# Writing JSON text

A document is written compact, without any space, or pretty, one item or member a line with two
spaces of indent a level. Empty arrays and objects stay on one line. In texts only the quote, the
backslash and the control characters below U+0020 are escaped.
-/

namespace ProxyInbound.Json.Printer

/-- How a document is laid out. -/
inductive Layout where
  /-- No space and no line feed outside texts. -/
  | compact
  /-- One item a line, two spaces of indent a level. -/
  | pretty
  deriving DecidableEq, Repr

/-- What separates items: nothing, or a line feed and the indent of the level. -/
def Layout.gap : Layout → Nat → List Char
  | compact, _ => []
  | pretty, depth => '\n' :: List.replicate (2 * depth) ' '

/-- What separates a key from its value. -/
def Layout.colon : Layout → List Char
  | compact => [':']
  | pretty => [':', ' ']

/-- A hexadecimal digit in lower case. -/
def hexDigit (n : Nat) : Char :=
  n.digitChar

/-- The written form of a character inside a text. -/
def escape (c : Char) : List Char :=
  if c = '"' then ['\\', '"']
  else if c = '\\' then ['\\', '\\']
  else if c = '\n' then ['\\', 'n']
  else if c = '\r' then ['\\', 'r']
  else if c = '\t' then ['\\', 't']
  else if c.toNat = 8 then ['\\', 'b']
  else if c.toNat = 12 then ['\\', 'f']
  else if c.toNat < 32 then
    ['\\', 'u', '0', '0', hexDigit (c.toNat / 16), hexDigit (c.toNat % 16)]
  else [c]

/-- A text between quotes. -/
def stringChars (s : String) : List Char :=
  '"' :: (s.toList.flatMap escape ++ ['"'])

mutual

/-- The characters of a value that starts at a level of indent. -/
def chars (layout : Layout) (depth : Nat) : Json → List Char
  | null => ['n', 'u', 'l', 'l']
  | bool true => ['t', 'r', 'u', 'e']
  | bool false => ['f', 'a', 'l', 's', 'e']
  | number n => n.text.toList
  | string s => stringChars s
  | array [] => ['[', ']']
  | array (v :: vs) =>
    '[' :: (layout.gap (depth + 1) ++ (chars layout (depth + 1) v ++
      (itemChars layout (depth + 1) vs ++ (layout.gap depth ++ [']']))))
  | object [] => ['\x7b', '\x7d']
  | object ((k, v) :: ms) =>
    '\x7b' :: (layout.gap (depth + 1) ++ (stringChars k ++ (layout.colon ++
      (chars layout (depth + 1) v ++
        (memberChars layout (depth + 1) ms ++ (layout.gap depth ++ ['\x7d']))))))

/-- The items after the first one, each after a comma. -/
def itemChars (layout : Layout) (depth : Nat) : List Json → List Char
  | [] => []
  | v :: vs => ',' :: (layout.gap depth ++ (chars layout depth v ++ itemChars layout depth vs))

/-- The members after the first one, each after a comma. -/
def memberChars (layout : Layout) (depth : Nat) : List (String × Json) → List Char
  | [] => []
  | (k, v) :: ms =>
    ',' :: (layout.gap depth ++ (stringChars k ++ (layout.colon ++
      (chars layout depth v ++ memberChars layout depth ms))))

end

/-- The text of a document. -/
def render (layout : Layout) (v : Json) : String :=
  String.ofList (chars layout 0 v)

/-- The characters of a rendered document. -/
theorem toList_render (layout : Layout) (v : Json) :
    (render layout v).toList = chars layout 0 v :=
  String.toList_ofList

end ProxyInbound.Json.Printer
