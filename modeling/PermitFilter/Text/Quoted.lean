import PermitFilter.Text.Blank
import PermitFilter.Text.CodePoints

/-!
# Quoted text

A text is shown in double quotes on one line. The quote and the backslash are
written behind a backslash; the null character, the tab, the line feed and the
carriage return have a letter of their own; any other hidden character is
written as its code point in hexadecimal; everything else stands for itself.

A character is visible when it leaves a mark of its own on the page. Controls,
format characters, separators other than the space, private use and unassigned
code points, marks drawn on the character before them, and the letters that
fill a place without being drawn are hidden. The space is visible.

In JSON the quote, the backslash and the controls below the space are escaped, by
a letter of their own where JSON has one, and nothing else is.
-/

set_option autoImplicit false

namespace PermitFilter.Text

/-! ## Visible characters -/

/-- Control codes. -/
def controlRanges : List (Nat × Nat) :=
  [(0x0, 0x1F), (0x7F, 0x9F)]

/-- Separators of words, lines and paragraphs, the space excepted. -/
def separatorRanges : List (Nat × Nat) :=
  [(0xA0, 0xA0), (0x1680, 0x1680), (0x2000, 0x200A), (0x2028, 0x2029), (0x202F, 0x202F),
   (0x205F, 0x205F), (0x3000, 0x3000)]

/-- Format characters, which steer the layout of the text around them. -/
def formatRanges : List (Nat × Nat) :=
  [(0xAD, 0xAD), (0x600, 0x605), (0x61C, 0x61C), (0x6DD, 0x6DD), (0x70F, 0x70F), (0x890, 0x891),
   (0x8E2, 0x8E2), (0x180E, 0x180E), (0x200B, 0x200F), (0x202A, 0x202E), (0x2060, 0x2064),
   (0x2066, 0x206F), (0xFEFF, 0xFEFF), (0xFFF9, 0xFFFB), (0x110BD, 0x110BD),
   (0x110CD, 0x110CD), (0x13430, 0x1343F), (0x1BCA0, 0x1BCA3), (0x1D173, 0x1D17A),
   (0xE0001, 0xE0001), (0xE0020, 0xE007F)]

/-- Hangul letters that hold a place in a syllable and are not drawn. -/
def fillerRanges : List (Nat × Nat) :=
  [(0x115F, 0x1160), (0x3164, 0x3164), (0xFFA0, 0xFFA0)]

/-- Code points left to private agreement. -/
def privateUseRanges : List (Nat × Nat) :=
  [(0xE000, 0xF8FF), (0xF0000, 0xFFFFD), (0x100000, 0x10FFFD)]

/-- Whether a character leaves no mark of its own. -/
def isHidden (c : Char) : Bool :=
  let code := c.toNat
  inRanges controlRanges code || inRanges separatorRanges code || inRanges formatRanges code ||
    inRanges fillerRanges code || inRanges privateUseRanges code || isExtendingMark code ||
    isUnassigned code

/-- Whether a character leaves a mark of its own, or is the space. -/
def isVisible (c : Char) : Bool :=
  !isHidden c

/-! ## Quotes -/

/-- The digits of a number in base sixteen, in lower case and without leading
zeros. -/
def hexadecimal (number : Nat) : List Char :=
  Nat.toDigits 16 number

/-- The written form of one character inside quotes. -/
def escaped (c : Char) : List Char :=
  if c = '"' then ['\\', '"']
  else if c = '\\' then ['\\', '\\']
  else if c = '\x00' then ['\\', '0']
  else if c = '\t' then ['\\', 't']
  else if c = '\n' then ['\\', 'n']
  else if c = '\r' then ['\\', 'r']
  else if isVisible c then [c]
  else ['\\', 'u', '{'] ++ hexadecimal c.toNat ++ ['}']

/-- The text in double quotes. -/
def quoted (text : String) : String :=
  String.ofList ('"' :: text.toList.flatMap escaped ++ ['"'])

/-! ## JSON -/

/-- One hexadecimal digit in lower case. -/
def hexDigit (digit : Nat) : Char :=
  Nat.digitChar (digit % 16)

/-- The written form of one character inside a JSON string. -/
def jsonEscaped (c : Char) : List Char :=
  if c = '"' then ['\\', '"']
  else if c = '\\' then ['\\', '\\']
  else if c = '\x08' then ['\\', 'b']
  else if c = '\t' then ['\\', 't']
  else if c = '\n' then ['\\', 'n']
  else if c = '\x0c' then ['\\', 'f']
  else if c = '\r' then ['\\', 'r']
  else if c.toNat < 0x20 then
    ['\\', 'u', '0', '0', hexDigit (c.toNat / 16), hexDigit c.toNat]
  else [c]

/-- A text as a JSON string. -/
def jsonString (text : String) : String :=
  String.ofList ('"' :: text.toList.flatMap jsonEscaped ++ ['"'])

/-- A number as JSON. -/
def jsonNumber (number : Nat) : String :=
  toString number

/-- An object whose values are JSON already. -/
def jsonObject (members : List (String × String)) : String :=
  "\x7b" ++ ",".intercalate (members.map fun member => jsonString member.1 ++ ":" ++ member.2) ++
    "\x7d"

end PermitFilter.Text
