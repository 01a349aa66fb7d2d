import RowSink.Text.CharSet

/-!
# Blank characters

The characters with the Unicode property `White_Space`, and trimming a text of them.
-/

namespace RowSink.Text

/-- The property `White_Space`. -/
def whiteSpace : CharSet where
  boundaries :=
    [0x09, 0x0e, 0x20, 0x21, 0x85, 0x86, 0xa0, 0xa1, 0x1680, 0x1681, 0x2000, 0x200b, 0x2028,
      0x202a, 0x202f, 0x2030, 0x205f, 0x2060, 0x3000, 0x3001]

def isBlank (char : Char) : Bool :=
  whiteSpace.contains char

/-- The characters between the first and the last that is not blank. -/
def trimChars (chars : List Char) : List Char :=
  ((chars.dropWhile isBlank).reverse.dropWhile isBlank).reverse

def trim (text : String) : String :=
  String.ofList (trimChars text.toList)

/-- The parts of a text between the occurrences of a separator. -/
def splitChars (separator : Char) : List Char → List (List Char)
  | [] => [[]]
  | char :: rest =>
    if char = separator then [] :: splitChars separator rest
    else
      match splitChars separator rest with
      | [] => [[char]]
      | part :: parts => (char :: part) :: parts

/-- The items of a comma-separated list: trimmed, the empty ones dropped. -/
def splitList (text : String) : List String :=
  (((splitChars ',' text.toList).map trimChars).filter (! ·.isEmpty)).map String.ofList

end RowSink.Text
