import RowSink.Text.CaseTable

/-!
# Lower case

The full Unicode lower-case form of a text. All but two characters map on their own: a dotted
capital I becomes an i and a combining dot, and a capital sigma depends on its neighbours.
-/

namespace RowSink.Text

/-- The lower-case form of a character, its context aside. -/
def lowerChar (char : Char) : List Char :=
  if char = 'İ' then ['i', '\u0307']
  else
    match lowerCaseRuns.find? (·.covers char.toNat) with
    | some run => [Char.ofNat (Int.toNat (char.toNat + run.shift))]
    | none => [char]

/-- Whether the first character that does not count for case is a letter with case. -/
def reachesCased (chars : List Char) : Bool :=
  match chars.dropWhile caseIgnorable.contains with
  | [] => false
  | char :: _ => cased.contains char

/-- Lower-cases characters that follow the ones in `before`, which is reversed. A sigma takes its
final form at the end of a word: after a letter and not before one. -/
def lowerCharsAfter (before : List Char) : List Char → List Char
  | [] => []
  | char :: rest =>
    let lowered :=
      if char = 'Σ' then
        if reachesCased before && !reachesCased rest then ['ς'] else ['σ']
      else lowerChar char
    lowered ++ lowerCharsAfter (char :: before) rest

def lowerCase (text : String) : String :=
  String.ofList (lowerCharsAfter [] text.toList)

/-- The upper-case form of a character where it consists of ASCII letters, and the character
itself otherwise. This is all that a comparison with an ASCII word needs. -/
def asciiUpperChar (char : Char) : List Char :=
  match char with
  | 'ı' => ['I']
  | 'ſ' => ['S']
  | 'ß' => ['S', 'S']
  | 'ﬀ' => ['F', 'F']
  | 'ﬁ' => ['F', 'I']
  | 'ﬂ' => ['F', 'L']
  | 'ﬃ' => ['F', 'F', 'I']
  | 'ﬄ' => ['F', 'F', 'L']
  | 'ﬅ' => ['S', 'T']
  | 'ﬆ' => ['S', 'T']
  | other => [other.toUpper]

/-- The upper-case form of a text as far as it can equal an ASCII word. -/
def asciiUpper (text : String) : String :=
  String.ofList (text.toList.flatMap asciiUpperChar)

end RowSink.Text
