import RowSink.Text.PrintTable

/-!
# Quoted text and bytes

The form in which a text or a byte string is quoted inside a message: between double quotes, with
a backslash before a quote and a backslash, short escapes for line breaks, tabulators and the null
character, and a code point escape for what cannot be printed on its own. The values of headers are
quoted in a form of their own.
-/

namespace RowSink.Text

/-- The digits of a number in base 16, without leading zeros. -/
def hexDigits (value : Nat) : List Char :=
  Nat.toDigits 16 value

def quoteChar (char : Char) : List Char :=
  match char with
  | '"' => ['\\', '"']
  | '\\' => ['\\', '\\']
  | '\n' => ['\\', 'n']
  | '\r' => ['\\', 'r']
  | '\t' => ['\\', 't']
  | '\x00' => ['\\', '0']
  | other =>
    if combining.contains other || unprintable.contains other then
      ['\\', 'u', '\x7b'] ++ hexDigits other.toNat ++ ['\x7d']
    else [other]

/-- A text between quotes. -/
def quote (text : String) : String :=
  String.ofList ('"' :: text.toList.flatMap quoteChar ++ ['"'])

/-- Two digits in base 16. -/
def hexByte (byte : UInt8) : List Char :=
  [Nat.digitChar (byte.toNat / 16), Nat.digitChar (byte.toNat % 16)]

def quoteByte (byte : UInt8) : List Char :=
  let char := Char.ofNat byte.toNat
  match char with
  | '"' => ['\\', '"']
  | '\\' => ['\\', '\\']
  | '\n' => ['\\', 'n']
  | '\r' => ['\\', 'r']
  | '\t' => ['\\', 't']
  | '\x00' => ['\\', '0']
  | other => if 0x20 ≤ byte && byte < 0x7f then [other] else ['\\', 'x'] ++ hexByte byte

/-- A byte string between quotes, after the letter that marks it as bytes. -/
def quoteBytes (bytes : List UInt8) : String :=
  String.ofList ('b' :: '"' :: bytes.flatMap quoteByte ++ ['"'])

def quoteHeaderByte (byte : UInt8) : List Char :=
  if byte = 0x22 then ['\\', '"']
  else if byte = 9 || (0x20 ≤ byte && byte < 0x7f) then [Char.ofNat byte.toNat]
  else ['\\', 'x'] ++ hexDigits byte.toNat

/-- The value of a header between quotes. A backslash stands for itself there. -/
def quoteHeader (bytes : List UInt8) : String :=
  String.ofList ('"' :: bytes.flatMap quoteHeaderByte ++ ['"'])

end RowSink.Text
