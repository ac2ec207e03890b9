import DataPipeline.Text.Printable

/-!
# Quoted text

How a diagnostic shows a text that it found in a document: between double quotes, with short
escapes for the usual controls and `\u{…}` with the hexadecimal code point for every other
character that is not printable.

## Main definitions

* `Text.quoteChar`: the spelling of one character
* `Text.quoted`: the spelling of a text, quotes included
-/
namespace DataPipeline.Text

/-- The digits of `n` in base sixteen, small letters, without leading zeros. -/
def hex (n : Nat) : List Char := Nat.toDigits 16 n

def quoteChar (c : Char) : List Char :=
  match c with
  | '\x00' => ['\\', '0']
  | '\t' => ['\\', 't']
  | '\n' => ['\\', 'n']
  | '\r' => ['\\', 'r']
  | '"' => ['\\', '"']
  | '\\' => ['\\', '\\']
  | _ => if isPrintable c then [c] else ['\\', 'u', '\x7b'] ++ hex c.toNat ++ ['\x7d']

def quoted (s : String) : String :=
  String.ofList ('"' :: s.toList.flatMap quoteChar ++ ['"'])

end DataPipeline.Text
