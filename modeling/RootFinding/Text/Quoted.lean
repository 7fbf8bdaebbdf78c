import RootFinding.Text.Extending
import RootFinding.Text.Invisible

/-!
# Quoted text

Text between double quotes. A quote and a backslash are written with a backslash before them, the
common control characters by a letter, and every other character that cannot be told apart by sight
by its code: one without a shape, or one that is drawn on the character before it.
-/

namespace RootFinding.Text

/-- A character by its code in hexadecimal. -/
def codeEscape (c : Char) : List Char :=
  "\\u\x7b".toList ++ Nat.toDigits 16 c.toNat ++ ['\x7d']

/-- How a character is written between quotes. -/
def escape (c : Char) : List Char :=
  match c with
  | '"' => ['\\', '"']
  | '\\' => ['\\', '\\']
  | '\n' => ['\\', 'n']
  | '\r' => ['\\', 'r']
  | '\t' => ['\\', 't']
  | '\x00' => ['\\', '0']
  | c => if isInvisible c || isExtending c then codeEscape c else [c]

/-- A text in double quotes. -/
def quoted (s : String) : String :=
  "\"" ++ String.ofList (s.toList.flatMap escape) ++ "\""

end RootFinding.Text
