import Interdomain.Text.Unprintable

/-!
# Quoted texts

A text between double quotes, as it is shown to a reader: quotes and backslashes are escaped, and so
are the characters that are not shown as themselves.
-/

namespace Interdomain.Quoted

def hex (n : Nat) : List Char := Nat.toDigits 16 n

/-- A character between quotes. -/
def escape (c : Char) : List Char :=
  match c with
  | '\x00' => ['\\', '0']
  | '\t' => ['\\', 't']
  | '\n' => ['\\', 'n']
  | '\r' => ['\\', 'r']
  | '"' => ['\\', '"']
  | '\\' => ['\\', '\\']
  | c => if Unprintable.holds c then "\\u\x7b".toList ++ hex c.toNat ++ ['\x7d'] else [c]

def text (s : String) : String := "\"" ++ String.ofList (s.toList.flatMap escape) ++ "\""

end Interdomain.Quoted
