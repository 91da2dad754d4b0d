import FabricUpgrade.Unicode.Combining
import FabricUpgrade.Unicode.Hidden

/-!
# Quoted texts

`Quoted.encode` writes a text between quotes so that it can be read by people: quotes and
backslashes are escaped, and characters that show nothing by themselves are written by their number.
-/

namespace FabricUpgrade.Text.Quoted

open Unicode

/-- Writes one character. -/
def encodeChar (character : Char) : List Char :=
  match character with
  | '"' => ['\\', '"']
  | '\\' => ['\\', '\\']
  | '\n' => ['\\', 'n']
  | '\r' => ['\\', 'r']
  | '\t' => ['\\', 't']
  | '\x00' => ['\\', '0']
  | character =>
    if isHidden character || isCombining character then
      ['\\', 'u', '\x7b'] ++ Nat.toDigits 16 character.toNat ++ ['\x7d']
    else [character]

/-- A text between quotes. -/
def encode (text : String) : String :=
  "\"" ++ String.ofList (text.toList.flatMap encodeChar) ++ "\""

end FabricUpgrade.Text.Quoted
