import FabricUpgrade.Json.Basic

/-!
# Writing JSON

`Json.write` gives a value its text without blanks.  Every writer takes the characters that follow,
so that writing is linear and a reader can be run on what is written before any rest.
-/

namespace FabricUpgrade.Json

/-- The lower-case hexadecimal digit of a number below sixteen. -/
def hexDigit (value : Nat) : Char :=
  if value < 10 then Char.ofNat ('0'.toNat + value) else Char.ofNat ('a'.toNat + (value - 10))

/-- Writes one character of a string: quotes, backslashes and control characters are escaped. -/
def writeChar (character : Char) (rest : List Char) : List Char :=
  if character = '"' then '\\' :: '"' :: rest
  else if character = '\\' then '\\' :: '\\' :: rest
  else if character = '\x08' then '\\' :: 'b' :: rest
  else if character = '\x0c' then '\\' :: 'f' :: rest
  else if character = '\n' then '\\' :: 'n' :: rest
  else if character = '\r' then '\\' :: 'r' :: rest
  else if character = '\t' then '\\' :: 't' :: rest
  else if character.toNat < 32 then
    '\\' :: 'u' :: '0' :: '0' :: hexDigit (character.toNat / 16)
      :: hexDigit (character.toNat % 16) :: rest
  else character :: rest

/-- Writes a string in quotes. -/
def writeString (value : String) (rest : List Char) : List Char :=
  '"' :: value.toList.foldr writeChar ('"' :: rest)

/-- Writes an integer. -/
def writeInt (value : Int) (rest : List Char) : List Char :=
  if value < 0 then '-' :: (Nat.toDigits 10 value.natAbs ++ rest)
  else Nat.toDigits 10 value.natAbs ++ rest

/-- Writes a number; a decimal is its digits and a power of ten. -/
def writeNumber : Number → List Char → List Char
  | .integer value, rest => writeInt value rest
  | .decimal negative digits exponent, rest =>
    let magnitude := Nat.toDigits 10 digits ++ 'e' :: writeInt exponent rest
    if negative then '-' :: magnitude else magnitude

mutual
/-- Writes a value in front of the characters that follow it. -/
def writeTo : Json → List Char → List Char
  | .null, rest => 'n' :: 'u' :: 'l' :: 'l' :: rest
  | .bool true, rest => 't' :: 'r' :: 'u' :: 'e' :: rest
  | .bool false, rest => 'f' :: 'a' :: 'l' :: 's' :: 'e' :: rest
  | .number value, rest => writeNumber value rest
  | .string value, rest => writeString value rest
  | .array [], rest => '[' :: ']' :: rest
  | .array (item :: items), rest => '[' :: writeTo item (writeItems items (']' :: rest))
  | .object [], rest => '{' :: '}' :: rest
  | .object ((name, value) :: members), rest =>
    '{' :: writeString name (':' :: writeTo value (writeMembers members ('}' :: rest)))
  | .unreadable, rest => 'n' :: 'u' :: 'l' :: 'l' :: rest

/-- Writes the items after the first one, each behind a comma. -/
def writeItems : List Json → List Char → List Char
  | [], rest => rest
  | item :: items, rest => ',' :: writeTo item (writeItems items rest)

/-- Writes the members after the first one, each behind a comma. -/
def writeMembers : Members → List Char → List Char
  | [], rest => rest
  | (name, value) :: members, rest =>
    ',' :: writeString name (':' :: writeTo value (writeMembers members rest))
end

/-- The text of a value, without blanks. -/
def write (value : Json) : String :=
  String.ofList (value.writeTo [])

end FabricUpgrade.Json
