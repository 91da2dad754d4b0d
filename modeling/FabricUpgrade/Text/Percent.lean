import FabricUpgrade.Text.Utf8

/-!
# Percent-encoding

A character that may not stand in a part of a URL is written as its bytes, each as a percent sign
and two hexadecimal digits in capitals.
-/

namespace FabricUpgrade.Text

namespace Percent

/-- The hexadecimal digits in capitals. -/
def hexDigit (value : Nat) : Char :=
  if value < 10 then Char.ofNat ('0'.toNat + value) else Char.ofNat ('A'.toNat + (value - 10))

/-- The value of a hexadecimal digit. -/
def hexValue? (character : Char) : Option Nat :=
  if character.isDigit then some (character.toNat - '0'.toNat)
  else if 'a' ≤ character ∧ character ≤ 'f' then some (character.toNat - 'a'.toNat + 10)
  else if 'A' ≤ character ∧ character ≤ 'F' then some (character.toNat - 'A'.toNat + 10)
  else none

/-- A hexadecimal digit is read as what was written. -/
theorem hexValue?_hexDigit {value : Nat} (small : value < 16) :
    hexValue? (hexDigit value) = some value := by
  have all : ∀ value < 16, hexValue? (hexDigit value) = some value := by decide
  exact all value small

/-- The encoding of a byte. -/
def encodeByte (byte : UInt8) : List Char :=
  ['%', hexDigit (byte.toNat / 16), hexDigit (byte.toNat % 16)]

/-- Encodes the characters that pass the test. -/
def encode (mustEncode : Char → Bool) (characters : List Char) : List Char :=
  characters.flatMap fun character =>
    if mustEncode character then (String.utf8EncodeChar character).flatMap encodeByte
    else [character]

/-- The bytes of a text with its encodings undone. -/
def decode : List Char → Bytes
  | '%' :: first :: second :: rest =>
    match hexValue? first, hexValue? second with
    | some high, some low => (high * 16 + low).toUInt8 :: decode rest
    | _, _ => String.utf8EncodeChar '%' ++ decode (first :: second :: rest)
  | character :: rest => String.utf8EncodeChar character ++ decode rest
  | [] => []

/-- Whether a character is a control character or lies outside ASCII. -/
def inControlSet (character : Char) : Bool :=
  character.toNat < 0x20 || 0x7E < character.toNat

/-- The characters that may not stand in a fragment. -/
def inFragmentSet (character : Char) : Bool :=
  inControlSet character || character ∈ [' ', '"', '<', '>', '\x60']

/-- The characters that may not stand in a path. -/
def inPathSet (character : Char) : Bool :=
  inFragmentSet character || character ∈ ['#', '?', '\x7b', '\x7d']

/-- The characters that may not stand in a query; an apostrophe may stand in that of a scheme
without a meaning of its own. -/
def inQuerySet (isSpecial : Bool) (character : Char) : Bool :=
  inControlSet character || character ∈ [' ', '"', '#', '<', '>']
    || (isSpecial && character = '\'')

/-- The characters that may not stand in the user information. -/
def inUserInfoSet (character : Char) : Bool :=
  inPathSet character || character ∈ ['/', ':', ';', '=', '@', '[', '\\', ']', '^', '|']

end Percent

end FabricUpgrade.Text
