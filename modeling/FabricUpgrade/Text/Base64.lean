import FabricUpgrade.Text.Utf8

/-!
# Base64

The standard alphabet with padding.  Reading is strict: the padding has to be there, and the bits
that it leaves over have to be zero.
-/

namespace FabricUpgrade.Text.Base64

/-- The digits of the alphabet in order. -/
def alphabet : List Char :=
  "ABCDEFGHIJKLMNOPQRSTUVWXYZabcdefghijklmnopqrstuvwxyz0123456789+/".toList

/-- The digit of a number below sixty-four. -/
def digit (value : Nat) : Char :=
  alphabet.getD value '='

/-- The number of a digit. -/
def value? (character : Char) : Option Nat :=
  alphabet.findIdx? (· = character)

/-- Encodes bytes, three at a time. -/
def encodeBytes : Bytes → List Char
  | [] => []
  | [first] =>
    let word := first.toNat * 16
    [digit (word / 64), digit (word % 64), '=', '=']
  | [first, second] =>
    let word := (first.toNat * 256 + second.toNat) * 4
    [digit (word / 4096), digit (word / 64 % 64), digit (word % 64), '=']
  | first :: second :: third :: rest =>
    let word := (first.toNat * 256 + second.toNat) * 256 + third.toNat
    digit (word / 262144) :: digit (word / 4096 % 64) :: digit (word / 64 % 64)
      :: digit (word % 64) :: encodeBytes rest

/-- The Base64 text of bytes. -/
def encode (bytes : Bytes) : String :=
  String.ofList (encodeBytes bytes)

/-- Decodes digits, four at a time. -/
def decodeDigits : List Char → Option Bytes
  | [] => some []
  | [first, second, '=', '='] => do
    let word := (← value? first) * 64 + (← value? second)
    if word % 16 = 0 then some [(word / 16).toUInt8] else none
  | [first, second, third, '='] => do
    let word := ((← value? first) * 64 + (← value? second)) * 64 + (← value? third)
    if word % 4 = 0 then some [(word / 1024).toUInt8, (word / 4 % 256).toUInt8] else none
  | first :: second :: third :: fourth :: rest => do
    let word :=
      (((← value? first) * 64 + (← value? second)) * 64 + (← value? third)) * 64
        + (← value? fourth)
    let bytes ← decodeDigits rest
    some ((word / 65536).toUInt8 :: (word / 256 % 256).toUInt8 :: (word % 256).toUInt8 :: bytes)
  | _ => none

/-- The bytes of a Base64 text. -/
def decode? (text : String) : Option Bytes :=
  decodeDigits text.toList

end FabricUpgrade.Text.Base64
