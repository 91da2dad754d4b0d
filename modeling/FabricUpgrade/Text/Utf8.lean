/-!
# Reading UTF-8

`Utf8.piece?` takes one character, or one broken piece, off a list of bytes.  A broken piece is as
long as it could still have become a character; if the bytes end inside it, it is incomplete.
-/

namespace FabricUpgrade.Text

/-- Bytes, in order. -/
abbrev Bytes := List UInt8

namespace Utf8

/-- What a list of bytes starts with. -/
inductive Piece where
  | character (value : Char)
  | invalid (length : Nat)
  | incomplete

/-- How a character of several bytes goes on after its first byte: the number of bytes that follow,
the range of the next one, and the bits that the first one holds. -/
structure Lead where
  following : Nat
  least : Nat
  greatest : Nat
  bits : Nat

/-- What a first byte above the ASCII range announces. -/
def lead? (byte : Nat) : Option Lead :=
  if 0xC2 ≤ byte ∧ byte ≤ 0xDF then some ⟨1, 0x80, 0xBF, byte - 0xC0⟩
  else if byte = 0xE0 then some ⟨2, 0xA0, 0xBF, 0⟩
  else if byte = 0xED then some ⟨2, 0x80, 0x9F, byte - 0xE0⟩
  else if 0xE1 ≤ byte ∧ byte ≤ 0xEF then some ⟨2, 0x80, 0xBF, byte - 0xE0⟩
  else if byte = 0xF0 then some ⟨3, 0x90, 0xBF, 0⟩
  else if 0xF1 ≤ byte ∧ byte ≤ 0xF3 then some ⟨3, 0x80, 0xBF, byte - 0xF0⟩
  else if byte = 0xF4 then some ⟨3, 0x80, 0x8F, byte - 0xF0⟩
  else none

/-- Takes the bytes of a character that are still missing; the last number counts those taken. -/
def continue? : Nat → Nat → Nat → Nat → Nat → Bytes → Piece × Bytes
  | 0, _, _, bits, _, rest => (.character (Char.ofNat bits), rest)
  | _ + 1, _, _, _, _, [] => (.incomplete, [])
  | missing + 1, least, greatest, bits, taken, byte :: rest =>
    if least ≤ byte.toNat ∧ byte.toNat ≤ greatest then
      continue? missing 0x80 0xBF (bits * 64 + (byte.toNat - 0x80)) (taken + 1) rest
    else (.invalid taken, byte :: rest)

/-- The first piece of a list of bytes and the bytes behind it. -/
def piece? : Bytes → Option (Piece × Bytes)
  | [] => none
  | byte :: rest =>
    if byte.toNat < 0x80 then some (.character (Char.ofNat byte.toNat), rest)
    else
      match lead? byte.toNat with
      | none => some (.invalid 1, rest)
      | some lead => some (continue? lead.following lead.least lead.greatest lead.bits 1 rest)

/-- Where bytes stop being UTF-8: a broken piece of so many bytes, or a piece cut off at the end. -/
inductive Fault where
  | invalid (length index : Nat)
  | incomplete (index : Nat)
deriving DecidableEq, Repr

/-- The sentence about a fault. -/
def Fault.message : Fault → String
  | invalid length index => s!"invalid utf-8 sequence of {length} bytes from index {index}"
  | incomplete index => s!"incomplete utf-8 byte sequence from index {index}"

/-- Decodes bytes, counting them, with a bound on the pieces. -/
def decodeFrom : Nat → Nat → Bytes → Except Fault (List Char)
  | 0, _, _ => .ok []
  | bound + 1, index, bytes =>
    match piece? bytes with
    | none => .ok []
    | some (.character value, rest) =>
      (decodeFrom bound (index + (bytes.length - rest.length)) rest).map (value :: ·)
    | some (.invalid length, _) => .error (.invalid length index)
    | some (.incomplete, _) => .error (.incomplete index)

/-- The text of bytes, or the first place where they stop being UTF-8. -/
def decode (bytes : Bytes) : Except Fault String :=
  (decodeFrom bytes.length 0 bytes).map String.ofList

/-- Decodes bytes with a replacement character for each broken piece, with a bound on the pieces. -/
def replaceFrom : Nat → Bytes → List Char
  | 0, _ => []
  | bound + 1, bytes =>
    match piece? bytes with
    | none => []
    | some (.character value, rest) => value :: replaceFrom bound rest
    | some (_, rest) => '\ufffd' :: replaceFrom bound rest

/-- The text of bytes with a replacement character for each broken piece. -/
def decodeReplacing (bytes : Bytes) : String :=
  String.ofList (replaceFrom bytes.length bytes)

/-- The bytes of a text. -/
def encode (text : String) : Bytes :=
  text.toList.flatMap String.utf8EncodeChar

end Utf8

end FabricUpgrade.Text
