import FabricUpgrade.Json.Numeral

/-!
# Reading JSON

`Json.read?` reads a whole text as one value.  It accepts exactly the JSON grammar: blanks are
space, tab, line feed and carriage return, numbers have no leading zero, strings hold no control
character, nothing but blanks follows the value.  A value nested in more than 127 arrays and
objects, a number beyond the largest binary64 number and a string with half of a surrogate pair are
read as `Json.unreadable`.
-/

namespace FabricUpgrade.Json

/-- Whether a character separates tokens. -/
def isBlank (character : Char) : Bool :=
  character = ' ' || character = '\n' || character = '\t' || character = '\r'

/-- Drops the blanks in front. -/
def skipBlanks (text : List Char) : List Char :=
  text.dropWhile isBlank

/-- The value of a hexadecimal digit. -/
def hexValue? (character : Char) : Option Nat :=
  if character.isDigit then some (character.toNat - '0'.toNat)
  else if 'a' ≤ character ∧ character ≤ 'f' then some (character.toNat - 'a'.toNat + 10)
  else if 'A' ≤ character ∧ character ≤ 'F' then some (character.toNat - 'A'.toNat + 10)
  else none

/-- The code unit of four hexadecimal digits. -/
def codeUnit? (first second third fourth : Char) : Option Nat := do
  let first ← hexValue? first
  let second ← hexValue? second
  let third ← hexValue? third
  let fourth ← hexValue? fourth
  return ((first * 16 + second) * 16 + third) * 16 + fourth

/-- Whether a code unit opens a surrogate pair. -/
def opensPair (unit : Nat) : Bool :=
  0xD800 ≤ unit && unit < 0xDC00

/-- Whether a code unit closes a surrogate pair. -/
def closesPair (unit : Nat) : Bool :=
  0xDC00 ≤ unit && unit < 0xE000

/-- The character that stands behind a backslash, where it stands for a single one. -/
def shortEscape? (character : Char) : Option Char :=
  match character with
  | '"' => some '"'
  | '\\' => some '\\'
  | '/' => some '/'
  | 'b' => some '\x08'
  | 'f' => some '\x0c'
  | 'n' => some '\n'
  | 'r' => some '\r'
  | 't' => some '\t'
  | _ => none

/-- The characters of a string read so far behind one more character; `none` marks a string with
half of a surrogate pair. -/
def precede (character : Option Char) (read : Option (List Char) × List Char) :
    Option (List Char) × List Char :=
  (do return (← character) :: (← read.1), read.2)

/-- Reads a string from behind its opening quote.  The first argument is the opening half of a
surrogate pair that has just been read. -/
def readString : Option Nat → List Char → Option (Option (List Char) × List Char)
  | pending, '"' :: rest => some (if pending.isSome then none else some [], rest)
  | pending, '\\' :: 'u' :: first :: second :: third :: fourth :: rest =>
    match codeUnit? first second third fourth with
    | none => none
    | some unit =>
      match pending with
      | none =>
        if opensPair unit then readString (some unit) rest
        else if closesPair unit then (readString none rest).map (precede none)
        else (readString none rest).map (precede (some (Char.ofNat unit)))
      | some high =>
        if closesPair unit then
          (readString none rest).map
            (precede (some (Char.ofNat (0x10000 + (high - 0xD800) * 0x400 + (unit - 0xDC00)))))
        else (readString none rest).map (precede none)
  | pending, '\\' :: character :: rest =>
    match shortEscape? character with
    | none => none
    | some meant =>
      (readString none rest).map (precede (if pending.isSome then none else some meant))
  | pending, character :: rest =>
    if character = '\\' ∨ character.toNat < 32 then none
    else (readString none rest).map (precede (if pending.isSome then none else some character))
  | _, [] => none

/-- Splits the digits in front off. -/
def spanDigits (text : List Char) : List Char × List Char :=
  (text.takeWhile Char.isDigit, text.dropWhile Char.isDigit)

/-- Reads the exponent behind its letter. -/
def readExponent (text : List Char) : Option (Int × List Char) :=
  let (negative, unsigned) : Bool × List Char :=
    match text with
    | '-' :: rest => (true, rest)
    | '+' :: rest => (false, rest)
    | rest => (false, rest)
  let (digits, rest) := spanDigits unsigned
  if digits.isEmpty then none
  else
    let value : Int := Nat.ofDigitChars 10 digits 0
    some (if negative then -value else value, rest)

/-- Reads an exponent if there is one. -/
def readExponent? (text : List Char) : Option (Option Int × List Char) :=
  match text with
  | 'e' :: rest => (readExponent rest).map fun read => (some read.1, read.2)
  | 'E' :: rest => (readExponent rest).map fun read => (some read.1, read.2)
  | rest => some (none, rest)

/-- Reads a fraction if there is one. -/
def readFraction? (text : List Char) : Option (Option (List Char) × List Char) :=
  match text with
  | '.' :: rest =>
    let (digits, rest) := spanDigits rest
    if digits.isEmpty then none else some (some digits, rest)
  | rest => some (none, rest)

/-- Reads a number from behind its sign. -/
def readMagnitude (negative : Bool) (text : List Char) : Option (Json × List Char) := do
  let (digits, rest) := spanDigits text
  if digits.isEmpty then none
  else if digits.head? = some '0' ∧ digits.length ≠ 1 then none
  else
    let (fraction, rest) ← readFraction? rest
    let (exponent, rest) ← readExponent? rest
    match fraction, exponent with
    | none, none => some (ofWholeNumeral negative digits, rest)
    | _, _ => some (ofNumeral negative digits (fraction.getD []) (exponent.getD 0), rest)

/-- Reads the rest of a fixed word. -/
def readWord (word : List Char) (value : Json) (text : List Char) : Option (Json × List Char) :=
  if word.isPrefixOf text then some (value, text.drop word.length) else none

/-- The object of the members read, if every name can be read. -/
def objectOf (members : List (Option (List Char) × Json)) : Json :=
  match members.mapM fun member => member.1.map fun name => (String.ofList name, member.2) with
  | some named => .object named
  | none => .unreadable

mutual
/-- Reads one value and gives back what follows it. -/
def readValue : Nat → List Char → Option (Json × List Char)
  | 0, _ => none
  | fuel + 1, text =>
    match skipBlanks text with
    | 'n' :: rest => readWord ['u', 'l', 'l'] .null rest
    | 't' :: rest => readWord ['r', 'u', 'e'] (.bool true) rest
    | 'f' :: rest => readWord ['a', 'l', 's', 'e'] (.bool false) rest
    | '"' :: rest =>
      (readString none rest).map fun read =>
        (read.1.elim .unreadable fun characters => .string (String.ofList characters), read.2)
    | '-' :: rest => readMagnitude true rest
    | '[' :: rest =>
      match skipBlanks rest with
      | ']' :: rest => some (.array [], rest)
      | rest => (readItems fuel rest).map fun read => (.array read.1, read.2)
    | '{' :: rest =>
      match skipBlanks rest with
      | '}' :: rest => some (.object [], rest)
      | rest => (readMembers fuel rest).map fun read => (objectOf read.1, read.2)
    | rest => readMagnitude false rest

/-- Reads the items of an array up to its end; at least one follows. -/
def readItems : Nat → List Char → Option (List Json × List Char)
  | 0, _ => none
  | fuel + 1, text =>
    match readValue fuel text with
    | none => none
    | some (item, rest) =>
      match skipBlanks rest with
      | ',' :: rest => (readItems fuel rest).map fun read => (item :: read.1, read.2)
      | ']' :: rest => some ([item], rest)
      | _ => none

/-- Reads the members of an object up to its end; at least one follows. -/
def readMembers : Nat → List Char → Option (List (Option (List Char) × Json) × List Char)
  | 0, _ => none
  | fuel + 1, text =>
    match skipBlanks text with
    | '"' :: rest =>
      match readString none rest with
      | none => none
      | some (name, rest) =>
        match skipBlanks rest with
        | ':' :: rest =>
          match readValue fuel rest with
          | none => none
          | some (value, rest) =>
            match skipBlanks rest with
            | ',' :: rest =>
              (readMembers fuel rest).map fun read => ((name, value) :: read.1, read.2)
            | '}' :: rest => some ([(name, value)], rest)
            | _ => none
        | _ => none
    | _ => none
end

mutual
/-- Marks as unreadable what is nested in more arrays and objects than allowed. -/
def limitDepth : Nat → Json → Json
  | 0, .array _ => .unreadable
  | depth + 1, .array items => .array (limitItems depth items)
  | 0, .object _ => .unreadable
  | depth + 1, .object members => .object (limitMembers depth members)
  | _, value => value

/-- Limits the depth of every item. -/
def limitItems : Nat → List Json → List Json
  | _, [] => []
  | depth, item :: items => limitDepth depth item :: limitItems depth items

/-- Limits the depth of every member. -/
def limitMembers : Nat → Members → Members
  | _, [] => []
  | depth, (name, value) :: members =>
    (name, limitDepth depth value) :: limitMembers depth members
end

/-- How many arrays and objects a value may be nested in. -/
def depthLimit : Nat :=
  127

/-- Reads a whole text as one value. -/
def read? (text : String) : Option Json :=
  let characters := text.toList
  match readValue (2 * characters.length + 2) characters with
  | none => none
  | some (value, rest) =>
    if (skipBlanks rest).isEmpty then some (limitDepth depthLimit value) else none

end FabricUpgrade.Json
