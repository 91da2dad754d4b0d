import FabricUpgrade.Json.Writer
import FabricUpgrade.Proofs.Nesting

/-!
# What is written can be read

`Json.write` and `Json.read?` go back and forth: a value that can be read in full, is not nested too
deep and has only numbers that come back (`Json.Number.Survives`) is read as it was written
(`Json.read?_write`).  The integers of 64 bits all come back (`Json.Number.survives_integer`); a decimal
comes back if floating point arithmetic gives it again.  The readers are taken one after the other in
front of any rest that does not go on with a number, and with enough fuel for the text that is left.
-/

namespace FabricUpgrade.Json

variable {rest : List Char}

/-!
## Numbers
-/

/-- What follows does not go on with a number. -/
def Ends (rest : List Char) : Prop :=
  ∀ character ∈ rest.head?, character.isDigit = false ∧ character ≠ '.' ∧ character ≠ 'e' ∧
    character ≠ 'E'

/-- The end of the text ends a number. -/
theorem ends_nil : Ends [] :=
  nofun

theorem ends_comma : Ends (',' :: rest) := by
  simp [Ends]

theorem ends_bracket : Ends (']' :: rest) := by
  simp [Ends]

theorem ends_brace : Ends ('}' :: rest) := by
  simp [Ends]

/-- A number is written in decimal digits only. -/
theorem isDigit_of_mem_toDigits {number : Nat} :
    ∀ character ∈ Nat.toDigits 10 number, character.isDigit = true := fun _ there =>
  Nat.isDigit_of_mem_toDigits (by decide) (Nat.le_refl _) there

/-- Digits are split off in front of what is not a digit. -/
theorem spanDigits_append {digits : List Char} (only : ∀ character ∈ digits, character.isDigit = true)
    (ends : ∀ character ∈ rest.head?, character.isDigit = false) :
    spanDigits (digits ++ rest) = (digits, rest) := by
  have stops : rest.takeWhile Char.isDigit = [] ∧ rest.dropWhile Char.isDigit = rest := by
    cases rest with
    | nil => exact ⟨rfl, rfl⟩
    | cons character rest =>
      have other : character.isDigit = false := ends character rfl
      simp [other]
  rw [spanDigits, List.takeWhile_append_of_pos only, List.dropWhile_append_of_pos only, stops.1,
    stops.2, List.append_nil]

/-- The digits of a number are split off as they were written. -/
theorem spanDigits_toDigits (number : Nat)
    (ends : ∀ character ∈ rest.head?, character.isDigit = false) :
    spanDigits (Nat.toDigits 10 number ++ rest) = (Nat.toDigits 10 number, rest) :=
  spanDigits_append isDigit_of_mem_toDigits ends

/-- No decimal numeral but that of zero begins with a zero. -/
theorem head?_toDigits_ne_zero {number : Nat} (positive : 0 < number) :
    (Nat.toDigits 10 number).head? ≠ some '0' := by
  induction number using Nat.strongRecOn with
  | ind number inductionHypothesis =>
    by_cases small : number < 10
    · have each : ∀ digit < 10, 0 < digit → (Nat.toDigits 10 digit).head? ≠ some '0' := by decide
      exact each number small positive
    · rw [Nat.toDigits_of_base_le (by decide) (Nat.le_of_not_lt small)]
      have front := inductionHypothesis (number / 10) (by omega) (by omega)
      cases shown : Nat.toDigits 10 (number / 10) with
      | nil => exact absurd shown Nat.toDigits_ne_nil
      | cons first others =>
        rw [shown] at front
        exact front

/-- A number is written with at least one digit. -/
theorem isEmpty_toDigits (number : Nat) : (Nat.toDigits 10 number).isEmpty = false := by
  simp [Nat.toDigits_ne_nil]

/-- Only zero itself is written with a zero in front. -/
theorem no_leading_zero (number : Nat) :
    ¬ ((Nat.toDigits 10 number).head? = some '0' ∧ (Nat.toDigits 10 number).length ≠ 1) := by
  rintro ⟨zero, long⟩
  rcases Nat.eq_zero_or_pos number with rfl | positive
  · exact long rfl
  · exact head?_toDigits_ne_zero positive zero

/-- A number that ends here has no fraction. -/
theorem readFraction?_of_ends (ends : Ends rest) : readFraction? rest = some (none, rest) := by
  unfold readFraction?
  split
  · exact absurd rfl (ends '.' rfl).2.1
  · rfl

/-- A number that ends here has no exponent. -/
theorem readExponent?_of_ends (ends : Ends rest) : readExponent? rest = some (none, rest) := by
  unfold readExponent?
  split
  · exact absurd rfl (ends 'e' rfl).2.2.1
  · exact absurd rfl (ends 'E' rfl).2.2.2
  · rfl

/-- A numeral is its digits and then what is read behind them. -/
theorem readMagnitude_toDigits (negative : Bool) (number : Nat)
    (ends : ∀ character ∈ rest.head?, character.isDigit = false) :
    readMagnitude negative (Nat.toDigits 10 number ++ rest) =
      (readFraction? rest).bind fun fraction => (readExponent? fraction.2).bind fun exponent =>
        match fraction.1, exponent.1 with
        | none, none => some (ofWholeNumeral negative (Nat.toDigits 10 number), exponent.2)
        | _, _ =>
          some (ofNumeral negative (Nat.toDigits 10 number) (fraction.1.getD []) (exponent.1.getD 0),
            exponent.2) := by
  simp only [readMagnitude, spanDigits_toDigits number ends, isEmpty_toDigits, no_leading_zero,
    Bool.false_eq_true, if_false]
  rfl

/-- A whole numeral is read up to what ends it. -/
theorem readMagnitude_whole (negative : Bool) (number : Nat) (ends : Ends rest) :
    readMagnitude negative (Nat.toDigits 10 number ++ rest) =
      some (ofWholeNumeral negative (Nat.toDigits 10 number), rest) := by
  rw [readMagnitude_toDigits negative number fun character there => (ends character there).1,
    readFraction?_of_ends ends, Option.bind_some, readExponent?_of_ends ends]
  rfl

/-- The first character of a number is a digit. -/
theorem exists_toDigits_eq_cons (number : Nat) :
    ∃ first others, Nat.toDigits 10 number = first :: others ∧ first.isDigit = true := by
  obtain ⟨first, others, shown⟩ := List.exists_cons_of_ne_nil (Nat.toDigits_ne_nil (n := number) (b := 10))
  exact ⟨first, others, shown, isDigit_of_mem_toDigits first (shown ▸ List.mem_cons_self)⟩

/-- An exponent without a sign is read as one with a plus. -/
theorem readExponent_unsigned {first : Char} {others : List Char} (isDigit : first.isDigit = true) :
    readExponent (first :: others) = readExponent ('+' :: first :: others) := by
  simp only [readExponent]
  split
  next same =>
    rw [(List.cons.inj same).1] at isDigit
    cases isDigit
  next same =>
    rw [(List.cons.inj same).1] at isDigit
    cases isDigit
  next => rfl

/-- An exponent is read back as it was written. -/
theorem readExponent_writeInt (exponent : Int) (ends : Ends rest) :
    readExponent (writeInt exponent rest) = some (exponent, rest) := by
  have span := spanDigits_toDigits exponent.natAbs fun character there => (ends character there).1
  unfold writeInt
  by_cases negative : exponent < 0
  · simp only [readExponent, negative, if_true, span, isEmpty_toDigits, Bool.false_eq_true, if_false,
      Nat.ofDigitChars_ten_toDigits]
    congr 2
    omega
  · obtain ⟨first, others, shown, isDigit⟩ := exists_toDigits_eq_cons exponent.natAbs
    rw [if_neg negative, shown, List.cons_append, readExponent_unsigned isDigit, ← List.cons_append,
      ← shown]
    simp only [readExponent, span, isEmpty_toDigits, Bool.false_eq_true, if_false,
      Nat.ofDigitChars_ten_toDigits]
    congr 2
    omega

/-- A numeral with an exponent is read up to what ends it. -/
theorem readMagnitude_scaled (negative : Bool) (digits : Nat) (exponent : Int) (ends : Ends rest) :
    readMagnitude negative (Nat.toDigits 10 digits ++ 'e' :: writeInt exponent rest) =
      some (ofNumeral negative (Nat.toDigits 10 digits) [] exponent, rest) := by
  have fraction : readFraction? ('e' :: writeInt exponent rest) =
      some (none, 'e' :: writeInt exponent rest) := rfl
  have scale : readExponent? ('e' :: writeInt exponent rest) = some (some exponent, rest) := by
    rw [readExponent?, readExponent_writeInt exponent ends, Option.map_some]
  rw [readMagnitude_toDigits negative digits (by simp), fraction, Option.bind_some, scale]
  rfl

/-- What a number is read as when it was written. -/
def Number.readBack : Number → Json
  | .integer value => ofWholeNumeral (value < 0) (Nat.toDigits 10 value.natAbs)
  | .decimal negative digits exponent => ofNumeral negative (Nat.toDigits 10 digits) [] exponent

/-- A digit is not skipped as white space. -/
theorem isBlank_of_isDigit {character : Char} (isDigit : character.isDigit = true) :
    isBlank character = false := by
  have solid : ∀ blank ∈ [' ', '\n', '\t', '\r'], character ≠ blank := by
    rintro blank there rfl
    simp only [List.mem_cons, List.not_mem_nil, or_false] at there
    rcases there with rfl | rfl | rfl | rfl <;> cases isDigit
  simpa [isBlank, and_assoc] using solid

/-- A value that begins with a digit is a number. -/
theorem readValue_toDigits (fuel number : Nat) (tail : List Char) :
    readValue (fuel + 1) (Nat.toDigits 10 number ++ tail) =
      readMagnitude false (Nat.toDigits 10 number ++ tail) := by
  obtain ⟨first, others, shown, isDigit⟩ := exists_toDigits_eq_cons number
  have skipped : skipBlanks (first :: (others ++ tail)) = first :: (others ++ tail) :=
    List.dropWhile_cons_of_neg (by simp [isBlank_of_isDigit isDigit])
  rw [shown, List.cons_append, readValue, skipped]
  split
  case h_8 => rfl
  all_goals
    next same =>
      cases same
      cases isDigit

/-- A minus sign makes the magnitude behind it negative. -/
theorem readValue_minus (fuel : Nat) (text : List Char) :
    readValue (fuel + 1) ('-' :: text) = readMagnitude true text :=
  rfl

/-- A number is read back up to what ends it. -/
theorem readValue_writeNumber (fuel : Nat) (number : Number) (ends : Ends rest) :
    readValue (fuel + 1) (writeNumber number rest) = some (number.readBack, rest) := by
  cases number with
  | integer value =>
    rw [writeNumber, writeInt, Number.readBack]
    by_cases negative : value < 0
    · rw [if_pos negative, readValue_minus, readMagnitude_whole true _ ends, decide_eq_true negative]
    · rw [if_neg negative, readValue_toDigits, readMagnitude_whole false _ ends,
        decide_eq_false negative]
  | decimal negative digits exponent =>
    rw [writeNumber, Number.readBack]
    cases negative with
    | true => exact readMagnitude_scaled true digits exponent ends
    | false => exact (readValue_toDigits _ _ _).trans (readMagnitude_scaled false digits exponent ends)

/-- The number comes back when it is written and read. -/
def Number.Survives (number : Number) : Prop :=
  read? (write (.number number)) = some (.number number)

/-- A number that is read has no depth, whatever its numeral. -/
theorem depth_ofNumeral (negative : Bool) (whole fraction : List Char) (exponent : Int) :
    (ofNumeral negative whole fraction exponent).depth = 0 := by
  simp only [ofNumeral]
  split <;> rfl

/-- A number that is read back has no depth. -/
theorem Number.depth_readBack (number : Number) : number.readBack.depth = 0 := by
  cases number with
  | integer value =>
    simp only [readBack, ofWholeNumeral]
    split
    · split
      · exact depth_ofNumeral _ _ _ _
      · rfl
    · split
      · rfl
      · exact depth_ofNumeral _ _ _ _
  | decimal negative digits exponent => exact depth_ofNumeral _ _ _ _

/-- A number survives exactly if it is read back as itself. -/
theorem Number.survives_iff {number : Number} :
    number.Survives ↔ number.readBack = .number number := by
  have whole := readValue_writeNumber (2 * (writeNumber number []).length + 1) number ends_nil
  have shallow : limitDepth depthLimit number.readBack = number.readBack :=
    limitDepth_of_depth_le (number.depth_readBack ▸ Nat.zero_le _)
  have read : read? (write (.number number)) = some number.readBack := by
    simp only [read?, write, String.toList_ofList, writeTo, whole, shallow]
    rfl
  rw [Survives, read, Option.some.injEq]

/-- The integers of 64 bits come back. -/
theorem Number.survives_integer {integer : Int} (fits : IsWord integer) :
    (Number.integer integer).Survives := by
  obtain ⟨least, greatest⟩ := fits
  rw [survives_iff, readBack, ofWholeNumeral, Nat.ofDigitChars_ten_toDigits]
  by_cases negative : integer < 0
  · have within : ¬ (integer.natAbs = 0 ∨ negativeCount < integer.natAbs) := by omega
    have same : -(integer.natAbs : Int) = integer := by omega
    simp only [negative, decide_true, if_true, within, if_false, same]
  · have within : integer.natAbs < wordCount := by omega
    have same : (integer.natAbs : Int) = integer := by omega
    simp only [negative, decide_false, Bool.false_eq_true, if_false, within, if_true, same]

/-!
## Strings
-/

/-- A short escape stands for its character in front of the rest of the string. -/
theorem readString_escaped {escape meant : Char} {text : List Char} (escapes : escape ≠ 'u')
    (short : shortEscape? escape = some meant) :
    readString none ('\\' :: escape :: text) =
      (readString none text).map (precede (some meant)) := by
  rw [readString, short]
  · rfl
  · exact fun _ _ _ _ _ same _ => escapes same

/-- A control character is read back from the escape by its code. -/
theorem readString_control {character : Char} {text : List Char} (control : character.toNat < 32) :
    readString none ('\\' :: 'u' :: '0' :: '0' :: hexDigit (character.toNat / 16)
        :: hexDigit (character.toNat % 16) :: text) =
      (readString none text).map (precede (some character)) := by
  have units : ∀ unit < 32, codeUnit? '0' '0' (hexDigit (unit / 16)) (hexDigit (unit % 16)) = some unit ∧
      opensPair unit = false ∧ closesPair unit = false := by decide
  obtain ⟨unit, single, last⟩ := units character.toNat control
  rw [readString, unit]
  simp only [single, last, Bool.false_eq_true, if_false, Char.ofNat_toNat]

/-- A character that needs no escape stands for itself. -/
theorem readString_plain {character : Char} {text : List Char} (notQuote : character ≠ '"')
    (notBackslash : character ≠ '\\') (printable : ¬ character.toNat < 32) :
    readString none (character :: text) = (readString none text).map (precede (some character)) := by
  rw [readString]
  · simp [notBackslash, printable]
  · exact notQuote
  · exact fun _ _ _ _ _ same _ => notBackslash same
  · exact fun _ _ same _ => notBackslash same

/-- A character is read back in front of the rest of its string. -/
theorem readString_writeChar (character : Char) (text : List Char) :
    readString none (writeChar character text) =
      (readString none text).map (precede (some character)) := by
  unfold writeChar
  split
  next same =>
    subst same
    exact readString_escaped (by decide) rfl
  split
  next same =>
    subst same
    exact readString_escaped (by decide) rfl
  split
  next same =>
    subst same
    exact readString_escaped (by decide) rfl
  split
  next same =>
    subst same
    exact readString_escaped (by decide) rfl
  split
  next same =>
    subst same
    exact readString_escaped (by decide) rfl
  split
  next same =>
    subst same
    exact readString_escaped (by decide) rfl
  split
  next same =>
    subst same
    exact readString_escaped (by decide) rfl
  split
  next control => exact readString_control control
  next notQuote notBackslash _ _ _ _ _ printable =>
    exact readString_plain notQuote notBackslash printable

/-- A string is read back from behind its opening quote. -/
theorem readString_writeString (text : String) (rest : List Char) :
    ∃ tail, writeString text rest = '"' :: tail ∧
      readString none tail = some (some text.toList, rest) := by
  refine ⟨_, rfl, ?_⟩
  have each (characters : List Char) :
      readString none (characters.foldr writeChar ('"' :: rest)) = some (some characters, rest) := by
    induction characters with
    | nil => rw [List.foldr_nil, readString]; rfl
    | cons first others inductionHypothesis =>
      rw [List.foldr_cons, readString_writeChar, inductionHypothesis]
      rfl
  exact each text.toList

/-!
## Values
-/

/-- A value is written as a character that is no blank and closes nothing, and more. -/
theorem exists_writeTo_eq_cons (value : Json) (rest : List Char) :
    ∃ first others, value.writeTo rest = first :: others ∧ isBlank first = false ∧ first ≠ ']' := by
  have ofDigits (number : Nat) (tail : List Char) : ∃ first others,
      Nat.toDigits 10 number ++ tail = first :: others ∧ isBlank first = false ∧ first ≠ ']' := by
    obtain ⟨first, others, shown, isDigit⟩ := exists_toDigits_eq_cons number
    refine ⟨first, others ++ tail, by rw [shown, List.cons_append], isBlank_of_isDigit isDigit, ?_⟩
    rintro rfl
    cases isDigit
  unfold writeTo
  split
  case h_4 number =>
    cases number with
    | integer value =>
      rw [writeNumber, writeInt]
      split
      · exact ⟨_, _, rfl, rfl, by decide⟩
      · exact ofDigits _ _
    | decimal negative digits exponent =>
      cases negative with
      | true => exact ⟨_, _, rfl, rfl, by decide⟩
      | false => exact ofDigits _ _
  all_goals exact ⟨_, _, rfl, rfl, by decide⟩

section Length

/-- A character that is written does not shorten the text. -/
theorem length_writeChar (character : Char) (rest : List Char) :
    rest.length ≤ (writeChar character rest).length := by
  unfold writeChar
  grind

/-- A string that is written makes the text longer, if only by its quotes. -/
theorem length_writeString (text : String) (rest : List Char) :
    rest.length < (writeString text rest).length := by
  have each (characters : List Char) :
      rest.length < (characters.foldr writeChar ('"' :: rest)).length := by
    induction characters with
    | nil => exact Nat.lt_succ_self _
    | cons first others inductionHypothesis =>
      exact Nat.lt_of_lt_of_le inductionHypothesis (length_writeChar _ _)
  exact Nat.lt_succ_of_lt (each text.toList)

/-- An integer that is written makes the text longer. -/
theorem length_writeInt (value : Int) (rest : List Char) :
    rest.length < (writeInt value rest).length := by
  have long := Nat.length_toDigits_pos (b := 10) (n := value.natAbs)
  unfold writeInt
  split <;> simp only [List.length_cons, List.length_append] <;> omega

/-- Items that are written do not shorten the text. -/
theorem length_writeItems {items : List Json}
    (longer : ∀ item ∈ items, ∀ rest, rest.length < (item.writeTo rest).length) (rest : List Char) :
    rest.length ≤ (writeItems items rest).length := by
  induction items with
  | nil => exact Nat.le_refl _
  | cons item others inductionHypothesis =>
    obtain ⟨first, longer⟩ := List.forall_mem_cons.1 longer
    have behind := inductionHypothesis longer
    have front := first (writeItems others rest)
    rw [writeItems, List.length_cons]
    omega

/-- Members that are written do not shorten the text. -/
theorem length_writeMembers {members : Members}
    (longer : ∀ member ∈ members, ∀ rest, rest.length < (member.2.writeTo rest).length)
    (rest : List Char) : rest.length ≤ (writeMembers members rest).length := by
  induction members with
  | nil => exact Nat.le_refl _
  | cons member others inductionHypothesis =>
    obtain ⟨name, value⟩ := member
    obtain ⟨first, longer⟩ := List.forall_mem_cons.1 longer
    have behind := inductionHypothesis longer
    have front := first (writeMembers others rest)
    have named := length_writeString name (':' :: value.writeTo (writeMembers others rest))
    rw [writeMembers, List.length_cons]
    simp only [List.length_cons] at named front
    omega

/-- A value takes at least one character. -/
theorem length_writeTo (value : Json) : ∀ rest, rest.length < (value.writeTo rest).length := by
  induction value using induction with
  | null | unreadable =>
    intro rest
    simp only [writeTo, List.length_cons]
    omega
  | bool flag =>
    intro rest
    cases flag <;> simp only [writeTo, List.length_cons] <;> omega
  | string text => exact length_writeString text
  | number number =>
    intro rest
    cases number with
    | integer value => exact length_writeInt value rest
    | decimal negative digits exponent =>
      have scale := length_writeInt exponent rest
      cases negative <;> simp [writeTo, writeNumber] <;> omega
  | array items inductionHypothesis =>
    intro rest
    cases items with
    | nil => simp only [writeTo, List.length_cons]; omega
    | cons item others =>
      obtain ⟨first, others'⟩ := List.forall_mem_cons.1 inductionHypothesis
      have front := first (writeItems others (']' :: rest))
      have behind := length_writeItems others' (']' :: rest)
      simp only [writeTo, List.length_cons] at behind ⊢
      omega
  | object members inductionHypothesis =>
    intro rest
    cases members with
    | nil => simp only [writeTo, List.length_cons]; omega
    | cons member others =>
      obtain ⟨name, value⟩ := member
      obtain ⟨first, others'⟩ := List.forall_mem_cons.1 inductionHypothesis
      have front := first (writeMembers others ('}' :: rest))
      have behind := length_writeMembers others' ('}' :: rest)
      have named := length_writeString name (':' :: value.writeTo (writeMembers others ('}' :: rest)))
      simp only [writeTo, List.length_cons] at behind named front ⊢
      omega

end Length

/-- The value is read as it was written, in front of what ends it and with enough fuel for all that is
left. -/
def Reads (value : Json) : Prop :=
  ∀ fuel rest, Ends rest → 2 * (value.writeTo rest).length + 2 ≤ fuel →
    readValue fuel (value.writeTo rest) = some (value, rest)

/-- Fuel that is enough for more than nothing can be spent once. -/
theorem exists_fuel {needed fuel : Nat} (enough : needed + 1 ≤ fuel) : ∃ less, fuel = less + 1 :=
  ⟨fuel - 1, by omega⟩

/-- Behind an item comes a comma or the closing bracket. -/
theorem ends_writeItems (items : List Json) : Ends (writeItems items (']' :: rest)) := by
  cases items with
  | nil => exact ends_bracket
  | cons item others => exact ends_comma

/-- Behind a member comes a comma or the closing brace. -/
theorem ends_writeMembers (members : Members) : Ends (writeMembers members ('}' :: rest)) := by
  cases members with
  | nil => exact ends_brace
  | cons member others => exact ends_comma

/-- Items that are read as they were written are so one behind the other. -/
theorem readItems_writeItems {first : Json} {others : List Json}
    (reads : ∀ item ∈ first :: others, Reads item) (fuel : Nat)
    (enough : 2 * (first.writeTo (writeItems others (']' :: rest))).length + 3 ≤ fuel) :
    readItems fuel (first.writeTo (writeItems others (']' :: rest))) =
      some (first :: others, rest) := by
  induction others generalizing first fuel with
  | nil =>
    obtain ⟨readsFirst, -⟩ := List.forall_mem_cons.1 reads
    obtain ⟨fuel, rfl⟩ := exists_fuel enough
    rw [readItems, readsFirst fuel _ (ends_writeItems []) (by omega)]
    rfl
  | cons second others inductionHypothesis =>
    obtain ⟨readsFirst, readsOthers⟩ := List.forall_mem_cons.1 reads
    obtain ⟨fuel, rfl⟩ := exists_fuel enough
    rw [readItems, readsFirst fuel _ (ends_writeItems _) (by omega)]
    have longer := length_writeTo first (writeItems (second :: others) (']' :: rest))
    have shorter : (writeItems (second :: others) (']' :: rest)).length =
      (second.writeTo (writeItems others (']' :: rest))).length + 1 := rfl
    have tail := inductionHypothesis readsOthers fuel (by omega)
    change (readItems fuel (second.writeTo (writeItems others (']' :: rest)))).map _ = _
    rw [tail, Option.map_some]

/-- An object is made of its members again. -/
theorem objectOf_map (members : Members) :
    objectOf (members.map fun member => (some member.1.toList, member.2)) = .object members := by
  have named : (members.map fun member => (some member.1.toList, member.2)).mapM
      (fun member : Option (List Char) × Json =>
        member.1.map fun name => (String.ofList name, member.2)) = some members :=
    mapM_map fun member _ => by simp
  rw [objectOf, named]

/-- Reads on behind a member: others follow, or the object ends. -/
def readBehind (fuel : Nat) (member : Option (List Char) × Json) (text : List Char) :
    Option (List (Option (List Char) × Json) × List Char) :=
  match skipBlanks text with
  | ',' :: rest => (readMembers fuel rest).map fun read => (member :: read.1, read.2)
  | '}' :: rest => some ([member], rest)
  | _ => none

/-- A member that is read as it was written leaves what stands behind it. -/
theorem readMembers_member {name : String} {value : Json} {tail : List Char} (reads : value.Reads)
    (ends : Ends tail) (fuel : Nat)
    (enough : 2 * (writeString name (':' :: value.writeTo tail)).length + 2 ≤ fuel) :
    readMembers (fuel + 1) (writeString name (':' :: value.writeTo tail)) =
      readBehind fuel (some name.toList, value) tail := by
  have named := length_writeString name (':' :: value.writeTo tail)
  rw [List.length_cons] at named
  have readValue := reads fuel tail ends (by omega)
  obtain ⟨rest, written, readName⟩ := readString_writeString name (':' :: value.writeTo tail)
  have quoted : skipBlanks ('"' :: rest) = '"' :: rest := rfl
  have colon (text : List Char) : skipBlanks (':' :: text) = ':' :: text := rfl
  rw [written, readMembers, quoted]
  simp only [readName, colon, readValue]
  rfl

/-- The same for members. -/
theorem readMembers_writeMembers {name : String} {first : Json} {others : Members}
    (reads : ∀ member ∈ (name, first) :: others, Reads member.2) (fuel : Nat)
    (enough : 2 * (writeString name
      (':' :: first.writeTo (writeMembers others ('}' :: rest)))).length + 3 ≤ fuel) :
    readMembers fuel (writeString name (':' :: first.writeTo (writeMembers others ('}' :: rest)))) =
      some (((name, first) :: others).map fun member => (some member.1.toList, member.2), rest) := by
  induction others generalizing name first fuel with
  | nil =>
    have readsFirst : first.Reads := reads _ List.mem_cons_self
    obtain ⟨fuel, rfl⟩ := exists_fuel enough
    rw [readMembers_member readsFirst (ends_writeMembers []) fuel (by omega)]
    rfl
  | cons second others inductionHypothesis =>
    have readsFirst : first.Reads := reads _ List.mem_cons_self
    have readsOthers := (List.forall_mem_cons.1 reads).2
    obtain ⟨fuel, rfl⟩ := exists_fuel enough
    have named := length_writeString name
      (':' :: first.writeTo (writeMembers (second :: others) ('}' :: rest)))
    have longer := length_writeTo first (writeMembers (second :: others) ('}' :: rest))
    have shorter : (writeMembers (second :: others) ('}' :: rest)).length = (writeString second.1
      (':' :: second.2.writeTo (writeMembers others ('}' :: rest)))).length + 1 := rfl
    rw [List.length_cons] at named
    have tail := inductionHypothesis readsOthers fuel (by omega)
    rw [readMembers_member readsFirst (ends_writeMembers _) fuel (by omega)]
    change (readMembers fuel (writeString second.1
      (':' :: second.2.writeTo (writeMembers others ('}' :: rest))))).map _ = _
    rw [tail, Option.map_some]
    rfl

/-- A string is read back as it was written. -/
theorem reads_string (text : String) : Reads (.string text) := by
  intro fuel rest ends enough
  obtain ⟨fuel, rfl⟩ := exists_fuel enough
  obtain ⟨tail, written, readText⟩ := readString_writeString text rest
  change readValue (fuel + 1) (writeString text rest) = _
  rw [written]
  change (readString none tail).map _ = _
  rw [readText]
  simp

/-- A number that survives is read back as it was written. -/
theorem reads_number {number : Number} (survives : number.Survives) : Reads (.number number) := by
  intro fuel rest ends enough
  obtain ⟨fuel, rfl⟩ := exists_fuel enough
  have read := readValue_writeNumber fuel number ends
  rwa [Number.survives_iff.1 survives] at read

/-- An array is read back if its items are. -/
theorem reads_array {items : List Json} (reads : ∀ item ∈ items, Reads item) :
    Reads (.array items) := by
  intro fuel rest ends enough
  obtain ⟨fuel, rfl⟩ := exists_fuel enough
  cases items with
  | nil => rfl
  | cons first others =>
    have items : readItems fuel (first.writeTo (writeItems others (']' :: rest))) =
        some (first :: others, rest) :=
      readItems_writeItems reads fuel
        (by simp only [writeTo, List.length_cons] at enough; omega)
    obtain ⟨character, tail, written, solid, opens⟩ :=
      exists_writeTo_eq_cons first (writeItems others (']' :: rest))
    have opened : skipBlanks ('[' :: character :: tail) = '[' :: character :: tail := rfl
    have skipped : skipBlanks (character :: tail) = character :: tail :=
      List.dropWhile_cons_of_neg (by simp [solid])
    rw [written] at items
    rw [writeTo, written, readValue, opened]
    simp only [skipped]
    split
    next same => exact absurd (List.cons.inj same).1 opens
    next => rw [items, Option.map_some]

/-- An object is read back if the values of its members are. -/
theorem reads_object {members : Members} (reads : ∀ member ∈ members, Reads member.2) :
    Reads (.object members) := by
  intro fuel rest ends enough
  obtain ⟨fuel, rfl⟩ := exists_fuel enough
  cases members with
  | nil => rfl
  | cons first others =>
    have members : readMembers fuel
        (writeString first.1 (':' :: first.2.writeTo (writeMembers others ('}' :: rest)))) =
          some ((first :: others).map fun member => (some member.1.toList, member.2), rest) :=
      readMembers_writeMembers reads fuel
        (by simp only [writeTo, List.length_cons] at enough; omega)
    change (readMembers fuel
      (writeString first.1 (':' :: first.2.writeTo (writeMembers others ('}' :: rest))))).map _ = _
    rw [members, Option.map_some, objectOf_map]

/-- Whatever can be read in full and has only numbers that come back is read as it was written. -/
theorem reads_of_survive {value : Json} (readable : value.readable = true)
    (survive : ∀ number ∈ value.numbers, number.Survives) : value.Reads := by
  induction value using induction with
  | unreadable => cases readable
  | null =>
    intro fuel rest ends enough
    obtain ⟨fuel, rfl⟩ := exists_fuel enough
    rfl
  | bool flag =>
    intro fuel rest ends enough
    obtain ⟨fuel, rfl⟩ := exists_fuel enough
    cases flag <;> rfl
  | number number => exact reads_number (survive number List.mem_cons_self)
  | string text => exact reads_string text
  | array items inductionHypothesis =>
    refine reads_array fun item there => ?_
    exact inductionHypothesis item there (readableItems_iff.1 readable item there)
      fun number occurs => survive number (mem_numbersOfItems.2 ⟨item, there, occurs⟩)
  | object members inductionHypothesis =>
    refine reads_object fun member there => ?_
    exact inductionHypothesis member there (readableMembers_iff.1 readable member there)
      fun number occurs => survive number (mem_numbersOfMembers.2 ⟨member, there, occurs⟩)

/-- What is written can be read. -/
theorem read?_write {value : Json} (readable : value.readable = true)
    (shallow : value.depth ≤ depthLimit) (survive : ∀ number ∈ value.numbers, number.Survives) :
    read? (write value) = some value := by
  have reads := reads_of_survive readable survive (2 * (value.writeTo []).length + 2) [] ends_nil
    (Nat.le_refl _)
  simp only [read?, write, String.toList_ofList, reads, limitDepth_of_depth_le shallow]
  rfl

/-- The decimals in the value come back. -/
def DecimalsSurvive (value : Json) : Prop :=
  ∀ negative digits exponent, .decimal negative digits exponent ∈ value.numbers →
    (Number.decimal negative digits exponent).Survives

/-- A sound value can be written and read if its decimals come back. -/
theorem Sound.read?_write {value : Json} (sound : Sound depthLimit value)
    (survive : value.DecimalsSurvive) : read? (write value) = some value := by
  refine Json.read?_write sound.readable sound.shallow fun number occurs => ?_
  cases number with
  | integer integer => exact Number.survives_integer (sound.inRange integer occurs)
  | decimal negative digits exponent => exact survive negative digits exponent occurs

end FabricUpgrade.Json
