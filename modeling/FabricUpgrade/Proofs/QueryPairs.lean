import FabricUpgrade.Text.Url

/-!
# Query pairs read back

Pairs that are appended to the query of a URL are written so that whoever reads the query gets them
back behind the pairs that were there before (`Url.pairs_appendQuery`): a text is read back from its
bytes, the bytes are read back from their percent-encoding, and what stands between pairs and
between the sides of a pair never comes out of an encoding.
-/

namespace FabricUpgrade.Text

namespace Utf8

/-- A first byte announces a character that goes on with the second one, behind which some bytes are
still missing. -/
structure Lead.Announces (lead : Lead) (missing bits second : Nat) : Prop where
  following : lead.following = missing + 1
  bits : lead.bits = bits
  least : lead.least ≤ second
  greatest : second ≤ lead.greatest

/-- The first byte of two announces one more. -/
theorem lead?_of_two {point : Nat} (least : 0x7F < point) (most : point ≤ 0x7FF) :
    ∃ lead, lead? (point / 64 % 32 + 192) = some lead ∧
      lead.Announces 0 (point / 64) (point % 64 + 128) := by
  refine ⟨_, if_pos (by omega), rfl, ?_, ?_, ?_⟩ <;> simp only <;> omega

/-- The first byte of three announces two more. -/
theorem lead?_of_three {point : Nat} (least : 0x7FF < point) (most : point ≤ 0xFFFF)
    (valid : point.isValidChar) :
    ∃ lead, lead? (point / 4096 % 16 + 224) = some lead ∧
      lead.Announces 1 (point / 4096) (point / 64 % 64 + 128) := by
  have apart : point < 0xD800 ∨ 0xDFFF < point := by
    rcases valid with low | ⟨high, -⟩
    · exact .inl low
    · exact .inr high
  unfold lead?
  rw [if_neg (by omega)]
  split
  · refine ⟨_, rfl, rfl, ?_, ?_, ?_⟩ <;> simp only <;> omega
  · split
    · refine ⟨_, rfl, rfl, ?_, ?_, ?_⟩ <;> simp only <;> omega
    · rw [if_pos (by omega)]
      refine ⟨_, rfl, rfl, ?_, ?_, ?_⟩ <;> simp only <;> omega

/-- The first byte of four announces three more. -/
theorem lead?_of_four {point : Nat} (least : 0xFFFF < point) (valid : point.isValidChar) :
    ∃ lead, lead? (point / 262144 % 8 + 240) = some lead ∧
      lead.Announces 2 (point / 262144) (point / 4096 % 64 + 128) := by
  have most : point < 0x110000 := by
    rcases valid with low | ⟨-, high⟩
    · omega
    · exact high
  unfold lead?
  rw [if_neg (by omega), if_neg (by omega), if_neg (by omega), if_neg (by omega)]
  split
  · refine ⟨_, rfl, rfl, ?_, ?_, ?_⟩ <;> simp only <;> omega
  · split
    · refine ⟨_, rfl, rfl, ?_, ?_, ?_⟩ <;> simp only <;> omega
    · rw [if_pos (by omega)]
      refine ⟨_, rfl, rfl, ?_, ?_, ?_⟩ <;> simp only <;> omega

/-- A byte inside the bounds goes on with the character. -/
theorem continue?_cons {missing least greatest bits taken : Nat} {value : Nat} {rest : Bytes}
    (inside : least ≤ value ∧ value ≤ greatest) (small : value < 256) :
    continue? (missing + 1) least greatest bits taken (UInt8.ofNat value :: rest) =
      continue? missing 0x80 0xBF (bits * 64 + (value - 0x80)) (taken + 1) rest := by
  rw [continue?, UInt8.toNat_ofNat_of_lt' small, if_pos inside]

/-- The first two bytes of a character that takes more than one. -/
theorem piece?_of_announces {first second missing bits : Nat} {lead : Lead} {rest : Bytes}
    (announced : lead? first = some lead) (announces : lead.Announces missing bits second)
    (range : 0x80 ≤ first ∧ first < 256) (small : second < 256) :
    piece? (UInt8.ofNat first :: UInt8.ofNat second :: rest) =
      some (continue? missing 0x80 0xBF (bits * 64 + (second - 0x80)) 2 rest) := by
  rw [piece?, UInt8.toNat_ofNat_of_lt' range.2, if_neg (by omega), announced]
  simp only [announces.following, announces.bits]
  rw [continue?_cons ⟨announces.least, announces.greatest⟩ small]

/-- The bytes of a character are read as the character, whatever follows them. -/
theorem piece?_utf8EncodeChar (character : Char) (rest : Bytes) :
    piece? (String.utf8EncodeChar character ++ rest) = some (.character character, rest) := by
  have back : Char.ofNat character.val.toNat = character := Char.ofNat_toNat character
  have valid : character.val.toNat.isValidChar := character.valid
  unfold String.utf8EncodeChar
  generalize character.val.toNat = point at back valid
  simp only
  split
  case isTrue one =>
    rw [List.singleton_append, piece?, UInt8.toNat_ofNat_of_lt' (by omega : _ < 256),
      if_pos (by omega), back]
  case isFalse least =>
    split
    case isTrue most =>
      obtain ⟨lead, announced, announces⟩ := lead?_of_two (Nat.lt_of_not_le least) most
      have whole : point / 64 * 64 + (point % 64 + 128 - 128) = point := by omega
      simp only [List.cons_append, List.nil_append]
      rw [piece?_of_announces announced announces (by omega) (by omega), continue?, whole, back]
    case isFalse least =>
      split
      case isTrue most =>
        obtain ⟨lead, announced, announces⟩ :=
          lead?_of_three (Nat.lt_of_not_le least) most valid
        have whole : (point / 4096 * 64 + (point / 64 % 64 + 128 - 128)) * 64 +
            (point % 64 + 128 - 128) = point := by omega
        simp only [List.cons_append, List.nil_append]
        rw [piece?_of_announces announced announces (by omega) (by omega),
          continue?_cons (by omega) (by omega), continue?, whole, back]
      case isFalse least =>
        obtain ⟨lead, announced, announces⟩ := lead?_of_four (Nat.lt_of_not_le least) valid
        have whole : ((point / 262144 * 64 + (point / 4096 % 64 + 128 - 128)) * 64 +
            (point / 64 % 64 + 128 - 128)) * 64 + (point % 64 + 128 - 128) = point := by omega
        simp only [List.cons_append, List.nil_append]
        rw [piece?_of_announces announced announces (by omega) (by omega),
          continue?_cons (by omega) (by omega), continue?_cons (by omega) (by omega), continue?,
          whole, back]

/-- The bytes of characters are read as those characters. -/
theorem replaceFrom_flatMap {bound : Nat} {characters : List Char}
    (enough : characters.length ≤ bound) :
    replaceFrom bound (characters.flatMap String.utf8EncodeChar) = characters := by
  induction bound generalizing characters with
  | zero =>
    obtain rfl := List.length_eq_zero_iff.1 (Nat.le_zero.1 enough)
    rfl
  | succ bound inductionHypothesis =>
    cases characters with
    | nil => rfl
    | cons character rest =>
      rw [List.flatMap_cons, replaceFrom, piece?_utf8EncodeChar]
      exact congrArg (character :: ·) (inductionHypothesis (Nat.le_of_succ_le_succ enough))

/-- Characters are no longer than their bytes. -/
theorem length_le_flatMap (characters : List Char) :
    characters.length ≤ (characters.flatMap String.utf8EncodeChar).length := by
  induction characters with
  | nil => exact Nat.le_refl 0
  | cons character rest inductionHypothesis =>
    have bytes := List.length_pos_iff.2 (String.utf8EncodeChar_ne_nil (c := character))
    rw [List.flatMap_cons, List.length_append, List.length_cons]
    omega

/-- A text is read back from its bytes. -/
theorem decodeReplacing_encode (text : String) : decodeReplacing (encode text) = text := by
  rw [decodeReplacing, encode, replaceFrom_flatMap (length_le_flatMap _), String.ofList_toList]

end Utf8

namespace Percent

variable {mustEncode : Char → Bool} {character : Char} {characters rest : List Char} {bytes : Bytes}

/-- A byte that is encoded is decoded. -/
theorem decode_encodeByte (byte : UInt8) (rest : List Char) :
    decode (encodeByte byte ++ rest) = byte :: decode rest := by
  have small := byte.toNat_lt
  have high : hexValue? (hexDigit (byte.toNat / 16)) = some _ := hexValue?_hexDigit (by omega)
  have low : hexValue? (hexDigit (byte.toNat % 16)) = some _ := hexValue?_hexDigit (by omega)
  have whole : byte.toNat / 16 * 16 + byte.toNat % 16 = byte.toNat := Nat.div_add_mod' _ _
  simp only [encodeByte, List.cons_append, List.nil_append, decode, high, low, whole]
  rw [Nat.toUInt8_eq, UInt8.ofNat_toNat]

/-- Bytes that are encoded are decoded in front of any rest. -/
theorem decode_encodeBytes (bytes : Bytes) (rest : List Char) :
    decode (bytes.flatMap encodeByte ++ rest) = bytes ++ decode rest := by
  induction bytes with
  | nil => rfl
  | cons byte others inductionHypothesis =>
    rw [List.flatMap_cons, List.append_assoc, decode_encodeByte, inductionHypothesis,
      List.cons_append]

/-- A character other than the percent sign is decoded as itself. -/
theorem decode_cons_of_ne (plain : character ≠ '%') (rest : List Char) :
    decode (character :: rest) = String.utf8EncodeChar character ++ decode rest := by
  cases rest with
  | nil => simp [decode]
  | cons second others => cases others <;> simp [decode, plain]

/-- What is encoded decodes to the bytes of the text, if percent signs are encoded as well. -/
theorem decode_encode (percent : mustEncode '%' = true) (characters rest : List Char) :
    decode (encode mustEncode characters ++ rest) =
      characters.flatMap String.utf8EncodeChar ++ decode rest := by
  induction characters with
  | nil => rfl
  | cons character others inductionHypothesis =>
    rw [encode, List.flatMap_cons, ← encode, List.append_assoc, List.flatMap_cons,
      List.append_assoc]
    cases encodes : mustEncode character with
    | true => rw [if_pos rfl, decode_encodeBytes, inductionHypothesis]
    | false =>
      have plain : character ≠ '%' := by
        rintro rfl
        rw [percent] at encodes
        cases encodes
      rw [if_neg (by decide), List.singleton_append, decode_cons_of_ne plain, inductionHypothesis]

/-- The characters of an encoding are those that need none, percent signs and hexadecimal digits. -/
theorem mem_encode (there : character ∈ encode mustEncode characters) :
    (character ∈ characters ∧ mustEncode character = false) ∨ character = '%' ∨
      ∃ value < 16, character = hexDigit value := by
  obtain ⟨original, given, there⟩ := List.mem_flatMap.1 there
  cases encodes : mustEncode original with
  | true =>
    rw [encodes, if_pos rfl] at there
    obtain ⟨byte, -, there⟩ := List.mem_flatMap.1 there
    have small := byte.toNat_lt
    simp only [encodeByte, List.mem_cons, List.not_mem_nil, or_false] at there
    rcases there with percent | high | low
    · exact .inr (.inl percent)
    · exact .inr (.inr ⟨_, by omega, high⟩)
    · exact .inr (.inr ⟨_, by omega, low⟩)
  | false =>
    rw [encodes, if_neg (by decide)] at there
    obtain rfl := List.mem_singleton.1 there
    exact .inl ⟨given, encodes⟩

end Percent

/-- A text is split at a separator into what the parts in front of it and behind it are split into. -/
theorem splitAt_append_cons {test : Char → Bool} {separator : Char} (cuts : test separator = true)
    (first second : List Char) :
    splitAt test (first ++ separator :: second) = splitAt test first ++ splitAt test second := by
  induction first with
  | nil =>
    simp [splitAt, cuts]
  | cons character rest inductionHypothesis =>
    rw [List.cons_append, splitAt, splitAt, inductionHypothesis]
    split
    · rfl
    · cases parts : splitAt test rest with
      | nil => exact absurd parts (splitAt_ne_nil test rest)
      | cons part others => rfl

namespace Url

open Percent

/-- One side of a query pair with its encoding undone. -/
def formDecode (text : List Char) : String :=
  Utf8.decodeReplacing
    (decode (text.map fun character => if character = '+' then ' ' else character))

/-- The pair that a piece of a query reads as; what stands behind the first equals sign is the
value. -/
def pairOf (piece : List Char) : String × String :=
  let name := piece.takeWhile (· ≠ '=')
  (formDecode name, formDecode ((piece.drop name.length).drop 1))

/-- The pairs that a query reads as: the pieces between ampersands, but for empty ones. -/
def pairsOf (query : List Char) : List (String × String) :=
  ((splitAt (· = '&') query).filter fun piece => !piece.isEmpty).map pairOf

/-- The pairs in the query of a URL, as a server reads them. -/
def pairs (url : Url) : List (String × String) :=
  pairsOf (url.query.getD "").toList

/-- The characters that are encoded in a side of a pair. -/
def inFormSet (character : Char) : Bool :=
  !(character.isAlphanum || character ∈ ['*', '-', '.', '_', ' '])

/-- A text of a form is percent-encoded with a plus sign for each space. -/
theorem toList_formEncode (text : String) :
    (formEncode text).toList = (encode inFormSet text.toList).map
      fun character => if character = ' ' then '+' else character :=
  String.toList_ofList

/-- The digits of an encoded byte are letters and digits. -/
theorem hexDigit_isAlphanum {value : Nat} (small : value < 16) :
    (hexDigit value).isAlphanum = true := by
  have all : ∀ value < 16, (hexDigit value).isAlphanum = true := by decide
  exact all value small

/-- Before blanks become plus signs an encoded side has none of the characters that mean something
between pairs. -/
theorem plain_of_mem_encode {text : List Char} {character : Char}
    (there : character ∈ encode inFormSet text) :
    character ≠ '+' ∧ character ≠ '&' ∧ character ≠ '=' := by
  rcases mem_encode there with ⟨-, kept⟩ | rfl | ⟨value, small, rfl⟩
  · refine ⟨?_, ?_, ?_⟩ <;> rintro rfl <;> revert kept <;> decide
  · decide
  · have letter := hexDigit_isAlphanum small
    refine ⟨?_, ?_, ?_⟩ <;> intro same <;> rw [same] at letter <;> revert letter <;> decide

/-- One side of a pair is read back from its encoding. -/
theorem formDecode_formEncode (text : String) : formDecode (formEncode text).toList = text := by
  have spaced :
      (formEncode text).toList.map (fun character => if character = '+' then ' ' else character) =
        encode inFormSet text.toList := by
    rw [toList_formEncode, List.map_map]
    refine (List.map_congr_left fun character there => ?_).trans (List.map_id _)
    have noPlus := (plain_of_mem_encode there).1
    by_cases blank : character = ' '
    · simp [blank]
    · simp [blank, noPlus]
  have decoded := decode_encode (by decide : inFormSet '%' = true) text.toList []
  rw [List.append_nil, decode, List.append_nil] at decoded
  rw [formDecode, spaced, decoded]
  exact Utf8.decodeReplacing_encode text

/-- Neither of the separators of a form stands in an encoded text. -/
theorem plain_of_mem_formEncode {text : String} {character : Char}
    (there : character ∈ (formEncode text).toList) : character ≠ '&' ∧ character ≠ '=' := by
  rw [toList_formEncode] at there
  obtain ⟨original, given, rfl⟩ := List.mem_map.1 there
  split
  · decide
  · exact (plain_of_mem_encode given).2

/-- The text of a pair. -/
def pairText (pair : String × String) : List Char :=
  (formEncode pair.1).toList ++ '=' :: (formEncode pair.2).toList

/-- A pair is read back. -/
theorem pairOf_pairText (pair : String × String) : pairOf (pairText pair) = pair := by
  have name : (pairText pair).takeWhile (· ≠ '=') = (formEncode pair.1).toList := by
    rw [pairText, List.takeWhile_append_of_pos, List.takeWhile_cons_of_neg, List.append_nil]
    · decide
    · intro character there
      simpa using (plain_of_mem_formEncode there).2
  have value : ((pairText pair).drop (formEncode pair.1).toList.length).drop 1 =
      (formEncode pair.2).toList := by
    rw [pairText, List.drop_left]
    rfl
  rw [pairOf, name]
  simp only [value, formDecode_formEncode]

/-- The pairs of a form are those in front of a separator and those behind it. -/
theorem pairsOf_append (first second : List Char) :
    pairsOf (first ++ '&' :: second) = pairsOf first ++ pairsOf second := by
  rw [pairsOf, splitAt_append_cons (by decide), List.filter_append, List.map_append]
  rfl

/-- The text of one pair is read as that pair. -/
theorem pairsOf_pairText (pair : String × String) : pairsOf (pairText pair) = [pair] := by
  have whole : splitAt (· = '&') (pairText pair) = [pairText pair] := by
    refine splitAt_of_all_not fun character there => ?_
    rw [pairText, List.mem_append, List.mem_cons] at there
    rcases there with name | rfl | value
    · simpa using (plain_of_mem_formEncode name).1
    · decide
    · simpa using (plain_of_mem_formEncode value).1
  have given : (pairText pair).isEmpty = false := by simp [pairText]
  rw [pairsOf, whole, List.filter_cons_of_pos (by rw [given]; rfl), List.filter_nil,
    List.map_singleton, pairOf_pairText]

/-- A form is written as its pairs with separators in between. -/
theorem toList_formText (pairs : List (String × String)) :
    (formText pairs).toList = List.intercalate ['&'] (pairs.map pairText) := by
  have separator : "&".toList = ['&'] := by decide
  rw [formText, String.toList_intercalate, separator, List.map_map]
  refine congrArg _ (List.map_congr_left fun pair _ => ?_)
  simp [pairText, String.toList_append]

/-- The pairs of a form are read back. -/
theorem pairsOf_formText (pairs : List (String × String)) :
    pairsOf (formText pairs).toList = pairs := by
  rw [toList_formText]
  induction pairs with
  | nil => rfl
  | cons pair rest inductionHypothesis =>
    cases rest with
    | nil =>
      rw [List.map_singleton, List.intercalate_singleton, pairsOf_pairText]
    | cons second others =>
      rw [List.map_cons, List.map_cons, List.intercalate_cons_cons, ← List.map_cons,
        List.append_assoc, List.singleton_append, pairsOf_append, pairsOf_pairText,
        inductionHypothesis, List.singleton_append]

/-- Appended pairs are read behind those that were there. -/
theorem pairs_appendQuery (new : List (String × String)) (url : Url) :
    (url.appendQuery new).pairs = url.pairs ++ new := by
  have unsplit (text : String) : (if text = "" then none else some text).getD "" = text := by
    split
    case isTrue empty => exact empty.symm
    case isFalse => rfl
  have read := pairsOf_formText new
  rw [pairs, pairs, appendQuery, unsplit]
  generalize url.query.getD "" = old
  by_cases oldEmpty : old = ""
  · rw [if_pos (.inl oldEmpty), oldEmpty, String.empty_append, read]
    rfl
  · by_cases newEmpty : formText new = ""
    · rw [newEmpty] at read
      rw [if_pos (.inr newEmpty), newEmpty, String.append_empty, ← read]
      exact (List.append_nil _).symm
    · rw [if_neg (not_or.2 ⟨oldEmpty, newEmpty⟩), String.toList_append, String.toList_append,
        List.append_assoc]
      exact (pairsOf_append _ _).trans (congrArg _ read)

example : pairsOf (formText [("component_type", "EDGE"), ("cursor", "a&b=c d")]).toList =
    [("component_type", "EDGE"), ("cursor", "a&b=c d")] := by
  decide +kernel

end Url

end FabricUpgrade.Text
