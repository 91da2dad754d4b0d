import Mathlib.Data.List.Flatten
import FabricUpgrade.Proofs.QueryPairs
import FabricUpgrade.Proofs.Trimming
import FabricUpgrade.Text.Url.Path

/-!
# Segments of paths

A segment that a URL shows is read back by undoing its percent-encodings.  That gives back the text
that was given for it exactly if there was no encoding in that text.  Where the segments of a path
are resolved, what stands in front of the last ones leaves segments behind that do not depend on
them.
-/

namespace FabricUpgrade.Text

namespace Utf8

/-- Characters that have the same bytes are the same. -/
theorem flatMap_injective {first second : List Char}
    (same : first.flatMap String.utf8EncodeChar = second.flatMap String.utf8EncodeChar) :
    first = second := by
  have back := decodeReplacing_encode
  have texts : String.ofList first = String.ofList second := by
    rw [← back (String.ofList first), ← back (String.ofList second)]
    simp only [encode, String.toList_ofList, same]
  exact String.ofList_injective texts

/-- Different texts are encoded by different bytes. -/
theorem encode_injective : Function.Injective encode := fun _ _ same =>
  String.toList_injective (flatMap_injective same)

/-- A part of a text that takes as many bytes is all of it. -/
theorem eq_of_sublist {part whole : List Char} (sublist : part.Sublist whole)
    (bytes : (whole.flatMap String.utf8EncodeChar).length ≤
      (part.flatMap String.utf8EncodeChar).length) : part = whole := by
  have among : (part.flatMap String.utf8EncodeChar).Sublist
      (whole.flatMap String.utf8EncodeChar) := sublist.flatMap _
  exact flatMap_injective (among.eq_of_length_le bytes)

end Utf8

namespace Percent

/-- The text begins with two hexadecimal digits. -/
def BeginsHex (text : List Char) : Prop :=
  ∃ first second rest high low, text = first :: second :: rest ∧
    hexValue? first = some high ∧ hexValue? second = some low

/-- The text has a percent sign with two hexadecimal digits behind it. -/
def HasEncoding (text : List Char) : Prop :=
  ∃ before after, text = before ++ '%' :: after ∧ BeginsHex after

variable {mustEncode : Char → Bool} {character : Char} {text rest : List Char}

/-- A text has an encoding in it exactly if one begins it or stands in the rest. -/
theorem hasEncoding_cons_iff : HasEncoding (character :: text) ↔
    HasEncoding text ∨ (character = '%' ∧ BeginsHex text) := by
  constructor
  · rintro ⟨before, after, split, hex⟩
    cases before with
    | nil =>
      obtain ⟨rfl, rfl⟩ := List.cons.inj split
      exact .inr ⟨rfl, hex⟩
    | cons _ before =>
      obtain ⟨-, rfl⟩ := List.cons.inj split
      exact .inl ⟨before, after, rfl, hex⟩
  · rintro (⟨before, after, rfl, hex⟩ | ⟨rfl, hex⟩)
    · exact ⟨character :: before, after, rfl, hex⟩
    · exact ⟨[], text, rfl, hex⟩

theorem not_hasEncoding_nil : ¬ HasEncoding [] := by
  rintro ⟨before, after, split, -⟩
  simp at split

/-- A character stands for itself unless it is a percent sign in front of two digits. -/
theorem decode_cons (plain : character = '%' → ¬ BeginsHex text) :
    decode (character :: text) = String.utf8EncodeChar character ++ decode text := by
  by_cases percent : character = '%'
  · subst percent
    have plain := plain rfl
    match text with
    | [] => rfl
    | [_] => rfl
    | first :: second :: rest =>
      rw [decode]
      cases high : hexValue? first with
      | none => rfl
      | some _ =>
        cases low : hexValue? second with
        | none => rfl
        | some _ => exact absurd ⟨first, second, rest, _, _, rfl, high, low⟩ plain
  · exact decode_cons_of_ne percent text

/-- Two digits behind a percent sign are decoded as their byte. -/
theorem decode_encoded {first second : Char} {high low : Nat} (isHigh : hexValue? first = some high)
    (isLow : hexValue? second = some low) :
    decode ('%' :: first :: second :: text) = (high * 16 + low).toUInt8 :: decode text := by
  simp [decode, isHigh, isLow]

/-- A text is empty, or it begins with an encoding or with a character that stands for itself. -/
@[elab_as_elim]
theorem decode_induction {motive : List Char → Prop} (nil : motive [])
    (encoded : ∀ first second rest high low, hexValue? first = some high →
      hexValue? second = some low → motive rest → motive ('%' :: first :: second :: rest))
    (plain : ∀ character rest, (character = '%' → ¬ BeginsHex rest) → motive rest →
      motive (character :: rest)) (text : List Char) : motive text := by
  fun_induction decode text with
  | case1 first second rest high low isLow isHigh inductionHypothesis =>
    exact encoded first second rest high low isHigh isLow inductionHypothesis
  | case2 first second rest unread inductionHypothesis =>
    refine plain '%' (first :: second :: rest) (fun _ => ?_) inductionHypothesis
    rintro ⟨_, _, _, high, low, same, isHigh, isLow⟩
    cases same
    exact unread high low isHigh isLow
  | case3 character rest noHex inductionHypothesis =>
    refine plain character rest (fun percent => ?_) inductionHypothesis
    rintro ⟨first, second, others, _, _, same, -, -⟩
    exact noHex first second others percent same
  | case4 => exact nil

/-- A text without an encoding decodes to its bytes, one with an encoding to fewer. -/
theorem decode_cases (text : List Char) :
    (¬ HasEncoding text ∧ decode text = text.flatMap String.utf8EncodeChar) ∨
      (HasEncoding text ∧
        (decode text).length < (text.flatMap String.utf8EncodeChar).length) := by
  induction text using decode_induction with
  | nil => exact .inl ⟨not_hasEncoding_nil, rfl⟩
  | encoded first second rest high low isHigh isLow inductionHypothesis =>
    refine .inr ⟨⟨[], _, rfl, first, second, rest, _, _, rfl, isHigh, isLow⟩, ?_⟩
    have atMost : (decode rest).length ≤ (rest.flatMap String.utf8EncodeChar).length := by
      rcases inductionHypothesis with ⟨-, whole⟩ | ⟨-, shorter⟩
      · exact Nat.le_of_eq (congrArg List.length whole)
      · exact Nat.le_of_lt shorter
    have bytes (character : Char) : 0 < (String.utf8EncodeChar character).length :=
      List.length_pos_iff.2 String.utf8EncodeChar_ne_nil
    have percent := bytes '%'
    have firstBytes := bytes first
    rw [decode_encoded isHigh isLow]
    simp only [List.flatMap_cons, List.length_append, List.length_cons]
    omega
  | plain character rest plain inductionHypothesis =>
    have same : HasEncoding (character :: rest) ↔ HasEncoding rest :=
      hasEncoding_cons_iff.trans (or_iff_left fun ⟨percent, hex⟩ => plain percent hex)
    rw [same, decode_cons plain, List.flatMap_cons, List.length_append, List.length_append]
    rcases inductionHypothesis with ⟨bare, whole⟩ | ⟨encoded, shorter⟩
    · exact .inl ⟨bare, by rw [whole]⟩
    · exact .inr ⟨encoded, by omega⟩

/-- Decoding leaves a text alone exactly if there is no encoding in it. -/
theorem decode_eq_iff :
    decode text = text.flatMap String.utf8EncodeChar ↔ ¬ HasEncoding text := by
  rcases decode_cases text with ⟨bare, whole⟩ | ⟨encoded, shorter⟩
  · exact iff_of_true whole bare
  · exact iff_of_false (fun whole => absurd (congrArg List.length whole) (Nat.ne_of_lt shorter))
      (not_not_intro encoded)

/-- A text that is decoded has no more bytes than before. -/
theorem length_decode_le (text : List Char) :
    (decode text).length ≤ (text.flatMap String.utf8EncodeChar).length := by
  rcases decode_cases text with ⟨-, whole⟩ | ⟨-, shorter⟩
  · exact Nat.le_of_eq (congrArg List.length whole)
  · exact Nat.le_of_lt shorter

/-- A text is encoded character by character. -/
theorem encode_cons (character : Char) (text : List Char) :
    encode mustEncode (character :: text) = (if mustEncode character then
      (String.utf8EncodeChar character).flatMap encodeByte else [character]) ++
        encode mustEncode text :=
  List.flatMap_cons

/-- Where an encoding begins with a digit, the text does. -/
theorem encode_eq_cons_of_hex {first : Char} {value : Nat}
    (begins : encode mustEncode text = first :: rest) (hex : hexValue? first = some value) :
    ∃ others, text = first :: others ∧ rest = encode mustEncode others := by
  cases text with
  | nil => cases begins
  | cons character others =>
    rw [encode_cons] at begins
    cases encodes : mustEncode character with
    | false =>
      rw [encodes, if_neg (by decide), List.singleton_append] at begins
      obtain ⟨rfl, rfl⟩ := List.cons.inj begins
      exact ⟨others, rfl, rfl⟩
    | true =>
      -- The encoding of a character begins with a percent sign.
      obtain ⟨byte, bytes, given⟩ :=
        List.exists_cons_of_ne_nil (String.utf8EncodeChar_ne_nil (c := character))
      rw [encodes, if_pos rfl, given, List.flatMap_cons] at begins
      obtain ⟨rfl, -⟩ := List.cons.inj begins
      have percent : hexValue? '%' = none := by decide
      rw [percent] at hex
      cases hex

/-- If two digits begin a text that was encoded, they begin the text. -/
theorem beginsHex_of_encode (hex : BeginsHex (encode mustEncode text)) : BeginsHex text := by
  obtain ⟨first, second, rest, high, low, begins, isHigh, isLow⟩ := hex
  obtain ⟨others, rfl, goesOn⟩ := encode_eq_cons_of_hex begins isHigh
  obtain ⟨others, rfl, -⟩ := encode_eq_cons_of_hex goesOn.symm isLow
  exact ⟨first, second, others, high, low, rfl, isHigh, isLow⟩

/-- Where percent signs and digits are kept, an encoding decodes as the text does. -/
theorem decode_encode_of_keeps (percent : mustEncode '%' = false)
    (digits : ∀ character value, hexValue? character = some value → mustEncode character = false)
    (text : List Char) : decode (encode mustEncode text) = decode text := by
  induction text using decode_induction with
  | nil => rfl
  | encoded first second rest high low isHigh isLow inductionHypothesis =>
    have keeps (kept : Char) (others : List Char) (bare : mustEncode kept = false) :
        encode mustEncode (kept :: others) = kept :: encode mustEncode others := by
      rw [encode_cons, if_neg (by simp [bare]), List.singleton_append]
    rw [keeps '%' _ percent, keeps first _ (digits _ _ isHigh), keeps second _ (digits _ _ isLow),
      decode_encoded isHigh isLow, decode_encoded isHigh isLow, inductionHypothesis]
  | plain character rest plain inductionHypothesis =>
    rw [encode_cons, decode_cons plain]
    cases encodes : mustEncode character with
    | true => rw [if_pos rfl, decode_encodeBytes, inductionHypothesis]
    | false =>
      rw [if_neg (by decide), List.singleton_append,
        decode_cons fun percent hex => plain percent (beginsHex_of_encode hex), inductionHypothesis]

/-- Digits of an encoding are kept in a path. -/
theorem inPathSet_of_hexValue? {value : Nat} (hex : hexValue? character = some value) :
    inPathSet character = false := by
  have range : (48 ≤ character.toNat ∧ character.toNat ≤ 57) ∨
      (97 ≤ character.toNat ∧ character.toNat ≤ 102) ∨
      (65 ≤ character.toNat ∧ character.toNat ≤ 70) := by
    unfold hexValue? at hex
    split at hex
    case isTrue digit => exact .inl (by simpa [Char.isDigit, UInt32.le_iff_toNat_le] using digit)
    case isFalse =>
      split at hex
      case isTrue small =>
        exact .inr (.inl (by simpa [Char.le_def, UInt32.le_iff_toNat_le] using small))
      case isFalse =>
        split at hex
        case isTrue large =>
          exact .inr (.inr (by simpa [Char.le_def, UInt32.le_iff_toNat_le] using large))
        case isFalse => cases hex
  simp only [inPathSet, inFragmentSet, inControlSet, List.mem_cons, ← Char.toNat_inj,
    Char.reduceToNat, List.not_mem_nil, or_false, Bool.decide_or, Bool.or_eq_false_iff,
    decide_eq_false_iff_not]
  omega

/-- What a segment of a path shows decodes as the text that is shown. -/
theorem decode_encode_inPathSet (text : List Char) :
    decode (encode inPathSet text) = decode text :=
  decode_encode_of_keeps (by decide) (fun _ _ => inPathSet_of_hexValue?) text

/-- Letters in capitals or not, the encoding of a dot is an encoding. -/
theorem hasEncoding_of_map_toLower {before after : List Char}
    (lowered : text.map Char.toLower = before ++ '%' :: '2' :: 'e' :: after) :
    HasEncoding text := by
  obtain ⟨front, behind, rfl, -, lowered⟩ := List.map_eq_append_iff.1 lowered
  obtain ⟨percent, behind, rfl, isPercent, lowered⟩ := List.map_eq_cons_iff.1 lowered
  obtain ⟨two, behind, rfl, isTwo, lowered⟩ := List.map_eq_cons_iff.1 lowered
  obtain ⟨letter, behind, rfl, isLetter, -⟩ := List.map_eq_cons_iff.1 lowered
  obtain rfl := (toLower_eq_iff (by decide)).1 isPercent
  obtain rfl := (toLower_eq_iff (by decide)).1 isTwo
  have letters : letter = 'e' ∨ letter = 'E' := by
    rcases sameLetter_iff.2 (isLetter.trans (by decide : 'e' = 'e'.toLower)) with
      same | ⟨-, apart⟩ | ⟨upper, -⟩
    · exact .inl same
    · have apart : 101 = letter.toNat + 32 := apart
      exact .inr (Char.toNat_inj.1 (by change letter.toNat = 69; omega))
    · cases upper
  refine ⟨front, _, rfl, '2', letter, behind, 2, 14, rfl, by decide, ?_⟩
  rcases letters with rfl | rfl <;> decide

end Percent

variable {test : Char → Bool} {text part : List Char}

/-- A part of a text that was split is taken from the text. -/
theorem sublist_of_mem_splitAt (there : part ∈ splitAt test text) : part.Sublist text := by
  induction text generalizing part with
  | nil =>
    obtain rfl := List.mem_singleton.1 there
    exact List.Sublist.refl _
  | cons character rest inductionHypothesis =>
    rw [splitAt] at there
    split at there
    case isTrue =>
      rcases List.mem_cons.1 there with rfl | there
      · exact List.nil_sublist _
      · exact (inductionHypothesis there).cons _
    case isFalse =>
      cases parts : splitAt test rest with
      | nil => exact absurd parts (splitAt_ne_nil test rest)
      | cons first others =>
        rw [parts] at there inductionHypothesis
        rcases List.mem_cons.1 there with rfl | there
        · exact (inductionHypothesis List.mem_cons_self).cons_cons _
        · exact (inductionHypothesis (List.mem_cons_of_mem _ there)).cons _

/-- A text is one of its parts only if nothing in it separates them. -/
theorem all_not_of_mem_splitAt (there : text ∈ splitAt test text) :
    ∀ character ∈ text, test character = false := by
  intro character given
  cases cuts : test character with
  | false => rfl
  | true =>
    obtain ⟨first, second, split⟩ := List.append_of_mem given
    have longer : text.length = first.length + (second.length + 1) := by
      rw [split, List.length_append, List.length_cons]
    rw [split, splitAt_append_cons cuts, List.mem_append, ← split] at there
    rcases there with there | there
    · have short := (sublist_of_mem_splitAt there).length_le
      omega
    · have short := (sublist_of_mem_splitAt there).length_le
      omega

namespace UrlPath

open Percent

variable {passed segments rest : List (List Char)} {segment last : List Char}

/-- Segments as they stand in the path of a URL. -/
def shown (segments : List (List Char)) : List String :=
  segments.map fun segment => String.ofList (encode inPathSet segment)

/-- The parts of two stretches are shown one stretch after the other. -/
theorem shown_append (first second : List (List Char)) :
    shown (first ++ second) = shown first ++ shown second :=
  List.map_append

/-- A path whose segments were encoded shows the parts of them that are given. -/
theorem ofSegments_map_encode (segments : List (List Char)) :
    ofSegments (segments.map (encode inPathSet)) = .segments (shown segments) := by
  rw [ofSegments, List.map_map]
  rfl

/-- Whether a segment leads somewhere else than to what it names. -/
def isDot (segment : List Char) : Bool :=
  isDoubleDot segment || isSingleDot segment

/-- The segments that are left behind, in reverse, by one that others follow. -/
def pass (passed : List (List Char)) (segment : List Char) : List (List Char) :=
  if isDoubleDot segment then leave passed
  else if isSingleDot segment then passed
  else segment :: passed

/-- What segments leave behind does not depend on those that follow them. -/
theorem resolve_append (more : rest ≠ []) :
    resolve passed (segments ++ rest) = resolve (segments.foldl pass passed) rest := by
  induction segments generalizing passed with
  | nil => rfl
  | cons segment others inductionHypothesis =>
    have goesOn : (others ++ rest).isEmpty = false := by simp [more]
    rw [List.cons_append, resolve, List.foldl_cons, pass, goesOn]
    split
    · exact inductionHypothesis
    · split <;> exact inductionHypothesis

/-- Segments that lead nowhere else are all left behind. -/
theorem foldl_pass (plain : ∀ segment ∈ segments, isDot segment = false) :
    segments.foldl pass passed = segments.reverse ++ passed := by
  induction segments generalizing passed with
  | nil => rfl
  | cons segment others inductionHypothesis =>
    obtain ⟨plainFirst, plain⟩ := List.forall_mem_cons.1 plain
    obtain ⟨notDouble, notSingle⟩ := Bool.or_eq_false_iff.1 plainFirst
    rw [List.foldl_cons, inductionHypothesis plain, pass, notDouble, notSingle]
    simp

/-- The last segment is empty, or it is one of those given that leads nowhere else. -/
theorem exists_resolve (passed : List (List Char)) (given : segments ≠ []) :
    ∃ left last, resolve passed segments = left ++ [last] ∧
      (last = [] ∨ (last ∈ segments ∧ isDot last = false)) := by
  obtain ⟨front, final, rfl⟩ := List.eq_nil_or_concat segments |>.resolve_left given
  rw [List.concat_eq_append, resolve_append (List.cons_ne_nil _ _), resolve]
  cases isDouble : isDoubleDot final with
  | true =>
    exact ⟨(leave (front.foldl pass passed)).reverse, [], by simp [resolve], .inl rfl⟩
  | false =>
    cases isSingle : isSingleDot final with
    | true => exact ⟨(front.foldl pass passed).reverse, [], by simp [resolve], .inl rfl⟩
    | false =>
      exact ⟨(front.foldl pass passed).reverse, final, by simp [resolve],
        .inr ⟨by simp, by simp [isDot, isDouble, isSingle]⟩⟩

/-- A last part that is no dot segment is put behind those passed. -/
theorem resolve_of_not_isDot (plain : isDot last = false) :
    resolve passed [last] = passed.reverse ++ [last] := by
  obtain ⟨notDouble, notSingle⟩ := Bool.or_eq_false_iff.1 plain
  simp [resolve, notDouble, notSingle]

/-- Without an encoding in it a segment is a dot segment only if it is one or two dots. -/
theorem isDot_iff (bare : ¬ HasEncoding segment) :
    isDot segment = true ↔ segment = ['.'] ∨ segment = ['.', '.'] := by
  constructor
  · intro dot
    have lowered {shown : String} (same : String.ofList (segment.map Char.toLower) = shown) :
        segment.map Char.toLower = shown.toList := by
      rw [← same, String.toList_ofList]
    have encoded {before after : List Char}
        (same : segment.map Char.toLower = before ++ '%' :: '2' :: 'e' :: after) : False :=
      bare (hasEncoding_of_map_toLower same)
    have plain {other : Char} (small : other.toLower = '.') : other = '.' :=
      (toLower_eq_iff (by decide)).1 small
    simp only [isDot, isDoubleDot, isSingleDot, Bool.or_eq_true, decide_eq_true_eq, List.mem_cons,
      List.not_mem_nil, or_false] at dot
    rcases dot with (double | half | half | whole) | single | whole
    · obtain ⟨first, behind, rfl, isFirst, same⟩ := List.map_eq_cons_iff.1 (lowered double)
      obtain ⟨second, rfl, isSecond⟩ := List.map_eq_singleton_iff.1 same
      rw [plain isFirst, plain isSecond]
      exact .inr rfl
    · exact (@encoded ['.'] [] (lowered half)).elim
    · exact (@encoded [] ['.'] (lowered half)).elim
    · exact (@encoded [] "%2e".toList (lowered whole)).elim
    · obtain ⟨first, rfl, isFirst⟩ := List.map_eq_singleton_iff.1 (lowered single)
      rw [plain isFirst]
      exact .inl rfl
    · exact (@encoded [] [] (lowered whole)).elim
  · rintro (rfl | rfl) <;> decide

end UrlPath

end FabricUpgrade.Text
