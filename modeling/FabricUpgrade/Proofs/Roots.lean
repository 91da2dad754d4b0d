import FabricUpgrade.Proofs.Segments
import FabricUpgrade.Text.Url

/-!
# URLs behind a root

What is written behind a root and a slash changes nothing of how the root is read
(`Url.exists_parse?_behind`).  If the root has neither a query nor a fragment, its path goes on with
the segments of the text (`Url.parse?_behind`); else the text is in one of them, and the path is
that of the root.
-/

namespace FabricUpgrade.Text

/-- Whether a character cuts a query or a fragment off. -/
def cutsTail (character : Char) : Bool :=
  character = '?' || character = '#'

/-- A character that does not begin the tail stands in front of it. -/
theorem splitTail_cons {character : Char} (stays : cutsTail character = false) (rest : List Char) :
    splitTail (character :: rest) = (character :: (splitTail rest).1, (splitTail rest).2) := by
  obtain ⟨noQuery, noFragment⟩ := Bool.or_eq_false_iff.1 stays
  have noQuery := of_decide_eq_false noQuery
  have noFragment := of_decide_eq_false noFragment
  simp [splitTail, noQuery, noFragment]

/-- What is cut off behind a text that stays is cut off from the rest. -/
theorem splitTail_append {front : List Char}
    (stays : ∀ character ∈ front, cutsTail character = false) (rest : List Char) :
    splitTail (front ++ rest) = (front ++ (splitTail rest).1, (splitTail rest).2) := by
  induction front with
  | nil => rfl
  | cons character others inductionHypothesis =>
    rw [List.cons_append, splitTail_cons (stays character List.mem_cons_self),
      inductionHypothesis fun other there => stays other (List.mem_cons_of_mem _ there)]
    rfl

/-- A character that begins the tail has nothing in front of it. -/
theorem splitTail_of_cuts {character : Char} (cuts : cutsTail character = true)
    (rest : List Char) : (splitTail (character :: rest)).1 = [] ∧
      ((splitTail (character :: rest)).2.1.isSome ∨
        (splitTail (character :: rest)).2.2.isSome) := by
  rcases Bool.or_eq_true_iff.1 cuts with query | fragment
  · obtain rfl := of_decide_eq_true query
    exact ⟨by simp [splitTail], .inl (by simp [splitTail])⟩
  · obtain rfl := of_decide_eq_true fragment
    exact ⟨by simp [splitTail], .inr (by simp [splitTail])⟩

/-- In front of the tail there is no character that begins one. -/
theorem cutsTail_of_mem_splitTail {character : Char} {text : List Char}
    (there : character ∈ (splitTail text).1) : cutsTail character = false := by
  have noQuery := List.mem_takeWhile_imp there
  have noFragment := List.mem_takeWhile_imp (List.takeWhile_subset _ there)
  simpa [cutsTail] using And.intro noQuery noFragment

/-- What stands in front of the tail is taken from the text. -/
theorem sublist_splitTail (text : List Char) : (splitTail text).1.Sublist text :=
  (List.takeWhile_sublist _).trans (List.takeWhile_sublist _)

/-- A text stays as a whole, or there is a first character that cuts it. -/
theorem cutsTail_cases (text : List Char) :
    (∀ character ∈ text, cutsTail character = false) ∨
      ∃ front character rest, text = front ++ character :: rest ∧
        (∀ character ∈ front, cutsTail character = false) ∧ cutsTail character = true := by
  induction text with
  | nil => exact .inl (List.forall_mem_nil _)
  | cons first others inductionHypothesis =>
    cases cuts : cutsTail first with
    | true => exact .inr ⟨[], first, others, rfl, List.forall_mem_nil _, cuts⟩
    | false =>
      rcases inductionHypothesis with stays | ⟨front, character, rest, rfl, stays, isCut⟩
      · exact .inl (List.forall_mem_cons.2 ⟨cuts, stays⟩)
      · have stays : ∀ character ∈ first :: front, cutsTail character = false :=
          List.forall_mem_cons.2 ⟨cuts, stays⟩
        exact .inr ⟨first :: front, character, rest, rfl, stays, isCut⟩

namespace UrlPath

open Percent

/-- The path of a root goes on with the segments behind it. -/
theorem exists_ofText {more : List Char}
    (begins : ∀ character ∈ more.head?, isSlash true character = true) :
    ∃ segments, ∀ rest, ofText true (more ++ '/' :: rest) =
      .segments (shown (resolve [] (segments ++ splitAt (isSlash true) rest))) := by
  cases more with
  | nil => exact ⟨[], fun rest => ofSegments_map_encode _⟩
  | cons first others =>
    refine ⟨splitAt (isSlash true) others, fun rest => ?_⟩
    rw [List.cons_append, ofText, if_pos (begins first rfl), segmentsOf,
      ofSegments_map_encode, splitAt_append_cons (by decide)]

end UrlPath

namespace Url

open Percent

/-- Whether a character does not count in front of a URL or behind it. -/
def isAround (character : Char) : Bool :=
  character.toNat ≤ 0x20

/-- Whether a character counts within a URL. -/
def counts (character : Char) : Bool :=
  character ≠ '\t' && character ≠ '\n' && character ≠ '\r'

/-- The characters that count of the end of a URL. -/
def tidy (rest : List Char) : List Char :=
  (dropEndWhile isAround rest).filter counts

/-- The characters that count of a URL. -/
def kept (text : List Char) : List Char :=
  tidy (text.dropWhile isAround)

/-- Reads what stands behind the scheme of a URL. -/
def readBehind? (scheme : String) (behind : List Char) : Option Url :=
  if scheme = fileScheme then file? behind
  else if isWeb scheme then withAuthority? scheme (behind.dropWhile (UrlPath.isSlash true))
  else general? scheme behind

/-- A text is parsed by its scheme and then by what stands behind it. -/
theorem parse?_eq (text : String) :
    parse? text = (scheme? (kept text.toList)).bind fun found => readBehind? found.1 found.2 :=
  rfl

/-- Tidying only leaves characters out. -/
theorem sublist_tidy (rest : List Char) : (tidy rest).Sublist rest := by
  obtain ⟨dropped, whole, -⟩ := exists_dropEndWhile_append isAround rest
  refine List.filter_sublist.trans ?_
  conv => rhs; rw [whole]
  exact List.sublist_append_left _ _

/-- A text is tidied in front of a slash and behind it alike. -/
theorem tidy_append (front rest : List Char) :
    tidy (front ++ '/' :: rest) = front.filter counts ++ '/' :: tidy rest := by
  rw [tidy, dropEndWhile_append_cons (by decide), List.filter_append,
    List.filter_cons_of_pos (by decide), ← tidy]

/-- Of a text with a slash, what is kept behind the slash does not depend on what stands in front. -/
theorem kept_append (root rest : List Char) :
    kept (root ++ '/' :: rest) = (root.dropWhile isAround).filter counts ++ '/' :: tidy rest := by
  have around : isAround '/' = false := by decide
  have front : (root ++ '/' :: rest).dropWhile isAround =
      root.dropWhile isAround ++ '/' :: rest := by
    rw [List.dropWhile_append]
    split
    case isTrue empty => simp [around, List.isEmpty_iff.1 empty]
    case isFalse => rfl
  rw [kept, front, tidy_append]

/-- The scheme that a name stands for. -/
def schemeNamed? : List Char → Option String
  | [] => none
  | first :: rest =>
    if first.isAlpha ∧ rest.all (fun character => character.isAlphanum
        || character = '+' || character = '-' || character = '.') then
      some (String.ofList ((first :: rest).map Char.toLower))
    else none

/-- A name without a colon is taken up to the colon as a whole. -/
theorem takeWhile_of_not_mem {name : List Char} (missing : ':' ∉ name) :
    name.takeWhile (· ≠ ':') = name :=
  List.takeWhile_eq_self_iff.2 fun _ there => decide_eq_true (ne_of_mem_of_not_mem there missing)

/-- The scheme stands in front of the first colon. -/
theorem scheme?_colon {name : List Char} (first : ':' ∉ name) (behind : List Char) :
    scheme? (name ++ ':' :: behind) = (schemeNamed? name).map fun scheme => (scheme, behind) := by
  rw [scheme?, takeWhile_append_cons (by decide), takeWhile_of_not_mem first, List.drop_left]
  cases name with
  | nil => rfl
  | cons first rest =>
    simp only [schemeNamed?]
    split <;> rfl

/-- Without a colon there is no scheme. -/
theorem scheme?_eq_none {text : List Char} (missing : ':' ∉ text) : scheme? text = none := by
  rw [scheme?, takeWhile_of_not_mem missing, List.drop_length]
  cases text <;> rfl

/-- No scheme has a slash in it. -/
theorem schemeNamed?_eq_none {name : List Char} (slash : '/' ∈ name) :
    schemeNamed? name = none := by
  cases name with
  | nil => rfl
  | cons first rest =>
    refine if_neg fun ⟨letter, allowed⟩ => ?_
    rcases List.mem_cons.1 slash with rfl | there
    · revert letter
      decide
    · have allowed := List.all_eq_true.1 allowed '/' there
      revert allowed
      decide

/-- The scheme is in front of the first slash. -/
theorem scheme?_append (front rest : List Char) :
    scheme? (front ++ '/' :: rest) =
      (scheme? front).map fun found => (found.1, found.2 ++ '/' :: rest) := by
  by_cases colon : ':' ∈ front
  · obtain ⟨name, behind, rfl, first⟩ := List.eq_append_cons_of_mem colon
    rw [List.append_assoc, List.cons_append, scheme?_colon first, scheme?_colon first,
      Option.map_map]
    rfl
  · have missing := colon
    rw [scheme?_eq_none missing]
    by_cases colon : ':' ∈ front ++ '/' :: rest
    · obtain ⟨name, behind, whole, first⟩ := List.eq_append_cons_of_mem colon
      have slash : '/' ∈ name := mem_of_append_cons_eq whole missing (by decide)
      rw [whole, scheme?_colon first, schemeNamed?_eq_none slash]
      rfl
    · rw [scheme?_eq_none colon]
      rfl

/-- The URL of a file on another machine has the scheme of files. -/
theorem scheme_of_remoteFile? {text : List Char} {url : Url} (read : remoteFile? text = some url) :
    url.scheme = fileScheme := by
  unfold remoteFile? at read
  dsimp only at read
  split at read
  · cases read
    rfl
  · split at read
    · cases read
      rfl
    · obtain ⟨host, -, read⟩ := Option.bind_eq_some_iff.1 read
      split at read <;> cases read <;> rfl

/-- The URL of a file has the scheme of files. -/
theorem scheme_of_file? {text : List Char} {url : Url} (read : file? text = some url) :
    url.scheme = fileScheme := by
  have taken {inner : Option Url} {rest : Option (List Char) × Option (List Char)}
      (schemes : ∀ url ∈ inner, url.scheme = fileScheme)
      (read : (inner.bind fun inner => some (withTail true rest.1 rest.2 inner)) = some url) :
      url.scheme = fileScheme := by
    obtain ⟨inner, found, read⟩ := Option.bind_eq_some_iff.1 read
    cases read
    exact schemes inner found
  have onDisk (path : List Char) : ∀ url ∈ some (ofLocalFile path), url.scheme = fileScheme := by
    rintro url ⟨⟩
    rfl
  unfold file? at read
  dsimp only at read
  split at read
  case h_1 =>
    split at read
    case isTrue => exact taken (fun _ => scheme_of_remoteFile?) read
    case isFalse => exact taken (onDisk _) read
  case h_2 => exact taken (onDisk _) read

/-- The URL of a scheme with an authority and what stands behind that. -/
def ofAuthority (scheme : String) (authority : Authority) (behind : List Char) : Url :=
  let isSpecial := isWeb scheme
  let (path, query, fragment) := splitTail behind
  let { user, host, port } := authority
  withTail isSpecial query fragment
    { scheme, user, host := some host, port, path := UrlPath.ofText isSpecial path }

/-- What has an authority is made of it and of the path behind it. -/
theorem withAuthority?_eq (scheme : String) (text : List Char) :
    withAuthority? scheme text =
      (authority? scheme text).map fun found => ofAuthority scheme found.1 found.2 := by
  unfold withAuthority?
  cases authority? scheme text <;> rfl

/-- A URL with an authority has the scheme that it was read for. -/
theorem scheme_of_withAuthority? {scheme : String} {text : List Char} {url : Url}
    (read : withAuthority? scheme text = some url) : url.scheme = scheme := by
  rw [withAuthority?_eq] at read
  obtain ⟨found, -, rfl⟩ := Option.map_eq_some_iff.1 read
  rfl

/-- A URL has the scheme that stands in front of it. -/
theorem scheme_of_readBehind? {scheme : String} {behind : List Char} {url : Url}
    (read : readBehind? scheme behind = some url) : url.scheme = scheme := by
  unfold readBehind? at read
  split at read
  case isTrue file => exact (scheme_of_file? read).trans file.symm
  case isFalse =>
    split at read
    case isTrue => exact scheme_of_withAuthority? read
    case isFalse =>
      unfold general? at read
      split at read
      · exact scheme_of_withAuthority? read
      · cases read
        rfl

/-!
## Authorities
-/

/-- What is read from a text does not depend on what follows it, if that begins with a character
that ends an authority. -/
def Settles {α : Type} (read : List Char → Option (α × List Char)) (front : List Char) : Prop :=
  ∃ result : Option α, ∀ ender after, endsAuthority true ender = true →
    read (front ++ ender :: after) = result.map fun value => (value, ender :: after)

variable {scheme : String} {front : List Char} {ender : Char}

/-- On the web an authority ends with a slash of either kind, a question mark or a number sign. -/
theorem endsAuthority_iff : endsAuthority true ender = true ↔
    ender = '/' ∨ ender = '\\' ∨ ender = '?' ∨ ender = '#' := by
  simp [endsAuthority, UrlPath.isSlash, or_assoc]

/-- The port that a text behind a colon stands for; the default one is left out. -/
def portNamed? (scheme : String) (text : List Char) : Option (Option Nat) :=
  let digits := text.takeWhile Char.isDigit
  let value := Nat.ofDigitChars 10 digits 0
  if 65535 < value ∨ text.drop digits.length ≠ [] then none
  else if digits.isEmpty ∨ webPort? scheme = some value then some none
  else some (some value)

/-- A port is read up to the end of the authority. -/
theorem port?_colon (plain : ∀ character ∈ front, endsAuthority true character = false)
    (ends : endsAuthority true ender = true) (after : List Char) :
    port? scheme (':' :: (front ++ ender :: after)) =
      (portNamed? scheme front).map fun port => (port, ender :: after) := by
  have noDigit : ender.isDigit = false := by
    rcases endsAuthority_iff.1 ends with rfl | rfl | rfl | rfl <;> decide
  have rest : (front ++ ender :: after).drop (front.takeWhile Char.isDigit).length =
      front.drop (front.takeWhile Char.isDigit).length ++ ender :: after :=
    List.drop_append_of_le_length (List.takeWhile_prefix _).length_le
  rw [port?, portNamed?, takeWhile_append_cons noDigit]
  simp only [rest]
  generalize Nat.ofDigitChars 10 (front.takeWhile Char.isDigit) 0 = value
  cases behind : front.drop (front.takeWhile Char.isDigit).length with
  | nil =>
    have allowed : (65535 < value ∨ ([] ++ ender :: after).head?.any
        (fun character => !endsAuthority true character) = true) ↔
          (65535 < value ∨ ([] : List Char) ≠ []) := by
      simp [ends]
    simp only [allowed]
    split
    · rfl
    · split <;> rfl
  | cons other others =>
    have there : other ∈ front.drop (front.takeWhile Char.isDigit).length :=
      behind ▸ List.mem_cons_self
    have stays := plain other (List.mem_of_mem_drop there)
    rw [if_pos (.inr (by simp [stays])), if_pos (.inr (List.cons_ne_nil _ _))]
    rfl

/-- What names the host, behind the user. -/
def placeOf (front : List Char) : List Char :=
  (splitAt (· = '@') front).getLast?.getD []

/-- The place is taken from the front, so no character of it ends the authority. -/
theorem plain_placeOf (plain : ∀ character ∈ front, endsAuthority true character = false) :
    ∀ character ∈ placeOf front, endsAuthority true character = false := by
  intro character there
  have last : placeOf front ∈ splitAt (· = '@') front := by
    have given := splitAt_ne_nil (· = '@') front
    rw [placeOf, List.getLast?_eq_some_getLast given, Option.getD_some]
    exact List.getLast_mem given
  exact plain character ((sublist_of_mem_splitAt last).mem there)

/-- The user is split off in the same way whatever ends the authority. -/
theorem splitUser?_append (plain : ∀ character ∈ front, endsAuthority true character = false)
    (ends : endsAuthority true ender = true) (after : List Char) :
    splitUser? true (front ++ ender :: after) =
      (splitUser? true (front ++ ['/'])).map fun found =>
        (found.1, placeOf front ++ ender :: after) := by
  have taken (ender : Char) (ends : endsAuthority true ender = true) (after : List Char) :
      (front ++ ender :: after).takeWhile (fun character => !endsAuthority true character) =
        front := by
    rw [takeWhile_append_cons (by simp [ends]), List.takeWhile_eq_self_iff]
    intro character there
    simp [plain character there]
  rw [splitUser?, splitUser?, taken ender ends, taken '/' (by decide), List.drop_left,
    List.drop_left]
  simp only [List.isEmpty_cons]
  split <;> rfl

/-- Behind a host there is nothing or a colon. -/
theorem splitHost_cases (plain : ∀ character ∈ front, endsAuthority true character = false)
    (inBrackets : Bool) : (splitHost true inBrackets front).2 = [] ∨
      ∃ text, (splitHost true inBrackets front).2 = ':' :: text ∧
        ∀ character ∈ text, endsAuthority true character = false := by
  induction front generalizing inBrackets with
  | nil => exact .inl rfl
  | cons character others inductionHypothesis =>
    obtain ⟨stays, plain⟩ := List.forall_mem_cons.1 plain
    rw [splitHost, stays, Bool.false_or]
    split
    case isTrue colon =>
      rw [of_decide_eq_true (Bool.and_eq_true_iff.1 colon).1]
      exact .inr ⟨others, rfl, plain⟩
    case isFalse => exact inductionHypothesis plain _

/-- The port behind a host does not depend on what stands behind the authority. -/
theorem settles_port? (plain : ∀ character ∈ front, endsAuthority true character = false)
    (inBrackets : Bool) : Settles (port? scheme) (splitHost true inBrackets front).2 := by
  rcases splitHost_cases plain inBrackets with nothing | ⟨text, colon, plain⟩
  · refine ⟨some none, fun ender after ends => ?_⟩
    rw [nothing, List.nil_append, port?]
    · rfl
    · rintro text ⟨⟩
      revert ends
      decide
  · refine ⟨portNamed? scheme text, fun ender after ends => ?_⟩
    rw [colon, List.cons_append, port?_colon plain ends]

/-- The host is split off in the same way whatever stands behind the authority. -/
theorem splitHost_append {ender : Char} (ends : endsAuthority true ender = true)
    (plain : ∀ character ∈ front, endsAuthority true character = false) (inBrackets : Bool)
    (after : List Char) : splitHost true inBrackets (front ++ ender :: after) =
      ((splitHost true inBrackets front).1,
        (splitHost true inBrackets front).2 ++ ender :: after) := by
  induction front generalizing inBrackets with
  | nil => simp [splitHost, ends]
  | cons character others inductionHypothesis =>
    obtain ⟨stays, plain⟩ := List.forall_mem_cons.1 plain
    rw [List.cons_append, splitHost, splitHost, stays, Bool.false_or]
    split
    · rfl
    · simp only [inductionHypothesis plain]

/-- An authority ends in front of the first character that ends one. -/
theorem settles_authority? (web : isWeb scheme = true)
    (plain : ∀ character ∈ front, endsAuthority true character = false) :
    Settles (authority? scheme) front := by
  obtain ⟨port, settled⟩ := @settles_port? scheme _ (plain_placeOf plain) false
  refine ⟨(splitUser? true (front ++ ['/'])).bind fun found =>
    if (splitHost true false (placeOf front)).1.isEmpty then none
    else (Host.parse? true (splitHost true false (placeOf front)).1).bind fun host =>
      port.map fun port => ⟨found.1, host, port⟩, fun ender after ends => ?_⟩
  simp only [authority?, web, splitUser?_append plain ends after]
  cases splitUser? true (front ++ ['/']) with
  | none => rfl
  | some found =>
    simp only [Option.map_some, Option.bind_eq_bind, Option.bind_some, true_or, if_true,
      splitHost_append ends (plain_placeOf plain), settled ender after ends]
    split
    · rfl
    · cases Host.parse? true (splitHost true false (placeOf front)).1 with
      | none => rfl
      | some host => cases port <;> rfl

/-!
## Roots
-/

/-- A URL of the web needs an authority. -/
theorem authority?_nil (web : isWeb scheme = true) : authority? scheme [] = none := by
  simp only [authority?, web]
  rfl

/-- Behind the front of an authority there is nothing, or what begins with its end. -/
theorem Settles.append {α : Type} {read : List Char → Option (α × List Char)}
    (settles : Settles read front) {more : List Char}
    (begins : ∀ ender ∈ more.head?, endsAuthority true ender = true) :
    ∃ result : Option α, ∀ rest, read (front ++ (more ++ '/' :: rest)) =
      result.map fun value => (value, more ++ '/' :: rest) := by
  obtain ⟨result, settled⟩ := settles
  refine ⟨result, fun rest => ?_⟩
  cases more with
  | nil => exact settled '/' rest (by decide)
  | cons ender others => exact settled ender (others ++ '/' :: rest) (begins ender rfl)

/-- The scheme is read from the root. -/
theorem exists_readBehind? {root : String} {home : Url}
    (read : parse? (root ++ "/") = some home) :
    ∃ text, ∀ rest, parse? (root ++ "/" ++ rest) =
      readBehind? home.scheme (text ++ '/' :: tidy rest.toList) := by
  have goesOn (rest : String) : parse? (root ++ "/" ++ rest) =
      (scheme? ((root.toList.dropWhile isAround).filter counts)).bind fun found =>
        readBehind? found.1 (found.2 ++ '/' :: tidy rest.toList) := by
    have whole : (root ++ "/" ++ rest).toList = root.toList ++ '/' :: rest.toList := by simp
    rw [parse?_eq, whole, kept_append, scheme?_append, Option.bind_map]
    rfl
  have given := goesOn ""
  rw [String.append_empty, read] at given
  obtain ⟨⟨scheme, text⟩, named, behind⟩ := Option.bind_eq_some_iff.1 given.symm
  obtain rfl := scheme_of_readBehind? behind
  exact ⟨text, fun rest => by rw [goesOn, named, Option.bind_some]⟩

/-- A root of the web is read as an authority and what stands behind it, to which is added what
follows the root. -/
theorem exists_parse?_behind {root : String} {home : Url} (read : parse? (root ++ "/") = some home)
    (web : isWeb home.scheme = true) :
    ∃ scheme authority more, isWeb scheme = true ∧
      (∀ ender ∈ more.head?, endsAuthority true ender = true) ∧
      ∀ rest, parse? (root ++ "/" ++ rest) =
        some (ofAuthority scheme authority (more ++ '/' :: tidy rest.toList)) := by
  obtain ⟨text, goesOn⟩ := exists_readBehind? read
  have noFile : home.scheme ≠ fileScheme := by
    intro file
    rw [file] at web
    revert web
    decide
  simp only [readBehind?, if_neg noFile, if_pos web, List.dropWhile_append] at goesOn
  rw [← String.append_empty (s := root ++ "/"), goesOn] at read
  -- Of the text behind the scheme there is more than slashes, for they are not part of a host.
  cases empty : (text.dropWhile (UrlPath.isSlash true)).isEmpty with
  | true =>
    rw [empty, if_pos rfl] at read
    have none : withAuthority? home.scheme [] = none := by
      rw [withAuthority?_eq, authority?_nil web]
      rfl
    have slashes : ('/' :: tidy "".toList).dropWhile (UrlPath.isSlash true) = [] := by decide
    rw [slashes, none] at read
    cases read
  | false =>
    simp only [empty, Bool.false_eq_true, if_false] at goesOn read
    generalize text.dropWhile (UrlPath.isSlash true) = place at goesOn read
    let stays (character : Char) : Bool := !endsAuthority true character
    have plain : ∀ character ∈ place.takeWhile stays, endsAuthority true character = false :=
      fun _ there => by simpa [stays] using List.mem_takeWhile_imp there
    have begins : ∀ ender ∈ (place.dropWhile stays).head?, endsAuthority true ender = true := by
      intro ender first
      have first := Option.mem_def.1 first
      have stops := List.head?_dropWhile_not stays place
      rw [first] at stops
      simpa [stays] using stops
    obtain ⟨result, settled⟩ := (settles_authority? web plain).append begins
    have split (rest : List Char) : place ++ '/' :: rest =
        place.takeWhile stays ++ (place.dropWhile stays ++ '/' :: rest) := by
      rw [← List.append_assoc, List.takeWhile_append_dropWhile]
    simp only [withAuthority?_eq, split, settled, Option.map_map] at goesOn read
    obtain ⟨authority, rfl, -⟩ := Option.map_eq_some_iff.1 read
    exact ⟨home.scheme, authority, place.dropWhile stays, web, begins, goesOn⟩

/-- A root without a query and a fragment leaves a path behind that goes on with the segments of
what follows it; the query and the fragment of that are those of the whole. -/
structure Continues (root : String) (home : Url) (passed : List (List Char)) : Prop where
  query : home.query = none
  fragment : home.fragment = none
  path : home.path = .segments (UrlPath.shown passed.reverse ++ [""])
  goesOn : ∀ rest, parse? (root ++ "/" ++ rest) =
    let tail := splitTail (tidy rest.toList)
    some (withTail (isWeb home.scheme) tail.2.1 tail.2.2 { home with
      path := .segments (UrlPath.shown
        (UrlPath.resolve passed (splitAt (UrlPath.isSlash true) tail.1))) })

/-- What follows a root with a query or a fragment is in it, and not in the path. -/
structure Swallows (root : String) (home : Url) : Prop where
  given : home.query.isSome ∨ home.fragment.isSome
  goesOn : ∀ rest, ∃ url, parse? (root ++ "/" ++ rest) = some url ∧ url.path = home.path

/-- A root of the web is continued by what follows it or swallows it. -/
theorem parse?_behind {root : String} {home : Url} (read : parse? (root ++ "/") = some home)
    (web : isWeb home.scheme = true) :
    (∃ passed, Continues root home passed) ∨ Swallows root home := by
  obtain ⟨scheme, authority, more, web, begins, goesOn⟩ := exists_parse?_behind read web
  rw [← String.append_empty (s := root ++ "/"), goesOn, Option.some.injEq] at read
  have nothing : splitTail (tidy "".toList) = ([], none, none) := by decide
  rcases cutsTail_cases more with stays | ⟨front, cutter, others, rfl, stays, cuts⟩
  · refine .inl ?_
    have slashes : ∀ character ∈ more.head?, UrlPath.isSlash true character = true := by
      intro character first
      have staysFirst := stays character (List.mem_of_mem_head? first)
      have ends := begins character first
      rwa [endsAuthority, Bool.or_assoc, ← cutsTail, staysFirst, Bool.or_false] at ends
    obtain ⟨segments, path⟩ := UrlPath.exists_ofText slashes
    have tail (rest : List Char) : splitTail (more ++ '/' :: rest) =
        (more ++ '/' :: (splitTail rest).1, (splitTail rest).2) := by
      rw [splitTail_append stays, splitTail_cons (by decide)]
    simp only [ofAuthority, tail, web, path,
      UrlPath.resolve_append (splitAt_ne_nil _ _)] at goesOn read
    rw [nothing] at read
    subst read
    refine ⟨segments.foldl UrlPath.pass [], rfl, rfl, ?_, fun rest => ?_⟩
    · have last : UrlPath.shown [[]] = [""] := by decide
      rw [← last, ← UrlPath.shown_append, ← UrlPath.resolve_of_not_isDot (by decide)]
      rfl
    · rw [goesOn]
      simp only [web]
      rfl
  · refine .inr ?_
    have tail (rest : List Char) :
        (splitTail (front ++ cutter :: others ++ '/' :: rest)).1 = front := by
      rw [List.append_assoc, splitTail_append stays, List.cons_append]
      exact (congrArg (front ++ ·) (splitTail_of_cuts cuts _).1).trans (List.append_nil front)
    subst read
    refine ⟨?_, fun rest => ⟨_, goesOn rest, ?_⟩⟩
    · simp only [ofAuthority, withTail, Option.isSome_map]
      rw [List.append_assoc, splitTail_append stays, List.cons_append]
      exact (splitTail_of_cuts cuts _).2
    · simp only [ofAuthority, withTail, tail]

end Url

end FabricUpgrade.Text
