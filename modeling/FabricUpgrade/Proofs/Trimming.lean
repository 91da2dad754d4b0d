import Mathlib.Data.List.TakeWhile
import FabricUpgrade.Text.Blank

/-!
# Texts cut at their ends, and letters made small

What is dropped at the end of a text passes the test, and nothing in front of an element that does
not pass it is touched; what is taken in front ends before such an element.  Two characters become
the same small one exactly if they are the same but for the case of an ASCII letter.
-/

namespace FabricUpgrade

namespace Text

/-- The characters are the same but for the case of an ASCII letter. -/
def SameLetter (first second : Char) : Prop :=
  first = second ∨ (first.isUpper ∧ second.toNat = first.toNat + 32) ∨
    (second.isUpper ∧ first.toNat = second.toNat + 32)

/-- The capital letters have the numbers from 65 to 90. -/
theorem isUpper_iff {character : Char} :
    character.isUpper = true ↔ 65 ≤ character.toNat ∧ character.toNat ≤ 90 :=
  decide_eq_true_iff.trans (and_congr UInt32.le_iff_toNat_le UInt32.le_iff_toNat_le)

/-- The small letters have the numbers from 97 to 122. -/
theorem isLower_iff {character : Char} :
    character.isLower = true ↔ 97 ≤ character.toNat ∧ character.toNat ≤ 122 :=
  Bool.and_eq_true_iff.trans (and_congr (decide_eq_true_iff.trans UInt32.le_iff_toNat_le)
    (decide_eq_true_iff.trans UInt32.le_iff_toNat_le))

/-- A small letter is 32 behind its capital. -/
theorem toNat_toLower (character : Char) :
    character.toLower.toNat =
      if character.isUpper then character.toNat + 32 else character.toNat := by
  by_cases upper : character.isUpper = true
  · have small := (isUpper_iff.1 upper).2
    have lowered : character.toLower = _ := dif_pos (of_decide_eq_true upper)
    rw [if_pos upper, lowered]
    change (character.val + 32).toNat = _
    rw [UInt32.toNat_add]
    exact Nat.mod_eq_of_lt (by change character.toNat + 32 < _; omega)
  · have kept : character.toLower = _ := dif_neg fun range => upper (decide_eq_true range)
    rw [if_neg upper, kept]

/-- Characters are the same letter exactly if they are the same in small letters. -/
theorem sameLetter_iff {first second : Char} :
    SameLetter first second ↔ first.toLower = second.toLower := by
  unfold SameLetter
  rw [← Char.toNat_inj, ← Char.toNat_inj (c := first.toLower), toNat_toLower, toNat_toLower]
  simp only [isUpper_iff]
  split <;> split <;> omega

/-- Only the character itself becomes a small one that is no letter. -/
theorem toLower_eq_iff {character plain : Char} (unlettered : plain.isAlpha = false) :
    character.toLower = plain ↔ character = plain := by
  obtain ⟨notUpper, notLower⟩ := Bool.or_eq_false_iff.1 unlettered
  rw [← Bool.not_eq_true, isUpper_iff] at notUpper
  rw [← Bool.not_eq_true, isLower_iff] at notLower
  rw [← Char.toNat_inj, ← Char.toNat_inj, toNat_toLower]
  simp only [isUpper_iff]
  split <;> omega

variable {α : Type} {test : α → Bool}

/-- What stands in front of an element that stays is not touched. -/
theorem dropEndWhile_append_cons {element : α} (stays : test element = false)
    (first second : List α) :
    dropEndWhile test (first ++ element :: second) =
      first ++ element :: dropEndWhile test second := by
  have behind : (second.reverse ++ [element]).dropWhile test =
      second.reverse.dropWhile test ++ [element] := by
    rw [List.dropWhile_append]
    split
    case isTrue empty => simp [stays, List.isEmpty_iff.1 empty]
    case isFalse => rfl
  have whole : (first ++ element :: second).reverse.dropWhile test =
      (second.reverse ++ [element]).dropWhile test ++ first.reverse := by
    rw [List.reverse_append, List.reverse_cons, List.dropWhile_append, behind]
    simp
  rw [dropEndWhile, whole, behind]
  simp [dropEndWhile]

/-- What is dropped at the end is dropped behind anything. -/
theorem dropEndWhile_append {first second : List α} (dropped : ∀ element ∈ second, test element) :
    dropEndWhile test (first ++ second) = dropEndWhile test first := by
  unfold dropEndWhile
  rw [List.reverse_append, List.dropWhile_append_of_pos]
  simpa using dropped

/-- What is dropped at the end passes the test. -/
theorem exists_dropEndWhile_append (test : α → Bool) (elements : List α) :
    ∃ dropped, elements = dropEndWhile test elements ++ dropped ∧
      ∀ element ∈ dropped, test element := by
  refine ⟨(elements.reverse.takeWhile test).reverse, ?_, fun element there => ?_⟩
  · rw [dropEndWhile, ← List.reverse_append, List.takeWhile_append_dropWhile, List.reverse_reverse]
  · exact List.mem_takeWhile_imp (List.mem_reverse.1 there)

/-- What is taken in front ends before an element that stays. -/
theorem takeWhile_append_cons {element : α} (stays : test element = false)
    (first second : List α) :
    (first ++ element :: second).takeWhile test = first.takeWhile test := by
  rw [List.takeWhile_append, List.takeWhile_cons_of_neg (by simp [stays]), List.append_nil]
  split
  case isTrue whole => exact ((List.takeWhile_prefix test).eq_of_length whole).symm
  case isFalse => rfl

/-- Of two marks in one text, the one that is not behind the other is in front of it. -/
theorem mem_of_append_cons_eq {mark other : α} {first second front behind : List α}
    (whole : first ++ mark :: second = front ++ other :: behind) (missing : other ∉ first)
    (differs : mark ≠ other) : mark ∈ front := by
  rcases List.append_eq_append_iff.1 whole with ⟨more, rfl, same⟩ | ⟨more, rfl, same⟩
  · cases more with
    | nil => exact absurd (List.cons.inj same).1 differs
    | cons _ more =>
      obtain ⟨rfl, -⟩ := List.cons.inj same
      exact List.mem_append_right _ List.mem_cons_self
  · cases more with
    | nil => exact absurd (List.cons.inj same).1.symm differs
    | cons _ more =>
      obtain ⟨rfl, -⟩ := List.cons.inj same
      exact absurd (List.mem_append_right _ List.mem_cons_self) missing

/-- Behind a trimmed text stood slashes only. -/
theorem exists_trimSlashes_append (text : String) :
    ∃ slashes, text.toList = (trimSlashes text).toList ++ List.replicate slashes '/' := by
  obtain ⟨dropped, whole, slashes⟩ := exists_dropEndWhile_append (· = '/') text.toList
  refine ⟨dropped.length, ?_⟩
  rw [trimSlashes, String.toList_ofList, ← List.eq_replicate_of_mem (by simpa using slashes)]
  exact whole

end Text

end FabricUpgrade
