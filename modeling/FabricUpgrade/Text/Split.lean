/-!
# Cutting texts

`splitAt` cuts a text at every character of a kind, so that one part more than there are such
characters comes out; `splitTail` cuts the query and the fragment off.
-/

namespace FabricUpgrade.Text

/-- Cuts a text at the characters that pass the test. -/
def splitAt (test : Char → Bool) : List Char → List (List Char)
  | [] => [[]]
  | character :: rest =>
    let parts := splitAt test rest
    if test character then [] :: parts
    else
      match parts with
      | [] => [[character]]
      | part :: others => (character :: part) :: others

/-- There is always a part. -/
theorem splitAt_ne_nil (test : Char → Bool) (text : List Char) : splitAt test text ≠ [] := by
  cases text with
  | nil => simp [splitAt]
  | cons character rest =>
    rw [splitAt]
    split
    · simp
    · split <;> simp

/-- A text without such a character is the only part. -/
theorem splitAt_of_all_not {test : Char → Bool} {text : List Char}
    (none : ∀ character ∈ text, test character = false) : splitAt test text = [text] := by
  induction text with
  | nil => rfl
  | cons character rest ih =>
    rw [splitAt, ih fun other member => none other (List.mem_cons_of_mem _ member),
      none character List.mem_cons_self]
    simp

/-- Cuts a text at its first `#` and what stands before that at its first `?`. -/
def splitTail (text : List Char) : List Char × Option (List Char) × Option (List Char) :=
  let front := text.takeWhile (· ≠ '#')
  let fragment := (text.drop front.length).tail?
  let path := front.takeWhile (· ≠ '?')
  (path, (front.drop path.length).tail?, fragment)

end FabricUpgrade.Text
