import Mathlib.Data.List.Forall2
import Mathlib.Data.List.Nodup
import FabricUpgrade.Operator.ClaimBook
import FabricUpgrade.Proofs.Trimming

/-!
# The claims and those who hold them

The keys that are taken and the claims that are held are two lists that nothing but the operations
ties together: a key comes in when a claim is made, and goes out when its claim is given up.
`ClaimBook.Sound` says that they agree, and every operation keeps it up, whatever its order among
the others.  `ClaimBook.Claiming` and `ClaimBook.Dropping` say all that an operation does.  What the
key of a URL forgets of it is `Claims.Respells`.
-/

namespace FabricUpgrade

namespace Claims

open Text

/-- With some slashes put behind each, the URLs differ in the case of their letters alone. -/
def Respells (url other : String) : Prop :=
  ∃ slashes otherSlashes, List.Forall₂ SameLetter
    (url.toList ++ List.replicate slashes '/') (other.toList ++ List.replicate otherSlashes '/')

/-- The key of a URL is its text in small letters without the slashes at its end. -/
theorem toList_key (url : String) :
    (key url).toList = dropEndWhile (· = '/') (url.toList.map Char.toLower) := by
  have slash : ((fun character : Char => decide (character = '/')) ∘ Char.toLower) =
      fun character => decide (character = '/') := by
    funext character
    simp [toLower_eq_iff (show '/'.isAlpha = false from rfl)]
  rw [key, lowerAscii, String.toList_ofList, trimSlashes, String.toList_ofList, dropEndWhile,
    dropEndWhile, ← List.map_reverse, List.dropWhile_map, slash, List.map_reverse]

/-- Texts have the same letters exactly if they are the same in small letters. -/
theorem forall₂_sameLetter_iff {first second : List Char} :
    List.Forall₂ SameLetter first second ↔
      first.map Char.toLower = second.map Char.toLower := by
  have alike : SameLetter = fun first second => first.toLower = second.toLower := by
    funext first second
    exact propext sameLetter_iff
  rw [alike, ← List.forall₂_eq_eq_eq, List.forall₂_map_left_iff, List.forall₂_map_right_iff]

/-- Slashes that are put behind a URL do not count for its key. -/
theorem dropEndWhile_slashes (url : String) (slashes : Nat) :
    dropEndWhile (· = '/') ((url.toList ++ List.replicate slashes '/').map Char.toLower) =
      (key url).toList := by
  rw [List.map_append, dropEndWhile_append, toList_key]
  intro character there
  obtain ⟨slash, member, rfl⟩ := List.mem_map.1 there
  rw [List.eq_of_mem_replicate member]
  rfl

/-- The key forgets the slashes at the end of a URL and the case of its letters, nothing else. -/
theorem key_eq_iff_respells {url other : String} : key url = key other ↔ Respells url other := by
  constructor
  · intro same
    obtain ⟨slashes, whole⟩ := exists_trimSlashes_append url
    obtain ⟨otherSlashes, otherWhole⟩ := exists_trimSlashes_append other
    refine ⟨otherSlashes, slashes, forall₂_sameLetter_iff.2 ?_⟩
    have lowered : (trimSlashes url).toList.map Char.toLower =
        (trimSlashes other).toList.map Char.toLower := String.ofList_injective same
    rw [whole, otherWhole, List.append_assoc, List.append_assoc, List.replicate_append_replicate,
      List.replicate_append_replicate, List.map_append, List.map_append, lowered, Nat.add_comm]
  · rintro ⟨slashes, otherSlashes, alike⟩
    refine String.toList_injective ?_
    rw [← dropEndWhile_slashes url slashes, ← dropEndWhile_slashes other otherSlashes,
      forall₂_sameLetter_iff.1 alike]

/-- A claim is made exactly if its key is free, and then its key is the only new one. -/
theorem claim?_eq_some_iff {claims after : Claims} {url : String} :
    claims.claim? url = some after ↔
      key url ∉ claims.keys ∧ after.keys = key url :: claims.keys := by
  obtain ⟨keys, nodup⟩ := after
  unfold claim?
  by_cases taken : key url ∈ claims.keys
  · simp [taken]
  · simp [taken, eq_comm]

/-- A claim is refused exactly if its key is taken. -/
theorem claim?_eq_none_iff {claims : Claims} {url : String} :
    claims.claim? url = none ↔ key url ∈ claims.keys := by
  unfold claim?
  split <;> simp_all

/-- A release gives up its key and no other one. -/
@[simp]
theorem mem_keys_release {claims : Claims} {key released : String} :
    key ∈ (claims.release released).keys ↔ key ∈ claims.keys ∧ key ≠ released := by
  simp [release]

end Claims

namespace ClaimBook

/-- What can be done with a book of claims. -/
inductive Operation where
  /-- To claim the manager of a URL for a holder, who gives up an older claim then. -/
  | claim (holder url : String)
  /-- To give up the claim of a holder. -/
  | drop (holder : String)
  /-- To ask whether the manager of a URL is claimed. -/
  | ask (url : String)

/-- The book after an operation. -/
def perform (book : ClaimBook) : Operation → ClaimBook
  | .claim holder url => (book.claim holder url).2
  | .drop holder => (book.drop holder).2
  | .ask _ => book

/-- The book after operations on an empty one. -/
def afterAll (operations : List Operation) : ClaimBook :=
  operations.foldl perform {}

/-- The keys of the claims that are held. -/
def heldKeys (book : ClaimBook) : List String :=
  book.live.map Prod.snd

/-- The keys that are taken are those of the claims that are held. -/
structure Sound (book : ClaimBook) : Prop where
  /-- Nobody holds two claims. -/
  holders : (book.live.map Prod.fst).Nodup
  /-- No two claims have one key. -/
  apart : book.heldKeys.Nodup
  taken : ∀ key, key ∈ book.claims.keys ↔ key ∈ book.heldKeys

/-- How a claim for a holder ends, and the book then. -/
inductive Claiming (book : ClaimBook) (holder url : String) : Bool × ClaimBook → Prop where
  /-- Somebody holds a claim with the key, and nothing changes. -/
  | refused (held : Claims.key url ∈ book.heldKeys) : Claiming book holder url (false, book)
  /-- Nobody does.  The new claim takes the place of the holder's older one, whose key is free. -/
  | made {after : ClaimBook} (free : Claims.key url ∉ book.heldKeys)
      (live : ∀ entry, entry ∈ after.live ↔
        entry = (holder, Claims.key url) ∨ (entry ∈ book.live ∧ entry.1 ≠ holder))
      (keys : ∀ key, key ∈ after.claims.keys ↔
        key = Claims.key url ∨ (key ∈ book.claims.keys ∧ (holder, key) ∉ book.live)) :
      Claiming book holder url (true, after)

/-- How giving up the claim of a holder ends, and the book then. -/
inductive Dropping (book : ClaimBook) (holder : String) : Bool × ClaimBook → Prop where
  | nothing (unheld : ∀ key, (holder, key) ∉ book.live) : Dropping book holder (false, book)
  /-- The key of the claim is free, and no other key. -/
  | dropped {after : ClaimBook} {key : String} (held : (holder, key) ∈ book.live)
      (live : ∀ entry, entry ∈ after.live ↔ entry ∈ book.live ∧ entry.1 ≠ holder)
      (keys : ∀ other, other ∈ after.claims.keys ↔ other ∈ book.claims.keys ∧ other ≠ key) :
      Dropping book holder (true, after)

section Lists

variable {live : List (String × String)} {holder key other : String}

/-- Whoever is found to hold a key holds it. -/
theorem mem_of_lookup_eq_some (found : live.lookup holder = some key) : (holder, key) ∈ live := by
  obtain ⟨before, after, rfl, -⟩ := List.lookup_eq_some_iff.1 found
  simp

/-- Whoever is not found holds no key. -/
theorem not_mem_of_lookup_eq_none (missing : live.lookup holder = none) :
    (holder, key) ∉ live := fun there => by
  simpa using List.lookup_eq_none_iff.1 missing _ there

/-- A key that is held is among those held. -/
theorem snd_mem_of_mem (there : (holder, key) ∈ live) : key ∈ live.map Prod.snd :=
  List.mem_map.2 ⟨_, there, rfl⟩

/-- The claims that the others hold. -/
def others (live : List (String × String)) (holder : String) : List (String × String) :=
  live.filter fun entry => entry.1 ≠ holder

/-- The others are all holders but the one. -/
theorem mem_others {entry : String × String} :
    entry ∈ others live holder ↔ entry ∈ live ∧ entry.1 ≠ holder := by
  simp [others]

/-- Where the keys are apart, those of the others are the ones that the holder has not. -/
theorem snd_mem_others_iff (apart : (live.map Prod.snd).Nodup) :
    other ∈ (others live holder).map Prod.snd ↔
      other ∈ live.map Prod.snd ∧ (holder, other) ∉ live := by
  have byKey := List.inj_on_of_nodup_map apart
  constructor
  · intro there
    obtain ⟨⟨who, what⟩, member, rfl⟩ := List.mem_map.1 there
    obtain ⟨member, differs⟩ := mem_others.1 member
    refine ⟨snd_mem_of_mem member, fun own => differs ?_⟩
    exact congrArg Prod.fst (byKey member own rfl)
  · rintro ⟨there, foreign⟩
    obtain ⟨⟨who, what⟩, member, rfl⟩ := List.mem_map.1 there
    have differs : who ≠ holder := by
      rintro rfl
      exact foreign member
    exact snd_mem_of_mem (mem_others.2 ⟨member, differs⟩)

end Lists

variable {book : ClaimBook} {holder url key : String}

/-- The book that a holder leaves: it has the claims of the others. -/
theorem live_drop (book : ClaimBook) (holder : String) :
    (book.drop holder).2.live = others book.live holder := by
  unfold drop
  cases found : book.live.lookup holder with
  | none =>
    refine (List.filter_eq_self.2 fun entry there => ?_).symm
    simp only [decide_eq_true_eq]
    rintro rfl
    exact not_mem_of_lookup_eq_none found there
  | some key => rfl

/-- Where nobody holds two claims, the key of the holder goes out, and no other. -/
theorem mem_keys_drop (holders : (book.live.map Prod.fst).Nodup) :
    key ∈ (book.drop holder).2.claims.keys ↔
      key ∈ book.claims.keys ∧ (holder, key) ∉ book.live := by
  unfold drop
  cases found : book.live.lookup holder with
  | none => exact (and_iff_left (not_mem_of_lookup_eq_none found)).symm
  | some held =>
    have own : (holder, key) ∈ book.live ↔ key = held := by
      have there := mem_of_lookup_eq_some found
      constructor
      · intro alsoThere
        exact congrArg Prod.snd (List.inj_on_of_nodup_map holders alsoThere there rfl)
      · rintro rfl
        exact there
    rw [own]
    exact Claims.mem_keys_release

/-- Dropping does what it should. -/
theorem dropping (book : ClaimBook) (holder : String) :
    book.Dropping holder (book.drop holder) := by
  have live (entry : String × String) :
      entry ∈ (book.drop holder).2.live ↔ entry ∈ book.live ∧ entry.1 ≠ holder := by
    rw [live_drop]
    exact mem_others
  unfold drop at live ⊢
  cases found : book.live.lookup holder with
  | none => exact .nothing fun _ => not_mem_of_lookup_eq_none found
  | some key =>
    rw [found] at live
    exact .dropped (mem_of_lookup_eq_some found) live fun _ => Claims.mem_keys_release

namespace Sound

/-- The empty book is sound. -/
theorem empty : Sound {} where
  holders := .nil
  apart := .nil
  taken _ := Iff.rfl

/-- Who gives up their claim leaves the others with theirs. -/
theorem leave (sound : book.Sound) {claims : Claims}
    (keys : ∀ key, key ∈ claims.keys ↔ key ∈ book.claims.keys ∧ (holder, key) ∉ book.live) :
    Sound ⟨claims, others book.live holder⟩ where
  holders := sound.holders.sublist (List.filter_sublist.map Prod.fst)
  apart := sound.apart.sublist (List.filter_sublist.map Prod.snd)
  taken key := by
    rw [keys, sound.taken]
    exact (snd_mem_others_iff sound.apart).symm

/-- Who holds no claim may take a free key. -/
theorem enter (sound : book.Sound) {claims : Claims} (unheld : ∀ key, (holder, key) ∉ book.live)
    (free : key ∉ book.heldKeys)
    (keys : ∀ other, other ∈ claims.keys ↔ other = key ∨ other ∈ book.claims.keys) :
    Sound ⟨claims, (holder, key) :: book.live⟩ where
  holders := by
    refine List.nodup_cons.2 ⟨fun there => ?_, sound.holders⟩
    obtain ⟨⟨who, what⟩, member, rfl⟩ := List.mem_map.1 there
    exact unheld what member
  apart := List.nodup_cons.2 ⟨free, sound.apart⟩
  taken other := by
    rw [keys, sound.taken]
    exact List.mem_cons.symm

/-- A book stays sound when a claim is dropped. -/
theorem drop (sound : book.Sound) (holder : String) : (book.drop holder).2.Sound := by
  have left : Sound ⟨(book.drop holder).2.claims, others book.live holder⟩ :=
    sound.leave fun _ => mem_keys_drop sound.holders
  rwa [← live_drop] at left

/-- A claim keeps the book sound and does what `Claiming` says. -/
theorem claim (sound : book.Sound) (holder url : String) :
    (book.claim holder url).2.Sound ∧ book.Claiming holder url (book.claim holder url) := by
  unfold ClaimBook.claim
  cases made : book.claims.claim? url with
  | none =>
    have taken := Claims.claim?_eq_none_iff.1 made
    exact ⟨sound, .refused ((sound.taken _).1 taken)⟩
  | some claims =>
    obtain ⟨new, keys⟩ := Claims.claim?_eq_some_iff.1 made
    have free : Claims.key url ∉ book.heldKeys := fun held => new ((sound.taken _).2 held)
    -- The new key is in before the older claim goes out, and the two have different keys.
    have afterKeys (key : String) :
        key ∈ (ClaimBook.drop ⟨claims, book.live⟩ holder).2.claims.keys ↔
          key = Claims.key url ∨ (key ∈ book.claims.keys ∧ (holder, key) ∉ book.live) := by
      have dropped := @mem_keys_drop ⟨claims, book.live⟩ holder key sound.holders
      rw [dropped, keys, List.mem_cons, or_and_right]
      refine or_congr_left (and_iff_left_of_imp ?_)
      rintro rfl there
      exact free (snd_mem_of_mem there)
    have afterLive : (ClaimBook.drop ⟨claims, book.live⟩ holder).2.live =
        others book.live holder := live_drop _ holder
    constructor
    · have unheld (key : String) : (holder, key) ∉ others book.live holder := fun there =>
        (mem_others.1 there).2 rfl
      have stillFree : Claims.key url ∉ (others book.live holder).map Prod.snd := fun there =>
        free ((snd_mem_others_iff sound.apart).1 there).1
      change Sound ⟨_, _ :: (ClaimBook.drop ⟨claims, book.live⟩ holder).2.live⟩
      rw [afterLive]
      refine (sound.leave fun _ => mem_keys_drop sound.holders).enter unheld stillFree fun key => ?_
      rw [afterKeys, mem_keys_drop sound.holders]
    · refine .made free (fun entry => ?_) afterKeys
      change entry ∈ _ :: (ClaimBook.drop ⟨claims, book.live⟩ holder).2.live ↔ _
      rw [afterLive, List.mem_cons, mem_others]

end Sound

/-- A sound book stays sound under every operation. -/
theorem Sound.perform (sound : book.Sound) (operation : Operation) :
    (book.perform operation).Sound := by
  cases operation with
  | claim holder url => exact (sound.claim holder url).1
  | drop holder => exact sound.drop holder
  | ask url => exact sound

/-- After any operations the book is sound. -/
theorem sound_afterAll (operations : List Operation) : (afterAll operations).Sound := by
  have kept (book : ClaimBook) (sound : book.Sound) : (operations.foldl perform book).Sound := by
    induction operations generalizing book with
    | nil => exact sound
    | cons operation rest inductionHypothesis =>
      exact inductionHypothesis _ (sound.perform operation)
  exact kept {} .empty

/-- After any operations in any order the keys that are taken are those of the claims that are held,
and no two of these have one key.  A claim is made exactly if nobody holds one with its key, and a
refused one changes nothing; giving up a claim frees its key and no other; a manager is claimed
exactly if somebody holds a claim with its key.  URLs have one key exactly if only slashes at the
end and the case of letters tell them apart. -/
theorem keys_follow_holders (operations : List Operation) :
    let book := afterAll operations
    book.Sound ∧
      (∀ holder url, book.Claiming holder url (book.claim holder url)) ∧
      (∀ holder, book.Dropping holder (book.drop holder)) ∧
      (∀ url, book.claims.isClaimed url = true ↔ Claims.key url ∈ book.heldKeys) ∧
      ∀ url other, Claims.key url = Claims.key other ↔ Claims.Respells url other := by
  intro book
  have sound : book.Sound := sound_afterAll operations
  refine ⟨sound, fun holder url => (sound.claim holder url).2, book.dropping, fun url => ?_,
    fun _ _ => Claims.key_eq_iff_respells⟩
  rw [← sound.taken, Claims.isClaimed, decide_eq_true_eq]

example : (afterAll [.claim "first" "http://nsx.test/", .claim "second" "http://NSX.test",
    .claim "first" "http://other.test"]).live = [("first", "http://other.test")] := by
  decide +kernel

end ClaimBook

end FabricUpgrade
