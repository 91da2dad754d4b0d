import Mathlib.Data.List.Nodup
import FabricUpgrade.Proofs.Merging
import FabricUpgrade.SortedMap

/-!
# What a map in the order of its keys holds

A map that is made of entries is in the order of its keys (`SortedMap.ordered_ofEntries`) and holds the
last value that the entries give a key (`SortedMap.lookup_ofEntries`).  Both together determine it
(`SortedMap.Ordered.eq_of_lookup_eq`), so keys can be left out before or after the map is made, and a
map is the one of its own entries.
-/

namespace FabricUpgrade.SortedMap

open Json

variable {Value : Type} {key other : String} {value : Value} {entry : String × Value}
  {map entries : List (String × Value)}

/-- The keys stand in their order, each once. -/
def Ordered (map : List (String × Value)) : Prop :=
  map.Pairwise fun before after => before.1 < after.1

/-- No key of a map in order stands twice. -/
theorem Ordered.nodup_keys (ordered : Ordered map) : (map.map Prod.fst).Nodup :=
  List.pairwise_map.2 (ordered.imp String.ne_of_lt)

/-- What is in a map after a key was set is that entry or was in it before. -/
theorem mem_insert (there : entry ∈ insert key value map) : entry = (key, value) ∨ entry ∈ map := by
  induction map with
  | nil => exact .inl (List.mem_singleton.1 there)
  | cons first rest inductionHypothesis =>
    obtain ⟨known, old⟩ := first
    unfold insert at there
    split at there
    · exact List.mem_cons.1 there
    · split at there
      · exact (List.mem_cons.1 there).imp_right (List.mem_cons_of_mem _)
      · rcases List.mem_cons.1 there with rfl | there
        · exact .inr List.mem_cons_self
        · exact (inductionHypothesis there).imp_right (List.mem_cons_of_mem _)

/-- To set a key keeps a map in order. -/
theorem ordered_insert (ordered : Ordered map) : Ordered (insert key value map) := by
  induction map with
  | nil => exact List.pairwise_singleton _ _
  | cons first rest inductionHypothesis =>
    obtain ⟨known, old⟩ := first
    obtain ⟨above, others⟩ := List.pairwise_cons.1 ordered
    unfold insert
    split
    next before =>
      refine List.pairwise_cons.2 ⟨List.forall_mem_cons.2 ⟨before, fun entry there => ?_⟩, ordered⟩
      exact String.lt_trans before (above entry there)
    next unbefore =>
      split
      next same =>
        subst same
        exact List.pairwise_cons.2 ⟨above, others⟩
      next different =>
        have behind : known < key := Std.lt_of_le_of_ne unbefore (Ne.symm different)
        refine List.pairwise_cons.2 ⟨fun entry there => ?_, inductionHypothesis others⟩
        rcases mem_insert there with rfl | old
        · exact behind
        · exact above entry old

/-- To set a key changes what the map holds under it, and nothing else. -/
theorem lookup_insert :
    (insert key value map).lookup other = if other = key then some value else map.lookup other := by
  induction map with
  | nil => exact Members.lookup_cons
  | cons first rest inductionHypothesis =>
    obtain ⟨known, old⟩ := first
    rw [insert]
    split
    case isTrue => exact Members.lookup_cons
    case isFalse =>
      split
      case isTrue same =>
        subst same
        simp only [Members.lookup_cons]
        split <;> rfl
      case isFalse differs =>
        simp only [Members.lookup_cons, inductionHypothesis]
        by_cases found : other = known
        · simp [found, Ne.symm differs]
        · simp [found]

/-- The map of entries is in the order of its keys. -/
theorem ordered_ofEntries (entries : List (String × Value)) : Ordered (ofEntries entries) := by
  have folded (entries map : List (String × Value)) (ordered : Ordered map) :
      Ordered (entries.foldl (fun map entry => insert entry.1 entry.2 map) map) := by
    induction entries generalizing map with
    | nil => exact ordered
    | cons entry rest inductionHypothesis => exact inductionHypothesis _ (ordered_insert ordered)
  exact folded entries [] .nil

/-- The map of entries holds the last value that they give a key. -/
theorem lookup_ofEntries (entries : List (String × Value)) :
    (ofEntries entries).lookup key = entries.reverse.lookup key := by
  have folded (entries map : List (String × Value)) :
      (entries.foldl (fun map entry => insert entry.1 entry.2 map) map).lookup key =
        (entries.reverse.lookup key).or (map.lookup key) := by
    induction entries generalizing map with
    | nil => rfl
    | cons entry rest inductionHypothesis =>
      obtain ⟨known, value⟩ := entry
      rw [List.foldl_cons, inductionHypothesis, lookup_insert, List.reverse_cons,
        List.lookup_append, Option.or_assoc, Members.lookup_cons]
      congr 1
      split <;> simp
  rw [ofEntries, folded, List.lookup_nil, Option.or_none]

/-- What is in the map of entries is one of them. -/
theorem mem_of_mem_ofEntries (there : entry ∈ ofEntries entries) : entry ∈ entries := by
  have folded (entries map : List (String × Value))
      (there : entry ∈ entries.foldl (fun map entry => insert entry.1 entry.2 map) map) :
      entry ∈ entries ∨ entry ∈ map := by
    induction entries generalizing map with
    | nil => exact .inr there
    | cons first rest inductionHypothesis =>
      rcases inductionHypothesis _ there with later | inserted
      · exact .inl (List.mem_cons_of_mem _ later)
      · refine (mem_insert inserted).imp_left fun same => ?_
        rw [same]
        exact List.mem_cons_self
  exact (folded entries [] there).resolve_right List.not_mem_nil

/-- Where no key stands twice, what stands there is what a look-up shows. -/
theorem mem_iff_lookup_eq (once : (map.map Prod.fst).Nodup) :
    (key, value) ∈ map ↔ map.lookup key = some value := by
  induction map with
  | nil => simp
  | cons first rest inductionHypothesis =>
    obtain ⟨known, old⟩ := first
    obtain ⟨unrepeated, once⟩ := List.nodup_cons.1 once
    rw [List.mem_cons, Members.lookup_cons, Prod.mk.injEq]
    split
    next same =>
      subst same
      have absent : (key, value) ∉ rest := fun there =>
        unrepeated (List.mem_map.2 ⟨_, there, rfl⟩)
      simp [absent, eq_comm]
    next differs => simp [differs, inductionHypothesis once]

/-- Maps in order that show the same under every key are the same. -/
theorem Ordered.eq_of_lookup_eq {first second : List (String × Value)} (ordered : Ordered first)
    (orderedToo : Ordered second) (same : ∀ key, first.lookup key = second.lookup key) :
    first = second := by
  have members (entry : String × Value) : entry ∈ first ↔ entry ∈ second := by
    rw [mem_iff_lookup_eq ordered.nodup_keys, mem_iff_lookup_eq orderedToo.nodup_keys, same]
  have permuted : first.Perm second :=
    (List.perm_ext_iff_of_nodup ordered.nodup_keys.of_map orderedToo.nodup_keys.of_map).2 members
  exact permuted.eq_of_pairwise
    (fun _ _ _ _ before after => absurd after (String.lt_asymm before)) ordered orderedToo

/-- A map in order is the one of its own entries. -/
theorem ofEntries_of_ordered (ordered : Ordered map) : ofEntries map = map := by
  refine (ordered_ofEntries map).eq_of_lookup_eq ordered fun key => Option.ext fun value => ?_
  have once : (map.reverse.map Prod.fst).Nodup := by
    rw [List.map_reverse, List.nodup_reverse]
    exact ordered.nodup_keys
  rw [lookup_ofEntries, ← mem_iff_lookup_eq once, ← mem_iff_lookup_eq ordered.nodup_keys,
    List.mem_reverse]

/-- Of entries with some keys left out a look-up shows those of the other keys. -/
theorem lookup_filter (keep : String → Bool) (entries : List (String × Value)) :
    (entries.filter fun entry => keep entry.1).lookup key =
      if keep key then entries.lookup key else none := by
  induction entries with
  | nil => simp
  | cons entry rest inductionHypothesis =>
    obtain ⟨known, value⟩ := entry
    by_cases same : key = known
    · subst same
      by_cases kept : keep key = true <;> simp [kept, inductionHypothesis]
    · by_cases kept : keep known = true <;> simp [kept, inductionHypothesis, same]

/-- Keys can be left out before or after the map is made. -/
theorem ofEntries_filter (keep : String → Bool) (entries : List (String × Value)) :
    ofEntries (entries.filter fun entry => keep entry.1) =
      (ofEntries entries).filter fun entry => keep entry.1 := by
  refine (ordered_ofEntries _).eq_of_lookup_eq ((ordered_ofEntries entries).filter _) fun key => ?_
  rw [lookup_ofEntries, ← List.filter_reverse, lookup_filter, lookup_filter, lookup_ofEntries]

end FabricUpgrade.SortedMap
