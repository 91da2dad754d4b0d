import Mathlib.Data.List.Infix
import Mathlib.Data.List.Nodup
import FabricUpgrade.Simulation.Fabric

/-!
# Groups behind one another

To put a group behind another one takes it out of its place and changes nothing else in the order of
the groups (`Fabric.MovedBehind`).  When each of some groups, from the second on, has been put behind
the one before it, they stand together in their order, and the first of them stands among the others
where it stood (`Plan.Arranged`).
-/

namespace FabricUpgrade

open Simulation

/-- The group as it is written back in the turn of a declared one: only that of its name is
changed. -/
def DeclaredGroup.turn (declared : DeclaredGroup) (component : Component) (group : UnitGroup) :
    UnitGroup :=
  if group.id = declared.id then declared.applyTo component group else group

/-- The turn of a declared group leaves the ids as they are. -/
@[simp]
theorem DeclaredGroup.turn_id (declared : DeclaredGroup) (component : Component)
    (group : UnitGroup) : (declared.turn component group).id = group.id := by
  unfold turn
  split <;> rfl

/-- The turn of a declared group leaves the other groups alone. -/
theorem DeclaredGroup.turn_of_ne {declared : DeclaredGroup} {component : Component}
    {group : UnitGroup} (other : group.id ≠ declared.id) :
    declared.turn component group = group :=
  if_neg other

namespace Plan

/-- The group as it stands when the turns of the declared ones are over. -/
def overwritten (component : Component) (declared : List DeclaredGroup) (group : UnitGroup) :
    UnitGroup :=
  declared.foldl (fun group declared => declared.turn component group) group

variable {component : Component} {declared : List DeclaredGroup} {group : UnitGroup}

/-- Overwriting leaves the ids as they are. -/
@[simp]
theorem overwritten_id : (overwritten component declared group).id = group.id := by
  induction declared generalizing group with
  | nil => rfl
  | cons first rest inductionHypothesis =>
    exact inductionHypothesis.trans (first.turn_id component group)

/-- What is declared last is written over last. -/
theorem overwritten_snoc (last : DeclaredGroup) :
    overwritten component (declared ++ [last]) group =
      last.turn component (overwritten component declared group) :=
  List.foldl_append

/-- A group that is not declared is left as it is. -/
theorem overwritten_of_not_mem (undeclared : group.id ∉ declared.map DeclaredGroup.id) :
    overwritten component declared group = group := by
  induction declared with
  | nil => rfl
  | cons first rest inductionHypothesis =>
    rw [List.map_cons, List.mem_cons, not_or] at undeclared
    change overwritten component rest (first.turn component group) = group
    rw [DeclaredGroup.turn_of_ne undeclared.1, inductionHypothesis undeclared.2]

end Plan

namespace Simulation.Fabric

variable {groups : List UnitGroup} {id anchor : String}

/-- Where names are distinct a group has one place. -/
theorem split_of_mem (distinct : (groups.map UnitGroup.id).Nodup)
    (there : id ∈ groups.map UnitGroup.id) :
    ∃ before group after, groups = before ++ group :: after ∧ group.id = id ∧
      id ∉ before.map UnitGroup.id ∧ id ∉ after.map UnitGroup.id := by
  obtain ⟨group, member, rfl⟩ := List.mem_map.1 there
  obtain ⟨before, after, rfl⟩ := List.append_of_mem member
  refine ⟨before, group, after, rfl, rfl, ?_⟩
  rw [List.map_append, List.map_cons, List.nodup_middle, List.nodup_cons, List.mem_append,
    not_or] at distinct
  exact distinct.1

/-- Where names are distinct the first group of a name is the only one. -/
theorem modifyFirst_eq_map (distinct : (groups.map UnitGroup.id).Nodup) (changed : UnitGroup) :
    modifyFirst (fun other => other.id = id) (fun _ => changed) groups =
      groups.map fun group => if group.id = id then changed else group := by
  induction groups with
  | nil => rfl
  | cons first rest inductionHypothesis =>
    rw [List.map_cons, List.nodup_cons] at distinct
    rw [modifyFirst, List.map_cons]
    by_cases named : first.id = id
    · have others : (rest.map fun group => if group.id = id then changed else group) = rest := by
        refine List.map_congr_left (fun group member => if_neg fun same => ?_) |>.trans
          (List.map_id rest)
        exact distinct.1 (List.mem_map.2 ⟨group, member, same.trans named.symm⟩)
      simp [named, others]
    · simp [named, inductionHypothesis distinct.2]

section Split

variable {before after : List UnitGroup} {group : UnitGroup}
  (named : group.id = id) (first : id ∉ before.map UnitGroup.id)

include named first

/-- The group at the cut is found. -/
theorem find?_split :
    ((before ++ group :: after).find? fun other => other.id = id) = some group := by
  have earlier : (before.find? fun other => other.id = id) = none := by
    rw [List.find?_eq_none]
    intro other member
    simpa using fun same : other.id = id => first (List.mem_map.2 ⟨other, member, same⟩)
  simp [earlier, named]

/-- The group at the cut is taken out. -/
theorem eraseP_split :
    ((before ++ group :: after).eraseP fun other => other.id = id) = before ++ after := by
  have earlier : ∀ other ∈ before, ¬ (decide (other.id = id) = true) := by
    intro other member
    simpa using fun same : other.id = id => first (List.mem_map.2 ⟨other, member, same⟩)
  rw [List.eraseP_append_right _ earlier, List.eraseP_cons_of_pos (by simpa using named)]

/-- Behind an anchor a group is put right behind it. -/
theorem insertAt_split (moving : UnitGroup) :
    insertAt moving (.after id) (before ++ group :: after) =
      before ++ group :: moving :: after := by
  induction before with
  | nil => simp [insertAt, Placement.after, named]
  | cons other rest inductionHypothesis =>
    rw [List.map_cons, List.mem_cons, not_or] at first
    have different : ¬ other.id = (Placement.after id).anchor := fun same => first.1 same.symm
    rw [List.cons_append, insertAt, if_neg different, inductionHypothesis first.2, List.cons_append]

end Split

/-- Where names are distinct a group is found by its name. -/
theorem find?_of_mem (distinct : (groups.map UnitGroup.id).Nodup) {group : UnitGroup}
    (member : group ∈ groups) :
    (groups.find? fun other => other.id = group.id) = some group := by
  obtain ⟨before, found, after, split, named, first, -⟩ :=
    split_of_mem distinct (List.mem_map.2 ⟨group, member, rfl⟩)
  have there : found ∈ groups := split ▸ List.mem_append_right _ List.mem_cons_self
  obtain rfl := List.inj_on_of_nodup_map distinct there member named
  rw [split, find?_split rfl first]

/-- The group of the name has been taken out of its place and put back right behind the anchor. -/
inductive MovedBehind (anchor id : String) : List UnitGroup → List UnitGroup → Prop where
  | intro {before after front back : List UnitGroup} {moving anchored : UnitGroup}
      (taken : before ++ after = front ++ anchored :: back) (named : moving.id = id)
      (behind : anchored.id = anchor) :
      MovedBehind anchor id (before ++ moving :: after) (front ++ anchored :: moving :: back)

section CarryingOut

variable {fabric : Fabric} (distinct : (fabric.groups.map UnitGroup.id).Nodup)
  (there : id ∈ fabric.groups.map UnitGroup.id)

include distinct there

/-- A group that is there is got. -/
theorem carryOut_getGroup : ∃ group ∈ fabric.groups, group.id = id ∧
    fabric.carryOut (.getGroup id) = (.ok group, fabric) := by
  obtain ⟨before, group, after, split, named, first, -⟩ := split_of_mem distinct there
  refine ⟨group, split ▸ List.mem_append_right _ List.mem_cons_self, named, ?_⟩
  rw [carryOut, split, find?_split named first]

/-- A group that is there is replaced by what is put. -/
theorem carryOut_updateGroup (changed : UnitGroup) :
    (fabric.carryOut (.updateGroup id changed)).1 = .ok changed ∧
      (fabric.carryOut (.updateGroup id changed)).2.groups =
        fabric.groups.map fun group => if group.id = id then changed else group := by
  have any : (fabric.groups.any fun other => other.id = id) = true := by
    simpa using there
  rw [carryOut, if_pos any]
  exact ⟨rfl, modifyFirst_eq_map distinct changed⟩

/-- A group that is there is moved behind another one that is there. -/
theorem carryOut_reorderGroup (anchored : anchor ∈ fabric.groups.map UnitGroup.id)
    (different : anchor ≠ id) :
    (fabric.carryOut (.reorderGroup id (.after anchor))).1 = .ok () ∧
      MovedBehind anchor id fabric.groups
        (fabric.carryOut (.reorderGroup id (.after anchor))).2.groups := by
  obtain ⟨before, moving, after, split, named, first, last⟩ := split_of_mem distinct there
  have others : ((before ++ after).map UnitGroup.id).Nodup := by
    refine distinct.sublist (List.Sublist.map _ ?_)
    rw [split]
    exact List.Sublist.append (List.Sublist.refl _) (List.sublist_cons_self _ _)
  have stays : anchor ∈ (before ++ after).map UnitGroup.id := by
    rw [split, List.map_append, List.map_cons, named] at anchored
    rw [List.map_append]
    rcases List.mem_append.1 anchored with early | late
    · exact List.mem_append_left _ early
    · exact List.mem_append_right _ ((List.mem_cons.1 late).resolve_left different)
  obtain ⟨front, anchorGroup, back, taken, behind, unanchored, -⟩ := split_of_mem others stays
  have any : ((before ++ after).any fun other => other.id = (Placement.after anchor).anchor) =
      true := by
    obtain ⟨other, member, same⟩ := List.mem_map.1 stays
    exact List.any_eq_true.2 ⟨other, member, decide_eq_true same⟩
  have moved : fabric.carryOut (.reorderGroup id (.after anchor)) = (.ok (), { fabric with
      groups := front ++ anchorGroup :: moving :: back }) := by
    rw [carryOut, reorder, split, find?_split named first, eraseP_split named first]
    simp only [any, if_true]
    rw [taken, insertAt_split behind unanchored]
    rfl
  rw [moved, split]
  exact ⟨rfl, .intro taken named behind⟩

end CarryingOut

/-- A part of a list without an element is a part of the rest. -/
theorem infix_of_not_mem {Item : Type} [DecidableEq Item] {part before after : List Item}
    {item : Item} (distinct : (before ++ item :: after).Nodup) (other : item ∉ part)
    (stands : part <:+: before ++ item :: after) : part <:+: before ++ after := by
  have alone := List.nodup_cons.1 (List.nodup_middle.1 distinct)
  have kept : part.filter (fun one => one ≠ item) = part := by
    refine List.filter_eq_self.2 fun one member => ?_
    simpa using ne_of_mem_of_not_mem member other
  have rest : (before ++ item :: after).filter (fun one => one ≠ item) = before ++ after := by
    rw [List.filter_append, List.filter_cons_of_neg (by simp), ← List.filter_append]
    refine List.filter_eq_self.2 fun one member => ?_
    simpa using ne_of_mem_of_not_mem member alone.1
  have filtered := stands.filter fun one => one ≠ item
  rwa [kept, rest] at filtered

namespace MovedBehind

variable {now : List UnitGroup}

/-- A move keeps the groups up to their order. -/
theorem perm (moved : MovedBehind anchor id groups now) : now.Perm groups := by
  cases moved with
  | @intro before after front back moving anchored taken named behind =>
    have taken : moving :: (front ++ anchored :: back) = moving :: (before ++ after) :=
      congrArg _ taken.symm
    have out : (front ++ anchored :: moving :: back).Perm
        (moving :: (front ++ anchored :: back)) := by
      simpa using (List.perm_middle : (front ++ [anchored] ++ moving :: back).Perm _)
    exact out.trans (taken ▸ List.perm_middle.symm)

/-- What is looked at without the group that moves is in its order. -/
theorem filter_eq (moved : MovedBehind anchor id groups now) {test : UnitGroup → Bool}
    (drops : ∀ group, group.id = id → test group = false) :
    now.filter test = groups.filter test := by
  cases moved with
  | @intro before after front back moving anchored taken named behind =>
    have dropped : ¬ test moving = true := by simp [drops moving named]
    calc (front ++ anchored :: moving :: back).filter test
      _ = (front ++ anchored :: back).filter test := by
        simp [List.filter_append, List.filter_cons, dropped]
      _ = (before ++ after).filter test := by rw [taken]
      _ = (before ++ moving :: after).filter test := by
        rw [List.filter_append, List.filter_append, List.filter_cons_of_neg dropped]

/-- Names that stand together and end with the anchor are followed by the name of the group that was
moved. -/
theorem together (moved : MovedBehind anchor id groups now) {chain : List String}
    (distinct : (groups.map UnitGroup.id).Nodup) (other : id ∉ chain ++ [anchor])
    (stand : chain ++ [anchor] <:+: groups.map UnitGroup.id) :
    chain ++ [anchor] ++ [id] <:+: now.map UnitGroup.id := by
  cases moved with
  | @intro before after front back moving anchored taken named behind =>
    subst named behind
    rw [List.map_append, List.map_cons] at stand distinct
    have rest := infix_of_not_mem distinct other stand
    have names := congrArg (List.map UnitGroup.id) taken
    rw [List.map_append, List.map_append, List.map_cons] at names
    have restDistinct := (List.nodup_cons.1 (List.nodup_middle.1 distinct)).2
    rw [names] at rest restDistinct
    obtain ⟨left, right, split⟩ := rest
    have cut : left ++ chain ++ anchored.id :: right =
        front.map UnitGroup.id ++ anchored.id :: back.map UnitGroup.id := by
      rw [← split]
      simp
    have once := (List.nodup_cons.1 (List.nodup_middle.1 restDistinct)).1
    obtain ⟨early, -, late⟩ := (List.append_cons_inj_of_notMem
      (fun member => once (List.mem_append_left _ member))
      fun member => once (List.mem_append_right _ member)).1 cut.symm
    refine ⟨left, right, ?_⟩
    rw [List.map_append, List.map_cons, List.map_cons, early, late]
    simp

end MovedBehind

end Simulation.Fabric

/-- What has happened to the groups has not changed those whose names are not among the touched, and
it has left those whose names are not among the moved in their order. -/
structure Spares (touched moved : List String) (old now : List UnitGroup) : Prop where
  kept : now.filter (fun group => group.id ∉ touched) = old.filter fun group => group.id ∉ touched
  inOrder : (now.map UnitGroup.id).filter (fun id => id ∉ moved) =
    (old.map UnitGroup.id).filter fun id => id ∉ moved
  sameIds : (now.map UnitGroup.id).Perm (old.map UnitGroup.id)

/-- Lists that are alike in what passes one test are alike in what passes a stricter one. -/
theorem filter_eq_of_stricter {Item : Type} {first second : List Item} {test stricter : Item → Bool}
    (same : first.filter test = second.filter test)
    (implies : ∀ item, stricter item = true → test item = true) :
    first.filter stricter = second.filter stricter := by
  have twice (items : List Item) : (items.filter test).filter stricter = items.filter stricter := by
    rw [List.filter_filter]
    refine List.filter_congr fun item _ => ?_
    rw [Bool.eq_iff_iff, Bool.and_eq_true]
    exact ⟨And.left, fun passes => ⟨passes, implies item passes⟩⟩
  rw [← twice first, same, twice]

/-- A turn of all groups leaves their ids as they are. -/
theorem map_turn_id (groups : List UnitGroup) (declared : DeclaredGroup) (component : Component) :
    (groups.map (declared.turn component)).map UnitGroup.id = groups.map UnitGroup.id := by
  rw [List.map_map]
  exact List.map_congr_left fun group _ => declared.turn_id component group

namespace Spares

variable {touched moved : List String} {old middle now : List UnitGroup}

/-- Nothing is touched where nothing happens. -/
theorem refl (groups : List UnitGroup) : Spares touched moved groups groups :=
  ⟨rfl, rfl, List.Perm.refl _⟩

/-- More groups may be touched and moved. -/
theorem mono {alsoTouched alsoMoved : List String} (spares : Spares touched moved old now)
    (more : touched ⊆ alsoTouched) (moreMoved : moved ⊆ alsoMoved) :
    Spares alsoTouched alsoMoved old now where
  kept := by
    refine filter_eq_of_stricter spares.kept fun group untouched => ?_
    simp only [decide_eq_true_eq] at untouched ⊢
    exact fun member => untouched (more member)
  inOrder := by
    refine filter_eq_of_stricter spares.inOrder fun id unmoved => ?_
    simp only [decide_eq_true_eq] at unmoved ⊢
    exact fun member => unmoved (moreMoved member)
  sameIds := spares.sameIds

/-- The turn of a declared group whose name is among the touched. -/
theorem turn (spares : Spares touched moved old now) {declared : DeclaredGroup}
    (component : Component) (member : declared.id ∈ touched) :
    Spares touched moved old (now.map (declared.turn component)) := by
  have ids := map_turn_id now declared component
  refine ⟨?_, ids ▸ spares.inOrder, ids ▸ spares.sameIds⟩
  have test : ((fun group : UnitGroup => decide (group.id ∉ touched)) ∘ declared.turn component) =
      fun group => decide (group.id ∉ touched) := by
    funext group
    simp
  rw [List.filter_map, test, ← spares.kept]
  refine (List.map_congr_left fun group kept => ?_).trans (List.map_id _)
  have untouched := of_decide_eq_true (List.mem_filter.1 kept).2
  exact DeclaredGroup.turn_of_ne fun same => untouched (same ▸ member)

/-- The move of a group whose name is among both. -/
theorem move {id anchor : String} (spares : Spares touched moved old middle)
    (moves : Fabric.MovedBehind anchor id middle now) (touches : id ∈ touched)
    (member : id ∈ moved) : Spares touched moved old now where
  kept := by
    rw [← spares.kept]
    exact moves.filter_eq fun group named => by simp [named, touches]
  inOrder := by
    rw [← spares.inOrder, List.filter_map, List.filter_map]
    exact congrArg _ (moves.filter_eq fun group named => by simp [named, member])
  sameIds := (moves.perm.map UnitGroup.id).trans spares.sameIds

end Spares

namespace Plan

variable {component : Component} {done : List DeclaredGroup} {last : DeclaredGroup}
  {old middle now : List UnitGroup} {anchor : String}

/-- The groups have got the options that are declared of them.  No other group is changed, and of
the declared ones only those behind the first are moved. -/
structure Overwritten (component : Component) (declared : List DeclaredGroup)
    (old now : List UnitGroup) : Prop where
  configured : now.Perm (old.map (overwritten component declared))
  spares : Spares (declared.map DeclaredGroup.id) (declared.map DeclaredGroup.id).tail old now

/-- Besides, the declared groups stand together in their order. -/
structure Arranged (component : Component) (declared : List DeclaredGroup)
    (old now : List UnitGroup) : Prop extends Overwritten component declared old now where
  together : declared.map DeclaredGroup.id <:+: now.map UnitGroup.id

/-- Without declared groups everything stays as it is. -/
theorem arranged_nil (groups : List UnitGroup) : Arranged component [] groups groups where
  configured := (List.map_id groups).symm ▸ List.Perm.refl _
  spares := .refl groups
  together := List.nil_infix

/-- Whatever is declared behind them, no less is spared. -/
theorem Overwritten.spares_snoc (written : Overwritten component done old now)
    (last : DeclaredGroup) :
    Spares ((done ++ [last]).map DeclaredGroup.id) ((done ++ [last]).map DeclaredGroup.id).tail
      old now := by
  refine written.spares.mono ?_ ?_
  · rw [List.map_append]
    exact List.subset_append_left _ _
  · cases done with
    | nil => exact List.nil_subset _
    | cons first rest =>
      simp only [List.cons_append, List.map_cons, List.tail_cons, List.map_append]
      exact List.subset_append_left _ _

/-- One more group is overwritten. -/
theorem Overwritten.turn (written : Overwritten component done old now) (last : DeclaredGroup) :
    Overwritten component (done ++ [last]) old (now.map (last.turn component)) where
  configured := by
    have turned := written.configured.map (last.turn component)
    rw [List.map_map] at turned
    exact turned.trans (List.Perm.of_eq (List.map_congr_left fun group _ =>
      (overwritten_snoc last).symm))
  spares := (written.spares_snoc last).turn component (by simp)

/-- One that is not the first of them is moved. -/
theorem Overwritten.move (written : Overwritten component (done ++ [last]) old middle)
    (later : done ≠ []) (moved : Fabric.MovedBehind anchor last.id middle now) :
    Overwritten component (done ++ [last]) old now where
  configured := moved.perm.trans written.configured
  spares := by
    refine written.spares.move moved (by simp) ?_
    cases done with
    | nil => exact absurd rfl later
    | cons first rest => simp

/-- The first group is configured. -/
theorem Arranged.first (arranged : Arranged component [] old middle)
    (there : last.id ∈ middle.map UnitGroup.id) :
    Arranged component [last] old (middle.map (last.turn component)) where
  toOverwritten := arranged.turn last
  together := by
    rw [map_turn_id]
    obtain ⟨before, after, split⟩ := List.append_of_mem there
    exact ⟨before, after, by rw [split]; simp⟩

/-- A group behind others that are configured is configured and put behind the last of them. -/
theorem Arranged.snoc {anchored : DeclaredGroup}
    (arranged : Arranged component (done ++ [anchored]) old middle)
    (distinct : (middle.map UnitGroup.id).Nodup)
    (different : last.id ∉ (done ++ [anchored]).map DeclaredGroup.id)
    (moved : Fabric.MovedBehind anchored.id last.id (middle.map (last.turn component)) now) :
    Arranged component (done ++ [anchored] ++ [last]) old now where
  toOverwritten := (arranged.turn last).move (by simp) moved
  together := by
    have together := arranged.together
    rw [List.map_append] at different together
    rw [List.map_append, List.map_append]
    rw [← map_turn_id middle last component] at distinct together
    exact moved.together distinct different together

end Plan

end FabricUpgrade
