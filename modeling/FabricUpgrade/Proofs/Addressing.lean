import FabricUpgrade.Proofs.Acceptance
import FabricUpgrade.Proofs.Argument
import FabricUpgrade.Proofs.Listing
import FabricUpgrade.Proofs.Roots

/-!
# Which group a request is for

The name of a group is written into the URL of a request as it is.  The request is for that group
exactly if the name stands for itself in a path, behind a base URL without a query and a fragment
(`Endpoint.addresses_iff`); a name with a slash, a mark that cuts the path off, an encoding or a dot
segment leads to another resource (`Endpoint.not_addresses_dotted`).
-/

namespace FabricUpgrade

open Text

/-- The names of the groups that a spec declares. -/
def Spec.groupIds (spec : Spec) : List String :=
  spec.edgeGroups.map EdgeGroup.id ++ spec.hostGroups.map HostGroup.id

/-- No group that is declared in an accepted spec has an empty id. -/
theorem Spec.named_of_fault? {spec : Spec} (accepted : spec.fault? = none) {id : String}
    (declared : id ∈ spec.groupIds) : id ≠ "" := by
  rintro rfl
  have named : trim "" ≠ "" := by
    rcases List.mem_append.1 declared with edge | host
    · exact (keeps_of_fault? accepted none .edgeGroups (by decide)).named _ edge
    · exact (keeps_of_fault? accepted none .hostGroups (by decide)).named _ host
  exact named (by decide)

/-- A name stands for itself in a path: no character of it ends a segment or the path or is left
out there, and there is neither a dot segment nor an encoding in it. -/
structure StandsForItself (id : String) : Prop where
  unbroken : ∀ character ∈ id.toList, character ∉ ['/', '\\', '?', '#', '\t', '\n', '\r']
  closed : ∀ last ∈ id.toList.getLast?, 0x20 < last.toNat
  noDots : id ≠ "." ∧ id ≠ ".."
  bare : ¬ Percent.HasEncoding id.toList

namespace Endpoint

variable {endpoint : Endpoint} {call : Call} {id : String} {url : Url}

/-- The path of groups behind that of the base URL. -/
def groupsPath : List String :=
  ["api", "v1", "upgrade", "upgrade-unit-groups"]

/-- The URL of a call is that of the group: behind the path of the base URL there is the path of
groups and one more segment, which is the name of the group when its encodings are undone.  A group
is moved by the action for that, and no other. -/
structure Addresses (endpoint : Endpoint) (call : Call) (id : String) (url : Url) : Prop where
  path : ∃ home base last, Url.parse? (endpoint.baseUrl ++ "/") = some home ∧
    home.path = .segments (base ++ [""]) ∧
    (url.scheme = home.scheme ∧ url.host = home.host ∧ url.port = home.port) ∧
    url.path = .segments (base ++ groupsPath ++ [last]) ∧
    Percent.decode last.toList = Utf8.encode id
  action : ∀ placement, call = .reorderGroup id placement →
    url.pairs.filter (fun pair => pair.1 = "action") = [("action", "reorder")]

/-- The base URL is one of a web server, with neither a query nor a fragment. -/
def HasPlainBase (endpoint : Endpoint) : Prop :=
  ∃ home, Url.parse? (endpoint.baseUrl ++ "/") = some home ∧ home.hasHost = true ∧
    home.scheme ∈ ["http", "https"] ∧ home.query = none ∧ home.fragment = none

/-- What is written behind the base URL and a slash for a group. -/
def groupText (id : String) : String :=
  upgradePath ++ ("/upgrade-unit-groups/" ++ id)

/-- The text of the URL for a group is the base with the group behind it. -/
theorem urlText_of_group? (about : call.group? = some id) :
    endpoint.urlText (route call).path = endpoint.baseUrl ++ "/" ++ groupText id := by
  have path : (route call).path = "/upgrade-unit-groups/" ++ id := by
    cases call <;> first | (cases about; rfl) | cases about
  rw [path, urlText, groupText]
  exact String.append_assoc

/-- Both schemes that are sent to are those of the web. -/
theorem isWeb_of_mem {scheme : String} (allowed : scheme ∈ ["http", "https"]) :
    Url.isWeb scheme = true := by
  simp only [List.mem_cons, List.not_mem_nil, or_false] at allowed
  rcases allowed with rfl | rfl <;> decide

/-!
## The path of a group
-/

/-- The path of the groups is shown as it is. -/
theorem shown_groupsPath : UrlPath.shown (groupsPath.map String.toList) = groupsPath := by
  decide +kernel

/-- The path of groups as it is written. -/
def groupsText : List Char :=
  "api/v1/upgrade/upgrade-unit-groups".toList

/-- Of the text of a group only the id has to be tidied. -/
theorem tidy_groupText (id : String) :
    Url.tidy (groupText id).toList = groupsText ++ '/' :: Url.tidy id.toList := by
  have front : upgradePath.toList ++ "/upgrade-unit-groups/".toList = groupsText ++ ['/'] := by
    decide +kernel
  have whole : (groupText id).toList = groupsText ++ '/' :: id.toList := by
    rw [groupText, String.toList_append, String.toList_append, ← List.append_assoc, front,
      List.append_assoc, List.singleton_append]
  have counted : groupsText.filter Url.counts = groupsText := by decide +kernel
  rw [whole, Url.tidy_append, counted]

/-- The segments of what is written for a group: those of the path of groups and those of the
name. -/
theorem splitTail_groupText (id : String) : splitTail (Url.tidy (groupText id).toList) =
    (groupsText ++ '/' :: (splitTail (Url.tidy id.toList)).1,
      (splitTail (Url.tidy id.toList)).2) := by
  have stays : groupsText.all (fun character => !cutsTail character) = true := by decide +kernel
  rw [tidy_groupText, splitTail_append (by simpa using stays), splitTail_cons (by decide)]

/-- The path of a group is resolved behind the path of the groups. -/
theorem resolve_groupText (passed : List (List Char)) (rest : List Char) :
    UrlPath.resolve passed (splitAt (UrlPath.isSlash true) (groupsText ++ '/' :: rest)) =
      UrlPath.resolve ((groupsPath.map String.toList).reverse ++ passed)
        (splitAt (UrlPath.isSlash true) rest) := by
  have segments : splitAt (UrlPath.isSlash true) groupsText = groupsPath.map String.toList := by
    decide +kernel
  rw [splitAt_append_cons (by decide), segments, UrlPath.resolve_append (splitAt_ne_nil _ _),
    UrlPath.foldl_pass (by decide +kernel)]

variable {home : Url} {passed : List (List Char)}

/-- The URL of a group behind a base URL that goes on with it. -/
theorem parse?_groupText (continues : Url.Continues endpoint.baseUrl home passed) (id : String) :
    Url.parse? (endpoint.baseUrl ++ "/" ++ groupText id) =
      let tail := splitTail (Url.tidy id.toList)
      some (Url.withTail (Url.isWeb home.scheme) tail.2.1 tail.2.2 { home with
        path := .segments (UrlPath.shown
          (UrlPath.resolve ((groupsPath.map String.toList).reverse ++ passed)
            (splitAt (UrlPath.isSlash true) tail.1))) }) := by
  rw [continues.goesOn, splitTail_groupText]
  simp only [resolve_groupText]

end Endpoint

namespace StandsForItself

variable {id : String}

/-- Nothing in such an id separates or is dropped. -/
theorem apart (stands : StandsForItself id) {character : Char} (there : character ∈ id.toList) :
    character ≠ '/' ∧ character ≠ '\\' ∧ character ≠ '?' ∧ character ≠ '#' ∧
      character ≠ '\t' ∧ character ≠ '\n' ∧ character ≠ '\r' := by
  simpa using stands.unbroken character there

/-- Such an id is not tidied. -/
theorem tidy (stands : StandsForItself id) : Url.tidy id.toList = id.toList := by
  have ends : dropEndWhile Url.isAround id.toList = id.toList := by
    rcases List.eq_nil_or_concat id.toList with none | ⟨front, last, whole⟩
    · rw [none]
      rfl
    · rw [List.concat_eq_append] at whole
      have closed : Url.isAround last = false := by
        simpa [Url.isAround] using stands.closed last (by simp [whole])
      rw [whole, dropEndWhile_append_cons closed]
      rfl
  rw [Url.tidy, ends, List.filter_eq_self]
  intro character there
  simp [Url.counts, stands.apart there]

/-- Such an id has no tail. -/
theorem splitTail (stands : StandsForItself id) :
    splitTail id.toList = (id.toList, none, none) := by
  have stays : ∀ character ∈ id.toList, cutsTail character = false := by
    intro character there
    simp [cutsTail, stands.apart there]
  rw [← List.append_nil id.toList, splitTail_append stays, List.append_nil]
  exact Prod.ext (List.append_nil _) rfl

/-- Such an id is one segment. -/
theorem splitAt (stands : StandsForItself id) :
    splitAt (UrlPath.isSlash true) id.toList = [id.toList] := by
  refine splitAt_of_all_not fun character there => ?_
  simp [UrlPath.isSlash, stands.apart there]

/-- Such an id is no dot segment. -/
theorem isDot (stands : StandsForItself id) : UrlPath.isDot id.toList = false := by
  rw [← Bool.not_eq_true, UrlPath.isDot_iff stands.bare, not_or]
  refine ⟨fun single => stands.noDots.1 ?_, fun double => stands.noDots.2 ?_⟩
  · exact String.toList_injective single
  · exact String.toList_injective double

/-- A name stands for itself if the last segment of what it is written as gives it back. -/
theorem of_decode {last : List Char} (given : id ≠ "")
    (written : last = [] ∨ (last ∈ Text.splitAt (UrlPath.isSlash true)
      (Text.splitTail (Url.tidy id.toList)).1 ∧ UrlPath.isDot last = false))
    (decodes : Percent.decode last = Utf8.encode id) : StandsForItself id := by
  rcases written with rfl | ⟨there, noDot⟩
  · have empty : Utf8.encode id = Utf8.encode "" := decodes.symm
    exact absurd (Utf8.encode_injective empty) given
  · have cut := (sublist_of_mem_splitAt there).trans (sublist_splitTail _)
    have tidied := Url.sublist_tidy id.toList
    obtain rfl : last = id.toList := by
      refine Utf8.eq_of_sublist (cut.trans tidied) ?_
      have bytes := Percent.length_decode_le last
      rwa [decodes] at bytes
    have kept : Url.tidy id.toList = id.toList := tidied.antisymm cut
    rw [kept] at there
    have whole : (Text.splitTail id.toList).1 = id.toList :=
      (sublist_splitTail _).antisymm (sublist_of_mem_splitAt there)
    rw [whole] at there
    refine ⟨fun character among marked => ?_, fun last isLast => ?_, ⟨?_, ?_⟩,
      Percent.decode_eq_iff.1 decodes⟩
    · have noSlash := all_not_of_mem_splitAt there character among
      have stays : cutsTail character = false := cutsTail_of_mem_splitTail (whole.symm ▸ among)
      have counted : Url.counts character = true := (List.mem_filter.1 (kept.symm ▸ among)).2
      simp only [List.mem_cons, List.not_mem_nil, or_false] at marked
      rcases marked with rfl | rfl | rfl | rfl | rfl | rfl | rfl <;>
        simp [UrlPath.isSlash, cutsTail, Url.counts] at noSlash stays counted
    · by_contra around
      obtain ⟨front, ends⟩ := List.getLast?_eq_some_iff.1 isLast
      have dropped : Url.tidy (front ++ [last]) = Url.tidy front := by
        rw [Url.tidy, Url.tidy, dropEndWhile_append]
        simpa [Url.isAround] using around
      have shorter := (Url.sublist_tidy front).length_le
      rw [← dropped, ← ends, kept, ends, List.length_append] at shorter
      exact absurd shorter (by simp)
    · rintro rfl
      revert noDot
      decide
    · rintro rfl
      revert noDot
      decide

end StandsForItself

namespace Endpoint

variable {endpoint : Endpoint} {call : Call} {id : String} {url : Url}

/-- A route changes nothing of a place but its user and its query. -/
theorem askedAt_eq (route : Route) (place : Url) :
    ∃ user query, route.askedAt place = { place with user, query } := by
  have bare : ∃ user, place.withoutUser = { place with user } := by
    unfold Url.withoutUser
    split
    · exact ⟨_, rfl⟩
    · exact ⟨place.user, rfl⟩
  obtain ⟨user, bare⟩ := bare
  rw [Route.askedAt, bare]
  cases route.query with
  | none => exact ⟨user, place.query, rfl⟩
  | some pairs => exact ⟨user, _, rfl⟩

/-- Behind a plain base URL the request for a group whose name stands for itself is for that
group. -/
theorem exists_place_of_plain (plain : endpoint.HasPlainBase) (stands : StandsForItself id)
    (about : call.group? = some id) :
    ∃ place, Url.parse? (endpoint.urlText (route call).path) = some place ∧
      place.hasHost = true ∧ place.scheme ∈ ["http", "https"] ∧
      endpoint.Addresses call id ((route call).askedAt place) := by
  obtain ⟨home, read, hosted, allowed, noQuery, noFragment⟩ := plain
  obtain ⟨passed, continues⟩ : ∃ passed, Url.Continues endpoint.baseUrl home passed := by
    refine (Url.parse?_behind read (isWeb_of_mem allowed)).resolve_right fun swallows => ?_
    simpa [noQuery, noFragment] using swallows.given
  have parsed := parse?_groupText continues id
  simp only [stands.tidy, stands.splitTail, stands.splitAt,
    UrlPath.resolve_of_not_isDot stands.isDot] at parsed
  refine ⟨_, (congrArg _ (urlText_of_group? about)).trans parsed, hosted, allowed, ?_, ?_⟩
  · obtain ⟨user, query, asked⟩ := askedAt_eq (route call) _
    refine ⟨home, UrlPath.shown passed.reverse,
      String.ofList (Percent.encode Percent.inPathSet id.toList), read, continues.path, ?_, ?_, ?_⟩
    · rw [asked]
      exact ⟨rfl, rfl, rfl⟩
    · rw [asked]
      simp only [Url.withTail, List.reverse_append, List.reverse_reverse, UrlPath.shown_append,
        shown_groupsPath]
      rfl
    · rw [String.toList_ofList, Percent.decode_encode_inPathSet]
      exact Percent.decode_eq_iff.2 stands.bare
  · rintro placement rfl
    rw [pairs_askedAt]
    rfl

/-- Only then is a request for the group. -/
theorem plain_of_addresses (given : id ≠ "") (about : call.group? = some id)
    (sent : endpoint.urlOf (route call) = .ok url) (addresses : endpoint.Addresses call id url) :
    endpoint.HasPlainBase ∧ StandsForItself id := by
  obtain ⟨place, parsed, hosted, rfl, allowed, -⟩ := urlOf_eq_ok_iff.1 sent
  obtain ⟨user, query, asked⟩ := askedAt_eq (route call) place
  obtain ⟨home, base, last, read, homePath, ⟨scheme, -⟩, path, decodes⟩ := addresses.path
  rw [asked] at scheme path allowed
  rw [urlText_of_group? about] at parsed
  have allowed : home.scheme ∈ ["http", "https"] := scheme ▸ allowed
  rcases Url.parse?_behind read (isWeb_of_mem allowed) with ⟨passed, continues⟩ | swallows
  · rw [parse?_groupText continues id] at parsed
    obtain rfl := Option.some.inj parsed
    obtain ⟨left, final, resolved, written⟩ := UrlPath.exists_resolve
      ((groupsPath.map String.toList).reverse ++ passed)
      (splitAt_ne_nil (UrlPath.isSlash true) (splitTail (Url.tidy id.toList)).1)
    have shown : last = String.ofList (Percent.encode Percent.inPathSet final) := by
      have lists := UrlPath.segments.inj path
      rw [resolved, UrlPath.shown_append] at lists
      exact (List.cons.inj (List.append_inj' lists rfl).2).1.symm
    rw [shown, String.toList_ofList, Percent.decode_encode_inPathSet] at decodes
    exact ⟨⟨home, read, hosted, allowed, continues.query, continues.fragment⟩,
      .of_decode given written decodes⟩
  · obtain ⟨other, parsedOther, same⟩ := swallows.goesOn (groupText id)
    obtain rfl := Option.some.inj (parsed.symm.trans parsedOther)
    have lists := UrlPath.segments.inj (homePath.symm.trans (same.symm.trans path))
    have lengths := congrArg List.length lists
    simp [groupsPath] at lengths

/-- At one place there is one group. -/
theorem Addresses.unique {other : String} {otherCall : Call} {otherUrl : Url}
    (first : endpoint.Addresses call id url) (second : endpoint.Addresses otherCall other otherUrl)
    (same : url.path = otherUrl.path) : id = other := by
  obtain ⟨home, base, last, read, homePath, -, path, decodes⟩ := first.path
  obtain ⟨otherHome, otherBase, otherLast, otherRead, otherHomePath, -, otherPath, otherDecodes⟩ :=
    second.path
  have lists := UrlPath.segments.inj (path.symm.trans (same.trans otherPath))
  obtain rfl := (List.cons.inj (List.append_inj' lists rfl).2).1
  exact Utf8.encode_injective (decodes.symm.trans otherDecodes)

/-- What is asked for a group that an accepted spec declares is asked of that group just if the base
URL is plain and the name stands for itself.  Then there is a URL of the group, and if it can be
sent it is the one that is asked; and groups of different names are at different places. -/
theorem addresses_iff {spec : Spec} (accepted : spec.fault? = none)
    (declared : id ∈ spec.groupIds) (about : call.group? = some id) :
    (∀ url, endpoint.urlOf (route call) = .ok url →
      (endpoint.Addresses call id url ↔ endpoint.HasPlainBase ∧ StandsForItself id)) ∧
    (endpoint.HasPlainBase → StandsForItself id → ∃ url, endpoint.Addresses call id url ∧
      (url.isSendable = true → endpoint.urlOf (route call) = .ok url)) ∧
    ∀ otherCall other url otherUrl, endpoint.Addresses call id url →
      endpoint.Addresses otherCall other otherUrl → url.path = otherUrl.path → id = other := by
  have asked (plain : endpoint.HasPlainBase) (stands : StandsForItself id) :
      ∃ place, Url.parse? (endpoint.urlText (route call).path) = some place ∧
        endpoint.Addresses call id ((route call).askedAt place) ∧
        (((route call).askedAt place).isSendable = true →
          endpoint.urlOf (route call) = .ok ((route call).askedAt place)) := by
    obtain ⟨place, parsed, hosted, allowed, addresses⟩ := exists_place_of_plain plain stands about
    obtain ⟨user, query, same⟩ := askedAt_eq (route call) place
    refine ⟨place, parsed, addresses, fun sendable => ?_⟩
    exact urlOf_eq_ok_iff.2 ⟨place, parsed, hosted, rfl, by rwa [same], sendable⟩
  refine ⟨fun url sent => ⟨plain_of_addresses (Spec.named_of_fault? accepted declared) about sent,
    fun ⟨plain, stands⟩ => ?_⟩, fun plain stands => ?_,
    fun _ _ _ _ => Addresses.unique⟩
  · obtain ⟨place, parsed, addresses, -⟩ := asked plain stands
    obtain ⟨other, parsedOther, -, rfl, -⟩ := urlOf_eq_ok_iff.1 sent
    obtain rfl := Option.some.inj (parsed.symm.trans parsedOther)
    exact addresses
  · obtain ⟨place, -, addresses, sends⟩ := asked plain stands
    exact ⟨_, addresses, sends⟩

/-- A spec whose groups have names of several kinds. -/
def namingSpec : Spec where
  upgradePrepareReadyId := "ready"
  manager := { url := "http://nsx.test", credentials := { name := "admin" } }
  edgeGroups := [{ id := "rack 1" }, { id := "b" }, { id := "a/../b" }]

/-- The endpoint of a manager. -/
def managerAt (url : String) : Endpoint :=
  .ofUrl url "admin" "pw" false

/-- The name of a group with a blank in it is shown with an encoding, and the group is moved at its
own place. -/
theorem addresses_iff_spaced :
    namingSpec.fault? = none ∧ "rack 1" ∈ namingSpec.groupIds ∧
      ∃ url, (managerAt "http://nsx.test/fabric").urlOf
          (route (.reorderGroup "rack 1" (.after "b"))) = .ok url ∧
        url.text =
          "http://nsx.test/fabric/api/v1/upgrade/upgrade-unit-groups/rack%201?action=reorder" ∧
        (managerAt "http://nsx.test/fabric").Addresses (.reorderGroup "rack 1" (.after "b"))
          "rack 1" url := by
  have accepted : namingSpec.fault? = none := by decide +kernel
  have declared : "rack 1" ∈ namingSpec.groupIds := by decide +kernel
  have plain : (managerAt "http://nsx.test/fabric").HasPlainBase :=
    ⟨{ scheme := "http", host := some "nsx.test", path := .segments ["fabric", ""] },
      by decide +kernel, by decide, by decide, rfl, rfl⟩
  have characters : "rack 1".toList = ['r', 'a', 'c', 'k', ' ', '1'] := by decide
  have stands : StandsForItself "rack 1" :=
    ⟨by simp [characters], by simp [characters], by decide,
      Percent.decode_eq_iff.1 (by decide +kernel)⟩
  have sent : (managerAt "http://nsx.test/fabric").urlOf
      (route (.reorderGroup "rack 1" (.after "b"))) = .ok
        { scheme := "http"
          host := some "nsx.test"
          path := .segments ("fabric" :: groupsPath ++ ["rack%201"])
          query := some "action=reorder" } := by
    decide +kernel
  exact ⟨accepted, declared, _, sent, by decide +kernel,
    ((addresses_iff accepted declared rfl).1 _ sent).2 ⟨plain, stands⟩⟩

/-- An accepted name with a slash and a dot segment in it leads to the group of another name. -/
theorem not_addresses_dotted :
    namingSpec.fault? = none ∧ "b" ∈ namingSpec.groupIds ∧ "a/../b" ∈ namingSpec.groupIds ∧
      ∃ url, (managerAt "http://nsx.test").urlOf (route (.getGroup "b")) = .ok url ∧
        (managerAt "http://nsx.test").urlOf (route (.getGroup "a/../b")) = .ok url ∧
        ¬ (managerAt "http://nsx.test").Addresses (.getGroup "a/../b") "a/../b" url := by
  have sent : ∀ id ∈ ["b", "a/../b"], (managerAt "http://nsx.test").urlOf (route (.getGroup id)) =
      .ok
        { scheme := "http"
          host := some "nsx.test"
          path := .segments (groupsPath ++ ["b"]) } := by
    decide +kernel
  refine ⟨by decide +kernel, by decide +kernel, by decide +kernel, _, sent "b" (by decide),
    sent "a/../b" (by decide), fun addresses => ?_⟩
  have stands := (plain_of_addresses (by decide) rfl (sent "a/../b" (by decide)) addresses).2
  exact stands.unbroken '/' (by decide +kernel) (by decide)

end Endpoint

end FabricUpgrade
