import FabricUpgrade.Manager.Client
import FabricUpgrade.Proofs.Conversation
import FabricUpgrade.Proofs.QueryPairs

/-!
# Lists that come in pages

A listing asks for one page after the other, and whoever gets its requests reads the cursors back
from them (`Endpoint.carries_of_requestOf`).  `Endpoint.Trail` is a chain of pages each of which
names the cursor of the next one, and `Endpoint.Ends` is what comes at its end: a page that closes
the list, or a failure.  Along every such chain the listing asks for each page once and puts the
items of the pages together (`Endpoint.listFrom_chain`).
-/

namespace FabricUpgrade

open Program Text

/-- A value that is read in two steps. -/
theorem HttpOutcome.value_bind {First Second : Type} (decode : Json → Option First)
    (next : First → Option Second) (url : Url) (outcome : HttpOutcome) :
    outcome.value (fun value => (decode value).bind next) url =
      (outcome.value decode url).bind fun first =>
        (next first).elim (.error (.decode ManagerError.decodingFailed)) .ok := by
  unfold value
  cases outcome.body url with
  | error error => rfl
  | ok body =>
    simp only
    rw [← Option.bind_assoc]
    cases body.json?.bind decode with
    | none => rfl
    | some first =>
      simp only [Option.bind_some, Except.bind]
      cases next first <;> rfl

namespace Endpoint

/-- One request for a page and what came of it. -/
abbrev HttpExchange : Type :=
  Exchange HttpRequest fun _ => HttpOutcome

variable {α : Type} {endpoint : Endpoint} {decode : Json → Option α} {route : Route}

/-- The request that is sent for a route. -/
def requestOf (endpoint : Endpoint) (route : Route) : Except ManagerError HttpRequest :=
  (endpoint.urlOf route).map fun url =>
    { method := route.method
      url
      authorization := basicAuthorization endpoint.username endpoint.password
      body := route.body }

/-- A request cannot be made exactly if its URL cannot. -/
theorem requestOf_eq_error_iff {error : ManagerError} :
    endpoint.requestOf route = .error error ↔ endpoint.urlOf route = .error error := by
  unfold requestOf
  cases endpoint.urlOf route <;> simp [Except.map]

/-- A request is made exactly if its URL is, and it goes there with the method of the route. -/
theorem requestOf_eq_ok_iff {request : HttpRequest} :
    endpoint.requestOf route = .ok request ↔ ∃ url, endpoint.urlOf route = .ok url ∧
      request =
        { method := route.method
          url
          authorization := basicAuthorization endpoint.username endpoint.password
          body := route.body } := by
  unfold requestOf
  cases endpoint.urlOf route <;> simp [Except.map, eq_comm]

/-- Where the URL can be sent to, there is a request. -/
theorem exists_requestOf (sendable : (endpoint.urlOf route).isOk = true) :
    ∃ request, endpoint.requestOf route = .ok request := by
  unfold requestOf
  cases addressed : endpoint.urlOf route with
  | error error =>
    rw [addressed] at sendable
    cases sendable
  | ok url => exact ⟨_, rfl⟩

/-- Nothing is fetched where no request can be made. -/
theorem fetch_of_error {error : ManagerError} (refused : endpoint.requestOf route = .error error) :
    endpoint.fetch decode route = .done (.error error) := by
  rw [requestOf_eq_error_iff] at refused
  simp only [fetch, send, refused]
  rfl

/-- What is fetched is the value of the one answer to the one request. -/
theorem fetch_of_ok {request : HttpRequest} (asks : endpoint.requestOf route = .ok request) :
    endpoint.fetch decode route =
      .ask request fun answer => .done (answer.value decode request.url) := by
  obtain ⟨url, addressed, rfl⟩ := requestOf_eq_ok_iff.1 asks
  simp only [fetch, send, addressed]
  rfl

/-!
## What a request carries
-/

/-- The request shows the query pairs that every request at the place has, then those of the caller,
and then the cursor if there is one. -/
structure Carries (endpoint : Endpoint) (route : Route) (cursor : Option String)
    (request : HttpRequest) : Prop where
  method : request.method = route.method
  body : request.body = route.body
  pairs : ∃ base, Url.parse? (endpoint.urlText route.path) = some base ∧
    request.url.pairs =
      base.pairs ++ route.query.getD [] ++ cursor.toList.map fun cursor => ("cursor", cursor)

/-- Leaving out the user keeps the query. -/
theorem pairs_withoutUser (url : Url) : url.withoutUser.pairs = url.pairs := by
  unfold Url.withoutUser
  split <;> rfl

/-- The URL that is asked at a place: without a user that is told in a header, and with the pairs of
the caller. -/
def Route.askedAt (route : Route) (place : Url) : Url :=
  route.query.elim place.withoutUser place.withoutUser.appendQuery

/-- The query of a route comes behind what the place already asks. -/
theorem pairs_askedAt (route : Route) (place : Url) :
    (route.askedAt place).pairs = place.pairs ++ route.query.getD [] := by
  unfold Route.askedAt
  cases route.query with
  | none => simp [pairs_withoutUser]
  | some query => simp [Url.pairs_appendQuery, pairs_withoutUser]

/-- A URL is addressed exactly if the place is read with a host, and what it becomes can be sent to
over the web. -/
theorem urlOf_eq_ok_iff {url : Url} : endpoint.urlOf route = .ok url ↔
    ∃ place, Url.parse? (endpoint.urlText route.path) = some place ∧ place.hasHost = true ∧
      route.askedAt place = url ∧ url.scheme ∈ ["http", "https"] ∧ url.isSendable = true := by
  unfold urlOf
  cases parsed : Url.parse? (endpoint.urlText route.path) with
  | none => simp
  | some place =>
    have asked : route.query.elim place.withoutUser place.withoutUser.appendQuery =
        route.askedAt place := rfl
    simp only [asked, Option.some.injEq, exists_eq_left']
    cases hosted : place.hasHost with
    | false => simp
    | true =>
      simp only [Bool.not_true, Bool.false_eq_true, if_false, true_and]
      split
      case isTrue allowed =>
        rw [Except.ok.injEq]
        exact ⟨fun same => ⟨same, same ▸ allowed⟩, And.left⟩
      case isFalse refused =>
        simp only [reduceCtorEq, false_iff]
        rintro ⟨rfl, allowed⟩
        exact refused allowed

/-- The query of a URL is that of the base and then that of the route. -/
theorem pairs_of_urlOf {url : Url} (addressed : endpoint.urlOf route = .ok url) :
    ∃ base, Url.parse? (endpoint.urlText route.path) = some base ∧
      url.pairs = base.pairs ++ route.query.getD [] := by
  obtain ⟨base, parsed, -, rfl, -⟩ := urlOf_eq_ok_iff.1 addressed
  exact ⟨base, parsed, pairs_askedAt route base⟩

/-- What is sent for a cursor carries it, together with the pairs of the caller. -/
theorem carries_of_requestOf {cursor : Option String} {request : HttpRequest}
    (asks : endpoint.requestOf (route.withCursor cursor) = .ok request) :
    endpoint.Carries route cursor request := by
  obtain ⟨url, addressed, rfl⟩ := requestOf_eq_ok_iff.1 asks
  obtain ⟨base, parsed, pairs⟩ := pairs_of_urlOf addressed
  refine ⟨rfl, rfl, base, parsed, ?_⟩
  rw [pairs, List.append_assoc]
  rfl

/-!
## Chains of pages
-/

namespace Page

/-- Reads what stands in the record of a page. -/
def ofRecord? (decode : Json → Option α) (record : Json.Record) : Option (Page α) := do
  return {
    items := ← record.withDefault "results" [] (Json.list? decode)
    cursor := ← record.optional "cursor" Json.string? }

/-- A record is read as a page exactly if its items and its cursor are what is read of it. -/
theorem ofRecord?_eq_some_iff {record : Json.Record} {page : Page α} :
    ofRecord? decode record = some page ↔
      record.withDefault "results" [] (Json.list? decode) = some page.items ∧
        record.optional "cursor" Json.string? = some page.cursor := by
  cases page
  simp [ofRecord?, Option.bind_eq_some_iff]

/-- A page is read by its record. -/
theorem value_ofJson? {answer : HttpOutcome} {url : Url} :
    answer.value (ofJson? decode) url =
      (answer.value (Json.record? ["results", "cursor"]) url).bind fun record =>
        (ofRecord? decode record).elim (.error (.decode ManagerError.decodingFailed)) .ok :=
  HttpOutcome.value_bind _ _ _ _

end Page

/-- One page that was asked for with a cursor and shown: the request, its answer, what stands in the
record of the page and the items that are read from it. -/
structure Visit (endpoint : Endpoint) (decode : Json → Option α) (route : Route) where
  cursor : Option String
  request : HttpRequest
  answer : HttpOutcome
  record : Json.Record
  items : List α
  asks : endpoint.requestOf (route.withCursor cursor) = .ok request
  shows : answer.value (Json.record? ["results", "cursor"]) request.url = .ok record
  reads : record.withDefault "results" [] (Json.list? decode) = some items

namespace Visit

/-- The request for the page and its answer. -/
def exchange (visit : Visit endpoint decode route) : HttpExchange :=
  ⟨visit.request, visit.answer⟩

/-- The page names a cursor that is not the one it was asked for with. -/
structure Names (visit : Visit endpoint decode route) (next : String) : Prop where
  named : visit.record.field "cursor" = some (.string next)
  given : next ≠ ""
  differs : visit.cursor ≠ some next

/-- The page is the last one: it has no cursor, a null or an empty one, or the one that it was asked
for with. -/
def Closes (visit : Visit endpoint decode route) : Prop :=
  visit.record.field "cursor" = none ∨ visit.record.field "cursor" = some .null ∨
    visit.record.field "cursor" = some (.string "") ∨
    visit.record.field "cursor" = visit.cursor.map Json.string

/-- The value of an answer that was visited is its items with the cursor that it names. -/
theorem value_eq (visit : Visit endpoint decode route) {named : Option String}
    (names : visit.record.optional "cursor" Json.string? = some named) :
    visit.answer.value (Page.ofJson? decode) visit.request.url = .ok ⟨visit.items, named⟩ := by
  have told : Page.ofRecord? decode visit.record = some ⟨visit.items, named⟩ :=
    Page.ofRecord?_eq_some_iff.2 ⟨visit.reads, names⟩
  rw [Page.value_ofJson?, visit.shows]
  simp only [Except.bind, told, Option.elim]

/-- What is read as a page was asked for and shown. -/
theorem exists_of_value {cursor : Option String} {request : HttpRequest} {answer : HttpOutcome}
    {page : Page α} (asks : endpoint.requestOf (route.withCursor cursor) = .ok request)
    (reads : answer.value (Page.ofJson? decode) request.url = .ok page) :
    ∃ visit : Visit endpoint decode route, visit.cursor = cursor ∧
      visit.request = request ∧ visit.answer = answer ∧ visit.items = page.items ∧
      visit.record.optional "cursor" Json.string? = some page.cursor := by
  rw [Page.value_ofJson?] at reads
  cases shows : answer.value (Json.record? ["results", "cursor"]) request.url with
  | error error =>
    rw [shows] at reads
    cases reads
  | ok record =>
    rw [shows] at reads
    cases told : Page.ofRecord? decode record with
    | none => simp [Except.bind, told] at reads
    | some shown =>
      obtain rfl : shown = page := by simpa [Except.bind, told] using reads
      obtain ⟨items, named⟩ := Page.ofRecord?_eq_some_iff.1 told
      exact ⟨⟨cursor, request, answer, record, shown.items, asks, shows, items⟩,
        rfl, rfl, rfl, rfl, named⟩

/-- A cursor that a visit names is the next one. -/
theorem Names.nextCursor? {visit : Visit endpoint decode route} {next : String}
    (names : visit.Names next) : nextCursor? visit.cursor (some next) = some next := by
  simp [Endpoint.nextCursor?, Option.filter, names.given, names.differs]

/-- A cursor that a visit names stands in its record. -/
theorem Names.optional {visit : Visit endpoint decode route} {next : String}
    (names : visit.Names next) :
    visit.record.optional "cursor" Json.string? = some (some next) := by
  rw [Json.Record.optional, names.named]
  rfl

/-- A page that closes the list names nothing to go on with. -/
theorem Closes.optional {visit : Visit endpoint decode route} (closes : visit.Closes) :
    ∃ named, visit.record.optional "cursor" Json.string? = some named ∧
      Endpoint.nextCursor? visit.cursor named = none := by
  unfold Json.Record.optional
  rcases closes with missing | null | empty | repeated
  · exact ⟨none, by rw [missing], rfl⟩
  · exact ⟨none, by rw [null], rfl⟩
  · exact ⟨some "", by rw [empty]; rfl, by simp [Endpoint.nextCursor?, Option.filter]⟩
  · rw [repeated]
    cases visit.cursor with
    | none => exact ⟨none, rfl, rfl⟩
    | some asked => exact ⟨some asked, rfl, by simp [Endpoint.nextCursor?, Option.filter]⟩

/-- A page that names a cursor to go on with. -/
theorem names_of_nextCursor? {visit : Visit endpoint decode route} {named : Option String}
    {next : String} (told : visit.record.optional "cursor" Json.string? = some named)
    (goesOn : Endpoint.nextCursor? visit.cursor named = some next) : visit.Names next := by
  obtain ⟨rfl, allowed⟩ := Option.filter_eq_some_iff.1 goesOn
  obtain ⟨given, differs⟩ := of_decide_eq_true allowed
  refine ⟨?_, given, differs⟩
  unfold Json.Record.optional at told
  split at told
  case h_1 => cases told
  case h_2 => cases told
  case h_3 value _ there =>
    obtain ⟨text, read, same⟩ := Option.map_eq_some_iff.1 told
    obtain rfl : text = next := Option.some.inj same
    cases value <;> cases read
    exact there

/-- A page that names none closes the list. -/
theorem closes_of_nextCursor? {visit : Visit endpoint decode route} {named : Option String}
    (told : visit.record.optional "cursor" Json.string? = some named)
    (stops : Endpoint.nextCursor? visit.cursor named = none) : visit.Closes := by
  unfold Json.Record.optional at told
  split at told
  case h_1 missing => exact .inl missing
  case h_2 null => exact .inr (.inl null)
  case h_3 value _ there =>
    obtain ⟨text, read, rfl⟩ := Option.map_eq_some_iff.1 told
    obtain rfl : value = .string text := by
      cases value <;> cases read
      rfl
    have refused := Option.filter_eq_none_iff.1 stops text rfl
    by_cases empty : text = ""
    · exact .inr (.inr (.inl (empty ▸ there)))
    · have same : visit.cursor = some text := by simpa [empty] using refused
      exact .inr (.inr (.inr (by rw [there, same]; rfl)))

end Visit

/-- The pages that lead from one cursor to another: each names the cursor that the next one is asked
for with. -/
inductive Trail (endpoint : Endpoint) (decode : Json → Option α) (route : Route) :
    Option String → List (Visit endpoint decode route) → Option String → Prop where
  | here (cursor : Option String) : Trail endpoint decode route cursor [] cursor
  | more {visits : List (Visit endpoint decode route)} {next : String} {goal : Option String}
      (visit : Visit endpoint decode route) (names : visit.Names next)
      (later : Trail endpoint decode route (some next) visits goal) :
      Trail endpoint decode route visit.cursor (visit :: visits) goal

/-- A visit in front of a trail begins a longer one. -/
theorem Trail.cons {visit : Visit endpoint decode route}
    {visits : List (Visit endpoint decode route)} {start goal : Option String} {next : String}
    (asked : visit.cursor = start) (names : visit.Names next)
    (later : Trail endpoint decode route (some next) visits goal) :
    Trail endpoint decode route start (visit :: visits) goal :=
  asked ▸ .more visit names later

/-- How a listing ends that has come to a cursor: with a page that closes the list, or with the
error of a request that cannot be made, that fails, or whose page cannot be read. -/
inductive Ends (endpoint : Endpoint) (decode : Json → Option α) (route : Route) :
    Option String → List HttpExchange → Except ManagerError (List α) → Prop where
  | last (visit : Visit endpoint decode route) (closes : visit.Closes) :
      Ends endpoint decode route visit.cursor [visit.exchange] (.ok visit.items)
  | unsendable {cursor : Option String} {error : ManagerError}
      (refused : endpoint.requestOf (route.withCursor cursor) = .error error) :
      Ends endpoint decode route cursor [] (.error error)
  | failed {cursor : Option String} {request : HttpRequest} {answer : HttpOutcome}
      {error : ManagerError} (asks : endpoint.requestOf (route.withCursor cursor) = .ok request)
      (fails : answer.value (Page.ofJson? decode) request.url = .error error) :
      Ends endpoint decode route cursor [⟨request, answer⟩] (.error error)

/-!
## One page of a listing
-/

variable {bound : Nat} {cursor : Option String} {exchanges : List HttpExchange}
  {result : Except ManagerError (List α)}

/-- What is done with the answer to the request for a page. -/
def turnPage (endpoint : Endpoint) (decode : Json → Option α) (route : Route) (bound : Nat)
    (cursor : Option String) :
    Except ManagerError (Page α) → Transport (Except ManagerError (List α))
  | .error error => .done (.error error)
  | .ok page =>
    match nextCursor? cursor page.cursor with
    | none => .done (.ok page.items)
    | some next =>
      (endpoint.listFrom decode route bound (some next)).andThen fun rest =>
        .done (rest.map (page.items ++ ·))

/-- A list is fetched page by page, with one page less to go each time. -/
theorem listFrom_succ : endpoint.listFrom decode route (bound + 1) cursor =
    (endpoint.fetch (Page.ofJson? decode) (route.withCursor cursor)).andThen
      (endpoint.turnPage decode route bound cursor) := by
  rw [listFrom]
  refine congrArg _ (funext fun reply => ?_)
  cases reply with
  | error error => rfl
  | ok page =>
    simp only [turnPage]
    cases nextCursor? cursor page.cursor <;> rfl

/-- Where no request can be made the list ends with that error. -/
theorem listFrom_of_error {error : ManagerError}
    (refused : endpoint.requestOf (route.withCursor cursor) = .error error) :
    endpoint.listFrom decode route (bound + 1) cursor = .done (.error error) := by
  rw [listFrom_succ, fetch_of_error refused]
  rfl

/-- Otherwise the page that is answered decides how the list goes on. -/
theorem listFrom_of_ok {request : HttpRequest}
    (asks : endpoint.requestOf (route.withCursor cursor) = .ok request) :
    endpoint.listFrom decode route (bound + 1) cursor = .ask request fun answer =>
      endpoint.turnPage decode route bound cursor
        (answer.value (Page.ofJson? decode) request.url) := by
  rw [listFrom_succ, fetch_of_ok asks]
  rfl

/-- A listing that has come to its end. -/
theorem Ends.converses (ends : Ends endpoint decode route cursor exchanges result) :
    Converses (endpoint.listFrom decode route (bound + 1) cursor) exchanges result := by
  cases ends with
  | last visit closes =>
    obtain ⟨named, names, stops⟩ := closes.optional
    rw [listFrom_of_ok visit.asks, Visit.exchange]
    refine .ask _ ?_
    rw [visit.value_eq names, turnPage, stops]
    exact .done _
  | unsendable refused =>
    rw [listFrom_of_error refused]
    exact .done _
  | failed asks fails =>
    rw [listFrom_of_ok asks]
    refine .ask _ ?_
    rw [fails]
    exact .done _

/-- A page that names the next cursor stands in front of the listing from there. -/
theorem Visit.Names.converses {visit : Visit endpoint decode route} {next : String}
    (names : visit.Names next)
    (later : Converses (endpoint.listFrom decode route bound (some next)) exchanges result) :
    Converses (endpoint.listFrom decode route (bound + 1) visit.cursor)
      (visit.exchange :: exchanges) (result.map (visit.items ++ ·)) := by
  rw [listFrom_of_ok visit.asks, Visit.exchange]
  refine .ask _ ?_
  rw [visit.value_eq names.optional, turnPage, names.nextCursor?]
  exact converses_andThen_iff.2 ⟨exchanges, [], result, (List.append_nil _).symm, later, .done _⟩

/-!
## The whole listing
-/

/-- Items that are put in front twice are put in front together. -/
theorem map_append_map (first second : List α) (result : Except ManagerError (List α)) :
    (result.map (second ++ ·)).map (first ++ ·) = result.map (first ++ second ++ ·) := by
  cases result with
  | error error => rfl
  | ok items => exact congrArg Except.ok (List.append_assoc first second items).symm

/-- A list that follows a trail to one of its ends has exactly its exchanges, and the items come in
their order. -/
theorem Trail.converses {start : Option String} {visits : List (Visit endpoint decode route)}
    (trail : Trail endpoint decode route start visits cursor)
    (ends : Ends endpoint decode route cursor exchanges result) (enough : visits.length < bound) :
    Converses (endpoint.listFrom decode route bound start)
      (visits.map Visit.exchange ++ exchanges)
      (result.map (visits.flatMap Visit.items ++ ·)) := by
  induction trail generalizing bound with
  | here cursor =>
    obtain ⟨bound, rfl⟩ := Nat.exists_eq_add_one_of_ne_zero (Nat.ne_of_gt enough)
    have unchanged : result.map (([] : List α) ++ ·) = result := by cases result <;> rfl
    rw [List.flatMap_nil, unchanged]
    exact ends.converses
  | more visit names _ inductionHypothesis =>
    obtain ⟨bound, rfl⟩ :=
      Nat.exists_eq_add_one_of_ne_zero (Nat.ne_of_gt (Nat.zero_lt_of_lt enough))
    have later := names.converses (inductionHypothesis ends (Nat.lt_of_succ_lt_succ enough))
    rwa [map_append_map] at later

/-- What is sent at the end of a listing carries the cursor that it has come to. -/
theorem Ends.carries (ends : Ends endpoint decode route cursor exchanges result)
    {exchange : HttpExchange} (there : exchange ∈ exchanges) :
    endpoint.Carries route cursor exchange.question := by
  cases ends with
  | last visit closes =>
    obtain rfl := List.mem_singleton.1 there
    exact carries_of_requestOf visit.asks
  | unsendable refused => cases there
  | failed asks fails =>
    obtain rfl := List.mem_singleton.1 there
    exact carries_of_requestOf asks

/-- Along a chain of pages a listing asks for each page once, with the pairs of the caller and the
cursor that the page before names, and gives back the items of all pages in order.  If the chain
ends in an error, it gives back the error instead. -/
theorem listFrom_chain {visits : List (Visit endpoint decode route)}
    (trail : Trail endpoint decode route none visits cursor)
    (ends : Ends endpoint decode route cursor exchanges result) (enough : visits.length < bound) :
    Converses (endpoint.listFrom decode route bound none)
        (visits.map Visit.exchange ++ exchanges)
        (result.map (visits.flatMap Visit.items ++ ·)) ∧
      (∀ visit ∈ visits, endpoint.Carries route visit.cursor visit.request) ∧
      ∀ exchange ∈ exchanges, endpoint.Carries route cursor exchange.question :=
  ⟨trail.converses ends enough, fun visit _ => carries_of_requestOf visit.asks,
    fun _ there => ends.carries there⟩

/-- The endpoint of a manager that shows its lists in pages. -/
def pagingEndpoint : Endpoint :=
  .ofUrl "http://nsx.test" "admin" "pw" false

/-- The list of the statuses of edge groups. -/
def edgeStatuses : Route :=
  Endpoint.route (.getGroupStatus .edge)

/-- The body of a page that shows one group, which is paused, and names a cursor. -/
def pageBody (id named : String) : HttpBody :=
  .complete (Utf8.encode ("\x7b\"results\":[\x7b\"group_id\":\"" ++ id ++
    "\",\"status\":\"PAUSED\"\x7d],\"cursor\":\"" ++ named ++ "\"\x7d"))

/-- The body of each page is read as its one item and its cursor. -/
theorem value_pageBody {id named : String}
    (shown : (id, named) ∈ [("a", "x"), ("b", "y"), ("c", "x"), ("b", "x"), ("c", "y")])
    (url : Url) :
    (HttpOutcome.answered 200 (pageBody id named)).value (Page.ofJson? GroupStatus.ofJson?) url =
      .ok ⟨[⟨id, "", .paused⟩], some named⟩ := by
  have readable : ∀ shown ∈ [("a", "x"), ("b", "y"), ("c", "x"), ("b", "x"), ("c", "y")],
      ((pageBody shown.1 shown.2).json?.bind (Page.ofJson? GroupStatus.ofJson?)).map
        (fun page => (page.items, page.cursor)) =
          some ([⟨shown.1, "", .paused⟩], some shown.2) := by
    decide +kernel
  obtain ⟨⟨items, cursor⟩, reads, same⟩ := Option.map_eq_some_iff.1 (readable (id, named) shown)
  obtain ⟨rfl, rfl⟩ := Prod.mk.inj same
  simp [HttpOutcome.value, HttpOutcome.body, isSuccess, reads]

/-- Each page of the example can be visited, and names its cursor unless it was asked for with it. -/
theorem exists_pageVisit (cursor : Option String) (id named : String)
    (asked : cursor ∈ [none, some "x", some "y"])
    (shown : (id, named) ∈ [("a", "x"), ("b", "y"), ("c", "x"), ("b", "x"), ("c", "y")]) :
    ∃ visit : Visit pagingEndpoint GroupStatus.ofJson? edgeStatuses, visit.cursor = cursor ∧
      visit.answer = .answered 200 (pageBody id named) ∧ visit.items = [⟨id, "", .paused⟩] ∧
      (cursor ≠ some named → visit.Names named) ∧ (cursor = some named → visit.Closes) := by
  have sendable : ∀ cursor ∈ [none, some "x", some "y"],
      (pagingEndpoint.urlOf (edgeStatuses.withCursor cursor)).isOk = true := by
    decide +kernel
  obtain ⟨request, asks⟩ := exists_requestOf (sendable cursor asked)
  obtain ⟨visit, rfl, -, answer, items, told⟩ :=
    Visit.exists_of_value asks (value_pageBody shown _)
  have given : ∀ shown ∈ [("a", "x"), ("b", "y"), ("c", "x"), ("b", "x"), ("c", "y")],
      shown.2 ≠ "" := by
    decide
  refine ⟨visit, rfl, answer, items, fun differs => ?_, fun same => ?_⟩
  · refine Visit.names_of_nextCursor? told ?_
    simp [nextCursor?, Option.filter, given (id, named) shown, differs]
  · refine Visit.closes_of_nextCursor? told ?_
    simp [nextCursor?, Option.filter, same]

/-- The requests of the example ask for the edge nodes and carry nothing but the cursor. -/
theorem pairs_of_carries {cursor : Option String} {request : HttpRequest}
    (carries : pagingEndpoint.Carries edgeStatuses cursor request) :
    request.url.pairs =
      ("component_type", "EDGE") :: cursor.toList.map fun cursor => ("cursor", cursor) := by
  have place : (Url.parse? (pagingEndpoint.urlText edgeStatuses.path)).map Url.pairs = some [] := by
    decide +kernel
  obtain ⟨base, parsed, pairs⟩ := carries.pairs
  rw [parsed] at place
  rw [pairs, Option.some.inj place]
  rfl

/-- Three pages the last of which repeats its cursor are listed with three requests. -/
theorem listFrom_chain_threePages : ∃ exchanges : List HttpExchange,
    exchanges.map (fun exchange => (exchange.question.url.pairs, (exchange.answer : HttpOutcome))) =
        [([("component_type", "EDGE")], .answered 200 (pageBody "a" "x")),
          ([("component_type", "EDGE"), ("cursor", "x")], .answered 200 (pageBody "b" "y")),
          ([("component_type", "EDGE"), ("cursor", "y")], .answered 200 (pageBody "c" "y"))] ∧
      Converses (pagingEndpoint.listFrom GroupStatus.ofJson? edgeStatuses 3 none) exchanges
        (.ok [⟨"a", "", .paused⟩, ⟨"b", "", .paused⟩, ⟨"c", "", .paused⟩]) := by
  obtain ⟨first, firstPlace, firstAnswer, firstItems, firstNames, -⟩ :=
    exists_pageVisit none "a" "x" (by decide) (by decide)
  obtain ⟨second, secondPlace, secondAnswer, secondItems, secondNames, -⟩ :=
    exists_pageVisit (some "x") "b" "y" (by decide) (by decide)
  obtain ⟨third, thirdPlace, thirdAnswer, thirdItems, -, closes⟩ :=
    exists_pageVisit (some "y") "c" "y" (by decide) (by decide)
  have trail : Trail pagingEndpoint GroupStatus.ofJson? edgeStatuses none [first, second]
      (some "y") :=
    .cons firstPlace (firstNames (by decide))
      (.cons secondPlace (secondNames (by decide)) (.here (some "y")))
  have ends : Ends pagingEndpoint GroupStatus.ofJson? edgeStatuses (some "y") [third.exchange]
      (.ok third.items) :=
    thirdPlace ▸ .last third (closes rfl)
  obtain ⟨converses, carried, carriedLast⟩ := listFrom_chain trail ends (by decide : 2 < 3)
  refine ⟨[first.exchange, second.exchange, third.exchange], ?_, ?_⟩
  · have firstPairs := pairs_of_carries (carried first (by simp))
    have secondPairs := pairs_of_carries (carried second (by simp))
    have thirdPairs : third.request.url.pairs = _ :=
      pairs_of_carries (carriedLast third.exchange (by simp))
    simp only [List.map_cons, List.map_nil, Visit.exchange, firstPairs, secondPairs, thirdPairs,
      firstPlace, secondPlace, firstAnswer, secondAnswer, thirdAnswer]
    rfl
  · simpa [Except.map, firstItems, secondItems, thirdItems] using converses

end Endpoint

end FabricUpgrade
