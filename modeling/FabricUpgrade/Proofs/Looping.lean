import Mathlib.Data.Finset.Card
import FabricUpgrade.Proofs.Listing

/-!
# Pages that are asked for again

A listing goes on behind every page that names a cursor, unless it is the one that the page was
asked for with.  It does not look at the cursors before that, so a server that comes back to one of
them is asked for the same pages again, and if it answers them as it did, the listing never ends.
`Endpoint.listFrom_revisits` says when the requests are pairwise distinct: just if the cursors are
that the pages name.
-/

namespace FabricUpgrade.Endpoint

open Program Text

variable {α : Type} {endpoint : Endpoint} {decode : Json → Option α} {route : Route}
  {visits : List (Visit endpoint decode route)} {start goal cursor : Option String} {bound : Nat}

/-!
## Requests and cursors
-/

/-- Requests for different cursors are different. -/
theorem requestOf_injective {first second : Option String} {request : HttpRequest}
    (asks : endpoint.requestOf (route.withCursor first) = .ok request)
    (again : endpoint.requestOf (route.withCursor second) = .ok request) : first = second := by
  obtain ⟨base, parsed, pairs⟩ := (carries_of_requestOf asks).pairs
  obtain ⟨other, parsedToo, pairsToo⟩ := (carries_of_requestOf again).pairs
  obtain rfl := Option.some.inj (parsed.symm.trans parsedToo)
  have same := List.append_cancel_left (pairs.symm.trans pairsToo)
  cases first <;> cases second <;> simp_all

/-- Requests for cursors are pairwise different just if the cursors are. -/
theorem nodup_questions_iff {exchanges : List HttpExchange} {cursors : List (Option String)}
    (asked : exchanges.map (fun exchange => .ok exchange.question) =
      cursors.map fun cursor => endpoint.requestOf (route.withCursor cursor)) :
    (exchanges.map Exchange.question).Nodup ↔ cursors.Nodup := by
  have sent : exchanges.map
        (fun exchange => (.ok exchange.question : Except ManagerError HttpRequest)) =
      (exchanges.map Exchange.question).map Except.ok := by
    rw [List.map_map]
    rfl
  rw [← List.nodup_map_iff (fun first second => Except.ok.inj), ← sent, asked]
  refine ⟨List.Nodup.of_map _, fun once => once.map_on fun first firstThere second _ same => ?_⟩
  obtain ⟨exchange, -, asks⟩ := List.mem_map.1 (asked ▸ List.mem_map_of_mem firstThere)
  exact requestOf_injective asks.symm (same.symm.trans asks.symm)

/-- The cursor that the page of an exchange names. -/
def namedIn? (decode : Json → Option α) (exchange : HttpExchange) : Option String :=
  (HttpOutcome.value (Page.ofJson? decode) exchange.question.url exchange.answer).toOption.bind
    Page.cursor

/-- A visit that names a cursor is seen to. -/
theorem Visit.Names.namedIn? {visit : Visit endpoint decode route} {next : String}
    (names : visit.Names next) : namedIn? decode visit.exchange = some next := by
  rw [Endpoint.namedIn?, Visit.exchange, visit.value_eq names.optional]
  rfl

namespace Trail

/-- Behind the first page of a trail each is asked for with the cursor that the one before names. -/
theorem exists_named (trail : Trail endpoint decode route start visits goal) :
    ∃ named : List String, visits.map Visit.cursor ++ [goal] = start :: named.map some ∧
      visits.map (fun visit => namedIn? decode visit.exchange) = named.map some := by
  induction trail with
  | here cursor => exact ⟨[], rfl, rfl⟩
  | @more visits next goal visit names _ inductionHypothesis =>
    obtain ⟨named, cursors, told⟩ := inductionHypothesis
    refine ⟨next :: named, ?_, ?_⟩
    · rw [List.map_cons, List.cons_append, cursors, List.map_cons]
    · rw [List.map_cons, names.namedIn?, told, List.map_cons]

/-- Trails that meet are one. -/
theorem trans {first second : List (Visit endpoint decode route)} {middle : Option String}
    (begun : Trail endpoint decode route start first middle)
    (later : Trail endpoint decode route middle second goal) :
    Trail endpoint decode route start (first ++ second) goal := by
  induction begun with
  | here cursor => exact later
  | more visit names _ inductionHypothesis => exact .more visit names (inductionHypothesis later)

/-- A trail comes to each of its cursors. -/
theorem exists_upTo (trail : Trail endpoint decode route start visits goal)
    (there : cursor ∈ visits.map Visit.cursor ++ [goal]) :
    ∃ first second, visits = first ++ second ∧ Trail endpoint decode route start first cursor := by
  induction trail with
  | here place =>
    obtain rfl := List.mem_singleton.1 there
    exact ⟨[], [], rfl, .here _⟩
  | more visit names _ inductionHypothesis =>
    rw [List.map_cons, List.cons_append, List.mem_cons] at there
    rcases there with rfl | later
    · exact ⟨[], _, rfl, .here _⟩
    · obtain ⟨first, second, rfl, reached⟩ := inductionHypothesis later
      exact ⟨visit :: first, second, rfl, .more visit names reached⟩

/-- A trail that comes to a cursor twice goes round. -/
theorem exists_cycle (trail : Trail endpoint decode route start visits goal)
    (twice : ¬ (visits.map Visit.cursor ++ [goal]).Nodup) :
    ∃ before cycle after place, visits = before ++ cycle ++ after ∧ cycle ≠ [] ∧
      Trail endpoint decode route start before place ∧
      Trail endpoint decode route place cycle place := by
  induction trail with
  | here place => exact absurd (List.nodup_singleton place) twice
  | more visit names later inductionHypothesis =>
    rw [List.map_cons, List.cons_append, List.nodup_cons, not_and_or, not_not] at twice
    rcases twice with again | twice
    · obtain ⟨first, second, rfl, reached⟩ := later.exists_upTo again
      exact ⟨[], visit :: first, second, _, rfl, List.cons_ne_nil _ _, .here _,
        .more visit names reached⟩
    · obtain ⟨before, cycle, after, place, rfl, turns, reached, round⟩ := inductionHypothesis twice
      exact ⟨visit :: before, cycle, after, place, rfl, turns, .more visit names reached, round⟩

/-- A trail that goes round can be gone along as often as one likes. -/
theorem exists_longer {cycle : List (Visit endpoint decode route)} {place : Option String}
    (round : Trail endpoint decode route place cycle place) (turns : cycle ≠ []) (length : Nat) :
    ∃ rounds, length ≤ rounds.length ∧ (∀ visit ∈ rounds, visit ∈ cycle) ∧
      Trail endpoint decode route place rounds place := by
  induction length with
  | zero => exact ⟨[], Nat.le_refl 0, fun _ there => absurd there List.not_mem_nil, .here place⟩
  | succ length inductionHypothesis =>
    obtain ⟨rounds, long, among, reached⟩ := inductionHypothesis
    refine ⟨cycle ++ rounds, ?_, fun visit there => ?_, round.trans reached⟩
    · have pos := List.length_pos_iff.2 turns
      rw [List.length_append]
      omega
    · exact (List.mem_append.1 there).elim id (among visit)

end Trail

/-!
## What a listing has asked for
-/

section Begun

variable {exchange last : HttpExchange} {earlier exchanges : List HttpExchange}
  {rest : Transport (Except ManagerError (List α))}

/-- Something is asked behind a page only if it names a cursor to go on with. -/
theorem exists_of_reaches_turnPage {outcome : Except ManagerError (Page α)}
    (begun : Reaches (endpoint.turnPage decode route bound cursor outcome) exchanges rest)
    (more : exchanges ≠ []) :
    ∃ page next left, outcome = .ok page ∧ nextCursor? cursor page.cursor = some next ∧
      Reaches (endpoint.listFrom decode route bound (some next)) exchanges left := by
  cases outcome with
  | error error => exact absurd begun.of_done.1 more
  | ok page =>
    rw [turnPage] at begun
    cases goesOn : nextCursor? cursor page.cursor with
    | none =>
      rw [goesOn] at begun
      exact absurd begun.of_done.1 more
    | some next =>
      rw [goesOn] at begun
      obtain ⟨left, reached⟩ := begun.of_andThen_done
      exact ⟨page, next, left, rfl, goesOn, reached⟩

/-- The first request of a listing asks for the page at its cursor, and further ones come only
behind a page that names the next cursor. -/
theorem first_of_reaches
    (begun : Reaches (endpoint.listFrom decode route bound start) (exchange :: exchanges) rest) :
    endpoint.requestOf (route.withCursor start) = .ok exchange.question ∧
      (exchanges ≠ [] → ∃ (visit : Visit endpoint decode route) (next : String) (fewer : Nat)
        (left : Transport (Except ManagerError (List α))),
        visit.cursor = start ∧ visit.exchange = exchange ∧ visit.Names next ∧
          Reaches (endpoint.listFrom decode route fewer (some next)) exchanges left) := by
  cases bound with
  | zero => cases begun.of_done.1
  | succ bound =>
    cases asks : endpoint.requestOf (route.withCursor start) with
    | error error =>
      rw [listFrom_of_error asks] at begun
      cases begun.of_done.1
    | ok request =>
      rw [listFrom_of_ok asks] at begun
      cases begun with
      | ask reply later =>
        refine ⟨rfl, fun more => ?_⟩
        obtain ⟨page, next, left, reads, goesOn, reached⟩ :=
          exists_of_reaches_turnPage later more
        obtain ⟨visit, rfl, sameRequest, sameAnswer, -, told⟩ := Visit.exists_of_value asks reads
        exact ⟨visit, next, bound, left, rfl, by rw [Visit.exchange, sameRequest, sameAnswer],
          Visit.names_of_nextCursor? told goesOn, reached⟩

/-- Whatever the answers are, a listing goes along a trail, and its last request asks for the page
behind it. -/
theorem exists_trail
    (begun : Reaches (endpoint.listFrom decode route bound start) (earlier ++ [last]) rest) :
    ∃ visits goal, Trail endpoint decode route start visits goal ∧
      visits.map Visit.exchange = earlier ∧
      endpoint.requestOf (route.withCursor goal) = .ok last.question := by
  induction earlier generalizing start bound rest with
  | nil => exact ⟨[], start, .here start, rfl, (first_of_reaches begun).1⟩
  | cons exchange earlier inductionHypothesis =>
    obtain ⟨visit, next, fewer, left, rfl, rfl, names, reached⟩ :=
      (first_of_reaches begun).2 (List.append_ne_nil_of_right_ne_nil _ (List.cons_ne_nil _ _))
    obtain ⟨visits, goal, trail, rfl, asks⟩ := inductionHypothesis reached
    exact ⟨visit :: visits, goal, .more visit names trail, rfl, asks⟩

end Begun

/-- Somebody who answers as the pages of a trail were answered leads a listing along it. -/
theorem Trail.length_play (trail : Trail endpoint decode route start visits goal)
    {serve : HttpRequest → HttpOutcome}
    (serves : ∀ visit ∈ visits, serve visit.request = visit.answer)
    (enough : bound ≤ visits.length) :
    ((endpoint.listFrom decode route bound start).play serve).1.length = bound := by
  induction trail generalizing bound with
  | here cursor =>
    obtain rfl := Nat.le_zero.1 enough
    rfl
  | @more visits next goal visit names _ inductionHypothesis =>
    cases bound with
    | zero => rfl
    | succ bound =>
      have length := inductionHypothesis
        (fun visit there => serves visit (List.mem_cons_of_mem _ there))
        (Nat.le_of_succ_le_succ enough)
      rw [listFrom_of_ok visit.asks, play, serves visit List.mem_cons_self,
        visit.value_eq names.optional, turnPage, names.nextCursor?]
      simp only [List.length_cons, play_andThen, play, List.append_nil]
      exact congrArg (· + 1) length

/-- Somebody who answers as the pages of a round were answered, and those in front of it, keeps a
listing going round for ever. -/
theorem Trail.endless {before cycle : List (Visit endpoint decode route)} {place : Option String}
    (begun : Trail endpoint decode route start before place)
    (round : Trail endpoint decode route place cycle place) (turns : cycle ≠ [])
    {serve : HttpRequest → HttpOutcome}
    (serves : ∀ visit ∈ before ++ cycle, serve visit.request = visit.answer) (pages : Nat) :
    ((endpoint.listFrom decode route pages start).play serve).1.length = pages := by
  obtain ⟨rounds, long, among, around⟩ := round.exists_longer turns pages
  refine (begun.trans around).length_play (fun visit there => serves visit ?_)
    (long.trans (by simp))
  rcases List.mem_append.1 there with first | later
  · exact List.mem_append_left _ first
  · exact List.mem_append_right _ (among visit later)

/-!
## When a page is asked for again
-/

/-- What is to be said of the requests of a listing so far and the cursors that its pages named. -/
structure Revisits (endpoint : Endpoint) (decode : Json → Option α) (route : Route)
    (earlier : List HttpExchange) (last : HttpExchange) (named : List String) : Prop where
  /-- Each of the earlier pages names one of the cursors. -/
  told : earlier.map (namedIn? decode) = named.map some
  /-- The first request asks without a cursor, and each other one with the cursor that the page
  before it names. -/
  asked : (earlier ++ [last]).map (fun exchange => .ok exchange.question) =
    (none :: named.map some).map fun cursor => endpoint.requestOf (route.withCursor cursor)
  /-- No request is made twice just if no cursor is named twice. -/
  distinct_iff : ((earlier ++ [last]).map Exchange.question).Nodup ↔ named.Nodup
  /-- Then there are no more requests than there are cursors to name, and one. -/
  bounded : named.Nodup → ∀ known : Finset String, (∀ cursor ∈ named, cursor ∈ known) →
    (earlier ++ [last]).length ≤ known.card + 1
  /-- Otherwise the listing never ends with a server that goes on answering as it did. -/
  endless : ¬ named.Nodup → ∀ serve : HttpRequest → HttpOutcome,
    (∀ exchange ∈ earlier, serve exchange.question = exchange.answer) →
      ∀ pages, ((endpoint.listFrom decode route pages none).play serve).1.length = pages

/-- A listing asks for pages with pairwise different cursors just if the pages name pairwise
different cursors; if they do not, it may go on for ever. -/
theorem listFrom_revisits {earlier : List HttpExchange} {last : HttpExchange}
    {rest : Transport (Except ManagerError (List α))}
    (begun : Reaches (endpoint.listFrom decode route bound none) (earlier ++ [last]) rest) :
    ∃ named, Revisits endpoint decode route earlier last named := by
  obtain ⟨visits, goal, trail, rfl, asks⟩ := exists_trail begun
  obtain ⟨named, cursors, told⟩ := trail.exists_named
  have asked : (visits.map Visit.exchange ++ [last]).map
        (fun exchange => (.ok exchange.question : Except ManagerError HttpRequest)) =
      (none :: named.map some).map fun cursor => endpoint.requestOf (route.withCursor cursor) := by
    rw [← cursors]
    simp [asks, Visit.exchange, Visit.asks]
  have distinct : (none :: named.map some).Nodup ↔ named.Nodup := by
    simp [List.nodup_map_iff (Option.some_injective String)]
  refine ⟨named, ?_, asked, ?_, fun once known among => ?_, fun twice serve serves pages => ?_⟩
  · rw [List.map_map]
    exact told
  · rw [← distinct]
    exact nodup_questions_iff asked
  · have most := Finset.card_le_card fun cursor there => among cursor (List.mem_toFinset.1 there)
    have length : (visits.map Visit.exchange).length = named.length := by
      simpa using congrArg List.length told
    rw [List.toFinset_card_of_nodup once] at most
    rw [List.length_append, length]
    exact Nat.succ_le_succ most
  · rw [← distinct, ← cursors] at twice
    obtain ⟨before, cycle, after, place, rfl, turns, reached, round⟩ := trail.exists_cycle twice
    exact reached.endless round turns (fun visit there =>
      serves visit.exchange (List.mem_map_of_mem (List.mem_append_left _ there))) pages

/-- Two pages the second of which repeats its cursor are asked for with two requests. -/
theorem listFrom_revisits_twoPages : ∃ earlier last,
    Converses (pagingEndpoint.listFrom GroupStatus.ofJson? edgeStatuses 2 none) (earlier ++ [last])
        (.ok [⟨"a", "", .paused⟩, ⟨"b", "", .paused⟩]) ∧
      Revisits pagingEndpoint GroupStatus.ofJson? edgeStatuses earlier last ["x"] := by
  obtain ⟨first, firstPlace, -, firstItems, firstNames, -⟩ :=
    exists_pageVisit none "a" "x" (by decide) (by decide)
  obtain ⟨second, secondPlace, -, secondItems, -, closes⟩ :=
    exists_pageVisit (some "x") "b" "x" (by decide) (by decide)
  have names := firstNames (by decide)
  have trail : Trail pagingEndpoint GroupStatus.ofJson? edgeStatuses none [first] (some "x") :=
    .cons firstPlace names (.here (some "x"))
  have ends : Ends pagingEndpoint GroupStatus.ofJson? edgeStatuses (some "x") [second.exchange]
      (.ok second.items) :=
    secondPlace ▸ .last second (closes rfl)
  have converses := trail.converses ends (by decide : 1 < 2)
  obtain ⟨named, revisits⟩ := listFrom_revisits (converses_iff_reaches_done.1 converses)
  have told : [some "x"] = named.map some := by
    rw [← revisits.told, List.map_singleton, List.map_singleton, names.namedIn?]
  obtain rfl : ["x"] = named := List.map_injective_iff.2 (Option.some_injective String) told
  refine ⟨_, _, ?_, revisits⟩
  simpa [Except.map, firstItems, secondItems] using converses

/-- A manager that names two cursors in turn. -/
def alternating (request : HttpRequest) : HttpOutcome :=
  .answered 200 (match request.url.pairs.lookup "cursor" with
    | none => pageBody "a" "x"
    | some cursor => if cursor = "x" then pageBody "b" "y" else pageBody "c" "x")

/-- The alternating manager answers with the page that the cursor asks for. -/
theorem alternating_visit {visit : Visit pagingEndpoint GroupStatus.ofJson? edgeStatuses} :
    alternating visit.request = .answered 200 (match visit.cursor with
      | none => pageBody "a" "x"
      | some cursor => if cursor = "x" then pageBody "b" "y" else pageBody "c" "x") := by
  have pairs := pairs_of_carries (carries_of_requestOf visit.asks)
  rw [alternating, pairs]
  cases visit.cursor <;> rfl

/-- The alternating manager always names a cursor. -/
theorem namedIn?_alternating (request : HttpRequest) :
    namedIn? GroupStatus.ofJson? ⟨request, alternating request⟩ ∈ [some "x", some "y"] := by
  unfold namedIn? alternating
  split
  · rw [value_pageBody (by decide)]
    decide
  · split
    · rw [value_pageBody (by decide)]
      decide
    · rw [value_pageBody (by decide)]
      decide

/-- A manager that names two cursors in turn is asked for the page behind one of them again, and
shows its group twice; and if it goes on so the listing never ends. -/
theorem not_listFrom_distinct_alternating :
    (∃ exchanges : List HttpExchange,
      Converses (pagingEndpoint.listFrom GroupStatus.ofJson? edgeStatuses 4 none) exchanges
          (.ok [⟨"a", "", .paused⟩, ⟨"b", "", .paused⟩, ⟨"c", "", .paused⟩, ⟨"b", "", .paused⟩]) ∧
        ¬ (exchanges.map Exchange.question).Nodup) ∧
      (∀ request, namedIn? GroupStatus.ofJson? ⟨request, alternating request⟩ ∈
        [some "x", some "y"]) ∧
      ∀ pages, ((pagingEndpoint.listFrom GroupStatus.ofJson? edgeStatuses pages none).play
        alternating).1.length = pages := by
  obtain ⟨first, firstPlace, firstAnswer, firstItems, firstNames, -⟩ :=
    exists_pageVisit none "a" "x" (by decide) (by decide)
  obtain ⟨second, secondPlace, secondAnswer, secondItems, secondNames, -⟩ :=
    exists_pageVisit (some "x") "b" "y" (by decide) (by decide)
  obtain ⟨third, thirdPlace, thirdAnswer, thirdItems, thirdNames, -⟩ :=
    exists_pageVisit (some "y") "c" "x" (by decide) (by decide)
  obtain ⟨last, lastPlace, -, lastItems, -, closes⟩ :=
    exists_pageVisit (some "x") "b" "x" (by decide) (by decide)
  have opens : Trail pagingEndpoint GroupStatus.ofJson? edgeStatuses none [first] (some "x") :=
    .cons firstPlace (firstNames (by decide)) (.here (some "x"))
  have round : Trail pagingEndpoint GroupStatus.ofJson? edgeStatuses (some "x") [second, third]
      (some "x") :=
    .cons secondPlace (secondNames (by decide))
      (.cons thirdPlace (thirdNames (by decide)) (.here (some "x")))
  have ends : Ends pagingEndpoint GroupStatus.ofJson? edgeStatuses (some "x") [last.exchange]
      (.ok last.items) :=
    lastPlace ▸ .last last (closes rfl)
  have same : last.request = second.request := by
    have asks := last.asks
    rw [lastPlace, ← secondPlace, second.asks] at asks
    exact (Except.ok.inj asks).symm
  have converses := (opens.trans round).converses ends (by decide : 3 < 4)
  refine ⟨⟨[first.exchange, second.exchange, third.exchange, last.exchange], ?_, ?_⟩,
    namedIn?_alternating, opens.endless round (by simp) fun visit there => ?_⟩
  · simpa [Except.map, firstItems, secondItems, thirdItems, lastItems] using converses
  · simp [Visit.exchange, same]
  · rw [alternating_visit]
    rcases (by simpa using there : visit = first ∨ visit = second ∨ visit = third) with
      rfl | rfl | rfl
    · rw [firstPlace, firstAnswer]
    · rw [secondPlace, secondAnswer]
      rfl
    · rw [thirdPlace, thirdAnswer]
      rfl

end FabricUpgrade.Endpoint
