import MegaraidDashboard.Machine.Run
import MegaraidDashboard.Model.Services.Events

/-! # The events page in the browser

The two links of the page carry their cursors as text: the button for older events the time and the identifier of
the last row, the poller the greatest identifier that it knows. The response to a link replaces it.
-/

namespace MegaraidDashboard.Web

open Services.Events

/-- The exceptions that leave a route function. -/
inductive RouteError where
  /-- `HTTPException` -/
  | http (statusCode : ℕ) (detail : String)
  /-- `OverflowError` of `astimezone` -/
  | overflow
  /-- `ValueError` -/
  | value (message : String)
deriving DecidableEq, Repr

/-- `_parse_events_cursor` -/
def parseEventsCursor (beforeOccurredAt beforeId : Option String) : Except RouteError (Option (ℤ × ℤ)) :=
  match beforeOccurredAt, beforeId with
  | none, none => .ok none
  | some beforeOccurredAt, some beforeId =>
    match Py.fromisoformat beforeOccurredAt with
    | none => .error (.http 400 "before_occurred_at must be a valid ISO 8601 datetime")
    | some parsed =>
      match parsed.utcoffset with
      | none => .error (.http 400 "before_occurred_at must include a timezone")
      | some utcoffset =>
        match Py.parseInt beforeId with
        | none => .error (.http 400 "before_id must be an integer")
        | some parsedBeforeId =>
          if Timestamp.Representable (parsed.time - utcoffset) then .ok (some (parsed.time - utcoffset, parsedBeforeId))
          else .error .overflow
  | _, _ => .error (.http 400 "before_occurred_at and before_id must be provided together")

/-- `_parse_events_since` -/
def parseEventsSince : Option String → Except RouteError (Option ℤ)
  | none => .ok none
  | some since =>
    match Py.parseInt since with
    | none => .error (.http 400 "since must be an integer")
    | some parsedSince =>
      if parsedSince < 0 then .error (.http 400 "since must be non-negative") else .ok (some parsedSince)

/-- The query of `load_more_button`, behind the state of the filters. -/
def loadMoreQuery (cursor : EventsCursor) : String :=
  "before_occurred_at=" ++ Py.urlencode cursor.beforeOccurredAtIso ++ "&before_id=" ++ toString cursor.beforeId

/-- The query of `events_poller`, behind the state of the filters. -/
def pollerQuery (since : ℕ) : String := "since=" ++ toString since

/-- The filters of a request, which every link of the page repeats. -/
structure EventFilters where
  categories : List String
  severities : List String
deriving DecidableEq, Repr

/-- The statement of `_events_fragment_response` with the filters. -/
def EventFilters.query (filters : EventFilters) (pageSize : ℕ) (cursor : Option (ℤ × ℤ)) (since : Option ℤ) :
    FragmentQuery where
  pageSize := pageSize
  beforeOccurredAt := cursor.map Prod.fst
  beforeId := cursor.map Prod.snd
  categories := filters.categories
  severities := filters.severities
  category := none
  since := since

/-- What the filters let through. -/
def EventFilters.accepts (filters : EventFilters) (event : StoredEvent) : Bool :=
  matchesFilters (normalizeFilters (filters.categories.map some)) (normalizeFilters (filters.severities.map some)) event

/-- The view model of a response: the first page, or one behind a cursor, or the rows since an identifier. -/
def loadView (table : List StoredEvent) (query : FragmentQuery) : Except RouteError EventsFragmentViewModel :=
  (loadEventsFragment table query).mapError .value

/-! ## Older events -/

/-- The response to the button for older events, whose query is a text. -/
def loadOlder (table : List StoredEvent) (filters : EventFilters) (pageSize : ℕ) (link : String) :
    Except RouteError EventsFragmentViewModel := do
  let cursor ← parseEventsCursor (Py.queryParam link "before_occurred_at") (Py.queryParam link "before_id")
  loadView table (filters.query pageSize cursor none)

/-- The rows that the pages so far have listed, and the link of the button, where there is one. -/
structure PageWalk where
  listed : List EventRow
  link : Option String
deriving DecidableEq, Repr

def PageWalk.extend (walk : PageWalk) (view : EventsFragmentViewModel) : PageWalk where
  listed := walk.listed ++ view.events
  link := view.nextCursor.map loadMoreQuery

/-- One page of the walk: the button behind the rows, and nothing where it is gone. -/
def PageWalk.next (table : List StoredEvent) (filters : EventFilters) (pageSize : ℕ) (walk : PageWalk) :
    Except RouteError PageWalk :=
  match walk.link with
  | none => .ok walk
  | some link => (loadOlder table filters pageSize link).map walk.extend

section Walk

variable (table : ℕ → List StoredEvent) (filters : EventFilters) (pageSize : ℕ)

/-- The walk whose load number `n` reads `table n`: the first page, then `n` times the button. -/
def pageWalk : ℕ → Except RouteError PageWalk
  | 0 => (loadView (table 0) (filters.query pageSize none none)).map (PageWalk.extend ⟨[], none⟩)
  | n + 1 => do
    let walk ← pageWalk n
    walk.next (table (n + 1)) filters pageSize

end Walk

/-! ## Newer events -/

/-- The page with its two links. The table of the last poll is kept for the statements; no step reads it. -/
structure LiveView where
  table : List StoredEvent
  filters : EventFilters
  /-- The rows of the list, from above. -/
  shown : List EventRow
  /-- The link of the button for older events. -/
  older : Option String
  /-- The link of the poller. -/
  poller : String
  polled : List StoredEvent

/-- An insertion takes the next identifier, as `INTEGER PRIMARY KEY` does in a table that loses no rows. -/
def nextEventId (table : List StoredEvent) : ℕ := (table.map (·.id)).foldl max 0 + 1

inductive LiveStep where
  /-- The identifier of the event is not read. -/
  | insert (event : StoredEvent)
  /-- The poller sends its link. -/
  | refresh
  /-- The button for older events sends its link. -/
  | loadOlder
deriving DecidableEq

/-- The full page, on the first request and in place of an empty list. -/
def LiveView.open (table : List StoredEvent) (filters : EventFilters) : Except RouteError LiveView := do
  let view ← loadView table (filters.query eventsPageSize none none)
  .ok {
    table := table
    filters := filters
    shown := view.events
    older := view.nextCursor.map loadMoreQuery
    poller := pollerQuery view.latestEventId
    polled := table }

/-- The rows since an identifier, put above the list. -/
def LiveView.prepend (live : LiveView) (since : ℤ) : Except RouteError LiveView := do
  let view ← loadView live.table (live.filters.query eventsPageSize none (some since))
  .ok { live with
    shown := view.events ++ live.shown
    poller := pollerQuery (max since.toNat view.latestEventId)
    polled := live.table }

/-- The branch of `_events_fragment_response` for a poll, and what its answer does to the page. -/
def LiveView.refresh (live : LiveView) : Except RouteError LiveView := do
  match ← parseEventsSince (Py.queryParam live.poller "since") with
  | none => .ok live
  | some since =>
    if since = 0 then
      let page ← loadView live.table (live.filters.query eventsPageSize none none)
      if page.events = [] then live.prepend since
      else
        .ok { live with
          shown := page.events
          older := page.nextCursor.map loadMoreQuery
          poller := pollerQuery (max since.toNat page.latestEventId)
          polled := live.table }
    else live.prepend since

def LiveView.loadOlder (live : LiveView) : Except RouteError LiveView :=
  match live.older with
  | none => .ok live
  | some link => do
    let view ← Web.loadOlder live.table live.filters eventsPageSize link
    .ok { live with
      shown := live.shown ++ view.events
      older := view.nextCursor.map loadMoreQuery }

/-- One event of the page's life. A response that is an error is not swapped in. -/
def LiveView.step (live : LiveView) : LiveStep → LiveView
  | .insert event => { live with table := live.table ++ [{ event with id := nextEventId live.table }] }
  | .refresh => live.refresh.toOption.getD live
  | .loadOlder => live.loadOlder.toOption.getD live

/-- Every matching event of the last poll is on the page once its button is gone, and none is there twice. -/
def LiveView.ShowsOnce (live : LiveView) : Prop :=
  (live.shown.map (·.id)).Nodup ∧
    (live.older = none → ∀ event ∈ live.polled, live.filters.accepts event = true → eventRow event ∈ live.shown)

instance (live : LiveView) : Decidable live.ShowsOnce := inferInstanceAs (Decidable (_ ∧ _))

/-- The identifier in the poller's link. -/
def LiveView.since (live : LiveView) : ℤ :=
  match parseEventsSince (Py.queryParam live.poller "since") with
  | .ok (some since) => since
  | _ => 0

/-- The matching events that no poll has asked for. -/
def LiveView.pending (live : LiveView) : List StoredEvent :=
  live.table.filter fun event => live.filters.accepts event && decide (live.since < (event.id : ℤ))

/-- The button for older events would list this event. -/
def LiveView.behindButton (live : LiveView) (event : StoredEvent) : Bool :=
  live.older.any fun link =>
    match parseEventsCursor (Py.queryParam link "before_occurred_at") (Py.queryParam link "before_id") with
    | .ok (some (beforeOccurredAt, beforeId)) => beforeCursor beforeOccurredAt beforeId event
    | _ => false

/-- The newest of the events has the greatest identifier of them. -/
def NewestLast (events : List StoredEvent) : Prop :=
  ∀ top ∈ events, (∀ event ∈ events, eventKey event ≤ eventKey top) → ∀ event ∈ events, event.id ≤ top.id

instance (events : List StoredEvent) : Decidable (NewestLast events) :=
  inferInstanceAs (Decidable (∀ top ∈ events, _ → ∀ event ∈ events, _))

/-- The two links agree on what is new: no insertion lands behind the button, and a poll finds at most a page of
events, the newest of which was inserted last. -/
def LiveView.Orderly (live : LiveView) : LiveStep → Prop
  | .insert event => live.filters.accepts event = true →
      live.behindButton { event with id := nextEventId live.table } = false
  | .refresh => NewestLast live.pending ∧ (0 < live.since → live.pending.length ≤ eventsPageSize)
  | .loadOlder => True

instance (live : LiveView) : ∀ step, Decidable (live.Orderly step)
  | .insert _ => inferInstanceAs (Decidable (_ → _))
  | .refresh => inferInstanceAs (Decidable (_ ∧ _))
  | .loadOlder => inferInstanceAs (Decidable True)

/-- The identifiers of a table are distinct and start at one. -/
structure TableIds (table : List StoredEvent) : Prop where
  unique : (table.map (·.id)).Nodup
  positive : ∀ event ∈ table, 0 < event.id

end MegaraidDashboard.Web
