import Mathlib.Data.Int.ConditionallyCompleteOrder
import Mathlib.Data.List.Sort
import Mathlib.Data.Prod.Lex
import MegaraidDashboard.Model.Python.DateTime

/-! # The events service

The table of events as its views read it: severities, categories and subjects are the stored texts, since the
filters compare texts. A page is a query in descending order of time and identifier, and its cursor is the last
row that it shows.
-/

namespace MegaraidDashboard.Services.Events

/-- `EVENTS_PAGE_SIZE` -/
def eventsPageSize : ℕ := 50

/-- A row of the table of events; its time is one that `datetime` can hold. -/
structure StoredEvent where
  id : ℕ
  occurredAt : ℤ
  severity : String
  category : String
  subject : String
  summary : String
  operatorUsername : Option String
  representable : Timestamp.Representable occurredAt
deriving DecidableEq

structure EventsCursor where
  beforeOccurredAt : ℤ
  beforeId : ℕ
deriving DecidableEq, Repr

def EventsCursor.beforeOccurredAtIso (cursor : EventsCursor) : String := Py.isoformat cursor.beforeOccurredAt

structure EventRow where
  id : ℕ
  occurredAt : ℤ
  severity : String
  severityStatus : String
  category : String
  subject : String
  summary : String
  operatorUsername : Option String
deriving DecidableEq, Repr

/-- `EventsFragmentViewModel`, and the fields of `EventsPageViewModel` that it shares with it. -/
structure EventsFragmentViewModel where
  events : List EventRow
  nextCursor : Option EventsCursor
  isFirstPage : Bool
  categoryFilters : List String
  severityFilters : List String
deriving DecidableEq, Repr

/-- `latest_event_id` -/
def EventsFragmentViewModel.latestEventId (view : EventsFragmentViewModel) : ℕ := (view.events.head?.map (·.id)).getD 0

/-- `_normalize_event_severity` -/
def normalizeEventSeverity (severity : String) : String :=
  if severity ∈ ["info", "warning", "critical"] then severity else "unknown"

/-- `event_severity_to_status` -/
def eventSeverityToStatus (severity : String) : String :=
  (([("info", "optimal"), ("warning", "warning"), ("critical", "critical")].find? fun entry => entry.1 == severity).map
    Prod.snd).getD "unknown"

/-- `_event_row` -/
def eventRow (event : StoredEvent) : EventRow where
  id := event.id
  occurredAt := event.occurredAt
  severity := normalizeEventSeverity event.severity
  severityStatus := eventSeverityToStatus (normalizeEventSeverity event.severity)
  category := event.category
  subject := event.subject
  summary := event.summary
  operatorUsername := event.operatorUsername

/-- `_normalize_filters` -/
def normalizeFilters (values : List (Option String)) : List String :=
  values.foldl (fun normalized value => match value with
    | none => normalized
    | some value =>
      if Py.strip value ≠ "" ∧ Py.strip value ∉ normalized then normalized ++ [Py.strip value] else normalized) []

/-- `_filter_inputs` -/
def filterInputs (values : List String) (legacyValue : Option String) : List (Option String) :=
  values.map some ++ legacyValue.toList.map some

/-- `ORDER BY occurred_at DESC, id DESC` puts the greater key first. -/
def eventKey (event : StoredEvent) : ℤ ×ₗ ℤ := toLex (event.occurredAt, (event.id : ℤ))

def EventsCursor.key (cursor : EventsCursor) : ℤ ×ₗ ℤ := toLex (cursor.beforeOccurredAt, (cursor.beforeId : ℤ))

/-- The filters of the statement: the categories and the severities, where there are any. -/
def matchesFilters (categoryFilters severityFilters : List String) (event : StoredEvent) : Bool :=
  (categoryFilters.isEmpty || categoryFilters.contains event.category) &&
    (severityFilters.isEmpty || severityFilters.contains event.severity)

/-- `occurred_at < before_occurred_at OR (occurred_at = before_occurred_at AND id < before_id)` -/
def beforeCursor (beforeOccurredAt beforeId : ℤ) (event : StoredEvent) : Bool :=
  decide (event.occurredAt < beforeOccurredAt) ||
    decide (event.occurredAt = beforeOccurredAt) && decide ((event.id : ℤ) < beforeId)

/-- The keyword arguments of `load_events_fragment`. -/
structure FragmentQuery where
  pageSize : ℕ := eventsPageSize
  beforeOccurredAt : Option ℤ := none
  beforeId : Option ℤ := none
  categories : List String := []
  severities : List String := []
  category : Option String := none
  since : Option ℤ := none

/-- The `WHERE` clause of the statement. -/
def FragmentQuery.selects (query : FragmentQuery) (event : StoredEvent) : Bool :=
  matchesFilters (normalizeFilters (filterInputs query.categories query.category))
      (normalizeFilters (query.severities.map some)) event &&
    (query.since.all fun since => decide (since < (event.id : ℤ))) &&
    match query.beforeOccurredAt, query.beforeId with
    | some beforeOccurredAt, some beforeId => beforeCursor beforeOccurredAt beforeId event
    | _, _ => true

/-- The rows of the statement in order, before its limit. -/
def FragmentQuery.ordered (query : FragmentQuery) (table : List StoredEvent) : List StoredEvent :=
  (table.filter query.selects).insertionSort fun first second => eventKey second ≤ eventKey first

/-- `load_events_fragment`; an error is the text of its `ValueError`. -/
def loadEventsFragment (table : List StoredEvent) (query : FragmentQuery) : Except String EventsFragmentViewModel :=
  if query.pageSize < 1 then .error "page_size must be at least 1"
  else if query.beforeOccurredAt.isNone ≠ query.beforeId.isNone then
    .error "before_occurred_at and before_id must be provided together"
  else
    let events := (query.ordered table).take (query.pageSize + 1)
    let visibleEvents := events.take query.pageSize
    .ok {
      events := visibleEvents.map eventRow
      nextCursor :=
        if query.pageSize < events.length then visibleEvents.getLast?.map fun event => ⟨event.occurredAt, event.id⟩
        else none
      isFirstPage := query.beforeOccurredAt.isNone && query.since.isNone
      categoryFilters := normalizeFilters (filterInputs query.categories query.category)
      severityFilters := normalizeFilters (query.severities.map some) }

/-! ## A page -/

section Page

theorem beforeCursor_iff (cursor : EventsCursor) (event : StoredEvent) :
    beforeCursor cursor.beforeOccurredAt cursor.beforeId event = true ↔ eventKey event < cursor.key := by
  simp only [beforeCursor, Bool.or_eq_true, Bool.and_eq_true, decide_eq_true_eq, eventKey, EventsCursor.key,
    Prod.Lex.toLex_lt_toLex]

theorem eventKey_injOn {table : List StoredEvent} (ids : (table.map (·.id)).Nodup) {first second : StoredEvent}
    (firstMember : first ∈ table) (secondMember : second ∈ table) (same : eventKey first = eventKey second) :
    first = second := by
  have ids_eq : first.id = second.id := by
    have := congrArg (fun key => (ofLex key).2) same
    exact Int.ofNat_inj.mp this
  exact List.inj_on_of_nodup_map ids firstMember secondMember ids_eq

theorem mem_ordered {query : FragmentQuery} {table : List StoredEvent} {event : StoredEvent} :
    event ∈ query.ordered table ↔ event ∈ table ∧ query.selects event = true := by
  rw [FragmentQuery.ordered, List.mem_insertionSort, List.mem_filter]

/-- The rows of the statement strictly descend, since no two rows share an identifier. -/
theorem pairwise_ordered {table : List StoredEvent} (ids : (table.map (·.id)).Nodup) (query : FragmentQuery) :
    (query.ordered table).Pairwise fun first second => eventKey second < eventKey first := by
  have sorted := List.pairwise_insertionSort (fun first second => eventKey second ≤ eventKey first)
    (table.filter query.selects)
  have unique : (query.ordered table).Nodup :=
    (List.perm_insertionSort _ _).nodup_iff.mpr ((List.Nodup.of_map _ ids).filter _)
  refine List.Pairwise.imp_of_mem ?_ (sorted.and unique)
  intro first second firstMember secondMember order
  have firstIn := (mem_ordered.mp firstMember).1
  have secondIn := (mem_ordered.mp secondMember).1
  exact lt_of_le_of_ne order.1 fun same => order.2 (eventKey_injOn ids secondIn firstIn same).symm

/-- A page is an initial part of the ordered rows; it ends at its cursor, or it holds them all. -/
structure Page (table : List StoredEvent) (query : FragmentQuery) (view : EventsFragmentViewModel)
    (shown : List StoredEvent) : Prop where
  rows : view.events = shown.map eventRow
  descending : shown.Pairwise fun first second => eventKey second < eventKey first
  mem_iff : ∀ event, event ∈ shown ↔
    (event ∈ table ∧ query.selects event = true) ∧ ∀ cursor ∈ view.nextCursor, cursor.key ≤ eventKey event
  cursor_mem : ∀ cursor ∈ view.nextCursor, ∃ last ∈ shown, cursor.key = eventKey last
  more : ∀ cursor ∈ view.nextCursor, query.pageSize < (query.ordered table).length

theorem loadEventsFragment_page {table : List StoredEvent} (ids : (table.map (·.id)).Nodup) {query : FragmentQuery}
    (positive : 1 ≤ query.pageSize) (paired : query.beforeOccurredAt.isNone = query.beforeId.isNone) :
    ∃ view shown, loadEventsFragment table query = .ok view ∧ Page table query view shown := by
  have sorted := pairwise_ordered ids query
  have visible : ((query.ordered table).take (query.pageSize + 1)).take query.pageSize =
      (query.ordered table).take query.pageSize := by
    rw [List.take_take, Nat.min_eq_left (Nat.le_succ _)]
  have descending := sorted.sublist (List.take_sublist query.pageSize _)
  rw [loadEventsFragment, if_neg (by omega), if_neg (not_not_intro paired)]
  refine ⟨_, (query.ordered table).take query.pageSize, rfl, ?_⟩
  by_cases more : query.pageSize < (query.ordered table).length
  · have long : query.pageSize < ((query.ordered table).take (query.pageSize + 1)).length := by
      rw [List.length_take]
      omega
    -- the page is a front and its last row, and every row behind it is below that row
    obtain empty | ⟨front, last, page⟩ := List.eq_nil_or_concat ((query.ordered table).take query.pageSize)
    · have length := congrArg List.length empty
      rw [List.length_take, List.length_nil] at length
      omega
    rw [List.concat_eq_append] at page
    have split := List.take_append_drop query.pageSize (query.ordered table)
    have below : ∀ event ∈ (query.ordered table).drop query.pageSize, eventKey event < eventKey last := by
      intro event behind
      rw [← split, page] at sorted
      exact (List.pairwise_append.mp sorted).2.2 last (List.mem_append_right _ List.mem_cons_self) event behind
    have above : ∀ event ∈ (query.ordered table).take query.pageSize, eventKey last ≤ eventKey event := by
      intro event inside
      rw [page] at descending inside
      rcases List.mem_append.mp inside with before | same
      · exact ((List.pairwise_append.mp descending).2.2 event before last List.mem_cons_self).le
      · rw [List.mem_singleton.mp same]
    have cursor : ((query.ordered table).take query.pageSize).getLast?.map
        (fun event => (⟨event.occurredAt, event.id⟩ : EventsCursor)) = some ⟨last.occurredAt, last.id⟩ := by
      rw [page, List.getLast?_concat]
      rfl
    constructor
    · exact congrArg (List.map eventRow) visible
    · exact descending
    · intro event
      simp only [if_pos long, visible, cursor, Option.mem_some_iff, forall_eq']
      rw [← mem_ordered]
      constructor
      · exact fun inside => ⟨List.mem_of_mem_take inside, above event inside⟩
      · rintro ⟨member, reached⟩
        rw [← split] at member
        rcases List.mem_append.mp member with inside | behind
        · exact inside
        · exact absurd (below event behind) (not_lt.mpr reached)
    · simp only [if_pos long, visible, cursor, Option.mem_some_iff, forall_eq']
      refine ⟨last, ?_, rfl⟩
      rw [page]
      exact List.mem_append_right _ List.mem_cons_self
    · exact fun _ _ => more
  · have short : ¬query.pageSize < ((query.ordered table).take (query.pageSize + 1)).length := by
      rw [List.length_take]
      omega
    have whole : (query.ordered table).take query.pageSize = query.ordered table :=
      List.take_of_length_le (not_lt.mp more)
    constructor
    · exact congrArg (List.map eventRow) visible
    · exact descending
    · intro event
      simp only [if_neg short, whole, mem_ordered, Option.not_mem_none, IsEmpty.forall_iff, implies_true, and_true]
    · simp only [if_neg short, Option.not_mem_none, IsEmpty.forall_iff, implies_true]
    · simp only [if_neg short, Option.not_mem_none, IsEmpty.forall_iff, implies_true]

theorem Page.representable {table : List StoredEvent} {query : FragmentQuery} {view : EventsFragmentViewModel}
    {shown : List StoredEvent} (page : Page table query view shown) {cursor : EventsCursor}
    (more : cursor ∈ view.nextCursor) : Timestamp.Representable cursor.beforeOccurredAt := by
  obtain ⟨last, -, same⟩ := page.cursor_mem cursor more
  have time : cursor.beforeOccurredAt = last.occurredAt := congrArg (fun key => (ofLex key).1) same
  rw [time]
  exact last.representable

end Page

end MegaraidDashboard.Services.Events
