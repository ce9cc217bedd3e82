import MegaraidDashboard.Model.Web.EventsView
import MegaraidDashboard.ToMathlib.ListQueries

/-! # The walk over the pages of events

The cursor of a page survives its way through the link, so that each page starts right below the last row of the
page before it. The walk therefore descends, and since the keys of events are well-founded it ends, whatever is
inserted on the way.
-/

namespace MegaraidDashboard.Web

open Services.Events Timestamp

/-! ## The link -/

theorem toString_separators (n : ℕ) : ∀ c ∈ (toString n).toList, c ≠ '&' ∧ c ≠ '%' ∧ c ≠ '+' := by
  intro c member
  have text : toString n = String.ofList (Nat.toDigits 10 n) := Nat.repr_eq_ofList_toDigits
  rw [text, String.toList_ofList] at member
  have digit : c.isDigit = true := Nat.isDigit_of_mem_toDigits (by decide) (by decide) member
  refine ⟨?_, ?_, ?_⟩
  all_goals
    rintro rfl
    exact absurd digit (by decide)

theorem unquotePlus_toString (n : ℕ) : Py.unquotePlus (toString n) = toString n := by
  rw [Py.unquotePlus, Py.unquotePlusChars_eq_self fun c member => (toString_separators n c member).2,
    String.ofList_toList]

private theorem link_chars (time id : String) : "before_occurred_at=" ++ time ++ "&before_id=" ++ id =
    String.ofList ("before_occurred_at".toList ++ '=' :: time.toList ++ '&' :: ("before_id".toList ++ '=' :: id.toList)) := by
  apply String.toList_inj.mp
  simp

/-- The two parameters of the link, for any text of the time. -/
private theorem parseQuery_link {time : String} (ascii : IsAscii time) (id : ℕ) :
    Py.parseQuery ("before_occurred_at=" ++ Py.urlencode time ++ "&before_id=" ++ toString id) =
      [("before_occurred_at", time), ("before_id", toString id)] := by
  have timeName : Py.unquotePlus (String.ofList "before_occurred_at".toList) = "before_occurred_at" := by decide
  have idName : Py.unquotePlus (String.ofList "before_id".toList) = "before_id" := by decide
  rw [link_chars, Py.parseQuery_pair (by decide) (by decide)
    (fun inside => (Py.mem_urlencode ascii inside).1 rfl) (fun inside => (toString_separators _ _ inside).1 rfl),
    timeName, idName, String.ofList_toList, String.ofList_toList, unquotePlus_toString, Py.unquotePlus_urlencode ascii]

/-- The two parameters of the link for older events. -/
theorem parseQuery_loadMoreQuery (cursor : EventsCursor) : Py.parseQuery (loadMoreQuery cursor) =
    [("before_occurred_at", cursor.beforeOccurredAtIso), ("before_id", toString cursor.beforeId)] :=
  parseQuery_link (Py.isoformat_ascii _) cursor.beforeId

/-- The route reads the cursor that the template wrote. -/
theorem parseEventsCursor_loadMoreQuery {cursor : EventsCursor} (holds : Representable cursor.beforeOccurredAt) :
    parseEventsCursor (Py.queryParam (loadMoreQuery cursor) "before_occurred_at")
        (Py.queryParam (loadMoreQuery cursor) "before_id") =
      .ok (some (cursor.beforeOccurredAt, (cursor.beforeId : ℤ))) := by
  have occurredAt : Py.queryParam (loadMoreQuery cursor) "before_occurred_at" = some cursor.beforeOccurredAtIso := by
    rw [Py.queryParam, parseQuery_loadMoreQuery]
    rfl
  have id : Py.queryParam (loadMoreQuery cursor) "before_id" = some (toString cursor.beforeId) := by
    rw [Py.queryParam, parseQuery_loadMoreQuery]
    rfl
  rw [occurredAt, id, parseEventsCursor]
  simp only [EventsCursor.beforeOccurredAtIso, Py.fromisoformat_isoformat holds, Py.parseInt_toString, sub_zero,
    if_pos holds]

/-! ## Pages of a walk -/

section Query

variable (filters : EventFilters) (pageSize : ℕ)

theorem selects_first (event : StoredEvent) :
    (filters.query pageSize none none).selects event = filters.accepts event := by
  simp [FragmentQuery.selects, EventFilters.query, EventFilters.accepts, filterInputs]

theorem selects_older (cursor : EventsCursor) (event : StoredEvent) :
    (filters.query pageSize (some (cursor.beforeOccurredAt, (cursor.beforeId : ℤ))) none).selects event = true ↔
      filters.accepts event = true ∧ eventKey event < cursor.key := by
  rw [← beforeCursor_iff]
  simp [FragmentQuery.selects, EventFilters.query, EventFilters.accepts, filterInputs]

theorem selects_since (since : ℤ) (event : StoredEvent) :
    (filters.query pageSize none (some since)).selects event = true ↔
      filters.accepts event = true ∧ since < event.id := by
  simp [FragmentQuery.selects, EventFilters.query, EventFilters.accepts, filterInputs]

variable {filters pageSize} {table : List StoredEvent}

/-- A load with a valid query answers with its page. -/
theorem loadView_page (filters : EventFilters) (ids : (table.map (·.id)).Nodup) (positive : 1 ≤ pageSize) (cursor : Option (ℤ × ℤ))
    (since : Option ℤ) : ∃ view shown, loadView table (filters.query pageSize cursor since) = .ok view ∧
      Page table (filters.query pageSize cursor since) view shown := by
  have paired : (filters.query pageSize cursor since).beforeOccurredAt.isNone =
      (filters.query pageSize cursor since).beforeId.isNone := by
    cases cursor <;> rfl
  obtain ⟨view, shown, loaded, page⟩ := loadEventsFragment_page ids positive paired
  refine ⟨view, shown, ?_, page⟩
  rw [loadView, loaded]
  rfl

theorem loadOlder_page (filters : EventFilters) (ids : (table.map (·.id)).Nodup) (positive : 1 ≤ pageSize) {cursor : EventsCursor}
    (holds : Representable cursor.beforeOccurredAt) :
    ∃ view shown, loadOlder table filters pageSize (loadMoreQuery cursor) = .ok view ∧
      Page table (filters.query pageSize (some (cursor.beforeOccurredAt, (cursor.beforeId : ℤ))) none) view shown := by
  obtain ⟨view, shown, loaded, page⟩ := loadView_page filters ids positive
    (some (cursor.beforeOccurredAt, (cursor.beforeId : ℤ))) none
  refine ⟨view, shown, ?_, page⟩
  rw [loadOlder, parseEventsCursor_loadMoreQuery holds]
  exact loaded

end Query

/-! ## The walk -/

/-- The order of a listing: time and identifier descend. -/
def rowKey (row : EventRow) : ℤ ×ₗ ℤ := toLex (row.occurredAt, (row.id : ℤ))

section Walk

variable {table : ℕ → List StoredEvent} {filters : EventFilters} {pageSize : ℕ}

/-- What the walk has listed at load `n`, and where it goes on. -/
structure Walked (table : ℕ → List StoredEvent) (filters : EventFilters) (n : ℕ) (walk : PageWalk)
    (shown : List StoredEvent) : Prop where
  listed : walk.listed = shown.map eventRow
  descending : shown.Pairwise fun first second => eventKey second < eventKey first
  sound : ∀ event ∈ shown, event ∈ table n ∧ filters.accepts event = true
  finished : walk.link = none → ∀ event ∈ table 0, filters.accepts event = true → event ∈ shown

/-- A cursor below everything listed, with every first row above it listed. -/
structure Frontier (table : ℕ → List StoredEvent) (filters : EventFilters) (shown : List StoredEvent)
    (cursor : EventsCursor) : Prop where
  representable : Representable cursor.beforeOccurredAt
  below : ∀ event ∈ shown, cursor.key ≤ eventKey event
  covered : ∀ event ∈ table 0, filters.accepts event = true → cursor.key ≤ eventKey event → event ∈ shown

/-- The first page. -/
theorem pageWalk_zero (filters : EventFilters) (ids : ((table 0).map (·.id)).Nodup) (positive : 1 ≤ pageSize) :
    ∃ walk shown, pageWalk table filters pageSize 0 = .ok walk ∧ Walked table filters 0 walk shown ∧
      ∀ link ∈ walk.link, ∃ cursor, link = loadMoreQuery cursor ∧ Frontier table filters shown cursor := by
  obtain ⟨view, shown, loaded, page⟩ := loadView_page filters ids positive none none
  refine ⟨PageWalk.extend ⟨[], none⟩ view, shown, ?_, ⟨?_, page.descending, ?_, ?_⟩, ?_⟩
  · rw [pageWalk, loaded]
    rfl
  · exact (List.nil_append _).trans page.rows
  · intro event inside
    obtain ⟨⟨member, selected⟩, -⟩ := (page.mem_iff event).mp inside
    exact ⟨member, selects_first filters pageSize event ▸ selected⟩
  · intro last event member accepted
    have done : view.nextCursor = none := Option.map_eq_none_iff.mp last
    refine (page.mem_iff event).mpr ⟨⟨member, (selects_first filters pageSize event).trans accepted⟩, ?_⟩
    rw [done]
    exact fun cursor impossible => absurd impossible (Option.not_mem_none cursor)
  · intro link more
    obtain ⟨cursor, next, rfl⟩ := Option.map_eq_some_iff.mp more
    refine ⟨cursor, rfl, page.representable next, ?_, ?_⟩
    · exact fun event inside => ((page.mem_iff event).mp inside).2 cursor next
    · intro event member accepted above
      refine (page.mem_iff event).mpr ⟨⟨member, (selects_first filters pageSize event).trans accepted⟩, ?_⟩
      intro other same
      rwa [Option.mem_unique same next]

/-- The next page goes on right below the cursor, and the cursor descends. -/
theorem PageWalk.next_walked (ids : ∀ n, ((table n).map (·.id)).Nodup) (grows : ∀ n, table n ⊆ table (n + 1))
    (positive : 1 ≤ pageSize) {n : ℕ} {walk : PageWalk} {shown : List StoredEvent}
    (walked : Walked table filters n walk shown) {cursor : EventsCursor} (link : walk.link = some (loadMoreQuery cursor))
    (frontier : Frontier table filters shown cursor) :
    ∃ after shown', walk.next (table (n + 1)) filters pageSize = .ok after ∧ Walked table filters (n + 1) after shown' ∧
      ∀ link ∈ after.link, ∃ lower, link = loadMoreQuery lower ∧ Frontier table filters shown' lower ∧
        lower.key < cursor.key := by
  have initial : table 0 ⊆ table (n + 1) := by
    clear walked
    induction n with
    | zero => exact grows 0
    | succ n ih => exact List.Subset.trans ih (grows (n + 1))
  obtain ⟨view, rows, loaded, page⟩ := loadOlder_page filters (ids (n + 1)) positive frontier.representable
  have mem_rows : ∀ event, event ∈ rows ↔ (event ∈ table (n + 1) ∧ filters.accepts event = true ∧
      eventKey event < cursor.key) ∧ ∀ lower ∈ view.nextCursor, lower.key ≤ eventKey event := by
    intro event
    rw [page.mem_iff, selects_older]
  refine ⟨walk.extend view, shown ++ rows, ?_, ⟨?_, ?_, ?_, ?_⟩, ?_⟩
  · rw [PageWalk.next, link]
    dsimp only
    rw [loaded]
    rfl
  · rw [List.map_append, ← walked.listed, ← page.rows]
    rfl
  · refine List.pairwise_append.mpr ⟨walked.descending, page.descending, ?_⟩
    intro old inside new listed
    exact ((mem_rows new).mp listed).1.2.2.trans_le (frontier.below old inside)
  · intro event inside
    rcases List.mem_append.mp inside with old | new
    · exact ⟨grows n (walked.sound event old).1, (walked.sound event old).2⟩
    · exact ⟨((mem_rows event).mp new).1.1, ((mem_rows event).mp new).1.2.1⟩
  · intro last event member accepted
    have done : view.nextCursor = none := Option.map_eq_none_iff.mp last
    rcases le_or_gt cursor.key (eventKey event) with above | below
    · exact List.mem_append_left _ (frontier.covered event member accepted above)
    · refine List.mem_append_right _ ((mem_rows event).mpr ⟨⟨initial member, accepted, below⟩, ?_⟩)
      rw [done]
      exact fun cursor impossible => absurd impossible (Option.not_mem_none cursor)
  · intro link more
    obtain ⟨lower, next, rfl⟩ := Option.map_eq_some_iff.mp more
    obtain ⟨last, lastMember, lastKey⟩ := page.cursor_mem lower next
    have descends : lower.key < cursor.key := lastKey ▸ ((mem_rows last).mp lastMember).1.2.2
    refine ⟨lower, rfl, ⟨page.representable next, ?_, ?_⟩, descends⟩
    · intro event inside
      rcases List.mem_append.mp inside with old | new
      · exact descends.le.trans (frontier.below event old)
      · exact ((mem_rows event).mp new).2 lower next
    · intro event member accepted above
      rcases le_or_gt cursor.key (eventKey event) with listed | below
      · exact List.mem_append_left _ (frontier.covered event member accepted listed)
      · refine List.mem_append_right _ ((mem_rows event).mpr ⟨⟨initial member, accepted, below⟩, ?_⟩)
        intro other same
        rwa [Option.mem_unique same next]

/-- Every load of the walk answers, and keeps what it has listed. -/
theorem pageWalk_walked (filters : EventFilters) (ids : ∀ n, ((table n).map (·.id)).Nodup) (grows : ∀ n, table n ⊆ table (n + 1))
    (positive : 1 ≤ pageSize) (n : ℕ) :
    ∃ walk shown, pageWalk table filters pageSize n = .ok walk ∧ Walked table filters n walk shown ∧
      ∀ link ∈ walk.link, ∃ cursor, link = loadMoreQuery cursor ∧ Frontier table filters shown cursor := by
  induction n with
  | zero => exact pageWalk_zero filters (ids 0) positive
  | succ n ih =>
    obtain ⟨walk, shown, loaded, walked, frontier⟩ := ih
    cases link : walk.link with
    | none =>
      refine ⟨walk, shown, ?_, { walked with sound := ?_ }, ?_⟩
      · rw [pageWalk, loaded]
        change walk.next (table (n + 1)) filters pageSize = .ok walk
        rw [PageWalk.next, link]
      · exact fun event inside => ⟨grows n (walked.sound event inside).1, (walked.sound event inside).2⟩
      · rw [link]
        exact fun link impossible => absurd impossible (Option.not_mem_none link)
    | some text =>
      obtain ⟨cursor, rfl, reached⟩ := frontier text link
      obtain ⟨after, shown', next, walked', frontier'⟩ := walk.next_walked ids grows positive walked link reached
      refine ⟨after, shown', ?_, walked', ?_⟩
      · rw [pageWalk, loaded]
        exact next
      · intro link more
        obtain ⟨lower, same, frontier, -⟩ := frontier' link more
        exact ⟨lower, same, frontier⟩

/-- The keys of the cursors are pairs of natural numbers, so that the walk cannot descend for ever. -/
theorem pageWalk_ends (ids : ∀ n, ((table n).map (·.id)).Nodup) (grows : ∀ n, table n ⊆ table (n + 1))
    (positive : 1 ≤ pageSize) (place : ℕ ×ₗ ℕ) : ∀ n walk shown cursor,
      pageWalk table filters pageSize n = .ok walk → Walked table filters n walk shown →
      walk.link = some (loadMoreQuery cursor) → Frontier table filters shown cursor →
      place = toLex (cursor.beforeOccurredAt.toNat, cursor.beforeId) →
      ∃ m last, pageWalk table filters pageSize m = .ok last ∧ last.link = none := by
  induction place using WellFoundedLT.induction with
  | ind place ih =>
    intro n walk shown cursor loaded walked link frontier same
    obtain ⟨after, shown', next, walked', frontier'⟩ := walk.next_walked ids grows positive walked link frontier
    have loaded' : pageWalk table filters pageSize (n + 1) = .ok after := by
      rw [pageWalk, loaded]
      exact next
    cases link' : after.link with
    | none => exact ⟨n + 1, after, loaded', link'⟩
    | some text =>
      obtain ⟨lower, rfl, frontier', descends⟩ := frontier' text link'
      refine ih _ ?_ (n + 1) after shown' lower loaded' walked' link' frontier' rfl
      have nonneg := frontier'.representable.1
      rw [same, Prod.Lex.toLex_lt_toLex]
      rw [EventsCursor.key, EventsCursor.key, Prod.Lex.toLex_lt_toLex] at descends
      dsimp only at descends ⊢
      omega

/-- An event that the walk has listed has one row. -/
theorem Walked.single_row (ids : ∀ n, ((table n).map (·.id)).Nodup) {n : ℕ} {walk : PageWalk}
    {shown : List StoredEvent} (walked : Walked table filters n walk shown) {event : StoredEvent}
    (member : event ∈ shown) : (walk.listed.filter fun row => row.id == event.id) = [eventRow event] := by
  have unique : (shown.map (·.id)).Nodup := by
    apply List.Nodup.map_on
    · intro first firstMember second secondMember same
      exact List.inj_on_of_nodup_map (ids n) (walked.sound first firstMember).1 (walked.sound second secondMember).1 same
    · refine walked.descending.imp ?_
      rintro first second order rfl
      exact lt_irrefl _ order
  have rows : ((shown.flatMap fun other => [eventRow other]).filter fun row => row.id == event.id) = [eventRow event] :=
    List.filter_flatMap_of_unique_key unique
      (fun other _ row inside => congrArg EventRow.id (List.mem_singleton.mp inside)) member
  rwa [← List.map_eq_flatMap, ← walked.listed] at rows

end Walk

/-- Keyset pagination with inserts between the loads: what is listed descends and comes from the table, a walk
whose button is gone has listed each matching first event once, and every walk gets there. -/
theorem events_pagination_lists_once (table : ℕ → List StoredEvent) (filters : EventFilters) (pageSize : ℕ)
    (positive : 1 ≤ pageSize) (ids : ∀ n, ((table n).map (·.id)).Nodup) (grows : ∀ n, table n ⊆ table (n + 1)) :
    (∀ n, ∃ walk, pageWalk table filters pageSize n = .ok walk ∧
      (walk.listed.Pairwise fun first second => rowKey second < rowKey first) ∧
      (∀ row ∈ walk.listed, ∃ event ∈ table n, filters.accepts event = true ∧ row = eventRow event) ∧
      (walk.link = none → ∀ event ∈ table 0, filters.accepts event = true →
        (walk.listed.filter fun row => row.id == event.id) = [eventRow event])) ∧
    ∃ n walk, pageWalk table filters pageSize n = .ok walk ∧ walk.link = none := by
  constructor
  · intro n
    obtain ⟨walk, shown, loaded, walked, -⟩ := pageWalk_walked filters ids grows positive n
    refine ⟨walk, loaded, ?_, ?_, ?_⟩
    · rw [walked.listed]
      exact List.pairwise_map.mpr walked.descending
    · intro row inside
      rw [walked.listed] at inside
      obtain ⟨event, member, rfl⟩ := List.mem_map.mp inside
      exact ⟨event, (walked.sound event member).1, (walked.sound event member).2, rfl⟩
    · exact fun last event member accepted => walked.single_row ids (walked.finished last event member accepted)
  · obtain ⟨walk, shown, loaded, walked, frontier⟩ := pageWalk_zero filters (ids 0) positive
    cases link : walk.link with
    | none => exact ⟨0, walk, loaded, link⟩
    | some text =>
      obtain ⟨cursor, rfl, reached⟩ := frontier text link
      obtain ⟨m, last, found, ended⟩ := pageWalk_ends ids grows positive _ 0 walk shown cursor loaded walked link reached rfl
      exact ⟨m, last, found, ended⟩

section Example

/-- An event whose row does not matter beyond its key and its category. -/
def sampleEvent (id : ℕ) (occurredAt : ℤ) (holds : Representable occurredAt) : StoredEvent where
  id := id
  occurredAt := occurredAt
  severity := "info"
  category := "system"
  subject := "Controller"
  summary := "sample"
  operatorUsername := none
  representable := holds

/-- Two events of one instant, and a third one of that instant that comes after the first load. -/
def tiedTables (n : ℕ) : List StoredEvent :=
  [sampleEvent 1 1500000 (by decide), sampleEvent 2 1500000 (by decide)] ++
    if n = 0 then [] else [sampleEvent 3 1500000 (by decide)]

theorem events_pagination_lists_once_tied :
    (∀ n, ∃ walk, pageWalk tiedTables ⟨[" system "], []⟩ 1 n = .ok walk ∧
      (walk.listed.Pairwise fun first second => rowKey second < rowKey first) ∧
      (∀ row ∈ walk.listed, ∃ event ∈ tiedTables n, EventFilters.accepts ⟨[" system "], []⟩ event = true ∧
        row = eventRow event) ∧
      (walk.link = none → ∀ event ∈ tiedTables 0, EventFilters.accepts ⟨[" system "], []⟩ event = true →
        (walk.listed.filter fun row => row.id == event.id) = [eventRow event])) ∧
    ∃ n walk, pageWalk tiedTables ⟨[" system "], []⟩ 1 n = .ok walk ∧ walk.link = none := by
  apply events_pagination_lists_once tiedTables ⟨[" system "], []⟩ 1 le_rfl
  · intro n
    cases n with
    | zero => decide
    | succ n =>
      change ([1, 2, 3] : List ℕ).Nodup
      decide
  · intro n event member
    rcases List.mem_append.mp member with first | later
    · exact List.mem_append_left _ first
    · cases n with
      | zero => cases later
      | succ n => exact List.mem_append_right _ later

end Example

end MegaraidDashboard.Web
