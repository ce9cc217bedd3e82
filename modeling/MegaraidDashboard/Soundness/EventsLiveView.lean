import MegaraidDashboard.Soundness.EventsPagination

/-! # The live view of events

The page holds the events up to the identifier of its poller and down to the cursor of its button. A poll that
finds more than a page drops the rest, and one whose newest event was not inserted last asks for some of its
events again, since it goes on with the identifier of its first row.
-/

namespace MegaraidDashboard.Web

open Services.Events Timestamp

/-! ## The poller's link -/

theorem parseEventsSince_pollerQuery (since : ℕ) :
    parseEventsSince (Py.queryParam (pollerQuery since) "since") = .ok (some (since : ℤ)) := by
  have link : pollerQuery since = String.ofList ("since".toList ++ '=' :: (toString since).toList) := by
    rw [pollerQuery]
    generalize toString since = text
    apply String.toList_inj.mp
    simp
  have whole : '&' ∉ "since".toList ++ '=' :: (toString since).toList := by
    intro inside
    rcases List.mem_append.mp inside with name | value
    · exact absurd name (by decide)
    · rcases List.mem_cons.mp value with equals | value
      · exact absurd equals (by decide)
      · exact (toString_separators _ _ value).1 rfl
  have name : Py.unquotePlus (String.ofList "since".toList) = "since" := by decide
  have parsed : Py.parseQuery (pollerQuery since) = [("since", toString since)] := by
    rw [link, Py.parseQuery_single (by decide) whole, name, String.ofList_toList, unquotePlus_toString]
  have value : Py.queryParam (pollerQuery since) "since" = some (toString since) := by
    rw [Py.queryParam, parsed]
    rfl
  rw [value, parseEventsSince]
  simp only [Py.parseInt_toString]
  exact if_neg (by omega)

/-! ## The page -/

/-- The links of the page, and what it shows between them. -/
structure Live (live : LiveView) (shown : List StoredEvent) (since : ℕ) (cursor : Option EventsCursor) : Prop where
  ids : TableIds live.table
  rows : live.shown = shown.map eventRow
  single : shown.Nodup
  poller : live.poller = pollerQuery since
  older : live.older = cursor.map loadMoreQuery
  representable : ∀ last ∈ cursor, Representable last.beforeOccurredAt
  mem_iff : ∀ event, event ∈ shown ↔ (event ∈ live.table ∧ live.filters.accepts event = true) ∧ event.id ≤ since ∧
    ∀ last ∈ cursor, last.key ≤ eventKey event
  fresh : ∀ event ∈ live.table, live.filters.accepts event = true → since < event.id →
    ∀ last ∈ cursor, last.key ≤ eventKey event
  known : since < nextEventId live.table
  empty : since = 0 → cursor = none
  polled : ∀ event ∈ live.polled, event ∈ live.table ∧ (live.filters.accepts event = true → event.id ≤ since)

section Invariant

variable {live : LiveView} {shown : List StoredEvent} {since : ℕ} {cursor : Option EventsCursor}

theorem Live.since_eq (state : Live live shown since cursor) : live.since = since := by
  rw [LiveView.since, state.poller, parseEventsSince_pollerQuery]

theorem Live.showsOnce (state : Live live shown since cursor) : live.ShowsOnce := by
  constructor
  · rw [state.rows, List.map_map]
    apply List.Nodup.map_on _ state.single
    intro first firstMember second secondMember same
    exact List.inj_on_of_nodup_map state.ids.unique ((state.mem_iff first).mp firstMember).1.1
      ((state.mem_iff second).mp secondMember).1.1 same
  · intro ended event member accepted
    obtain ⟨inTable, small⟩ := state.polled event member
    have done : cursor = none := by
      rw [state.older] at ended
      exact Option.map_eq_none_iff.mp ended
    rw [state.rows]
    refine List.mem_map_of_mem ((state.mem_iff event).mpr ⟨⟨inTable, accepted⟩, small accepted, ?_⟩)
    rw [done]
    exact fun last impossible => absurd impossible (Option.not_mem_none last)

theorem lt_nextEventId {table : List StoredEvent} {event : StoredEvent} (member : event ∈ table) :
    event.id < nextEventId table :=
  Nat.lt_succ_of_le (List.le_of_max?_eq_some List.max?_cons' (List.mem_cons_of_mem 0 (List.mem_map_of_mem member)))

theorem nextEventId_concat (table : List StoredEvent) (event : StoredEvent) :
    nextEventId (table ++ [{ event with id := nextEventId table }]) = nextEventId table + 1 := by
  rw [nextEventId, List.map_append, List.foldl_append]
  change max ((table.map (·.id)).foldl max 0) ((table.map (·.id)).foldl max 0 + 1) + 1 = nextEventId table + 1
  rw [Nat.max_eq_right (Nat.le_succ _)]
  rfl

/-- The first row of a page is its newest event. -/
theorem latestEventId_of_page {table : List StoredEvent} {query : FragmentQuery} {view : EventsFragmentViewModel}
    (page : Page table query view shown) (last : NewestLast (table.filter query.selects)) (done : shown ≠ []) :
    (∀ event ∈ table, query.selects event = true → event.id ≤ view.latestEventId) ∧
      ∃ top ∈ table, top.id = view.latestEventId := by
  cases shown with
  | nil => exact absurd rfl done
  | cons top rest =>
    have latest : view.latestEventId = top.id := by
      rw [EventsFragmentViewModel.latestEventId, page.rows]
      rfl
    obtain ⟨⟨topMember, topSelected⟩, -⟩ := (page.mem_iff top).mp List.mem_cons_self
    have newest : ∀ event ∈ table.filter query.selects, eventKey event ≤ eventKey top := by
      intro event member
      obtain ⟨inTable, selected⟩ := List.mem_filter.mp member
      by_cases listed : event ∈ top :: rest
      · rcases List.mem_cons.mp listed with rfl | below
        · exact le_rfl
        · exact ((List.pairwise_cons.mp page.descending).1 event below).le
      · -- an event behind the page is below its cursor
        have hidden : ¬∀ cursor ∈ view.nextCursor, cursor.key ≤ eventKey event := fun reached =>
          listed ((page.mem_iff event).mpr ⟨⟨inTable, selected⟩, reached⟩)
        push Not at hidden
        obtain ⟨cursor, next, below⟩ := hidden
        exact below.le.trans (((page.mem_iff top).mp List.mem_cons_self).2 cursor next)
    rw [latest]
    refine ⟨fun event member selected => ?_, top, topMember, rfl⟩
    exact last top (List.mem_filter.mpr ⟨topMember, topSelected⟩) newest event (List.mem_filter.mpr ⟨member, selected⟩)

/-- The full page. -/
theorem live_of_page {table : List StoredEvent} (ids : TableIds table) {filters : EventFilters}
    {view : EventsFragmentViewModel} (page : Page table (filters.query eventsPageSize none none) view shown)
    (last : NewestLast (table.filter filters.accepts)) :
    Live ⟨table, filters, view.events, view.nextCursor.map loadMoreQuery, pollerQuery view.latestEventId, table⟩ shown
      view.latestEventId view.nextCursor := by
  have selects : (filters.query eventsPageSize none none).selects = filters.accepts :=
    funext (selects_first filters eventsPageSize)
  have all : ∀ event ∈ table, filters.accepts event = true → event.id ≤ view.latestEventId := by
    intro event member accepted
    cases shown with
    | nil =>
      have hidden : ¬∀ cursor ∈ view.nextCursor, cursor.key ≤ eventKey event := fun reached =>
        absurd ((page.mem_iff event).mpr ⟨⟨member, selects ▸ accepted⟩, reached⟩) List.not_mem_nil
      push Not at hidden
      obtain ⟨cursor, next, -⟩ := hidden
      obtain ⟨row, impossible, -⟩ := page.cursor_mem cursor next
      cases impossible
    | cons top rest =>
      exact (latestEventId_of_page page (selects ▸ last) (List.cons_ne_nil top rest)).1 event member (selects ▸ accepted)
  have known : view.latestEventId < nextEventId table := by
    cases shown with
    | nil =>
      rw [EventsFragmentViewModel.latestEventId, page.rows]
      exact Nat.succ_pos _
    | cons top rest =>
      obtain ⟨event, member, same⟩ :=
        (latestEventId_of_page page (selects ▸ last) (List.cons_ne_nil top rest)).2
      rw [← same]
      exact lt_nextEventId member
  constructor
  · exact ids
  · exact page.rows
  · exact page.descending.imp fun order same => absurd order (by rw [same]; exact lt_irrefl _)
  · rfl
  · rfl
  · exact fun cursor next => page.representable next
  · intro event
    rw [page.mem_iff, selects]
    constructor
    · rintro ⟨⟨member, accepted⟩, reached⟩
      exact ⟨⟨member, accepted⟩, all event member accepted, reached⟩
    · rintro ⟨matched, -, reached⟩
      exact ⟨matched, reached⟩
  · intro event member accepted late
    exact absurd (all event member accepted) (not_le.mpr late)
  · exact known
  · intro zero
    rw [Option.eq_none_iff_forall_not_mem]
    intro cursor next
    obtain ⟨row, inside, -⟩ := page.cursor_mem cursor next
    obtain ⟨⟨member, accepted⟩, -⟩ := (page.mem_iff row).mp inside
    have small := all row member (selects ▸ accepted)
    have positive := ids.positive row member
    omega
  · exact fun event member => ⟨member, all event member⟩

/-- The rows that a poll puts above the list are the pending ones. -/
theorem Live.prepend (state : Live live shown since cursor) (last : NewestLast live.pending)
    (few : live.pending.length ≤ eventsPageSize) :
    ∃ after shown' since', live.prepend since = .ok after ∧ Live after shown' since' cursor := by
  have positive : 1 ≤ eventsPageSize := by decide
  obtain ⟨view, rows, loaded, page⟩ := loadView_page live.filters state.ids.unique positive none (some (since : ℤ))
  have selects : ∀ event, (live.filters.query eventsPageSize none (some (since : ℤ))).selects event = true ↔
      live.filters.accepts event = true ∧ since < event.id := by
    intro event
    rw [selects_since, Int.ofNat_lt]
  have pending : live.pending = live.table.filter (live.filters.query eventsPageSize none (some (since : ℤ))).selects := by
    apply List.filter_congr
    intro event _
    rw [Bool.eq_iff_iff, selects_since, state.since_eq, Bool.and_eq_true, decide_eq_true_eq]
  have whole : view.nextCursor = none := by
    rw [Option.eq_none_iff_forall_not_mem]
    intro next more
    have long := page.more next more
    rw [FragmentQuery.ordered, List.length_insertionSort, ← pending] at long
    exact absurd long (not_lt.mpr few)
  have mem_rows : ∀ event, event ∈ rows ↔ event ∈ live.table ∧ live.filters.accepts event = true ∧ since < event.id := by
    intro event
    rw [page.mem_iff, selects, whole]
    simp
  rw [pending] at last
  have newest : (∀ event ∈ live.table, live.filters.accepts event = true →
      event.id ≤ max since view.latestEventId) ∧ max since view.latestEventId < nextEventId live.table := by
    cases rows with
    | nil =>
      have none_ : view.latestEventId = 0 := by
        rw [EventsFragmentViewModel.latestEventId, page.rows]
        rfl
      refine ⟨fun event member accepted => ?_, by rw [none_, Nat.max_zero]; exact state.known⟩
      by_contra late
      have waiting : since < event.id := by omega
      exact absurd ((mem_rows event).mpr ⟨member, accepted, waiting⟩) List.not_mem_nil
    | cons top rest =>
      obtain ⟨bound, event, member, same⟩ := latestEventId_of_page page last (List.cons_ne_nil top rest)
      refine ⟨fun event member accepted => ?_, max_lt state.known (same ▸ lt_nextEventId member)⟩
      rcases Nat.lt_or_ge since event.id with waiting | old
      · exact (bound event member ((selects event).mpr ⟨accepted, waiting⟩)).trans (Nat.le_max_right _ _)
      · exact old.trans (Nat.le_max_left _ _)
  refine ⟨{ live with
    shown := view.events ++ live.shown
    poller := pollerQuery (max since view.latestEventId)
    polled := live.table }, rows ++ shown, max since view.latestEventId, ?_, ?_⟩
  · rw [LiveView.prepend, loaded]
    rfl
  constructor
  · exact state.ids
  · change view.events ++ live.shown = _
    rw [page.rows, state.rows, List.map_append]
  · refine List.nodup_append'.mpr ⟨?_, state.single, ?_⟩
    · exact page.descending.imp fun order same => absurd order (by rw [same]; exact lt_irrefl _)
    · intro event new old
      have late := ((mem_rows event).mp new).2.2
      have early := ((state.mem_iff event).mp old).2.1
      omega
  · rfl
  · exact state.older
  · exact state.representable
  · intro event
    rw [List.mem_append, mem_rows, state.mem_iff]
    constructor
    · rintro (⟨member, accepted, late⟩ | ⟨matched, early, reached⟩)
      · exact ⟨⟨member, accepted⟩, newest.1 event member accepted, state.fresh event member accepted late⟩
      · exact ⟨matched, early.trans (Nat.le_max_left _ _), reached⟩
    · rintro ⟨⟨member, accepted⟩, -, reached⟩
      rcases Nat.lt_or_ge since event.id with late | early
      · exact .inl ⟨member, accepted, late⟩
      · exact .inr ⟨⟨member, accepted⟩, early, reached⟩
  · intro event member accepted late
    exact state.fresh event member accepted ((Nat.le_max_left _ _).trans_lt late)
  · exact newest.2
  · intro zero
    exact state.empty (by omega)
  · exact fun event member => ⟨member, newest.1 event member⟩

theorem Live.refresh (state : Live live shown since cursor) (last : NewestLast live.pending)
    (few : 0 < since → live.pending.length ≤ eventsPageSize) :
    ∃ after shown' since' cursor', live.refresh = .ok after ∧ Live after shown' since' cursor' := by
  have positive : 1 ≤ eventsPageSize := by decide
  rw [LiveView.refresh, state.poller, parseEventsSince_pollerQuery]
  change ∃ after shown' since' cursor', (if (since : ℤ) = 0 then _ else live.prepend since) = _ ∧ _
  rcases Nat.eq_zero_or_pos since with zero | waiting
  · rw [if_pos (Int.natCast_eq_zero.mpr zero)]
    have all : live.pending = live.table.filter live.filters.accepts := by
      apply List.filter_congr
      intro event member
      have started := state.ids.positive event member
      have waiting : live.since < (event.id : ℤ) := by
        rw [state.since_eq]
        omega
      rw [decide_eq_true waiting, Bool.and_true]
    obtain ⟨view, rows, loaded, page⟩ := loadView_page live.filters state.ids.unique positive none none
    rw [loaded]
    change ∃ after shown' since' cursor', (if view.events = [] then live.prepend since else _) = _ ∧ _
    by_cases nothing : view.events = []
    · rw [if_pos nothing]
      have none_ : live.pending.length ≤ eventsPageSize := by
        have quiet : live.pending = [] := by
          rw [all, List.filter_eq_nil_iff]
          intro event member accepted
          have rows_nil : rows = [] := by
            rw [page.rows] at nothing
            exact List.map_eq_nil_iff.mp nothing
          have hidden : ¬∀ next ∈ view.nextCursor, next.key ≤ eventKey event := by
            intro reached
            have inside := (page.mem_iff event).mpr ⟨⟨member, (selects_first _ _ event).trans accepted⟩, reached⟩
            rw [rows_nil] at inside
            cases inside
          push Not at hidden
          obtain ⟨next, more, -⟩ := hidden
          obtain ⟨row, impossible, -⟩ := page.cursor_mem next more
          rw [rows_nil] at impossible
          cases impossible
        rw [quiet]
        exact Nat.zero_le _
      obtain ⟨after, shown', since', done, state'⟩ := state.prepend last none_
      exact ⟨after, shown', since', cursor, done, state'⟩
    · rw [if_neg nothing]
      refine ⟨_, rows, view.latestEventId, view.nextCursor, rfl, ?_⟩
      have next := live_of_page state.ids page (all ▸ last)
      have known : max (since : ℤ).toNat view.latestEventId = view.latestEventId := by
        rw [Int.toNat_natCast, zero, Nat.zero_max]
      rw [known]
      exact next
  · rw [if_neg (by omega)]
    obtain ⟨after, shown', since', done, state'⟩ := state.prepend last (few waiting)
    exact ⟨after, shown', since', cursor, done, state'⟩

/-- The button goes on behind the last row; everything that it lists is known to the poller. -/
theorem Live.loadOlder (state : Live live shown since cursor) :
    ∃ after shown' cursor', live.loadOlder = .ok after ∧ Live after shown' since cursor' := by
  have positive : 1 ≤ eventsPageSize := by decide
  cases cursor with
  | none =>
    refine ⟨live, shown, none, ?_, state⟩
    rw [LiveView.loadOlder, state.older]
    rfl
  | some last =>
    have holds := state.representable last rfl
    obtain ⟨view, rows, loaded, page⟩ := loadOlder_page live.filters state.ids.unique positive holds
    have mem_rows : ∀ event, event ∈ rows ↔ (event ∈ live.table ∧ live.filters.accepts event = true ∧
        eventKey event < last.key) ∧ ∀ lower ∈ view.nextCursor, lower.key ≤ eventKey event := by
      intro event
      rw [page.mem_iff, selects_older]
    have descends : ∀ lower ∈ view.nextCursor, lower.key < last.key := by
      intro lower next
      obtain ⟨row, inside, same⟩ := page.cursor_mem lower next
      exact same ▸ ((mem_rows row).mp inside).1.2.2
    have above : ∀ event, event ∈ shown → last.key ≤ eventKey event := fun event inside =>
      ((state.mem_iff event).mp inside).2.2 last rfl
    refine ⟨{ live with
      shown := live.shown ++ view.events
      older := view.nextCursor.map loadMoreQuery }, shown ++ rows, view.nextCursor, ?_, ?_⟩
    · rw [LiveView.loadOlder, state.older]
      change (Web.loadOlder live.table live.filters eventsPageSize (loadMoreQuery last)).bind _ = _
      rw [loaded]
      rfl
    constructor
    · exact state.ids
    · change live.shown ++ view.events = _
      rw [page.rows, state.rows, List.map_append]
    · refine List.nodup_append'.mpr ⟨state.single, ?_, ?_⟩
      · exact page.descending.imp fun order same => absurd order (by rw [same]; exact lt_irrefl _)
      · intro event old new
        exact absurd (above event old) (not_le.mpr ((mem_rows event).mp new).1.2.2)
    · exact state.poller
    · rfl
    · exact fun lower next => page.representable next
    · intro event
      rw [List.mem_append]
      constructor
      · rintro (old | new)
        · obtain ⟨matched, early, -⟩ := (state.mem_iff event).mp old
          exact ⟨matched, early, fun lower next => ((descends lower next).le.trans (above event old))⟩
        · obtain ⟨⟨member, accepted, below⟩, reached⟩ := (mem_rows event).mp new
          refine ⟨⟨member, accepted⟩, ?_, reached⟩
          by_contra late
          exact absurd (state.fresh event member accepted (not_le.mp late) last rfl) (not_le.mpr below)
      · rintro ⟨⟨member, accepted⟩, early, reached⟩
        rcases le_or_gt last.key (eventKey event) with beyond | below
        · refine .inl ((state.mem_iff event).mpr ⟨⟨member, accepted⟩, early, ?_⟩)
          intro other same
          rwa [Option.mem_unique same rfl]
        · exact .inr ((mem_rows event).mpr ⟨⟨member, accepted, below⟩, reached⟩)
    · intro event member accepted late lower next
      exact (descends lower next).le.trans (state.fresh event member accepted late last rfl)
    · exact state.known
    · intro zero
      exact absurd (state.empty zero) (Option.some_ne_none last)
    · exact state.polled

/-- A new event is the poller's business: it has a greater identifier, and the button is not to list it. -/
theorem Live.insert (state : Live live shown since cursor) {event : StoredEvent}
    (above : live.Orderly (.insert event)) : Live (live.step (.insert event)) shown since cursor := by
  have known : nextEventId (live.step (.insert event)).table = nextEventId live.table + 1 :=
    nextEventId_concat live.table event
  have reached : live.filters.accepts event = true → ∀ last ∈ cursor,
      last.key ≤ eventKey { event with id := nextEventId live.table } := by
    intro accepted last same
    have visible := above accepted
    rw [LiveView.behindButton, state.older, Option.mem_def.mp same] at visible
    simp only [Option.map_some, Option.any_some, parseEventsCursor_loadMoreQuery (state.representable last same)] at visible
    rw [← not_lt, ← beforeCursor_iff, visible]
    exact Bool.false_ne_true
  constructor
  · constructor
    · change (List.map (fun other : StoredEvent => other.id) (live.table ++ [{ event with id := nextEventId live.table }])).Nodup
      rw [List.map_append, List.map_singleton]
      refine List.nodup_append'.mpr ⟨state.ids.unique, List.nodup_singleton _, ?_⟩
      intro id old new
      obtain ⟨other, member, rfl⟩ := List.mem_map.mp old
      exact absurd (lt_nextEventId member) (not_lt.mpr (List.mem_singleton.mp new).ge)
    · intro other member
      rcases List.mem_append.mp member with old | new
      · exact state.ids.positive other old
      · rw [List.mem_singleton.mp new]
        exact Nat.succ_pos _
  · exact state.rows
  · exact state.single
  · exact state.poller
  · exact state.older
  · exact state.representable
  · intro other
    rw [state.mem_iff]
    constructor
    · rintro ⟨⟨member, accepted⟩, early, reached⟩
      exact ⟨⟨List.mem_append_left _ member, accepted⟩, early, reached⟩
    · rintro ⟨⟨member, accepted⟩, early, reached⟩
      rcases List.mem_append.mp member with old | new
      · exact ⟨⟨old, accepted⟩, early, reached⟩
      · have late := state.known
        rw [List.mem_singleton.mp new] at early
        exact absurd early (not_le.mpr late)
  · intro other member accepted late
    rcases List.mem_append.mp member with old | new
    · exact state.fresh other old accepted late
    · have same := List.mem_singleton.mp new
      subst same
      exact reached accepted
  · rw [known]
    exact state.known.trans (Nat.lt_succ_self _)
  · exact state.empty
  · exact fun other member => ⟨List.mem_append_left _ (state.polled other member).1, (state.polled other member).2⟩

/-- The page and its links agree. -/
def LiveView.Consistent (live : LiveView) : Prop := ∃ shown since cursor, Live live shown since cursor

/-- An orderly step keeps the page and its links in agreement. -/
theorem Live.step (state : Live live shown since cursor) {label : LiveStep} (orderly : live.Orderly label) :
    (live.step label).Consistent := by
  cases label with
  | insert event => exact ⟨shown, since, cursor, state.insert orderly⟩
  | refresh =>
    obtain ⟨last, few⟩ := orderly
    rw [state.since_eq] at few
    obtain ⟨after, shown', since', cursor', done, state'⟩ := state.refresh last fun waiting => few (Int.natCast_pos.mpr waiting)
    refine ⟨shown', since', cursor', ?_⟩
    rw [LiveView.step, done]
    exact state'
  | loadOlder =>
    obtain ⟨after, shown', cursor', done, state'⟩ := state.loadOlder
    refine ⟨shown', since, cursor', ?_⟩
    rw [LiveView.step, done]
    exact state'

end Invariant

/-- The page shows every matching event once, as long as its steps are orderly. -/
theorem live_view_shows_once (table : List StoredEvent) (filters : EventFilters) (live : LiveView)
    (steps : List LiveStep) (ids : TableIds table) (last : NewestLast (table.filter filters.accepts))
    (opened : LiveView.open table filters = .ok live) (orderly : Machine.Guarded LiveView.step LiveView.Orderly live steps) :
    (steps.foldl LiveView.step live).ShowsOnce := by
  have positive : 1 ≤ eventsPageSize := by decide
  obtain ⟨view, rows, loaded, page⟩ := loadView_page filters ids.unique positive none none
  have start : live = ⟨table, filters, view.events, view.nextCursor.map loadMoreQuery, pollerQuery view.latestEventId, table⟩ := by
    rw [LiveView.open, loaded] at opened
    exact (Except.ok.inj opened).symm
  have first : live.Consistent := ⟨rows, view.latestEventId, view.nextCursor, start ▸ live_of_page ids page last⟩
  have kept : (steps.foldl LiveView.step live).Consistent := by
    apply orderly.invariant first
    rintro state label ⟨shown, since, cursor, inv⟩ ok
    exact inv.step ok
  obtain ⟨shown, since, cursor, final⟩ := kept
  exact final.showsOnce

section Example

/-- The page over the given table, without filters. -/
def samplePage (table : List StoredEvent) : LiveView :=
  (LiveView.open table ⟨[], []⟩).toOption.getD ⟨table, ⟨[], []⟩, [], none, pollerQuery 0, table⟩

def sampleInsert (seconds : ℕ) (holds : Representable (seconds * second)) : LiveStep :=
  .insert (sampleEvent 0 (seconds * second) holds)

/-- An insertion and a poll, a tie, and one more poll. -/
def orderlySteps : List LiveStep :=
  [sampleInsert 5 (by decide), .refresh, sampleInsert 6 (by decide), sampleInsert 6 (by decide), .refresh, .loadOlder]

theorem live_view_shows_once_ties : (orderlySteps.foldl LiveView.step (samplePage [])).ShowsOnce :=
  live_view_shows_once [] ⟨[], []⟩ (samplePage []) orderlySteps ⟨by decide, by decide⟩ (by decide) rfl
    (by decide +kernel)

/-- More than a page of events between two polls: the poll goes on behind events that it has not shown. -/
def burst : List LiveStep := List.replicate (eventsPageSize + 1) (sampleInsert 6 (by decide)) ++ [.refresh]

/-- A late timestamp: the second event stands below the first one, whose identifier the poller keeps. -/
def lateStamp : List LiveStep := [sampleInsert 6 (by decide), sampleInsert 5 (by decide), .refresh, .refresh]

/-- A burst loses an event, and a late timestamp shows one twice. -/
theorem live_view_misses_and_repeats :
    ¬((burst.foldl LiveView.step (samplePage [sampleEvent 1 second (by decide)])).ShowsOnce) ∧
      ¬((lateStamp.foldl LiveView.step (samplePage [])).ShowsOnce) := by
  constructor
  · decide +kernel
  · decide +kernel

end Example

end MegaraidDashboard.Web
