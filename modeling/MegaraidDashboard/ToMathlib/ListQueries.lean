import Mathlib.Data.List.MinMax
import Mathlib.Data.List.Pairwise
import Mathlib.Data.List.Sort

/-! # Queries over rows in insertion order

`latest?` is `ORDER BY time DESC, id DESC LIMIT 1`: among the entries with the greatest time, the
last one. A lookup by a unique key finds the only row that carries it. `orderBy` is `ORDER BY key`.
-/

namespace List

section Lookup

variable {α κ : Type*} [BEq κ] [LawfulBEq κ]

/-- A lookup by a key that no two entries share. -/
theorem find?_key_of_mem {key : α → κ} {entries : List α} {entry : α}
    (unique : (entries.map key).Nodup) (member : entry ∈ entries) :
    (entries.find? fun other => key other == key entry) = some entry := by
  induction entries with
  | nil => cases member
  | cons first rest ih =>
    obtain ⟨fresh, unique⟩ := nodup_cons.mp unique
    rcases mem_cons.mp member with rfl | later
    · exact find?_cons_of_pos (by simp)
    · have other : key first ≠ key entry := fun same => fresh (same ▸ mem_map_of_mem later)
      rw [find?_cons, beq_eq_false_iff_ne.mpr other]
      exact ih unique later

/-- The outputs of one entry among all outputs, when every output names the key of its entry and no
two entries share a key. -/
theorem filter_flatMap_of_unique_key {β : Type*} {key : α → κ} {output : β → κ} {f : α → List β}
    {entries : List α} {entry : α} (unique : (entries.map key).Nodup)
    (names : ∀ other ∈ entries, ∀ out ∈ f other, output out = key other) (member : entry ∈ entries) :
    (entries.flatMap f).filter (fun out => output out == key entry) = f entry := by
  induction entries with
  | nil => cases member
  | cons first rest ih =>
    obtain ⟨fresh, unique⟩ := nodup_cons.mp unique
    have namesRest : ∀ other ∈ rest, ∀ out ∈ f other, output out = key other :=
      fun other inside => names other (mem_cons_of_mem _ inside)
    rw [flatMap_cons, filter_append]
    rcases mem_cons.mp member with rfl | later
    · have own : (f entry).filter (fun out => output out == key entry) = f entry := by
        apply filter_eq_self.mpr
        intro out inside
        exact beq_iff_eq.mpr (names entry mem_cons_self out inside)
      have others : (rest.flatMap f).filter (fun out => output out == key entry) = [] := by
        apply filter_eq_nil_iff.mpr
        intro out inside same
        obtain ⟨other, otherMember, made⟩ := mem_flatMap.mp inside
        apply fresh
        rw [← beq_iff_eq.mp same, namesRest other otherMember out made]
        exact mem_map_of_mem otherMember
      rw [own, others, append_nil]
    · have others : (f first).filter (fun out => output out == key entry) = [] := by
        apply filter_eq_nil_iff.mpr
        intro out inside same
        apply fresh
        rw [← names first mem_cons_self out inside, beq_iff_eq.mp same]
        exact mem_map_of_mem later
      rw [others, nil_append]
      exact ih unique namesRest later

end Lookup

section Latest

variable {α β : Type*} [LinearOrder β]

/-- The last entry among those with the greatest time. -/
def latest? (time : α → β) (entries : List α) : Option α := entries.reverse.argmax time

theorem latest?_mem {time : α → β} {entries : List α} {entry : α}
    (found : entries.latest? time = some entry) : entry ∈ entries :=
  mem_reverse.mp (argmax_mem found)

theorem le_of_latest? {time : α → β} {entries : List α} {entry other : α}
    (found : entries.latest? time = some entry) (member : other ∈ entries) : time other ≤ time entry :=
  le_of_mem_argmax (mem_reverse.mpr member) found

@[simp] theorem latest?_eq_none {time : α → β} {entries : List α} :
    entries.latest? time = none ↔ entries = [] := by
  rw [latest?, argmax_eq_none, reverse_eq_nil_iff]

/-- An appended entry that is not older than the others is the latest one. -/
theorem latest?_concat {time : α → β} {entries : List α} {entry : α}
    (newest : ∀ other ∈ entries, time other ≤ time entry) :
    (entries ++ [entry]).latest? time = some entry := by
  rw [latest?, reverse_append, reverse_singleton, singleton_append, argmax_cons]
  cases found : entries.reverse.argmax time with
  | none => rfl
  | some other =>
    have le := newest other (mem_reverse.mp (argmax_mem found))
    simp only [not_lt.mpr le, ↓reduceIte]

/-- In the order of time the latest entry is the last one. -/
theorem latest?_eq_getLast? {time : α → β} {entries : List α}
    (sorted : entries.Pairwise fun first second => time first ≤ time second) :
    entries.latest? time = entries.getLast? := by
  cases entries using List.reverseRecOn with
  | nil => rfl
  | append_singleton earlier last =>
    rw [getLast?_concat]
    exact latest?_concat fun other member =>
      (pairwise_append.mp sorted).2.2 other member last (mem_singleton_self last)

theorem latest?_concat_eq {time : α → β} (entries : List α) (entry : α) :
    (entries ++ [entry]).latest? time = some ((entries.latest? time).elim entry fun other =>
      if time entry < time other then other else entry) := by
  rw [latest?, reverse_append, reverse_singleton, singleton_append, argmax_cons]
  cases found : entries.latest? time with
  | none =>
    rw [latest?] at found
    rw [found]
    rfl
  | some other =>
    rw [latest?] at found
    rw [found]
    exact (apply_ite some _ _ _).symm

/-- Where the latest entry stands. -/
theorem latest?_split {time : α → β} {entries : List α} {entry : α}
    (found : entries.latest? time = some entry) : ∃ before after, entries = before ++ entry :: after ∧
      (∀ other ∈ before, time other ≤ time entry) ∧ ∀ other ∈ after, time other < time entry := by
  induction entries using List.reverseRecOn with
  | nil => cases found
  | append_singleton entries last ih =>
    rw [latest?_concat_eq] at found
    cases top : entries.latest? time with
    | none =>
      rw [top] at found
      obtain rfl := Option.some.inj found
      rw [latest?_eq_none.mp top]
      exact ⟨[], [], rfl, forall_mem_nil _, forall_mem_nil _⟩
    | some other =>
      rw [top] at found
      have found : (if time last < time other then other else last) = entry := Option.some.inj found
      split_ifs at found with earlier
      · subst found
        obtain ⟨before, after, split, le, lt⟩ := ih top
        refine ⟨before, after ++ [last], by rw [split, append_assoc]; rfl, le, ?_⟩
        intro later member
        rcases mem_append.mp member with old | new
        · exact lt later old
        · rw [mem_singleton.mp new]
          exact earlier
      · subst found
        refine ⟨entries, [], rfl, ?_, forall_mem_nil _⟩
        intro entry member
        exact (le_of_latest? top member).trans (not_lt.mp earlier)

theorem latest?_append_cons {time : α → β} {before after : List α} {entry : α}
    (le : ∀ other ∈ before, time other ≤ time entry) (lt : ∀ other ∈ after, time other < time entry) :
    (before ++ entry :: after).latest? time = some entry := by
  induction after using List.reverseRecOn with
  | nil => exact latest?_concat le
  | append_singleton after last ih =>
    have earlier : time last < time entry := lt last (mem_append_right after (mem_singleton_self last))
    rw [← cons_append, ← append_assoc, latest?_concat_eq, ih fun other member => lt other (mem_append_left _ member),
      Option.elim_some, if_pos earlier]

/-- The latest entry stays the latest one of every selection that keeps it. -/
theorem latest?_filter_of_pos {time : α → β} {keep : α → Bool} {entries : List α} {entry : α}
    (found : entries.latest? time = some entry) (kept : keep entry = true) :
    (entries.filter keep).latest? time = some entry := by
  obtain ⟨before, after, rfl, le, lt⟩ := latest?_split found
  rw [filter_append, filter_cons_of_pos kept]
  exact latest?_append_cons (fun other member => le other (mem_of_mem_filter member))
    fun other member => lt other (mem_of_mem_filter member)

/-- An appended entry that the query leaves out changes nothing. -/
theorem latest?_filter_concat_of_neg {time : α → β} {keep : α → Bool} {entries : List α} {entry : α}
    (dropped : keep entry = false) :
    ((entries ++ [entry]).filter keep).latest? time = (entries.filter keep).latest? time := by
  rw [filter_append, filter_singleton, dropped, cond_false, append_nil]

theorem latest?_filter_concat_of_pos {time : α → β} {keep : α → Bool} {entries : List α} {entry : α}
    (kept : keep entry = true) (newest : ∀ other ∈ entries, time other ≤ time entry) :
    ((entries ++ [entry]).filter keep).latest? time = some entry := by
  rw [filter_append, filter_singleton, kept, cond_true]
  exact latest?_concat fun other member => newest other (mem_of_mem_filter member)

end Latest

section Maximum

variable {α : Type*} [LinearOrder α]

theorem max?_concat (entries : List α) (entry : α) :
    (entries ++ [entry]).max? = some (entries.max?.elim entry (max · entry)) := by
  cases entries with
  | nil => rfl
  | cons first rest =>
    rw [cons_append, max?_cons', max?_cons', foldl_append]
    rfl

theorem le_of_max?_eq_some {entries : List α} {top entry : α} (found : entries.max? = some top)
    (member : entry ∈ entries) : entry ≤ top :=
  (max?_le_iff found).mp le_rfl entry member

/-- Dropping entries from below keeps the greatest one, or leaves none. -/
theorem max?_filter_of_upward {keep : α → Bool} {entries : List α}
    (upward : ∀ low high, keep low = true → low ≤ high → keep high = true) :
    (entries.filter keep).max? = entries.max?.filter keep := by
  cases found : entries.max? with
  | none => rw [max?_eq_none_iff.mp found, filter_nil, max?_nil, Option.filter_none]
  | some top =>
    cases kept : keep top with
    | true =>
      rw [Option.filter_some_pos kept, max?_eq_some_iff]
      refine ⟨mem_filter.mpr ⟨max?_mem found, kept⟩, ?_⟩
      exact fun entry member => le_of_max?_eq_some found (mem_of_mem_filter member)
    | false =>
      rw [Option.filter_some_neg (by simp [kept]), max?_eq_none_iff, filter_eq_nil_iff]
      intro entry member inside
      rw [upward entry top inside (le_of_max?_eq_some found member)] at kept
      cases kept

/-- The greatest entry answers every window that it does not lie above. -/
theorem exists_mem_window_iff {entries : List α} {low high : α} (below : ∀ top ∈ entries.max?, top ≤ high) :
    (∃ entry ∈ entries, low < entry ∧ entry ≤ high) ↔ ∃ top ∈ entries.max?, low < top ∧ top ≤ high := by
  constructor
  · rintro ⟨entry, member, above, -⟩
    obtain ⟨top, found⟩ := Option.isSome_iff_exists.mp (isSome_max?_of_mem member)
    exact ⟨top, found, above.trans_le (le_of_max?_eq_some found member), below top found⟩
  · rintro ⟨top, found, above, within⟩
    exact ⟨top, max?_mem found, above, within⟩

end Maximum

section Order

variable {α β : Type*} [LinearOrder β]

/-- The entries in the order of their keys; entries with one key keep their order. -/
def orderBy (key : α → β) (entries : List α) : List α :=
  entries.insertionSort fun first second => key first ≤ key second

theorem orderBy_perm (key : α → β) (entries : List α) : (entries.orderBy key).Perm entries :=
  perm_insertionSort _ _

@[simp] theorem mem_orderBy {key : α → β} {entries : List α} {entry : α} :
    entry ∈ entries.orderBy key ↔ entry ∈ entries :=
  (orderBy_perm key entries).mem_iff

theorem pairwise_orderBy (key : α → β) (entries : List α) :
    (entries.orderBy key).Pairwise fun first second => key first ≤ key second := by
  have : IsTrans α fun first second => key first ≤ key second := ⟨fun _ _ _ => le_trans⟩
  have : Std.Total fun first second : α => key first ≤ key second := ⟨fun _ _ => le_total _ _⟩
  exact pairwise_insertionSort _ _

/-- Ordered entries stay as they are. -/
theorem orderBy_eq_self {key : α → β} {entries : List α}
    (ordered : entries.Pairwise fun first second => key first ≤ key second) :
    entries.orderBy key = entries :=
  ordered.insertionSort_eq

end Order

section Batch

/-- A member of an ordered list is in the first batch, or a full batch comes before it. -/
theorem mem_take_or_of_pairwise {α : Type*} {before : α → α → Prop} {entries : List α}
    (ordered : entries.Pairwise before) {entry : α} (member : entry ∈ entries) (size : ℕ) :
    entry ∈ entries.take size ∨ (entries.take size).length = size ∧ ∀ other ∈ entries.take size, before other entry := by
  rw [← take_append_drop size entries] at member ordered
  rcases mem_append.mp member with batch | rest
  · exact .inl batch
  · refine .inr ⟨?_, fun other first => (pairwise_append.mp ordered).2.2 other first entry rest⟩
    have positive := length_pos_of_mem rest
    rw [length_drop] at positive
    rw [length_take]
    omega

end Batch

end List
