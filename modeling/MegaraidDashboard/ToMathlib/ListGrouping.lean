import Mathlib.Data.List.AList
import Mathlib.Data.List.Perm.Lattice
import Mathlib.Order.Lattice

/-! # Grouped folds into keyed tables

Mathlib's `AList` is a table with unique keys. A grouped fold scans rows once and keeps one
accumulator per key; an upsert overwrites the table entry of every accumulated key. Both are
characterized by `lookup` alone, so that a client never inspects the order of the entries.
The regrouping lemmas compare a coarse grouping of rows with the finer groups it is made of:
lengths add up and extrema of extrema are extrema of all rows.
-/

namespace List

variable {α κ : Type*} [DecidableEq κ]

/-- Distinct keys cut the rows that carry one of them into disjoint groups. -/
theorem flatMap_filter_key_perm_filter_mem (key : α → κ) (rows : List α) {keys : List κ}
    (unique : keys.Nodup) :
    (keys.flatMap fun k => rows.filter fun row => decide (key row = k)).Perm
      (rows.filter fun row => decide (key row ∈ keys)) := by
  induction keys with
  | nil => simp
  | cons k rest ih =>
    obtain ⟨fresh, unique⟩ := nodup_cons.mp unique
    have cut := filter_append_perm (fun row => decide (key row = k))
      (rows.filter fun row => decide (key row ∈ k :: rest))
    rw [filter_filter, filter_filter] at cut
    have head : (rows.filter fun row => decide (key row = k) && decide (key row ∈ k :: rest)) =
        rows.filter fun row => decide (key row = k) := by
      apply filter_congr
      intro row _
      by_cases same : key row = k <;> simp [same]
    have tail : (rows.filter fun row => !decide (key row = k) && decide (key row ∈ k :: rest)) =
        rows.filter fun row => decide (key row ∈ rest) := by
      apply filter_congr
      intro row _
      by_cases same : key row = k
      · simp [same, fresh]
      · simp [same]
    rw [head, tail] at cut
    rw [flatMap_cons]
    exact ((ih unique).append_left _).trans cut

section Extrema

variable {ι γ : Type*} [LinearOrder γ]

/-- The least of the groups' least elements is the least element of all groups. -/
theorem min?_flatMap [Std.LawfulOrderMin γ] {groups : List ι} {members : ι → List γ} {least : ι → Option γ}
    (isLeast : ∀ k ∈ groups, (members k).min? = least k) :
    (groups.flatMap members).min? = (groups.filterMap least).min? := by
  cases found : (groups.filterMap least).min? with
  | none =>
    rw [min?_eq_none_iff] at found ⊢
    apply flatMap_eq_nil_iff.mpr
    intro k member
    have absent := filterMap_eq_nil_iff.mp found k member
    rw [← isLeast k member] at absent
    exact min?_eq_none_iff.mp absent
  | some m =>
    obtain ⟨attained, below⟩ := min?_eq_some_iff.mp found
    obtain ⟨k, member, atK⟩ := mem_filterMap.mp attained
    have own := min?_eq_some_iff.mp ((isLeast k member).trans atK)
    refine min?_eq_some_iff.mpr ⟨mem_flatMap.mpr ⟨k, member, own.1⟩, ?_⟩
    intro x present
    obtain ⟨other, otherMem, inside⟩ := mem_flatMap.mp present
    obtain ⟨low, atOther⟩ : ∃ low, least other = some low := by
      rw [← isLeast other otherMem]
      exact Option.ne_none_iff_exists'.mp (fun empty => by
        rw [min?_eq_none_iff.mp empty] at inside
        exact not_mem_nil inside)
    have lowest := (min?_eq_some_iff.mp ((isLeast other otherMem).trans atOther)).2 x inside
    exact (below low (mem_filterMap.mpr ⟨other, otherMem, atOther⟩)).trans lowest

/-- The greatest of the groups' greatest elements is the greatest element of all groups. -/
theorem max?_flatMap [Std.LawfulOrderMax γ] {groups : List ι} {members : ι → List γ} {greatest : ι → Option γ}
    (isGreatest : ∀ k ∈ groups, (members k).max? = greatest k) :
    (groups.flatMap members).max? = (groups.filterMap greatest).max? := by
  cases found : (groups.filterMap greatest).max? with
  | none =>
    rw [max?_eq_none_iff] at found ⊢
    apply flatMap_eq_nil_iff.mpr
    intro k member
    have absent := filterMap_eq_nil_iff.mp found k member
    rw [← isGreatest k member] at absent
    exact max?_eq_none_iff.mp absent
  | some m =>
    obtain ⟨attained, above⟩ := max?_eq_some_iff.mp found
    obtain ⟨k, member, atK⟩ := mem_filterMap.mp attained
    have own := max?_eq_some_iff.mp ((isGreatest k member).trans atK)
    refine max?_eq_some_iff.mpr ⟨mem_flatMap.mpr ⟨k, member, own.1⟩, ?_⟩
    intro x present
    obtain ⟨other, otherMem, inside⟩ := mem_flatMap.mp present
    obtain ⟨high, atOther⟩ : ∃ high, greatest other = some high := by
      rw [← isGreatest other otherMem]
      exact Option.ne_none_iff_exists'.mp (fun empty => by
        rw [max?_eq_none_iff.mp empty] at inside
        exact not_mem_nil inside)
    have highest := (max?_eq_some_iff.mp ((isGreatest other otherMem).trans atOther)).2 x inside
    exact highest.trans (above high (mem_filterMap.mpr ⟨other, otherMem, atOther⟩))

theorem Perm.min?_eq [Std.LawfulOrderMin γ] {first second : List γ} (perm : first.Perm second) :
    first.min? = second.min? := by
  cases found : second.min? with
  | none =>
    rw [min?_eq_none_iff] at found ⊢
    subst found
    exact perm_nil.mp perm
  | some m =>
    obtain ⟨member, below⟩ := min?_eq_some_iff.mp found
    exact min?_eq_some_iff.mpr ⟨perm.mem_iff.mpr member, fun x h => below x (perm.mem_iff.mp h)⟩

theorem Perm.max?_eq [Std.LawfulOrderMax γ] {first second : List γ} (perm : first.Perm second) :
    first.max? = second.max? := by
  cases found : second.max? with
  | none =>
    rw [max?_eq_none_iff] at found ⊢
    subst found
    exact perm_nil.mp perm
  | some m =>
    obtain ⟨member, above⟩ := max?_eq_some_iff.mp found
    exact max?_eq_some_iff.mpr ⟨perm.mem_iff.mpr member, fun x h => above x (perm.mem_iff.mp h)⟩

end Extrema

end List

namespace AList

variable {α κ β ρ : Type*} [DecidableEq κ]

/-- Scan the rows once, keeping one accumulator for each key. -/
def groupFold (key : α → κ) (init : κ → β) (add : β → α → β) (rows : List α) :
    AList (fun _ : κ => β) :=
  rows.foldl (fun buckets row =>
    buckets.insert (key row) (add ((buckets.lookup (key row)).getD (init (key row))) row)) ∅

/-- Write one table entry for every accumulated key. -/
def upsertAll (toRow : β → ρ) (buckets : AList (fun _ : κ => β)) (table : AList (fun _ : κ => ρ)) :
    AList (fun _ : κ => ρ) :=
  buckets.entries.foldl (fun current entry => current.insert entry.1 (toRow entry.2)) table

/-- Keep the entries whose key passes the test. -/
def filterKeys (keep : κ → Bool) (table : AList (fun _ : κ => ρ)) : AList (fun _ : κ => ρ) where
  entries := table.entries.filter fun entry => keep entry.1
  nodupKeys := table.nodupKeys.sublist List.filter_sublist

private theorem lookup_groupFold_from (key : α → κ) (init : κ → β) (add : β → α → β) (rows : List α)
    (start : AList (fun _ : κ => β)) (k : κ) :
    (rows.foldl (fun buckets row =>
      buckets.insert (key row) (add ((buckets.lookup (key row)).getD (init (key row))) row)) start).lookup k =
      if (rows.filter fun row => decide (key row = k)) = [] then start.lookup k
      else some ((rows.filter fun row => decide (key row = k)).foldl add
        ((start.lookup k).getD (init k))) := by
  induction rows generalizing start with
  | nil => simp
  | cons row rest ih =>
    rw [List.foldl_cons, ih]
    by_cases same : key row = k
    · subst same
      simp only [List.filter_cons, decide_true, ↓reduceIte, lookup_insert, List.foldl_cons,
        Option.getD_some, reduceCtorEq]
      split_ifs with empty
      · rw [empty, List.foldl_nil]
      · rfl
    · simp only [List.filter_cons, same, decide_false, Bool.false_eq_true, ↓reduceIte,
        lookup_insert_ne (Ne.symm same)]

/-- A key's accumulator is the fold of exactly its own rows, in scan order. -/
theorem lookup_groupFold (key : α → κ) (init : κ → β) (add : β → α → β) (rows : List α) (k : κ) :
    (groupFold key init add rows).lookup k =
      if (rows.filter fun row => decide (key row = k)) = [] then none
      else some ((rows.filter fun row => decide (key row = k)).foldl add (init k)) := by
  rw [groupFold, lookup_groupFold_from, lookup_empty, Option.getD_none]

/-- An upsert overwrites accumulated keys and leaves every other entry alone. -/
theorem lookup_upsertAll (toRow : β → ρ) (buckets : AList (fun _ : κ => β))
    (table : AList (fun _ : κ => ρ)) (k : κ) :
    (upsertAll toRow buckets table).lookup k =
      ((buckets.lookup k).map toRow).or (table.lookup k) := by
  obtain ⟨entries, unique⟩ := buckets
  simp only [upsertAll, lookup]
  induction entries generalizing table with
  | nil => rfl
  | cons entry rest ih =>
    obtain ⟨fresh, unique⟩ := List.nodupKeys_cons.mp unique
    rw [List.foldl_cons, ih _ unique]
    by_cases same : entry.1 = k
    · subst same
      have later : List.dlookup entry.1 rest = none := List.dlookup_eq_none.mpr fresh
      rw [List.dlookup_cons_eq, later]
      exact lookup_insert table
    · rw [List.dlookup_cons_ne _ _ (Ne.symm same)]
      exact congrArg _ (lookup_insert_ne (Ne.symm same))

theorem lookup_filterKeys (keep : κ → Bool) (table : AList (fun _ : κ => ρ)) (k : κ) :
    (table.filterKeys keep).lookup k = if keep k then table.lookup k else none := by
  apply Option.ext
  intro row
  have kept : (table.filterKeys keep).lookup k = some row ↔
      Sigma.mk k row ∈ table.entries ∧ keep k = true := by
    rw [← Option.mem_def, mem_lookup_iff, filterKeys, List.mem_filter]
  have stored : table.lookup k = some row ↔ Sigma.mk k row ∈ table.entries := by
    rw [← Option.mem_def, mem_lookup_iff]
  rw [kept, ← stored]
  by_cases pass : keep k = true <;> simp [pass]

/-- Change every row and keep the keys. -/
def mapRows (change : ρ → ρ) (table : AList (fun _ : κ => ρ)) : AList (fun _ : κ => ρ) where
  entries := table.entries.map fun entry => ⟨entry.1, change entry.2⟩
  nodupKeys := by
    have keys : (table.entries.map fun entry => (⟨entry.1, change entry.2⟩ : Sigma fun _ : κ => ρ)).keys =
        table.entries.keys := by
      simp [List.keys, Function.comp_def]
    rw [List.NodupKeys, keys]
    exact table.nodupKeys

theorem lookup_mapRows (change : ρ → ρ) (table : AList (fun _ : κ => ρ)) (k : κ) :
    (table.mapRows change).lookup k = (table.lookup k).map change := by
  obtain ⟨entries, unique⟩ := table
  simp only [mapRows, lookup]
  clear unique
  induction entries with
  | nil => rfl
  | cons entry rest ih =>
    by_cases same : entry.1 = k
    · subst same
      rw [List.map_cons, List.dlookup_cons_eq, List.dlookup_cons_eq]
      rfl
    · have left : List.dlookup k (entry :: rest) = List.dlookup k rest :=
        List.dlookup_cons_ne _ entry (Ne.symm same)
      rw [List.map_cons, left, ← ih]
      exact List.dlookup_cons_ne _ _ (Ne.symm same)

/-- Writing a list of entries leaves every key alone that none of them has. -/
theorem lookup_foldl_insert_of_notMem {updates : List (κ × ρ)} {table : AList (fun _ : κ => ρ)} {k : κ}
    (fresh : k ∉ updates.map Prod.fst) :
    (updates.foldl (fun current update => current.insert update.1 update.2) table).lookup k =
      table.lookup k := by
  induction updates generalizing table with
  | nil => rfl
  | cons update rest ih =>
    rw [List.map_cons, List.mem_cons, not_or] at fresh
    rw [List.foldl_cons, ih fresh.2, lookup_insert_ne fresh.1]

/-- Each entry of a list with distinct keys is there after the list has been written. -/
theorem lookup_foldl_insert_of_mem {updates : List (κ × ρ)} {table : AList (fun _ : κ => ρ)}
    {update : κ × ρ} (unique : (updates.map Prod.fst).Nodup) (member : update ∈ updates) :
    (updates.foldl (fun current update => current.insert update.1 update.2) table).lookup update.1 =
      some update.2 := by
  induction updates generalizing table with
  | nil => cases member
  | cons first rest ih =>
    obtain ⟨fresh, unique⟩ := List.nodup_cons.mp unique
    rw [List.foldl_cons]
    rcases List.mem_cons.mp member with rfl | later
    · rw [lookup_foldl_insert_of_notMem fresh, lookup_insert]
    · exact ih unique later

/-- A list of deletions keeps the entries that every one of them keeps. -/
theorem lookup_foldl_filterKeys {ι : Type*} (keep : ι → κ → Bool) (deletions : List ι)
    (table : AList (fun _ : κ => ρ)) (k : κ) :
    (deletions.foldl (fun current deletion => current.filterKeys (keep deletion)) table).lookup k =
      if ∀ deletion ∈ deletions, keep deletion k = true then table.lookup k else none := by
  induction deletions generalizing table with
  | nil => simp
  | cons first rest ih =>
    rw [List.foldl_cons, ih, lookup_filterKeys]
    by_cases kept : keep first k = true
    · simp [kept]
    · simp [kept]

end AList
