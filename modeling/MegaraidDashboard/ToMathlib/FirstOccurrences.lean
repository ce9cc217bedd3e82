import MegaraidDashboard.ToMathlib.ListQueries

/-! # First occurrences

`firstOccurrences` keeps each entry where it comes first. `firstIndices` is a dictionary in insertion order, filled
with `setDefault`: every key keeps the index it was given first. `lastValue` reads a dictionary of pairs, where a
later pair replaces an earlier one.
-/

namespace List

variable {α β κ : Type*}

section Occurrences

variable [BEq α]

/-- One entry behind those seen so far, unless it is among them. -/
def appendNew (seen : List α) (entry : α) : List α := if seen.contains entry then seen else seen ++ [entry]

def firstOccurrences (entries : List α) : List α := entries.foldl appendNew []

theorem firstOccurrences_concat (entries : List α) (entry : α) :
    (entries ++ [entry]).firstOccurrences = entries.firstOccurrences.appendNew entry := by
  rw [firstOccurrences, foldl_append]
  rfl

variable [LawfulBEq α]

theorem appendNew_of_mem {seen : List α} {entry : α} (known : entry ∈ seen) : seen.appendNew entry = seen :=
  if_pos (contains_iff_mem.mpr known)

theorem appendNew_of_notMem {seen : List α} {entry : α} (fresh : entry ∉ seen) :
    seen.appendNew entry = seen ++ [entry] :=
  if_neg fun known => fresh (contains_iff_mem.mp known)

theorem mem_appendNew {seen : List α} {entry other : α} :
    other ∈ seen.appendNew entry ↔ other ∈ seen ∨ other = entry := by
  rw [appendNew]
  split
  · next present =>
    exact ⟨.inl, fun either => either.elim id fun same => same ▸ contains_iff_mem.mp present⟩
  · rw [mem_append, mem_singleton]

theorem nodup_appendNew {seen : List α} (distinct : seen.Nodup) (entry : α) : (seen.appendNew entry).Nodup := by
  rw [appendNew]
  split
  · exact distinct
  · next fresh =>
    rw [contains_iff_mem] at fresh
    exact distinct.append (nodup_singleton entry) (disjoint_singleton.mpr fresh)

private theorem mem_foldl_appendNew {entries seen : List α} {entry : α} :
    entry ∈ entries.foldl appendNew seen ↔ entry ∈ seen ∨ entry ∈ entries := by
  induction entries generalizing seen with
  | nil => simp
  | cons first rest ih => rw [foldl_cons, ih, mem_appendNew, mem_cons, or_assoc]

private theorem nodup_foldl_appendNew {entries seen : List α} (distinct : seen.Nodup) :
    (entries.foldl appendNew seen).Nodup := by
  induction entries generalizing seen with
  | nil => exact distinct
  | cons first rest ih => exact ih (nodup_appendNew distinct first)

@[simp] theorem mem_firstOccurrences {entries : List α} {entry : α} : entry ∈ entries.firstOccurrences ↔ entry ∈ entries := by
  rw [firstOccurrences, mem_foldl_appendNew, or_iff_right not_mem_nil]

theorem nodup_firstOccurrences (entries : List α) : entries.firstOccurrences.Nodup :=
  nodup_foldl_appendNew nodup_nil

/-- In front of other entries, distinct entries keep their indices. -/
theorem idxOf?_append_getElem {first : List α} (distinct : first.Nodup) (second : List α) {i : ℕ} (inside : i < first.length) :
    (first ++ second).idxOf? first[i] = some i := by
  have bound : i < (first ++ second).length := by
    rw [length_append]
    omega
  refine idxOf?_eq_some_iff.mpr ⟨bound, getElem_append_left inside, fun j earlier same => ?_⟩
  rw [getElem_append_left (earlier.trans inside)] at same
  exact earlier.ne (distinct.getElem_inj_iff.mp same)

end Occurrences

section Dictionary

variable [BEq κ]

/-- `setdefault` on a dictionary in insertion order. -/
def setDefault (entries : List (κ × β)) (key : κ) (value : β) : List (κ × β) :=
  if (entries.map Prod.fst).contains key then entries else entries ++ [(key, value)]

/-- The first index at which each key stands. -/
def firstIndices (key : α → κ) (entries : List α) : List (κ × ℕ) :=
  entries.zipIdx.foldl (fun found entry => found.setDefault (key entry.1) entry.2) []

/-- `dict(pairs).get(key)` -/
def lastValue (pairs : List (κ × β)) (key : κ) : Option β :=
  (pairs.reverse.find? fun pair => pair.1 == key).map Prod.snd

theorem map_fst_setDefault (entries : List (κ × β)) (key : κ) (value : β) :
    (entries.setDefault key value).map Prod.fst = (entries.map Prod.fst).appendNew key := by
  rw [setDefault, appendNew]
  split
  · rfl
  · rw [map_append]
    rfl

private theorem map_fst_foldl_setDefault (key : α → κ) (entries : List α) (start : ℕ) (found : List (κ × ℕ)) :
    ((entries.zipIdx start).foldl (fun found entry => found.setDefault (key entry.1) entry.2) found).map Prod.fst =
      (entries.map key).foldl appendNew (found.map Prod.fst) := by
  induction entries generalizing start found with
  | nil => rfl
  | cons first rest ih => rw [zipIdx_cons, foldl_cons, ih, map_fst_setDefault, map_cons, foldl_cons]

theorem map_fst_firstIndices (key : α → κ) (entries : List α) :
    (entries.firstIndices key).map Prod.fst = (entries.map key).firstOccurrences :=
  map_fst_foldl_setDefault key entries 0 []

variable [LawfulBEq κ]

theorem lookup_setDefault (entries : List (κ × β)) (key other : κ) (value : β) :
    (entries.setDefault key value).lookup other =
      (entries.lookup other).or (if other == key then some value else none) := by
  rw [setDefault]
  split
  · next present =>
    rcases eq_or_ne other key with rfl | different
    · obtain ⟨pair, member, same⟩ := mem_map.mp (contains_iff_mem.mp present)
      rcases found : entries.lookup other with _ | earlier
      · exact absurd (lookup_eq_none_iff.mp found pair member) (by simp [same])
      · rfl
    · rw [beq_eq_false_iff_ne.mpr different, if_neg Bool.false_ne_true, Option.or_none]
  · rw [lookup_append, lookup_cons, lookup_nil]
    cases other == key <;> rfl

private theorem lookup_foldl_setDefault (key : α → κ) (entries : List α) (start : ℕ) (found : List (κ × ℕ)) (k : κ) :
    ((entries.zipIdx start).foldl (fun found entry => found.setDefault (key entry.1) entry.2) found).lookup k =
      (found.lookup k).or (((entries.map key).idxOf? k).map (start + ·)) := by
  induction entries generalizing start found with
  | nil => simp
  | cons first rest ih =>
    rw [zipIdx_cons, foldl_cons, ih, lookup_setDefault, map_cons, idxOf?_cons, Option.or_assoc]
    congr 1
    rcases eq_or_ne k (key first) with rfl | different
    · rw [beq_self_eq_true]
      rfl
    · rw [beq_eq_false_iff_ne.mpr different, beq_eq_false_iff_ne.mpr different.symm]
      simp [Option.map_map, Function.comp_def, Nat.add_assoc, Nat.add_comm 1]

/-- A key is found at the first entry that has it. -/
theorem lookup_firstIndices (key : α → κ) (entries : List α) (k : κ) :
    (entries.firstIndices key).lookup k = (entries.map key).idxOf? k := by
  rw [firstIndices, lookup_foldl_setDefault]
  simp

/-- With distinct keys, the dictionary holds exactly its pairs. -/
theorem lastValue_eq_some_iff {pairs : List (κ × β)} (distinct : (pairs.map Prod.fst).Nodup) {key : κ} {value : β} :
    pairs.lastValue key = some value ↔ (key, value) ∈ pairs := by
  rw [lastValue, Option.map_eq_some_iff]
  constructor
  · rintro ⟨⟨other, _⟩, found, rfl⟩
    obtain rfl : other = key := beq_iff_eq.mp (find?_some (p := fun pair : κ × β => pair.1 == key) found)
    exact mem_reverse.mp (mem_of_find?_eq_some found)
  · intro member
    have reversed : (pairs.reverse.map Prod.fst).Nodup := by
      rw [map_reverse]
      exact nodup_reverse.mpr distinct
    exact ⟨_, find?_key_of_mem reversed (mem_reverse.mpr member), rfl⟩

end Dictionary

section Order

variable [LinearOrder β] [DecidableEq α]

/-- Entries that ascend strictly keep their order in a sort. -/
theorem sublist_orderBy {key : α → β} {chosen entries : List α} (inside : chosen ⊆ entries) (distinct : entries.Nodup)
    (ascending : chosen.Pairwise fun first second => key first < key second) : chosen.Sublist (entries.orderBy key) := by
  have unique : (chosen.map key).Nodup := pairwise_map.mpr (ascending.imp ne_of_lt)
  have sorted : ((entries.orderBy key).filter fun entry => decide (entry ∈ chosen)).Perm chosen := by
    refine (perm_ext_iff_of_nodup (((orderBy_perm key entries).nodup_iff.mpr distinct).filter _)
      (Nodup.of_map key unique)).mpr fun entry => ?_
    rw [mem_filter, mem_orderBy, decide_eq_true_iff]
    exact ⟨And.right, fun member => ⟨inside member, member⟩⟩
  have antisymm (first second : α) (firstMember : first ∈ (entries.orderBy key).filter fun entry => decide (entry ∈ chosen))
      (secondMember : second ∈ chosen) (le : key first ≤ key second) (ge : key second ≤ key first) : first = second :=
    inj_on_of_nodup_map unique (sorted.mem_iff.mp firstMember) secondMember (le_antisymm le ge)
  have same := Perm.eq_of_pairwise antisymm ((pairwise_orderBy key entries).filter _) (ascending.imp le_of_lt) sorted
  rw [← same]
  exact filter_sublist

end Order

end List
