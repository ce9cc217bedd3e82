import MegaraidDashboard.ToMathlib.ListQueries
import MegaraidDashboard.ToMathlib.Raises

/-! # Reading lists in any order

A lookup by a distinct key, a traversal whose results are compared as a multiset, and a sort by a distinct key do
not see the order of their list.
-/

namespace List

variable {α β κ : Type*}

/-- A sort by a distinct key does not depend on the order of the entries. -/
theorem orderBy_eq_of_perm [LinearOrder β] {key : α → β} {entries others : List α} (perm : entries.Perm others)
    (unique : (entries.map key).Nodup) : entries.orderBy key = others.orderBy key := by
  have antisymm (first second : α) (firstMember : first ∈ entries.orderBy key)
      (secondMember : second ∈ others.orderBy key) (le : key first ≤ key second) (ge : key second ≤ key first) :
      first = second := by
    rw [mem_orderBy] at firstMember secondMember
    exact inj_on_of_nodup_map unique firstMember (perm.mem_iff.mpr secondMember) (le_antisymm le ge)
  exact Perm.eq_of_pairwise antisymm (pairwise_orderBy key entries) (pairwise_orderBy key others)
    ((orderBy_perm key entries).trans (perm.trans (orderBy_perm key others).symm))

/-- The keys of a sort by a distinct key ascend strictly. -/
theorem pairwise_lt_orderBy [LinearOrder β] {key : α → β} {entries : List α} (unique : (entries.map key).Nodup) :
    (entries.orderBy key).Pairwise fun first second => key first < key second := by
  have distinct : (entries.orderBy key).Pairwise fun first second => key first ≠ key second :=
    pairwise_map.mp (((orderBy_perm key entries).map key).nodup_iff.mpr unique)
  exact ((pairwise_orderBy key entries).and distinct).imp fun ⟨le, ne⟩ => lt_of_le_of_ne le ne

/-- A lookup by a distinct key does not depend on the order of the entries. -/
theorem find?_key_eq_of_perm [DecidableEq κ] {key : α → κ} {entries others : List α} (perm : entries.Perm others)
    (unique : (entries.map key).Nodup) (k : κ) :
    (entries.find? fun entry => key entry == k) = others.find? fun entry => key entry == k := by
  have other := (perm.map key).nodup_iff.mp unique
  rcases found : entries.find? fun entry => key entry == k with _ | entry
  · rw [find?_eq_none] at found
    exact (find?_eq_none.mpr fun entry member => found entry (perm.mem_iff.mpr member)).symm
  · obtain rfl : key entry = k := beq_iff_eq.mp (find?_some (p := fun entry => key entry == k) found)
    exact (find?_key_of_mem other (perm.mem_iff.mp (mem_of_find?_eq_some found))).symm

section Traversal

variable {ε β : Type} {f : α → Except ε β}

theorem mapM_cons_ok {first : α} {rest : List α} {results : List β} (returned : (first :: rest).mapM f = .ok results) :
    ∃ result others, f first = .ok result ∧ rest.mapM f = .ok others ∧ results = result :: others := by
  rw [mapM_cons] at returned
  obtain ⟨result, head, returned⟩ := Except.bind_eq_ok returned
  obtain ⟨others, tail, returned⟩ := Except.bind_eq_ok returned
  exact ⟨result, others, head, tail, (Except.ok.inj returned).symm⟩

theorem mapM_cons_eq_ok {first : α} {rest : List α} {result : β} {others : List β} (head : f first = .ok result)
    (tail : rest.mapM f = .ok others) : (first :: rest).mapM f = .ok (result :: others) := by
  rw [mapM_cons, head, tail]
  rfl

/-- Every result of a traversal is that of an entry. -/
theorem exists_mem_of_mapM_ok {entries : List α} {results : List β} (returned : entries.mapM f = .ok results)
    {result : β} (member : result ∈ results) : ∃ entry ∈ entries, f entry = .ok result := by
  induction entries generalizing results with
  | nil =>
    obtain rfl := Except.ok.inj returned
    cases member
  | cons first rest ih =>
    obtain ⟨head, others, read, tail, rfl⟩ := mapM_cons_ok returned
    rcases mem_cons.mp member with rfl | later
    · exact ⟨first, mem_cons_self, read⟩
    · obtain ⟨entry, inside, same⟩ := ih tail later
      exact ⟨entry, mem_cons_of_mem _ inside, same⟩

theorem length_of_mapM_ok {entries : List α} {results : List β} (returned : entries.mapM f = .ok results) :
    results.length = entries.length := by
  induction entries generalizing results with
  | nil =>
    obtain rfl := Except.ok.inj returned
    rfl
  | cons first rest ih =>
    obtain ⟨_, others, -, tail, rfl⟩ := mapM_cons_ok returned
    exact congrArg (· + 1) (ih tail)

/-- A traversal of the entries in another order returns the results in another order. -/
theorem Perm.mapM_ok {entries others : List α} (perm : entries.Perm others) {results : List β}
    (returned : entries.mapM f = .ok results) : ∃ reordered, others.mapM f = .ok reordered ∧ results.Perm reordered := by
  induction perm generalizing results with
  | nil => exact ⟨results, returned, .refl _⟩
  | cons first _ ih =>
    obtain ⟨result, rest, head, tail, rfl⟩ := mapM_cons_ok returned
    obtain ⟨reordered, traversed, same⟩ := ih tail
    exact ⟨result :: reordered, mapM_cons_eq_ok head traversed, same.cons result⟩
  | swap first second _ =>
    obtain ⟨one, rest, head, tail, rfl⟩ := mapM_cons_ok returned
    obtain ⟨two, rest, next, later, rfl⟩ := mapM_cons_ok tail
    exact ⟨two :: one :: rest, mapM_cons_eq_ok next (mapM_cons_eq_ok head later), .swap _ _ rest⟩
  | trans _ _ ihFirst ihSecond =>
    obtain ⟨middle, traversed, same⟩ := ihFirst returned
    obtain ⟨reordered, last, next⟩ := ihSecond traversed
    exact ⟨reordered, last, same.trans next⟩

end Traversal

end List
