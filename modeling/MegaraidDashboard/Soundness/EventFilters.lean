import Mathlib.Data.Finset.SymmDiff
import MegaraidDashboard.Model.Web.EventFilters

/-! # The chips are set operations

A page of the filters is a set of categories and a set of severities. Every chip leads to the page whose sets differ from
the ones of its own page as its name says, over any number of clicks, and the page shows the events of the sets.
-/

namespace MegaraidDashboard.Web

open Services.Events

/-! ## Sets of filters -/

/-- What a page filters by. -/
structure FilterSets where
  categories : Finset String
  severities : Finset String

namespace FilterSets

/-- What a chip is for. -/
def click (sets : FilterSets) : ChipName → FilterSets
  | .all => ⟨∅, ∅⟩
  | .operatorActions => { sets with categories := operatorActionCategories.toFinset }
  | .severity value => { sets with severities := symmDiff sets.severities {value.val} }
  | .category value => { sets with categories := symmDiff sets.categories {value.val} }

/-- Whether a chip is pressed. -/
def Pressed (sets : FilterSets) : ChipName → Prop
  | .all => sets.categories = ∅ ∧ sets.severities = ∅
  | .operatorActions => sets.categories = operatorActionCategories.toFinset
  | .severity value => value.val ∈ sets.severities
  | .category value => value.val ∈ sets.categories

/-- An empty set lets everything through. -/
def Accepts (sets : FilterSets) (event : StoredEvent) : Prop :=
  (sets.categories = ∅ ∨ event.category ∈ sets.categories) ∧ (sets.severities = ∅ ∨ event.severity ∈ sets.severities)

end FilterSets

/-- The sets of the filters. -/
def EventFilters.sets (filters : EventFilters) : FilterSets := ⟨filters.categories.toFinset, filters.severities.toFinset⟩

/-! ## Normal values -/

/-- Values as a request leaves them. -/
structure Normal (values : List String) : Prop where
  nodup : values.Nodup
  stripped : ∀ value ∈ values, value ≠ "" ∧ Py.strip value = value

theorem normal_nil : Normal [] := ⟨.nil, List.forall_mem_nil _⟩

theorem Normal.concat {values : List String} (normal : Normal values) {value : String} (solid : value ≠ "")
    (stripped : Py.strip value = value) (fresh : value ∉ values) : Normal (values ++ [value]) where
  nodup := List.nodup_append.mpr ⟨normal.nodup, List.nodup_singleton _, by
    rintro first member second last rfl
    exact fresh (List.mem_singleton.mp last ▸ member)⟩
  stripped := by
    intro other member
    rcases List.mem_append.mp member with old | new
    · exact normal.stripped other old
    · obtain rfl := List.mem_singleton.mp new
      exact ⟨solid, stripped⟩

theorem Normal.filter {values : List String} (normal : Normal values) (keep : String → Bool) :
    Normal (values.filter keep) :=
  ⟨normal.nodup.filter keep, fun value member => normal.stripped value (List.mem_of_mem_filter member)⟩

theorem Normal.toggle {values : List String} (normal : Normal values) {value : String} (solid : value ≠ "")
    (stripped : Py.strip value = value) : Normal (toggleFilterValue values value) := by
  rw [toggleFilterValue]
  split_ifs with member
  · exact normal.filter _
  · exact normal.concat solid stripped member

/-- Whatever a request asks for, the filters of the page are normal. -/
theorem normal_normalizeQueryValues (values : List String) : Normal (normalizeQueryValues values) := by
  rw [normalizeQueryValues]
  refine List.foldlRecOn values _ normal_nil ?_
  intro normalized normal value _
  dsimp only
  split_ifs with new
  · exact normal.concat new.1 (Py.strip_strip value) new.2
  · exact normal

/-- Normal values are read back as they are. -/
theorem Normal.normalizeQueryValues {values : List String} (normal : Normal values) :
    normalizeQueryValues values = values := by
  have grow (front rest : List String) (normal : Normal (front ++ rest)) :
      rest.foldl (fun normalized value =>
        let stripped := Py.strip value
        if stripped ≠ "" ∧ stripped ∉ normalized then normalized ++ [stripped] else normalized) front = front ++ rest := by
    induction rest generalizing front with
    | nil => rw [List.append_nil, List.foldl_nil]
    | cons value rest ih =>
      obtain ⟨solid, stripped⟩ := normal.stripped value (List.mem_append_right _ List.mem_cons_self)
      have fresh : value ∉ front := fun inside =>
        (List.nodup_append.mp normal.nodup).2.2 value inside value List.mem_cons_self rfl
      rw [List.foldl_cons]
      dsimp only
      rw [stripped, if_pos ⟨solid, fresh⟩, ih (front ++ [value]) (by rwa [List.append_assoc]), List.append_assoc]
      rfl
  exact grow [] values normal

theorem toFinset_toggleFilterValue (values : List String) (value : String) :
    (toggleFilterValue values value).toFinset = symmDiff values.toFinset {value} := by
  ext other
  rw [toggleFilterValue, Finset.mem_symmDiff, Finset.mem_singleton, List.mem_toFinset]
  split_ifs with member
  · simp only [List.mem_toFinset, List.mem_filter, bne_iff_ne]
    constructor
    · rintro ⟨inside, ne⟩
      exact .inl ⟨inside, ne⟩
    · rintro (kept | ⟨rfl, fresh⟩)
      · exact kept
      · exact absurd member fresh
  · simp only [List.mem_toFinset, List.mem_append, List.mem_singleton]
    constructor
    · rintro (inside | rfl)
      · exact .inl ⟨inside, fun same => member (same ▸ inside)⟩
      · exact .inr ⟨rfl, member⟩
    · rintro (⟨inside, -⟩ | ⟨rfl, -⟩)
      · exact .inl inside
      · exact .inr rfl

/-! ## Pages -/

structure EventFilters.Normal (filters : EventFilters) : Prop where
  categories : Web.Normal filters.categories
  severities : Web.Normal filters.severities

theorem normal_eventFilterValues (params : List (String × String)) : (eventFilterValues params).Normal :=
  ⟨normal_normalizeQueryValues _, normal_normalizeQueryValues _⟩

theorem getlist_same (name : String) (values : List String) : getlist (values.map (name, ·)) name = values := by
  rw [getlist, List.filter_eq_self.mpr, List.map_map]
  · exact List.map_id _
  · intro pair member
    obtain ⟨value, -, rfl⟩ := List.mem_map.mp member
    exact beq_self_eq_true name

theorem getlist_other {name other : String} (distinct : other ≠ name) (values : List String) :
    getlist (values.map (other, ·)) name = [] := by
  rw [getlist, List.filter_eq_nil_iff.mpr]
  · rfl
  · intro pair member
    obtain ⟨value, -, rfl⟩ := List.mem_map.mp member
    exact fun same => distinct (beq_iff_eq.mp same)

theorem getlist_append (first second : List (String × String)) (name : String) :
    getlist (first ++ second) name = getlist first name ++ getlist second name := by
  rw [getlist, List.filter_append, List.map_append]
  rfl

/-- The page behind a query of normal filters has these filters. -/
theorem openEvents_eventsQuery {filters : EventFilters} (normal : filters.Normal) :
    openEvents (eventsQuery filters) = some filters := by
  rw [openEvents, eventsQuery, Py.parseQsl_urlencodePairs, Option.map_some, eventFilterValues, getlist_append,
    getlist_append, getlist_same, getlist_same, getlist_other (by decide), getlist_other (by decide), List.nil_append,
    List.append_nil, normal.categories.normalizeQueryValues, normal.severities.normalizeQueryValues]

/-- The page shows what the sets say. -/
structure EventFilters.Shows (filters : EventFilters) (sets : FilterSets) : Prop where
  pressed : ∀ name, (filters.chip name).active = true ↔ sets.Pressed name
  accepts : ∀ event, filters.accepts event = true ↔ sets.Accepts event

theorem normalizeFilters_map_some (values : List String) : normalizeFilters (values.map some) = normalizeQueryValues values := by
  rw [normalizeFilters, List.foldl_map]
  rfl

theorem isEmpty_or_contains {values : List String} {value : String} :
    (values.isEmpty || values.contains value) = true ↔ values.toFinset = ∅ ∨ value ∈ values.toFinset := by
  rw [Bool.or_eq_true, List.isEmpty_iff, List.contains_iff_mem, List.toFinset_eq_empty_iff, List.mem_toFinset]

theorem EventFilters.Normal.shows {filters : EventFilters} (normal : filters.Normal) : filters.Shows filters.sets where
  pressed := by
    intro name
    cases name with
    | all =>
      rw [chip, Bool.and_eq_true, List.isEmpty_iff, List.isEmpty_iff, FilterSets.Pressed, sets,
        List.toFinset_eq_empty_iff, List.toFinset_eq_empty_iff]
    | operatorActions => exact decide_eq_true_iff
    | severity value => exact decide_eq_true_iff.trans List.mem_toFinset.symm
    | category value => exact decide_eq_true_iff.trans List.mem_toFinset.symm
  accepts := by
    intro event
    rw [accepts, normalizeFilters_map_some, normalizeFilters_map_some, normal.categories.normalizeQueryValues,
      normal.severities.normalizeQueryValues, matchesFilters, Bool.and_eq_true, isEmpty_or_contains, isEmpty_or_contains]
    rfl

/-- The values of the chips are normal. -/
theorem chip_values : Normal operatorActionCategories ∧
    (∀ value ∈ eventSeverityFilters, value ≠ "" ∧ Py.strip value = value) ∧
    ∀ value ∈ eventCategoryFilters, value ≠ "" ∧ Py.strip value = value :=
  ⟨⟨by decide, by decide⟩, by decide, by decide⟩

/-- One click leads to a page, and the sets of the page are what the chip is for. -/
theorem EventFilters.Normal.click {filters : EventFilters} (normal : filters.Normal) (name : ChipName) :
    ∃ next, filters.click name = some next ∧ next.Normal ∧ next.sets = filters.sets.click name := by
  obtain ⟨operator, severities, categories⟩ := chip_values
  cases name with
  | all => exact ⟨⟨[], []⟩, openEvents_eventsQuery ⟨normal_nil, normal_nil⟩, ⟨normal_nil, normal_nil⟩, rfl⟩
  | operatorActions =>
    have next : EventFilters.Normal { filters with categories := operatorActionCategories } :=
      ⟨operator, normal.severities⟩
    exact ⟨_, openEvents_eventsQuery next, next, rfl⟩
  | severity value =>
    obtain ⟨solid, stripped⟩ := severities value.val value.property
    have next : EventFilters.Normal { filters with severities := toggleFilterValue filters.severities value } :=
      ⟨normal.categories, normal.severities.toggle solid stripped⟩
    refine ⟨_, openEvents_eventsQuery next, next, ?_⟩
    rw [sets, toFinset_toggleFilterValue]
    rfl
  | category value =>
    obtain ⟨solid, stripped⟩ := categories value.val value.property
    have next : EventFilters.Normal { filters with categories := toggleFilterValue filters.categories value } :=
      ⟨normal.categories.toggle solid stripped, normal.severities⟩
    refine ⟨_, openEvents_eventsQuery next, next, ?_⟩
    rw [sets, toFinset_toggleFilterValue]
    rfl

/-- From the page of any request, any number of clicks leads to a page, and the page shows what the clicks make of the
sets of the first one. -/
theorem chips_refine (params : List (String × String)) (clicks : List ChipName) :
    ∃ filters, clicks.foldlM EventFilters.click (eventFilterValues params) = some filters ∧
      filters.Shows (clicks.foldl FilterSets.click (eventFilterValues params).sets) := by
  have run (first : EventFilters) (normal : first.Normal) :
      ∃ filters, clicks.foldlM EventFilters.click first = some filters ∧ filters.Normal ∧
        filters.sets = clicks.foldl FilterSets.click first.sets := by
    induction clicks generalizing first with
    | nil => exact ⟨first, rfl, normal, rfl⟩
    | cons name rest ih =>
      obtain ⟨next, clicked, nextNormal, sets⟩ := normal.click name
      obtain ⟨last, followed, lastNormal, lastSets⟩ := ih next nextNormal
      refine ⟨last, ?_, lastNormal, ?_⟩
      · rw [List.foldlM_cons, clicked]
        exact followed
      · rw [lastSets, sets, List.foldl_cons]
  obtain ⟨filters, reached, normal, sets⟩ := run _ (normal_eventFilterValues params)
  exact ⟨filters, reached, sets ▸ normal.shows⟩

end MegaraidDashboard.Web
