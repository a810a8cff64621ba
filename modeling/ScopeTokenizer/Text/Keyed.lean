/-!
# Lists sorted by key

A finite map with text keys, kept as a list in increasing order of the keys, each of
which occurs once.
-/

namespace ScopeTokenizer.Text

variable {α β : Type}

/-- A finite map as a list of its entries. -/
abbrev Keyed (α : Type) := List (String × α)

namespace Keyed

/-- Puts an entry at its place, in place of an entry with the same key. -/
def insert (key : String) (value : α) : Keyed α → Keyed α
  | [] => [(key, value)]
  | (other, kept) :: rest =>
    if key < other then (key, value) :: (other, kept) :: rest
    else if key = other then (key, value) :: rest
    else (other, kept) :: insert key value rest

/-- The map of a list of entries, in which a later entry replaces an earlier one. -/
def ofEntries (entries : List (String × α)) : Keyed α :=
  entries.foldl (fun map (key, value) => insert key value map) []

/-- The value under a key. -/
def find? (map : Keyed α) (key : String) : Option α :=
  match map with
  | [] => none
  | (other, value) :: rest => if other = key then some value else find? rest key

/-- The keys in increasing order. -/
def keys (map : Keyed α) : List String := List.map Prod.fst map

/-- Changes every value. -/
def mapValues (change : α → β) (map : Keyed α) : Keyed β :=
  List.map (fun (key, value) => (key, change value)) map

@[simp] theorem find?_insert (key other : String) (value : α) (map : Keyed α) :
    find? (insert key value map) other = if key = other then some value else find? map other := by
  induction map with
  | nil => simp [insert, find?]
  | cons entry rest ih =>
    obtain ⟨head, kept⟩ := entry
    unfold insert
    split
    · simp [find?]
    · split
      · next equal =>
        subst equal
        by_cases same : key = other <;> simp [find?, same]
      · next different =>
        simp only [find?, ih]
        by_cases same : head = other
        · subst same
          simp [different]
        · simp [same]

@[simp] theorem find?_mapValues (change : α → β) (map : Keyed α) (key : String) :
    find? (mapValues change map) key = (find? map key).map change := by
  induction map with
  | nil => rfl
  | cons entry rest ih =>
    simp only [mapValues, List.map_cons, find?] at ih ⊢
    split
    · rfl
    · exact ih

theorem mem_of_find? {map : Keyed α} {key : String} {value : α}
    (found : find? map key = some value) : (key, value) ∈ map := by
  induction map with
  | nil => cases found
  | cons entry map ih =>
    obtain ⟨other, kept⟩ := entry
    unfold find? at found
    split at found
    · next is =>
      cases found
      rw [is]
      exact List.mem_cons_self
    · exact List.mem_cons_of_mem _ (ih found)

/-- If each key occurs once, every entry is found. -/
theorem find?_of_mem {map : Keyed α} {key : String} {value : α}
    (distinct : (keys map).Nodup) (mem : (key, value) ∈ map) : find? map key = some value := by
  induction map with
  | nil => cases mem
  | cons entry map ih =>
    obtain ⟨other, kept⟩ := entry
    obtain ⟨fresh, distinct⟩ := List.nodup_cons.mp distinct
    unfold find?
    rcases List.mem_cons.mp mem with is | mem
    · cases is
      exact if_pos rfl
    · rw [if_neg]
      · exact ih distinct mem
      · rintro rfl
        exact fresh (List.mem_map.mpr ⟨_, mem, rfl⟩)

theorem insert_insert (key : String) (first second : α) (map : Keyed α) :
    insert key second (insert key first map) = insert key second map := by
  induction map with
  | nil => simp [insert]
  | cons entry map ih =>
    obtain ⟨other, kept⟩ := entry
    simp only [insert]
    split
    · simp [insert]
    · split
      · simp [insert]
      · next notBelow apart => simp [insert, notBelow, apart, ih]

theorem insert_comm_of_lt {first second : String} (below : first < second) (a b : α)
    (map : Keyed α) :
    insert first a (insert second b map) = insert second b (insert first a map) := by
  have notAbove : ¬ second < first := String.lt_asymm below
  have apart : second ≠ first := fun same => String.lt_irrefl first (same ▸ below)
  induction map with
  | nil => simp [insert, below, notAbove, apart]
  | cons entry map ih =>
    obtain ⟨other, kept⟩ := entry
    by_cases before : second < other
    · have before' : first < other := String.lt_trans below before
      simp [insert, before, before', below, notAbove, apart]
    · by_cases here : second = other
      · subst here
        simp [insert, below, notAbove, apart]
      · by_cases before' : first < other
        · simp [insert, before, here, before', notAbove, apart]
        · by_cases here' : first = other
          · subst here'
            simp [insert, notAbove, apart]
          · simp [insert, before, here, before', here', ih]

/-- Entries with different keys may be put in either order. -/
theorem insert_comm {first second : String} (apart : first ≠ second) (a b : α) (map : Keyed α) :
    insert first a (insert second b map) = insert second b (insert first a map) := by
  by_cases below : first < second
  · exact insert_comm_of_lt below a b map
  · have above : second < first := by
      apply Decidable.byContradiction
      intro notAbove
      exact apart (String.le_antisymm (String.not_lt.mp notAbove) (String.not_lt.mp below))
    exact (insert_comm_of_lt above b a map).symm

/-! ## Increasing keys -/

/-- Each key is smaller than all that come later. -/
def Increasing (map : Keyed α) : Prop := (keys map).Pairwise (· < ·)

theorem Increasing.nodup {map : Keyed α} (increasing : map.Increasing) : (keys map).Nodup := by
  apply List.Pairwise.imp _ increasing
  intro key later below same
  exact String.lt_irrefl later (same ▸ below)

theorem eq_or_mem_of_mem_insert {key : String} {value : α} {map : Keyed α} {entry : String × α}
    (mem : entry ∈ insert key value map) : entry = (key, value) ∨ entry ∈ map := by
  induction map with
  | nil => exact .inl (List.mem_singleton.mp mem)
  | cons first map ih =>
    unfold insert at mem
    split at mem
    · exact List.mem_cons.mp mem
    · split at mem
      · exact (List.mem_cons.mp mem).imp_right (List.mem_cons_of_mem _)
      · rcases List.mem_cons.mp mem with rfl | mem
        · exact .inr List.mem_cons_self
        · exact (ih mem).imp_right (List.mem_cons_of_mem _)

theorem Increasing.insert {map : Keyed α} (increasing : map.Increasing) (key : String)
    (value : α) : (insert key value map).Increasing := by
  induction map with
  | nil => exact List.pairwise_singleton _ _
  | cons first map ih =>
    obtain ⟨other, kept⟩ := first
    obtain ⟨least, increasing⟩ := List.pairwise_cons.mp increasing
    unfold Keyed.insert
    split
    · next below =>
      have all : ∀ later ∈ keys ((other, kept) :: map), key < later :=
        List.forall_mem_cons.mpr ⟨below, fun later mem => String.lt_trans below (least later mem)⟩
      exact List.pairwise_cons.mpr ⟨all, List.pairwise_cons.mpr ⟨least, increasing⟩⟩
    · split
      · next is => exact List.pairwise_cons.mpr ⟨is ▸ least, increasing⟩
      · next notBelow apart =>
        have above : other < key := by
          apply Decidable.byContradiction
          intro notAbove
          exact apart (String.le_antisymm (String.not_lt.mp notAbove) (String.not_lt.mp notBelow))
        refine List.pairwise_cons.mpr ⟨?_, ih increasing⟩
        intro later mem
        obtain ⟨entry, among, rfl⟩ := List.mem_map.mp mem
        rcases eq_or_mem_of_mem_insert among with rfl | old
        · exact above
        · exact least _ (List.mem_map_of_mem old)

theorem increasing_ofEntries (entries : List (String × α)) : (ofEntries entries).Increasing :=
  List.foldlRecOn entries _ List.Pairwise.nil fun _ increasing entry _ =>
    increasing.insert entry.1 entry.2

theorem ofEntries_subset (entries : List (String × α)) : ofEntries entries ⊆ entries := by
  unfold ofEntries
  refine List.foldlRecOn (motive := (· ⊆ entries)) entries _ (List.nil_subset _) ?_
  intro map subset entry mem other mem'
  rcases eq_or_mem_of_mem_insert mem' with rfl | mem'
  · exact mem
  · exact subset mem'

end Keyed

end ScopeTokenizer.Text
