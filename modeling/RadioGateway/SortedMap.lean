/-!
# Sorted maps

A finite map is kept as the list of its entries in strictly ascending key order. Order and
uniqueness of the keys are part of the type, so two maps that answer every lookup alike are equal.
-/

namespace RadioGateway

/-- A finite map whose entries stand in strictly ascending key order. -/
structure SortedMap (κ α : Type) [LT κ] where
  entries : List (κ × α) := []
  ascending : entries.Pairwise (fun left right => left.1 < right.1) := by exact List.Pairwise.nil

namespace SortedMap

variable {κ α β : Type}

def lookup [DecidableEq κ] (key : κ) : List (κ × α) → Option α
  | [] => none
  | (other, value) :: rest => if key = other then some value else lookup key rest

/-- Puts an entry at its place in a list of entries, over an earlier one with the same key. -/
def place [LT κ] [DecidableLT κ] [DecidableEq κ] (key : κ) (value : α) :
    List (κ × α) → List (κ × α)
  | [] => [(key, value)]
  | (other, previous) :: rest =>
      if key < other then (key, value) :: (other, previous) :: rest
      else if key = other then (key, value) :: rest
      else (other, previous) :: place key value rest

theorem lookup_map [DecidableEq κ] (f : α → β) (key : κ) (entries : List (κ × α)) :
    lookup key (entries.map fun entry => (entry.1, f entry.2)) = (lookup key entries).map f := by
  induction entries with
  | nil => rfl
  | cons entry rest ih => by_cases same : key = entry.1 <;> simp [lookup, same, ih]

theorem lookup_filter [DecidableEq κ] (key other : κ) (entries : List (κ × α)) :
    lookup other (entries.filter fun entry => entry.1 ≠ key) =
      if other = key then none else lookup other entries := by
  induction entries with
  | nil => simp [lookup]
  | cons entry rest ih =>
      by_cases kept : entry.1 = key
      · by_cases same : other = key <;> simp_all [lookup]
      · by_cases same : other = entry.1 <;> simp_all [lookup]

theorem lookup_filterMap [DecidableEq κ] (value? : κ → Option α) (key : κ) (keys : List κ) :
    lookup key (keys.filterMap fun key => (value? key).map (key, ·)) =
      if key ∈ keys then value? key else none := by
  induction keys with
  | nil => rfl
  | cons head rest ih =>
      by_cases here : key = head
      · subst here
        cases missing : value? key <;> simp [missing, lookup, ih]
      · cases missing : value? head <;> simp [missing, lookup, ih, here]

theorem lookup_eq_none [DecidableEq κ] {key : κ} {entries : List (κ × α)}
    (absent : ∀ entry ∈ entries, entry.1 ≠ key) : lookup key entries = none := by
  induction entries with
  | nil => rfl
  | cons entry rest ih =>
      have here : key ≠ entry.1 := Ne.symm (absent entry (List.mem_cons_self ..))
      simp [lookup, here, ih fun e m => absent e (List.mem_cons_of_mem _ m)]

/-- Where no key stands twice, what stands beside a key is what is looked up. -/
theorem lookup_eq_some_iff [DecidableEq κ] {entries : List (κ × α)}
    (distinct : (entries.map Prod.fst).Nodup) (key : κ) (value : α) :
    lookup key entries = some value ↔ (key, value) ∈ entries := by
  induction entries with
  | nil => simp [lookup]
  | cons entry rest ih =>
      obtain ⟨other, previous⟩ := entry
      obtain ⟨unused, distinct⟩ := List.nodup_cons.1 distinct
      by_cases same : key = other
      · subst same
        have alone : (key, value) ∉ rest := fun member =>
          unused (List.mem_map.2 ⟨_, member, rfl⟩)
        simp [lookup, alone, eq_comm]
      · simp [lookup, same, ih distinct]

theorem mem_place [LT κ] [DecidableLT κ] [DecidableEq κ] {key : κ} {value : α}
    {entries : List (κ × α)} {entry : κ × α} (member : entry ∈ place key value entries) :
    entry = (key, value) ∨ entry ∈ entries := by
  induction entries with
  | nil => simpa [place] using member
  | cons head rest ih =>
      unfold place at member
      split at member
      · simpa using member
      · split at member
        · simp only [List.mem_cons] at member ⊢
          exact member.imp id .inr
        · rcases List.mem_cons.1 member with rfl | inRest
          · exact .inr (List.mem_cons_self ..)
          · exact (ih inRest).imp id (List.mem_cons_of_mem _)

theorem lookup_place [LT κ] [DecidableLT κ] [DecidableEq κ] (key other : κ) (value : α)
    (entries : List (κ × α)) :
    lookup other (place key value entries) =
      if other = key then some value else lookup other entries := by
  induction entries with
  | nil => simp [place, lookup]
  | cons head rest ih =>
      unfold place
      split
      · simp [lookup]
      · split
        · rename_i same
          subst same
          by_cases eq : other = head.1 <;> simp [lookup, eq]
        · by_cases eq : other = head.1
          · rename_i different
            have : other ≠ key := fun h => different (h ▸ eq)
            simp [lookup, eq, Ne.symm different]
          · simp [lookup, eq, ih]

theorem foldl_place [LT κ] [DecidableLT κ] [DecidableEq κ] {γ : Type} {step : γ → α → γ}
    {key : κ} {value : α} (silent : ∀ state, step state value = state)
    {entries : List (κ × α)} (missing : lookup key entries = none) (state : γ) :
    ((place key value entries).map Prod.snd).foldl step state =
      (entries.map Prod.snd).foldl step state := by
  induction entries generalizing state with
  | nil => exact silent state
  | cons head rest ih =>
      have different : key ≠ head.1 := by
        intro same
        simp [lookup, same] at missing
      have later : lookup key rest = none := by
        simpa [lookup, different] using missing
      unfold place
      split
      · simp only [List.map_cons, List.foldl_cons, silent]
      · exact ih later (step state head.2)

variable [LT κ]

instance [DecidableEq κ] [DecidableEq α] : DecidableEq (SortedMap κ α)
  | ⟨left, _⟩, ⟨right, _⟩ =>
      decidable_of_iff (left = right) ⟨fun same => by subst same; rfl, fun same => by cases same; rfl⟩

instance [Repr κ] [Repr α] : Repr (SortedMap κ α) := ⟨fun map n => reprPrec map.entries n⟩

def empty : SortedMap κ α := {}

instance : EmptyCollection (SortedMap κ α) := ⟨empty⟩
instance : Inhabited (SortedMap κ α) := ⟨empty⟩

def isEmpty (map : SortedMap κ α) : Bool := map.entries.isEmpty

def size (map : SortedMap κ α) : Nat := map.entries.length

def toList (map : SortedMap κ α) : List (κ × α) := map.entries

def keys (map : SortedMap κ α) : List κ := map.entries.map Prod.fst

def values (map : SortedMap κ α) : List α := map.entries.map Prod.snd

def mapValues (f : α → β) (map : SortedMap κ α) : SortedMap κ β where
  entries := map.entries.map fun entry => (entry.1, f entry.2)
  ascending := List.pairwise_map.2 map.ascending

/-! ## Lookup -/

def find? [DecidableEq κ] (map : SortedMap κ α) (key : κ) : Option α := lookup key map.entries

def contains [DecidableEq κ] (map : SortedMap κ α) (key : κ) : Bool := (map.find? key).isSome

@[simp]
theorem find?_empty [DecidableEq κ] (key : κ) : (empty : SortedMap κ α).find? key = none := rfl

@[simp]
theorem find?_mapValues [DecidableEq κ] (f : α → β) (map : SortedMap κ α) (key : κ) :
    (map.mapValues f).find? key = (map.find? key).map f :=
  lookup_map f key map.entries

def erase [DecidableEq κ] (map : SortedMap κ α) (key : κ) : SortedMap κ α where
  entries := map.entries.filter fun entry => entry.1 ≠ key
  ascending := map.ascending.filter _

theorem find?_erase [DecidableEq κ] (map : SortedMap κ α) (key other : κ) :
    (map.erase key).find? other = if other = key then none else map.find? other :=
  lookup_filter key other map.entries

theorem contains_erase [DecidableEq κ] (map : SortedMap κ α) (key other : κ) :
    (map.erase key).contains other ↔ other ≠ key ∧ map.contains other := by
  unfold contains
  rw [find?_erase]
  by_cases same : other = key <;> simp [same]

/-! ## Insertion -/

section Insertion

variable [LE κ] [DecidableEq κ] [DecidableLT κ] [Std.IsLinearOrder κ] [Std.LawfulOrderLT κ]

theorem pairwise_place (key : κ) (value : α) {entries : List (κ × α)}
    (sorted : entries.Pairwise (fun left right => left.1 < right.1)) :
    (place key value entries).Pairwise (fun left right => left.1 < right.1) := by
  induction entries with
  | nil => simp [place]
  | cons head rest ih =>
      obtain ⟨before, sortedRest⟩ := List.pairwise_cons.1 sorted
      unfold place
      split
      · rename_i less
        refine List.pairwise_cons.2 ⟨fun entry member => ?_, sorted⟩
        rcases List.mem_cons.1 member with rfl | inRest
        · exact less
        · exact Std.lt_trans less (before entry inRest)
      · rename_i notLess
        split
        · rename_i same
          subst same
          exact List.pairwise_cons.2 ⟨before, sortedRest⟩
        · rename_i different
          refine List.pairwise_cons.2 ⟨fun entry member => ?_, ih sortedRest⟩
          rcases mem_place member with rfl | inRest
          · exact Std.lt_of_le_of_ne (Std.not_lt.1 notLess) (Ne.symm different)
          · exact before entry inRest

def insert (map : SortedMap κ α) (key : κ) (value : α) : SortedMap κ α where
  entries := place key value map.entries
  ascending := pairwise_place key value map.ascending

theorem find?_insert (map : SortedMap κ α) (key other : κ) (value : α) :
    (map.insert key value).find? other = if other = key then some value else map.find? other :=
  lookup_place key other value map.entries

/-- Sets the value of `key` only if it has none. -/
def insertNew (map : SortedMap κ α) (key : κ) (value : α) : SortedMap κ α :=
  if map.contains key then map else map.insert key value

theorem find?_insertNew (map : SortedMap κ α) (key other : κ) (value : α) :
    (map.insertNew key value).find? other =
      if other = key then some ((map.find? key).getD value) else map.find? other := by
  unfold insertNew contains
  cases found : map.find? key with
  | none => simp [find?_insert]
  | some old =>
      by_cases same : other = key
      · subst same; simp [found]
      · simp [same]

theorem contains_insert (map : SortedMap κ α) (key other : κ) (value : α) :
    (map.insert key value).contains other ↔ other = key ∨ map.contains other := by
  unfold contains
  rw [find?_insert]
  by_cases same : other = key <;> simp [same]

theorem contains_insertNew (map : SortedMap κ α) (key other : κ) (value : α) :
    (map.insertNew key value).contains other ↔ other = key ∨ map.contains other := by
  unfold contains
  rw [find?_insertNew]
  by_cases same : other = key <;> simp [same]

/-- An entry that counts for nothing in a fold may be added. -/
theorem foldl_values_insertNew {γ : Type} {step : γ → α → γ} {value : α}
    (silent : ∀ state, step state value = state) (map : SortedMap κ α) (key : κ) (state : γ) :
    (map.insertNew key value).values.foldl step state = map.values.foldl step state := by
  unfold insertNew
  split
  · rfl
  · rename_i absent
    have missing : lookup key map.entries = none := by
      simpa [contains, find?] using absent
    exact foldl_place silent missing state

theorem contains_foldl_insert {map : SortedMap κ α} {key : κ} (there : map.contains key)
    (entries : List (κ × α)) :
    (entries.foldl (fun map entry => map.insert entry.1 entry.2) map).contains key := by
  induction entries generalizing map with
  | nil => exact there
  | cons entry later ih => exact ih ((contains_insert ..).mpr (.inr there))

/-- Of entries that are inserted one after the other each is found, if no key stands twice. -/
theorem find?_foldl_insert {entries : List (κ × α)} (distinct : (entries.map Prod.fst).Nodup)
    (map : SortedMap κ α) (key : κ) :
    (entries.foldl (fun map entry => map.insert entry.1 entry.2) map).find? key =
      (lookup key entries).or (map.find? key) := by
  induction entries generalizing map with
  | nil => rfl
  | cons entry rest ih =>
      obtain ⟨other, value⟩ := entry
      obtain ⟨unused, distinct⟩ := List.nodup_cons.1 distinct
      rw [List.foldl_cons, ih distinct, find?_insert, lookup]
      by_cases same : key = other
      · subst same
        have missing : lookup key rest = none :=
          lookup_eq_none fun entry member equal => unused (List.mem_map.2 ⟨entry, member, equal⟩)
        simp [missing]
      · simp [same]

/-- The map of a list of entries, in which the last entry of a key counts. -/
def ofList (entries : List (κ × α)) : SortedMap κ α :=
  entries.foldl (fun map entry => map.insert entry.1 entry.2) empty

end Insertion

/-! ## Extensionality -/

theorem eq_of_lookup [DecidableEq κ] [LE κ] [Std.IsLinearOrder κ] [Std.LawfulOrderLT κ]
    {left right : List (κ × α)}
    (sortedLeft : left.Pairwise (fun a b => a.1 < b.1))
    (sortedRight : right.Pairwise (fun a b => a.1 < b.1))
    (alike : ∀ key, lookup key left = lookup key right) : left = right := by
  induction left generalizing right with
  | nil =>
      cases right with
      | nil => rfl
      | cons entry rest => simpa [lookup] using alike entry.1
  | cons entry rest ih =>
      cases right with
      | nil => simpa [lookup] using alike entry.1
      | cons other tail =>
          obtain ⟨beforeRest, sortedRest⟩ := List.pairwise_cons.1 sortedLeft
          obtain ⟨beforeTail, sortedTail⟩ := List.pairwise_cons.1 sortedRight
          have sameKey : entry.1 = other.1 := by
            rcases Std.lt_trichotomy entry.1 other.1 with less | same | less
            · have none : lookup entry.1 (other :: tail) = none :=
                lookup_eq_none fun e m equal => by
                  rcases List.mem_cons.1 m with rfl | inTail
                  · exact Std.lt_irrefl (equal ▸ less)
                  · exact Std.lt_irrefl (equal ▸ Std.lt_trans less (beforeTail e inTail))
              have found := alike entry.1
              rw [none] at found
              simp [lookup] at found
            · exact same
            · have none : lookup other.1 (entry :: rest) = none :=
                lookup_eq_none fun e m equal => by
                  rcases List.mem_cons.1 m with rfl | inRest
                  · exact Std.lt_irrefl (equal ▸ less)
                  · exact Std.lt_irrefl (equal ▸ Std.lt_trans less (beforeRest e inRest))
              have found := alike other.1
              rw [none] at found
              simp [lookup] at found
          have sameValue : entry.2 = other.2 := by simpa [lookup, sameKey] using alike entry.1
          have sameRest : rest = tail := ih sortedRest sortedTail fun key => by
            by_cases head : key = entry.1
            · subst head
              rw [lookup_eq_none fun e m equal => Std.lt_irrefl (equal ▸ beforeRest e m),
                lookup_eq_none fun e m equal =>
                  Std.lt_irrefl ((sameKey.symm.trans equal.symm) ▸ beforeTail e m)]
            · simpa [lookup, head, sameKey ▸ head] using alike key
          rw [sameRest, Prod.ext sameKey sameValue]

theorem ext_find? [DecidableEq κ] [LE κ] [Std.IsLinearOrder κ] [Std.LawfulOrderLT κ]
    {left right : SortedMap κ α} (alike : ∀ key, left.find? key = right.find? key) :
    left = right := by
  obtain ⟨leftEntries, leftSorted⟩ := left
  obtain ⟨rightEntries, rightSorted⟩ := right
  have same : leftEntries = rightEntries := eq_of_lookup leftSorted rightSorted alike
  subst same
  rfl

theorem nodup_keys [LE κ] [Std.IsLinearOrder κ] [Std.LawfulOrderLT κ] (map : SortedMap κ α) :
    (map.entries.map Prod.fst).Nodup := by
  refine List.pairwise_map.2 (map.ascending.imp fun less same => ?_)
  rw [same] at less
  exact Std.lt_irrefl less

/-- The entries of a map are those that are found. -/
theorem find?_eq_some_iff [DecidableEq κ] [LE κ] [Std.IsLinearOrder κ] [Std.LawfulOrderLT κ]
    (map : SortedMap κ α) (key : κ) (value : α) :
    map.find? key = some value ↔ (key, value) ∈ map.entries :=
  lookup_eq_some_iff map.nodup_keys key value

/-- The values of a map, in the order of an ascending list that has all its keys. -/
theorem values_eq_filterMap [DecidableEq κ] [LE κ] [Std.IsLinearOrder κ] [Std.LawfulOrderLT κ]
    (map : SortedMap κ α) {keys : List κ} (ascending : keys.Pairwise (· < ·))
    (covered : ∀ key, map.contains key → key ∈ keys) : map.values = keys.filterMap map.find? := by
  let entries := keys.filterMap fun key => (map.find? key).map (key, ·)
  have sorted : entries.Pairwise fun left right => left.1 < right.1 := by
    refine List.pairwise_filterMap.mpr (ascending.imp fun less => ?_)
    intro left found right also
    obtain ⟨value, _, rfl⟩ := Option.map_eq_some_iff.mp found
    obtain ⟨other, _, rfl⟩ := Option.map_eq_some_iff.mp also
    exact less
  have same : map.entries = entries := by
    refine eq_of_lookup map.ascending sorted fun key => ?_
    rw [lookup_filterMap]
    split
    · rfl
    · rename_i missing
      exact Option.not_isSome_iff_eq_none.mp fun there => missing (covered key there)
  rw [values, same, List.map_filterMap]
  congr 1
  funext key
  cases map.find? key <;> rfl

theorem insert_eq_self [DecidableEq κ] [LE κ] [DecidableLT κ] [Std.IsLinearOrder κ]
    [Std.LawfulOrderLT κ] {map : SortedMap κ α} {key : κ} {value : α}
    (found : map.find? key = some value) : map.insert key value = map := by
  apply ext_find?
  intro other
  rw [find?_insert]
  split
  · rename_i same
    rw [same, found]
  · rfl

theorem insertNew_erase [DecidableEq κ] [LE κ] [DecidableLT κ] [Std.IsLinearOrder κ]
    [Std.LawfulOrderLT κ] (map : SortedMap κ α) (key : κ) (value : α) :
    (map.erase key).insertNew key value = map.insert key value := by
  apply ext_find?
  intro other
  rw [find?_insertNew, find?_insert, find?_erase, find?_erase, if_pos rfl]
  split
  · rfl
  · rfl

end SortedMap

end RadioGateway
