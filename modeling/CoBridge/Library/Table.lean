import Mathlib.Data.List.AList

/-!
# Finite tables

A `Table` is an association list without repeated keys. The update operations
added here to those of `AList` are the ones containers of a mutable program
have: insertion that keeps an existing entry (`emplace`), a change of one entry
in place (`modify`) and erasure of several keys. `count_eq_erase` makes counting the entries
with a property local to one key.
-/

namespace CoBridge.Library

/-- Finite maps with at most one entry for each key. -/
abbrev Table (Key Value : Type) : Type := AList fun _ : Key => Value

namespace Table

variable {Key Value Image : Type}

/-- Change every value, keeping keys and iteration order. -/
def mapWithKey (change : Key → Value → Image) (table : Table Key Value) : Table Key Image where
  entries := table.entries.map fun entry => ⟨entry.1, change entry.1 entry.2⟩
  nodupKeys := by
    have keys : (table.entries.map fun entry => (⟨entry.1, change entry.1 entry.2⟩ :
        Σ _ : Key, Image)).keys = table.entries.keys := by
      simp [List.keys, Function.comp_def]
    rw [List.NodupKeys, keys]
    exact table.nodupKeys

/-- The entries whose keys are kept, in the same order. -/
def restrict (keep : Key → Bool) (table : Table Key Value) : Table Key Value where
  entries := table.entries.filter fun entry => keep entry.1
  nodupKeys := table.nodupKeys.sublist List.filter_sublist

/-- The values in iteration order. -/
def values (table : Table Key Value) : List Value := table.entries.map Sigma.snd

/-- The number of entries whose value has the property. -/
def count (property : Value → Bool) (table : Table Key Value) : Nat :=
  table.entries.countP fun entry => property entry.2

theorem keys_restrict (keep : Key → Bool) (table : Table Key Value) :
    (table.restrict keep).keys = table.keys.filter keep := by
  change ((table.entries.filter _).map _) = (table.entries.map _).filter keep
  rw [List.filter_map]
  rfl

theorem restrict_mapWithKey (keep : Key → Bool) (change : Key → Value → Image)
    (table : Table Key Value) :
    (table.mapWithKey change).restrict keep = (table.restrict keep).mapWithKey change := by
  apply AList.ext
  change (table.entries.map _).filter _ = (table.entries.filter _).map _
  rw [List.filter_map]
  rfl

variable {table : Table Key Value} {InnerKey : Type} {key : Key} (property : Value → Bool)

/-- Keeping all keys of a table keeps the table. -/
theorem restrict_eq_self {keep : Key → Bool} (all : ∀ key ∈ table, keep key) :
    table.restrict keep = table := by
  apply AList.ext
  apply List.filter_eq_self.mpr
  intro entry member
  exact all entry.1 (List.mem_map_of_mem member)

variable [DecidableEq Key]

/-- Add an entry unless the key has one already. -/
def emplace (key : Key) (value : Value) (table : Table Key Value) : Table Key Value :=
  if key ∈ table then table else table.insert key value

/-- Change the value of one key in place; a missing key stays missing. -/
def modify (key : Key) (change : Value → Value) (table : Table Key Value) : Table Key Value :=
  table.mapWithKey fun other value => if other = key then change value else value

/-- Erase every listed key. -/
def eraseAll (keys : List Key) (table : Table Key Value) : Table Key Value :=
  keys.foldl (fun remaining key => remaining.erase key) table

/-- Erase an entry of an inner table; an inner table that becomes empty is
erased with it. -/
def eraseInner {InnerKey : Type} [DecidableEq InnerKey] (key : Key) (innerKey : InnerKey)
    (table : Table Key (Table InnerKey Value)) : Table Key (Table InnerKey Value) :=
  if (((table.lookup key).getD ∅).erase innerKey).keys.isEmpty then table.erase key
  else table.modify key fun inner => inner.erase innerKey

@[simp] theorem lookup_mapWithKey (change : Key → Value → Image) (table : Table Key Value)
    (key : Key) : (table.mapWithKey change).lookup key = (table.lookup key).map (change key) :=
  List.dlookup_map₂ key

@[simp] theorem mem_mapWithKey (change : Key → Value → Image) (table : Table Key Value)
    (key : Key) : key ∈ table.mapWithKey change ↔ key ∈ table := by
  rw [← AList.lookup_isSome, ← AList.lookup_isSome, lookup_mapWithKey, Option.isSome_map]

theorem lookup_emplace (key other : Key) (value : Value) (table : Table Key Value) :
    (table.emplace key value).lookup other =
      if other = key then some ((table.lookup key).getD value) else table.lookup other := by
  unfold emplace
  by_cases present : key ∈ table
  · obtain ⟨old, found⟩ := Option.isSome_iff_exists.mp (AList.lookup_isSome.mpr present)
    by_cases same : other = key
    · subst other
      simp [present, found]
    · simp [present, same]
  · by_cases same : other = key
    · subst other
      simp [present, AList.lookup_eq_none.mpr present]
    · simp [present, same]

@[simp] theorem mem_emplace (key other : Key) (value : Value) (table : Table Key Value) :
    other ∈ table.emplace key value ↔ other = key ∨ other ∈ table := by
  rw [← AList.lookup_isSome, lookup_emplace, ← AList.lookup_isSome]
  by_cases same : other = key <;> simp [same]

theorem lookup_modify (key other : Key) (change : Value → Value) (table : Table Key Value) :
    (table.modify key change).lookup other =
      if other = key then (table.lookup key).map change else table.lookup other := by
  rw [modify, lookup_mapWithKey]
  by_cases same : other = key
  · subst other
    simp
  · simp [same]

@[simp] theorem mem_modify (key other : Key) (change : Value → Value) (table : Table Key Value) :
    other ∈ table.modify key change ↔ other ∈ table := mem_mapWithKey _ _ _

/-- Changes that keep every stored value keep the table. -/
theorem mapWithKey_eq_self {change : Key → Value → Value}
    (fixed : ∀ key value, table.lookup key = some value → change key value = value) :
    table.mapWithKey change = table := by
  apply AList.ext
  conv_rhs => rw [← List.map_id table.entries]
  apply List.map_congr_left
  rintro ⟨key, value⟩ member
  simp [fixed key value (AList.mem_lookup_iff.mpr member)]

theorem modify_eq_self {change : Value → Value}
    (fixed : ∀ value, table.lookup key = some value → change value = value) :
    table.modify key change = table := by
  apply mapWithKey_eq_self
  intro other value found
  split
  · subst other
    exact fixed value found
  · rfl

theorem emplace_of_mem (present : key ∈ table) (value : Value) :
    table.emplace key value = table := if_pos present

theorem lookup_eraseAll (keys : List Key) (other : Key) (table : Table Key Value) :
    (table.eraseAll keys).lookup other = if other ∈ keys then none else table.lookup other := by
  induction keys generalizing table with
  | nil => simp [eraseAll]
  | cons key rest ih =>
    change (eraseAll rest (table.erase key)).lookup other = _
    rw [ih]
    by_cases same : other = key
    · subst other
      simp
    · simp [same]

@[simp] theorem mem_eraseAll (keys : List Key) (other : Key) (table : Table Key Value) :
    other ∈ table.eraseAll keys ↔ other ∉ keys ∧ other ∈ table := by
  rw [← AList.lookup_isSome, lookup_eraseAll, ← AList.lookup_isSome]
  by_cases listed : other ∈ keys <;> simp [listed]

/-- Erasing keys that are not there keeps the table. -/
theorem eraseAll_eq_self {keys : List Key} (absent : ∀ key ∈ keys, key ∉ table) :
    table.eraseAll keys = table := by
  induction keys with
  | nil => rfl
  | cons key rest ih =>
    have first : table.erase key = table :=
      AList.ext (List.kerase_of_notMem_keys (absent key List.mem_cons_self))
    rw [eraseAll, List.foldl_cons, first]
    exact ih fun other member => absent other (List.mem_cons_of_mem _ member)

/-- Lookup through an overwriting insertion, as one equation. -/
theorem lookup_insert_ite (key other : Key) (value : Value) (table : Table Key Value) :
    (table.insert key value).lookup other =
      if other = key then some value else table.lookup other := by
  by_cases same : other = key
  · subst other
    simp
  · simp [same]

/-- Lookup through an erasure, as one equation. -/
theorem lookup_erase_ite (key other : Key) (table : Table Key Value) :
    (table.erase key).lookup other = if other = key then none else table.lookup other := by
  by_cases same : other = key
  · subst other
    simp
  · simp [same]

theorem mem_iff_lookup (key : Key) (table : Table Key Value) :
    key ∈ table ↔ ∃ value, table.lookup key = some value := by
  rw [← AList.lookup_isSome, Option.isSome_iff_exists]

theorem mem_of_lookup {value : Value} (found : table.lookup key = some value) : key ∈ table :=
  (mem_iff_lookup key table).mpr ⟨value, found⟩

omit [DecidableEq Key] in
theorem keys_isEmpty_iff (table : Table Key Value) :
    table.keys.isEmpty = true ↔ ∀ key, key ∉ table := by
  rw [List.isEmpty_iff, List.eq_nil_iff_forall_not_mem]
  exact forall_congr' fun key => not_congr AList.mem_keys.symm

/-- A key survives the erasure of an inner entry unless nothing else is left of it. -/
theorem mem_eraseInner [DecidableEq InnerKey] (key other : Key) (innerKey : InnerKey)
    (table : Table Key (Table InnerKey Value)) :
    other ∈ table.eraseInner key innerKey ↔
      other ∈ table ∧ (other = key → ∃ left ∈ (table.lookup key).getD ∅, left ≠ innerKey) := by
  unfold eraseInner
  split
  · next emptied =>
    have nothing := (keys_isEmpty_iff _).mp emptied
    simp only [AList.mem_erase, not_and] at nothing ⊢
    constructor
    · exact fun survives => ⟨survives.2, fun same => absurd same survives.1⟩
    · rintro ⟨present, left⟩
      refine ⟨fun same => ?_, present⟩
      obtain ⟨inner, member, different⟩ := left same
      exact nothing inner different member
  · next remains =>
    rw [mem_modify, keys_isEmpty_iff] at *
    push Not at remains
    obtain ⟨inner, member⟩ := remains
    rw [AList.mem_erase] at member
    exact ⟨fun present => ⟨present, fun _ => ⟨inner, member.2, member.1⟩⟩, And.left⟩

/-- Exactly one inner entry is erased. -/
theorem lookup_eraseInner_of_ne [DecidableEq InnerKey] {other : Key} (different : other ≠ key)
    (innerKey : InnerKey) (table : Table Key (Table InnerKey Value)) :
    (table.eraseInner key innerKey).lookup other = table.lookup other := by
  unfold eraseInner
  split
  · rw [lookup_erase_ite, if_neg different]
  · rw [lookup_modify, if_neg different]

theorem mem_lookup_eraseInner [DecidableEq InnerKey] (key other : Key)
    (innerKey innerOther : InnerKey) (table : Table Key (Table InnerKey Value)) :
    innerOther ∈ ((table.eraseInner key innerKey).lookup other).getD ∅ ↔
      innerOther ∈ (table.lookup other).getD ∅ ∧ ¬(other = key ∧ innerOther = innerKey) := by
  unfold eraseInner
  split
  · next emptied =>
    have nothing := (keys_isEmpty_iff _).mp emptied
    simp only [AList.mem_erase, not_and] at nothing
    rw [lookup_erase_ite]
    split
    · subst other
      simp only [Option.getD_none, AList.notMem_empty, true_and, false_iff, not_and, not_not]
      exact fun member => by_contra fun different => nothing innerOther different member
    · next different => simp [different]
  · rw [lookup_modify]
    split
    · subst other
      rcases table.lookup key with _ | inner
      · simp
      · simp [and_comm]
    · next different => simp [different]

theorem lookup_eraseInner_self [DecidableEq InnerKey] (key : Key) (innerKey : InnerKey)
    (table : Table Key (Table InnerKey Value)) :
    (table.eraseInner key innerKey).lookup key =
      if (((table.lookup key).getD ∅).erase innerKey).keys.isEmpty then none
      else (table.lookup key).map fun inner => inner.erase innerKey := by
  unfold eraseInner
  split
  · rw [AList.lookup_erase]
  · rw [lookup_modify, if_pos rfl]

/-- The values of all inner entries but one are kept. -/
theorem lookup_lookup_eraseInner [DecidableEq InnerKey] (key other : Key) (innerKey : InnerKey)
    (table : Table Key (Table InnerKey Value)) :
    (((table.eraseInner key innerKey).lookup other).getD ∅).lookup innerKey =
      if other = key then none else ((table.lookup other).getD ∅).lookup innerKey := by
  by_cases same : other = key
  · subst other
    rw [if_pos rfl, AList.lookup_eq_none]
    intro member
    exact ((mem_lookup_eraseInner _ _ _ _ _).mp member).2 ⟨rfl, rfl⟩
  · rw [if_neg same, lookup_eraseInner_of_ne same]

/-- What is found first is found first among fewer entries, as long as it is there. -/
theorem find_of_sublist {Item : Type} {items all : List Item} {property : Item → Bool} {item : Item}
    (fewer : items.Sublist all) (distinct : all.Nodup) (found : all.find? property = some item)
    (member : item ∈ items) : items.find? property = some item := by
  induction fewer with
  | slnil => exact found
  | @cons items all first fewer ih =>
    obtain ⟨notIn, distinct⟩ := List.nodup_cons.mp distinct
    rw [List.find?_cons] at found
    split at found
    · cases found
      exact absurd (fewer.subset member) notIn
    · exact ih distinct found member
  | @cons_cons items all first fewer ih =>
    obtain ⟨_, distinct⟩ := List.nodup_cons.mp distinct
    rw [List.find?_cons] at found ⊢
    split at found
    · exact found
    · next fails =>
      refine ih distinct found ?_
      rcases List.mem_cons.mp member with rfl | later
      · have holds := List.find?_some found
        rw [fails] at holds
        cases holds
      · exact later

theorem mem_values_iff (value : Value) (table : Table Key Value) :
    value ∈ table.values ↔ ∃ key, table.lookup key = some value := by
  constructor
  · intro member
    obtain ⟨⟨key, stored⟩, entry, rfl⟩ := List.mem_map.mp member
    exact ⟨key, AList.mem_lookup_iff.mpr entry⟩
  · rintro ⟨key, found⟩
    exact List.mem_map.mpr ⟨⟨key, value⟩, AList.mem_lookup_iff.mp found, rfl⟩

omit [DecidableEq Key] in
@[simp] theorem count_empty :
    count property (∅ : Table Key Value) = 0 := rfl

omit [DecidableEq Key] in
theorem count_mapWithKey (property : Image → Bool) (change : Key → Value → Image)
    (table : Table Key Value) (kept : Value → Bool)
    (same : ∀ key value, property (change key value) = kept value) :
    (table.mapWithKey change).count property = table.count kept := by
  simp only [count, mapWithKey, List.countP_map]
  congr 1
  funext entry
  exact same entry.1 entry.2

theorem count_insert (key : Key) (value : Value) (table : Table Key Value) :
    count property (table.insert key value) =
      (if property value then 1 else 0) + count property (table.erase key) := by
  have erased : (table.erase key).entries = table.entries.kerase key := rfl
  simp only [count, AList.entries_insert, erased, List.countP_cons]
  omega

/-- Counting splits off the entry of any one key. -/
theorem count_eq_erase (key : Key) (table : Table Key Value) :
    count property table =
      (if (table.lookup key).any property then 1 else 0) + count property (table.erase key) := by
  rcases found : table.lookup key with _ | value
  · have absent := AList.lookup_eq_none.mp found
    have unchanged : table.erase key = table :=
      AList.ext (List.kerase_of_notMem_keys absent)
    simp [unchanged]
  · have entry := AList.mem_lookup_iff.mp found
    have permuted : table.entries.Perm (⟨key, value⟩ :: (table.erase key).entries) := by
      obtain ⟨stored, front, back, _, split, erased⟩ :=
        List.exists_of_kerase (AList.mem_keys.mp (mem_of_lookup found))
      have nodup := table.nodupKeys
      rw [split] at entry nodup
      have stores : stored = value := by
        have atKey := List.mem_dlookup (a := key) (b := stored) nodup (by simp)
        have atEntry := List.mem_dlookup nodup entry
        rw [atKey] at atEntry
        exact Option.some.inj atEntry
      subst stored
      have erasedEntries : (table.erase key).entries = front ++ back := erased
      rw [erasedEntries, split]
      exact List.perm_middle
    unfold count
    rw [permuted.countP_eq, List.countP_cons]
    simp
    omega

private theorem kerase_map_change (key : Key) (change : Value → Value)
    (entries : List (Σ _ : Key, Value)) (nodup : entries.NodupKeys) :
    List.kerase key (entries.map fun entry => (⟨entry.1,
      if entry.1 = key then change entry.2 else entry.2⟩ : Σ _ : Key, Value)) =
        List.kerase key entries := by
  induction entries with
  | nil => rfl
  | cons entry rest ih =>
    obtain ⟨entryKey, value⟩ := entry
    obtain ⟨headFresh, restNodup⟩ := List.nodupKeys_cons.mp nodup
    rw [List.map_cons]
    by_cases same : entryKey = key
    · -- The erased entry is the only changed one: its key does not occur in the rest.
      subst same
      have others : rest.map (fun other => (⟨other.1,
          if other.1 = entryKey then change other.2 else other.2⟩ : Σ _ : Key, Value)) = rest := by
        conv_rhs => rw [← List.map_id rest]
        apply List.map_congr_left
        intro other member
        have different : other.1 ≠ entryKey := by
          rintro rfl
          exact headFresh (List.mem_map.mpr ⟨other, member, rfl⟩)
        simp [different]
      simp [others]
    · rw [List.kerase_cons_ne (Ne.symm same), List.kerase_cons_ne (Ne.symm same),
        ih restNodup]
      simp [same]

@[simp] theorem erase_modify (key : Key) (change : Value → Value) (table : Table Key Value) :
    AList.erase key (table.modify key change) = AList.erase key table :=
  AList.ext (kerase_map_change key change table.entries table.nodupKeys)

theorem count_modify (key : Key) (change : Value → Value) (table : Table Key Value) :
    count property (table.modify key change) =
      (if ((table.lookup key).map change).any property then 1 else 0) +
        count property (table.erase key) := by
  rw [count_eq_erase property key, erase_modify, lookup_modify, if_pos rfl]

end Table

/-- Finite sets that are iterated over, as tables without values. -/
abbrev KeySet (Key : Type) : Type := Table Key Unit

namespace KeySet

variable {Key : Type} [DecidableEq Key]

def insertAll (keys : List Key) (set : KeySet Key) : KeySet Key :=
  keys.foldl (fun grown key => Table.emplace key () grown) set

@[simp] theorem mem_insertAll (keys : List Key) (set : KeySet Key) (key : Key) :
    key ∈ insertAll keys set ↔ key ∈ keys ∨ key ∈ set := by
  induction keys generalizing set with
  | nil => simp [insertAll]
  | cons head rest ih =>
    change key ∈ insertAll rest (Table.emplace head () set) ↔ _
    rw [ih, Table.mem_emplace, List.mem_cons, or_left_comm, or_assoc]

/-- Inserting keys that are there already keeps the set. -/
theorem insertAll_eq_self {keys : List Key} {set : KeySet Key} (present : ∀ key ∈ keys, key ∈ set) :
    insertAll keys set = set := by
  induction keys with
  | nil => rfl
  | cons key rest ih =>
    rw [insertAll, List.foldl_cons, Table.emplace_of_mem (present key List.mem_cons_self)]
    exact ih fun other member => present other (List.mem_cons_of_mem _ member)

end KeySet

end CoBridge.Library
