import Mathlib.Order.Lattice

/-!
# Ordered maps

A map with ordered keys as the list of its entries with ascending keys. `ofEntries` builds
it from any list of entries, and of several entries with one key the first stays.
-/

namespace CoBridge.Library

variable {Key Value Image : Type} [LinearOrder Key]
variable {entries : List (Key × Value)}

/-- Put an entry in its place, for the one that has its key. -/
def assign (entry : Key × Value) : List (Key × Value) → List (Key × Value)
  | [] => [entry]
  | other :: rest =>
    if entry.1 < other.1 then entry :: other :: rest
    else if entry.1 = other.1 then entry :: rest
    else other :: assign entry rest

def ofEntries : List (Key × Value) → List (Key × Value)
  | [] => []
  | entry :: rest => assign entry (ofEntries rest)

/-- Ascending keys. -/
def Ascending (entries : List (Key × Value)) : Prop :=
  entries.Pairwise fun earlier later => earlier.1 < later.1

/-- No key twice. -/
def DistinctKeys (entries : List (Key × Value)) : Prop :=
  entries.Pairwise fun earlier later => earlier.1 ≠ later.1

theorem mem_assign (sorted : Ascending entries) (entry member : Key × Value) :
    member ∈ assign entry entries ↔
      member = entry ∨ member ∈ entries ∧ member.1 ≠ entry.1 := by
  induction entries with
  | nil => simp [assign]
  | cons other rest ih =>
    obtain ⟨above, sortedRest⟩ := List.pairwise_cons.mp sorted
    rw [assign]
    split
    next before =>
      -- every key of the list is above the new one
      have different : member ∈ other :: rest → member.1 ≠ entry.1 := by
        intro listed
        rcases List.mem_cons.mp listed with rfl | later
        · exact before.ne'
        · exact (before.trans (above member later)).ne'
      rw [List.mem_cons, and_iff_left_of_imp different]
    next notBefore =>
      split
      next same =>
        rw [List.mem_cons, List.mem_cons]
        refine or_congr_right ⟨fun later => ⟨.inr later, ?_⟩, ?_⟩
        · exact same ▸ (above member later).ne'
        · rintro ⟨rfl | later, different⟩
          · exact absurd same.symm different
          · exact later
      next different =>
        have first : member = other → member.1 ≠ entry.1 := by
          rintro rfl
          exact Ne.symm different
        rw [List.mem_cons, ih sortedRest, List.mem_cons, or_and_right,
          and_iff_left_of_imp first, or_left_comm]

theorem ascending_assign (sorted : Ascending entries) (entry : Key × Value) :
    Ascending (assign entry entries) := by
  induction entries with
  | nil => exact List.pairwise_singleton _ _
  | cons other rest ih =>
    obtain ⟨above, sortedRest⟩ := List.pairwise_cons.mp sorted
    rw [assign]
    split
    next before =>
      refine List.pairwise_cons.mpr ⟨fun member listed => ?_, sorted⟩
      rcases List.mem_cons.mp listed with rfl | later
      · exact before
      · exact before.trans (above member later)
    next notBefore =>
      split
      next same =>
        exact List.pairwise_cons.mpr ⟨fun member later => same ▸ above member later, sortedRest⟩
      next different =>
        refine List.pairwise_cons.mpr ⟨fun member listed => ?_, ih sortedRest⟩
        rcases (mem_assign sortedRest entry member).mp listed with rfl | ⟨later, _⟩
        · exact lt_of_le_of_ne (le_of_not_gt notBefore) (Ne.symm different)
        · exact above member later

theorem ascending_ofEntries (entries : List (Key × Value)) : Ascending (ofEntries entries) := by
  induction entries with
  | nil => exact List.Pairwise.nil
  | cons entry rest ih => exact ascending_assign ih entry

theorem mem_of_mem_ofEntries {member : Key × Value} (kept : member ∈ ofEntries entries) :
    member ∈ entries := by
  induction entries with
  | nil => exact kept
  | cons entry rest ih =>
    rcases (mem_assign (ascending_ofEntries rest) entry member).mp kept with rfl | ⟨later, _⟩
    · exact List.mem_cons_self
    · exact List.mem_cons_of_mem _ (ih later)

/-- Where no key occurs twice every entry stays. -/
theorem mem_ofEntries (distinct : DistinctKeys entries) (member : Key × Value) :
    member ∈ ofEntries entries ↔ member ∈ entries := by
  induction entries with
  | nil => exact Iff.rfl
  | cons entry rest ih =>
    obtain ⟨others, distinctRest⟩ := List.pairwise_cons.mp distinct
    rw [ofEntries, mem_assign (ascending_ofEntries rest), ih distinctRest,
      List.mem_cons, and_iff_left_of_imp fun listed => (others member listed).symm]

theorem map_assign (change : Value → Image) (entry : Key × Value)
    (entries : List (Key × Value)) :
    (assign entry entries).map (Prod.map id change) =
      assign (Prod.map id change entry) (entries.map (Prod.map id change)) := by
  induction entries with
  | nil => rfl
  | cons other rest ih =>
    rw [List.map_cons, assign, assign]
    change _ = if entry.1 < other.1 then _ else if entry.1 = other.1 then _ else _
    split
    next before => rfl
    next notBefore =>
      split
      next same => rfl
      next different => rw [List.map_cons, ih]

/-- Changing the values keeps the places. -/
theorem map_ofEntries (change : Value → Image) (entries : List (Key × Value)) :
    (ofEntries entries).map (Prod.map id change) =
      ofEntries (entries.map (Prod.map id change)) := by
  induction entries with
  | nil => rfl
  | cons entry rest ih =>
    rw [ofEntries, map_assign, ih]
    rfl

/-- An ordered map is built from its own entries. -/
theorem ofEntries_of_ascending (sorted : Ascending entries) :
    ofEntries entries = entries := by
  induction entries with
  | nil => rfl
  | cons entry rest ih =>
    obtain ⟨above, sortedRest⟩ := List.pairwise_cons.mp sorted
    rw [ofEntries, ih sortedRest]
    cases rest with
    | nil => rfl
    | cons next rest => rw [assign, if_pos (above next List.mem_cons_self)]

section Lookup

variable [BEq Key]

omit [LinearOrder Key] in
theorem lookup_map (change : Value → Image) (entries : List (Key × Value)) (key : Key) :
    (entries.map (Prod.map id change)).lookup key = (entries.lookup key).map change := by
  induction entries with
  | nil => rfl
  | cons entry rest ih =>
    obtain ⟨name, value⟩ := entry
    cases found : key == name with
    | false => simp [List.lookup_cons, found, ih]
    | true => simp [List.lookup_cons, found]

end Lookup

end CoBridge.Library
