import Mathlib.Algebra.Group.Nat.Defs
import CoBridge.Library.Table

/-!
# Tables filled from a counter

A `Registry` holds items under numbers it takes from a 32-bit counter. Items carry a
label, and the point of a registry is that a number stands for one label for ever:
not only does no label occur twice, a number that was given up is not given again to
another label. `Sound` keeps the numbers given so far, which is what this needs.

`Mirrors` relates a registry's table to a second one that stores the same items with
more detail.
-/

namespace CoBridge.Library

open Table

/-- Items under numbers, and the last number that was taken. -/
structure Registry (Item : Type) where
  held : Table UInt32 Item
  counter : UInt32

namespace Registry

variable {Item Label : Type} {label : Item → Label} {registry : Registry Item}
variable {number : UInt32}

/-- Hold an item under the next number. A number that is in use keeps its item. -/
def enter (registry : Registry Item) (item : Item) : Registry Item where
  held := registry.held.emplace (registry.counter + 1) item
  counter := registry.counter + 1

def enterAll (items : List Item) (registry : Registry Item) : Registry Item :=
  items.foldl enter registry

@[simp] theorem enterAll_nil : registry.enterAll [] = registry := rfl

@[simp] theorem enterAll_cons (item : Item) (rest : List Item) :
    registry.enterAll (item :: rest) = (registry.enter item).enterAll rest := rfl

/-- Give up numbers. -/
def giveUp (numbers : List UInt32) (registry : Registry Item) : Registry Item :=
  { registry with held := registry.held.eraseAll numbers }

/-- Some item with the label is held. -/
def Holds (label : Item → Label) (registry : Registry Item) (wanted : Label) : Prop :=
  ∃ number item, registry.held.lookup number = some item ∧ label item = wanted

/-- No label is held under two numbers. -/
def Distinct (label : Item → Label) (registry : Registry Item) : Prop :=
  ∀ ⦃number other item another⦄, registry.held.lookup number = some item →
    registry.held.lookup other = some another → label item = label another → number = other

/-- After `taken` numbers, given to labels as listed. -/
structure Sound (label : Item → Label) (taken : Nat) (given : List (UInt32 × Label))
    (registry : Registry Item) : Prop where
  counter : registry.counter = UInt32.ofNat taken
  bounded : taken < 2 ^ 32
  distinct : registry.Distinct label
  recorded : ∀ {number item}, registry.held.lookup number = some item →
    (number, label item) ∈ given
  numbered : ∀ {entry}, entry ∈ given → entry.1.toNat ≤ taken
  functional : ∀ {number first second}, (number, first) ∈ given → (number, second) ∈ given →
    first = second

theorem sound_empty : Sound label 0 [] (⟨∅, 0⟩ : Registry Item) where
  counter := rfl
  bounded := by decide
  distinct := fun _ _ _ _ found => nomatch found
  recorded := fun found => nomatch found
  numbered := fun member => nomatch member
  functional := fun member => nomatch member

theorem lookup_giveUp (numbers : List UInt32) (number : UInt32) :
    (registry.giveUp numbers).held.lookup number =
      if number ∈ numbers then none else registry.held.lookup number :=
  lookup_eraseAll numbers number registry.held

theorem lookup_of_giveUp {numbers : List UInt32} {item : Item}
    (found : (registry.giveUp numbers).held.lookup number = some item) :
    registry.held.lookup number = some item := by
  rw [lookup_giveUp] at found
  split at found
  · cases found
  · exact found

theorem Distinct.giveUp (distinct : registry.Distinct label) (numbers : List UInt32) :
    (registry.giveUp numbers).Distinct label := fun _ _ _ _ first second same =>
  distinct (lookup_of_giveUp first) (lookup_of_giveUp second) same

/-- What is found after entering an item was there, or is the item under the next number. -/
theorem lookup_of_enter {item stored : Item}
    (found : (registry.enter item).held.lookup number = some stored) :
    registry.held.lookup number = some stored ∨ number = registry.counter + 1 ∧ stored = item := by
  rw [enter, lookup_emplace] at found
  split at found
  · next same =>
    subst same
    cases earlier : registry.held.lookup (registry.counter + 1) with
    | none =>
      rw [earlier] at found
      exact .inr ⟨rfl, (Option.some.inj found).symm⟩
    | some old =>
      rw [earlier] at found
      exact .inl found
  · exact .inl found

theorem Distinct.enter (distinct : registry.Distinct label) {item : Item}
    (new : ¬ registry.Holds label (label item)) : (registry.enter item).Distinct label := by
  intro number other first second foundFirst foundSecond same
  rcases lookup_of_enter foundFirst with earlier | ⟨here, rfl⟩ <;>
    rcases lookup_of_enter foundSecond with earlierToo | ⟨there, rfl⟩
  · exact distinct earlier earlierToo same
  · exact absurd ⟨number, first, earlier, same⟩ new
  · exact absurd ⟨other, second, earlierToo, same.symm⟩ new
  · exact here.trans there.symm

/-- Whatever the counter does, entering adds nothing but the items. -/
theorem lookup_of_enterAll {items : List Item} {stored : Item}
    (found : (registry.enterAll items).held.lookup number = some stored) :
    registry.held.lookup number = some stored ∨ stored ∈ items := by
  induction items generalizing registry with
  | nil => exact .inl found
  | cons item rest ih =>
    rcases ih found with earlier | later
    · rcases lookup_of_enter earlier with before | ⟨-, rfl⟩
      · exact .inl before
      · exact .inr List.mem_cons_self
    · exact .inr (List.mem_cons_of_mem _ later)

theorem Distinct.enterAll (distinct : registry.Distinct label) {items : List Item}
    (nodup : (items.map label).Nodup)
    (new : ∀ item ∈ items, ¬ registry.Holds label (label item)) :
    (registry.enterAll items).Distinct label := by
  induction items generalizing registry with
  | nil => exact distinct
  | cons item rest ih =>
    obtain ⟨unlisted, restNodup⟩ := List.nodup_cons.mp nodup
    refine ih (distinct.enter (new item List.mem_cons_self)) restNodup ?_
    rintro later member ⟨number, stored, found, same⟩
    rcases lookup_of_enter found with before | ⟨-, rfl⟩
    · exact new later (List.mem_cons_of_mem _ member) ⟨number, stored, before, same⟩
    · exact unlisted (same ▸ List.mem_map_of_mem member)

section Sound

variable {taken : Nat} {given : List (UInt32 × Label)}

theorem Sound.giveUp (sound : Sound label taken given registry) (numbers : List UInt32) :
    Sound label taken given (registry.giveUp numbers) where
  counter := sound.counter
  bounded := sound.bounded
  distinct := sound.distinct.giveUp numbers
  recorded := fun found => sound.recorded (lookup_of_giveUp found)
  numbered := sound.numbered
  functional := sound.functional

/-- The next number, as long as the counter does not wrap. -/
theorem Sound.next_toNat (sound : Sound label taken given registry) (room : taken + 1 < 2 ^ 32) :
    (registry.counter + 1).toNat = taken + 1 := by
  rw [sound.counter, UInt32.toNat_add, UInt32.toNat_ofNat_of_lt' sound.bounded]
  exact Nat.mod_eq_of_lt room

theorem Sound.next_fresh (sound : Sound label taken given registry) (room : taken + 1 < 2 ^ 32)
    {entry : UInt32 × Label} (member : entry ∈ given) : entry.1 ≠ registry.counter + 1 := by
  intro same
  have bound := sound.numbered member
  rw [same, sound.next_toNat room] at bound
  omega

theorem Sound.lookup_next (sound : Sound label taken given registry)
    (room : taken + 1 < 2 ^ 32) : registry.held.lookup (registry.counter + 1) = none := by
  cases found : registry.held.lookup (registry.counter + 1) with
  | none => rfl
  | some item => exact absurd rfl (sound.next_fresh room (sound.recorded found))

theorem Sound.lookup_enter (sound : Sound label taken given registry) (room : taken + 1 < 2 ^ 32)
    (item : Item) (number : UInt32) :
    (registry.enter item).held.lookup number =
      if number = registry.counter + 1 then some item else registry.held.lookup number := by
  rw [enter, lookup_emplace]
  split
  · next same =>
    rw [sound.lookup_next room]
    rfl
  · rfl

/-- A new item gets a number that was never given. -/
theorem Sound.enter (sound : Sound label taken given registry) (room : taken + 1 < 2 ^ 32)
    {item : Item} (new : ¬ registry.Holds label (label item)) :
    Sound label (taken + 1) (given ++ [(registry.counter + 1, label item)])
      (registry.enter item) where
  counter := by
    rw [← UInt32.toNat_inj, UInt32.toNat_ofNat_of_lt' room]
    exact sound.next_toNat room
  bounded := room
  distinct := sound.distinct.enter new
  recorded := by
    intro number found recorded
    rw [sound.lookup_enter room] at recorded
    split at recorded
    · next same =>
      cases recorded
      rw [same]
      exact List.mem_append_right _ List.mem_cons_self
    · exact List.mem_append_left _ (sound.recorded recorded)
  numbered := by
    intro entry member
    rcases List.mem_append.mp member with earlier | last
    · exact Nat.le_succ_of_le (sound.numbered earlier)
    · rw [List.mem_singleton.mp last]
      exact Nat.le_of_eq (sound.next_toNat room)
  functional := by
    intro number first second memberFirst memberSecond
    rcases List.mem_append.mp memberFirst with earlier | last <;>
      rcases List.mem_append.mp memberSecond with earlierToo | lastToo
    · exact sound.functional earlier earlierToo
    · cases List.mem_singleton.mp lastToo
      exact absurd rfl (sound.next_fresh room earlier)
    · cases List.mem_singleton.mp last
      exact absurd rfl (sound.next_fresh room earlierToo)
    · cases List.mem_singleton.mp last
      cases List.mem_singleton.mp lastToo
      rfl

theorem Sound.holds_enter_iff (sound : Sound label taken given registry)
    (room : taken + 1 < 2 ^ 32) (item : Item) (wanted : Label) :
    (registry.enter item).Holds label wanted ↔
      registry.Holds label wanted ∨ label item = wanted := by
  constructor
  · rintro ⟨number, stored, found, same⟩
    rw [sound.lookup_enter room] at found
    split at found
    · cases found
      exact .inr same
    · exact .inl ⟨number, stored, found, same⟩
  · rintro (⟨number, stored, found, same⟩ | same)
    · refine ⟨number, stored, ?_, same⟩
      rw [sound.lookup_enter room, if_neg (sound.next_fresh room (sound.recorded found)), found]
    · exact ⟨registry.counter + 1, item, by rw [sound.lookup_enter room, if_pos rfl], same⟩

/-- What entering new items does: the registry stays sound with more numbers given,
holds their labels as well, and keeps every entry. -/
theorem Sound.enterAll (sound : Sound label taken given registry) {items : List Item}
    (room : taken + items.length < 2 ^ 32) (nodup : (items.map label).Nodup)
    (new : ∀ item ∈ items, ¬ registry.Holds label (label item)) :
    (∃ more, Sound label (taken + items.length) (given ++ more) (registry.enterAll items)) ∧
      (∀ wanted, (registry.enterAll items).Holds label wanted ↔
        registry.Holds label wanted ∨ wanted ∈ items.map label) ∧
      ∀ {number item}, registry.held.lookup number = some item →
        (registry.enterAll items).held.lookup number = some item := by
  induction items generalizing registry taken given with
  | nil => exact ⟨⟨[], by simpa using sound⟩, by simp, id⟩
  | cons item rest ih =>
    rw [List.length_cons] at room
    have here : taken + 1 < 2 ^ 32 := by omega
    obtain ⟨unlisted, restNodup⟩ := List.nodup_cons.mp nodup
    have entered := sound.enter here (new item List.mem_cons_self)
    have stillNew : ∀ later ∈ rest, ¬ (registry.enter item).Holds label (label later) := by
      intro later member held
      rcases (sound.holds_enter_iff here item _).mp held with before | same
      · exact new later (List.mem_cons_of_mem _ member) before
      · exact unlisted (same ▸ List.mem_map_of_mem member)
    obtain ⟨⟨more, reached⟩, holds, kept⟩ :=
      ih entered (by omega) restNodup stillNew
    refine ⟨⟨(registry.counter + 1, label item) :: more, ?_⟩, fun wanted => ?_, fun found => ?_⟩
    · rw [List.length_cons, Nat.add_comm rest.length, ← Nat.add_assoc]
      simpa using reached
    · refine (holds wanted).trans ?_
      rw [sound.holds_enter_iff here, List.map_cons, List.mem_cons, or_assoc]
      simp only [eq_comm]
    · apply kept
      rw [sound.lookup_enter here, if_neg (sound.next_fresh here (sound.recorded found)), found]

end Sound

end Registry

/-- A table of the same items in more detail. -/
def Mirrors {Key Item Stored : Type} [DecidableEq Key] (forget : Stored → Item)
    (copy : Table Key Item) (store : Table Key Stored) : Prop :=
  ∀ key, (store.lookup key).map forget = copy.lookup key

namespace Mirrors

variable {Key Item Stored : Type} [DecidableEq Key] {forget : Stored → Item}
  {copy : Table Key Item} {store : Table Key Stored}

theorem eraseAll (mirrors : Mirrors forget copy store) (keys : List Key) :
    Mirrors forget (copy.eraseAll keys) (store.eraseAll keys) := by
  intro key
  rw [lookup_eraseAll, lookup_eraseAll]
  split
  · rfl
  · exact mirrors key

theorem emplace (mirrors : Mirrors forget copy store) (key : Key) (stored : Stored) :
    Mirrors forget (copy.emplace key (forget stored)) (store.emplace key stored) := by
  intro other
  rw [lookup_emplace, lookup_emplace, ← mirrors key, ← mirrors other]
  split
  · cases store.lookup key <;> rfl
  · rfl

end Mirrors

end CoBridge.Library
