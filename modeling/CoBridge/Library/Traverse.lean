import Mathlib.Init
import Mathlib.Data.List.Basic

/-!
# Fallible functions on lists

`List.mapM` in `Except` stops at the first failure. What follows is about two such
functions where one undoes the other.
-/

namespace CoBridge.Library

section

variable {Source Target Fault : Type} {forth : Source → Except Fault Target}
  {back : Target → Except Fault Source}
variable {items : List Source} {results : List Target}

theorem map_ok_iff {outcome : Except Fault Source} {change : Source → Target} {result : Target} :
    outcome.map change = .ok result ↔ ∃ value, outcome = .ok value ∧ change value = result := by
  cases outcome with
  | error fault => simp [Except.map]
  | ok value => simp [Except.map]

theorem mapM_cons_ok {first : Source} {rest : List Source} :
    (first :: rest).mapM forth = .ok results ↔
      ∃ result others, forth first = .ok result ∧ rest.mapM forth = .ok others ∧
        results = result :: others := by
  rw [List.mapM_cons]
  cases forth first with
  | error fault => simp [bind, Except.bind]
  | ok result =>
    cases rest.mapM forth with
    | error fault => simp [bind, Except.bind]
    | ok others => simp [bind, Except.bind, pure, Except.pure, eq_comm]

theorem length_of_mapM (done : items.mapM forth = .ok results) : results.length = items.length := by
  induction items generalizing results with
  | nil =>
    cases done
    rfl
  | cons first rest ih =>
    obtain ⟨result, others, _, later, rfl⟩ := mapM_cons_ok.mp done
    rw [List.length_cons, List.length_cons, ih later]

/-- A list fails with the failure of the first item that fails. -/
theorem mapM_error_iff {fault : Fault} :
    items.mapM forth = .error fault ↔
      ∃ before item after, items = before ++ item :: after ∧
        (∀ earlier ∈ before, ∃ result, forth earlier = .ok result) ∧ forth item = .error fault := by
  induction items with
  | nil =>
    refine iff_of_false (by rintro ⟨⟩) ?_
    rintro ⟨before, item, after, split, _⟩
    exact absurd split.symm (List.append_ne_nil_of_right_ne_nil _ (List.cons_ne_nil _ _))
  | cons first rest ih =>
    rw [List.mapM_cons]
    cases started : forth first with
    | error other =>
      constructor
      · rintro ⟨⟩
        exact ⟨[], first, rest, rfl, fun _ member => absurd member List.not_mem_nil, started⟩
      · rintro ⟨before, item, after, split, earlier, failed⟩
        cases before with
        | nil =>
          obtain ⟨rfl, rfl⟩ := List.cons.inj split
          rw [← started, failed]
          rfl
        | cons head before =>
          obtain ⟨rfl, rfl⟩ := List.cons.inj split
          obtain ⟨result, done⟩ := earlier first List.mem_cons_self
          rw [started] at done
          cases done
    | ok result =>
      have later : (do
          let result ← Except.ok result
          let results ← rest.mapM forth
          pure (result :: results)) = .error fault ↔ rest.mapM forth = .error fault := by
        cases rest.mapM forth <;> simp [bind, Except.bind, pure, Except.pure]
      rw [later, ih]
      constructor
      · rintro ⟨before, item, after, rfl, earlier, failed⟩
        exact ⟨first :: before, item, after, rfl,
          List.forall_mem_cons.mpr ⟨⟨result, started⟩, earlier⟩, failed⟩
      · rintro ⟨before, item, after, split, earlier, failed⟩
        cases before with
        | nil =>
          obtain ⟨rfl, rfl⟩ := List.cons.inj split
          rw [started] at failed
          cases failed
        | cons head before =>
          obtain ⟨rfl, rfl⟩ := List.cons.inj split
          exact ⟨before, item, after, rfl, (List.forall_mem_cons.mp earlier).2, failed⟩

theorem mem_of_mapM_error {fault : Fault} (failed : items.mapM forth = .error fault) :
    ∃ item ∈ items, forth item = .error fault := by
  obtain ⟨before, item, after, rfl, _, reached⟩ := mapM_error_iff.mp failed
  exact ⟨item, List.mem_append_right _ List.mem_cons_self, reached⟩

theorem forall_of_mapM (done : items.mapM forth = .ok results) :
    ∀ item ∈ items, ∃ result, forth item = .ok result := by
  induction items generalizing results with
  | nil => exact fun _ member => absurd member List.not_mem_nil
  | cons first rest ih =>
    obtain ⟨result, others, started, later, rfl⟩ := mapM_cons_ok.mp done
    exact List.forall_mem_cons.mpr ⟨⟨result, started⟩, ih later⟩

/-- Every result is the result of an item. -/
theorem mem_of_mapM (done : items.mapM forth = .ok results) :
    ∀ result ∈ results, ∃ item ∈ items, forth item = .ok result := by
  induction items generalizing results with
  | nil =>
    cases done
    exact fun _ member => absurd member List.not_mem_nil
  | cons first rest ih =>
    obtain ⟨result, others, started, later, rfl⟩ := mapM_cons_ok.mp done
    refine List.forall_mem_cons.mpr ⟨⟨first, List.mem_cons_self, started⟩, fun other member => ?_⟩
    obtain ⟨item, listed, reached⟩ := ih later other member
    exact ⟨item, List.mem_cons_of_mem _ listed, reached⟩

/-- Where every item succeeds so does the list. -/
theorem mapM_of_forall (each : ∀ item ∈ items, ∃ result, forth item = .ok result) :
    ∃ results, items.mapM forth = .ok results := by
  induction items with
  | nil => exact ⟨[], rfl⟩
  | cons first rest ih =>
    obtain ⟨result, done⟩ := each first List.mem_cons_self
    obtain ⟨results, later⟩ := ih fun item member =>
      each item (List.mem_cons_of_mem _ member)
    exact ⟨result :: results, mapM_cons_ok.mpr ⟨result, results, done, later, rfl⟩⟩

theorem mapM_eq_self {keep : Source → Except Fault Source}
    (kept : ∀ item ∈ items, keep item = .ok item) : items.mapM keep = .ok items := by
  induction items with
  | nil => rfl
  | cons first rest ih =>
    obtain ⟨keptFirst, keptRest⟩ := List.forall_mem_cons.mp kept
    exact mapM_cons_ok.mpr ⟨first, rest, keptFirst, ih keptRest, rfl⟩

/-- A list survives both ways exactly when its items do. -/
theorem mapM_roundTrip_iff (items : List Source) :
    (∃ results, items.mapM forth = .ok results ∧ results.mapM back = .ok items) ↔
      ∀ item ∈ items, ∃ result, forth item = .ok result ∧ back result = .ok item := by
  induction items with
  | nil => exact iff_of_true ⟨[], rfl, rfl⟩ fun _ member => absurd member List.not_mem_nil
  | cons first rest ih =>
    rw [List.forall_mem_cons, ← ih]
    constructor
    · rintro ⟨results, there, andBack⟩
      obtain ⟨result, others, done, later, rfl⟩ := mapM_cons_ok.mp there
      obtain ⟨_, _, undone, earlier, same⟩ := mapM_cons_ok.mp andBack
      obtain ⟨rfl, rfl⟩ := List.cons.inj same
      exact ⟨⟨result, done, undone⟩, others, later, earlier⟩
    · rintro ⟨⟨result, done, undone⟩, others, later, earlier⟩
      exact ⟨result :: others, mapM_cons_ok.mpr ⟨result, others, done, later, rfl⟩,
        mapM_cons_ok.mpr ⟨first, rest, undone, earlier, rfl⟩⟩

/-- Items that were wrapped are unwrapped again. -/
theorem mapM_map_of_forall {wrap : Target → Source} (unwraps : ∀ item, forth (wrap item) = .ok item)
    (items : List Target) : (items.map wrap).mapM forth = .ok items := by
  induction items with
  | nil => rfl
  | cons first rest ih =>
    exact mapM_cons_ok.mpr ⟨first, rest, unwraps first, ih, rfl⟩

end

/-!
## What is left of a list

`Retains keep whole part` says that `part` is `whole` without some entries, in the same
order, and that no entry with `keep` is among those left out. Both are said of places in
the list and not of values, so equal entries do not stand in for each other.
-/

variable {α : Type} {keep : α → Bool} {whole middle part more rest : List α}

structure Retains (keep : α → Bool) (whole part : List α) : Prop where
  sublist : part.Sublist whole
  kept : whole.filter keep = part.filter keep

namespace Retains

theorem refl (whole : List α) : Retains keep whole whole := ⟨List.Sublist.refl whole, rfl⟩

theorem trans (first : Retains keep whole middle) (second : Retains keep middle part) :
    Retains keep whole part :=
  ⟨second.sublist.trans first.sublist, first.kept.trans second.kept⟩

theorem append (left : Retains keep whole part) (right : Retains keep more rest) :
    Retains keep (whole ++ more) (part ++ rest) where
  sublist := left.sublist.append right.sublist
  kept := by simp [left.kept, right.kept]

theorem append_left (before : List α) (right : Retains keep whole part) :
    Retains keep (before ++ whole) (before ++ part) :=
  (refl before).append right

theorem append_right (left : Retains keep whole part) (after : List α) :
    Retains keep (whole ++ after) (part ++ after) :=
  left.append (refl after)

/-- Entries in front that need not be kept are left out. -/
theorem drop {dropped : List α} (unkept : ∀ entry ∈ dropped, keep entry = false) :
    Retains keep (dropped ++ rest) rest where
  sublist := List.sublist_append_right dropped rest
  kept := by
    have none : dropped.filter keep = [] := List.filter_eq_nil_iff.mpr (by simpa using unkept)
    simp [none]

end Retains

end CoBridge.Library
