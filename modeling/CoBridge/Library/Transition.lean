import Mathlib.Data.List.Induction
import Mathlib.Init

/-!
# Labelled transition systems and guarded runs

A `TransitionSystem` has initial states and labelled steps. `GuardedRun`
retains, for every step, that the label was admitted in the state from which
the step was taken, so a conditional safety result quantifies over whole runs
and not over one step. An unconditional result uses the trivial guard of `Run`.
-/

namespace CoBridge.Library

universe u v

/-- Initial states and a labelled step relation. -/
structure TransitionSystem (State : Type u) (Label : Type v) where
  Initial : State → Prop
  Step : State → Label → State → Prop

namespace TransitionSystem

variable {State : Type u} {Label : Type v}

/-- Finite runs whose every step is admitted by `guard` in its source state. -/
inductive GuardedRun (system : TransitionSystem State Label) (guard : State → Label → Prop) :
    List Label → State → Prop where
  | initial {state} (valid : system.Initial state) : GuardedRun system guard [] state
  | step {labels state label next} (prior : GuardedRun system guard labels state)
      (admitted : guard state label) (transition : system.Step state label next) :
      GuardedRun system guard (labels ++ [label]) next

/-- Finite runs without any condition on the steps. -/
abbrev Run (system : TransitionSystem State Label) : List Label → State → Prop :=
  system.GuardedRun fun _ _ => True

variable {system : TransitionSystem State Label} {guard : State → Label → Prop}
variable {step : State → Label → State}

/-- A property that holds initially and is kept by every admitted step holds at
the end of every guarded run. -/
theorem GuardedRun.invariant {property : State → Prop}
    (initially : ∀ state, system.Initial state → property state)
    (preserved : ∀ {state label next}, property state → guard state label →
      system.Step state label next → property next)
    {labels : List Label} {state : State}
    (run : system.GuardedRun guard labels state) : property state := by
  induction run with
  | initial valid => exact initially _ valid
  | step _ admitted transition ih =>
    exact preserved ih admitted transition

/-- A run under a guard is one under every weaker guard. -/
theorem GuardedRun.mono {weaker : State → Label → Prop}
    (implied : ∀ state label, guard state label → weaker state label) {labels : List Label}
    {state : State} (run : system.GuardedRun guard labels state) :
    system.GuardedRun weaker labels state := by
  induction run with
  | initial valid => exact .initial valid
  | step _ admitted transition ih =>
    exact .step ih (implied _ _ admitted) transition

/-- A guarded run without its guard. -/
theorem GuardedRun.unguarded {labels : List Label} {state : State}
    (run : system.GuardedRun guard labels state) : system.Run labels state :=
  run.mono fun _ _ _ => trivial

/-- The guard admits every step of a list, when the steps are taken by a function. -/
def Admits (guard : State → Label → Prop) (step : State → Label → State) :
    State → List Label → Prop
  | _, [] => True
  | state, label :: rest => guard state label ∧ Admits guard step (step state label) rest

instance decidableAdmits [∀ state label, Decidable (guard state label)]
    (step : State → Label → State) :
    (state : State) → (labels : List Label) → Decidable (Admits guard step state labels)
  | _, [] => .isTrue trivial
  | state, label :: rest =>
    have := decidableAdmits step (step state label) rest
    inferInstanceAs (Decidable (guard state label ∧ Admits guard step (step state label) rest))

/-- A run of a system that steps by a function is continued by admitted labels. -/
theorem GuardedRun.foldl (steps : ∀ state label, system.Step state label (step state label))
    {labels more : List Label} {state : State} (run : system.GuardedRun guard labels state)
    (admits : Admits guard step state more) :
    system.GuardedRun guard (labels ++ more) (more.foldl step state) := by
  induction more generalizing labels state with
  | nil => simpa using run
  | cons label rest ih =>
    have continued := ih (run.step admits.1 (steps state label)) admits.2
    simpa using continued

/-- Every list of labels is a run of a system that steps by a function. -/
theorem run_foldl (steps : ∀ state label, system.Step state label (step state label))
    {initial : State} (valid : system.Initial initial) (labels : List Label) :
    system.Run labels (labels.foldl step initial) := by
  have admits (state : State) : Admits (fun _ _ => True) step state labels := by
    induction labels generalizing state with
    | nil => trivial
    | cons label rest ih => exact ⟨trivial, ih _⟩
  exact (GuardedRun.initial valid).foldl steps (admits initial)

/-- A run is continued by labels that a function can take one after the other, if what it
takes are admitted steps. -/
theorem GuardedRun.foldlM {apply : State → Label → Option State}
    (steps : ∀ {state label next}, apply state label = some next →
      guard state label ∧ system.Step state label next)
    {labels more : List Label} {state next : State} (run : system.GuardedRun guard labels state)
    (reached : more.foldlM apply state = some next) :
    system.GuardedRun guard (labels ++ more) next := by
  induction more generalizing labels state with
  | nil =>
    obtain rfl := Option.some.inj reached
    simpa using run
  | cons label rest ih =>
    obtain ⟨middle, first, others⟩ := Option.bind_eq_some_iff.mp reached
    have continued := ih (run.step (steps first).1 (steps first).2) others
    simpa using continued

end TransitionSystem

/-!
## Properties of what has happened so far

A trace grows at its end. `Always` holds of a trace when each of its items has a
property that may depend on what came before it. `Since` holds when some item
occurred and everything after it has a property. Both are determined by the last
item and the trace before it.
-/

namespace Trace

variable {Item : Type}

/-- Every item has the property after what came before it. -/
def Always (property : List Item → Item → Prop) (trace : List Item) : Prop :=
  ∀ before item after, trace = before ++ item :: after → property before item

/-- Some item occurred, and every later one is of the kept kind. -/
def Since (kept : Item → Prop) (occurred : List Item → Item → Prop) (trace : List Item) : Prop :=
  ∃ before item after, trace = before ++ item :: after ∧ occurred before item ∧
    ∀ later ∈ after, kept later

variable {property occurred : List Item → Item → Prop} {kept : Item → Prop}

theorem always_nil : Always property [] := by
  intro before item after split
  simp at split

/-- The places of a longer trace: its last item, and the places before it. -/
theorem split_concat {trace before after : List Item} {last item : Item}
    (split : trace ++ [last] = before ++ item :: after) :
    (before = trace ∧ item = last ∧ after = []) ∨
      ∃ front, after = front ++ [last] ∧ trace = before ++ item :: front := by
  rcases List.eq_nil_or_concat after with rfl | ⟨front, final, rfl⟩
  · obtain ⟨rfl, same⟩ := List.append_inj' split rfl
    exact .inl ⟨rfl, by simpa using same.symm, rfl⟩
  · have shifted : trace ++ [last] = (before ++ item :: front) ++ [final] := by
      simpa using split
    obtain ⟨same, ends⟩ := List.append_inj' shifted rfl
    obtain rfl : last = final := by simpa using ends
    exact .inr ⟨front, by simp, same⟩

theorem always_concat (trace : List Item) (last : Item) :
    Always property (trace ++ [last]) ↔ Always property trace ∧ property trace last := by
  constructor
  · intro always
    constructor
    · intro before item after split
      apply always before item (after ++ [last])
      simp [split]
    · exact always trace last [] rfl
  · rintro ⟨always, added⟩ before item after split
    rcases split_concat split with ⟨rfl, rfl, rfl⟩ | ⟨front, _, same⟩
    · exact added
    · exact always before item front same

theorem since_concat (trace : List Item) (last : Item) :
    Since kept occurred (trace ++ [last]) ↔
      occurred trace last ∨ kept last ∧ Since kept occurred trace := by
  constructor
  · rintro ⟨before, item, after, split, happened, later⟩
    rcases split_concat split with ⟨rfl, rfl, rfl⟩ | ⟨front, rfl, same⟩
    · exact .inl happened
    · refine .inr ⟨later last (by simp), before, item, front, same, happened, ?_⟩
      exact fun other member => later other (List.mem_append_left _ member)
  · rintro (happened | ⟨keeps, before, item, after, rfl, happened, later⟩)
    · exact ⟨trace, last, [], rfl, happened, fun _ member => nomatch member⟩
    · refine ⟨before, item, after ++ [last], by simp, happened, ?_⟩
      intro other member
      rcases List.mem_append.mp member with earlier | final
      · exact later other earlier
      · rw [List.mem_singleton.mp final]
        exact keeps

/-- What was since some item is still since that item when all that is added is kept. -/
theorem Since.append {trace : List Item} (since : Since kept occurred trace) {added : List Item}
    (keeps : ∀ item ∈ added, kept item) : Since kept occurred (trace ++ added) := by
  obtain ⟨before, item, after, rfl, happened, later⟩ := since
  refine ⟨before, item, after ++ added, by simp, happened, ?_⟩
  intro other member
  exact (List.mem_append.mp member).elim (later other) (keeps other)

end Trace

end CoBridge.Library
