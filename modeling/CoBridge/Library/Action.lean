import Mathlib.Init

/-!
# Stateful computations with exceptions

An `Action` runs on a state and ends either with a value or with a fault. The
state reached when a fault is raised is retained, as in a language where an
exception does not roll back the writes made before it.

`Guarantee` is a reflexive and transitive relation between the states before
and after a computation. Frames (`Guarantee.frame`) and invariants
(`Guarantee.invariant`) are both guarantees, and `Action.Meets` is closed under
every way of composing actions, so a bound on what a composed action can do
follows from the bounds of its parts.
-/

namespace CoBridge.Library

/-- A computation over `State` that ends with a `Value` or with a `Fault`. -/
def Action (State Fault Value : Type) : Type :=
  State → Except Fault Value × State

namespace Action

variable {State Fault Value Result Item : Type}
variable {state reached : State} {first body : Action State Fault Value}
  {next : Value → Action State Fault Result} {handler : Fault → Action State Fault Value}
  (fault : Fault)

protected def pure (value : Value) : Action State Fault Value := fun state => (.ok value, state)

/-- Run `next` on the value of `first`; a fault of `first` skips `next`. -/
protected def bind (first : Action State Fault Value)
    (next : Value → Action State Fault Result) : Action State Fault Result := fun state =>
  match first state with
  | (.ok value, reached) => next value reached
  | (.error fault, reached) => (.error fault, reached)

instance : Monad (Action State Fault) where
  pure := Action.pure
  bind := Action.bind

def throw (fault : Fault) : Action State Fault Value := fun state => (.error fault, state)

def gets (field : State → Value) : Action State Fault Value :=
  fun state => (.ok (field state), state)

def modify (update : State → State) : Action State Fault Unit := fun state => (.ok (), update state)

/-- A pure fallible result as an action. -/
def ofExcept (result : Except Fault Value) : Action State Fault Value := fun state =>
  (result, state)

/-- Run `handler` on the fault of `body`, in the state where it was raised. -/
def tryCatch (body : Action State Fault Value) (handler : Fault → Action State Fault Value) :
    Action State Fault Value := fun state =>
  match body state with
  | (.ok value, reached) => (.ok value, reached)
  | (.error fault, reached) => handler fault reached

/-- The outcome of an action, as a value. -/
def attempt (action : Action State Fault Value) : Action State Fault (Except Fault Value) :=
  fun state => (.ok (action state).1, (action state).2)

/-- Run `body` on the items from left to right; the first fault ends the loop. -/
def forEach (items : List Item) (body : Item → Action State Fault Unit) :
    Action State Fault Unit :=
  match items with
  | [] => Action.pure ()
  | item :: rest => Action.bind (body item) fun _ => forEach rest body

@[simp] theorem pure_apply (value : Value) (state : State) :
    (pure value : Action State Fault Value) state = (.ok value, state) := rfl

theorem bind_apply (first : Action State Fault Value)
    (next : Value → Action State Fault Result) (state : State) :
    (first >>= next) state =
      match first state with
      | (.ok value, reached) => next value reached
      | (.error fault, reached) => (.error fault, reached) := rfl

theorem bind_ok {value : Value} (done : first state = (.ok value, reached)) :
    (first >>= next) state = next value reached := by
  rw [bind_apply, done]

theorem bind_error {fault : Fault} (failed : first state = (.error fault, reached)) :
    (first >>= next) state = (.error fault, reached) := by
  rw [bind_apply, failed]

@[simp] theorem throw_apply (state : State) :
    (throw fault : Action State Fault Value) state = (.error fault, state) := rfl

@[simp] theorem gets_apply (field : State → Value) (state : State) :
    (gets field : Action State Fault Value) state = (.ok (field state), state) := rfl

@[simp] theorem modify_apply (update : State → State) (state : State) :
    (modify update : Action State Fault Unit) state = (.ok (), update state) := rfl

@[simp] theorem ofExcept_apply (result : Except Fault Value) (state : State) :
    ofExcept result state = (result, state) := rfl

@[simp] theorem gets_bind_apply (field : State → Value)
    (next : Value → Action State Fault Result) (state : State) :
    (gets field >>= next) state = next (field state) state := rfl

@[simp] theorem modify_bind_apply (update : State → State)
    (next : Unit → Action State Fault Result) (state : State) :
    (modify update >>= next) state = next () (update state) := rfl

@[simp] theorem throw_bind_apply (next : Value → Action State Fault Result) (state : State) :
    (throw fault >>= next) state = (.error fault, state) := rfl

@[simp] theorem ofExcept_ok_bind_apply (value : Value)
    (next : Value → Action State Fault Result) (state : State) :
    (ofExcept (.ok value) >>= next) state = next value state := rfl

@[simp] theorem ofExcept_error_bind_apply (next : Value → Action State Fault Result)
    (state : State) :
    (ofExcept (.error fault) >>= next) state = (.error fault, state) := rfl

/-- Letting the fault of an attempt go on is to run the action. -/
@[simp] theorem attempt_bind_ofExcept (action : Action State Fault Value)
    (next : Value → Action State Fault Result) :
    (action.attempt >>= fun outcome => ofExcept outcome >>= next) = action >>= next := by
  funext state
  change (match (action state).1, (action state).2 with | _, _ => _) = _
  rw [bind_apply]
  rcases action state with ⟨fault | value, reached⟩ <;> rfl

@[simp] theorem forEach_nil (body : Item → Action State Fault Unit) (state : State) :
    forEach [] body state = (.ok (), state) := rfl

theorem forEach_cons (item : Item) (rest : List Item) (body : Item → Action State Fault Unit) :
    forEach (item :: rest) body = body item >>= fun _ => forEach rest body := rfl

instance : LawfulMonad (Action State Fault) :=
  LawfulMonad.mk' (Action State Fault)
    (fun action => by
      funext state
      change (action >>= pure) state = action state
      rw [bind_apply]
      rcases action state with ⟨_ | _, _⟩ <;> rfl)
    (fun _ _ => rfl)
    (fun first second third => by
      funext state
      rw [bind_apply (first >>= second), bind_apply first, bind_apply first]
      rcases first state with ⟨_ | _, _⟩ <;> rfl)

theorem tryCatch_ok {value : Value} (done : body state = (.ok value, reached)) :
    tryCatch body handler state = (.ok value, reached) := by
  rw [tryCatch, done]

theorem tryCatch_error {fault : Fault} (failed : body state = (.error fault, reached)) :
    tryCatch body handler state = handler fault reached := by
  rw [tryCatch, failed]

end Action

/-- What a computation promises about the states before and after it. -/
structure Guarantee (State : Type) where
  rel : State → State → Prop
  refl : ∀ state, rel state state
  trans : ∀ {first second third}, rel first second → rel second third → rel first third

namespace Guarantee

variable {State Part : Type}

/-- The projection `part` of the state is left unchanged. -/
def frame (part : State → Part) : Guarantee State where
  rel before after := part after = part before
  refl _ := rfl
  trans first second := second.trans first

/-- The property holds after the computation if it held before. -/
def invariant (property : State → Prop) : Guarantee State where
  rel before after := property before → property after
  refl _ := id
  trans first second := second ∘ first

/-- The measure of the state does not decrease. -/
def monotone (measure : State → Nat) : Guarantee State where
  rel before after := measure before ≤ measure after
  refl _ := Nat.le_refl _
  trans first second := Nat.le_trans first second

end Guarantee

namespace Action

variable {State Fault Value Result Item : Type} {promise : Guarantee State}
variable {first positive negative : Action State Fault Value}
  {next : Value → Action State Fault Result} {body : Item → Action State Fault Unit}
  {described : Value → Prop}

/-- Every run of the action, successful or not, meets the guarantee. -/
def Meets (promise : Guarantee State) (action : Action State Fault Value) : Prop :=
  ∀ state, promise.rel state (action state).2

theorem meets_pure (value : Value) : (pure value : Action State Fault Value).Meets promise :=
  promise.refl

theorem meets_throw (fault : Fault) : (throw fault : Action State Fault Value).Meets promise :=
  promise.refl

theorem meets_gets (field : State → Value) :
    (gets field : Action State Fault Value).Meets promise :=
  promise.refl

theorem meets_ofExcept (result : Except Fault Value) :
    (ofExcept result : Action State Fault Value).Meets promise :=
  promise.refl

theorem meets_modify {update : State → State}
    (promised : ∀ state, promise.rel state (update state)) :
    (modify update : Action State Fault Unit).Meets promise :=
  promised

/-- What a frame determines is an invariant. -/
theorem Meets.keeps {Part : Type} {part : State → Part} {property : State → Prop}
    {action : Action State Fault Value} (framed : action.Meets (.frame part))
    (determined : ∀ before after, part after = part before → property before → property after) :
    action.Meets (.invariant property) :=
  fun state => determined state _ (framed state)

theorem Meets.bind (firstMeets : first.Meets promise)
    (nextMeets : ∀ value, (next value).Meets promise) : (first >>= next).Meets promise := by
  intro state
  have reached := firstMeets state
  rw [bind_apply]
  revert reached
  rcases first state with ⟨_ | value, middle⟩
  · exact id
  · exact fun reached => promise.trans reached (nextMeets value middle)

/-- What follows an action keeps its promise from where the action ended. -/
theorem rel_bind (nextMeets : ∀ value, (next value).Meets promise) (state : State) :
    promise.rel (first state).2 ((first >>= next) state).2 := by
  rw [bind_apply]
  rcases first state with ⟨_ | value, reached⟩
  · exact promise.refl reached
  · exact nextMeets value reached

theorem Meets.attempt {action : Action State Fault Value} (meets : action.Meets promise) :
    action.attempt.Meets promise :=
  meets

theorem Meets.tryCatch {body : Action State Fault Value}
    {handler : Fault → Action State Fault Value} (bodyMeets : body.Meets promise)
    (handlerMeets : ∀ fault, (handler fault).Meets promise) :
    (tryCatch body handler).Meets promise := by
  intro state
  have reached := bodyMeets state
  rw [Action.tryCatch]
  revert reached
  rcases body state with ⟨fault | _, middle⟩
  · exact fun reached => promise.trans reached (handlerMeets fault middle)
  · exact id

theorem Meets.ite {condition : Prop} [Decidable condition] (positiveMeets : positive.Meets promise)
    (negativeMeets : negative.Meets promise) :
    (if condition then positive else negative).Meets promise := by
  split
  · exact positiveMeets
  · exact negativeMeets

theorem meets_forEach {items : List Item} (bodyMeets : ∀ item ∈ items, (body item).Meets promise) :
    (forEach items body).Meets promise := by
  induction items with
  | nil => exact promise.refl
  | cons item rest ih =>
    apply Meets.bind (bodyMeets item List.mem_cons_self)
    intro _
    exact ih fun other member => bodyMeets other (List.mem_cons_of_mem _ member)

/-- Where an action returned, and where it ended with a fault. -/
def Ends (returned : Value → State → Prop) (failed : State → Prop) :
    Except Fault Value × State → Prop
  | (.ok value, reached) => returned value reached
  | (.error _, reached) => failed reached

/-- Loop rule: the invariant speaks about the items that are left. -/
theorem forEach_ends {post : State → Prop} (invariant : List Item → State → Prop)
    (each : ∀ item rest state, invariant (item :: rest) state →
      Ends (fun _ => invariant rest) post (body item state))
    (finish : ∀ state, invariant [] state → post state) {items : List Item} {state : State}
    (holds : invariant items state) : post (forEach items body state).2 := by
  induction items generalizing state with
  | nil => exact finish state holds
  | cons item rest ih =>
    have ended := each item rest state holds
    rw [forEach_cons, bind_apply]
    revert ended
    rcases body item state with ⟨_ | _, reached⟩
    · exact id
    · exact ih

/-- A computation that returns went through the value of its first part. -/
theorem except_bind_ok {first : Except Fault Value} {next : Value → Except Fault Result}
    {result : Result} :
    first >>= next = .ok result ↔ ∃ value, first = .ok value ∧ next value = .ok result := by
  cases first <;> simp [Bind.bind, Except.bind]

/-- Every value the action returns is as described. -/
def Yields (action : Action State Fault Value) (described : Value → Prop) : Prop :=
  ∀ state value, (action state).1 = .ok value → described value

theorem yields_pure {value : Value} (holds : described value) :
    (pure value : Action State Fault Value).Yields described := by
  rintro _ _ ⟨⟩
  exact holds

theorem yields_ofExcept {result : Except Fault Value}
    (holds : ∀ value, result = .ok value → described value) :
    (ofExcept result : Action State Fault Value).Yields described :=
  fun _ value returned => holds value returned

theorem yields_gets {field : State → Value} (holds : ∀ state, described (field state)) :
    (gets field : Action State Fault Value).Yields described := by
  rintro state _ ⟨⟩
  exact holds state

theorem Yields.bind {middle : Value → Prop} {described : Result → Prop}
    (firstYields : first.Yields middle)
    (nextYields : ∀ value, middle value → (next value).Yields described) :
    (first >>= next).Yields described := by
  intro state result returned
  rw [bind_apply] at returned
  have yields := firstYields state
  revert returned yields
  rcases first state with ⟨_ | value, reached⟩
  · intro returned
    cases returned
  · intro returned yields
    exact nextYields value (yields value rfl) reached result returned

theorem yields_any (action : Action State Fault Value) : action.Yields fun _ => True :=
  fun _ _ _ => trivial

/-- The action never ends with a fault. -/
def Returns (action : Action State Fault Value) : Prop :=
  ∀ state, ∃ value, (action state).1 = .ok value

theorem returns_pure (value : Value) : (pure value : Action State Fault Value).Returns :=
  fun _ => ⟨value, rfl⟩

theorem returns_gets (field : State → Value) : (gets field : Action State Fault Value).Returns :=
  fun state => ⟨field state, rfl⟩

theorem returns_modify (update : State → State) :
    (modify update : Action State Fault Unit).Returns :=
  fun _ => ⟨(), rfl⟩

theorem Returns.bind (firstReturns : first.Returns) (nextReturns : ∀ value, (next value).Returns) :
    (first >>= next).Returns := by
  intro state
  obtain ⟨value, done⟩ := firstReturns state
  rw [bind_ok (Prod.ext done rfl)]
  exact nextReturns value _

theorem Returns.ite {condition : Prop} [Decidable condition] (positiveReturns : positive.Returns)
    (negativeReturns : negative.Returns) :
    (if condition then positive else negative).Returns := by
  split
  · exact positiveReturns
  · exact negativeReturns

theorem returns_forEach {items : List Item} (bodyReturns : ∀ item ∈ items, (body item).Returns) :
    (forEach items body).Returns := by
  induction items with
  | nil => exact returns_pure ()
  | cons item rest ih =>
    apply Returns.bind (bodyReturns item List.mem_cons_self)
    intro _
    exact ih fun other member => bodyReturns other (List.mem_cons_of_mem _ member)

/-- After an action that returns, the continuation runs in a state as promised. -/
theorem Returns.bind_apply (returns : first.Returns) (meets : first.Meets promise)
    (next : Value → Action State Fault Result) (state : State) :
    ∃ value reached, promise.rel state reached ∧ (first >>= next) state = next value reached := by
  obtain ⟨value, done⟩ := returns state
  exact ⟨value, (first state).2, meets state, bind_ok (Prod.ext done rfl)⟩

end Action

/-!
## Actions that commute with a projection of the state

A projection forgets a part of the state. An action commutes with it at a state when
it ends in the same way from the projected state, and reaches the projection of what
it reaches otherwise: the part that is forgotten makes no difference to the rest.
-/

namespace Action

variable {State Fault Value Result Item : Type} {project : State → State}
  {action : Action State Fault Value} {state : State}

/-- From the projected state, the action does the same up to the projection. -/
def CommutesAt (project : State → State) (action : Action State Fault Value) (state : State) :
    Prop :=
  action (project state) = ((action state).1, project (action state).2)

theorem commutesAt_pure (value : Value) :
    (pure value : Action State Fault Value).CommutesAt project state := rfl

theorem commutesAt_ofExcept (result : Except Fault Value) :
    (ofExcept result : Action State Fault Value).CommutesAt project state := rfl

theorem commutesAt_gets {field : State → Value} (same : field (project state) = field state) :
    (gets field : Action State Fault Value).CommutesAt project state := by
  rw [CommutesAt, gets_apply, gets_apply, same]

theorem commutesAt_modify {update : State → State}
    (same : update (project state) = project (update state)) :
    (modify update : Action State Fault Unit).CommutesAt project state := by
  rw [CommutesAt, modify_apply, modify_apply, same]

/-- What comes next has to commute only at the state that is reached. -/
theorem CommutesAt.bind {next : Value → Action State Fault Result}
    (first : action.CommutesAt project state)
    (later : ∀ value reached, action state = (.ok value, reached) →
      (next value).CommutesAt project reached) :
    (action >>= next).CommutesAt project state := by
  rw [CommutesAt] at first
  rcases run : action state with ⟨fault | value, reached⟩
  · rw [run] at first
    rw [CommutesAt, bind_error first, bind_error run]
  · rw [run] at first
    rw [CommutesAt, bind_ok first, bind_ok run]
    exact later value reached run

theorem CommutesAt.ite {condition : Prop} [Decidable condition]
    {other : Action State Fault Value} (whenTrue : action.CommutesAt project state)
    (whenFalse : other.CommutesAt project state) :
    (if condition then action else other).CommutesAt project state := by
  split
  · exact whenTrue
  · exact whenFalse

end Action

end CoBridge.Library
