import CoBridge.Library.Action
import Mathlib.Logic.Function.Basic
import CoBridge.Library.Transition

/-!
# Computations in atomic sections

A `Program` is a computation cut into sections: each runs without interruption
on a shared state, between two of them other computations may run. Sections
carry labels, so that a schedule can say which section it lets run. Run without
interruption a program is an `Action` (`Program.run`), which is how the sections
are related to the function they were cut from.
-/

namespace CoBridge.Library

/-- A computation that ends with a result, or runs a section and goes on as the
state the section found decides. -/
inductive Program (Label State Fault Value : Type) where
  | done (result : Except Fault Value)
  | atomic (label : Label) (update : State → State)
      (next : State → Program Label State Fault Value)

namespace Program

variable {Label State Fault Value Result Item : Type}

protected def bind (first : Program Label State Fault Value)
    (next : Value → Program Label State Fault Result) : Program Label State Fault Result :=
  match first with
  | .done (.ok value) => next value
  | .done (.error fault) => .done (.error fault)
  | .atomic label update rest => .atomic label update fun state => Program.bind (rest state) next

instance : Monad (Program Label State Fault) where
  pure value := .done (.ok value)
  bind := Program.bind

instance : LawfulMonad (Program Label State Fault) :=
  LawfulMonad.mk' (Program Label State Fault)
    (fun program => by
      induction program with
      | done result => cases result <;> rfl
      | atomic label update next ih =>
        exact congrArg (Program.atomic label update) (funext ih))
    (fun _ _ => rfl)
    (fun program next last => by
      induction program with
      | done result => cases result <;> rfl
      | atomic label update rest ih =>
        exact congrArg (Program.atomic label update) (funext ih))

/-- An action as one section. -/
def perform (label : Label) (action : Action State Fault Value) :
    Program Label State Fault Value :=
  .atomic label (fun state => (action state).2) fun state => .done (action state).1

def ofExcept (result : Except Fault Value) : Program Label State Fault Value := .done result

/-- Run `body` on the items from left to right; the first fault ends the loop. -/
def forEach (items : List Item) (body : Item → Program Label State Fault Unit) :
    Program Label State Fault Unit :=
  match items with
  | [] => .done (.ok ())
  | item :: rest => Program.bind (body item) fun _ => forEach rest body

/-- The program without interruption. -/
def run : Program Label State Fault Value → Action State Fault Value
  | .done result => Action.ofExcept result
  | .atomic _ update next => fun state => run (next state) (update state)

@[simp] theorem run_perform (label : Label) (action : Action State Fault Value) :
    (perform label action).run = action := rfl

@[simp] theorem run_ofExcept (result : Except Fault Value) :
    (ofExcept result : Program Label State Fault Value).run = Action.ofExcept result := rfl

@[simp] theorem run_pure (value : Value) :
    (pure value : Program Label State Fault Value).run = pure value := rfl

@[simp] theorem run_bind (first : Program Label State Fault Value)
    (next : Value → Program Label State Fault Result) :
    (first >>= next).run = first.run >>= fun value => (next value).run := by
  induction first with
  | done result => cases result <;> rfl
  | atomic label update rest ih =>
    funext state
    exact congrFun (ih state) (update state)

@[simp] theorem run_map (change : Value → Result) (program : Program Label State Fault Value) :
    (change <$> program).run = change <$> program.run := by
  rw [← bind_pure_comp, ← bind_pure_comp, run_bind]
  rfl

@[simp] theorem run_forEach (items : List Item) (body : Item → Program Label State Fault Unit) :
    (forEach items body).run = Action.forEach items fun item => (body item).run := by
  induction items with
  | nil => rfl
  | cons item rest ih =>
    rw [Action.forEach_cons, ← ih]
    exact run_bind (body item) fun _ => forEach rest body

@[simp] theorem run_ite {condition : Prop} [Decidable condition]
    (positive negative : Program Label State Fault Value) :
    (if condition then positive else negative).run =
      if condition then positive.run else negative.run := by
  split <;> rfl

/-- Every section, in whatever state it is entered, is as `holds` says. -/
def Sections (holds : Label → State → State → Prop) : Program Label State Fault Value → Prop
  | .done _ => True
  | .atomic label update next => ∀ state, holds label state (update state) ∧
      Sections holds (next state)

variable {holds : Label → State → State → Prop}

theorem sections_perform {label : Label} {action : Action State Fault Value}
    (performs : ∀ state, holds label state (action state).2) :
    (perform label action).Sections holds :=
  fun state => ⟨performs state, trivial⟩

theorem sections_ofExcept (result : Except Fault Value) :
    (ofExcept result : Program Label State Fault Value).Sections holds :=
  trivial

theorem sections_pure (value : Value) :
    (pure value : Program Label State Fault Value).Sections holds :=
  trivial

theorem Sections.bind {first : Program Label State Fault Value}
    {next : Value → Program Label State Fault Result} (firstHolds : first.Sections holds)
    (nextHolds : ∀ value, (next value).Sections holds) : (first >>= next).Sections holds := by
  induction first with
  | done result =>
    cases result with
    | error fault => trivial
    | ok value => exact nextHolds value
  | atomic label update rest ih =>
    intro state
    exact ⟨(firstHolds state).1, ih state (firstHolds state).2⟩

theorem Sections.ite {condition : Prop} [Decidable condition]
    {positive negative : Program Label State Fault Value} (positiveHolds : positive.Sections holds)
    (negativeHolds : negative.Sections holds) :
    (if condition then positive else negative).Sections holds := by
  split
  · exact positiveHolds
  · exact negativeHolds

theorem sections_forEach {items : List Item} {body : Item → Program Label State Fault Unit}
    (bodyHolds : ∀ item ∈ items, (body item).Sections holds) :
    (forEach items body).Sections holds := by
  induction items with
  | nil => trivial
  | cons item rest ih =>
    apply Sections.bind (bodyHolds item List.mem_cons_self)
    intro _
    exact ih fun other member => bodyHolds other (List.mem_cons_of_mem _ member)

end Program

/-!
## Interleavings of programs

A `Pool` holds a shared state and one program for each thread; a step lets one
thread run its next section. Locks and other auxiliary variables are driven by
the labels of the sections (`Discipline`).

`Program.Obeys` is rely-guarantee reasoning: a program obeys its outline when
every section it runs, after any interference its rely admits, keeps the
guarantee and leads to a program that obeys. `Pool.obeys_of_run` is the rule for
parallel composition.
-/

/-- When a section can be entered, and what entering it does to the auxiliary
variables. -/
structure Discipline (Label State Aux : Type) where
  enabled : Label → State × Aux → Prop
  effect : Label → Aux → Aux

structure Pool (Thread Label State Aux Fault : Type) where
  shared : State × Aux
  threads : Thread → Program Label State Fault Unit

/-- A thread takes up a program, runs a section, or the surroundings act. -/
inductive PoolEvent (Thread Label : Type) where
  | start (thread : Thread)
  | enter (thread : Thread) (label : Label)
  | surroundings

namespace Pool

variable {Thread Label State Aux Fault : Type} [DecidableEq Thread]

/-- The thread has nothing to do. -/
def Idle (pool : Pool Thread Label State Aux Fault) (thread : Thread) : Prop :=
  ∃ result, pool.threads thread = .done result

/-- Give a thread another program. -/
def setThread (pool : Pool Thread Label State Aux Fault) (thread : Thread)
    (program : Program Label State Fault Unit) : Pool Thread Label State Aux Fault :=
  { pool with threads := Function.update pool.threads thread program }

/-- The steps of a pool, given the programs each thread may take up and what the
surroundings may do. -/
inductive Step (discipline : Discipline Label State Aux)
    (Starts : Thread → Program Label State Fault Unit → Prop) (Acts : State → State → Prop) :
    Pool Thread Label State Aux Fault → PoolEvent Thread Label →
      Pool Thread Label State Aux Fault → Prop where
  | start {pool thread program} (idle : pool.Idle thread) (starts : Starts thread program) :
      Step discipline Starts Acts pool (.start thread) (pool.setThread thread program)
  | enter {pool thread label update next}
      (current : pool.threads thread = .atomic label update next)
      (enabled : discipline.enabled label pool.shared) :
      Step discipline Starts Acts pool (.enter thread label)
        (setThread { pool with
          shared := (update pool.shared.1, discipline.effect label pool.shared.2) } thread
          (next pool.shared.1))
  | surroundings {pool state} (acts : Acts pool.shared.1 state) :
      Step discipline Starts Acts pool .surroundings { pool with shared := (state, pool.shared.2) }

/-- A pool as a transition system: every thread is idle at first. -/
def system (discipline : Discipline Label State Aux)
    (Starts : Thread → Program Label State Fault Unit → Prop) (Acts : State → State → Prop)
    (Initial : State × Aux → Prop) :
    TransitionSystem (Pool Thread Label State Aux Fault) (PoolEvent Thread Label) where
  Initial pool := Initial pool.shared ∧ ∀ thread, pool.Idle thread
  Step := Step discipline Starts Acts

end Pool

/-- What a thread assumes of the others and promises them. `admits` is what holds
whenever one of its sections is entered. -/
structure Outline (Label State Aux : Type) where
  admits : Label → State × Aux → Prop
  effect : Label → Aux → Aux
  rely : State × Aux → State × Aux → Prop
  guarantee : State × Aux → State × Aux → Prop
  refl : ∀ shared, rely shared shared
  trans : ∀ {first second third}, rely first second → rely second third → rely first third

namespace Program

variable {Label State Aux Fault Value Result Item : Type} {outline : Outline Label State Aux}
variable {post : Except Fault Value → State × Aux → Prop} {shared : State × Aux}

/-- From this state on, whatever interference comes, the sections keep the
guarantee and the program ends with `post`. -/
def Obeys (outline : Outline Label State Aux) (post : Except Fault Value → State × Aux → Prop) :
    Program Label State Fault Value → State × Aux → Prop
  | .done result => post result
  | .atomic label update next => fun shared => ∀ reached, outline.rely shared reached →
      outline.admits label reached →
      let after := (update reached.1, outline.effect label reached.2)
      outline.guarantee reached after ∧ Obeys outline post (next reached.1) after

theorem Obeys.stable
    (stablePost : ∀ result shared reached, outline.rely shared reached → post result shared →
      post result reached) {program : Program Label State Fault Value}
    {shared reached : State × Aux} (interference : outline.rely shared reached)
    (obeys : program.Obeys outline post shared) :
    program.Obeys outline post reached := by
  cases program with
  | done result => exact stablePost result shared reached interference obeys
  | atomic label update next =>
    intro later more
    exact obeys later (outline.trans interference more)

theorem Obeys.mono {weaker : Except Fault Value → State × Aux → Prop}
    (implies : ∀ result shared, post result shared → weaker result shared)
    {program : Program Label State Fault Value} {shared : State × Aux}
    (obeys : program.Obeys outline post shared) : program.Obeys outline weaker shared := by
  induction program generalizing shared with
  | done result => exact implies result shared obeys
  | atomic label update next ih =>
    intro reached interference admitted
    obtain ⟨kept, continues⟩ := obeys reached interference admitted
    exact ⟨kept, ih reached.1 continues⟩

/-- What has to hold between two programs that run one after the other. -/
def Between (outline : Outline Label State Aux)
    (next : Value → Program Label State Fault Result)
    (post : Except Fault Result → State × Aux → Prop) :
    Except Fault Value → State × Aux → Prop
  | .ok value => (next value).Obeys outline post
  | .error fault => post (.error fault)

theorem Obeys.bind {first : Program Label State Fault Value}
    {next : Value → Program Label State Fault Result}
    {post : Except Fault Result → State × Aux → Prop}
    (obeys : first.Obeys outline (Between outline next post) shared) :
    (first >>= next).Obeys outline post shared := by
  induction first generalizing shared with
  | done result =>
    cases result with
    | error fault => exact obeys
    | ok value => exact obeys
  | atomic label update rest ih =>
    intro reached interference admitted
    obtain ⟨kept, continues⟩ := obeys reached interference admitted
    exact ⟨kept, ih reached.1 continues⟩

theorem obeys_perform {label : Label} {action : Action State Fault Value}
    (section_ : ∀ reached, outline.rely shared reached → outline.admits label reached →
      outline.guarantee reached ((action reached.1).2, outline.effect label reached.2) ∧
        post (action reached.1).1 ((action reached.1).2, outline.effect label reached.2)) :
    (perform label action).Obeys outline post shared :=
  section_

/-- Loop rule: the invariant speaks about the items that are left. -/
theorem obeys_forEach {body : Item → Program Label State Fault Unit}
    {post : Except Fault Unit → State × Aux → Prop} (invariant : List Item → State × Aux → Prop)
    (each : ∀ item rest shared, invariant (item :: rest) shared →
      (body item).Obeys outline (fun
        | .ok _ => invariant rest
        | .error fault => post (.error fault)) shared)
    (finish : ∀ shared, invariant [] shared → post (.ok ()) shared) {items : List Item}
    {shared : State × Aux} (holds : invariant items shared) :
    (forEach items body).Obeys outline post shared := by
  induction items generalizing shared with
  | nil => exact finish shared holds
  | cons item rest ih =>
    apply Obeys.bind
    apply (each item rest shared holds).mono
    intro result reached
    cases result with
    | error fault => exact id
    | ok value => exact ih

/-- A program whose every section keeps the guarantee obeys, if nothing more is
asked of it. -/
theorem Sections.obeys {holds : Label → State → State → Prop}
    (guaranteed : ∀ label shared next, outline.admits label shared → holds label shared.1 next →
      outline.guarantee shared (next, outline.effect label shared.2))
    (ends : ∀ result shared, post result shared) {program : Program Label State Fault Value}
    (sections : program.Sections holds) (shared : State × Aux) :
    program.Obeys outline post shared := by
  induction program generalizing shared with
  | done result => exact ends result shared
  | atomic label update next ih =>
    intro reached _ admitted
    obtain ⟨performed, rest⟩ := sections reached.1
    exact ⟨guaranteed label reached _ admitted performed, ih _ rest _⟩

/-- A program that nobody interferes with and whose sections are all admitted
ends with `post`, and with whatever its guarantee keeps. -/
theorem Obeys.run (free : State × Aux → Prop)
    (admitted : ∀ label shared, free shared → outline.admits label shared)
    (stays : ∀ shared reached, outline.guarantee shared reached → free shared → free reached)
    {program : Program Label State Fault Value} {shared : State × Aux} (start : free shared)
    (obeys : program.Obeys outline post shared) :
    ∃ aux, post (program.run shared.1).1 ((program.run shared.1).2, aux) ∧
      free ((program.run shared.1).2, aux) := by
  induction program generalizing shared with
  | done result => exact ⟨shared.2, obeys, start⟩
  | atomic label update next ih =>
    obtain ⟨kept, continues⟩ := obeys shared (outline.refl shared) (admitted label shared start)
    exact ih shared.1 (stays _ _ kept start) continues

end Program

namespace Pool

variable {Thread Label State Aux Fault : Type} [DecidableEq Thread]
  {discipline : Discipline Label State Aux}
  {Starts : Thread → Program Label State Fault Unit → Prop} {Acts : State → State → Prop}
  {Initial : State × Aux → Prop}
  {guard : Pool Thread Label State Aux Fault → PoolEvent Thread Label → Prop}
variable {outline : Thread → Outline Label State Aux} {rest : Thread → State × Aux → Prop}

/-- The outlines of the threads fit together: what one guarantees the others
rely on, and so for the surroundings. `rest` is what holds of an idle thread. -/
structure Composable (discipline : Discipline Label State Aux)
    (Starts : Thread → Program Label State Fault Unit → Prop) (Acts : State → State → Prop)
    (outline : Thread → Outline Label State Aux) (rest : Thread → State × Aux → Prop) : Prop where
  effect : ∀ thread, (outline thread).effect = discipline.effect
  others : ∀ thread other shared reached, thread ≠ other →
    (outline thread).guarantee shared reached → (outline other).rely shared reached
  surroundings : ∀ thread state next aux, Acts state next →
    (outline thread).rely (state, aux) (next, aux)
  stable : ∀ thread shared reached, (outline thread).rely shared reached →
    rest thread shared → rest thread reached
  starts : ∀ thread program shared, Starts thread program → rest thread shared →
    program.Obeys (outline thread) (fun _ => rest thread) shared

/-- Every thread obeys its outline. -/
def Obedient (outline : Thread → Outline Label State Aux) (rest : Thread → State × Aux → Prop)
    (pool : Pool Thread Label State Aux Fault) : Prop :=
  ∀ thread, (pool.threads thread).Obeys (outline thread) (fun _ => rest thread) pool.shared

/-- Parallel composition: along every run each thread obeys its outline. -/
theorem obeys_of_run (composable : Composable discipline Starts Acts outline rest)
    (initially : ∀ shared thread, Initial shared → rest thread shared)
    (admits : ∀ pool thread label, guard pool (.enter thread label) →
      discipline.enabled label pool.shared → (outline thread).admits label pool.shared)
    {events : List (PoolEvent Thread Label)} {pool : Pool Thread Label State Aux Fault}
    (run : (system discipline Starts Acts Initial).GuardedRun guard events pool) :
    pool.Obedient outline rest := by
  have stable (other : Thread) {program : Program Label State Fault Unit}
      {shared reached : State × Aux} (interference : (outline other).rely shared reached)
      (obeys : program.Obeys (outline other) (fun _ => rest other) shared) :
      program.Obeys (outline other) (fun _ => rest other) reached :=
    obeys.stable (fun _ => composable.stable other) interference
  refine run.invariant ?_ ?_
  · rintro pool ⟨initial, idle⟩ thread
    obtain ⟨result, done⟩ := idle thread
    rw [done]
    exact initially pool.shared thread initial
  · intro pool event next obeys guarded step other
    cases step with
    | @start thread program idle starts =>
      by_cases same : other = thread
      · subst other
        have resting := obeys thread
        obtain ⟨result, done⟩ := idle
        rw [done] at resting
        simpa [setThread] using composable.starts thread program pool.shared starts resting
      · simpa [setThread, same] using obeys other
    | @enter thread label update continuation current enabled =>
      have running := obeys thread
      rw [current] at running
      obtain ⟨kept, continues⟩ := running pool.shared ((outline thread).refl _)
        (admits pool thread label guarded enabled)
      rw [composable.effect] at kept continues
      by_cases same : other = thread
      · subst other
        simpa [setThread] using continues
      · have interference := composable.others thread other _ _ (Ne.symm same) kept
        simpa [setThread, same] using stable other interference (obeys other)
    | @surroundings state acts =>
      exact stable other (composable.surroundings other _ _ _ acts) (obeys other)

/-- In every state a run reaches, what holds of an idle thread holds of the
threads that are idle. -/
theorem rest_of_run (composable : Composable discipline Starts Acts outline rest)
    (initially : ∀ shared thread, Initial shared → rest thread shared)
    (admits : ∀ pool thread label, guard pool (.enter thread label) →
      discipline.enabled label pool.shared → (outline thread).admits label pool.shared)
    {events : List (PoolEvent Thread Label)} {pool : Pool Thread Label State Aux Fault}
    (run : (system discipline Starts Acts Initial).GuardedRun guard events pool) {thread : Thread}
    (idle : pool.Idle thread) : rest thread pool.shared := by
  have obeys := obeys_of_run composable initially admits run thread
  obtain ⟨result, done⟩ := idle
  rwa [done] at obeys

end Pool

end CoBridge.Library
