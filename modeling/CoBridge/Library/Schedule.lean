import CoBridge.Library.Pool

/-!
# Schedules

Runs of a pool that are given by what is scheduled: `play` lets one thread run a
number of sections, and `Ready` is the decidable condition under which these are
steps. `Reached` collects the states some guarded run ends in.
-/

namespace CoBridge.Library.Pool

variable {Thread Label State Aux Fault : Type} [DecidableEq Thread]

/-- The pool after the next section of a thread. -/
def advance (discipline : Discipline Label State Aux) (thread : Thread)
    (pool : Pool Thread Label State Aux Fault) : Pool Thread Label State Aux Fault :=
  match pool.threads thread with
  | .done _ => pool
  | .atomic label update next =>
    setThread { pool with
      shared := (update pool.shared.1, discipline.effect label pool.shared.2) } thread
      (next pool.shared.1)

/-- The pool after a number of sections of a thread. -/
def play (discipline : Discipline Label State Aux) (thread : Thread) :
    Nat → Pool Thread Label State Aux Fault → Pool Thread Label State Aux Fault
  | 0, pool => pool
  | count + 1, pool => play discipline thread count (advance discipline thread pool)

/-- The next section of the thread can be entered. -/
def CanEnter (discipline : Discipline Label State Aux)
    (guard : Pool Thread Label State Aux Fault → PoolEvent Thread Label → Prop) (thread : Thread)
    (pool : Pool Thread Label State Aux Fault) : Prop :=
  match pool.threads thread with
  | .done _ => False
  | .atomic label _ _ =>
    discipline.enabled label pool.shared ∧ guard pool (.enter thread label)

/-- The thread can run a number of sections. -/
def Ready (discipline : Discipline Label State Aux)
    (guard : Pool Thread Label State Aux Fault → PoolEvent Thread Label → Prop) (thread : Thread) :
    Nat → Pool Thread Label State Aux Fault → Prop
  | 0, _ => True
  | count + 1, pool => CanEnter discipline guard thread pool ∧
      Ready discipline guard thread count (advance discipline thread pool)

/-- The program of the thread has ended. -/
def isIdle (thread : Thread) (pool : Pool Thread Label State Aux Fault) : Bool :=
  match pool.threads thread with
  | .done _ => true
  | .atomic _ _ _ => false

omit [DecidableEq Thread] in
theorem idle_of_isIdle {thread : Thread} {pool : Pool Thread Label State Aux Fault}
    (ended : pool.isIdle thread = true) : pool.Idle thread := by
  unfold isIdle at ended
  split at ended
  · next result done => exact ⟨result, done⟩
  · cases ended

section Decidable

variable {discipline : Discipline Label State Aux}
  {guard : Pool Thread Label State Aux Fault → PoolEvent Thread Label → Prop}
  [∀ label shared, Decidable (discipline.enabled label shared)]
  [∀ pool event, Decidable (guard pool event)]

instance (thread : Thread) (pool : Pool Thread Label State Aux Fault) :
    Decidable (CanEnter discipline guard thread pool) :=
  match current : pool.threads thread with
  | .done _ => .isFalse (by simp [CanEnter, current])
  | .atomic label update next =>
    decidable_of_iff (discipline.enabled label pool.shared ∧ guard pool (.enter thread label))
      (by simp [CanEnter, current])

instance decidableReady (thread : Thread) : (count : Nat) →
    (pool : Pool Thread Label State Aux Fault) →
      Decidable (Ready discipline guard thread count pool)
  | 0, _ => .isTrue trivial
  | count + 1, pool =>
    have := decidableReady thread count (advance discipline thread pool)
    inferInstanceAs (Decidable (_ ∧ _))

end Decidable

section Reached

variable {discipline : Discipline Label State Aux}
  {Starts : Thread → Program Label State Fault Unit → Prop} {Acts : State → State → Prop}
  {Initial : State × Aux → Prop}
  {guard : Pool Thread Label State Aux Fault → PoolEvent Thread Label → Prop}
variable {pool : Pool Thread Label State Aux Fault}

/-- Some guarded run ends in the pool. -/
def Reached (system : TransitionSystem (Pool Thread Label State Aux Fault) (PoolEvent Thread Label))
    (guard : Pool Thread Label State Aux Fault → PoolEvent Thread Label → Prop)
    (pool : Pool Thread Label State Aux Fault) : Prop :=
  ∃ events, system.GuardedRun guard events pool

omit [DecidableEq Thread] in
theorem Reached.unguarded
    {system : TransitionSystem (Pool Thread Label State Aux Fault) (PoolEvent Thread Label)}
    (reached : Reached system guard pool) :
    Reached system (fun _ _ => True) pool := by
  obtain ⟨events, run⟩ := reached
  exact ⟨events, run.unguarded⟩

theorem Reached.start {thread : Thread} {program : Program Label State Fault Unit}
    (reached : Reached (system discipline Starts Acts Initial) guard pool)
    (guarded : guard pool (.start thread)) (idle : pool.isIdle thread = true)
    (starts : Starts thread program) :
    Reached (system discipline Starts Acts Initial) guard (pool.setThread thread program) := by
  obtain ⟨events, run⟩ := reached
  exact ⟨_, .step run guarded (.start (idle_of_isIdle idle) starts)⟩

theorem Reached.surroundings {state : State}
    (reached : Reached (system discipline Starts Acts Initial) guard pool)
    (guarded : guard pool .surroundings) (acts : Acts pool.shared.1 state) :
    Reached (system discipline Starts Acts Initial) guard
      { pool with shared := (state, pool.shared.2) } := by
  obtain ⟨events, run⟩ := reached
  exact ⟨_, .step run guarded (.surroundings acts)⟩

/-- A thread whose next sections are enabled runs them. -/
theorem Reached.play (thread : Thread) (count : Nat)
    (reached : Reached (system discipline Starts Acts Initial) guard pool)
    (ready : Ready discipline guard thread count pool) :
    Reached (system discipline Starts Acts Initial) guard
      (Pool.play discipline thread count pool) := by
  induction count generalizing pool with
  | zero => exact reached
  | succ count ih =>
    obtain ⟨enters, rest⟩ := ready
    refine ih ?_ rest
    obtain ⟨events, run⟩ := reached
    unfold CanEnter at enters
    unfold advance
    split at enters
    · cases enters
    · next label update next current =>
      exact ⟨_, .step run enters.2 (.enter current enters.1)⟩

end Reached

end CoBridge.Library.Pool

/-!
## Invariants over the next section of each thread

What a program is about to do can be read off the label of its next section.
`Program.Follows` says of every section what it does to the state and which
section comes next; `Pool.invariant_of_follows` keeps an invariant over the
shared state and the next labels of all threads.
-/

namespace CoBridge.Library

namespace Program

variable {Label State Fault Value Result : Type}

/-- The label of the next section. -/
def label? : Program Label State Fault Value → Option Label
  | .done _ => none
  | .atomic label _ _ => some label

/-- Every section, in whatever state it is entered, is as `holds` says of the
states before and after it and of the label that comes next. -/
def Follows (holds : Label → State → State → Option Label → Prop) :
    Program Label State Fault Value → Prop
  | .done _ => True
  | .atomic label update next => ∀ state,
      holds label state (update state) (next state).label? ∧ Follows holds (next state)

/-- The label that comes after a result. -/
def labelAfter (next : Value → Program Label State Fault Result) :
    Except Fault Value → Option Label
  | .ok value => (next value).label?
  | .error _ => none

variable {holds : Label → State → State → Option Label → Prop}
variable {action : Action State Fault Value} {next : Value → Program Label State Fault Result}
  {program : Program Label State Fault Value}

theorem follows_pure (value : Value) :
    (pure value : Program Label State Fault Value).Follows holds :=
  trivial

theorem follows_perform {label : Label}
    (performs : ∀ state, holds label state (action state).2 none) :
    (perform label action).Follows holds :=
  fun state => ⟨performs state, trivial⟩

theorem follows_perform_bind {label : Label}
    (performs : ∀ state, holds label state (action state).2 (labelAfter next (action state).1))
    (nextFollows : ∀ value, (next value).Follows holds) :
    (perform label action >>= next).Follows holds := by
  intro state
  have performed := performs state
  change holds label state (action state).2 (Program.bind (.done (action state).1) next).label? ∧
    (Program.bind (.done (action state).1) next).Follows holds
  revert performed
  rcases (action state).1 with fault | value
  · exact fun performed => ⟨performed, trivial⟩
  · exact fun performed => ⟨performed, nextFollows value⟩

theorem follows_ofExcept_bind {result : Except Fault Value}
    (nextFollows : ∀ value, (next value).Follows holds) :
    (ofExcept result >>= next).Follows holds := by
  cases result with
  | error fault => trivial
  | ok value => exact nextFollows value

theorem Follows.and {also : Label → State → State → Option Label → Prop}
    (follows : program.Follows holds) (followsToo : program.Follows also) :
    program.Follows fun label before after next =>
      holds label before after next ∧ also label before after next := by
  induction program with
  | done result => trivial
  | atomic label update next ih =>
    intro state
    exact ⟨⟨(follows state).1, (followsToo state).1⟩,
      ih state (follows state).2 (followsToo state).2⟩

/-- Dropping the result of a program does not change its sections. -/
theorem Follows.discard (value : Result) (follows : program.Follows holds) :
    (program >>= fun _ => (pure value : Program Label State Fault Result)).Follows holds := by
  induction program with
  | done result => cases result <;> trivial
  | atomic label update next ih =>
    intro state
    obtain ⟨performed, rest⟩ := follows state
    refine ⟨?_, ih state rest⟩
    have same : (Program.bind (next state) fun _ =>
        (pure value : Program Label State Fault Result)).label? = (next state).label? := by
      rcases next state with (_ | _) | _ <;> rfl
    exact Eq.mpr (congrArg (holds label state (update state)) same) performed

end Program

namespace Pool

variable {Thread Label State Aux Fault : Type} [DecidableEq Thread]
  {discipline : Discipline Label State Aux}
  {Starts : Thread → Program Label State Fault Unit → Prop} {Acts : State → State → Prop}
  {Initial : State × Aux → Prop}
  {guard : Pool Thread Label State Aux Fault → PoolEvent Thread Label → Prop}

/-- The label of each thread's next section. -/
def labels (pool : Pool Thread Label State Aux Fault) (thread : Thread) : Option Label :=
  (pool.threads thread).label?

theorem labels_setThread (pool : Pool Thread Label State Aux Fault) (thread : Thread)
    (program : Program Label State Fault Unit) :
    (pool.setThread thread program).labels =
      Function.update pool.labels thread program.label? := by
  funext other
  by_cases same : other = thread
  · subst same
    simp [labels, setThread]
  · simp [labels, setThread, same]

omit [DecidableEq Thread] in
theorem Idle.labels {pool : Pool Thread Label State Aux Fault} {thread : Thread}
    (idle : pool.Idle thread) : pool.labels thread = none := by
  obtain ⟨result, done⟩ := idle
  rw [Pool.labels, done]
  rfl

/-- An invariant of the shared state and the next labels. `holds` describes the
sections of each thread, `admits` is what the guard adds. -/
structure Followed (discipline : Discipline Label State Aux)
    (Starts : Thread → Program Label State Fault Unit → Prop) (Acts : State → State → Prop)
    (holds : Thread → Label → State → State → Option Label → Prop)
    (admits : Thread → Label → State × Aux → (Thread → Option Label) → Prop)
    (invariant : State × Aux → (Thread → Option Label) → Prop) : Prop where
  follows : ∀ thread program, Starts thread program → program.Follows (holds thread)
  starts : ∀ {shared labels thread program}, invariant shared labels → labels thread = none →
    Starts thread program → invariant shared (Function.update labels thread program.label?)
  enters : ∀ {state aux labels thread label next following}, invariant (state, aux) labels →
    labels thread = some label → admits thread label (state, aux) labels →
    holds thread label state next following →
    invariant (next, discipline.effect label aux) (Function.update labels thread following)
  surroundings : ∀ {state next aux labels}, invariant (state, aux) labels → Acts state next →
    invariant (next, aux) labels

/-- Every thread follows its description, and the invariant holds. -/
def Following (holds : Thread → Label → State → State → Option Label → Prop)
    (invariant : State × Aux → (Thread → Option Label) → Prop)
    (pool : Pool Thread Label State Aux Fault) : Prop :=
  (∀ thread, (pool.threads thread).Follows (holds thread)) ∧ invariant pool.shared pool.labels

/-- An invariant that every label keeps holds in every run. -/
theorem invariant_of_follows {holds : Thread → Label → State → State → Option Label → Prop}
    {admits : Thread → Label → State × Aux → (Thread → Option Label) → Prop}
    {invariant : State × Aux → (Thread → Option Label) → Prop}
    (followed : Followed discipline Starts Acts holds admits invariant)
    (initially : ∀ shared, Initial shared → invariant shared fun _ => none)
    (admitted : ∀ pool thread label, guard pool (.enter thread label) →
      discipline.enabled label pool.shared → admits thread label pool.shared pool.labels)
    {events : List (PoolEvent Thread Label)} {pool : Pool Thread Label State Aux Fault}
    (run : (system discipline Starts Acts Initial).GuardedRun guard events pool) :
    invariant pool.shared pool.labels := by
  have kept : pool.Following holds invariant := by
    refine run.invariant ?_ ?_
    · rintro pool ⟨initial, idle⟩
      have quiet : pool.labels = fun _ => none := funext fun thread => (idle thread).labels
      refine ⟨fun thread => ?_, quiet ▸ initially pool.shared initial⟩
      obtain ⟨result, done⟩ := idle thread
      rw [done]
      trivial
    · rintro pool event next ⟨follows, holding⟩ guarded step
      have others {thread : Thread} {program : Program Label State Fault Unit}
          (here : program.Follows (holds thread)) (other : Thread) :
          (Function.update pool.threads thread program other).Follows (holds other) := by
        by_cases same : other = thread
        · subst same
          simpa using here
        · simpa [same] using follows other
      cases step with
      | @start thread program idle starts =>
        refine ⟨others (followed.follows thread program starts), ?_⟩
        rw [labels_setThread]
        exact followed.starts holding idle.labels starts
      | @enter thread label update continuation current enabled =>
        have here := follows thread
        rw [current] at here
        obtain ⟨performed, rest⟩ := here pool.shared.1
        refine ⟨others rest, ?_⟩
        have next : pool.labels thread = some label := by
          rw [Pool.labels, current]
          rfl
        rw [labels_setThread]
        exact followed.enters holding next (admitted pool thread label guarded enabled) performed
      | @surroundings state acts => exact ⟨follows, followed.surroundings holding acts⟩
  exact kept.2

end Pool

end CoBridge.Library
