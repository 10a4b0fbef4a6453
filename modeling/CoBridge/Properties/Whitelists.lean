import CoBridge.Ros1.Parameters
import CoBridge.Ros2.ParameterRequests

/-!
# What the whitelists let through

Two properties of both bridges. The values they publish should be of parameters on
the whitelist: the ROS 2 bridge filters what the nodes answer, while the ROS 1 bridge
only notes that a requested name is off the whitelist and reads it all the same. And
a compiled whitelist should admit a name only through a pattern that was configured:
the ROS 1 bridge puts a default in place of a list without a valid pattern.
-/

namespace CoBridge

open Library Action

variable {Bridge Store Nodes : Type}
variable {patterns : List Regex}

/-- The parameters a handler hands to `publishParameterValues`. -/
def published (reply : Reply Bridge) : List Parameter :=
  reply.callbacks.flatMap fun
    | .publishParameterValues _ parameters _ => parameters
    | .updateConnectionGraph _ => []

/-- Every parameter of a list is on the whitelist. -/
def AllListed (patterns : List Regex) (parameters : List Parameter) : Prop :=
  ∀ parameter ∈ parameters, isWhitelisted parameter.name patterns

/-- A handler publishes parameters on the whitelist only. -/
def Confidential (patterns : List Regex) (reply : Reply Bridge) : Prop :=
  AllListed patterns (published reply)

theorem confidential_of_callbacks_nil {reply : Reply Bridge} (silent : reply.callbacks = []) :
    Confidential patterns reply := by
  intro parameter member
  rw [published, silent] at member
  cases member

theorem confidential_publish {hdl : ConnHandle} {parameters : List Parameter}
    {requestId : Option String} {outcome : Except Fault Unit} {bridge : Bridge} :
    Confidential patterns
        ⟨[.publishParameterValues hdl parameters requestId], outcome, bridge⟩ ↔
      AllListed patterns parameters := by
  simp [Confidential, published]

namespace Ros2

section Requests

variable {library : ParameterClients} {services : ParameterServices Nodes}
  {patterns : List Regex}

theorem getNodeParameters_listed {nodes : Nodes} {nodeName : String} {paramNames : List String}
    {params : List Parameter}
    (answered : getNodeParameters services patterns nodes nodeName paramNames = .ok params) :
    AllListed patterns params := by
  rw [getNodeParameters] at answered
  split at answered
  · cases answered
  obtain ⟨requested, -, asked⟩ := except_bind_ok.mp answered
  obtain ⟨received, -, filtered⟩ := except_bind_ok.mp asked
  cases filtered
  intro param member
  obtain ⟨answer, -, kept⟩ := List.mem_filterMap.mp member
  obtain ⟨listed, made⟩ := Option.ite_none_right_eq_some.mp kept
  cases made
  exact listed

theorem mem_of_collect {Value : Type} {tasks : List (Except Exception Value)}
    {values : List Value} (collected : collect tasks = .ok values) {value : Value}
    (member : value ∈ values) : .ok value ∈ tasks := by
  induction tasks generalizing values with
  | nil =>
    cases collected
    cases member
  | cons task rest ih =>
    cases task with
    | ok first =>
      cases remaining : collect rest with
      | error fault =>
        rw [collect, remaining] at collected
        cases collected
      | ok others =>
        rw [collect, remaining] at collected
        cases collected
        rcases List.mem_cons.mp member with rfl | later
        · exact List.mem_cons_self
        · exact List.mem_cons_of_mem _ (ih remaining later)
    | error exception =>
      rw [collect] at collected
      split at collected
      · exact List.mem_cons_of_mem _ (ih collected member)
      · cases collected

/-- Every task that answers, answers with parameters on the whitelist. -/
theorem launchGets_yields (byNode : List (Σ _ : String, List String)) :
    (launchGets library services patterns byNode).Yields
      fun tasks => ∀ params, .ok params ∈ tasks → AllListed patterns params := by
  induction byNode with
  | nil => exact yields_pure fun _ member => nomatch member
  | cons entry rest ih =>
    have taskYields : (Action.gets fun state : ParameterState Nodes =>
        getNodeParameters services patterns state.nodes entry.1 entry.2 :
          Action (ParameterState Nodes) Fault _).Yields
          fun task => ∀ params, task = .ok params → AllListed patterns params :=
      yields_gets fun _ _ => getNodeParameters_listed
    rw [launchGets]
    split
    · exact ih
    · refine Action.Yields.bind (yields_any _) fun _ _ => ?_
      refine Action.Yields.bind taskYields fun task taskListed => ?_
      refine Action.Yields.bind ih fun tasks tasksListed => ?_
      refine yields_pure fun params member => ?_
      rcases List.mem_cons.mp member with answered | later
      · exact taskListed params answered.symm
      · exact tasksListed params later

/-- Only whitelisted parameters are returned. -/
theorem getParams_yields (paramNames : List String) :
    (getParams library services patterns paramNames).Yields (AllListed patterns) := by
  have collectYields (tasks : List (Except Exception (List Parameter)))
      (tasksListed : ∀ params, .ok params ∈ tasks → AllListed patterns params) :
      (Action.ofExcept (collect tasks) : Action (ParameterState Nodes) Fault _).Yields
        fun answers => ∀ params ∈ answers, AllListed patterns params :=
    yields_ofExcept fun _ collected params member =>
      tasksListed params (mem_of_collect collected member)
  refine Action.Yields.bind (yields_any _) fun nodes _ => ?_
  refine Action.Yields.bind (yields_any _) fun byNode _ => ?_
  refine Action.Yields.bind (launchGets_yields byNode.entries) fun tasks tasksListed => ?_
  refine Action.Yields.bind (collectYields tasks tasksListed) fun answers answersListed => ?_
  refine yields_pure fun param member => ?_
  obtain ⟨params, answered, among⟩ := List.mem_flatten.mp member
  exact answersListed params (List.mem_reverse.mp answered) param among

theorem getParameters_confidential (parameters : List String) (requestId : Option String)
    (hdl : ConnHandle) (state : ParameterState Nodes) :
    Confidential patterns
      (getParameters library services patterns parameters requestId hdl state) := by
  have yields : (getParams library services patterns parameters).Yields (AllListed patterns) :=
    getParams_yields parameters
  have listed := yields state
  revert listed
  rw [getParameters]
  rcases getParams library services patterns parameters state with ⟨_ | params, reached⟩
  · intro _
    exact confidential_of_callbacks_nil rfl
  · intro listed
    exact confidential_publish.mpr (listed params rfl)

theorem setParameters_confidential (parameters : List Parameter) (requestId : Option String)
    (hdl : ConnHandle) (state : ParameterState Nodes) :
    Confidential patterns
      (setParameters library services patterns parameters requestId hdl state) := by
  rw [setParameters]
  rcases setParams library services patterns parameters state with ⟨_ | _, reached⟩
  · exact confidential_of_callbacks_nil rfl
  · cases requestId with
    | none => exact confidential_of_callbacks_nil rfl
    | some id => exact getParameters_confidential _ _ hdl reached

end Requests

end Ros2

namespace Ros1

variable {server : ParamServer Store} {patterns : List Regex}
variable {store : Store} {names : List String}

/-- Requests that do not reach a value off the whitelist: for all parameters, or for
names that are on the whitelist or cannot be read. -/
def Withheld (server : ParamServer Store) (patterns : List Regex) (names : List String)
    (store : Store) : Prop :=
  names = [] ∨ ∀ name ∈ names, isWhitelisted name patterns ∨ (server.read store name).isOk = false

theorem read_name {name : String} {param : Parameter} (found : server.read store name = .ok param) :
    param.name = name := by
  obtain ⟨_, -, converted⟩ := except_bind_ok.mp found
  obtain ⟨_, -, made⟩ := except_bind_ok.mp converted
  cases made
  rfl

/-- The loop reads each name it does not skip. -/
theorem mem_readParameters {allParametersRequested : Bool} {param : Parameter} :
    param ∈ (readParameters server patterns allParametersRequested store names).2 ↔
      ∃ name ∈ names, (allParametersRequested = false ∨ isWhitelisted name patterns) ∧
        server.read store name = .ok param := by
  induction names with
  | nil => simp [readParameters]
  | cons name rest ih =>
    rw [readParameters, List.exists_mem_cons_iff, ← ih]
    cases found : server.read store name <;>
      cases listed : isWhitelisted name patterns <;>
        cases allParametersRequested <;> simp [eq_comm]

theorem allListed_readParameters_named :
    AllListed patterns (readParameters server patterns false store names).2 ↔
      ∀ name ∈ names, isWhitelisted name patterns ∨ (server.read store name).isOk = false := by
  constructor
  · intro allListed name member
    cases found : server.read store name with
    | error exception => exact .inr rfl
    | ok param =>
      have listed := allListed param (mem_readParameters.mpr ⟨name, member, .inl rfl, found⟩)
      rw [read_name found] at listed
      exact .inl listed
  · intro withheld param member
    obtain ⟨name, requested, -, found⟩ := mem_readParameters.mp member
    rw [read_name found]
    rcases withheld name requested with listed | unreadable
    · exact listed
    · rw [found] at unreadable
      cases unreadable

theorem getParameters_confidential_iff (names : List String) (requestId : Option String)
    (hdl : ConnHandle) (store : Store) :
    Confidential patterns (getParameters server patterns names requestId hdl store) ↔
      Withheld server patterns names store := by
  cases names with
  | nil =>
    refine iff_of_true ?_ (.inl rfl)
    simp only [getParameters, List.isEmpty_nil, if_true]
    cases server.getParamNames store with
    | none => exact confidential_of_callbacks_nil rfl
    | some names =>
      refine confidential_publish.mpr ?_
      intro param member
      obtain ⟨name, -, listed, found⟩ := mem_readParameters.mp member
      rw [read_name found]
      exact listed.resolve_left Bool.noConfusion
  | cons name rest =>
    rw [Withheld, or_iff_right (List.cons_ne_nil name rest),
      ← allListed_readParameters_named]
    exact confidential_publish

theorem setParameters_confidential_iff (parameters : List Parameter) (requestId : Option String)
    (hdl : ConnHandle) (store : Store) :
    Confidential patterns (setParameters server patterns parameters requestId hdl store) ↔
      requestId = none ∨ Withheld server patterns (parameters.map Parameter.name)
        (writeParameters server patterns parameters store).2 := by
  cases requestId with
  | none => exact iff_of_true (confidential_of_callbacks_nil rfl) (.inl rfl)
  | some id =>
    rw [or_iff_right (Option.some_ne_none id)]
    exact getParameters_confidential_iff _ _ hdl _

end Ros1

/-- The ROS 2 bridge publishes values of whitelisted parameters only, and the ROS 1
bridge does so exactly when no explicitly requested name is off the whitelist and can
be read. A change with a request id reads the changed names back. -/
theorem published_parameters_listed (patterns : List Regex) (requestId : Option String)
    (hdl : ConnHandle) (names : List String) (parameters : List Parameter) :
    (∀ {Nodes : Type} (library : Ros2.ParameterClients) (services : Ros2.ParameterServices Nodes)
      (state : Ros2.ParameterState Nodes),
      Confidential patterns
          (Ros2.getParameters library services patterns names requestId hdl state) ∧
        Confidential patterns
          (Ros2.setParameters library services patterns parameters requestId hdl state)) ∧
    ∀ {Store : Type} (server : Ros1.ParamServer Store) (store : Store),
      (Confidential patterns (Ros1.getParameters server patterns names requestId hdl store) ↔
          Ros1.Withheld server patterns names store) ∧
        (Confidential patterns
            (Ros1.setParameters server patterns parameters requestId hdl store) ↔
          requestId = none ∨ Ros1.Withheld server patterns (parameters.map Parameter.name)
            (Ros1.writeParameters server patterns parameters store).2) := by
  constructor
  · intro Nodes library services state
    exact ⟨Ros2.getParameters_confidential names requestId hdl state,
      Ros2.setParameters_confidential parameters requestId hdl state⟩
  · intro Store server store
    exact ⟨Ros1.getParameters_confidential_iff names requestId hdl store,
      Ros1.setParameters_confidential_iff parameters requestId hdl store⟩

namespace Ros1

/-- A parameter server where every name holds a text. -/
def secretServer : ParamServer Unit where
  getParamNames := fun _ => some ["/secret"]
  getParam := fun _ _ => .ok (.string "hunter2")
  setParam := fun _ _ store => (.ok (), store)
  deleteParam := fun _ store => (.ok (), store)

/-- The whitelist `/public`. -/
def publicPatterns : List Regex := [⟨fun name => name = "/public"⟩]

/-- The value of a requested name is published although the whitelist does not admit it, and
the request is then reported as failed. -/
theorem getParameters_publishes_unlisted :
    published (getParameters secretServer publicPatterns ["/secret"] none ⟨0⟩ ()) =
        [⟨"/secret", .string "hunter2"⟩] ∧
      (getParameters secretServer publicPatterns ["/secret"] none ⟨0⟩ ()).outcome =
        .error (.raised (.std "Failed to retrieve one or multiple parameters")) ∧
      ¬ Confidential publicPatterns
        (getParameters secretServer publicPatterns ["/secret"] none ⟨0⟩ ()) := by
  refine ⟨rfl, rfl, fun confidential => ?_⟩
  have listed := confidential ⟨"/secret", .string "hunter2"⟩ List.mem_cons_self
  cases listed

end Ros1

section Patterns

/-- A compiled whitelist admits a name only through a configured pattern that
compiled and matches it. -/
def FailsClosed (compile : RegexCompiler) (configured : List String) (compiled : List Regex) :
    Prop :=
  ∀ name, isWhitelisted name compiled →
    ∃ pattern ∈ configured, ∃ regex, compile pattern = some regex ∧ regex.regexMatch name

/-- Some configured pattern compiles, or else the default admits nothing. -/
def Effective (compile : RegexCompiler) (configured : List String) : Prop :=
  (∃ pattern ∈ configured, (compile pattern).isSome) ∨
    ∀ regex, compile ".*" = some regex → ∀ name, regex.regexMatch name = false

theorem Ros2.parseRegexStrings_failsClosed (compile : RegexCompiler) (configured : List String) :
    FailsClosed compile configured (Ros2.parseRegexStrings compile configured) := by
  intro name listed
  obtain ⟨regex, member, matching⟩ := List.any_eq_true.mp listed
  obtain ⟨pattern, among, compiled⟩ := List.mem_filterMap.mp member
  exact ⟨pattern, among, regex, compiled, matching⟩

variable {compile : RegexCompiler} {configured : List String}

theorem parseRegexStrings_isEmpty_iff :
    Ros2.parseRegexStrings compile configured = [] ↔
      ¬ ∃ pattern ∈ configured, (compile pattern).isSome := by
  simp [Ros2.parseRegexStrings, Option.isSome_iff_ne_none]

/-- With a valid pattern both bridges compile the same list. -/
theorem Ros1.parseRegexPatterns_of_valid
    (valid : ∃ pattern ∈ configured, (compile pattern).isSome) :
    Ros1.parseRegexPatterns compile configured = Ros2.parseRegexStrings compile configured := by
  have nonempty : Ros2.parseRegexStrings compile configured ≠ [] := fun empty =>
    parseRegexStrings_isEmpty_iff.mp empty valid
  exact if_neg fun empty => nonempty (List.isEmpty_iff.mp empty)

/-- Without one the ROS 1 bridge is left with the default. -/
theorem Ros1.parseRegexPatterns_of_invalid
    (invalid : ¬ ∃ pattern ∈ configured, (compile pattern).isSome) :
    Ros1.parseRegexPatterns compile configured = (compile ".*").toList := by
  have empty : configured.filterMap compile = [] := parseRegexStrings_isEmpty_iff.mpr invalid
  rw [Ros1.parseRegexPatterns, empty]
  rfl

/-- The ROS 2 whitelist always fails closed. The ROS 1 whitelist fails closed and
admits the same names exactly when some configured pattern compiles, or the default
admits nothing. -/
theorem whitelists_fail_closed (compile : RegexCompiler) (configured : List String) :
    FailsClosed compile configured (Ros2.parseRegexStrings compile configured) ∧
      ((FailsClosed compile configured (Ros1.parseRegexPatterns compile configured) ∧
          ∀ name, isWhitelisted name (Ros1.parseRegexPatterns compile configured) =
            isWhitelisted name (Ros2.parseRegexStrings compile configured)) ↔
        Effective compile configured) := by
  have closed := Ros2.parseRegexStrings_failsClosed compile configured
  refine ⟨closed, ?_⟩
  by_cases valid : ∃ pattern ∈ configured, (compile pattern).isSome
  · rw [Ros1.parseRegexPatterns_of_valid valid]
    exact iff_of_true ⟨closed, fun _ => rfl⟩ (.inl valid)
  · rw [Ros1.parseRegexPatterns_of_invalid valid]
    constructor
    · rintro ⟨closedDefault, -⟩
      refine .inr fun regex compiled name => ?_
      rw [Bool.eq_false_iff]
      intro matching
      -- A name the default admits would need a configured pattern that compiled.
      have listed : isWhitelisted name (compile ".*").toList := by
        simp [isWhitelisted, compiled, matching]
      obtain ⟨pattern, among, found, compiledPattern, -⟩ := closedDefault name listed
      exact valid ⟨pattern, among, Option.isSome_of_mem compiledPattern⟩
    · intro effective
      have silent := effective.resolve_left valid
      have nothing (name : String) : isWhitelisted name (compile ".*").toList = false := by
        cases compiled : compile ".*" with
        | none => rfl
        | some regex => simp [isWhitelisted, silent regex compiled name]
      refine ⟨fun name listed => ?_, fun name => ?_⟩
      · rw [nothing name] at listed
        cases listed
      · rw [nothing name, parseRegexStrings_isEmpty_iff.mpr valid]
        rfl

/-- A compiler for which an unclosed bracket is no pattern and the default matches
every name. -/
def defaultOnly : RegexCompiler := fun pattern =>
  if pattern = ".*" then some ⟨fun _ => true⟩ else none

/-- With one pattern, which does not compile, the ROS 1 bridge admits every name. -/
theorem Ros1.invalid_whitelist_admits :
    isWhitelisted "/secret" (Ros1.parseRegexPatterns defaultOnly ["["]) = true ∧
      isWhitelisted "/secret" (Ros2.parseRegexStrings defaultOnly ["["]) = false ∧
      ¬ FailsClosed defaultOnly ["["] (Ros1.parseRegexPatterns defaultOnly ["["]) := by
  refine ⟨by decide, by decide, fun closed => ?_⟩
  obtain ⟨pattern, among, regex, compiled, -⟩ := closed "/secret" (by decide)
  rw [List.mem_singleton.mp among] at compiled
  cases compiled

end Patterns

end CoBridge
