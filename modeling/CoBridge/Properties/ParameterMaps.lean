import CoBridge.Library.Transition
import CoBridge.Ros2.ParameterEffects

/-!
# The maps of the parameter interface

The nodes with followed parameters are the nodes with an event subscription, and
none of them has an empty set. A step keeps this exactly when the call subscribes
to every node it creates, releases only parameters that are followed, and the event
belongs to a node that has a set.
-/

namespace CoBridge.Ros2

open Library

namespace ParameterInterface

/-- The two maps have the same nodes and every set has a parameter. -/
structure WellFormed (interface : ParameterInterface) : Prop where
  nodes : ∀ nodeName, nodeName ∈ interface.subscribedParamsByNode ↔
    nodeName ∈ interface.paramSubscriptionsByNode
  nonempty : ∀ nodeName ∈ interface.subscribedParamsByNode,
    ∃ paramName, interface.Holds (nodeName, paramName)

theorem wellFormed_initial : initial.WellFormed where
  nodes nodeName := by simp [initial]
  nonempty nodeName member := absurd member (AList.notMem_empty nodeName)

/-- Every name is in its node's set when its turn comes, if the node has one. -/
def Releasable : List String → ParameterInterface → Prop
  | [], _ => True
  | paramName :: rest, interface =>
    if (getNodeAndParamName paramName).1 ∈ interface.subscribedParamsByNode then
      interface.Holds (getNodeAndParamName paramName) ∧
        Releasable rest (interface.release (getNodeAndParamName paramName))
    else
      Releasable rest interface

instance decidableReleasable : (paramNames : List String) → (interface : ParameterInterface) →
    Decidable (Releasable paramNames interface)
  | [], _ => .isTrue trivial
  | paramName :: rest, interface =>
    have := decidableReleasable rest
    inferInstanceAs (Decidable (if (getNodeAndParamName paramName).1 ∈
      interface.subscribedParamsByNode then interface.Holds (getNodeAndParamName paramName) ∧
        Releasable rest (interface.release (getNodeAndParamName paramName))
      else Releasable rest interface))

theorem releasable_cons_of_mem {interface : ParameterInterface} {paramName : String}
    (present : (getNodeAndParamName paramName).1 ∈ interface.subscribedParamsByNode)
    (rest : List String) : Releasable (paramName :: rest) interface ↔
      interface.Holds (getNodeAndParamName paramName) ∧
        Releasable rest (interface.release (getNodeAndParamName paramName)) :=
  iff_of_eq (if_pos present)

theorem releasable_cons_of_notMem {interface : ParameterInterface} {paramName : String}
    (absent : (getNodeAndParamName paramName).1 ∉ interface.subscribedParamsByNode)
    (rest : List String) : Releasable (paramName :: rest) interface ↔ Releasable rest interface :=
  iff_of_eq (if_neg absent)

/-- Releasing a followed parameter drops the node from both maps or from none. -/
theorem WellFormed.release {interface : ParameterInterface} (wellFormed : interface.WellFormed)
    (name : String × String) : (interface.release name).WellFormed where
  nodes nodeName := by
    rw [mem_release_subscriptions, ← wellFormed.nodes]
    constructor
    · exact fun member => ⟨((mem_release _ _ _).mp member).1, fun _ => member⟩
    · rintro ⟨member, remains⟩
      by_cases same : nodeName = name.1
      · exact remains same
      · exact (mem_release _ _ _).mpr ⟨member, fun equal => absurd equal same⟩
  nonempty nodeName member := by
    obtain ⟨before, remains⟩ := (mem_release _ _ _).mp member
    by_cases same : nodeName = name.1
    · obtain ⟨left, held, different⟩ := remains same
      subst same
      exact ⟨left,
        (holds_release _ _ _).mpr ⟨held, fun equal => different (congrArg Prod.snd equal)⟩⟩
    · obtain ⟨paramName, held⟩ := wellFormed.nonempty nodeName before
      exact ⟨paramName, (holds_release _ _ _).mpr
        ⟨held, fun equal => same (congrArg Prod.fst equal)⟩⟩

/-- Unsubscribing keeps the maps, also up to the name at which it goes wrong. -/
theorem WellFormed.unsubscribeParams {interface : ParameterInterface}
    (wellFormed : interface.WellFormed) (paramNames : List String) :
    (unsubscribeParams paramNames interface).2.WellFormed ∧
      ((ParameterInterface.unsubscribeParams paramNames interface).1 ≠ .error .undefinedBehavior ↔
        Releasable paramNames interface) := by
  induction paramNames generalizing interface with
  | nil => exact ⟨wellFormed, iff_of_true (by simp [ParameterInterface.unsubscribeParams]) trivial⟩
  | cons paramName rest ih =>
    by_cases present : (getNodeAndParamName paramName).1 ∈ interface.subscribedParamsByNode
    · rw [releasable_cons_of_mem present]
      by_cases held : interface.Holds (getNodeAndParamName paramName)
      · -- The event subscription is there to be erased, as the node has one.
        rw [unsubscribeParams_held held ((wellFormed.nodes _).mp present)]
        obtain ⟨kept, defined⟩ := ih (wellFormed.release _)
        exact ⟨kept, defined.trans (and_iff_right held).symm⟩
      · rw [unsubscribeParams_missing present held]
        exact ⟨wellFormed, iff_of_false (by simp) fun releasable => held releasable.1⟩
    · rw [unsubscribeParams_absent present, releasable_cons_of_notMem present]
      exact ih wellFormed

end ParameterInterface

open ParameterInterface

/-- Calls of the parameter interface, with what the library answers to a call, and
events of a node's parameters. -/
inductive ParameterCall where
  | subscribe (library : ParameterClients) (paramNames : List String)
  | unsubscribe (paramNames : List String)
  | event (nodeName : String) (changedParameters : List RosParameter)

def parameterStep (patterns : List Regex) (interface : ParameterInterface) :
    ParameterCall → Except Fault Unit × ParameterInterface
  | .subscribe library paramNames => subscribeParams library patterns paramNames interface
  | .unsubscribe paramNames => unsubscribeParams paramNames interface
  | .event nodeName changed => (.ok (), (onParameterEvent nodeName changed interface).2)

/-- Runs of an interface that was just constructed. -/
def parameterSystem (patterns : List Regex) :
    TransitionSystem ParameterInterface ParameterCall where
  Initial interface := interface = .initial
  Step interface call next := next = (parameterStep patterns interface call).2

/-- The names that are recorded belong to nodes that have a set, or the call goes on
to subscribe to their nodes and can. Released parameters are followed. Events belong
to nodes that have a set. -/
def Proper (patterns : List Regex) (interface : ParameterInterface) : ParameterCall → Prop
  | .subscribe library paramNames => ∀ paramName ∈ recorded patterns paramNames,
      (getNodeAndParamName paramName).1 ∈ interface.subscribedParamsByNode ∨
        (paramNames.all fun other => isWhitelisted other patterns) = true ∧
          interface.Connects library (getNodeAndParamName paramName).1
  | .unsubscribe paramNames => Releasable paramNames interface
  | .event nodeName _ => nodeName ∈ interface.subscribedParamsByNode

instance (patterns : List Regex) (interface : ParameterInterface) :
    (call : ParameterCall) → Decidable (Proper patterns interface call)
  | .subscribe library paramNames => inferInstanceAs (Decidable (∀ paramName ∈ recorded patterns
      paramNames, (getNodeAndParamName paramName).1 ∈ interface.subscribedParamsByNode ∨
        (paramNames.all fun other => isWhitelisted other patterns) = true ∧
          interface.Connects library (getNodeAndParamName paramName).1))
  | .unsubscribe paramNames => inferInstanceAs (Decidable (Releasable paramNames interface))
  | .event nodeName _ =>
    inferInstanceAs (Decidable (nodeName ∈ interface.subscribedParamsByNode))

section Steps

variable {patterns : List Regex} {interface : ParameterInterface}

variable (patterns interface) in
/-- The followed parameters after a call: those recorded are added. -/
theorem subscribeParams_params (library : ParameterClients) (paramNames : List String) :
    (subscribeParams library patterns paramNames interface).2.subscribedParamsByNode =
      (interface.recordAll (recorded patterns paramNames)).subscribedParamsByNode := by
  have recordedState := recordParams_snd interface patterns paramNames ∅
  unfold subscribeParams
  revert recordedState
  rcases recordParams patterns paramNames ∅ interface with ⟨_ | nodes, reached⟩
  · exact congrArg subscribedParamsByNode
  · exact fun same =>
      (forEach_subscribeNode_params _ _).trans (congrArg subscribedParamsByNode same)

theorem subscribeParams_defined (library : ParameterClients) (paramNames : List String) :
    (subscribeParams library patterns paramNames interface).1 ≠ .error .undefinedBehavior := by
  unfold subscribeParams
  rcases recordParams patterns paramNames ∅ interface with ⟨_ | nodes, reached⟩
  · simp
  · exact forEach_subscribeNode_defined _ _

/-- A call that ends early subscribes to no node. -/
theorem subscribeParams_rejected {paramNames : List String}
    (rejected : ¬ paramNames.all fun paramName => isWhitelisted paramName patterns)
    (library : ParameterClients) :
    subscribeParams library patterns paramNames interface =
      (.ok (), interface.recordAll (recorded patterns paramNames)) := by
  have ended := recordParams_fst_eq_none interface patterns rejected ∅
  have state := recordParams_snd interface patterns paramNames ∅
  unfold subscribeParams
  revert ended state
  rcases recordParams patterns paramNames ∅ interface with ⟨_ | nodes, reached⟩
  · exact fun _ state => congrArg _ state
  · exact fun ended => nomatch ended

variable (interface) in
/-- A call that does not end early goes on with the nodes that had no set. -/
theorem subscribeParams_accepted {paramNames : List String}
    (accepted : paramNames.all fun paramName => isWhitelisted paramName patterns)
    (library : ParameterClients) :
    ∃ nodes, (∀ nodeName, nodeName ∈ nodes ↔ nodeName ∉ interface.subscribedParamsByNode ∧
        ∃ paramName ∈ paramNames, (getNodeAndParamName paramName).1 = nodeName) ∧
      subscribeParams library patterns paramNames interface =
        Action.forEach nodes (subscribeNode library) (interface.recordAll paramNames) := by
  obtain ⟨found, ended, members⟩ := recordParams_fst interface patterns accepted ∅
  have state := recordParams_snd interface patterns paramNames ∅
  rw [recorded_of_all patterns accepted] at state
  refine ⟨found.keys, fun nodeName => ?_, ?_⟩
  · rw [← AList.mem_keys, members]
    simp
  · unfold subscribeParams
    revert ended state
    rcases recordParams patterns paramNames ∅ interface with ⟨_ | nodes, reached⟩
    · exact fun ended => nomatch ended
    · rintro ended rfl
      cases ended
      rfl

theorem connects_recordAll (library : ParameterClients) (paramNames : List String)
    (nodeName : String) : (interface.recordAll paramNames).Connects library nodeName ↔
      interface.Connects library nodeName := by
  unfold Connects
  rw [recordAll_clients]

/-- Subscribing keeps the maps exactly when it subscribes to every node it creates. -/
theorem wellFormed_subscribeParams_iff (wellFormed : interface.WellFormed)
    (library : ParameterClients) (paramNames : List String) :
    (subscribeParams library patterns paramNames interface).2.WellFormed ↔
      Proper patterns interface (.subscribe library paramNames) := by
  have params := subscribeParams_params patterns interface library paramNames
  have nonempty : ∀ nodeName ∈
      (subscribeParams library patterns paramNames interface).2.subscribedParamsByNode,
      ∃ paramName, (subscribeParams library patterns paramNames interface).2.Holds
        (nodeName, paramName) := by
    unfold Holds subscribedParams
    rw [params]
    -- Recording keeps every set nonempty.
    intro nodeName member
    rcases (mem_recordAll _ _ _).mp member with before | ⟨paramName, listed, node⟩
    · obtain ⟨paramName, held⟩ := wellFormed.nonempty nodeName before
      exact ⟨paramName, (holds_recordAll _ _ _).mpr (.inl held)⟩
    · refine ⟨(getNodeAndParamName paramName).2,
        (holds_recordAll _ _ _).mpr (.inr ⟨paramName, listed, ?_⟩)⟩
      rw [← node]
  have nodesIff : (subscribeParams library patterns paramNames interface).2.WellFormed ↔
      ∀ nodeName, (nodeName ∈ interface.subscribedParamsByNode ∨
          ∃ paramName ∈ recorded patterns paramNames,
            (getNodeAndParamName paramName).1 = nodeName) ↔
        nodeName ∈
          (subscribeParams library patterns paramNames interface).2.paramSubscriptionsByNode := by
    constructor
    · intro after nodeName
      rw [← after.nodes, params, mem_recordAll]
    · intro same
      refine ⟨fun nodeName => ?_, nonempty⟩
      rw [params, mem_recordAll]
      exact same nodeName
  rw [nodesIff]
  by_cases accepted : (paramNames.all fun paramName => isWhitelisted paramName patterns) = true
  · obtain ⟨nodes, members, result⟩ := subscribeParams_accepted interface accepted library
    rw [result, recorded_of_all patterns accepted]
    constructor
    · intro same paramName listed
      rw [recorded_of_all patterns accepted] at listed
      rcases forEach_subscribeNode_mem ((same _).mp (.inr ⟨paramName, listed, rfl⟩)) with
        before | ⟨_, connects⟩
      · rw [recordAll_subscriptions, ← wellFormed.nodes] at before
        exact .inl before
      · exact .inr ⟨accepted, (connects_recordAll library _ _).mp connects⟩
    · intro proper nodeName
      have connects : ∀ created ∈ nodes,
          (interface.recordAll paramNames).Connects library created := by
        intro created member
        obtain ⟨absent, paramName, listed, rfl⟩ := (members created).mp member
        rw [connects_recordAll]
        rcases proper paramName (by rwa [recorded_of_all patterns accepted]) with present | possible
        · exact absurd present absent
        · exact possible.2
      rw [forEach_subscribeNode_of_connects connects, members, recordAll_subscriptions,
        ← wellFormed.nodes]
      by_cases present : nodeName ∈ interface.subscribedParamsByNode
      · simp [present]
      · simp [present]
  · rw [subscribeParams_rejected accepted, recordAll_subscriptions]
    constructor
    · intro same paramName listed
      exact .inl ((wellFormed.nodes _).mpr ((same _).mp (.inr ⟨paramName, listed, rfl⟩)))
    · intro proper nodeName
      rw [← wellFormed.nodes]
      refine ⟨?_, .inl⟩
      rintro (present | ⟨paramName, listed, rfl⟩)
      · exact present
      · exact (proper paramName listed).resolve_right fun possible => accepted possible.1

/-- An event keeps the maps exactly when its node has a set. -/
theorem wellFormed_onParameterEvent_iff (wellFormed : interface.WellFormed) (nodeName : String)
    (changed : List RosParameter) :
    (onParameterEvent nodeName changed interface).2.WellFormed ↔
      nodeName ∈ interface.subscribedParamsByNode := by
  unfold onParameterEvent
  constructor
  · intro after
    have created := (after.nodes nodeName).mp (by simp)
    exact (wellFormed.nodes nodeName).mpr created
  · intro present
    rw [Table.emplace_of_mem present]
    exact wellFormed

theorem parameterStep_iff (wellFormed : interface.WellFormed) (call : ParameterCall) :
    (parameterStep patterns interface call).1 ≠ .error .undefinedBehavior ∧
        (parameterStep patterns interface call).2.WellFormed ↔ Proper patterns interface call := by
  cases call with
  | subscribe library paramNames =>
    rw [← wellFormed_subscribeParams_iff wellFormed]
    exact and_iff_right (subscribeParams_defined library paramNames)
  | unsubscribe paramNames =>
    obtain ⟨kept, defined⟩ := wellFormed.unsubscribeParams paramNames
    exact (and_iff_left kept).trans defined
  | event nodeName changed =>
    rw [Proper, ← wellFormed_onParameterEvent_iff wellFormed nodeName changed]
    exact and_iff_right (by simp [parameterStep])

end Steps

/-- In every run of proper calls and events the maps stay well formed, so every
followed parameter has a live event subscription, and a call or event is proper
exactly when it keeps the maps and is defined. -/
theorem parameter_maps_wellFormed (patterns : List Regex) :
    (∀ interface : ParameterInterface, interface.WellFormed → ∀ call : ParameterCall,
      ((parameterStep patterns interface call).1 ≠ .error .undefinedBehavior ∧
        (parameterStep patterns interface call).2.WellFormed ↔ Proper patterns interface call)) ∧
    ∀ calls interface,
      (parameterSystem patterns).GuardedRun (Proper patterns) calls interface →
        interface.WellFormed ∧
        (∀ name, interface.Holds name → name.1 ∈ interface.paramSubscriptionsByNode) ∧
        ∀ library paramNames, Proper patterns interface (.subscribe library paramNames) →
          ∀ paramName ∈ recorded patterns paramNames,
            (subscribeParams library patterns paramNames interface).2.Holds
              (getNodeAndParamName paramName) ∧
            (getNodeAndParamName paramName).1 ∈
              (subscribeParams library patterns paramNames
                interface).2.paramSubscriptionsByNode := by
  refine ⟨fun interface wellFormed call => parameterStep_iff wellFormed call, ?_⟩
  intro calls interface run
  have wellFormed : interface.WellFormed := by
    apply run.invariant
    · rintro state rfl
      exact wellFormed_initial
    · rintro state call next holds proper rfl
      exact ((parameterStep_iff holds call).mpr proper).2
  refine ⟨wellFormed, fun name held => (wellFormed.nodes _).mp held.mem, ?_⟩
  intro library paramNames proper paramName listed
  have after := (wellFormed_subscribeParams_iff wellFormed library paramNames).mpr proper
  have held : (subscribeParams library patterns paramNames interface).2.Holds
      (getNodeAndParamName paramName) := by
    unfold Holds subscribedParams
    rw [subscribeParams_params]
    exact (holds_recordAll interface _ _).mpr (.inr ⟨paramName, listed, rfl⟩)
  exact ⟨held, (after.nodes _).mp held.mem⟩

/-- A whitelist of the parameters of one node. -/
def talkerOnly : List Regex := [⟨fun name => (getNodeAndParamName name).1 = "/talker"⟩]

/-- The calls of a client that also asks for a parameter off the whitelist. -/
def talkerCalls : List ParameterCall :=
  [.subscribe .working ["/talker.rate"], .subscribe .working ["/talker.gain", "/other.x"],
    .event "/talker" [], .unsubscribe ["/talker.gain", "/talker.rate", "/other.x"]]

/-- Subscriptions to the parameters of one node. -/
theorem parameter_maps_wellFormed_talker :
    ∃ interface, (parameterSystem talkerOnly).GuardedRun (Proper talkerOnly) talkerCalls interface ∧
      interface.WellFormed := by
  have start : (parameterSystem talkerOnly).GuardedRun (Proper talkerOnly) [] .initial :=
    .initial rfl
  have admitted : TransitionSystem.Admits (Proper talkerOnly)
      (fun interface call => (parameterStep talkerOnly interface call).2) .initial talkerCalls := by
    decide +kernel
  have run := start.foldl (fun _ _ => rfl) admitted
  exact ⟨_, run, ((parameter_maps_wellFormed talkerOnly).2 _ _ run).1⟩

/-- The parameter is followed although its node has no event subscription. -/
def Unheard (interface : ParameterInterface) (name : String × String) : Prop :=
  interface.Holds name ∧ name.1 ∉ interface.paramSubscriptionsByNode

theorem Unheard.not_wellFormed {interface : ParameterInterface} {name : String × String}
    (unheard : Unheard interface name) : ¬ interface.WellFormed :=
  fun wellFormed => unheard.2 ((wellFormed.nodes _).mp unheard.1.mem)

/-- A name off the whitelist after one that is on it, and an event that arrives after
the last parameter of its node was released, each leave a node whose parameters are
followed without an event subscription, also when they are subscribed to again. -/
theorem parameter_subscription_unheard :
    (∃ interface, (parameterSystem talkerOnly).Run
        [.subscribe .working ["/talker.rate", "/other.x"], .subscribe .working ["/talker.rate"]]
        interface ∧
      ¬ interface.WellFormed ∧ Unheard interface ("/talker", "rate")) ∧
    ∃ interface, (parameterSystem talkerOnly).Run
        [.subscribe .working ["/talker.rate"], .unsubscribe ["/talker.rate"], .event "/talker" [],
          .subscribe .working ["/talker.rate"]] interface ∧
      ¬ interface.WellFormed ∧ Unheard interface ("/talker", "rate") := by
  have early : Unheard (List.foldl
      (fun interface call => (parameterStep talkerOnly interface call).2) .initial
      [.subscribe .working ["/talker.rate", "/other.x"], .subscribe .working ["/talker.rate"]])
      ("/talker", "rate") := ⟨by decide +kernel, by decide +kernel⟩
  have late : Unheard (List.foldl
      (fun interface call => (parameterStep talkerOnly interface call).2) .initial
      [.subscribe .working ["/talker.rate"], .unsubscribe ["/talker.rate"], .event "/talker" [],
        .subscribe .working ["/talker.rate"]]) ("/talker", "rate") :=
    ⟨by decide +kernel, by decide +kernel⟩
  exact ⟨⟨_, TransitionSystem.run_foldl (fun _ _ => rfl) rfl _, early.not_wellFormed, early⟩,
    ⟨_, TransitionSystem.run_foldl (fun _ _ => rfl) rfl _, late.not_wellFormed, late⟩⟩

end CoBridge.Ros2
