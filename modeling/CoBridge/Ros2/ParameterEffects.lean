import CoBridge.Ros2.ParameterInterface
import Mathlib.Data.List.TakeWhile

/-!
# What the operations on parameter subscriptions do

Each operation by the parameters that are followed afterwards, the nodes that have
a set and the nodes that have an event subscription.
-/

namespace CoBridge.Ros2.ParameterInterface

open Library Action Table

/-- The parameter of the node is followed. -/
def Holds (interface : ParameterInterface) (name : String × String) : Prop :=
  name.2 ∈ interface.subscribedParams name.1

instance (interface : ParameterInterface) (name : String × String) :
    Decidable (interface.Holds name) :=
  inferInstanceAs (Decidable (name.2 ∈ interface.subscribedParams name.1))

theorem Holds.mem {interface : ParameterInterface} {name : String × String}
    (holds : interface.Holds name) : name.1 ∈ interface.subscribedParamsByNode := by
  unfold Holds subscribedParams at holds
  rcases found : interface.subscribedParamsByNode.lookup name.1 with _ | names
  · simp [found] at holds
  · exact mem_of_lookup found

section Record

variable (interface : ParameterInterface)

theorem mem_recordParam (name : String × String) (nodeName : String) :
    nodeName ∈ (interface.recordParam name).subscribedParamsByNode ↔
      nodeName = name.1 ∨ nodeName ∈ interface.subscribedParamsByNode := by
  simp [recordParam]

theorem holds_recordParam (name other : String × String) :
    (interface.recordParam name).Holds other ↔ other = name ∨ interface.Holds other := by
  unfold Holds subscribedParams recordParam
  rw [lookup_modify, lookup_emplace, lookup_emplace, if_pos rfl]
  obtain ⟨node, param⟩ := name
  obtain ⟨otherNode, otherParam⟩ := other
  by_cases sameNode : otherNode = node
  · subst sameNode
    simp
  · simp [sameNode]

/-- Follow every parameter of a list. -/
def recordAll (paramNames : List String) (interface : ParameterInterface) : ParameterInterface :=
  paramNames.foldl (fun reached paramName => reached.recordParam (getNodeAndParamName paramName))
    interface

theorem recordAll_cons (paramName : String) (rest : List String) :
    interface.recordAll (paramName :: rest) =
      (interface.recordParam (getNodeAndParamName paramName)).recordAll rest := rfl

theorem mem_recordAll (paramNames : List String) (nodeName : String) :
    nodeName ∈ (interface.recordAll paramNames).subscribedParamsByNode ↔
      nodeName ∈ interface.subscribedParamsByNode ∨
        ∃ paramName ∈ paramNames, (getNodeAndParamName paramName).1 = nodeName := by
  induction paramNames generalizing interface with
  | nil => simp [recordAll]
  | cons paramName rest ih =>
    rw [recordAll_cons, ih, mem_recordParam]
    simp only [List.mem_cons, exists_eq_or_imp, eq_comm (a := nodeName)]
    tauto

theorem holds_recordAll (paramNames : List String) (name : String × String) :
    (interface.recordAll paramNames).Holds name ↔
      interface.Holds name ∨ ∃ paramName ∈ paramNames, getNodeAndParamName paramName = name := by
  induction paramNames generalizing interface with
  | nil => simp [recordAll]
  | cons paramName rest ih =>
    rw [recordAll_cons, ih, holds_recordParam]
    simp only [List.mem_cons, exists_eq_or_imp, eq_comm (a := name)]
    tauto

theorem recordAll_clients (paramNames : List String) :
    (interface.recordAll paramNames).paramClientsByNode = interface.paramClientsByNode := by
  induction paramNames generalizing interface with
  | nil => rfl
  | cons paramName rest ih => exact ih _

theorem recordAll_subscriptions (paramNames : List String) :
    (interface.recordAll paramNames).paramSubscriptionsByNode =
      interface.paramSubscriptionsByNode := by
  induction paramNames generalizing interface with
  | nil => rfl
  | cons paramName rest ih => exact ih _

variable (patterns : List Regex)
variable {paramNames : List String}

/-- The names that are recorded: those before the first one off the whitelist. -/
def recorded (patterns : List Regex) (paramNames : List String) : List String :=
  paramNames.takeWhile fun paramName => isWhitelisted paramName patterns

theorem recordParams_snd (paramNames : List String) (nodes : KeySet String) :
    (recordParams patterns paramNames nodes interface).2 =
      interface.recordAll (recorded patterns paramNames) := by
  induction paramNames generalizing interface nodes with
  | nil => rfl
  | cons paramName rest ih =>
    unfold recordParams recorded
    rw [List.takeWhile_cons]
    by_cases listed : isWhitelisted paramName patterns
    · rw [if_pos listed, if_pos listed, ih]
      rfl
    · rw [if_neg listed, if_neg listed]
      rfl

/-- A name off the whitelist ends the call without any node to subscribe to. -/
theorem recordParams_fst_eq_none
    (rejected : ¬ paramNames.all fun paramName => isWhitelisted paramName patterns)
    (nodes : KeySet String) : (recordParams patterns paramNames nodes interface).1 = none := by
  induction paramNames generalizing interface nodes with
  | nil => simp at rejected
  | cons paramName rest ih =>
    unfold recordParams
    by_cases listed : isWhitelisted paramName patterns
    · rw [if_pos listed]
      apply ih
      simpa [listed] using rejected
    · rw [if_neg listed]

/-- Otherwise the nodes to subscribe to are those that had no set. -/
theorem recordParams_fst
    (accepted : paramNames.all fun paramName => isWhitelisted paramName patterns)
    (nodes : KeySet String) :
    ∃ found, (recordParams patterns paramNames nodes interface).1 = some found ∧
      ∀ nodeName, nodeName ∈ found ↔ nodeName ∈ nodes ∨
        nodeName ∉ interface.subscribedParamsByNode ∧
          ∃ paramName ∈ paramNames, (getNodeAndParamName paramName).1 = nodeName := by
  induction paramNames generalizing interface nodes with
  | nil => exact ⟨nodes, rfl, by simp⟩
  | cons paramName rest ih =>
    rw [List.all_cons, Bool.and_eq_true] at accepted
    unfold recordParams
    rw [if_pos accepted.1]
    obtain ⟨found, returned, members⟩ := ih
      (interface.recordParam (getNodeAndParamName paramName)) accepted.2
      (if (getNodeAndParamName paramName).1 ∈ interface.subscribedParamsByNode then nodes
        else nodes.emplace (getNodeAndParamName paramName).1 ())
    refine ⟨found, returned, fun nodeName => ?_⟩
    rw [members, mem_recordParam]
    by_cases same : (getNodeAndParamName paramName).1 = nodeName
    · subst same
      split
      · next present => simp [present]
      · next absent => simp [absent]
    · have different : nodeName ≠ (getNodeAndParamName paramName).1 := Ne.symm same
      split <;> simp [same, different]

/-- Names that are all whitelisted are all recorded. -/
theorem recorded_of_all
    (accepted : paramNames.all fun paramName => isWhitelisted paramName patterns) :
    recorded patterns paramNames = paramNames :=
  List.takeWhile_eq_self_iff.mpr (List.all_eq_true.mp accepted)

end Record

section Subscribe

variable (library : ParameterClients)

/-- The node's events can be subscribed to. -/
def Connects (interface : ParameterInterface) (nodeName : String) : Prop :=
  (nodeName ∈ interface.paramClientsByNode ∨ (library.makeShared nodeName).isOk = true) ∧
    (library.onParameterEvent nodeName).isOk = true

instance (interface : ParameterInterface) (nodeName : String) :
    Decidable (interface.Connects library nodeName) :=
  inferInstanceAs (Decidable (_ ∧ _))

/-- The interface with a client and an event subscription for one more node. -/
def connect (nodeName : String) (interface : ParameterInterface) : ParameterInterface :=
  { interface with
    paramClientsByNode := interface.paramClientsByNode.emplace nodeName ()
    paramSubscriptionsByNode := interface.paramSubscriptionsByNode.emplace nodeName () }

variable {interface : ParameterInterface} {nodeName : String}

theorem subscribeNode_of_connects (connects : interface.Connects library nodeName) :
    subscribeNode library nodeName interface = (.ok (), interface.connect nodeName) := by
  obtain ⟨client, event⟩ := connects
  unfold subscribeNode
  rcases made : library.makeShared nodeName with failure | _
  · have present : nodeName ∈ interface.paramClientsByNode := by
      simpa [made, Except.isOk, Except.toBool] using client
    rcases subscribed : library.onParameterEvent nodeName with failure | _
    · simp [subscribed, Except.isOk, Except.toBool] at event
    · simp [present, connect]
  · rcases subscribed : library.onParameterEvent nodeName with failure | _
    · simp [subscribed, Except.isOk, Except.toBool] at event
    · simp [connect]

/-- A node that cannot be subscribed to raises an exception; at most its client stays. -/
theorem subscribeNode_of_not_connects (fails : ¬ interface.Connects library nodeName) :
    ∃ exception, (subscribeNode library nodeName interface).1 = .error (.raised exception) ∧
      (subscribeNode library nodeName interface).2.subscribedParamsByNode =
        interface.subscribedParamsByNode ∧
      (subscribeNode library nodeName interface).2.paramSubscriptionsByNode =
        interface.paramSubscriptionsByNode := by
  unfold Connects at fails
  unfold subscribeNode
  rcases subscribed : library.onParameterEvent nodeName with failure | _
  · by_cases present : nodeName ∈ interface.paramClientsByNode
    · exact ⟨failure, by simp [present], by simp [present], by simp [present]⟩
    · rcases made : library.makeShared nodeName with missing | _
      · exact ⟨missing, by simp [present], by simp [present], by simp [present]⟩
      · exact ⟨failure, by simp, by simp, by simp⟩
  · rcases made : library.makeShared nodeName with missing | _
    · have absent : nodeName ∉ interface.paramClientsByNode := by
        simpa [made, subscribed, Except.isOk, Except.toBool] using fails
      exact ⟨missing, by simp [absent], by simp [absent], by simp [absent]⟩
    · simp [made, subscribed, Except.isOk, Except.toBool] at fails

/-- Connecting one node does not change which nodes can be connected. -/
theorem connects_connect (connects : interface.Connects library nodeName) (other : String) :
    (interface.connect nodeName).Connects library other ↔ interface.Connects library other := by
  by_cases same : other = nodeName
  · subst same
    refine iff_of_true ⟨.inl ?_, connects.2⟩ connects
    simp [connect]
  · simp [Connects, connect, same]

variable {library}

/-- The second loop changes neither the followed parameters nor their nodes. -/
theorem forEach_subscribeNode_params (nodes : List String) (interface : ParameterInterface) :
    (Action.forEach nodes (subscribeNode library) interface).2.subscribedParamsByNode =
      interface.subscribedParamsByNode := by
  have framed : (Action.forEach nodes (subscribeNode library)).Meets
      (.frame ParameterInterface.subscribedParamsByNode) := by
    apply meets_forEach
    intro nodeName _ state
    by_cases connects : state.Connects library nodeName
    · rw [subscribeNode_of_connects library connects]
      rfl
    · obtain ⟨_, _, same, _⟩ := subscribeNode_of_not_connects library connects
      exact same
  exact framed interface

theorem forEach_subscribeNode_defined (nodes : List String) (interface : ParameterInterface) :
    (Action.forEach nodes (subscribeNode library) interface).1 ≠ .error .undefinedBehavior := by
  induction nodes generalizing interface with
  | nil => simp
  | cons nodeName rest ih =>
    rw [forEach_cons]
    by_cases connects : interface.Connects library nodeName
    · rw [bind_ok (subscribeNode_of_connects library connects)]
      exact ih _
    · obtain ⟨exception, raised, _, _⟩ := subscribeNode_of_not_connects library connects
      rw [bind_error (Prod.ext raised rfl)]
      simp

/-- Only nodes that can be connected get a subscription. -/
theorem forEach_subscribeNode_mem {nodes : List String} (member : nodeName ∈
      (Action.forEach nodes (subscribeNode library) interface).2.paramSubscriptionsByNode) :
    nodeName ∈ interface.paramSubscriptionsByNode ∨
      nodeName ∈ nodes ∧ interface.Connects library nodeName := by
  induction nodes generalizing interface with
  | nil => exact .inl member
  | cons first rest ih =>
    rw [forEach_cons] at member
    by_cases connects : interface.Connects library first
    · rw [bind_ok (subscribeNode_of_connects library connects)] at member
      rcases ih member with before | ⟨listed, possible⟩
      · simp only [connect, mem_emplace] at before
        rcases before with rfl | before
        · exact .inr ⟨List.mem_cons_self, connects⟩
        · exact .inl before
      · exact .inr ⟨List.mem_cons_of_mem _ listed,
          (connects_connect library connects nodeName).mp possible⟩
    · obtain ⟨exception, raised, _, same⟩ := subscribeNode_of_not_connects library connects
      rw [bind_error (Prod.ext raised rfl), same] at member
      exact .inl member

/-- Nodes that can all be connected all get a subscription. -/
theorem forEach_subscribeNode_of_connects {nodes : List String}
    (connects : ∀ nodeName ∈ nodes, interface.Connects library nodeName) (nodeName : String) :
    nodeName ∈ (Action.forEach nodes (subscribeNode library) interface).2.paramSubscriptionsByNode ↔
      nodeName ∈ nodes ∨ nodeName ∈ interface.paramSubscriptionsByNode := by
  induction nodes generalizing interface with
  | nil => simp
  | cons first rest ih =>
    have head := connects first List.mem_cons_self
    rw [forEach_cons, bind_ok (subscribeNode_of_connects library head),
      ih fun other listed =>
        (connects_connect library head other).mpr (connects other (List.mem_cons_of_mem _ listed))]
    simp only [connect, mem_emplace, List.mem_cons]
    tauto

end Subscribe

section Release

variable (interface : ParameterInterface)

variable {paramName : String} (name : String × String)

theorem holds_release (other : String × String) :
    (interface.release name).Holds other ↔ interface.Holds other ∧ other ≠ name := by
  unfold Holds subscribedParams release
  rw [mem_lookup_eraseInner, Ne, Prod.ext_iff]

theorem mem_release (nodeName : String) :
    nodeName ∈ (interface.release name).subscribedParamsByNode ↔
      nodeName ∈ interface.subscribedParamsByNode ∧
        (nodeName = name.1 → ∃ left ∈ interface.subscribedParams name.1, left ≠ name.2) :=
  mem_eraseInner _ _ _ _

theorem mem_release_subscriptions (nodeName : String) :
    nodeName ∈ (interface.release name).paramSubscriptionsByNode ↔
      nodeName ∈ interface.paramSubscriptionsByNode ∧
        (nodeName = name.1 → nodeName ∈ (interface.release name).subscribedParamsByNode) := by
  change nodeName ∈ (if name.1 ∈ (interface.release name).subscribedParamsByNode then
    interface.paramSubscriptionsByNode else interface.paramSubscriptionsByNode.erase name.1) ↔ _
  split
  · next remains =>
    exact ⟨fun member => ⟨member, fun same => same ▸ remains⟩, And.left⟩
  · next emptied =>
    rw [AList.mem_erase]
    constructor
    · exact fun member => ⟨member.2, fun same => absurd same member.1⟩
    · exact fun ⟨member, remains⟩ => ⟨fun same => emptied (same ▸ remains same), member⟩

variable {interface}

theorem unsubscribeParams_absent
    (absent : (getNodeAndParamName paramName).1 ∉ interface.subscribedParamsByNode)
    (rest : List String) :
    unsubscribeParams (paramName :: rest) interface = unsubscribeParams rest interface :=
  if_neg absent

/-- A parameter missing from the set of its node is erased at the end of the set. -/
theorem unsubscribeParams_missing
    (present : (getNodeAndParamName paramName).1 ∈ interface.subscribedParamsByNode)
    (missing : ¬ interface.Holds (getNodeAndParamName paramName)) (rest : List String) :
    unsubscribeParams (paramName :: rest) interface = (.error .undefinedBehavior, interface) :=
  (if_pos present).trans (if_pos missing)

theorem unsubscribeParams_held (held : interface.Holds (getNodeAndParamName paramName))
    (subscribed : (getNodeAndParamName paramName).1 ∈ interface.paramSubscriptionsByNode)
    (rest : List String) :
    unsubscribeParams (paramName :: rest) interface =
      unsubscribeParams rest (interface.release (getNodeAndParamName paramName)) :=
  (if_pos held.mem).trans ((if_neg (not_not.mpr held)).trans
    (if_neg fun unsubscribed => unsubscribed.2 subscribed))

/-- After a followed parameter was released the loop goes on, or it ends at a missing
event subscription with the parameters that are left. -/
theorem unsubscribeParams_held_cases (held : interface.Holds (getNodeAndParamName paramName))
    (rest : List String) :
    unsubscribeParams (paramName :: rest) interface =
        unsubscribeParams rest (interface.release (getNodeAndParamName paramName)) ∨
      ∀ name, (interface.release (getNodeAndParamName paramName)).Holds name →
        (unsubscribeParams (paramName :: rest) interface).2.Holds name := by
  by_cases unsubscribed : (getNodeAndParamName paramName).1 ∉
      interface.subscribedParamsByNode.eraseInner (getNodeAndParamName paramName).1
        (getNodeAndParamName paramName).2 ∧
      (getNodeAndParamName paramName).1 ∉ interface.paramSubscriptionsByNode
  · right
    have ended : unsubscribeParams (paramName :: rest) interface =
        (.error .undefinedBehavior, { interface with
          subscribedParamsByNode := interface.subscribedParamsByNode.eraseInner
            (getNodeAndParamName paramName).1 (getNodeAndParamName paramName).2 }) :=
      (if_pos held.mem).trans ((if_neg (not_not.mpr held)).trans (if_pos unsubscribed))
    intro name left
    rw [ended]
    exact left
  · left
    exact (if_pos held.mem).trans ((if_neg (not_not.mpr held)).trans (if_neg unsubscribed))

end Release

end CoBridge.Ros2.ParameterInterface
