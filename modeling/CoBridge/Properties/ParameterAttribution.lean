import Mathlib.Data.List.Perm.Basic
import CoBridge.Properties.ParameterMaps

/-!
# The node of a parameter update

Every event subscription receives the parameter events of all nodes. The callback does not
look at the node that an event names: it puts the name of the node it was created for in
front of each changed parameter that is followed at that node. An update is attributed
rightly exactly if no other node with a subscription follows a parameter of the same name.
-/

namespace CoBridge.Ros2

open Library

/-- What distinct keys list together is what one of them lists exactly if the others list
nothing. -/
theorem flatMap_perm_iff {Key Item : Type} [DecidableEq Key] {keys : List Key}
    (distinct : keys.Nodup) (report : Key → List Item) (key : Key) :
    (keys.flatMap report).Perm (if key ∈ keys then report key else []) ↔
      ∀ other ∈ keys, other ≠ key → report other = [] := by
  by_cases listed : key ∈ keys
  · have first : (keys.flatMap report).Perm (report key ++ (keys.erase key).flatMap report) :=
      (List.perm_cons_erase listed).flatMap_right report
    have others : (keys.erase key).flatMap report = [] ↔
        ∀ other ∈ keys, other ≠ key → report other = [] := by
      rw [List.flatMap_eq_nil_iff]
      refine forall_congr' fun other => ?_
      rw [distinct.mem_erase_iff, and_imp, imp.swap]
    rw [if_pos listed, ← others]
    constructor
    · intro same
      have lengths := (first.symm.trans same).length_eq
      rw [List.length_append] at lengths
      exact List.eq_nil_of_length_eq_zero (by omega)
    · intro nothing
      simpa [nothing] using first
  · rw [if_neg listed, List.perm_nil, List.flatMap_eq_nil_iff]
    refine forall₂_congr fun other member => ?_
    have different : other ≠ key := ne_of_mem_of_not_mem member listed
    simp [different]

namespace ParameterInterface

/-- One event, handed to the callbacks of some subscriptions: the lists that the update
function is called with, and the interface afterwards. A callback with nothing to report
does not call it. -/
def deliver (changedParameters : List RosParameter) :
    List String → ParameterInterface → List (List Parameter) × ParameterInterface
  | [], interface => ([], interface)
  | subscriber :: rest, interface =>
    let (result, reached) := interface.onParameterEvent subscriber changedParameters
    let (reports, last) := deliver changedParameters rest reached
    (if result.isEmpty then reports else result :: reports, last)

/-- The event of a node. Which node it is makes no difference to the callbacks. -/
def parameterEvent (_nodeName : String) (changedParameters : List RosParameter)
    (interface : ParameterInterface) : List (List Parameter) × ParameterInterface :=
  deliver changedParameters interface.paramSubscriptionsByNode.keys interface

/-- The changed parameters that are followed at a node, under the name of that node. -/
def updates (interface : ParameterInterface) (changedParameters : List RosParameter)
    (nodeName : String) : List Parameter :=
  (changedParameters.filter fun param => param.name ∈ interface.subscribedParams nodeName).map
    fun param => fromRosParam ⟨prependNodeNameToParamName param.name nodeName, param.value⟩

variable (interface : ParameterInterface) (nodeName : String)
  (changedParameters : List RosParameter)

theorem onParameterEvent_fst :
    (interface.onParameterEvent nodeName changedParameters).1 =
      interface.updates changedParameters nodeName := by
  change List.filterMap _ changedParameters = _
  rw [updates, ← List.filterMap_eq_map, List.filterMap_filter]
  simp only [Function.comp_apply, decide_eq_true_eq]

/-- A callback creates sets at most, and empty ones. -/
theorem updates_onParameterEvent :
    (interface.onParameterEvent nodeName changedParameters).2.updates = interface.updates := by
  have sets : (interface.onParameterEvent nodeName changedParameters).2.subscribedParams =
      interface.subscribedParams := by
    funext other
    change ((interface.subscribedParamsByNode.emplace nodeName ∅).lookup other).getD ∅ = _
    rw [Table.lookup_emplace]
    split
    · next same =>
      subst same
      rfl
    · rfl
  unfold updates
  rw [sets]

theorem deliver_reports (subscribers : List String) (interface : ParameterInterface) :
    (deliver changedParameters subscribers interface).1.flatten =
      subscribers.flatMap (interface.updates changedParameters) := by
  induction subscribers generalizing interface with
  | nil => rfl
  | cons subscriber rest ih =>
    rw [deliver, List.flatMap_cons, ← onParameterEvent_fst,
      ← updates_onParameterEvent interface subscriber changedParameters, ← ih]
    rcases interface.onParameterEvent subscriber changedParameters with ⟨_ | _, reached⟩ <;> rfl

/-- An event is reported rightly: the update function is called with each changed parameter
that is followed at the node of the event, under the name of that node, and with nothing
else. Nothing is called for if the node has no subscription. -/
def Attributed (interface : ParameterInterface) (nodeName : String)
    (changedParameters : List RosParameter) : Prop :=
  (interface.parameterEvent nodeName changedParameters).1.flatten.Perm
    (if nodeName ∈ interface.paramSubscriptionsByNode.keys
      then interface.updates changedParameters nodeName else [])

/-- No other node with a subscription follows a parameter that has the name of a changed
one. -/
def Unambiguous (interface : ParameterInterface) (nodeName : String)
    (changedParameters : List RosParameter) : Prop :=
  ∀ other ∈ interface.paramSubscriptionsByNode.keys, other ≠ nodeName →
    ∀ param ∈ changedParameters, param.name ∉ interface.subscribedParams other

theorem attributed_iff :
    interface.Attributed nodeName changedParameters ↔
      interface.Unambiguous nodeName changedParameters := by
  unfold Attributed parameterEvent
  rw [deliver_reports, flatMap_perm_iff interface.paramSubscriptionsByNode.keys_nodup]
  refine forall₃_congr fun other _ _ => ?_
  simp [updates]

end ParameterInterface

open ParameterInterface

/-- Calls of the interface, and events of nodes that reach every subscription. -/
def sharedStep (patterns : List Regex) (interface : ParameterInterface) :
    ParameterCall → ParameterInterface
  | .subscribe library paramNames => (subscribeParams library patterns paramNames interface).2
  | .unsubscribe paramNames => (unsubscribeParams paramNames interface).2
  | .event nodeName changed => (interface.parameterEvent nodeName changed).2

/-- A property of the events of a run. -/
def ofEvents (property : ParameterInterface → String → List RosParameter → Prop)
    (interface : ParameterInterface) : ParameterCall → Prop
  | .event nodeName changed => property interface nodeName changed
  | _ => True

/-- From every state and over every sequence of subscriptions and events, all updates are
attributed to the right node exactly if no event is ambiguous when it arrives. -/
theorem parameter_updates_attributed_iff (patterns : List Regex) (interface : ParameterInterface)
    (calls : List ParameterCall) :
    TransitionSystem.Admits (ofEvents Attributed) (sharedStep patterns) interface calls ↔
      TransitionSystem.Admits (ofEvents Unambiguous) (sharedStep patterns) interface calls := by
  induction calls generalizing interface with
  | nil => exact Iff.rfl
  | cons call rest ih =>
    refine and_congr ?_ (ih _)
    cases call with
    | event nodeName changed => exact attributed_iff interface nodeName changed
    | _ => exact Iff.rfl

/-- An interface that follows a parameter of the same name at two nodes. -/
def twoRates : ParameterInterface :=
  (subscribeParams .working [⟨fun _ => true⟩] ["/left.rate", "/right.rate"] .initial).2

/-- The event of one node is reported for both. -/
theorem parameter_update_misattributed :
    ⟨"/right.rate", .integer 7⟩ ∈
        (twoRates.parameterEvent "/left" [⟨"rate", .integer 7⟩]).1.flatten ∧
      ¬ twoRates.Attributed "/left" [⟨"rate", .integer 7⟩] := by
  have reported : (twoRates.parameterEvent "/left" [⟨"rate", .integer 7⟩]).1.flatten =
      [⟨"/left.rate", .integer 7⟩, ⟨"/right.rate", .integer 7⟩] := by rfl
  have active : "/right" ∈ twoRates.paramSubscriptionsByNode.keys := by decide +kernel
  have followed : "rate" ∈ twoRates.subscribedParams "/right" := by decide +kernel
  refine ⟨by simp [reported], fun attributed => ?_⟩
  exact (attributed_iff _ _ _).mp attributed "/right" active (by decide)
    _ List.mem_cons_self followed

end CoBridge.Ros2
