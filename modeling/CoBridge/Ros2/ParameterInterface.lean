import CoBridge.Server.Handlers

/-!
# Parameter values of ROS 2

Their conversion to and from the values of the protocol. An array takes its type from
its first element, which is read without a check that there is one.
-/

namespace CoBridge.Ros2

inductive RosParameterValue where
  | notSet
  | bool (value : Bool)
  | integer (value : Int64)
  | double (value : Double)
  | string (value : String)
  | byteArray (value : List UInt8)
  | boolArray (values : List Bool)
  | integerArray (values : List Int64)
  | doubleArray (values : List Double)
  | stringArray (values : List String)

structure RosParameter where
  name : String
  value : RosParameterValue

def RosParameterValue.toParameterValue : RosParameterValue → ParameterValue
  | .notSet => .notSet
  | .bool value => .bool value
  | .integer value => .integer value
  | .double value => .double value
  | .string value => .string value
  | .byteArray value => .byteArray value
  | .boolArray values => .array (values.map .bool)
  | .integerArray values => .array (values.map .integer)
  | .doubleArray values => .array (values.map .double)
  | .stringArray values => .array (values.map .string)

def fromRosParam (param : RosParameter) : Parameter := ⟨param.name, param.value.toParameterValue⟩

/-- `getValue` of another type. -/
def badAnyCast : Fault := .raised (.std "bad any_cast")

def getBool : ParameterValue → Except Fault Bool
  | .bool value => .ok value
  | _ => .error badAnyCast

def getInteger : ParameterValue → Except Fault Int64
  | .integer value => .ok value
  | _ => .error badAnyCast

def getDouble : ParameterValue → Except Fault Double
  | .double value => .ok value
  | _ => .error badAnyCast

def getString : ParameterValue → Except Fault String
  | .string value => .ok value
  | _ => .error badAnyCast

def unsupportedParameterType : Fault := .raised (.std "Unsupported parameter type")

def toRosParam : ParameterValue → Except Fault RosParameterValue
  | .bool value => .ok (.bool value)
  | .integer value => .ok (.integer value)
  | .double value => .ok (.double value)
  | .string value => .ok (.string value)
  | .byteArray value => .ok (.byteArray value)
  | .array elements =>
    match elements.head? with
    | none => .error .undefinedBehavior
    | some (.bool _) => (elements.mapM getBool).map .boolArray
    | some (.integer _) => (elements.mapM getInteger).map .integerArray
    | some (.double _) => (elements.mapM getDouble).map .doubleArray
    | some (.string _) => (elements.mapM getString).map .stringArray
    | some _ => .error unsupportedParameterType
  | .notSet => .ok .notSet
  | .struct _ => .error unsupportedParameterType

/-- `to_ros_param` of a parameter with its name. -/
def toRosParameter (param : Parameter) : Except Fault RosParameter :=
  (toRosParam param.value).map fun value => ⟨param.name, value⟩

/-!
## Parameter subscriptions of the ROS 2 bridge

`ParameterInterface` keeps the parameters clients follow, by node, and one event
subscription per node. Subscribing stops at the first name that is not whitelisted,
unsubscribing erases through iterators it does not check, and the callback of an
event reads its node's parameters with an operator that creates them.
-/

open Library

def paramSep : Char := '.'

/-- Split at the first separator. Without one both parts are the whole name. -/
def getNodeAndParamName (nodeNameAndParamName : String) : String × String :=
  let characters := nodeNameAndParamName.toList
  if paramSep ∈ characters then
    (String.ofList (characters.takeWhile (· ≠ paramSep)),
      String.ofList ((characters.dropWhile (· ≠ paramSep)).drop 1))
  else
    (nodeNameAndParamName, nodeNameAndParamName)

def prependNodeNameToParamName (paramName nodeName : String) : String :=
  nodeName ++ String.singleton paramSep ++ paramName

/-- The maps by node: clients of the parameter services, parameters that are
followed, and event subscriptions. -/
structure ParameterInterface where
  paramClientsByNode : KeySet String
  subscribedParamsByNode : Table String (KeySet String)
  paramSubscriptionsByNode : KeySet String

/-- The parameter clients of the ROS library: whether one can be made for a node,
and whether it can subscribe to the node's events. -/
structure ParameterClients where
  makeShared : String → Except Exception Unit
  onParameterEvent : String → Except Exception Unit

/-- Every client can be made and can subscribe. -/
def ParameterClients.working : ParameterClients := ⟨fun _ => .ok (), fun _ => .ok ()⟩

namespace ParameterInterface

def initial : ParameterInterface := ⟨∅, ∅, ∅⟩

def subscribedParams (interface : ParameterInterface) (nodeName : String) : KeySet String :=
  (interface.subscribedParamsByNode.lookup nodeName).getD ∅

/-- Follow one more parameter, creating its node's set. -/
def recordParam (name : String × String) (interface : ParameterInterface) : ParameterInterface :=
  { interface with
    subscribedParamsByNode := (interface.subscribedParamsByNode.emplace name.1 ∅).modify name.1
      (Table.emplace name.2 ()) }

/-- The first loop of `subscribeParams`, with the nodes whose set it created. A name
that is not whitelisted ends the call. -/
def recordParams (paramWhitelistPatterns : List Regex) :
    List String → KeySet String → ParameterInterface →
      Option (KeySet String) × ParameterInterface
  | [], nodesToSubscribe, interface => (some nodesToSubscribe, interface)
  | paramName :: rest, nodesToSubscribe, interface =>
    if isWhitelisted paramName paramWhitelistPatterns then
      let name := getNodeAndParamName paramName
      recordParams paramWhitelistPatterns rest
        (if name.1 ∈ interface.subscribedParamsByNode then nodesToSubscribe
          else nodesToSubscribe.emplace name.1 ())
        (interface.recordParam name)
    else
      (none, interface)

/-- Subscribe to the parameter events of a node, with a client of its parameter
services. The client is kept when the subscription fails. -/
def subscribeNode (library : ParameterClients) (nodeName : String) :
    Action ParameterInterface Fault Unit := fun interface =>
  let client := if nodeName ∈ interface.paramClientsByNode then .ok ()
    else library.makeShared nodeName
  match client with
  | .error exception => (.error (.raised exception), interface)
  | .ok () =>
    let connected :=
      { interface with paramClientsByNode := interface.paramClientsByNode.emplace nodeName () }
    match library.onParameterEvent nodeName with
    | .error exception => (.error (.raised exception), connected)
    | .ok () => (.ok (), { connected with
        paramSubscriptionsByNode := interface.paramSubscriptionsByNode.emplace nodeName () })

def subscribeParams (library : ParameterClients) (paramWhitelistPatterns : List Regex)
    (paramNames : List String) : Action ParameterInterface Fault Unit := fun interface =>
  match recordParams paramWhitelistPatterns paramNames ∅ interface with
  | (none, reached) => (.ok (), reached)
  | (some nodesToSubscribe, reached) =>
    Action.forEach nodesToSubscribe.keys (subscribeNode library) reached

/-- Stop following a parameter; the last one of a node takes the event subscription
with it. -/
def release (name : String × String) (interface : ParameterInterface) : ParameterInterface :=
  let remaining := interface.subscribedParamsByNode.eraseInner name.1 name.2
  { interface with
    subscribedParamsByNode := remaining
    paramSubscriptionsByNode := if name.1 ∈ remaining then interface.paramSubscriptionsByNode
      else interface.paramSubscriptionsByNode.erase name.1 }

/-- Erasing the end of a node's set or of the event subscriptions is undefined. -/
def unsubscribeParams : List String → Action ParameterInterface Fault Unit
  | [], interface => (.ok (), interface)
  | paramName :: rest, interface =>
    let name := getNodeAndParamName paramName
    if name.1 ∈ interface.subscribedParamsByNode then
      if name.2 ∉ interface.subscribedParams name.1 then
        (.error .undefinedBehavior, interface)
      else if name.1 ∉ interface.subscribedParamsByNode.eraseInner name.1 name.2 ∧
          name.1 ∉ interface.paramSubscriptionsByNode then
        (.error .undefinedBehavior, { interface with
          subscribedParamsByNode :=
            interface.subscribedParamsByNode.eraseInner name.1 name.2 })
      else
        unsubscribeParams rest (interface.release name)
    else
      unsubscribeParams rest interface

/-- The callback of a parameter event: the changed parameters that are followed,
under their full names. Reading the node's set creates it. -/
def onParameterEvent (nodeName : String) (changedParameters : List RosParameter)
    (interface : ParameterInterface) : List Parameter × ParameterInterface :=
  (changedParameters.filterMap fun param =>
      if param.name ∈ interface.subscribedParams nodeName then
        some (fromRosParam ⟨prependNodeNameToParamName param.name nodeName, param.value⟩)
      else none,
    { interface with
      subscribedParamsByNode := interface.subscribedParamsByNode.emplace nodeName ∅ })

end ParameterInterface

/-- The interface with the library it calls, whose answers may change at any time. -/
structure ParameterNode where
  interface : ParameterInterface
  library : ParameterClients

/-- The parameter subscription handler of the node. -/
def subscribeParameters (paramWhitelistPatterns : List Regex) (parameters : List String)
    (op : ParameterSubscriptionOperation) (_ : ConnHandle) (node : ParameterNode) :
    Reply ParameterNode :=
  let result := match op with
    | .subscribe =>
      ParameterInterface.subscribeParams node.library paramWhitelistPatterns parameters
        node.interface
    | .unsubscribe => ParameterInterface.unsubscribeParams parameters node.interface
  ⟨[], result.1, { node with interface := result.2 }⟩

example : getNodeAndParamName "/talker.rate.max" = ("/talker", "rate.max") := by decide +kernel

example : getNodeAndParamName "rate" = ("rate", "rate") := by decide +kernel

end CoBridge.Ros2
