import CoBridge.Ros2.ParameterInterface

/-!
# Requests for parameters of ROS 2 nodes

Names are grouped by node, each node is asked through a client of its own, and what
it answers is filtered by the whitelist. The parameter services of the other nodes
are reached through the ROS library and stay abstract.
-/

namespace CoBridge.Ros2

open Library

variable {Nodes : Type}

/-- What waiting for an answer can give. -/
inductive Future (Value : Type) where
  | ready (value : Value)
  | failed (exception : Exception)
  | timeout

/-- The parameter services of the nodes, as the library reaches them. -/
structure ParameterServices (Nodes : Type) where
  fullyQualifiedName : String
  getNodeNames : Nodes → Except Exception (List String)
  getServiceNamesAndTypesByNode :
    Nodes → String → String → Except Exception (List (String × List String))
  serviceIsReady : Nodes → String → Bool
  listParameters : Nodes → String → Future (List String)
  getParameters : Nodes → String → List String → Future (List RosParameter)
  setParameters : String → List RosParameter → Nodes → Future Unit × Nodes

/-- The interface together with the nodes it talks to. -/
structure ParameterState (Nodes : Type) where
  interface : ParameterInterface
  nodes : Nodes

/-- Split at the last slash. -/
def getNodeAndNodeNamespace (fqnNodeName : String) : Except Exception (String × String) :=
  let reversed := fqnNodeName.toList.reverse
  if '/' ∈ reversed then
    .ok (String.ofList ((reversed.dropWhile (· ≠ '/')).drop 1).reverse,
      String.ofList (reversed.takeWhile (· ≠ '/')).reverse)
  else
    .error (.std ("Invalid fully qualified node name: " ++ fqnNodeName))

def getParamsServiceType : String := "rcl_interfaces/srv/GetParameters"
def listParamsServiceType : String := "rcl_interfaces/srv/ListParameters"

/-- Add a name to those of its node. -/
def addParamName (name : String × String) (byNode : Table String (List String)) :
    Table String (List String) :=
  (byNode.emplace name.1 []).modify name.1 fun names => names ++ [name.2]

def groupByNode (paramNames : List String) : Table String (List String) :=
  paramNames.foldl (fun byNode name => addParamName (getNodeAndParamName name) byNode) ∅

/-- The other nodes that offer services to list and get parameters. -/
def nodesWithParameters (services : ParameterServices Nodes) (nodes : Nodes) :
    Except Exception (Table String (List String)) := do
  let nodeNames ← services.getNodeNames nodes
  nodeNames.foldlM
    (fun byNode fqnNodeName => do
      if fqnNodeName = services.fullyQualifiedName ∨
          fqnNodeName = "/cobridge_component_manager" then
        pure byNode
      else
        let (nodeNamespace, nodeName) ← getNodeAndNodeNamespace fqnNodeName
        let namesAndTypes ← services.getServiceNamesAndTypesByNode nodes nodeName nodeNamespace
        if (namesAndTypes.any fun service => listParamsServiceType ∈ service.2) ∧
            (namesAndTypes.any fun service => getParamsServiceType ∈ service.2) then
          pure (byNode.emplace fqnNodeName [])
        else
          pure byNode) ∅

/-- The value of a future, waiting no longer than the timeout. -/
def Future.wait {Value : Type} (future : Future Value) (late : String) : Except Exception Value :=
  match future with
  | .ready value => .ok value
  | .failed exception => .error exception
  | .timeout => .error (.std late)

def serviceNotReady (nodeName : String) : Exception :=
  .std ("Parameter service for node '" ++ nodeName ++ "' is not ready")

/-- What a node answers, under full names and filtered by the whitelist. Without
names the node is asked for all of them first. -/
def getNodeParameters (services : ParameterServices Nodes) (patterns : List Regex) (nodes : Nodes)
    (nodeName : String) (paramNames : List String) : Except Exception (List Parameter) :=
  if !services.serviceIsReady nodes nodeName then .error (serviceNotReady nodeName)
  else do
    let paramsToRequest ← (if paramNames.isEmpty then
        (services.listParameters nodes nodeName).wait
          ("Failed to retrieve parameter names for node '" ++ nodeName ++ "'")
      else .ok paramNames)
    let params ← (services.getParameters nodes nodeName paramsToRequest).wait
      ("Timed out waiting for " ++ toString paramsToRequest.length ++
        " parameter(s) from node '" ++ nodeName ++ "'")
    pure (params.filterMap fun param =>
      let fullParamName := prependNodeNameToParamName param.name nodeName
      if isWhitelisted fullParamName patterns then some (fromRosParam ⟨fullParamName, param.value⟩)
      else none)

/-- A client for a node, made when there is none yet. -/
def ensureClient (library : ParameterClients) (nodeName : String) :
    Action (ParameterState Nodes) Fault Unit := fun state =>
  if nodeName ∈ state.interface.paramClientsByNode then (.ok (), state)
  else
    match library.makeShared nodeName with
    | .error exception => (.error (.raised exception), state)
    | .ok () => (.ok (), { state with
        interface := { state.interface with
          paramClientsByNode := state.interface.paramClientsByNode.emplace nodeName () } })

/-- What the tasks of all nodes returned. A task that failed is logged and left out,
but only a `std::exception` is caught. -/
def collect {Value : Type} : List (Except Exception Value) → Except Fault (List Value)
  | [] => .ok []
  | .ok value :: rest => (collect rest).map (value :: ·)
  | .error exception :: rest =>
    match exception.what? with
    | some _ => collect rest
    | none => .error (.raised exception)

/-- The tasks of `getParams`, one for each node but this one. -/
def launchGets (library : ParameterClients) (services : ParameterServices Nodes)
    (patterns : List Regex) : List (Σ _ : String, List String) →
      Action (ParameterState Nodes) Fault (List (Except Exception (List Parameter)))
  | [] => pure []
  | ⟨nodeName, nodeParamNames⟩ :: rest =>
    if nodeName = services.fullyQualifiedName then
      launchGets library services patterns rest
    else do
      ensureClient library nodeName
      let task ← Action.gets fun state =>
        getNodeParameters services patterns state.nodes nodeName nodeParamNames
      let tasks ← launchGets library services patterns rest
      pure (task :: tasks)

/-- What a node answered goes before the earlier answers. -/
def getParams (library : ParameterClients) (services : ParameterServices Nodes)
    (patterns : List Regex) (paramNames : List String) :
    Action (ParameterState Nodes) Fault (List Parameter) := do
  let nodes ← Action.gets ParameterState.nodes
  let byNode ← Action.ofExcept (if paramNames.isEmpty then
      (nodesWithParameters services nodes).mapError Fault.raised
    else .ok (groupByNode paramNames))
  let tasks ← launchGets library services patterns byNode.entries
  let answers ← Action.ofExcept (collect tasks)
  pure answers.reverse.flatten

/-- Add a parameter to those of its node. -/
def addRosParam (name : String × String) (value : RosParameterValue)
    (byNode : Table String (List RosParameter)) : Table String (List RosParameter) :=
  (byNode.emplace name.1 []).modify name.1 fun params => params ++ [⟨name.2, value⟩]

/-- The first loop of `setParams`; `none` when a name is not whitelisted. -/
def groupParams (patterns : List Regex) : List Parameter → Table String (List RosParameter) →
    Except Fault (Option (Table String (List RosParameter)))
  | [], byNode => .ok (some byNode)
  | param :: rest, byNode =>
    if isWhitelisted param.name patterns then do
      let value ← toRosParam param.value
      groupParams patterns rest (addRosParam (getNodeAndParamName param.name) value byNode)
    else
      .ok none

/-- Hand a node its parameters. The reasons a node gives for refusing one are logged. -/
def setNodeParameters (services : ParameterServices Nodes) (nodeName : String)
    (params : List RosParameter) (nodes : Nodes) : Except Exception Unit × Nodes :=
  if !services.serviceIsReady nodes nodeName then (.error (serviceNotReady nodeName), nodes)
  else
    let (future, reached) := services.setParameters nodeName params nodes
    (future.wait ("Param client failed to set " ++ toString params.length ++
      " parameter(s) for node '" ++ nodeName ++ "' within the given timeout"), reached)

/-- The tasks of `setParams`, one for each node. -/
def launchSets (library : ParameterClients) (services : ParameterServices Nodes) :
    List (Σ _ : String, List RosParameter) →
      Action (ParameterState Nodes) Fault (List (Except Exception Unit))
  | [] => pure []
  | ⟨nodeName, params⟩ :: rest => do
    ensureClient library nodeName
    let task ← fun state =>
      let (outcome, nodes) := setNodeParameters services nodeName params state.nodes
      (.ok outcome, { state with nodes := nodes })
    let tasks ← launchSets library services rest
    pure (task :: tasks)

def setParams (library : ParameterClients) (services : ParameterServices Nodes)
    (patterns : List Regex) (parameters : List Parameter) :
    Action (ParameterState Nodes) Fault Unit := do
  match ← Action.ofExcept (groupParams patterns parameters ∅) with
  | none => pure ()
  | some byNode =>
    let tasks ← launchSets library services byNode.entries
    let _ ← Action.ofExcept (collect tasks)
    pure ()

/-- The values that were retrieved are published; a failure publishes nothing. -/
def getParameters (library : ParameterClients) (services : ParameterServices Nodes)
    (patterns : List Regex) (parameters : List String) (requestId : Option String)
    (hdl : ConnHandle) (state : ParameterState Nodes) : Reply (ParameterState Nodes) :=
  match getParams library services patterns parameters state with
  | (.ok params, reached) => ⟨[.publishParameterValues hdl params requestId], .ok (), reached⟩
  | (.error fault, reached) => ⟨[], .error fault, reached⟩

def setParameters (library : ParameterClients) (services : ParameterServices Nodes)
    (patterns : List Regex) (parameters : List Parameter) (requestId : Option String)
    (hdl : ConnHandle) (state : ParameterState Nodes) : Reply (ParameterState Nodes) :=
  match setParams library services patterns parameters state with
  | (.error fault, reached) => ⟨[], .error fault, reached⟩
  | (.ok (), reached) =>
    match requestId with
    | none => .accept reached
    | some id => getParameters library services patterns (parameters.map Parameter.name) (some id)
        hdl reached

example : getNodeAndNodeNamespace "/robot/arm" = .ok ("/robot", "arm") := by rfl

end CoBridge.Ros2
