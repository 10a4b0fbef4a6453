import CoBridge.Server.Handlers

/-!
# Parameters of the ROS 1 bridge

Requests for values and changes of parameters, with the conversions between the
values of the parameter server and those of the protocol. The parameter server is
reached through the ROS library and stays abstract.
-/

namespace CoBridge.Ros1

variable {Store : Type}

/-- Values of the parameter server. -/
inductive XmlRpcValue where
  | invalid
  | boolean (value : Bool)
  | int (value : Int32)
  | double (value : Double)
  | string (value : String)
  | dateTime
  | base64 (value : List UInt8)
  | array (elements : List XmlRpcValue)
  | struct (members : List (String × XmlRpcValue))

mutual

def fromRosParam : XmlRpcValue → Except Exception ParameterValue
  | .boolean value => .ok (.bool value)
  | .int value => .ok (.integer value.toInt64)
  | .double value => .ok (.double value)
  | .string value => .ok (.string value)
  | .struct members => (fromRosParamMembers members).map .struct
  | .array elements => (fromRosParamElements elements).map .array
  | .invalid => .error (.std "Parameter not set")
  | .dateTime => .error (.std "Unsupported parameter type: 5")
  | .base64 _ => .error (.std "Unsupported parameter type: 6")

def fromRosParamElements : List XmlRpcValue → Except Exception (List ParameterValue)
  | [] => .ok []
  | element :: rest => do
    let value ← fromRosParam element
    let values ← fromRosParamElements rest
    pure (value :: values)

def fromRosParamMembers :
    List (String × XmlRpcValue) → Except Exception (List (String × ParameterValue))
  | [] => .ok []
  | (name, element) :: rest => do
    let value ← fromRosParam element
    let values ← fromRosParamMembers rest
    pure ((name, value) :: values)

end

/-- The rounds of a loop that counts an `int` up to `static_cast<int>(size)`. -/
def loopRounds (size : Nat) : Nat := (Int32.ofNat size).toInt.toNat

mutual

/-- An array or a struct gets its type from the first element that is assigned, so one
that no element is assigned to stays invalid. -/
def toRosParam : ParameterValue → Except Exception XmlRpcValue
  | .bool value => .ok (.boolean value)
  | .integer value => .ok (.int value.toInt32)
  | .double value => .ok (.double value)
  | .string value => .ok (.string value)
  | .struct [] => .ok .invalid
  | .struct (first :: rest) => (toRosParamMembers (first :: rest)).map .struct
  | .array elements =>
    if loopRounds elements.length = 0 then .ok .invalid
    else (toRosParamElements (loopRounds elements.length) elements).map .array
  | .byteArray _ => .error (.std "Unsupported parameter type")
  | .notSet => .error (.std "Unsupported parameter type")

/-- The loop over an array, for the given number of rounds. -/
def toRosParamElements : Nat → List ParameterValue → Except Exception (List XmlRpcValue)
  | rounds + 1, element :: rest => do
    let value ← toRosParam element
    let values ← toRosParamElements rounds rest
    pure (value :: values)
  | _, _ => .ok []

def toRosParamMembers :
    List (String × ParameterValue) → Except Exception (List (String × XmlRpcValue))
  | [] => .ok []
  | (name, element) :: rest => do
    let value ← toRosParam element
    let values ← toRosParamMembers rest
    pure ((name, value) :: values)

end

/-- The parameter server. A name that is not there has an invalid value. -/
structure ParamServer (Store : Type) where
  getParamNames : Store → Option (List String)
  getParam : Store → String → Except Exception XmlRpcValue
  setParam : String → XmlRpcValue → Store → Except Exception Unit × Store
  deleteParam : String → Store → Except Exception Unit × Store

def ParamServer.read (server : ParamServer Store) (store : Store) (paramName : String) :
    Except Exception Parameter := do
  let value ← server.getParam store paramName
  let converted ← fromRosParam value
  pure ⟨paramName, converted⟩

/-- The loop of `getParameters`: whether every parameter was retrieved, and the values.
A name off the whitelist is skipped only when all parameters were requested. -/
def readParameters (server : ParamServer Store) (patterns : List Regex)
    (allParametersRequested : Bool) (store : Store) : List String → Bool × List Parameter
  | [] => (true, [])
  | paramName :: rest =>
    let (success, params) := readParameters server patterns allParametersRequested store rest
    let listed := isWhitelisted paramName patterns
    if !listed && allParametersRequested then (success, params)
    else
      match server.read store paramName with
      | .ok param => (success && listed, param :: params)
      | .error _ => (false, params)

/-- The values are published before a failure is reported. -/
def getParameters (server : ParamServer Store) (patterns : List Regex) (parameters : List String)
    (requestId : Option String) (hdl : ConnHandle) (store : Store) : Reply Store :=
  let allParametersRequested := parameters.isEmpty
  match if allParametersRequested then server.getParamNames store else some parameters with
  | none => .fail (.std "Failed to retrieve parameter names") store
  | some parameterNames =>
    let (success, params) :=
      readParameters server patterns allParametersRequested store parameterNames
    ⟨[.publishParameterValues hdl params requestId],
      if success then .ok ()
      else .error (.raised (.std "Failed to retrieve one or multiple parameters")), store⟩

def writeParameter (server : ParamServer Store) (param : Parameter) (store : Store) :
    Except Exception Unit × Store :=
  match param.value with
  | .notSet => server.deleteParam param.name store
  | value =>
    match toRosParam value with
    | .error exception => (.error exception, store)
    | .ok converted => server.setParam param.name converted store

/-- The loop of `setParameters`: whether every parameter was set, and the store. -/
def writeParameters (server : ParamServer Store) (patterns : List Regex) :
    List Parameter → Store → Bool × Store
  | [], store => (true, store)
  | param :: rest, store =>
    if isWhitelisted param.name patterns then
      let (outcome, written) := writeParameter server param store
      let (success, reached) := writeParameters server patterns rest written
      (outcome.isOk && success, reached)
    else
      let (_, reached) := writeParameters server patterns rest store
      (false, reached)

/-- With a request id the parameters are read back, and a failure to read them is
reported instead of a failure to set them. -/
def setParameters (server : ParamServer Store) (patterns : List Regex) (parameters : List Parameter)
    (requestId : Option String) (hdl : ConnHandle) (store : Store) : Reply Store :=
  let (success, written) := writeParameters server patterns parameters store
  let outcome : Except Fault Unit := if success then .ok ()
    else .error (.raised (.std "Failed to set one or multiple parameters"))
  match requestId with
  | none => ⟨[], outcome, written⟩
  | some id =>
    let reply := getParameters server patterns (parameters.map Parameter.name) (some id) hdl written
    { reply with outcome := reply.outcome >>= fun _ => outcome }

end CoBridge.Ros1
