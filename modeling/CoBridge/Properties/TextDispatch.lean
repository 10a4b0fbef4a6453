import CoBridge.Server.RequestEffects

/-!
# Dispatch of text messages

An operation should be reached by its name only, so that the capability it requires
is always checked. The capability is looked up by the text of the operation and the
operation by a hash of it, so both agree except on a text that shares the hash of
another operation's name.

An operation is reached when what the message does depends on the function of that
operation: the dispatch is run with other functions in place of `handleOperation`.
-/

namespace CoBridge

open Library Action

variable {Bridge : Type} {config : Config Bridge} {hdl : ConnHandle} {bytes : List UInt8}
  {world : World Bridge}

/-- Replacing the function of the operation, and no other, can change what the
message does. -/
def Reaches (config : Config Bridge) (hdl : ConnHandle) (bytes : List UInt8)
    (world : World Bridge) (operation : Operation) : Prop :=
  ∃ functions others : OperationFunctions Bridge,
    (∀ other, other ≠ operation → functions other = others other) ∧
      textMessageWith functions config hdl bytes world ≠
        textMessageWith others config hdl bytes world

/-- The text of the operation a message names. -/
def messageOp (config : Config Bridge) (bytes : List UInt8) : Option String :=
  match config.parse bytes with
  | .error _ => none
  | .ok payload => (payload.atKey "op" >>= Json.getString).toOption

/-- An operation that is reached was named, and its capability is there. -/
def ReachedByName (config : Config Bridge) (hdl : ConnHandle) (bytes : List UInt8)
    (world : World Bridge) : Prop :=
  ∀ operation, Reaches config hdl bytes world operation →
    messageOp config bytes = some operation.name ∧
      ∀ capability, capabilityByClientOperation operation.name = some capability →
        hasCapability config capability

/-- The text a message names has the hash of an operation with a handler only if it
is that operation's name. -/
def Unmistakable (config : Config Bridge) (bytes : List UInt8) : Prop :=
  ∀ op, messageOp config bytes = some op → ∀ operation, hasHandler config operation →
    stringHash config.char op = stringHash config.char operation.name → op = operation.name

variable {operation : Operation} {op : String} {payload : Json}
  {functions others : OperationFunctions Bridge}

theorem Operation.ofHash_eq_some_iff {char : CharType} {hash : UInt32} :
    Operation.ofHash char hash = some operation ↔ stringHash char operation.name = hash := by
  constructor
  · intro found
    simpa using List.find?_some found
  · rintro rfl
    exact Operation.ofHash_name char operation

theorem Operation.eq_of_stringHash {char : CharType} {other : Operation}
    (same : stringHash char operation.name = stringHash char other.name) : operation = other := by
  have found := Operation.ofHash_name char operation
  rw [same, Operation.ofHash_name] at found
  exact (Option.some.inj found).symm

/-- Capabilities are required of named operations only. -/
theorem named_of_capability {capability : String}
    (required : capabilityByClientOperation op = some capability) :
    ∃ operation : Operation, op = operation.name := by
  by_contra unnamed
  push Not at unnamed
  have differs (operation : Operation) : (op == operation.name) = false :=
    beq_false_of_ne (unnamed operation)
  have absent : capabilityByClientOperation op = none := by
    simp only [capabilityByClientOperation, List.lookup_cons, List.lookup_nil,
      show (op == "advertise") = false from differs .advertise,
      show (op == "unadvertise") = false from differs .unadvertise,
      show (op == "getParameters") = false from differs .getParameters,
      show (op == "setParameters") = false from differs .setParameters,
      show (op == "subscribeParameterUpdates") = false from differs .subscribeParameterUpdates,
      show (op == "unsubscribeParameterUpdates") = false from differs .unsubscribeParameterUpdates,
      show (op == "subscribeConnectionGraph") = false from differs .subscribeConnectionGraph,
      show (op == "unsubscribeConnectionGraph") = false from differs .unsubscribeConnectionGraph,
      show (op == "fetchAsset") = false from differs .fetchAsset]
  rw [absent] at required
  cases required

/-- What a message that runs an operation names. -/
theorem request_iff :
    (∃ payload, ClientFrame.request? config (.text bytes) = some (operation, payload)) ↔
      ∃ op, messageOp config bytes = some op ∧
        (capabilityByClientOperation op).all (hasCapability config) ∧
        stringHash config.char operation.name = stringHash config.char op ∧
        hasHandler config operation := by
  simp only [ClientFrame.request?, messageOp]
  cases config.parse bytes with
  | error text => simp
  | ok payload =>
    dsimp only
    cases payload.atKey "op" >>= Json.getString with
    | error fault => simp [Except.toOption]
    | ok op =>
      by_cases capable : (capabilityByClientOperation op).all (hasCapability config)
      · simp [Except.toOption, capable, Option.filter_eq_some_iff,
          Config.operation?, Operation.ofHash_eq_some_iff]
      · simp [Except.toOption, capable]

theorem textMessageWith_of_op (parsed : config.parse bytes = .ok payload)
    (named : payload.atKey "op" >>= Json.getString = .ok op) (functions : OperationFunctions Bridge)
    (world : World Bridge) :
    textMessageWith functions config hdl bytes world =
      dispatchWith functions config hdl payload op world := by
  rw [textMessageWith, parsed, Except.mapError, ofExcept_ok_bind_apply, named,
    ofExcept_ok_bind_apply]

/-- Only the function of the operation that is run matters. -/
theorem dispatchWith_congr
    (same : ∀ operation, (capabilityByClientOperation op).all (hasCapability config) →
      config.operation? op = some operation → hasHandler config operation →
      functions operation payload = others operation payload) :
    dispatchWith functions config hdl payload op = dispatchWith others config hdl payload op := by
  unfold dispatchWith
  cases missing : (capabilityByClientOperation op).filter fun capability =>
      !hasCapability config capability with
  | some capability => rfl
  | none =>
    have capable : (capabilityByClientOperation op).all (hasCapability config) := by
      simpa [Option.all_eq_true] using missing
    cases selected : config.operation? op with
    | none => rfl
    | some operation =>
      by_cases registered : hasHandler config operation
      · simp only [registered, same operation capable selected registered]
      · simp only [registered]
        rfl

/-- Only the function of the operation that is run matters. -/
theorem textMessageWith_congr (same : ∀ operation payload,
      ClientFrame.request? config (.text bytes) = some (operation, payload) →
      functions operation payload = others operation payload) :
    textMessageWith functions config hdl bytes world =
      textMessageWith others config hdl bytes world := by
  cases parsed : config.parse bytes with
  | error text => simp only [textMessageWith, parsed, Except.mapError,
      ofExcept_error_bind_apply]
  | ok payload =>
    cases named : payload.atKey "op" >>= Json.getString with
    | error fault => simp only [textMessageWith, parsed, Except.mapError,
        ofExcept_ok_bind_apply, named, ofExcept_error_bind_apply]
    | ok op =>
      rw [textMessageWith_of_op parsed named, textMessageWith_of_op parsed named,
        dispatchWith_congr]
      intro operation capable selected registered
      apply same
      simp [ClientFrame.request?, parsed, named, capable, selected, registered]

/-- A message that runs an operation is the operation's function, whose exceptions
are answered with a status. -/
theorem textMessageWith_of_request
    (requested : ClientFrame.request? config (.text bytes) = some (operation, payload)) :
    ∃ text : Exception → String, ∀ functions : OperationFunctions Bridge,
      textMessageWith functions config hdl bytes world =
        catchAll (functions operation payload)
          (fun exception => sendStatusAndLogMsg hdl .error (text exception)) world := by
  rw [ClientFrame.request?] at requested
  cases parsed : config.parse bytes with
  | error text =>
    rw [parsed] at requested
    cases requested
  | ok message =>
    simp only [parsed] at requested
    cases named : message.atKey "op" >>= Json.getString with
    | error fault =>
      rw [named] at requested
      cases requested
    | ok op =>
      simp only [named, Option.ite_none_right_eq_some, Option.map_eq_some_iff,
        Option.filter_eq_some_iff, Prod.mk.injEq] at requested
      obtain ⟨capable, _, ⟨selected, registered⟩, rfl, rfl⟩ := requested
      have present : (capabilityByClientOperation op).filter
          (fun capability => !hasCapability config capability) = none := by
        simpa [Option.all_eq_true] using capable
      refine ⟨operationFailure op, fun functions => ?_⟩
      rw [textMessageWith_of_op parsed named]
      simp only [dispatchWith, present, selected, registered, if_true]

/-- A request is answered by the operation's function, as far as anything but the frames
goes. -/
theorem handleMessage_of_request {Part : Type} {part : World Bridge → Part}
    (ignoresFrames : ∀ world hdl message, part (World.enqueue world hdl message) = part world)
    {frame : ClientFrame} {operation : Operation} {payload : Json}
    (requested : frame.request? config = some (operation, payload)) :
    part (handleMessage config hdl frame world).2 =
      part (handleOperation config operation payload hdl world).2 := by
  cases frame with
  | binary data => cases requested
  | control => cases requested
  | text bytes =>
    have runs : ∃ text : Exception → String, ∀ functions : OperationFunctions Bridge,
        textMessageWith functions config hdl bytes world = _ :=
      textMessageWith_of_request requested
    obtain ⟨text, runs⟩ := runs
    rw [handleMessage, catchAll_status_part part ignoresFrames]
    rw [handleTextMessage, runs, catchAll_status_part part ignoresFrames]

/-- A message reaches the operation it runs. -/
theorem reaches_iff :
    Reaches config hdl bytes world operation ↔
      ∃ payload, ClientFrame.request? config (.text bytes) = some (operation, payload) := by
  constructor
  · rintro ⟨functions, others, same, differs⟩
    by_contra unrequested
    apply differs
    apply textMessageWith_congr
    intro other payload requested
    have distinct : other ≠ operation := by
      rintro rfl
      exact unrequested ⟨payload, requested⟩
    rw [same other distinct]
  · rintro ⟨payload, requested⟩
    have runs : ∃ text : Exception → String, ∀ functions : OperationFunctions Bridge,
        textMessageWith functions config hdl bytes world = _ :=
      textMessageWith_of_request requested
    obtain ⟨text, runs⟩ := runs
    -- One function returns, the other ends in a way that no handler catches.
    let functions : OperationFunctions Bridge := fun _ _ => pure ()
    let others : OperationFunctions Bridge := fun other payload =>
      if other = operation then Action.throw .undefinedBehavior else functions other payload
    refine ⟨functions, others, ?_, ?_⟩
    · intro other distinct
      funext payload
      exact (if_neg distinct).symm
    · rw [runs, runs]
      have failing : others operation payload = Action.throw .undefinedBehavior := if_pos rfl
      rw [failing, catchAll_apply, catchAll_apply]
      intro equal
      exact nomatch congrArg Prod.fst equal

/-- Operations are reached by name, with their capability, exactly when the text of
the message is not mistaken for another operation's name. -/
theorem text_dispatch_by_name (config : Config Bridge) (hdl : ConnHandle) (bytes : List UInt8)
    (world : World Bridge) :
    ReachedByName config hdl bytes world ↔ Unmistakable config bytes := by
  constructor
  · intro byName op named operation registered same
    by_cases capable : (capabilityByClientOperation op).all (hasCapability config)
    · have reached : Reaches config hdl bytes world operation :=
        reaches_iff.mpr (request_iff.mpr ⟨op, named, capable, same.symm, registered⟩)
      have itsName := (byName operation reached).1
      rw [named] at itsName
      exact Option.some.inj itsName
    · -- A text that requires a capability is the name of an operation.
      cases required : capabilityByClientOperation op with
      | none => simp [required] at capable
      | some capability =>
        obtain ⟨other, rfl⟩ := named_of_capability required
        rw [Operation.eq_of_stringHash same]
  · intro unmistakable operation reached
    obtain ⟨op, named, capable, same, registered⟩ := request_iff.mp (reaches_iff.mp reached)
    obtain rfl := unmistakable op named operation registered same.symm
    refine ⟨named, fun capability required => ?_⟩
    rw [required] at capable
    exact capable

/-- A request to set no parameters, under some text. -/
def lookalike (op : String) : TextRequest where
  text := listText op "parameters" []
  payload := .object [("op", .string op), ("parameters", .array [])]

/-- A server without capabilities that receives the request under two texts. -/
def lookalikeConfig : Config Unit :=
  { Config.accepting with
    parse := readRequests [lookalike "ctsqcevq", lookalike "setParameters"] }

/-- A text with the hash of `setParameters` calls the handler of that operation on a
server that refuses the operation under its name. -/
theorem setParameters_reached_by_lookalike :
    (handleTextMessage lookalikeConfig ⟨1⟩ (lookalike "ctsqcevq").bytes (.initial ())).2.calls =
        [.parameterChange [] none ⟨1⟩] ∧
      (handleTextMessage lookalikeConfig ⟨1⟩ (lookalike "setParameters").bytes
        (.initial ())).2.calls = [] ∧
      ¬ ReachedByName lookalikeConfig ⟨1⟩ (lookalike "ctsqcevq").bytes (.initial ()) := by
  have parsed : lookalikeConfig.parse (lookalike "ctsqcevq").bytes =
      .ok (lookalike "ctsqcevq").payload :=
    readRequests_of_mem [lookalike "ctsqcevq", lookalike "setParameters"] (by decide +kernel)
      List.mem_cons_self
  have selected : lookalikeConfig.operation? "ctsqcevq" = some .setParameters := by
    decide +kernel
  have requested : ClientFrame.request? lookalikeConfig (.text (lookalike "ctsqcevq").bytes) =
      some (.setParameters, (lookalike "ctsqcevq").payload) := by
    rw [ClientFrame.request?, parsed]
    change ((lookalikeConfig.operation? "ctsqcevq").filter _).map _ = _
    rw [selected]
    rfl
  refine ⟨?_, by decide +kernel, fun byName => ?_⟩
  · have runs : ∃ text : Exception → String, ∀ functions : OperationFunctions Unit,
        textMessageWith functions lookalikeConfig ⟨1⟩ _ (.initial ()) = _ :=
      textMessageWith_of_request requested
    obtain ⟨text, runs⟩ := runs
    rw [handleTextMessage, runs]
    rfl
  · have named := (byName .setParameters (reaches_iff.mpr ⟨_, requested⟩)).1
    rw [messageOp, parsed] at named
    exact absurd (Option.some.inj named) (by decide)

end CoBridge
