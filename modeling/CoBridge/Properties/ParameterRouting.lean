import CoBridge.Library.Traverse
import CoBridge.Ros2.ParameterRequests

/-!
# Setting parameters of several nodes

`setParams` checks and converts everything before it starts to set anything, and each node
is handed its own parameters in one call. The calls are started one after the other, and a
client that cannot be made for a node ends the loop: the calls that were started before
stay, and those of the remaining nodes are never made.
-/

namespace CoBridge.Ros2

open Library Action Table

variable {Nodes : Type} {library : ParameterClients} {interface : ParameterInterface}
  {patterns : List Regex} {parameters : List Parameter}

/-- A call of `setNodeParameters`. -/
abbrev SetCall := String × List RosParameter

/-- The interface once it has a client for the node. -/
def ParameterInterface.withClient (library : ParameterClients) (nodeName : String)
    (interface : ParameterInterface) : Except Exception ParameterInterface :=
  if nodeName ∈ interface.paramClientsByNode then .ok interface
  else (library.makeShared nodeName).map fun _ =>
    { interface with paramClientsByNode := interface.paramClientsByNode.emplace nodeName () }

/-- The calls that the second loop of `setParams` starts. -/
def launchedSets (library : ParameterClients) :
    List (Σ _ : String, List RosParameter) → ParameterInterface → List SetCall
  | [], _ => []
  | ⟨nodeName, params⟩ :: rest, interface =>
    match interface.withClient library nodeName with
    | .error _ => []
    | .ok reached => (nodeName, params) :: launchedSets library rest reached

/-- The calls of `setNodeParameters` that `setParams` starts, unless its behaviour is
undefined. -/
def startedSets (library : ParameterClients) (patterns : List Regex) (parameters : List Parameter)
    (interface : ParameterInterface) : Option (List SetCall) :=
  match groupParams patterns parameters ∅ with
  | .error .undefinedBehavior => none
  | .error (.raised _) => some []
  | .ok none => some []
  | .ok (some byNode) => some (launchedSets library byNode.entries interface)

section Effect

/-- The nodes after calls of `setNodeParameters`. -/
def setAll (services : ParameterServices Nodes) (calls : List SetCall) (nodes : Nodes) : Nodes :=
  calls.foldl (fun nodes call => (setNodeParameters services call.1 call.2 nodes).2) nodes

variable (services : ParameterServices Nodes) (state : ParameterState Nodes)

theorem ensureClient_apply (nodeName : String) :
    ensureClient library nodeName state =
      match state.interface.withClient library nodeName with
      | .error exception => (.error (.raised exception), state)
      | .ok reached => (.ok (), { state with interface := reached }) := by
  unfold ensureClient ParameterInterface.withClient
  split
  · rfl
  · cases library.makeShared nodeName <;> rfl

/-- The loop acts on the nodes by the calls it starts, and in no other way. -/
theorem launchSets_nodes (entries : List (Σ _ : String, List RosParameter)) :
    (launchSets library services entries state).2.nodes =
      setAll services (launchedSets library entries state.interface) state.nodes := by
  induction entries generalizing state with
  | nil => rfl
  | cons entry rest ih =>
    obtain ⟨nodeName, params⟩ := entry
    rw [launchSets, launchedSets, bind_apply, ensureClient_apply]
    cases state.interface.withClient library nodeName with
    | error exception => rfl
    | ok reached =>
      have later := ih ⟨reached,
        (setNodeParameters services nodeName params state.nodes).2⟩
      refine Eq.trans ?_ later
      change ((launchSets library services rest >>= fun tasks => pure _)
        (⟨reached, (setNodeParameters services nodeName params state.nodes).2⟩ :
          ParameterState Nodes)).2.nodes = _
      rw [bind_apply]
      rcases launchSets library services rest _ with ⟨_ | _, _⟩ <;> rfl

/-- What `setParams` does to the nodes are the calls it starts. -/
theorem setParams_nodes {calls : List SetCall}
    (started : startedSets library patterns parameters state.interface = some calls) :
    (setParams library services patterns parameters state).2.nodes =
      setAll services calls state.nodes := by
  unfold startedSets at started
  unfold setParams
  rcases grouped : groupParams patterns parameters ∅ with (exception | _) | _ | byNode <;>
    rw [grouped] at started
  · cases started
    rfl
  · cases started
  · cases started
    rfl
  · cases started
    rw [ofExcept_ok_bind_apply, ← launchSets_nodes]
    change ((launchSets library services byNode.entries >>= _) state).2.nodes = _
    rw [bind_apply]
    rcases launchSets library services byNode.entries state with ⟨_ | tasks, reached⟩
    · rfl
    · change ((Action.ofExcept (collect tasks) >>= _) reached).2.nodes = _
      cases collect tasks <;> rfl

end Effect

/-- The converted value of a parameter, under the name it has at its node. -/
def nodeParameter? (param : Parameter) : Option RosParameter :=
  (toRosParam param.value).toOption.map fun value => ⟨(getNodeAndParamName param.name).2, value⟩

/-- The parameters of one node, in the order in which they are listed. -/
def nodeParameters (nodeName : String) (parameters : List Parameter) : List RosParameter :=
  (parameters.filter fun param => (getNodeAndParamName param.name).1 = nodeName).filterMap
    nodeParameter?

/-- The name is whitelisted and the value can be converted. -/
def Settable (patterns : List Regex) (param : Parameter) : Prop :=
  isWhitelisted param.name patterns = true ∧ ∃ value, toRosParam param.value = .ok value

theorem lookup_addRosParam (name : String × String) (value : RosParameterValue)
    (byNode : Table String (List RosParameter)) (nodeName : String) :
    ((addRosParam name value byNode).lookup nodeName).getD [] =
      (byNode.lookup nodeName).getD [] ++ if name.1 = nodeName then [⟨name.2, value⟩] else [] := by
  unfold addRosParam
  rw [lookup_modify, lookup_emplace, if_pos rfl, lookup_emplace]
  by_cases same : nodeName = name.1
  · subst same
    simp
  · simp [same, Ne.symm same]

theorem mem_addRosParam (name : String × String) (value : RosParameterValue)
    (byNode : Table String (List RosParameter)) (nodeName : String) :
    nodeName ∈ addRosParam name value byNode ↔ nodeName ∈ byNode ∨ name.1 = nodeName := by
  rw [addRosParam, mem_modify, mem_emplace, or_comm, eq_comm]

/-- If everything can be set, the first loop groups it by node. -/
theorem groupParams_settable (settable : ∀ param ∈ parameters, Settable patterns param)
    (byNode : Table String (List RosParameter)) :
    ∃ grouped, groupParams patterns parameters byNode = .ok (some grouped) ∧
      (∀ nodeName, (grouped.lookup nodeName).getD [] =
        (byNode.lookup nodeName).getD [] ++ nodeParameters nodeName parameters) ∧
      ∀ nodeName, nodeName ∈ grouped ↔ nodeName ∈ byNode ∨
        ∃ param ∈ parameters, (getNodeAndParamName param.name).1 = nodeName := by
  induction parameters generalizing byNode with
  | nil => exact ⟨byNode, rfl, by simp [nodeParameters], by simp⟩
  | cons param rest ih =>
    obtain ⟨listed, value, converted⟩ := settable param List.mem_cons_self
    obtain ⟨grouped, done, lookups, members⟩ := ih
      (fun other member => settable other (List.mem_cons_of_mem _ member))
      (addRosParam (getNodeAndParamName param.name) value byNode)
    refine ⟨grouped, ?_, ?_, ?_⟩
    · rw [groupParams, if_pos listed, converted]
      exact done
    · intro nodeName
      rw [lookups, lookup_addRosParam, List.append_assoc]
      by_cases own : (getNodeAndParamName param.name).1 = nodeName
      · simp [nodeParameters, nodeParameter?, own, converted, Except.toOption]
      · simp [nodeParameters, own]
    · intro nodeName
      rw [members, mem_addRosParam, or_assoc]
      simp

theorem mapM_defined {Value : Type} {get : ParameterValue → Except Fault Value}
    (casts : ∀ value fault, get value = .error fault → fault = badAnyCast)
    (wrap : List Value → RosParameterValue) (elements : List ParameterValue) :
    (elements.mapM get).map wrap ≠ .error .undefinedBehavior := by
  cases read : elements.mapM get with
  | ok values => rintro ⟨⟩
  | error fault =>
    obtain ⟨element, _, failed⟩ := mem_of_mapM_error read
    rw [casts element fault failed]
    rintro ⟨⟩

/-- Only the first element of an empty array is out of bounds. -/
theorem toRosParam_defined {value : ParameterValue} (filled : value ≠ .array []) :
    toRosParam value ≠ .error .undefinedBehavior := by
  cases value with
  | array elements =>
    cases elements with
    | nil => exact absurd rfl filled
    | cons first rest =>
      cases first with
      | bool _ => exact mapM_defined (by rintro ⟨⟩ fault ⟨⟩ <;> rfl) .boolArray _
      | integer _ => exact mapM_defined (by rintro ⟨⟩ fault ⟨⟩ <;> rfl) .integerArray _
      | double _ => exact mapM_defined (by rintro ⟨⟩ fault ⟨⟩ <;> rfl) .doubleArray _
      | string _ => exact mapM_defined (by rintro ⟨⟩ fault ⟨⟩ <;> rfl) .stringArray _
      | _ => rintro ⟨⟩
  | _ => rintro ⟨⟩

/-- If something cannot be set, the first loop returns or throws. -/
theorem groupParams_refused (filled : ∀ param ∈ parameters, param.value ≠ .array [])
    (unsettable : ¬ ∀ param ∈ parameters, Settable patterns param)
    (byNode : Table String (List RosParameter)) :
    groupParams patterns parameters byNode = .ok none ∨
      ∃ exception, groupParams patterns parameters byNode = .error (.raised exception) := by
  induction parameters generalizing byNode with
  | nil => simp at unsettable
  | cons param rest ih =>
    rw [groupParams]
    split
    · next listed =>
      cases converted : toRosParam param.value with
      | error fault =>
        cases fault with
        | raised exception => exact .inr ⟨exception, rfl⟩
        | undefinedBehavior =>
          exact absurd converted (toRosParam_defined (filled param List.mem_cons_self))
      | ok value =>
        refine ih
          (fun other member => filled other (List.mem_cons_of_mem _ member)) ?_ _
        intro others
        apply unsettable
        simpa [or_imp, forall_and] using ⟨⟨listed, value, converted⟩, others⟩
    · exact .inl rfl

/-- There is a client for the node, or one can be made. -/
def CanConnect (library : ParameterClients) (interface : ParameterInterface) (nodeName : String) :
    Prop :=
  nodeName ∈ interface.paramClientsByNode ∨ library.makeShared nodeName = .ok ()

/-- Clients that are made on the way were possible from the start. -/
theorem withClient_cases (library : ParameterClients) (interface : ParameterInterface)
    (nodeName : String) :
    (¬ CanConnect library interface nodeName ∧
        ∃ exception, interface.withClient library nodeName = .error exception) ∨
      (CanConnect library interface nodeName ∧ ∃ reached,
        interface.withClient library nodeName = .ok reached ∧
        ∀ other, CanConnect library reached other ↔ CanConnect library interface other) := by
  unfold ParameterInterface.withClient CanConnect
  split
  · next present => exact .inr ⟨.inl present, interface, rfl, fun _ => Iff.rfl⟩
  · next absent =>
    cases made : library.makeShared nodeName with
    | error exception => exact .inl ⟨by simp [absent], exception, rfl⟩
    | ok done =>
      refine .inr ⟨.inr rfl, _, rfl, fun other => ?_⟩
      by_cases same : other = nodeName
      · subst same
        simp [made]
      · simp [same]

/-- Every call that is started has a client. -/
theorem launchedSets_connected (entries : List (Σ _ : String, List RosParameter))
    (interface : ParameterInterface) :
    ∀ call ∈ launchedSets library entries interface, CanConnect library interface call.1 := by
  induction entries generalizing interface with
  | nil => simp [launchedSets]
  | cons entry rest ih =>
    obtain ⟨nodeName, params⟩ := entry
    rw [launchedSets]
    rcases withClient_cases library interface nodeName with
      ⟨_, exception, failed⟩ | ⟨possible, reached, done, same⟩
    · simp [failed]
    · rw [done]
      intro call member
      rcases List.mem_cons.mp member with rfl | later
      · exact possible
      · exact (same call.1).mp (ih reached call later)

/-- With a client for every node all calls are started. -/
theorem launchedSets_all {entries : List (Σ _ : String, List RosParameter)}
    {interface : ParameterInterface}
    (possible : ∀ entry ∈ entries, CanConnect library interface entry.1) :
    launchedSets library entries interface = entries.map fun entry => (entry.1, entry.2) := by
  induction entries generalizing interface with
  | nil => rfl
  | cons entry rest ih =>
    obtain ⟨nodeName, params⟩ := entry
    rw [launchedSets]
    rcases withClient_cases library interface nodeName with
      ⟨impossible, _⟩ | ⟨_, reached, done, same⟩
    · exact absurd (possible _ List.mem_cons_self) impossible
    · rw [done, List.map_cons]
      refine congrArg _ (ih fun entry member => ?_)
      exact (same entry.1).mpr (possible entry (List.mem_cons_of_mem _ member))

/-- One call for each node that is named, with the parameters of that node. -/
structure RoutedExactly (parameters : List Parameter) (calls : List SetCall) : Prop where
  once : (calls.map Prod.fst).Nodup
  nodes : ∀ nodeName, nodeName ∈ calls.map Prod.fst ↔
    ∃ param ∈ parameters, (getNodeAndParamName param.name).1 = nodeName
  params : ∀ call ∈ calls, call.2 = nodeParameters call.1 parameters

/-- The calls that are made for a table are those of its keys with what it holds. -/
theorem routedExactly_entries {grouped : Table String (List RosParameter)}
    (lookups : ∀ nodeName, (grouped.lookup nodeName).getD [] = nodeParameters nodeName parameters)
    (members : ∀ nodeName, nodeName ∈ grouped ↔
      ∃ param ∈ parameters, (getNodeAndParamName param.name).1 = nodeName) :
    RoutedExactly parameters (grouped.entries.map fun entry => (entry.1, entry.2)) := by
  have keys :
      (grouped.entries.map fun entry => (entry.1, entry.2)).map Prod.fst = grouped.keys := by
    rw [List.map_map]
    rfl
  refine ⟨?_, ?_, ?_⟩
  · rw [keys]
    exact grouped.keys_nodup
  · intro nodeName
    rw [keys, ← members]
    exact AList.mem_keys.symm
  · intro call member
    obtain ⟨⟨nodeName, params⟩, listed, rfl⟩ := List.mem_map.mp member
    have found : grouped.lookup nodeName = some params := AList.mem_lookup_iff.mpr listed
    rw [← lookups, found, Option.getD_some]

/-- The calls that `setParams` starts are all that are asked for if everything can be set,
and none otherwise. -/
def AllOrNothing (patterns : List Regex) (parameters : List Parameter) (calls : List SetCall) :
    Prop :=
  ((∀ param ∈ parameters, Settable patterns param) → RoutedExactly parameters calls) ∧
    ((¬ ∀ param ∈ parameters, Settable patterns param) → calls = [])

/-- Without empty arrays, `setParams` sets all or nothing exactly if a client can be had for
each node, or something cannot be set. -/
theorem set_params_all_or_nothing_iff (library : ParameterClients)
    (services : ParameterServices Nodes) (patterns : List Regex) (parameters : List Parameter)
    (state : ParameterState Nodes) (filled : ∀ param ∈ parameters, param.value ≠ .array []) :
    (∃ calls, startedSets library patterns parameters state.interface = some calls ∧
        (setParams library services patterns parameters state).2.nodes =
          setAll services calls state.nodes ∧
        AllOrNothing patterns parameters calls) ↔
      ((∀ param ∈ parameters, Settable patterns param) → ∀ param ∈ parameters,
        CanConnect library state.interface (getNodeAndParamName param.name).1) := by
  by_cases settable : ∀ param ∈ parameters, Settable patterns param
  · obtain ⟨grouped, done, lookups, members⟩ := groupParams_settable settable ∅
    have started : startedSets library patterns parameters state.interface =
        some (launchedSets library grouped.entries state.interface) := by
      rw [startedSets, done]
    simp only [AList.notMem_empty, false_or] at members
    constructor
    · rintro ⟨calls, same, _, routed, _⟩ _ param member
      cases started.symm.trans same
      obtain ⟨call, launched, named⟩ := List.mem_map.mp
        (((routed settable).nodes _).mpr ⟨param, member, rfl⟩)
      rw [← named]
      exact launchedSets_connected grouped.entries state.interface call launched
    · intro possible
      refine ⟨_, started, setParams_nodes services state started, fun _ => ?_,
        fun unsettable => absurd settable unsettable⟩
      rw [launchedSets_all fun entry member => ?_]
      · exact routedExactly_entries lookups members
      · obtain ⟨param, listed, named⟩ := (members entry.1).mp (List.mem_map_of_mem member)
        rw [← named]
        exact possible settable param listed
  · have started : startedSets library patterns parameters state.interface = some [] := by
      rcases groupParams_refused filled settable ∅ with refused | ⟨exception, refused⟩ <;>
        rw [startedSets, refused]
    refine iff_of_true ⟨[], started, setParams_nodes services state started,
      fun all => absurd all settable, fun _ => rfl⟩ fun all => absurd all settable

/-- A library that refuses node names with a space. -/
def ParameterClients.checking : ParameterClients where
  makeShared := fun nodeName => if ' ' ∈ nodeName.toList then .error (.std "Invalid service name")
    else .ok ()
  onParameterEvent := fun _ => .ok ()

/-- Two parameters of which only the second names a node that exists. -/
def mistypedParameters : List Parameter :=
  [⟨"the talker.rate", .integer 2⟩, ⟨"/talker.rate", .integer 1⟩]

/-- One node is set although there can be no client for the other one. -/
theorem set_params_partly :
    (∀ param ∈ mistypedParameters, Settable [⟨fun _ => true⟩] param) ∧
      startedSets .checking [⟨fun _ => true⟩] mistypedParameters .initial =
        some [("/talker", [⟨"rate", .integer 1⟩])] ∧
      ¬ RoutedExactly mistypedParameters [("/talker", [⟨"rate", .integer 1⟩])] := by
  have names : (getNodeAndParamName "the talker.rate").1 = "the talker" := by decide +kernel
  refine ⟨?_, by rfl, ?_⟩
  · simp only [mistypedParameters, List.forall_mem_cons]
    exact ⟨⟨rfl, _, rfl⟩, ⟨rfl, _, rfl⟩, by simp⟩
  · intro routed
    have listed := (routed.nodes "the talker").mpr ⟨_, List.mem_cons_self, names⟩
    simp at listed

/-- Nodes that record what they are handed. -/
def ParameterServices.recording : ParameterServices (List SetCall) where
  fullyQualifiedName := "/cobridge"
  getNodeNames := fun _ => .ok []
  getServiceNamesAndTypesByNode := fun _ _ _ => .ok []
  serviceIsReady := fun _ _ => true
  listParameters := fun _ _ => .ready []
  getParameters := fun _ _ _ => .ready []
  setParameters := fun nodeName params calls => (.ready (), calls ++ [(nodeName, params)])

/-- The same parameters when every client can be made. -/
theorem set_params_two_nodes :
    ∃ calls, startedSets .working [⟨fun _ => true⟩] mistypedParameters .initial = some calls ∧
      (setParams .working .recording [⟨fun _ => true⟩] mistypedParameters ⟨.initial, []⟩).2.nodes =
        setAll .recording calls [] ∧
      AllOrNothing [⟨fun _ => true⟩] mistypedParameters calls :=
  (set_params_all_or_nothing_iff .working .recording [⟨fun _ => true⟩] mistypedParameters
    ⟨.initial, []⟩ (by simp [mistypedParameters])).mpr fun _ _ _ => .inr rfl

end CoBridge.Ros2
