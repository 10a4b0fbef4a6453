import CoBridge.Server.OperationEffects

/-!
# What parameter subscription requests can do

The two table operations and the call that hands parameters without a
subscriber to the bridge.
-/

namespace CoBridge

open Library Table

section

variable {Bridge : Type}
variable {config : Config Bridge} (server : Server) (hdl : ConnHandle)

/-- Nothing is handed to the bridge when every parameter still has a subscriber. -/
theorem unsubscribeParamsWithoutSubscriptions_of_nil {hdl : ConnHandle} {paramNames : List String}
    {world : World Bridge} (none : world.server.unsubscribedParams paramNames = []) :
    unsubscribeParamsWithoutSubscriptions config hdl paramNames world = (.ok (), world) := by
  unfold unsubscribeParamsWithoutSubscriptions
  rw [Action.gets_bind_apply, if_neg fun condition => condition.2 none]
  rfl

/-- The parameters without a subscriber are handed to the bridge in one call. -/
theorem unsubscribeParamsWithoutSubscriptions_calls
    (registered : config.handlers.parameterSubscriptionHandler.isSome) (hdl : ConnHandle)
    (paramNames : List String) (world : World Bridge)
    (some : world.server.unsubscribedParams paramNames ≠ []) :
    (unsubscribeParamsWithoutSubscriptions config hdl paramNames world).2.calls =
      world.calls ++ [.parameterSubscription (world.server.unsubscribedParams paramNames)
        .unsubscribe hdl] := by
  obtain ⟨handler, resolved⟩ := Option.isSome_iff_exists.mp registered
  unfold unsubscribeParamsWithoutSubscriptions
  rw [Action.gets_bind_apply, if_pos ⟨registered, some⟩,
    catchAll_status_part World.calls World.enqueue_calls]
  exact callHandler_calls (by rw [ServerHandlers.resolve, resolved, Option.map_some]) world

theorem unsubscribeParamsWithoutSubscriptions_withoutGraph (config : Config Bridge)
    (hdl : ConnHandle) (paramNames : List String) :
    (unsubscribeParamsWithoutSubscriptions config hdl paramNames).Meets
      (.frame fun world => world.server.withoutGraph) :=
  unsubscribeParams_meets (sendStatusAndLogMsg_withoutGraph hdl)
    (fun _ => callHandler_withoutGraph config _) paramNames

theorem Server.paramSubscriptions_add (other : ConnHandle) (paramNames : List String) :
    (server.addParamSubscriptions hdl paramNames).paramSubscriptions other =
      if other = hdl then KeySet.insertAll paramNames (server.paramSubscriptions hdl)
      else server.paramSubscriptions other := by
  unfold Server.paramSubscriptions Server.addParamSubscriptions
  rw [lookup_modify, lookup_emplace, lookup_emplace, if_pos rfl]
  by_cases same : other = hdl
  · simp [same]
  · simp [same]

theorem Server.paramSubscriptions_remove (other : ConnHandle) (paramNames : List String) :
    (server.removeParamSubscriptions hdl paramNames).paramSubscriptions other =
      if other = hdl then (server.paramSubscriptions hdl).eraseAll paramNames
      else server.paramSubscriptions other := by
  unfold Server.paramSubscriptions Server.removeParamSubscriptions
  rw [lookup_modify, lookup_emplace, lookup_emplace, if_pos rfl]
  by_cases same : other = hdl
  · simp [same]
  · simp [same]

/-- Adding names changes the table unless the connection has them all. -/
theorem Server.addParamSubscriptions_eq_self_iff (paramNames : List String) :
    (server.addParamSubscriptions hdl paramNames).clientParamSubscriptions =
        server.clientParamSubscriptions ↔
      hdl ∈ server.clientParamSubscriptions ∧
        ∀ name ∈ paramNames, name ∈ server.paramSubscriptions hdl := by
  constructor
  · intro same
    have subscribed := server.paramSubscriptions_add hdl hdl paramNames
    have sameSet : (server.addParamSubscriptions hdl paramNames).paramSubscriptions hdl =
        server.paramSubscriptions hdl := by
      simp only [Server.paramSubscriptions, same]
    rw [if_pos rfl, sameSet] at subscribed
    constructor
    · rw [← same]
      simp [Server.addParamSubscriptions]
    · intro name member
      rw [subscribed]
      exact (KeySet.mem_insertAll _ _ _).mpr (.inl member)
  · rintro ⟨present, subscribed⟩
    unfold Server.addParamSubscriptions
    rw [emplace_of_mem present]
    apply modify_eq_self
    intro names found
    apply KeySet.insertAll_eq_self
    simpa [Server.paramSubscriptions, found] using subscribed

/-- Removing names changes the table unless the connection has none of them. -/
theorem Server.removeParamSubscriptions_eq_self_iff (paramNames : List String) :
    (server.removeParamSubscriptions hdl paramNames).clientParamSubscriptions =
        server.clientParamSubscriptions ↔
      hdl ∈ server.clientParamSubscriptions ∧
        ∀ name ∈ paramNames, name ∉ server.paramSubscriptions hdl := by
  constructor
  · intro same
    have subscribed := server.paramSubscriptions_remove hdl hdl paramNames
    have sameSet : (server.removeParamSubscriptions hdl paramNames).paramSubscriptions hdl =
        server.paramSubscriptions hdl := by
      simp only [Server.paramSubscriptions, same]
    rw [if_pos rfl, sameSet] at subscribed
    constructor
    · rw [← same]
      simp [Server.removeParamSubscriptions]
    · intro name member
      rw [subscribed]
      exact fun kept => ((mem_eraseAll _ _ _).mp kept).1 member
  · rintro ⟨present, subscribed⟩
    unfold Server.removeParamSubscriptions
    rw [emplace_of_mem present]
    apply modify_eq_self
    intro names found
    apply eraseAll_eq_self
    simpa [Server.paramSubscriptions, found] using subscribed

end

/-!
## What requests and disconnects hand to the parameter subscription handler

The table of parameter subscriptions and the calls of the handler after each
operation that touches them. A disconnect is cut where it comes to the parameters.
-/

open Action

variable {Bridge : Type}

/-- Names and operation of a call of the parameter subscription handler. -/
abbrev ParameterOperation := List String × ParameterSubscriptionOperation

def HandlerCall.parameterOperation? : HandlerCall → Option ParameterOperation
  | .parameterSubscription names op _ => some (names, op)
  | _ => none

/-- The calls of the parameter subscription handler, in order. -/
def World.parameterCalls (world : World Bridge) : List ParameterOperation :=
  world.calls.filterMap HandlerCall.parameterOperation?

/-- The call that hands the names over, if there are any. -/
def handed (names : List String) (op : ParameterSubscriptionOperation) :
    List ParameterOperation :=
  if names = [] then [] else [(names, op)]

/-- The table of subscriptions and the calls of the handler. -/
def World.parameterView (world : World Bridge) :
    Table ConnHandle (KeySet String) × List ParameterOperation :=
  (world.server.clientParamSubscriptions, world.parameterCalls)

section Requests

variable {config : Config Bridge}
variable {op : ParameterSubscriptionOperation}
  {handler : List String → ParameterSubscriptionOperation → ConnHandle → Bridge → Reply Bridge}

@[simp] theorem World.enqueue_parameterView (world : World Bridge) (hdl : ConnHandle)
    (message : ServerMessage) :
    (world.enqueue hdl message).parameterView = world.parameterView := by
  simp [World.parameterView, World.parameterCalls]

/-- A call of another handler is not seen. -/
theorem callHandler_parameterView {call : HandlerCall} (other : call.parameterOperation? = none) :
    (callHandler config call).Meets (.frame World.parameterView) := by
  intro world
  have table := callHandler_frame Server.clientParamSubscriptions (fun _ => rfl) config call world
  have calls : (callHandler config call world).2.parameterCalls = world.parameterCalls := by
    unfold World.parameterCalls
    rcases registered : config.handlers.resolve call with _ | handler
    · rw [callHandler_of_none registered]
    · rw [callHandler_calls registered, List.filterMap_append]
      simp [other]
  exact Prod.ext table calls

theorem callHandler_handed {names : List String} {hdl : ConnHandle}
    (registered : config.handlers.parameterSubscriptionHandler.isSome) (world : World Bridge) :
    (callHandler config (.parameterSubscription names op hdl) world).2.parameterView =
      (world.server.clientParamSubscriptions, world.parameterCalls ++ [(names, op)]) := by
  obtain ⟨handler, resolved⟩ := Option.isSome_iff_exists.mp registered
  have table := callHandler_frame Server.clientParamSubscriptions (fun _ => rfl) config
    (.parameterSubscription names op hdl) world
  refine Prod.ext table ?_
  change List.filterMap _ (callHandler config _ world).2.calls = _
  rw [callHandler_calls (by rw [ServerHandlers.resolve, resolved, Option.map_some]),
    List.filterMap_append]
  rfl

theorem callHandler_unregistered {names : List String} {hdl : ConnHandle}
    (missing : config.handlers.parameterSubscriptionHandler = none) :
    (callHandler config (.parameterSubscription names op hdl)).Meets
      (.frame World.parameterView) := by
  intro world
  rw [callHandler_of_none (by rw [ServerHandlers.resolve, missing, Option.map_none])]
  rfl

/-- The parameters nobody subscribes to any more are handed over. -/
theorem unsubscribeParamsWithoutSubscriptions_parameterView
    (registered : config.handlers.parameterSubscriptionHandler.isSome) (hdl : ConnHandle)
    (names : List String) (world : World Bridge) :
    (unsubscribeParamsWithoutSubscriptions config hdl names world).2.parameterView =
      (world.server.clientParamSubscriptions, world.parameterCalls ++
        handed (world.server.unsubscribedParams names) .unsubscribe) := by
  unfold handed
  split
  · next none =>
    rw [unsubscribeParamsWithoutSubscriptions_of_nil none, List.append_nil]
    rfl
  · next some =>
    unfold unsubscribeParamsWithoutSubscriptions
    rw [gets_bind_apply, if_pos ⟨registered, some⟩,
      catchAll_status_part World.parameterView World.enqueue_parameterView,
      callHandler_handed registered]

theorem unsubscribeParamsWithoutSubscriptions_unregistered
    (missing : config.handlers.parameterSubscriptionHandler = none) (hdl : ConnHandle)
    (names : List String) (world : World Bridge) :
    unsubscribeParamsWithoutSubscriptions config hdl names world = (.ok (), world) := by
  unfold unsubscribeParamsWithoutSubscriptions
  rw [gets_bind_apply, if_neg fun condition => by simp [missing] at condition]
  rfl

/-- The bridge after the parameters nobody subscribes to any more were handed over. -/
theorem unsubscribeParamsWithoutSubscriptions_bridge
    (registered : config.handlers.parameterSubscriptionHandler = some handler) (hdl : ConnHandle)
    (names : List String) (world : World Bridge) :
    (unsubscribeParamsWithoutSubscriptions config hdl names world).2.bridge =
      if world.server.unsubscribedParams names = [] then world.bridge
      else (handler (world.server.unsubscribedParams names)
        .unsubscribe hdl world.bridge).bridge := by
  split
  · next none => rw [unsubscribeParamsWithoutSubscriptions_of_nil none]
  · next some =>
    unfold unsubscribeParamsWithoutSubscriptions
    rw [gets_bind_apply, if_pos ⟨by rw [registered]; rfl, some⟩,
      catchAll_status_part World.bridge World.enqueue_bridge]
    exact callHandler_bridge (by rw [ServerHandlers.resolve, registered, Option.map_some]) world

theorem handleSubscribeParameterUpdates_bridge
    (registered : config.handlers.parameterSubscriptionHandler = some handler) {payload : Json}
    {names : KeySet String} (parsed : parameterNameSet payload = .ok names) (hdl : ConnHandle)
    (world : World Bridge) :
    (handleSubscribeParameterUpdates config payload hdl world).2.bridge =
      if world.server.unsubscribedParams names.keys = [] then world.bridge
      else (handler (world.server.unsubscribedParams names.keys) .subscribe hdl
        world.bridge).bridge := by
  unfold handleSubscribeParameterUpdates
  rw [parsed, ofExcept_ok_bind_apply, gets_bind_apply, modifyServer_bind_apply]
  by_cases none : world.server.unsubscribedParams names.keys = []
  · rw [if_neg (not_not.mpr none), if_pos none]
    rfl
  · rw [if_pos none, if_neg none]
    exact callHandler_bridge (by rw [ServerHandlers.resolve, registered, Option.map_some]) _

theorem handleSubscribeParameterUpdates_parameterView
    (registered : config.handlers.parameterSubscriptionHandler.isSome) {payload : Json}
    {names : KeySet String} (parsed : parameterNameSet payload = .ok names) (hdl : ConnHandle)
    (world : World Bridge) :
    (handleSubscribeParameterUpdates config payload hdl world).2.parameterView =
      ((world.server.addParamSubscriptions hdl names.keys).clientParamSubscriptions,
        world.parameterCalls ++
          handed (world.server.unsubscribedParams names.keys) .subscribe) := by
  unfold handleSubscribeParameterUpdates handed
  rw [parsed, ofExcept_ok_bind_apply, gets_bind_apply, modifyServer_bind_apply]
  by_cases none : world.server.unsubscribedParams names.keys = []
  · rw [if_neg (not_not.mpr none), if_pos none, List.append_nil]
    rfl
  · rw [if_pos none, if_neg none]
    exact callHandler_handed registered _

theorem handleUnsubscribeParameterUpdates_parameterView
    (registered : config.handlers.parameterSubscriptionHandler.isSome) {payload : Json}
    {names : KeySet String} (parsed : parameterNameSet payload = .ok names) (hdl : ConnHandle)
    (world : World Bridge) :
    (handleUnsubscribeParameterUpdates config payload hdl world).2.parameterView =
      ((world.server.removeParamSubscriptions hdl names.keys).clientParamSubscriptions,
        world.parameterCalls ++ handed ((world.server.removeParamSubscriptions hdl
          names.keys).unsubscribedParams names.keys) .unsubscribe) := by
  unfold handleUnsubscribeParameterUpdates
  rw [parsed, ofExcept_ok_bind_apply, modifyServer_bind_apply]
  exact unsubscribeParamsWithoutSubscriptions_parameterView registered hdl _ _

theorem withdrawParameters_parameterView
    (registered : config.handlers.parameterSubscriptionHandler.isSome) (hdl : ConnHandle)
    (world : World Bridge) :
    (withdrawParameters config hdl world).2.parameterView =
      ((world.server.eraseParamSubscriptions hdl).clientParamSubscriptions,
        world.parameterCalls ++ handed ((world.server.eraseParamSubscriptions
          hdl).unsubscribedParams (world.server.paramSubscriptions hdl).keys) .unsubscribe) := by
  unfold withdrawParameters
  exact unsubscribeParamsWithoutSubscriptions_parameterView registered hdl _ _

/-- A disconnect that comes to the parameters, and one that does not. -/
theorem handleConnectionClosed_cases (promise : Guarantee (World Bridge)) {hdl : ConnHandle}
    (world : World Bridge)
    (erased : (modifyServer (Server.eraseClient hdl) : ServerAction Bridge Unit).Meets promise)
    (channels : ∀ client, (withdrawChannels config hdl client).Meets promise)
    (graph : (releaseConnectionGraph config).Meets promise) :
    promise.rel world (handleConnectionClosed config hdl world).2 ∨
      ∃ reached, promise.rel world reached ∧
        promise.rel (withdrawParameters config hdl reached).2
          (handleConnectionClosed config hdl world).2 := by
  rcases found : world.server.clients.lookup hdl with _ | client
  · rw [handleConnectionClosed_of_none found]
    exact .inl (promise.refl world)
  unfold handleConnectionClosed
  rw [gets_bind_apply, found]
  change promise.rel world ((releaseClient config hdl client >>= _)
    { world with server := world.server.eraseClient hdl }).2 ∨
      ∃ reached, promise.rel world reached ∧
      promise.rel (withdrawParameters config hdl reached).2 ((releaseClient config hdl client >>= _)
        { world with server := world.server.eraseClient hdl }).2
  rw [releaseClient_eq, bind_assoc, bind_apply]
  have withdrawn := promise.trans (erased world) (channels client _)
  change promise.rel world (withdrawChannels config hdl client
    { world with server := world.server.eraseClient hdl }).2 at withdrawn
  revert withdrawn
  rcases withdrawChannels config hdl client
    { world with server := world.server.eraseClient hdl } with ⟨fault | _, reached⟩
  · exact .inl
  · exact fun withdrawn => .inr ⟨reached, withdrawn,
      rel_bind (fun _ => .ite graph (meets_pure _)) reached⟩

end Requests

end CoBridge
