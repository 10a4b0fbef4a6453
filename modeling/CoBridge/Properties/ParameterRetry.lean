import CoBridge.Properties.ParameterProtocol
import CoBridge.Ros1.Bridge

/-!
# Parameter subscriptions that fail

The server records a subscription before it calls the handler, and later requests are
filtered by that record. So a subscription that the handler refused stays recorded, and no
client that asks for the parameter again gets the handler called again.
-/

namespace CoBridge

open Library Action

variable {Bridge : Type} {config : Config Bridge} {payload : Json} {hdl : ConnHandle}
  {world : World Bridge} {names : KeySet String}

/-- The request names parameters that nobody is subscribed to, and the handler throws when it
is given them. -/
def HandlerThrows (config : Config Bridge) (payload : Json) (hdl : ConnHandle)
    (world : World Bridge) : Prop :=
  ∃ names handler exception, parameterNameSet payload = .ok names ∧
    world.server.unsubscribedParams names.keys ≠ [] ∧
    config.handlers.parameterSubscriptionHandler = some handler ∧
    (handler (world.server.unsubscribedParams names.keys) .subscribe hdl world.bridge).outcome =
      .error (.raised exception)

/-- In every run that goes on from here and in which the client asks for the name, the handler
is called to subscribe to it. -/
def Retried (config : Config Bridge) (name : String) (other : ConnHandle) (world : World Bridge) :
    Prop :=
  ∀ (events : List (ParameterEvent Bridge)) (payload : Json) (names : KeySet String),
    .subscribe payload other ∈ events → parameterNameSet payload = .ok names → name ∈ names →
    ∃ call ∈ (events.foldl (parameterEventStep config) world).parameterCalls.drop
      world.parameterCalls.length, name ∈ call.1 ∧ call.2 = .subscribe

/-- The record is the same whatever the handler does. -/
theorem handleSubscribeParameterUpdates_subscribed (parsed : parameterNameSet payload = .ok names)
    (name : String) :
    (handleSubscribeParameterUpdates config payload hdl world).2.server.isParameterSubscribed name =
        true ↔
      name ∈ names.keys ∨ world.server.isParameterSubscribed name = true := by
  have table : (handleSubscribeParameterUpdates config payload hdl
      world).2.server.clientParamSubscriptions =
        (world.server.addParamSubscriptions hdl names.keys).clientParamSubscriptions := by
    unfold handleSubscribeParameterUpdates
    rw [parsed, ofExcept_ok_bind_apply, gets_bind_apply, modifyServer_bind_apply]
    split
    · exact callHandler_frame Server.clientParamSubscriptions (fun _ => rfl) config _ _
    · rfl
  rw [Server.isParameterSubscribed_congr table]
  exact isParameterSubscribed_add world.server hdl names.keys name

/-- A request that hands nothing over leaves the calls as they are. -/
theorem handleSubscribeParameterUpdates_of_nil (parsed : parameterNameSet payload = .ok names)
    (none : world.server.unsubscribedParams names.keys = []) :
    handleSubscribeParameterUpdates config payload hdl world =
      (.ok (), { world with server := world.server.addParamSubscriptions hdl names.keys }) := by
  unfold handleSubscribeParameterUpdates
  rw [parsed, ofExcept_ok_bind_apply, gets_bind_apply, modifyServer_bind_apply,
    if_neg (not_not.mpr none)]
  rfl

/-- For every request at which the handler throws: the record is not as it was, and the names
are not asked for again, by whichever client. So both are as they should be exactly for the
requests at which it does not throw. -/
theorem failed_subscription_retried_iff (config : Config Bridge) (payload : Json)
    (hdl : ConnHandle) (world : World Bridge) :
    ((HandlerThrows config payload hdl world →
        (handleSubscribeParameterUpdates config payload hdl
          world).2.server.clientParamSubscriptions = world.server.clientParamSubscriptions) ↔
      ¬ HandlerThrows config payload hdl world) ∧
    ∀ other, (HandlerThrows config payload hdl world →
        ∀ names, parameterNameSet payload = .ok names →
          ∀ name ∈ world.server.unsubscribedParams names.keys, Retried config name other
            (handleSubscribeParameterUpdates config payload hdl world).2) ↔
      ¬ HandlerThrows config payload hdl world := by
  refine ⟨⟨fun atomic throws => ?_, fun returns throws => absurd throws returns⟩,
    fun other => ⟨fun retried throws => ?_, fun returns throws => absurd throws returns⟩⟩
  · obtain ⟨names, _, _, parsed, some, _⟩ := id throws
    obtain ⟨name, listed⟩ := List.exists_mem_of_ne_nil _ some
    obtain ⟨member, unsubscribed⟩ := (Server.mem_unsubscribedParams _ _ _).mp listed
    have recorded : (handleSubscribeParameterUpdates config payload hdl
        world).2.server.isParameterSubscribed name = true :=
      (handleSubscribeParameterUpdates_subscribed parsed name).mpr (.inl member)
    rw [Server.isParameterSubscribed_congr (atomic throws), unsubscribed] at recorded
    cases recorded
  · obtain ⟨names, _, _, parsed, some, _⟩ := id throws
    obtain ⟨name, listed⟩ := List.exists_mem_of_ne_nil _ some
    have member := ((Server.mem_unsubscribedParams _ _ _).mp listed).1
    -- The client sends the same request: every name of it is recorded.
    obtain ⟨call, made, _⟩ := retried throws names parsed name listed [.subscribe payload other]
      payload names List.mem_cons_self parsed (AList.mem_keys.mpr member)
    have none : (handleSubscribeParameterUpdates config payload hdl
        world).2.server.unsubscribedParams names.keys = [] := by
      rw [List.eq_nil_iff_forall_not_mem]
      intro again left
      obtain ⟨asked, unsubscribed⟩ := (Server.mem_unsubscribedParams _ _ _).mp left
      rw [(handleSubscribeParameterUpdates_subscribed parsed again).mpr (.inl asked)]
        at unsubscribed
      cases unsubscribed
    have same : (parameterEventStep config (handleSubscribeParameterUpdates config payload hdl
        world).2 (.subscribe payload other)).parameterCalls =
          (handleSubscribeParameterUpdates config payload hdl world).2.parameterCalls := by
      rw [parameterEventStep, handleSubscribeParameterUpdates_of_nil parsed none]
      rfl
    rw [List.foldl_cons, List.foldl_nil, same, List.drop_length] at made
    exact absurd made List.not_mem_nil

/-- A server over the ROS 1 bridge. -/
def parameterConfig : Config Ros1.Bridge :=
  { (Config.accepting : Config Ros1.Bridge) with
    handlers.parameterSubscriptionHandler := some (Ros1.subscribeParameters .open) }

def ratePayload : Json := .object [("parameterNames", .array [.string "/rate"])]

/-- A master that does not accept anything. -/
def masterDown : World Ros1.Bridge :=
  .initial (.initial { Ros1.Environment.quiet with executeParam := fun _ _ => .ok false })

/-- The master is back, and another client asks for the parameter. -/
def rateRetried : World Ros1.Bridge :=
  [.bridge fun bridge => { bridge with environment := .quiet },
    .subscribe ratePayload ⟨2⟩].foldl (parameterEventStep parameterConfig)
      (handleSubscribeParameterUpdates parameterConfig ratePayload ⟨1⟩ masterDown).2

/-- The call at which the master failed is the only one. -/
theorem failed_subscription_recorded :
    HandlerThrows parameterConfig ratePayload ⟨1⟩ masterDown ∧
      masterDown.server.isParameterSubscribed "/rate" = false ∧
      (handleSubscribeParameterUpdates parameterConfig ratePayload ⟨1⟩
        masterDown).2.server.isParameterSubscribed "/rate" = true ∧
      rateRetried.parameterCalls = [(["/rate"], .subscribe)] :=
  ⟨⟨_, _, .std "Failed to subscribe one or multiple parameters.", rfl, by decide, rfl, rfl⟩, rfl,
    rfl, rfl⟩

end CoBridge
