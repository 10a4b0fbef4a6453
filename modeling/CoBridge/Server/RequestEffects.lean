import CoBridge.Server.Effects

/-!
# What a message can do

A message runs at most one operation, or hands one client message or service
call to the bridge; whatever else it does is to send status messages.
-/

namespace CoBridge

open Library Action

section

variable {Bridge : Type} {config : Config Bridge} {promise : Guarantee (World Bridge)}
  {world : World Bridge} {hdl : ConnHandle}

/-- The operation a frame runs, with its payload. -/
def ClientFrame.request? (config : Config Bridge) : ClientFrame → Option (Operation × Json)
  | .text bytes =>
    match config.parse bytes with
    | .error _ => none
    | .ok payload =>
      match payload.atKey "op" >>= Json.getString with
      | .error _ => none
      | .ok op =>
        if (capabilityByClientOperation op).all (hasCapability config) then
          ((config.operation? op).filter (hasHandler config)).map (·, payload)
        else
          none
  | _ => none

/-- Status messages keep the promise. -/
def StatusKeeps (promise : Guarantee (World Bridge)) (hdl : ConnHandle) : Prop :=
  ∀ level text, (sendStatusAndLogMsg hdl level text : ServerAction Bridge Unit).Meets promise

theorem catchAll_rel {Value : Type} {body : ServerAction Bridge Value}
    {handler : Exception → ServerAction Bridge Value} (done : promise.rel world (body world).2)
    (handled : ∀ exception, (handler exception).Meets promise) :
    promise.rel world (catchAll body handler world).2 := by
  rw [catchAll_apply]
  revert done
  rcases body world with ⟨(exception | _) | _, reached⟩
  · exact fun done => promise.trans done (handled exception reached)
  · exact id
  · exact id

variable {payload : Json} {operation : Operation} (status : StatusKeeps promise hdl)

include status

/-- A dispatch keeps what the operation and status messages keep. -/
theorem dispatchWith_rel {functions : OperationFunctions Bridge} {op : String}
    (operations : ∀ operation, (capabilityByClientOperation op).all (hasCapability config) = true →
      (config.operation? op).filter (hasHandler config) = some operation →
      promise.rel world (functions operation payload world).2) :
    promise.rel world (dispatchWith functions config hdl payload op world).2 := by
  unfold dispatchWith
  rcases missing : (capabilityByClientOperation op).filter (fun capability =>
      !hasCapability config capability) with _ | capability
  · have capable : (capabilityByClientOperation op).all (hasCapability config) = true := by
      simpa [Option.all_eq_true] using missing
    rcases selected : config.operation? op with _ | operation
    · exact promise.refl world
    dsimp only
    by_cases registered : hasHandler config operation
    · rw [if_pos registered]
      refine catchAll_rel (operations operation capable ?_) fun _ => status _ _
      rw [selected, Option.filter_some, if_pos registered]
    · rw [if_neg registered]
      exact status _ _ world
  · exact status _ _ world

theorem handleTextMessage_rel {bytes : List UInt8}
    (operations : ∀ operation payload,
      ClientFrame.request? config (.text bytes) = some (operation, payload) →
      promise.rel world (handleOperation config operation payload hdl world).2) :
    promise.rel world (handleTextMessage config hdl bytes world).2 := by
  unfold handleTextMessage textMessageWith
  rcases parsed : config.parse bytes with text | payload
  · exact promise.refl world
  simp only [Except.mapError, ofExcept_ok_bind_apply]
  rcases named : payload.atKey "op" >>= Json.getString with fault | op
  · exact promise.refl world
  rw [ofExcept_ok_bind_apply]
  apply dispatchWith_rel status
  intro operation capable selected
  apply operations
  unfold ClientFrame.request?
  simp [parsed, named, capable, selected]

theorem handleBinaryMessage_meets (data : List UInt8)
    (messages : ∀ message, (callHandler config (.clientMessage message hdl)).Meets promise)
    (services : ∀ request, (callHandler config (.serviceRequest request hdl)).Meets promise) :
    (handleBinaryMessage config hdl data).Meets promise := by
  unfold handleBinaryMessage
  split
  · exact status _ _
  split
  · exact status _ _
  split
  · unfold handleMessageData
    apply Meets.ite (meets_pure _)
    apply Meets.ite (status _ _)
    apply Meets.bind (meets_gets _)
    intro timestamp
    apply Meets.bind (meets_gets _)
    rintro (refusal | advertisement)
    · exact status _ _
    · exact meets_catchAll (messages _) fun _ => status _ _
  · unfold handleServiceCallRequest
    apply Meets.ite (status _ _)
    apply Meets.bind (meets_ofExcept _)
    intro request
    apply Meets.bind (meets_gets _)
    intro advertised
    apply Meets.ite (status _ _)
    exact Meets.ite (services request) (meets_pure _)
  · exact status _ _

/-- The promise of a message, from the promise of the operation it runs in this
world and of the two calls a binary message makes. -/
theorem handleMessage_rel {frame : ClientFrame}
    (operations : ∀ operation payload, frame.request? config = some (operation, payload) →
      promise.rel world (handleOperation config operation payload hdl world).2)
    (messages : ∀ message, (callHandler config (.clientMessage message hdl)).Meets promise)
    (services : ∀ request, (callHandler config (.serviceRequest request hdl)).Meets promise) :
    promise.rel world (handleMessage config hdl frame world).2 := by
  refine catchAll_rel ?_ fun _ => status _ _
  cases frame with
  | text bytes => exact handleTextMessage_rel status operations
  | binary data => exact handleBinaryMessage_meets status data messages services world
  | control => exact promise.refl world

omit status in
/-- A message that names an operation which the server supports. -/
theorem request_of_name {bytes : List UInt8} (parsed : config.parse bytes = .ok payload)
    (named : payload.atKey "op" >>= Json.getString = .ok operation.name)
    (capable : (capabilityByClientOperation operation.name).all (hasCapability config) = true)
    (registered : hasHandler config operation = true) :
    ClientFrame.request? config (.text bytes) = some (operation, payload) := by
  simp [ClientFrame.request?, parsed, named, capable, Config.operation?, Operation.ofHash_name,
    registered]

end

/-! ## Requests as texts -/

/-- A request as the text that a client sends, with the value the JSON library reads. -/
structure TextRequest where
  text : String
  payload : Json

def TextRequest.bytes (request : TextRequest) : List UInt8 := request.text.toUTF8.data.toList

def TextRequest.frame (request : TextRequest) : ClientFrame := .text request.bytes

/-- The reading of the given requests. -/
def readRequests (requests : List TextRequest) (bytes : List UInt8) : Except String Json :=
  match requests.find? (·.bytes = bytes) with
  | some request => .ok request.payload
  | none => .error "parse error"

/-- Each request is read back. -/
theorem readRequests_of_mem (requests : List TextRequest) {request : TextRequest}
    (distinct : (requests.map TextRequest.bytes).Nodup) (listed : request ∈ requests) :
    readRequests requests request.bytes = .ok request.payload := by
  have found : requests.find? (·.bytes = request.bytes) = some request := by
    obtain ⟨other, found⟩ : ∃ other, requests.find? (·.bytes = request.bytes) = some other :=
      Option.isSome_iff_exists.mp (List.find?_isSome.mpr ⟨request, listed, decide_eq_true rfl⟩)
    have same : other.bytes = request.bytes := by simpa using List.find?_some found
    rw [found, List.inj_on_of_nodup_map distinct (List.mem_of_find?_eq_some found) listed same]
  rw [readRequests, found]

def userRequest (userName userId : String) : TextRequest where
  text := "\x7b\"op\":\"login\",\"username\":\"" ++ userName ++ "\",\"userId\":\"" ++ userId ++
    "\"\x7d"
  payload := userPayload userName userId

/-- The text of a request with a list of items under the key. -/
def listText (op key : String) (items : List String) : String :=
  "\x7b\"op\":\"" ++ op ++ "\",\"" ++ key ++ "\":[" ++ ",".intercalate items ++ "]\x7d"

/-!
## What each request consists of

A request reads its arguments, sends status messages, calls handlers and changes tables. Each
lemma names the parts of one request: a promise that the parts keep is kept by the request.
-/

variable {Bridge : Type} {config : Config Bridge} {promise : Guarantee (World Bridge)}
  {hdl : ConnHandle}

/-- Looking a client up changes nothing. -/
theorem clientAt_meets (hdl : ConnHandle) :
    (clientAt hdl : ServerAction Bridge ClientInfo).Meets promise := by
  intro world
  rw [clientAt_eq]
  exact promise.refl world

theorem updateClient_meets {change : ClientInfo → ClientInfo}
    (changes : ∀ world : World Bridge,
      promise.rel world { world with server := world.server.modifyClient hdl change }) :
    (updateClient hdl change : ServerAction Bridge Unit).Meets promise := by
  intro world
  rw [updateClient_apply]
  split
  · exact changes world
  · exact promise.refl world

/-- A request that reads a list and serves its entries one by one. -/
theorem entries_meet {Entry : Type} (listed : Except Fault Json) (read : Json → Except Fault Entry)
    {serve : Entry → ServerAction Bridge Unit} (serves : ∀ entry, (serve entry).Meets promise) :
    (Action.ofExcept listed >>= fun json => Action.forEach json.elements fun item =>
      Action.ofExcept (read item) >>= serve).Meets promise := by
  apply Meets.bind (meets_ofExcept _)
  intro json
  apply meets_forEach
  intro item _
  exact (meets_ofExcept _).bind serves

/-! ### Subscriptions -/

theorem subscribeEntry_meets (status : StatusKeeps promise hdl)
    (calls : ∀ channelId, (callHandler config (.subscribe channelId hdl)).Meets promise)
    (records : ∀ channelId subId,
      (updateClient hdl (.addSubscription channelId subId) :
        ServerAction Bridge Unit).Meets promise)
    (subscriptionsByChannel : Table ChannelId SubscriptionId)
    (entry : SubscriptionId × ChannelId) :
    (subscribeEntry config hdl subscriptionsByChannel entry).Meets promise := by
  apply Meets.bind (meets_gets _)
  intro available
  apply Meets.ite (status _ _)
  apply Meets.ite (status _ _)
  exact (calls entry.2).bind fun _ => records entry.2 entry.1

theorem handleSubscribe_meets
    (serves : ∀ subscriptionsByChannel entry,
      (subscribeEntry config hdl subscriptionsByChannel entry).Meets promise) (payload : Json) :
    (handleSubscribe config payload hdl).Meets promise := by
  apply Meets.bind (clientAt_meets hdl)
  intro client
  exact entries_meet _ subscriptionEntry (serves client.subscriptionsByChannel)

theorem unsubscribeEntry_meets (status : StatusKeeps promise hdl)
    (calls : ∀ channelId, (callHandler config (.unsubscribe channelId hdl)).Meets promise)
    (records : ∀ channelId,
      (updateClient hdl (.removeSubscription channelId) : ServerAction Bridge Unit).Meets promise)
    (subscriptionsByChannel : Table ChannelId SubscriptionId) (subId : SubscriptionId) :
    (unsubscribeEntry config hdl subscriptionsByChannel subId).Meets promise := by
  unfold unsubscribeEntry
  split
  · exact status _ _
  · next channelId _ => exact (calls channelId).bind fun _ => records channelId

theorem handleUnsubscribe_meets
    (serves : ∀ subscriptionsByChannel subId,
      (unsubscribeEntry config hdl subscriptionsByChannel subId).Meets promise) (payload : Json) :
    (handleUnsubscribe config payload hdl).Meets promise := by
  apply Meets.bind (clientAt_meets hdl)
  intro client
  exact entries_meet _ Json.getUInt32 (serves client.subscriptionsByChannel)

/-! ### Publications -/

theorem advertiseChannel_meets (status : StatusKeeps promise hdl)
    (calls : ∀ advertisement,
      (callHandler config (.clientAdvertise advertisement hdl)).Meets promise)
    (records : ∀ channelId,
      (updateClient hdl (.addAdvertisedChannel channelId) : ServerAction Bridge Unit).Meets promise)
    (publications : ∀ change,
      (modifyServer (.modifyPublications hdl change) : ServerAction Bridge Unit).Meets promise)
    (decision : String ⊕ ClientAdvertisement) :
    (advertiseChannel config hdl decision).Meets promise := by
  cases decision with
  | inl refusal => exact status _ _
  | inr advertisement =>
    apply Meets.bind (calls advertisement)
    intro _
    exact (records advertisement.channelId).bind fun _ => publications _

theorem advertiseEntry_meets
    (advertises : ∀ decision, (advertiseChannel config hdl decision).Meets promise)
    (isFirstPublication : Bool) (chan : Json) :
    (advertiseEntry config isFirstPublication hdl chan).Meets promise := by
  apply Meets.bind (meets_gets _)
  intro publications
  exact (meets_ofExcept _).bind advertises

theorem handleAdvertise_meets
    (opens : (modifyServer (.openPublications hdl) : ServerAction Bridge Unit).Meets promise)
    (serves : ∀ isFirstPublication chan,
      (advertiseEntry config isFirstPublication hdl chan).Meets promise) (payload : Json) :
    (handleAdvertise config payload hdl).Meets promise := by
  apply Meets.bind (meets_gets _)
  intro isFirstPublication
  apply Meets.bind opens
  intro _
  apply Meets.bind (meets_ofExcept _)
  intro channels
  exact meets_forEach fun chan _ => serves isFirstPublication chan

theorem unadvertiseEntry_meets
    (calls : ∀ channelId, (callHandler config (.clientUnadvertise channelId hdl)).Meets promise)
    (records : ∀ channelId, (updateClient hdl (.removeAdvertisedChannel channelId) :
      ServerAction Bridge Unit).Meets promise)
    (publications : ∀ change,
      (modifyServer (.modifyPublications hdl change) : ServerAction Bridge Unit).Meets promise)
    (channelId : ClientChannelId) : (unadvertiseEntry config hdl channelId).Meets promise := by
  apply Meets.bind (meets_gets _)
  intro stored
  apply Meets.ite _ (meets_pure _)
  apply Meets.bind (calls channelId)
  intro _
  exact (records channelId).bind fun _ => publications _

theorem handleUnadvertise_meets (status : StatusKeeps promise hdl)
    (serves : ∀ channelId, (unadvertiseEntry config hdl channelId).Meets promise) (payload : Json) :
    (handleUnadvertise config payload hdl).Meets promise := by
  apply Meets.bind (meets_gets _)
  intro advertised
  exact Meets.ite (entries_meet _ Json.getUInt32 serves) (status _ _)

/-! ### Parameters -/

/-- Requests that read their arguments and make one call. -/
theorem callWith_meets {Arguments : Type} (arguments : Except Fault Arguments)
    {call : Arguments → HandlerCall}
    (calls : ∀ values, (callHandler config (call values)).Meets promise) :
    (Action.ofExcept arguments >>= fun values => callHandler config (call values)).Meets promise :=
  (meets_ofExcept _).bind calls

theorem unsubscribeParams_meets (status : StatusKeeps promise hdl)
    (calls : ∀ names, (callHandler config (.parameterSubscription names .unsubscribe hdl)).Meets
      promise) (paramNames : List String) :
    (unsubscribeParamsWithoutSubscriptions config hdl paramNames).Meets promise := by
  apply Meets.bind (meets_gets _)
  intro paramsToUnsubscribe
  exact Meets.ite (meets_catchAll (calls _) fun _ => status _ _) (meets_pure _)

theorem handleSubscribeParameterUpdates_meets
    (adds : ∀ names,
      (modifyServer (.addParamSubscriptions hdl names) : ServerAction Bridge Unit).Meets promise)
    (calls : ∀ names, (callHandler config (.parameterSubscription names .subscribe hdl)).Meets
      promise) (payload : Json) :
    (handleSubscribeParameterUpdates config payload hdl).Meets promise := by
  apply Meets.bind (meets_ofExcept _)
  intro paramNames
  apply Meets.bind (meets_gets _)
  intro paramsToSubscribe
  apply Meets.bind (adds _)
  intro _
  exact Meets.ite (calls _) (meets_pure _)

theorem handleUnsubscribeParameterUpdates_meets
    (removes : ∀ names,
      (modifyServer (.removeParamSubscriptions hdl names) : ServerAction Bridge Unit).Meets promise)
    (withdraws : ∀ names,
      (unsubscribeParamsWithoutSubscriptions config hdl names).Meets promise) (payload : Json) :
    (handleUnsubscribeParameterUpdates config payload hdl).Meets promise := by
  apply Meets.bind (meets_ofExcept _)
  intro paramNames
  apply Meets.bind (removes _)
  intro _
  exact withdraws _

/-! ### The connection graph -/

section Graph

variable (counts : ∀ change,
    (modifyServer (.addToSubscriptionCount change) : ServerAction Bridge Unit).Meets promise)
  (calls : ∀ subscribe, (callHandler config (.subscribeConnectionGraph subscribe)).Meets promise)

include counts calls

theorem handleSubscribeConnectionGraph_meets
    (flag : (updateClient hdl (.setSubscribedToConnectionGraph true) :
      ServerAction Bridge Unit).Meets promise)
    (sends : ∀ message, (sendJson hdl message : ServerAction Bridge Unit).Meets promise) :
    (handleSubscribeConnectionGraph config hdl).Meets promise := by
  apply Meets.bind (counts 1)
  intro _
  apply Meets.bind (meets_gets _)
  intro subscriptionCount
  apply Meets.bind
  · apply Meets.ite _ (meets_pure _)
    exact (calls true).bind fun _ => flag
  · intro _
    apply Meets.bind (meets_gets _)
    intro graph
    exact sends _

theorem handleUnsubscribeConnectionGraph_meets (status : StatusKeeps promise hdl)
    (flag : (modifyServer (Server.modifyClient hdl (.setSubscribedToConnectionGraph false)) :
      ServerAction Bridge Unit).Meets promise) :
    (handleUnsubscribeConnectionGraph config hdl).Meets promise := by
  apply Meets.bind (clientAt_meets hdl)
  intro client
  apply Meets.ite _ (status _ _)
  apply Meets.bind flag
  intro _
  apply Meets.bind (counts (-1))
  intro _
  apply Meets.bind (meets_gets _)
  intro subscriptionCount
  exact Meets.ite (calls false) (meets_pure _)

end Graph

end CoBridge
