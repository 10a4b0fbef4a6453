import CoBridge.Properties.PublicationViews
import CoBridge.Properties.TextDispatch

/-!
# Requests as batches

What a request with a list of entries does to what is kept for its client, and what the
requests with one entry each do.
-/

namespace CoBridge.Ros2

open Library Action

variable {Rest : Type} {setup : Setup Rest} {world : World (Bridge Rest)} {hdl : ConnHandle}
  {offer : Offer} {view : ClientView}

/-- A kind of request with a list of entries. -/
structure ListRequest (Entry : Type) where
  operation : Operation
  key : String
  read : Json → Except Fault Entry

variable {Entry : Type}

/-- The frame is a request with these entries. -/
def ListRequest.Sends (request : ListRequest Entry) (config : Config (Bridge Rest))
    (frame : ClientFrame) (entries : List Entry) : Prop :=
  ∃ payload items, frame.request? config = some (request.operation, payload) ∧
    payload.atKey request.key = .ok items ∧
    List.Forall₂ (fun item entry => request.read item = .ok entry) items.elements entries

/-- The frames are requests with one of the entries each. -/
def ListRequest.SendsEach (request : ListRequest Entry) (config : Config (Bridge Rest))
    (frames : List ClientFrame) (entries : List Entry) : Prop :=
  List.Forall₂ (fun frame entry => request.Sends config frame [entry]) frames entries

/-- What is left after several messages of a connection. -/
def afterMessages (config : Config (Bridge Rest)) (hdl : ConnHandle) (frames : List ClientFrame)
    (world : World (Bridge Rest)) : World (Bridge Rest) :=
  frames.foldl (fun reached frame => (handleMessage config hdl frame reached).2) world

def subscribeRequest : ListRequest (SubscriptionId × ChannelId) :=
  ⟨.subscribe, "subscriptions", subscriptionEntry⟩

def unsubscribeRequest : ListRequest SubscriptionId :=
  ⟨.unsubscribe, "subscriptionIds", Json.getUInt32⟩

def advertiseRequest : ListRequest ClientAdvertisement :=
  ⟨.advertise, "channels", advertisementOf⟩

def unadvertiseRequest : ListRequest ClientChannelId :=
  ⟨.unadvertise, "channelIds", Json.getUInt32⟩

section Messages

variable {request : ListRequest Entry}

/-- A message shows what its operation shows. -/
theorem handleMessage_shows {frame : ClientFrame} {operation : Operation} {payload : Json}
    (requested : frame.request? setup.config = some (operation, payload))
    (shown : Shows hdl offer view (handleOperation setup.config operation payload hdl world).2) :
    Shows hdl offer view (handleMessage setup.config hdl frame world).2 := by
  exact shown.of_tables (handleMessage_of_request World.enqueue_server requested)
    (handleMessage_of_request World.enqueue_bridge requested)

/-- If a request serves its entries in some way, so do the requests for one of them each,
one after the other. -/
theorem afterMessages_shows {serve : List Entry → ClientView → ClientView}
    (serves : ∀ {frame entries view world}, request.Sends setup.config frame entries →
      Shows hdl offer view world →
      Shows hdl offer (serve entries view) (handleMessage setup.config hdl frame world).2)
    {frames : List ClientFrame} {entries : List Entry}
    (sent : request.SendsEach setup.config frames entries) (shown : Shows hdl offer view world) :
    Shows hdl offer (entries.foldl (fun reached entry => serve [entry] reached) view)
      (afterMessages setup.config hdl frames world) := by
  induction sent generalizing view world with
  | nil => exact shown
  | cons first _ ih => exact ih (serves first shown)

/-- The entries of a request are served by a loop that reads them first. -/
theorem readEntries_shows {read : Json → Except Fault Entry}
    {policy : BatchPolicy ClientView Entry} {serve : Entry → ServerAction (Bridge Rest) Unit}
    (serves : ∀ {entry view world}, Shows hdl offer view world →
      BatchPolicy.Serves (Shows hdl offer) (policy.refused entry) view (policy.inBatch entry view)
        (serve entry world))
    {items : List Json} {entries : List Entry}
    (listed : List.Forall₂ (fun item entry => read item = .ok entry) items entries)
    (shown : Shows hdl offer view world) :
    Shows hdl offer (policy.runBatch entries view)
      (Action.forEach items (fun item => Action.ofExcept (read item) >>= serve) world).2 := by
  apply BatchPolicy.forEach_shows policy (Shows hdl offer)
    (fun {item entry} (reads : read item = .ok entry) {view world} here => ?_) listed shown
  rw [reads, ofExcept_ok_bind_apply]
  exact serves here

end Messages

section Subscriptions

def subscribePolicy (offer : Offer) (snapshot : Table ChannelId SubscriptionId) :
    BatchPolicy ClientView (SubscriptionId × ChannelId) where
  inBatch := subscribeDecision offer snapshot
  alone entry view := subscribeDecision offer view.subscriptionsByChannel entry view
  refused _ := id

def unsubscribePolicy (offer : Offer) (snapshot : Table ChannelId SubscriptionId) :
    BatchPolicy ClientView SubscriptionId where
  inBatch := unsubscribeDecision offer snapshot
  alone subId view := unsubscribeDecision offer view.subscriptionsByChannel subId view
  refused _ := id

/-- The subscriptions that a request is checked against. -/
theorem clientAt_of_shows (shown : Shows hdl offer view world) :
    ∃ client, clientAt hdl world = (.ok client, world) ∧
      client.subscriptionsByChannel = view.subscriptionsByChannel := by
  obtain ⟨client, found⟩ := (Table.mem_iff_lookup _ _).mp shown.registered
  refine ⟨client, ?_, ?_⟩
  · rw [clientAt_apply, found]
  · rw [← shown.view, clientView_of_found found]

theorem subscribe_shows {frame : ClientFrame} {entries : List (SubscriptionId × ChannelId)}
    (sent : subscribeRequest.Sends setup.config frame entries)
    (shown : Shows hdl offer view world) :
    Shows hdl offer ((subscribePolicy offer view.subscriptionsByChannel).runBatch entries view)
      (handleMessage setup.config hdl frame world).2 := by
  obtain ⟨payload, items, requested, listed, reads⟩ := sent
  apply handleMessage_shows requested
  obtain ⟨client, looked, same⟩ := clientAt_of_shows shown
  change Shows hdl offer _ (handleSubscribe setup.config payload hdl world).2
  change payload.atKey "subscriptions" = _ at listed
  rw [handleSubscribe, bind_ok looked, listed, ofExcept_ok_bind_apply, same]
  exact readEntries_shows (fun here => subscribeEntry_serves here _ _) reads shown

theorem unsubscribe_shows {frame : ClientFrame} {subIds : List SubscriptionId}
    (sent : unsubscribeRequest.Sends setup.config frame subIds)
    (shown : Shows hdl offer view world) :
    Shows hdl offer ((unsubscribePolicy offer view.subscriptionsByChannel).runBatch subIds view)
      (handleMessage setup.config hdl frame world).2 := by
  obtain ⟨payload, items, requested, listed, reads⟩ := sent
  apply handleMessage_shows requested
  obtain ⟨client, looked, same⟩ := clientAt_of_shows shown
  change Shows hdl offer _ (handleUnsubscribe setup.config payload hdl world).2
  change payload.atKey "subscriptionIds" = _ at listed
  rw [handleUnsubscribe, bind_ok looked, listed, ofExcept_ok_bind_apply, same]
  exact readEntries_shows (fun here => unsubscribeEntry_serves here _ _) reads shown

variable (snapshot : Table ChannelId SubscriptionId)

/-- Requests with one entry each look at the subscriptions there are by then. -/
theorem subscribe_each (entries : List (SubscriptionId × ChannelId)) (view : ClientView) :
    entries.foldl (fun reached entry =>
      (subscribePolicy offer reached.subscriptionsByChannel).runBatch [entry] reached) view =
      (subscribePolicy offer snapshot).runEach entries view := by
  congr 1

theorem unsubscribe_each (subIds : List SubscriptionId) (view : ClientView) :
    subIds.foldl (fun reached subId =>
      (unsubscribePolicy offer reached.subscriptionsByChannel).runBatch [subId] reached) view =
      (unsubscribePolicy offer snapshot).runEach subIds view := by
  congr 1

end Subscriptions

section Publications

def advertisePolicy (options : ServerOptions) (offer : Offer) (isFirstPublication : Bool) :
    BatchPolicy ClientView ClientAdvertisement where
  inBatch := advertisingDecision options offer isFirstPublication
  alone := advertisingDecision options offer false
  refused _ := ClientView.openPublishers

def unadvertisePolicy (offer : Offer) : BatchPolicy ClientView ClientChannelId where
  inBatch := unadvertisingDecision offer
  alone := unadvertisingDecision offer
  refused channelId view := view.losePublisher channelId

/-- An advertise message runs the policy on its entries. -/
theorem advertise_shows {frame : ClientFrame} {entries : List ClientAdvertisement}
    (sent : advertiseRequest.Sends setup.config frame entries)
    (shown : Shows hdl offer view world) :
    Shows hdl offer
      ((advertisePolicy setup.config.options offer view.clientChannels.isNone).runBatch
      entries view.openPublications) (handleMessage setup.config hdl frame world).2 := by
  obtain ⟨payload, items, requested, listed, reads⟩ := sent
  apply handleMessage_shows requested
  change Shows hdl offer _ (handleAdvertise setup.config payload hdl world).2
  change payload.atKey "channels" = _ at listed
  have first : decide (hdl ∉ world.server.clientChannels) = view.clientChannels.isNone := by
    rw [← shown.view, Bool.eq_iff_iff, decide_eq_true_iff, Option.isNone_iff_eq_none]
    exact AList.lookup_eq_none.symm
  have opened : Shows hdl offer view.openPublications
      { world with server := world.server.openPublications hdl } := by
    obtain ⟨registered, rfl, rfl⟩ := shown
    refine ⟨registered, ?_, rfl⟩
    unfold clientView ClientView.openPublications ClientView.publications Server.openPublications
    simp only [Table.lookup_emplace, if_true]
  rw [handleAdvertise, gets_bind_apply, first, modifyServer_bind_apply, listed,
    ofExcept_ok_bind_apply]
  apply BatchPolicy.forEach_shows (advertisePolicy _ _ _) (Shows hdl offer)
    (fun {chan advertisement} (read : advertisementOf chan = .ok advertisement) {view world} here =>
      ?_) reads opened
  exact advertiseEntry_serves here _ read

/-- An unadvertise message runs the policy on its ids. -/
theorem unadvertise_shows {frame : ClientFrame} {channelIds : List ClientChannelId}
    (sent : unadvertiseRequest.Sends setup.config frame channelIds)
    (shown : Shows hdl offer view world) :
    Shows hdl offer ((unadvertisePolicy offer).runBatch channelIds view)
      (handleMessage setup.config hdl frame world).2 := by
  obtain ⟨payload, items, requested, listed, reads⟩ := sent
  apply handleMessage_shows requested
  change Shows hdl offer _ (handleUnadvertise setup.config payload hdl world).2
  change payload.atKey "channelIds" = _ at listed
  rw [handleUnadvertise, gets_bind_apply]
  by_cases advertised : hdl ∈ world.server.clientChannels
  · rw [decide_eq_true advertised, if_pos rfl, listed, ofExcept_ok_bind_apply]
    exact readEntries_shows (fun here => unadvertiseEntry_serves here _) reads shown
  · have passes (channelId : ClientChannelId) :
        unadvertisingDecision offer channelId view = .pass := by
      have unpublished : view.publications = ∅ := by
        rw [← shown.view]
        change (world.server.clientChannels.lookup hdl).getD ∅ = ∅
        rw [AList.lookup_eq_none.mpr advertised]
        rfl
      rw [unadvertisingDecision, unpublished]
      exact if_pos (AList.notMem_empty channelId)
    rw [BatchPolicy.runBatch_of_pass fun channelId _ => passes channelId,
      decide_eq_false advertised,
      if_neg Bool.false_ne_true, sendStatusAndLogMsg_apply]
    exact shown.enqueue hdl _

/-- Whether a request is the first of a client makes no difference for its first entry. -/
theorem advertise_first (options : ServerOptions) (advertisement : ClientAdvertisement)
    (view : ClientView) :
    advertisingDecision options offer view.clientChannels.isNone advertisement
        view.openPublications =
      advertisingDecision options offer false advertisement view.openPublications := by
  cases opened : view.clientChannels with
  | some publications => rfl
  | none =>
    have unpublished : advertisement.channelId ∉ view.openPublications.publications := by
      change advertisement.channelId ∉ view.clientChannels.getD ∅
      rw [opened]
      exact AList.notMem_empty _
    unfold advertisingDecision
    simp [unpublished]

end Publications

end CoBridge.Ros2
