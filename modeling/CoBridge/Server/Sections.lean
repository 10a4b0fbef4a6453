import CoBridge.Library.Pool
import CoBridge.Server.Requests

/-!
# The server's critical sections

The requests and calls that run concurrently, cut at the mutexes the source
takes. Each program is named after its function, and run without interruption
it is that function.
-/

namespace CoBridge

open Library

variable {Bridge : Type}

/-- The critical sections, with what a schedule has to know about them. -/
inductive Section where
  | readClient (hdl : ConnHandle)
  | findChannel (channelId : ChannelId)
  | subscribe (channelId : ChannelId) (hdl : ConnHandle)
  | unsubscribe (channelId : ChannelId) (hdl : ConnHandle)
  | recordSubscription (channelId : ChannelId) (hdl : ConnHandle)
  | forgetSubscription (channelId : ChannelId) (hdl : ConnHandle)
  | takeClient (hdl : ConnHandle)
  | unadvertise (channelId : ClientChannelId) (hdl : ConnHandle)
  | eraseClientChannels (hdl : ConnHandle)
  | takeParamSubscriptions (hdl : ConnHandle)
  | releaseParams (hdl : ConnHandle)
  | releaseConnectionGraph
  | registerClient (hdl : ConnHandle)
  | sendServerInfo (hdl : ConnHandle)
  | readChannels
  | sendChannels (hdl : ConnHandle) (channels : List Channel)
  | readServices
  | sendServices (hdl : ConnHandle)
  | sendStatus (hdl : ConnHandle)
  | registerChannels
  | announceChannels (channels : List Channel)
  | eraseChannels (channelIds : List ChannelId)
  | announceRemoval (channelIds : List ChannelId)
  | readTopics
  | retireTopics
  | selectTopics
  | advertiseTopics

/-- Server code cut into sections. -/
abbrev ServerProgram (Bridge Value : Type) : Type := Program Section (World Bridge) Fault Value

open Program in
def subscribeEntrySections (config : Config Bridge) (hdl : ConnHandle)
    (subscriptionsByChannel : Table ChannelId SubscriptionId)
    (entry : SubscriptionId × ChannelId) : ServerProgram Bridge Unit := do
  let available ← perform (.findChannel entry.2)
    (Action.gets fun world => decide (entry.2 ∈ world.server.channels))
  if (findSubscriptionBySubId subscriptionsByChannel entry.1).isSome then
    perform (.sendStatus hdl) (sendStatusAndLogMsg hdl .error
      ("Client subscription id " ++ toString entry.1 ++ " was already used; ignoring subscription"))
  else if ¬available then
    perform (.sendStatus hdl) (sendStatusAndLogMsg hdl .warning
      ("Channel " ++ toString entry.2 ++ " is not available; ignoring subscription"))
  else
    perform (.subscribe entry.2 hdl) (callHandler config (.subscribe entry.2 hdl))
    perform (.recordSubscription entry.2 hdl)
      (updateClient hdl (ClientInfo.addSubscription entry.2 entry.1))

open Program in
def handleSubscribeSections (config : Config Bridge) (payload : Json) (hdl : ConnHandle) :
    ServerProgram Bridge Unit := do
  let client ← perform (.readClient hdl) (clientAt hdl)
  let subscriptions ← ofExcept (payload.atKey "subscriptions")
  forEach subscriptions.elements fun sub => do
    let entry ← ofExcept (subscriptionEntry sub)
    subscribeEntrySections config hdl client.subscriptionsByChannel entry

open Program in
def unsubscribeEntrySections (config : Config Bridge) (hdl : ConnHandle)
    (subscriptionsByChannel : Table ChannelId SubscriptionId) (subId : SubscriptionId) :
    ServerProgram Bridge Unit :=
  match findSubscriptionBySubId subscriptionsByChannel subId with
  | none => perform (.sendStatus hdl) (sendStatusAndLogMsg hdl .warning
      ("Client subscription id " ++ toString subId ++ " did not exist; ignoring unsubscription"))
  | some chanId => do
    perform (.unsubscribe chanId hdl) (callHandler config (.unsubscribe chanId hdl))
    perform (.forgetSubscription chanId hdl)
      (updateClient hdl (ClientInfo.removeSubscription chanId))

open Program in
def handleUnsubscribeSections (config : Config Bridge) (payload : Json) (hdl : ConnHandle) :
    ServerProgram Bridge Unit := do
  let client ← perform (.readClient hdl) (clientAt hdl)
  let subscriptionIds ← ofExcept (payload.atKey "subscriptionIds")
  forEach subscriptionIds.elements fun subIdJson => do
    let subId ← ofExcept subIdJson.getUInt32
    unsubscribeEntrySections config hdl client.subscriptionsByChannel subId

/-- Look a client up and erase its record. -/
def takeClient (hdl : ConnHandle) : ServerAction Bridge (Option ClientInfo) := do
  match ← Action.gets fun world => world.server.clients.lookup hdl with
  | none => pure none
  | some client =>
    modifyServer (Server.eraseClient hdl)
    pure (some client)

/-- Read and erase the parameter subscriptions of a connection. -/
def takeParamSubscriptions (hdl : ConnHandle) : ServerAction Bridge (KeySet String) := do
  let names ← Action.gets fun world => world.server.paramSubscriptions hdl
  modifyServer (Server.eraseParamSubscriptions hdl)
  pure names

open Program in
def unadvertiseChannelsSections (config : Config Bridge) (hdl : ConnHandle)
    (channelIds : List ClientChannelId) : ServerProgram Bridge Unit :=
  forEach channelIds fun channelId => perform (.unadvertise channelId hdl)
    (if config.handlers.clientUnadvertiseHandler.isSome then
      callHandlerLogged config (.clientUnadvertise channelId hdl)
    else
      pure ())

open Program in
def unsubscribeChannelsSections (config : Config Bridge) (hdl : ConnHandle)
    (channelIds : List ChannelId) : ServerProgram Bridge Unit :=
  if config.handlers.unsubscribeHandler.isSome then
    forEach channelIds fun channelId =>
      perform (.unsubscribe channelId hdl) (callHandlerLogged config (.unsubscribe channelId hdl))
  else
    pure ()

open Program in
def releaseClientSections (config : Config Bridge) (hdl : ConnHandle) (client : ClientInfo) :
    ServerProgram Bridge Unit := do
  unadvertiseChannelsSections config hdl client.advertisedChannels.keys
  perform (.eraseClientChannels hdl) (modifyServer (Server.eraseClientChannels hdl))
  unsubscribeChannelsSections config hdl client.subscriptionsByChannel.keys
  let names ← perform (.takeParamSubscriptions hdl) (takeParamSubscriptions hdl)
  perform (.releaseParams hdl) (unsubscribeParamsWithoutSubscriptions config hdl names.keys)

open Program in
def handleConnectionClosedSections (config : Config Bridge) (hdl : ConnHandle) :
    ServerProgram Bridge Unit := do
  match ← perform (.takeClient hdl) (takeClient hdl) with
  | none => pure ()
  | some client =>
    releaseClientSections config hdl client
    if client.subscribedToConnectionGraph then
      perform .releaseConnectionGraph (releaseConnectionGraph config)

open Program in
def loginReplySections (config : Config Bridge) (hdl : ConnHandle) : ServerProgram Bridge Unit := do
  perform (.sendServerInfo hdl) (sendServerInfo config hdl)
  let channels ← perform .readChannels (Action.gets fun world => world.server.channels.values)
  perform (.sendChannels hdl channels)
    (sendJson hdl (.advertise channels) (dumpChannels config.dump channels))
  let services ← perform .readServices (Action.gets fun world => world.server.serviceList)
  perform (.sendServices hdl)
    (sendJson hdl (.advertiseServices services) (dumpServices config.dump services))

open Program in
def handleLoginSections (config : Config Bridge) (payload : Json) (hdl : ConnHandle) :
    ServerProgram Bridge Unit := do
  let userName ← ofExcept (payload.atKey "username" >>= Json.getString)
  let userId ← ofExcept (payload.atKey "userId" >>= Json.getString)
  perform (.registerClient hdl) (admitClient userName userId hdl)
  loginReplySections config hdl

open Program in
/-- The outcome is a value, so that a caller with a lock can give it back before it
lets an exception of `addChannels` go on. -/
def addChannelsSections (check : TextCheck) (channels : List ChannelWithoutId) :
    ServerProgram Bridge (Except Fault (List ChannelId)) := do
  if channels.isEmpty then
    pure (.ok [])
  else
    let newChannels ← perform .registerChannels (registerChannels channels)
    perform (.announceChannels newChannels) (announceChannels check newChannels).attempt

open Program in
def removeChannelsSections (channelIds : List ChannelId) : ServerProgram Bridge Unit := do
  if channelIds.isEmpty then
    pure ()
  else
    perform (.eraseChannels channelIds) (modifyServer (Server.eraseChannels channelIds))
    perform (.announceRemoval channelIds) (announceRemoval channelIds)

section Run

variable (config : Config Bridge) (payload : Json) (hdl : ConnHandle)

/-- The sections of a subscribe request, run in one go. -/
theorem handleSubscribeSections_run :
    (handleSubscribeSections config payload hdl).run = handleSubscribe config payload hdl := by
  simp [handleSubscribeSections, handleSubscribe, subscribeEntrySections, subscribeEntry]

/-- The sections of an unsubscribe request, run in one go. -/
theorem handleUnsubscribeSections_run :
    (handleUnsubscribeSections config payload hdl).run = handleUnsubscribe config payload hdl := by
  have entry (subscriptions : Table ChannelId SubscriptionId) (subId : SubscriptionId) :
      (unsubscribeEntrySections config hdl subscriptions subId).run =
        unsubscribeEntry config hdl subscriptions subId := by
    unfold unsubscribeEntrySections unsubscribeEntry
    rcases findSubscriptionBySubId subscriptions subId with _ | chanId <;> simp
  simp [handleUnsubscribeSections, handleUnsubscribe, entry]

theorem releaseClientSections_run (client : ClientInfo) :
    (releaseClientSections config hdl client).run = releaseClient config hdl client := by
  simp [releaseClientSections, releaseClient, unadvertiseChannelsSections, unadvertiseChannels,
    unsubscribeChannelsSections, unsubscribeChannels, takeParamSubscriptions]

/-- The sections of a disconnect, run in one go. -/
theorem handleConnectionClosedSections_run :
    (handleConnectionClosedSections config hdl).run = handleConnectionClosed config hdl := by
  simp only [handleConnectionClosedSections, handleConnectionClosed, takeClient,
    Program.run_bind, Program.run_perform, bind_assoc]
  congr 1
  funext found
  cases found with
  | none => simp
  | some client => simp [releaseClientSections_run]

/-- The sections of a login, run in one go. -/
theorem handleLoginSections_run :
    (handleLoginSections config payload hdl).run = handleLogin config payload hdl := by
  simp [handleLoginSections, handleLogin, loginReplySections, loginReply, sendServices]

/-- An exception of the dump is handed to the caller. -/
theorem addChannelsSections_run (check : TextCheck) (channels : List ChannelWithoutId) :
    (addChannelsSections check channels : ServerProgram Bridge _).run =
      (addChannels check channels).attempt := by
  unfold addChannelsSections addChannels
  split <;> rfl

/-- The sections of `removeChannels`, run in one go. -/
theorem removeChannelsSections_run (channelIds : List ChannelId) :
    (removeChannelsSections channelIds : ServerProgram Bridge _).run =
      removeChannels channelIds := by
  simp [removeChannelsSections, removeChannels]

end Run

end CoBridge
