import CoBridge.Library.Registry
import CoBridge.Ros2.Node

/-!
# Topic updates and the JSON library

A schema is the contents of a file, so it need not be text, and the JSON library
throws at a string that is not UTF-8 after the server entered the channels. Where every
string passes, the tables of the server and of the bridge change together.
-/

namespace CoBridge.Ros2

open Library Action

variable {Rest : Type}
variable {channels : List ChannelWithoutId}

/-- Every string of the channels can be written. -/
def Writable (check : TextCheck) (channels : List ChannelWithoutId) : Prop :=
  ∀ channel ∈ channels, ∀ text ∈ channel.texts, check text = .ok ()

theorem Writable.dumpTexts {check : TextCheck} (writable : Writable check channels) :
    dumpTexts check (channels.flatMap ChannelWithoutId.texts) = .ok () := by
  apply dumpTexts_ok
  intro text member
  obtain ⟨channel, among, listed⟩ := List.mem_flatMap.mp member
  exact writable channel among text listed

/-- The tables of the bridge and of the server that list channels. -/
structure ChannelTables where
  advertised : Registry ChannelWithoutId
  channels : Table ChannelId Channel

def channelTables (world : World (Bridge Rest)) : ChannelTables :=
  ⟨⟨world.bridge.advertisedTopics, world.server.nextChannelId⟩, world.server.channels⟩

def topicOf (channel : ChannelWithoutId) : TopicAndDatatype := (channel.topic, channel.schemaName)

/-- Registering channels in the server and then entering them in the bridge is to
enter them one at a time in both. -/
theorem registerChannels_enterAll (channels : List ChannelWithoutId) (server : Server)
    (advertised : Table ChannelId ChannelWithoutId)
    (mirrors : Mirrors Channel.toChannelWithoutId advertised server.channels) :
    let registered := server.registerChannels channels
    let entered := ((registered.1.map Channel.id).zip channels).foldl
      (fun table channel => table.emplace channel.1 channel.2) advertised
    (⟨entered, registered.2.nextChannelId⟩ : Registry ChannelWithoutId) =
        Registry.enterAll channels ⟨advertised, server.nextChannelId⟩ ∧
      Mirrors Channel.toChannelWithoutId entered registered.2.channels := by
  induction channels generalizing server advertised with
  | nil => exact ⟨rfl, mirrors⟩
  | cons channel rest ih =>
    let newChannel : Channel := { channel with id := server.nextChannelId + 1 }
    exact ih
      { server with
        nextChannelId := server.nextChannelId + 1
        channels := server.channels.emplace (server.nextChannelId + 1) newChannel }
      (advertised.emplace (server.nextChannelId + 1) channel)
      (mirrors.emplace (server.nextChannelId + 1) newChannel)

section Exchange

variable {world : World (Bridge Rest)}

/-- The bridge and the server after the channels of vanished topics were removed. -/
theorem removeChannels_tables (channelIds : List ChannelId) (world : World (Bridge Rest)) :
    ∃ reached, removeChannels channelIds
        { world with bridge := world.bridge.retire channelIds } = (.ok (), reached) ∧
      reached.bridge = world.bridge.retire channelIds ∧
      channelTables reached =
        ⟨(channelTables world).advertised.giveUp channelIds,
          (channelTables world).channels.eraseAll channelIds⟩ := by
  by_cases empty : channelIds = []
  · subst empty
    exact ⟨_, rfl, rfl, rfl⟩
  · refine ⟨_, removeChannels_apply empty _, ?_, ?_⟩
    · rw [World.enqueueAll_bridge]
    · simp only [channelTables, World.enqueueAll_bridge, World.enqueueAll_server]
      rfl

/-- The tables after channels were added to the server and entered in the bridge. -/
theorem addChannels_tables {check : TextCheck} (writable : Writable check channels)
    (mirrors : Mirrors Channel.toChannelWithoutId (channelTables world).advertised.held
      (channelTables world).channels) :
    ∃ ids reached, addChannels check channels world = (.ok ids, reached) ∧
      (channelTables { reached with
        bridge := reached.bridge.advertise (ids.zip channels) }).advertised =
          (channelTables world).advertised.enterAll channels ∧
      Mirrors Channel.toChannelWithoutId
        (channelTables { reached with
          bridge := reached.bridge.advertise (ids.zip channels) }).advertised.held
        (channelTables reached).channels := by
  by_cases empty : channels = []
  · subst empty
    exact ⟨[], world, rfl, rfl, mirrors⟩
  · refine ⟨_, _, addChannels_apply empty writable.dumpTexts world, ?_⟩
    simp only [channelTables, World.enqueueAll_bridge, World.enqueueAll_server, Bridge.advertise]
    exact registerChannels_enterAll channels world.server world.bridge.advertisedTopics mirrors

/-- The channels an update adds, after it forgot those of vanished topics. -/
def Bridge.missingChannels (bridge : Bridge Rest) (latest : KeySet TopicAndDatatype) :
    List ChannelWithoutId :=
  (bridge.retire (bridge.channelIdsToRemove latest)).channelsToAdd latest

/-- An update gives up the channels of vanished topics and enters the missing ones,
and the server's table goes along. -/
theorem exchangeChannels_tables {check : TextCheck} {latest : KeySet TopicAndDatatype}
    (world : World (Bridge Rest)) (writable : Writable check (world.bridge.missingChannels latest))
    (mirrors : Mirrors Channel.toChannelWithoutId (channelTables world).advertised.held
      (channelTables world).channels) :
    ∃ reached, exchangeChannels check latest world = (.ok (), reached) ∧
      (channelTables reached).advertised =
        ((channelTables world).advertised.giveUp (world.bridge.channelIdsToRemove latest)).enterAll
          (world.bridge.missingChannels latest) ∧
      Mirrors Channel.toChannelWithoutId (channelTables reached).advertised.held
        (channelTables reached).channels := by
  let channelIds := world.bridge.channelIdsToRemove latest
  let channels := world.bridge.missingChannels latest
  obtain ⟨removed, removes, bridge, tables⟩ := removeChannels_tables channelIds world
  have stillMirrors : Mirrors Channel.toChannelWithoutId (channelTables removed).advertised.held
      (channelTables removed).channels := by
    rw [tables]
    exact mirrors.eraseAll channelIds
  obtain ⟨ids, added, adds, advertised, mirrored⟩ :=
    addChannels_tables writable stillMirrors
  refine ⟨{ added with bridge := added.bridge.advertise (ids.zip channels) }, ?_, ?_, mirrored⟩
  · rw [exchangeChannels, gets_bind_apply, modifyBridge, modify_bind_apply,
      bind_ok removes, gets_bind_apply, bridge]
    change (addChannels check channels >>= _) removed = _
    rw [bind_ok adds]
    rfl
  · rw [advertised, tables]

end Exchange

end CoBridge.Ros2
