import CoBridge.Properties.BinaryParsing

/-!
# Publish frames on hosts of either byte order

The client writes the id of a channel with the least significant byte first, and the server
loads it in the order of its host. On a big-endian host a message therefore arrives under
another id, unless the bytes of the id read the same in both directions.
-/

namespace CoBridge

open Library

/-- What is published under an id is looked up under it, and delivered as it is, by every
server of a host that takes messages of clients. -/
def PublishedUnder (host : ByteOrder) (channelId : ClientChannelId) (buffer : List UInt8) : Prop :=
  ∃ data, Client.publish host channelId buffer = some data ∧
    ∀ (Bridge : Type) (config : Config Bridge) (world : World Bridge) (hdl : ConnHandle),
      hasCapability config capabilityClientPublish →
      config.handlers.clientMessageHandler.isSome →
      (channelId ∉ world.server.publications hdl →
        (handleBinaryMessageOn host config hdl data world).2.calls = world.calls) ∧
      ∀ advertisement, (world.server.publications hdl).lookup channelId = some advertisement →
        ∃ message, (handleBinaryMessageOn host config hdl data world).2.calls =
            world.calls ++ [.clientMessage message hdl] ∧
          message.advertisement = advertisement ∧ message.getData = buffer ∧
          message.getLength = UInt64.ofNat buffer.length

variable {host : ByteOrder} {channelId : ClientChannelId} {buffer : List UInt8}

/-- The id under which the host looks up a frame of the client. -/
theorem hostChannelId_frame :
    hostChannelId host ([1] ++ wordBytes channelId ++ buffer) =
      littleWord (host.arrange (wordBytes channelId)) := by
  rw [hostChannelId, List.append_assoc, List.singleton_append, List.drop_one, List.tail_cons,
    List.take_left' (length_wordBytes channelId)]

theorem publishedUnder_of_hostChannelId
    (same : littleWord (host.arrange (wordBytes channelId)) = channelId) :
    PublishedUnder host channelId buffer := by
  refine ⟨_, Client.publish_eq host channelId buffer, fun Bridge config world hdl capable
    registered => ?_⟩
  have looked : hostChannelId host ([1] ++ wordBytes channelId ++ buffer) = channelId :=
    hostChannelId_frame.trans same
  have parsed : Parsed host config world hdl ([1] ++ wordBytes channelId ++ buffer) _ :=
    handleBinaryMessage_parsed
  refine ⟨fun unknown => ?_, fun advertisement advertised => ?_⟩
  · cases parsed with
    | called asks =>
      cases asks with
      | message _ _ _ _ advertised =>
        rw [looked] at advertised
        exact absurd (Table.mem_of_lookup advertised) unknown
      | service opcode => simp at opcode
    | refused _ refused => exact refused.calls
  · rw [← looked] at advertised
    refine ⟨⟨world.now, world.now, 0, advertisement, _, _⟩, (parsed.calls_iff _).mpr
      (.message rfl capable registered (by simp) advertised), rfl, ?_, ?_⟩
    · exact List.drop_left' (by simp [ClientMessage.msgPayloadOffset])
    · have length : ([1] ++ wordBytes channelId ++ buffer).length = 5 + buffer.length := by
        simp only [List.length_append, length_wordBytes, List.length_singleton]
      rw [ClientMessage.getLength, length, ClientMessage.msgPayloadOffset,
        ← UInt64.ofNat_sub (by omega), Nat.add_sub_cancel_left]

/-- A connection that advertised one channel. -/
def advertisedWorld (channelId : ClientChannelId) : World Unit :=
  { World.initial () with server := { Server.initial with
      clientChannels := (∅ : Table ConnHandle _).insert ⟨1⟩
        ((∅ : Table ClientChannelId _).insert channelId ⟨channelId, "t", "json", "", []⟩) } }

/-- A server that takes messages of clients. -/
def publishingConfig : Config Unit :=
  { Config.accepting with options := ⟨[capabilityClientPublish], [], [], "", []⟩ }

theorem advertisedWorld_lookup (other : ClientChannelId) :
    ((advertisedWorld channelId).server.publications ⟨1⟩).lookup other =
      if other = channelId then some ⟨channelId, "t", "json", "", []⟩ else none := by
  simp only [advertisedWorld, Server.publications, AList.lookup_insert, Option.getD_some,
    Table.lookup_insert_ite, AList.lookup_empty]

/-- A host that looks a message up under another id does not deliver it. -/
theorem hostChannelId_of_publishedUnder (published : PublishedUnder host channelId buffer) :
    littleWord (host.arrange (wordBytes channelId)) = channelId := by
  obtain ⟨data, sent, delivered⟩ := published
  obtain rfl := Option.some.inj ((Client.publish_eq host channelId buffer).symm.trans sent)
  obtain ⟨message, called, _⟩ := (delivered Unit publishingConfig (advertisedWorld channelId) ⟨1⟩
    (by decide) rfl).2 _ (by rw [advertisedWorld_lookup, if_pos rfl])
  have parsed : Parsed host publishingConfig (advertisedWorld channelId) ⟨1⟩
      ([1] ++ wordBytes channelId ++ buffer) _ := handleBinaryMessage_parsed
  cases (parsed.calls_iff _).mp called with
  | message _ _ _ _ advertised =>
    rw [advertisedWorld_lookup, hostChannelId_frame] at advertised
    by_contra other
    simp [other] at advertised

/-- A message is published under its id and delivered as it is exactly on the hosts that have
the least significant byte first, and on the others for the ids whose bytes read the same in
both directions. -/
theorem published_under_iff (host : ByteOrder) (channelId : ClientChannelId)
    (buffer : List UInt8) :
    PublishedUnder host channelId buffer ↔
      (host = .bigEndian → (wordBytes channelId).reverse = wordBytes channelId) := by
  constructor
  · rintro published rfl
    have same := congrArg wordBytes (hostChannelId_of_publishedUnder published)
    rwa [wordBytes_littleWord (by simp [ByteOrder.arrange])] at same
  · intro symmetric
    apply publishedUnder_of_hostChannelId
    cases host with
    | littleEndian => exact littleWord_wordBytes channelId
    | bigEndian => rw [ByteOrder.arrange, symmetric rfl, littleWord_wordBytes]

/-- On a big-endian host a message for channel 1 is looked up under 16777216. -/
theorem published_under_other_id :
    Client.publish .bigEndian 1 [42] = some [1, 1, 0, 0, 0, 42] ∧
      hostChannelId .bigEndian [1, 1, 0, 0, 0, 42] = 16777216 ∧
      ((handleBinaryMessageOn .bigEndian publishingConfig ⟨1⟩ [1, 1, 0, 0, 0, 42]
        (advertisedWorld 1)).2.calls).length = 0 ∧ ¬PublishedUnder .bigEndian 1 [42] := by
  refine ⟨by decide +kernel, by decide +kernel, by decide +kernel, fun published => ?_⟩
  exact absurd (hostChannelId_of_publishedUnder published) (by decide +kernel)

end CoBridge
