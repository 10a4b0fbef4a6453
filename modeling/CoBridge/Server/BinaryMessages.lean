import CoBridge.Library.Memory
import CoBridge.Server.Effects

/-!
# Binary frames as the code reads and writes them

`write_uint32_LE`, `read_uint32_LE` and the frames of service calls, with every access to
memory checked, for hosts of either byte order. `ServiceResponse.read_eq` connects them with
the reader of the server model.
-/

namespace CoBridge

open Library

/-- An access outside of its block is undefined. -/
def checked {Value : Type} : Option Value → Except Fault Value
  | some value => .ok value
  | none => .error .undefinedBehavior

namespace Serialization

/-- `write_uint32_LE`, byte by byte where `ARCH_IS_BIG_ENDIAN` is defined. -/
def writeUInt32LE (host : ByteOrder) (buf : List UInt8) (offset : Nat) (val : UInt32) :
    Option (List UInt8) :=
  match host with
  | .bigEndian => do
    let buf ← store buf offset [(val &&& 0xff).toUInt8]
    let buf ← store buf (offset + 1) [((val >>> 8) &&& 0xff).toUInt8]
    let buf ← store buf (offset + 2) [((val >>> 16) &&& 0xff).toUInt8]
    store buf (offset + 3) [((val >>> 24) &&& 0xff).toUInt8]
  | .littleEndian => host.storeWord buf offset val

/-- `read_uint32_LE`. -/
def readUInt32LE (host : ByteOrder) (buf : List UInt8) (offset : Nat) : Option UInt32 :=
  match host with
  | .bigEndian => do
    let b0 ← buf[offset]?
    let b1 ← buf[offset + 1]?
    let b2 ← buf[offset + 2]?
    let b3 ← buf[offset + 3]?
    some (b0.toUInt32 ||| (b1.toUInt32 <<< 8) ||| (b2.toUInt32 <<< 16) |||
      (b3.toUInt32 <<< 24))
  | .littleEndian => host.loadWord buf offset

/-- The lowest byte of a word. -/
theorem lowByte_eq (word : UInt32) : (word &&& 0xff).toUInt8 = UInt8.ofNat word.toNat := by
  apply UInt8.toNat_inj.mp
  have low : word.toNat &&& 255 = word.toNat % 256 := Nat.and_two_pow_sub_one_eq_mod word.toNat 8
  rw [UInt32.toNat_toUInt8, UInt32.toNat_and, show UInt32.toNat 0xff = 255 from rfl, low,
    UInt8.toNat_ofNat']
  omega

/-- The bytes that are picked out of a word. -/
theorem wordBytes_eq (val : UInt32) :
    wordBytes val = [(val &&& 0xff).toUInt8, ((val >>> 8) &&& 0xff).toUInt8,
      ((val >>> 16) &&& 0xff).toUInt8, ((val >>> 24) &&& 0xff).toUInt8] := by
  have shifted (shift : UInt32) (small : shift.toNat < 32) :
      (val >>> shift).toNat = val.toNat / 2 ^ shift.toNat := by
    rw [UInt32.toNat_shiftRight, Nat.mod_eq_of_lt small, Nat.shiftRight_eq_div_pow]
  rw [lowByte_eq, lowByte_eq, lowByte_eq, lowByte_eq, shifted 8 (by decide),
    shifted 16 (by decide), shifted 24 (by decide)]
  simp [wordBytes, littleBytes, Nat.div_div_eq_div_mul]

/-- A byte is put above the bits of a word. -/
theorem toNat_or_shift {low shift : UInt32} (byte : UInt8) (bits : Nat)
    (amount : shift.toNat = bits) (room : bits + 8 ≤ 32) (small : low.toNat < 2 ^ bits) :
    (low ||| (byte.toUInt32 <<< shift)).toNat = low.toNat + 2 ^ bits * byte.toNat := by
  have fits : byte.toNat <<< bits < 2 ^ 32 := by
    rw [Nat.shiftLeft_eq]
    calc byte.toNat * 2 ^ bits < 2 ^ 8 * 2 ^ bits :=
          Nat.mul_lt_mul_of_pos_right byte.toNat_lt (Nat.two_pow_pos _)
      _ = 2 ^ (bits + 8) := by rw [← Nat.pow_add, Nat.add_comm]
      _ ≤ 2 ^ 32 := Nat.pow_le_pow_right (by omega) room
  rw [UInt32.toNat_or, UInt32.toNat_shiftLeft, UInt8.toNat_toUInt32, amount,
    Nat.mod_eq_of_lt (show bits < 32 by omega), Nat.mod_eq_of_lt fits, Nat.or_comm,
    ← Nat.shiftLeft_add_eq_or_of_lt small, Nat.shiftLeft_eq, Nat.add_comm, Nat.mul_comm]

/-- Bytes that are shifted into place. -/
theorem littleWord_eq (b0 b1 b2 b3 : UInt8) :
    b0.toUInt32 ||| (b1.toUInt32 <<< 8) ||| (b2.toUInt32 <<< 16) ||| (b3.toUInt32 <<< 24) =
      littleWord [b0, b1, b2, b3] := by
  have small0 : b0.toNat < 2 ^ 8 := b0.toNat_lt
  have small1 : b1.toNat < 2 ^ 8 := b1.toNat_lt
  have small2 : b2.toNat < 2 ^ 8 := b2.toNat_lt
  have small3 : b3.toNat < 2 ^ 8 := b3.toNat_lt
  have one : b0.toUInt32.toNat = b0.toNat := UInt8.toNat_toUInt32 b0
  have two := toNat_or_shift b1 8 (show UInt32.toNat 8 = 8 from rfl) (by omega)
    (show b0.toUInt32.toNat < 2 ^ 8 by omega)
  have three := toNat_or_shift b2 16 (show UInt32.toNat 16 = 16 from rfl) (by omega)
    (show (b0.toUInt32 ||| (b1.toUInt32 <<< 8)).toNat < 2 ^ 16 by omega)
  have four := toNat_or_shift b3 24 (show UInt32.toNat 24 = 24 from rfl) (by omega)
    (show (b0.toUInt32 ||| (b1.toUInt32 <<< 8) ||| (b2.toUInt32 <<< 16)).toNat < 2 ^ 24 by omega)
  apply UInt32.toNat_inj.mp
  rw [four, three, two, one, littleWord, UInt32.toNat_ofNat']
  simp only [littleValue_cons, littleValue_nil]
  omega

/-- Every host writes the least significant byte first. -/
theorem writeUInt32LE_eq (host : ByteOrder) (buf : List UInt8) (offset : Nat) (val : UInt32) :
    writeUInt32LE host buf offset val = store buf offset (wordBytes val) := by
  cases host with
  | littleEndian => rfl
  | bigEndian =>
    have pieces (buf piece : List UInt8) (byte : UInt8) (offset : Nat) :
        ((store buf offset [byte]).bind fun next => store next (offset + 1) piece) =
          store buf offset (byte :: piece) := store_bind_store rfl
    rw [wordBytes_eq]
    simp only [writeUInt32LE, Option.bind_eq_bind, pieces]

/-- Every host reads the least significant byte first. -/
theorem readUInt32LE_eq (host : ByteOrder) (buf : List UInt8) (offset : Nat) :
    readUInt32LE host buf offset = (load buf offset 4).map littleWord := by
  cases host with
  | littleEndian => rfl
  | bigEndian =>
    simp only [readUInt32LE, load_succ, littleWord_eq, Option.bind_eq_bind]
    rcases buf[offset]? with _ | b0
    · rfl
    rcases buf[offset + 1]? with _ | b1
    · rfl
    rcases buf[offset + 2]? with _ | b2
    · rfl
    cases last : buf[offset + 3]? with
    | none => rfl
    | some b3 =>
      have inside := (List.getElem?_eq_some_iff.mp last).1
      rw [show offset + 1 + 1 + 1 + 1 = offset + 4 by omega, load_zero (by omega)]
      rfl

/-- A word of a frame. -/
theorem readUInt32LE_piece {host : ByteOrder} {data : List UInt8} {offset : Nat} {field : UInt32}
    (before after : List UInt8) (split : data = before ++ wordBytes field ++ after)
    (offsets : offset = before.length) : readUInt32LE host data offset = some field := by
  rw [readUInt32LE_eq, load_piece before after split offsets (by simp), Option.map_some,
    littleWord_wordBytes]

end Serialization

/-- The struct of service calls in both directions; the source has `ServiceRequest` for
another name of it. -/
abbrev ServiceResponse := ServiceRequest

namespace ServiceResponse

def size (response : ServiceResponse) : Nat :=
  4 + 4 + 4 + response.encoding.length + response.servData.length

/-- `ServiceResponse::read`. -/
def read (host : ByteOrder) (data : List UInt8) : Except Fault ServiceResponse :=
  if data.length < 12 then
    .error (.raised (.std ("ServiceResponse message too short: " ++ toString data.length ++
      " bytes (minimum 12)")))
  else do
    let serviceId ← checked (Serialization.readUInt32LE host data 0)
    let callId ← checked (Serialization.readUInt32LE host data 4)
    let encodingLength := (← checked (Serialization.readUInt32LE host data 8)).toNat
    if 256 < encodingLength then
      .error (.raised (.std ("ServiceResponse encoding length too large: " ++
        toString encodingLength ++ " bytes (max 256)")))
    else if data.length < 12 + encodingLength then
      .error (.raised (.std ("ServiceResponse encoding length " ++ toString encodingLength ++
        " exceeds remaining data " ++ toString (data.length - 12) ++ " bytes")))
    else do
      let encoding ← checked (load data 12 encodingLength)
      let offset := 12 + encodingLength
      if data.length < offset then
        .error (.raised (.std ("ServiceResponse offset " ++ toString offset ++
          " exceeds data length " ++ toString data.length)))
      else do
        let servData ← checked (load data offset (data.length - offset))
        return { serviceId, callId, encoding, servData }

/-- `ServiceResponse::write`. -/
def write (host : ByteOrder) (response : ServiceResponse) (data : List UInt8) :
    Option (List UInt8) := do
  let data ← Serialization.writeUInt32LE host data 0 response.serviceId
  let data ← Serialization.writeUInt32LE host data 4 response.callId
  let data ← Serialization.writeUInt32LE host data 8 (UInt32.ofNat response.encoding.length)
  let data ← store data 12 response.encoding
  store data (12 + response.encoding.length) response.servData

/-- The bytes of a frame, one field after the other. -/
def frame (response : ServiceResponse) : List UInt8 :=
  wordBytes response.serviceId ++ wordBytes response.callId ++
    wordBytes (UInt32.ofNat response.encoding.length) ++ response.encoding ++ response.servData

theorem length_frame (response : ServiceResponse) : response.frame.length = response.size := by
  simp only [frame, size, List.length_append, length_wordBytes]

/-- `write` fills a block of the size of the frame. -/
theorem write_eq {host : ByteOrder} {response : ServiceResponse} {data : List UInt8}
    (sized : data.length = response.size) : write host response data = some response.frame := by
  simp only [write, Serialization.writeUInt32LE_eq, Option.bind_eq_bind, ← Option.bind_assoc]
  rw [store_bind_store (by simp), store_bind_store (by simp), store_bind_store (by simp),
    store_bind_store (by simp only [List.length_append, length_wordBytes]; omega)]
  exact store_all (sized.trans response.length_frame.symm)

end ServiceResponse

/-- The reader of the server model reads the least significant byte first. -/
theorem readUInt32LE_eq_littleWord {data : List UInt8} (four : 4 ≤ data.length) :
    readUInt32LE data = littleWord (data.take 4) := by
  match data, four with
  | b0 :: b1 :: b2 :: b3 :: _, _ => exact Serialization.littleWord_eq b0 b1 b2 b3

/-- No access of `read` leaves the data, and it is the reader of the server model. -/
theorem ServiceResponse.read_eq (host : ByteOrder) (data : List UInt8) :
    ServiceResponse.read host data = ServiceRequest.read data := by
  unfold ServiceResponse.read ServiceRequest.read
  by_cases short : data.length < 12
  · simp [short]
  have word {offset : Nat} (fits : offset + 4 ≤ data.length) :
      Serialization.readUInt32LE host data offset = some (readUInt32LE (data.drop offset)) := by
    rw [Serialization.readUInt32LE_eq, load_eq_some fits, Option.map_some,
      readUInt32LE_eq_littleWord (by simp; omega)]
  rw [if_neg short, if_neg short, word (by omega), word (by omega), word (by omega)]
  refine ite_congr rfl (fun _ => rfl) fun _ => ite_congr rfl (fun _ => rfl) fun long => ?_
  rw [load_eq_some (by omega)]
  change (if _ then _ else _) = _
  rw [if_neg long, load_eq_some (by omega), List.take_of_length_le (by simp)]
  rfl

/-!
## Frames of the websocket client

The binary frames that `Client` of `websocket_client.hpp` builds and sends.
-/

namespace Client

/-- The frame of `publish`. -/
def publish (host : ByteOrder) (channelId : ClientChannelId) (buffer : List UInt8) :
    Option (List UInt8) := do
  let payload := List.replicate (1 + 4 + buffer.length) 0
  let payload ← store payload 0 [1]
  let payload ← Serialization.writeUInt32LE host payload 1 channelId
  store payload (1 + 4) buffer

theorem publish_eq (host : ByteOrder) (channelId : ClientChannelId) (buffer : List UInt8) :
    publish host channelId buffer = some ([1] ++ wordBytes channelId ++ buffer) := by
  simp only [publish, Serialization.writeUInt32LE_eq, Option.bind_eq_bind, ← Option.bind_assoc]
  rw [store_bind_store (by simp), store_bind_store (by simp)]
  exact store_all (by simp; omega)

end Client

/-!
## Binary messages with their accesses to memory

`handle_binary_message` as it runs on a host of either byte order, with every access to the
payload checked. The id of a channel is loaded in the order of the host, whatever
`read_uint32_LE` would do. On a little-endian host this is `handleBinaryMessage`.
-/

variable {Bridge : Type}

namespace ClientMessage

/-- The constructor, which copies the raw data. -/
def construct (logTime publishTime : UInt64) (sequence : UInt32)
    (advertisement : ClientAdvertisement) (dataLength : Nat) (rawData : List UInt8) :
    Except Fault ClientMessage := do
  let data ← checked (load rawData 0 dataLength)
  return { logTime, publishTime, sequence, advertisement, dataLength, data }

def msgPayloadOffset : Nat := 5

/-- What follows the pointer that `getData` returns. -/
def getData (message : ClientMessage) : List UInt8 := message.data.drop msgPayloadOffset

def getLength (message : ClientMessage) : UInt64 :=
  UInt64.ofNat message.data.length - UInt64.ofNat msgPayloadOffset

end ClientMessage

/-- Pass a client's message on, or answer with the refusal. -/
def publishClientMessageOn (config : Config Bridge) (hdl : ConnHandle) (data : List UInt8)
    (timestamp : UInt64) : Except String ClientAdvertisement → ServerAction Bridge Unit
  | .error refusal => sendStatusAndLogMsg hdl .error refusal
  | .ok advertisement =>
    catchAll (do
        let message ← Action.ofExcept
          (ClientMessage.construct timestamp timestamp 0 advertisement data.length data)
        callHandler config (.clientMessage message hdl)) fun exception =>
      sendStatusAndLogMsg hdl .error (clientMessageFailure exception)

def handleMessageDataOn (host : ByteOrder) (config : Config Bridge) (hdl : ConnHandle)
    (data : List UInt8) : ServerAction Bridge Unit := do
  if config.handlers.clientMessageHandler.isNone then
    pure ()
  else if data.length < 5 then
    sendStatusAndLogMsg hdl .error ("Invalid message length " ++ toString data.length)
  else
    let timestamp ← Action.gets fun world => world.now
    let channelId ← Action.ofExcept (checked (host.loadWord data 1))
    let found ← Action.gets fun world => world.server.findAdvertisement hdl channelId
    publishClientMessageOn config hdl data timestamp found

/-- The length is compared with the size of a request that nothing was read into. -/
def handleServiceCallRequestOn (host : ByteOrder) (config : Config Bridge) (hdl : ConnHandle)
    (data : List UInt8) : ServerAction Bridge Unit :=
  if data.length < ServiceResponse.size ⟨0, 0, [], []⟩ then
    sendStatusAndLogMsg hdl .error
      ("Invalid service call request length " ++ toString data.length)
  else
    Action.ofExcept (ServiceResponse.read host (data.drop 1)) >>= callService config hdl

def handleBinaryMessageOn (host : ByteOrder) (config : Config Bridge) (hdl : ConnHandle)
    (data : List UInt8) : ServerAction Bridge Unit :=
  if data.length < 1 then
    sendStatusAndLogMsg hdl .error "Received an empty binary message"
  else do
    let first ← Action.ofExcept (checked data[0]?)
    match (capabilityByClientBinaryOperation (.ofByte first)).filter fun capability =>
        !hasCapability config capability with
    | some capability => sendStatusAndLogMsg hdl .error ("Binary operation '" ++
        toString first ++ "' not supported as server capability '" ++ capability ++
        "' is missing")
    | none =>
      match ClientBinaryOpcode.ofByte first with
      | .messageData => handleMessageDataOn host config hdl data
      | .serviceCallRequest => handleServiceCallRequestOn host config hdl data
      | .unrecognized byte =>
        sendStatusAndLogMsg hdl .error ("Unrecognized client opcode " ++ toString byte)

/-- The id under which a host looks up the channel of a message. -/
def hostChannelId (host : ByteOrder) (data : List UInt8) : ClientChannelId :=
  littleWord (host.arrange ((data.drop 1).take 4))

variable {config : Config Bridge} {hdl : ConnHandle} {data : List UInt8}

/-- The copy of the raw data has all of them. -/
theorem publishClientMessageOn_eq (timestamp : UInt64)
    (found : Except String ClientAdvertisement) :
    publishClientMessageOn config hdl data timestamp found =
      publishClientMessage config hdl data timestamp found := by
  cases found with
  | error refusal => rfl
  | ok advertisement =>
    have copied : ClientMessage.construct timestamp timestamp 0 advertisement data.length data =
        .ok ⟨timestamp, timestamp, 0, advertisement, data.length, data⟩ := by
      rw [ClientMessage.construct, load_eq_some (by simp)]
      simp [checked]
    rw [publishClientMessageOn, copied]
    rfl

/-- A message of five bytes or more is looked up under the id as the host loads it. -/
theorem handleMessageDataOn_apply {host : ByteOrder}
    (registered : ¬config.handlers.clientMessageHandler.isNone) (enough : 5 ≤ data.length)
    (world : World Bridge) :
    handleMessageDataOn host config hdl data world = publishClientMessage config hdl data world.now
      (world.server.findAdvertisement hdl (hostChannelId host data)) world := by
  have loaded : host.loadWord data 1 = some (hostChannelId host data) := by
    rw [ByteOrder.loadWord, load_eq_some (by omega)]
    rfl
  rw [handleMessageDataOn, if_neg registered, if_neg (by omega), loaded]
  simp only [publishClientMessageOn_eq]
  rfl

theorem handleServiceCallRequestOn_eq (host : ByteOrder) :
    handleServiceCallRequestOn host config hdl data = handleServiceCallRequest config hdl data := by
  rw [handleServiceCallRequestOn, ServiceResponse.read_eq]
  rfl

theorem handleMessageDataOn_littleEndian :
    handleMessageDataOn .littleEndian config hdl data = handleMessageData config hdl data := by
  unfold handleMessageData
  by_cases missing : config.handlers.clientMessageHandler.isNone
  · rw [handleMessageDataOn, if_pos missing, if_pos missing]
  by_cases short : data.length < 5
  · rw [handleMessageDataOn, if_neg missing, if_neg missing, if_pos short, if_pos short]
  funext world
  rw [handleMessageDataOn_apply missing (by omega), if_neg missing, if_neg short,
    hostChannelId, ByteOrder.arrange, ← readUInt32LE_eq_littleWord (by simp; omega)]
  rfl

/-- The server model is the code on a little-endian host. -/
theorem handleBinaryMessageOn_littleEndian :
    handleBinaryMessageOn .littleEndian config hdl data = handleBinaryMessage config hdl data := by
  cases data with
  | nil => rfl
  | cons first rest =>
    rw [handleBinaryMessageOn, if_neg (by simp), handleServiceCallRequestOn_eq,
      handleMessageDataOn_littleEndian]
    rfl

end CoBridge
