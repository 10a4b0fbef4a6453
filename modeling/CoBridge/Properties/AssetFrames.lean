import CoBridge.Server.BinaryMessages

/-!
# Asset responses

The frame that `send_fetch_asset_response` appends piece by piece, and the decoder of
`wait_for_fetch_asset_response`, which does not compare the announced length of the error
message with what there is.
-/

namespace CoBridge

open Library

/-- Values of the enumeration, those without a name included. -/
inductive FetchAssetStatus where
  | success
  | error
  | unnamed (byte : UInt8) (other : 1 < byte)
deriving DecidableEq, Repr

namespace FetchAssetStatus

def toByte : FetchAssetStatus → UInt8
  | .success => 0
  | .error => 1
  | .unnamed byte _ => byte

def ofByte (byte : UInt8) : FetchAssetStatus :=
  if other : 1 < byte then .unnamed byte other else if byte = 0 then .success else .error

@[simp] theorem ofByte_toByte (status : FetchAssetStatus) : ofByte status.toByte = status := by
  cases status with
  | success | error => rfl
  | unnamed byte other => simp [ofByte, toByte, other]

end FetchAssetStatus

structure FetchAssetResponse where
  requestId : UInt32
  status : FetchAssetStatus
  errorMessage : List UInt8
  data : List UInt8
deriving DecidableEq, Repr

/-- `BinaryOpcode::FETCH_ASSET_RESPONSE`. -/
def fetchAssetResponseOpcode : UInt8 := 4

/-- The payload that `send_fetch_asset_response` appends. -/
def sendFetchAssetResponse (host : ByteOrder) (response : FetchAssetResponse) :
    Option (List UInt8) := do
  let errMsgSize := if response.status = .error then response.errorMessage.length else 0
  let dataSize := if response.status = .success then response.data.length else 0
  let message := [fetchAssetResponseOpcode]
  let uint32Data ← Serialization.writeUInt32LE host (List.replicate 4 0) 0 response.requestId
  let message := message ++ uint32Data
  let message := message ++ [response.status.toByte]
  let uint32Data ← Serialization.writeUInt32LE host uint32Data 0
    (UInt32.ofNat response.errorMessage.length)
  let message := message ++ uint32Data
  let errorMessage ← load response.errorMessage 0 errMsgSize
  let message := message ++ errorMessage
  let data ← load response.data 0 dataSize
  return message ++ data

/-- The handler of `wait_for_fetch_asset_response`. A frame with another opcode gives
nothing. -/
def readFetchAssetResponse (host : ByteOrder) (data : List UInt8) :
    Except Fault (Option FetchAssetResponse) := do
  let opcode ← checked data[0]?
  if opcode ≠ fetchAssetResponseOpcode then
    return none
  else
    let requestId ← checked (Serialization.readUInt32LE host data 1)
    let status ← checked data[5]?
    let errorMsgLength := (← checked (Serialization.readUInt32LE host data 6)).toNat
    let errorMessage ← checked (load data 10 errorMsgLength)
    let offset := 10 + errorMsgLength
    let payload ← checked (load data offset (data.length - offset))
    return some ⟨requestId, .ofByte status, errorMessage, payload⟩

/-!
## Asset responses are framed

The length of the error message is announced whatever the status is, and the message is
appended only for `Error`. The decoder gets back what was sent exactly when the two agree.
-/

variable {sender receiver host : ByteOrder} {response : FetchAssetResponse}

namespace FetchAssetResponse

/-- What the decoder should get: the error message of an error, and the data of a success. -/
def delivered (response : FetchAssetResponse) : FetchAssetResponse :=
  { response with
    errorMessage := if response.status = .error then response.errorMessage else []
    data := if response.status = .success then response.data else [] }

/-- The bytes in front of the error message, which announce its length. -/
def header (response : FetchAssetResponse) : List UInt8 :=
  [fetchAssetResponseOpcode] ++ wordBytes response.requestId ++ [response.status.toByte] ++
    wordBytes (UInt32.ofNat response.errorMessage.length)

@[simp] theorem length_header : response.header.length = 10 := by
  simp [header]

end FetchAssetResponse

/-- What is sent: the announced length, and the bytes of what should be delivered. -/
theorem sendFetchAssetResponse_eq : sendFetchAssetResponse host response =
    some (response.header ++ (response.delivered.errorMessage ++ response.delivered.data)) := by
  have errorMessage : load response.errorMessage 0
      (if response.status = .error then response.errorMessage.length else 0) =
        some response.delivered.errorMessage := by
    unfold FetchAssetResponse.delivered
    split <;> simp [load]
  have data : load response.data 0
      (if response.status = .success then response.data.length else 0) =
        some response.delivered.data := by
    unfold FetchAssetResponse.delivered
    split <;> simp [load]
  have written (block : List UInt8) (word : UInt32) (four : block.length = 4) :
      Serialization.writeUInt32LE host block 0 word = some (wordBytes word) := by
    rw [Serialization.writeUInt32LE_eq, store_all (by simpa using four)]
  simp only [sendFetchAssetResponse, errorMessage, data]
  rw [written _ _ rfl, Option.bind_eq_bind, Option.bind_some, written _ _ (length_wordBytes _)]
  simp [FetchAssetResponse.header]

/-- What the decoder makes of the header and whatever follows it. -/
theorem readFetchAssetResponse_header (short : response.errorMessage.length < 2 ^ 32)
    (rest : List UInt8) : readFetchAssetResponse host (response.header ++ rest) =
      if response.errorMessage.length ≤ rest.length then
        .ok (some ⟨response.requestId, response.status, rest.take response.errorMessage.length,
          rest.drop response.errorMessage.length⟩)
      else
        .error .undefinedBehavior := by
  set data := response.header ++ rest with split
  have opcode : data[0]? = some fetchAssetResponseOpcode := rfl
  have requestId : Serialization.readUInt32LE host data 1 = some response.requestId :=
    Serialization.readUInt32LE_piece [fetchAssetResponseOpcode] ([response.status.toByte] ++
      wordBytes (UInt32.ofNat response.errorMessage.length) ++ rest)
      (by simp [split, FetchAssetResponse.header]) rfl
  have status : data[5]? = some response.status.toByte := rfl
  have announced : Serialization.readUInt32LE host data 6 =
      some (UInt32.ofNat response.errorMessage.length) :=
    Serialization.readUInt32LE_piece ([fetchAssetResponseOpcode] ++
      wordBytes response.requestId ++ [response.status.toByte]) rest
      (by simp [split, FetchAssetResponse.header]) (by simp)
  have counted : (UInt32.ofNat response.errorMessage.length).toNat =
      response.errorMessage.length := by
    rw [UInt32.toNat_ofNat', Nat.mod_eq_of_lt short]
  have length : data.length = 10 + rest.length := by simp [split]
  have behind (count : Nat) : data.drop (10 + count) = rest.drop count := by
    rw [split, ← List.drop_drop, List.drop_left' FetchAssetResponse.length_header]
  rw [readFetchAssetResponse, opcode, requestId, status, announced]
  change ((checked (load data 10 (UInt32.ofNat response.errorMessage.length).toNat)) >>= _) = _
  rw [counted]
  split_ifs with fits
  · rw [load_eq_some (by omega), behind 0]
    change ((checked (load data (10 + response.errorMessage.length) _)) >>= _) = _
    rw [load_eq_some (by omega), behind, List.take_of_length_le (by simp; omega)]
    rw [FetchAssetStatus.ofByte_toByte]
    rfl
  · have outside : load data 10 response.errorMessage.length = none := if_neg (by omega)
    rw [outside]
    rfl

/-- The decoder gets what should be delivered, from a frame that it does not leave. -/
def FramedExactly (sender receiver : ByteOrder) (response : FetchAssetResponse) : Prop :=
  ∃ data, sendFetchAssetResponse sender response = some data ∧
    readFetchAssetResponse receiver data = .ok (some response.delivered)

/-- An announced message that is not appended is taken from the data or from behind the
frame. -/
theorem not_framedExactly (short : response.errorMessage.length < 2 ^ 32)
    (other : response.status ≠ .error) (message : response.errorMessage ≠ []) :
    ¬FramedExactly sender receiver response := by
  rintro ⟨data, sent, received⟩
  obtain rfl := Option.some.inj (sendFetchAssetResponse_eq.symm.trans sent)
  rw [readFetchAssetResponse_header short] at received
  have none : response.delivered.errorMessage = [] := if_neg other
  split_ifs at received with fits
  have same := congrArg FetchAssetResponse.errorMessage (Option.some.inj (Except.ok.inj received))
  have count := congrArg List.length same
  rw [List.length_take, Nat.min_eq_left fits, none, List.length_nil] at count
  exact message (List.eq_nil_of_length_eq_zero count)

/-- Asset responses are framed exactly when they are errors or have no error message. -/
theorem framed_exactly_iff (sender receiver : ByteOrder) (response : FetchAssetResponse)
    (short : response.errorMessage.length < 2 ^ 32) :
    FramedExactly sender receiver response ↔
      response.status = .error ∨ response.errorMessage = [] := by
  constructor
  · intro framed
    by_contra neither
    obtain ⟨other, message⟩ := not_or.mp neither
    exact not_framedExactly short other message framed
  · intro agrees
    have appended : response.delivered.errorMessage = response.errorMessage := by
      rcases agrees with failed | none
      · exact if_pos failed
      · simp [FetchAssetResponse.delivered, none]
    refine ⟨_, sendFetchAssetResponse_eq, ?_⟩
    rw [readFetchAssetResponse_header short, appended, if_pos (by simp), List.take_left' rfl,
      List.drop_left' rfl, ← appended]
    rfl

/-- An error with a message, between hosts of different byte orders. -/
theorem framed_exactly_error :
    FramedExactly .littleEndian .bigEndian ⟨7, .error, [110, 111], [1]⟩ ∧
      ([110, 111] : List UInt8).length < 2 ^ 32 :=
  ⟨(framed_exactly_iff .littleEndian .bigEndian ⟨7, .error, [110, 111], [1]⟩ (by decide)).mpr
    (.inl rfl), by decide⟩

/-- The message of a success is taken from the data, or from behind the frame if there are
none. -/
theorem success_with_message_misframed :
    (sendFetchAssetResponse .littleEndian ⟨7, .success, [110], [1, 2]⟩ =
        some [4, 7, 0, 0, 0, 0, 1, 0, 0, 0, 1, 2] ∧
      readFetchAssetResponse .littleEndian [4, 7, 0, 0, 0, 0, 1, 0, 0, 0, 1, 2] =
        .ok (some ⟨7, .success, [1], [2]⟩)) ∧
    (sendFetchAssetResponse .littleEndian ⟨7, .success, [110], []⟩ =
        some [4, 7, 0, 0, 0, 0, 1, 0, 0, 0] ∧
      readFetchAssetResponse .littleEndian [4, 7, 0, 0, 0, 0, 1, 0, 0, 0] =
        .error .undefinedBehavior) ∧
    ¬FramedExactly .littleEndian .littleEndian ⟨7, .success, [110], [1, 2]⟩ ∧
    ¬FramedExactly .littleEndian .littleEndian ⟨7, .success, [110], []⟩ :=
  ⟨by decide +kernel, by decide +kernel, not_framedExactly (by decide) (by decide) (by decide),
    not_framedExactly (by decide) (by decide) (by decide)⟩

end CoBridge
