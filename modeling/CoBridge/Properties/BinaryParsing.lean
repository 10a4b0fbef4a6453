import CoBridge.Server.BinaryMessages

/-!
# Frames of service calls

`ServiceResponse::read` accepts exactly the frames that `write` makes of a response whose
encoding has at most 256 bytes, and gives back that response.
-/

namespace CoBridge.ServiceResponse

open Library

variable {host : ByteOrder} {response : ServiceResponse} {data : List UInt8}

/-- What `write` made is read back. -/
theorem read_frame (limited : response.encoding.length ≤ 256) :
    read host response.frame = .ok response := by
  obtain ⟨serviceId, callId, encoding, servData⟩ := response
  set count := UInt32.ofNat encoding.length with counts
  have sized : (frame ⟨serviceId, callId, encoding, servData⟩).length =
      12 + encoding.length + servData.length := length_frame _
  have counted : count.toNat = encoding.length := by
    rw [counts, UInt32.toNat_ofNat', Nat.mod_eq_of_lt (by simp only at limited; omega)]
  set data := frame ⟨serviceId, callId, encoding, servData⟩ with split
  have first : Serialization.readUInt32LE host data 0 = some serviceId :=
    Serialization.readUInt32LE_piece []
      (wordBytes callId ++ wordBytes count ++ encoding ++ servData)
      (by simp only [split, frame, List.append_assoc, List.nil_append, counts]) rfl
  have second : Serialization.readUInt32LE host data 4 = some callId :=
    Serialization.readUInt32LE_piece (wordBytes serviceId) (wordBytes count ++ encoding ++ servData)
      (by simp only [split, frame, List.append_assoc, counts]) (by simp)
  have third : Serialization.readUInt32LE host data 8 = some count :=
    Serialization.readUInt32LE_piece (wordBytes serviceId ++ wordBytes callId)
      (encoding ++ servData)
      (by simp only [split, frame, List.append_assoc, counts]) (by simp)
  have fourth : load data 12 encoding.length = some encoding :=
    load_piece (wordBytes serviceId ++ wordBytes callId ++ wordBytes count) servData
      split (by simp) rfl
  have fifth : load data (12 + encoding.length) (data.length - (12 + encoding.length)) =
      some servData :=
    load_piece (wordBytes serviceId ++ wordBytes callId ++ wordBytes count ++ encoding) []
      (by rw [List.append_nil]; exact split)
      (by simp only [List.length_append, length_wordBytes]) (by omega)
  rw [read, if_neg (by omega), first, second, third]
  change (if _ then _ else if _ then _ else _) = _
  rw [counted, if_neg (Nat.not_lt.mpr limited), if_neg (by omega), fourth]
  change (if _ then _ else _) = _
  rw [if_neg (by omega), fifth]
  rfl

theorem toNat_readUInt32LE {offset : Nat} (fits : offset + 4 ≤ data.length) :
    (readUInt32LE (data.drop offset)).toNat = littleValue ((data.drop offset).take 4) := by
  rw [readUInt32LE_eq_littleWord (by simp; omega), toNat_littleWord (by simp; omega)]

/-- The data that are read, and what is read from them. -/
theorem read_eq_ok_iff : ServiceRequest.read data = .ok response ↔
    12 ≤ data.length ∧ littleValue ((data.drop 8).take 4) ≤ 256 ∧
      12 + littleValue ((data.drop 8).take 4) ≤ data.length ∧
      response = ⟨littleWord (data.take 4), littleWord ((data.drop 4).take 4),
        (data.drop 12).take (littleValue ((data.drop 8).take 4)),
        data.drop (12 + littleValue ((data.drop 8).take 4))⟩ := by
  simp only [ServiceRequest.read]
  by_cases short : data.length < 12
  · rw [if_pos short]
    exact iff_of_false (by simp) (by omega)
  have enough : 12 ≤ data.length := by omega
  rw [if_neg short, toNat_readUInt32LE (by omega)]
  by_cases large : 256 < littleValue ((data.drop 8).take 4)
  · rw [if_pos large]
    exact iff_of_false (by simp) (by omega)
  rw [if_neg large]
  by_cases outside : data.length < 12 + littleValue ((data.drop 8).take 4)
  · rw [if_pos outside]
    exact iff_of_false (by simp) (by omega)
  rw [if_neg outside, readUInt32LE_eq_littleWord (by omega),
    readUInt32LE_eq_littleWord (by simp; omega), Except.ok.injEq, eq_comm]
  simp only [enough, Nat.le_of_not_lt large, Nat.le_of_not_lt outside, true_and]

/-- What is read makes the frame it was read from. -/
theorem frame_of_read (accepted : ServiceRequest.read data = .ok response) :
    response.frame = data := by
  obtain ⟨enough, limited, fits, rfl⟩ := read_eq_ok_iff.mp accepted
  have pieces (offset count : Nat) :
      (data.drop offset).take count ++ data.drop (offset + count) = data.drop offset := by
    rw [← List.drop_drop, List.take_append_drop]
  have counted : ((data.drop 12).take (littleValue ((data.drop 8).take 4))).length =
      littleValue ((data.drop 8).take 4) := by
    simp
    omega
  have word (offset : Nat) (inside : offset + 4 ≤ data.length) :
      wordBytes (littleWord ((data.drop offset).take 4)) = (data.drop offset).take 4 :=
    wordBytes_littleWord (by simp; omega)
  have first := word 0 (by omega)
  rw [List.drop_zero] at first
  simp only [frame, List.append_assoc]
  rw [counted]
  change _ ++ (_ ++ (wordBytes (littleWord ((data.drop 8).take 4)) ++ _)) = _
  rw [first, word 4 (by omega), word 8 (by omega), pieces 12, pieces 8, pieces 4,
    List.take_append_drop]

theorem read_ok_iff : (∃ response, ServiceRequest.read data = .ok response) ↔
    12 ≤ data.length ∧ littleValue ((data.drop 8).take 4) ≤ 256 ∧
      12 + littleValue ((data.drop 8).take 4) ≤ data.length := by
  constructor
  · rintro ⟨response, accepted⟩
    obtain ⟨enough, limited, fits, _⟩ := read_eq_ok_iff.mp accepted
    exact ⟨enough, limited, fits⟩
  · rintro ⟨enough, limited, fits⟩
    exact ⟨_, read_eq_ok_iff.mpr ⟨enough, limited, fits, rfl⟩⟩

/-- On every host, `read` undoes `write` for encodings of at most 256 bytes; it accepts
exactly the data with room for the encoding it announces, never leaves them, and `write`
undoes `read`. -/
theorem service_frame_codec (host : ByteOrder) :
    (∀ (response : ServiceResponse) (block : List UInt8), response.encoding.length ≤ 256 →
      block.length = response.size → ∃ data, write host response block = some data ∧
        data.length = response.size ∧ read host data = .ok response) ∧
      ∀ data, ((∃ response, read host data = .ok response) ↔
          12 ≤ data.length ∧ littleValue ((data.drop 8).take 4) ≤ 256 ∧
            12 + littleValue ((data.drop 8).take 4) ≤ data.length) ∧
        read host data ≠ .error .undefinedBehavior ∧
        ∀ response block, read host data = .ok response → block.length = response.size →
          write host response block = some data := by
  refine ⟨fun response block limited sized => ?_, fun data => ⟨?_, ?_, ?_⟩⟩
  · exact ⟨response.frame, write_eq sized, length_frame response, read_frame limited⟩
  · simp only [read_eq]
    exact read_ok_iff
  · rw [read_eq]
    exact ServiceRequest.read_defined data
  · intro response block accepted sized
    rw [read_eq] at accepted
    rw [write_eq sized, frame_of_read accepted]

end CoBridge.ServiceResponse

/-!
## What binary messages of clients do

Whatever bytes arrive, at most one handler is called, with exactly what the bytes say, and
the bytes are not left. `Asks` says which call a byte string asks for.
-/

namespace CoBridge

open Library Action

variable {Bridge : Type} {host : ByteOrder} {config : Config Bridge} {world : World Bridge}
  {hdl : ConnHandle} {data : List UInt8}
variable {call : HandlerCall}

/-- The handler call that a binary message asks for. -/
inductive Asks (host : ByteOrder) (config : Config Bridge) (world : World Bridge)
    (hdl : ConnHandle) (data : List UInt8) : HandlerCall → Prop where
  | message {advertisement : ClientAdvertisement} (opcode : data[0]? = some 1)
      (capable : hasCapability config capabilityClientPublish)
      (registered : config.handlers.clientMessageHandler.isSome) (enough : 5 ≤ data.length)
      (advertised : (world.server.publications hdl).lookup (hostChannelId host data) =
        some advertisement) :
      Asks host config world hdl data
        (.clientMessage ⟨world.now, world.now, 0, advertisement, data.length, data⟩ hdl)
  | service {request : ServiceRequest} (opcode : data[0]? = some 2)
      (capable : hasCapability config capabilityServices)
      (registered : config.handlers.serviceRequestHandler.isSome)
      (read : ServiceRequest.read (data.drop 1) = .ok request)
      (advertised : request.serviceId ∈ world.server.services) :
      Asks host config world hdl data (.serviceRequest request hdl)

theorem Asks.unique {another : HandlerCall} (asks : Asks host config world hdl data call)
    (asksAnother : Asks host config world hdl data another) : call = another := by
  cases asks with
  | message opcode _ _ _ advertised =>
    cases asksAnother with
    | message _ _ _ _ advertisedThere =>
      obtain rfl := Option.some.inj (advertised.symm.trans advertisedThere)
      rfl
    | service other => simp [opcode] at other
  | service opcode _ _ read =>
    cases asksAnother with
    | message other => simp [opcode] at other
    | service _ _ _ readThere =>
      obtain rfl := Except.ok.inj (read.symm.trans readThere)
      rfl

/-- The call was made, and nothing but its handler can have been undefined. -/
structure Answered (config : Config Bridge) (world : World Bridge) (call : HandlerCall)
    (result : Except Fault Unit × World Bridge) : Prop where
  calls : result.2.calls = world.calls ++ [call]
  undefined : result.1 = .error .undefinedBehavior →
    (callHandler config call world).1 = .error .undefinedBehavior

/-- Nothing happened but perhaps a status message or an exception. -/
structure Refused (world : World Bridge) (result : Except Fault Unit × World Bridge) : Prop where
  calls : result.2.calls = world.calls
  server : result.2.server = world.server
  defined : result.1 ≠ .error .undefinedBehavior

theorem refused_status {level : StatusLevel} (text : String) :
    Refused world (sendStatusAndLogMsg hdl level text world) := by
  rw [sendStatusAndLogMsg_apply]
  exact ⟨world.enqueue_calls hdl _, world.enqueue_server hdl _, by simp⟩

theorem answered_callHandler (registered : (config.handlers.resolve call).isSome) :
    Answered config world call (callHandler config call world) := by
  obtain ⟨handler, resolved⟩ := Option.isSome_iff_exists.mp registered
  exact ⟨callHandler_calls resolved world, id⟩

/-- Exceptions of the handler are answered with a status message. -/
theorem answered_catchAll {text : Exception → String}
    (registered : (config.handlers.resolve call).isSome) :
    Answered config world call (catchAll (callHandler config call)
      (fun exception => sendStatusAndLogMsg hdl .error (text exception)) world) := by
  constructor
  · rw [catchAll_status_part World.calls World.enqueue_calls]
    exact (answered_callHandler registered).calls
  · rw [catchAll_apply]
    rcases callHandler config call world with ⟨(exception | _) | _, reached⟩
    · simp [sendStatusAndLogMsg_apply]
    · simp
    · simp

/-- Either the message asks for the call that was made, or for none and none was made. -/
inductive Parsed (host : ByteOrder) (config : Config Bridge) (world : World Bridge)
    (hdl : ConnHandle) (data : List UInt8) (result : Except Fault Unit × World Bridge) : Prop where
  | called {call : HandlerCall} (asks : Asks host config world hdl data call)
      (answered : Answered config world call result)
  | refused (unasked : ∀ call, ¬Asks host config world hdl data call)
      (refused : Refused world result)

/-- The frames with opcode 1. -/
theorem handleMessageData_parsed (opcode : data[0]? = some 1)
    (capable : hasCapability config capabilityClientPublish) :
    Parsed host config world hdl data
      (handleMessageDataOn host config hdl data world) := by
  have asked {call : HandlerCall} (asks : Asks host config world hdl data call) :
      config.handlers.clientMessageHandler.isSome ∧ 5 ≤ data.length ∧
        ∃ advertisement, (world.server.publications hdl).lookup (hostChannelId host data) =
          some advertisement := by
    cases asks with
    | message _ _ registered enough advertised => exact ⟨registered, enough, _, advertised⟩
    | service other => simp [opcode] at other
  by_cases missing : config.handlers.clientMessageHandler.isNone
  · rw [handleMessageDataOn, if_pos missing]
    refine .refused (fun call asks => ?_) ⟨rfl, rfl, by simp⟩
    simp [Option.isNone_iff_eq_none.mp missing] at asked
    exact asked asks
  by_cases short : data.length < 5
  · rw [handleMessageDataOn, if_neg missing, if_pos short]
    refine .refused (fun call asks => ?_) (refused_status _)
    have enough := (asked asks).2.1
    omega
  rw [handleMessageDataOn_apply missing (by omega)]
  have registered : config.handlers.clientMessageHandler.isSome := by
    simpa [← Option.ne_none_iff_isSome] using missing
  rcases world.server.findAdvertisement_cases hdl (hostChannelId host data) with
    ⟨advertisement, found, advertised⟩ | ⟨refusal, found, unknown⟩
  · rw [found]
    exact .called (.message opcode capable registered (by omega) advertised)
      (answered_catchAll (by simpa [ServerHandlers.resolve] using registered))
  · rw [found]
    refine .refused (fun call asks => ?_) (refused_status refusal)
    obtain ⟨_, _, advertisement, advertised⟩ := asked asks
    rw [advertised] at unknown
    simp at unknown

/-- The frames with opcode 2. -/
theorem handleServiceCallRequest_parsed (opcode : data[0]? = some 2)
    (capable : hasCapability config capabilityServices) :
    Parsed host config world hdl data
      (handleServiceCallRequestOn host config hdl data world) := by
  have asked {call : HandlerCall} (asks : Asks host config world hdl data call) :
      config.handlers.serviceRequestHandler.isSome ∧
        ∃ request, ServiceRequest.read (data.drop 1) = .ok request ∧
          request.serviceId ∈ world.server.services := by
    cases asks with
    | message other => simp [opcode] at other
    | service _ _ registered read advertised => exact ⟨registered, _, read, advertised⟩
  rw [handleServiceCallRequestOn_eq, handleServiceCallRequest]
  by_cases short : data.length < 12
  · rw [if_pos short]
    refine .refused (fun call asks => ?_) (refused_status _)
    obtain ⟨_, request, read, _⟩ := asked asks
    have enough := (ServiceResponse.read_ok_iff.mp ⟨request, read⟩).1
    simp at enough
    omega
  rw [if_neg short]
  rcases read : ServiceRequest.read (data.drop 1) with (exception | _) | request
  · refine .refused (fun call asks => ?_) ⟨rfl, rfl, by simp⟩
    obtain ⟨_, request, readThere, _⟩ := asked asks
    rw [read] at readThere
    cases readThere
  · exact absurd read (ServiceRequest.read_defined _)
  rw [ofExcept_ok_bind_apply, callService, gets_bind_apply]
  by_cases advertised : request.serviceId ∈ world.server.services
  · rw [if_neg (by simpa using advertised)]
    by_cases registered : config.handlers.serviceRequestHandler.isSome
    · rw [if_pos registered]
      exact .called (.service opcode capable registered read advertised)
        (answered_callHandler (by simpa [ServerHandlers.resolve] using registered))
    · rw [if_neg registered]
      exact .refused (fun call asks => registered (asked asks).1) ⟨rfl, rfl, by simp⟩
  · rw [if_pos (by simpa using advertised)]
    refine .refused (fun call asks => ?_) (refused_status _)
    obtain ⟨_, another, readThere, advertisedThere⟩ := asked asks
    obtain rfl := Except.ok.inj (read.symm.trans readThere)
    exact advertised advertisedThere

/-- Every byte string is refused or makes the call that it asks for. -/
theorem handleBinaryMessage_parsed :
    Parsed host config world hdl data
      (handleBinaryMessageOn host config hdl data world) := by
  cases data with
  | nil =>
    refine .refused (fun call asks => ?_) (refused_status _)
    cases asks with
    | message opcode => simp at opcode
    | service opcode => simp at opcode
  | cons first rest =>
    rw [handleBinaryMessageOn, if_neg (by simp), List.getElem?_cons_zero, checked,
      ofExcept_ok_bind_apply]
    by_cases message : first = 1
    · subst message
      rw [show ClientBinaryOpcode.ofByte 1 = .messageData from rfl,
        capabilityByClientBinaryOperation, Option.filter_some]
      by_cases capable : hasCapability config capabilityClientPublish
      · rw [if_neg (by simp [capable])]
        exact handleMessageData_parsed rfl capable
      · rw [if_pos (by simp [capable])]
        refine .refused (fun call asks => ?_) (refused_status _)
        cases asks with
        | message _ capableThere => exact capable capableThere
        | service other => simp at other
    by_cases service : first = 2
    · subst service
      rw [show ClientBinaryOpcode.ofByte 2 = .serviceCallRequest from rfl,
        capabilityByClientBinaryOperation, Option.filter_some]
      by_cases capable : hasCapability config capabilityServices
      · rw [if_neg (by simp [capable])]
        exact handleServiceCallRequest_parsed rfl capable
      · rw [if_pos (by simp [capable])]
        refine .refused (fun call asks => ?_) (refused_status _)
        cases asks with
        | message other => simp at other
        | service _ capableThere => exact capable capableThere
    · rw [ClientBinaryOpcode.ofByte, if_neg message, if_neg service]
      refine .refused (fun call asks => ?_) (refused_status _)
      cases asks with
      | message opcode => exact message (by simpa using opcode)
      | service opcode => exact service (by simpa using opcode)

/-- The calls that were made are those that the message asks for. -/
theorem Parsed.calls_iff {result : Except Fault Unit × World Bridge}
    (parsed : Parsed host config world hdl data result) (call : HandlerCall) :
    result.2.calls = world.calls ++ [call] ↔ Asks host config world hdl data call := by
  cases parsed with
  | @called another asks answered =>
    rw [answered.calls, List.append_cancel_left_eq, List.cons.injEq, and_iff_left rfl]
    constructor
    · rintro rfl
      exact asks
    · exact asks.unique
  | refused unasked refused =>
    refine iff_of_false ?_ (unasked call)
    rw [refused.calls]
    simp

/-- The requests that are read from a binary message, behind its opcode. -/
theorem read_drop_iff {request : ServiceRequest} :
    ServiceRequest.read (data.drop 1) = .ok request ↔
      13 ≤ data.length ∧ littleValue ((data.drop 9).take 4) ≤ 256 ∧
        13 + littleValue ((data.drop 9).take 4) ≤ data.length ∧
        request = ⟨littleWord ((data.drop 1).take 4), littleWord ((data.drop 5).take 4),
          (data.drop 13).take (littleValue ((data.drop 9).take 4)),
          data.drop (13 + littleValue ((data.drop 9).take 4))⟩ := by
  have behind (offset : Nat) : (data.drop 1).drop offset = data.drop (1 + offset) :=
    List.drop_drop
  rw [ServiceResponse.read_eq_ok_iff, List.length_drop, behind, behind, behind, behind,
    ← Nat.add_assoc]
  refine and_congr (by omega) (and_congr_right fun _ => and_congr_left fun _ => ?_)
  change 12 + littleValue ((data.drop 9).take 4) ≤ data.length - 1 ↔ _
  omega

/-- On a little-endian host every binary message leaves the bytes alone that are not its own,
calls at most one handler and otherwise leaves the tables as they are; it calls the handler of
client messages or of service requests exactly when its bytes and the tables say so, and with
what the bytes say. -/
theorem binary_messages_parsed (config : Config Bridge) (world : World Bridge) (hdl : ConnHandle)
    (data : List UInt8) :
    let result := handleBinaryMessageOn .littleEndian config hdl data world
    (result.1 = .error .undefinedBehavior → ∃ call, result.2.calls = world.calls ++ [call] ∧
      (callHandler config call world).1 = .error .undefinedBehavior) ∧
    (result.2.calls = world.calls ∧ result.2.server = world.server ∨
      (∃ message, result.2.calls = world.calls ++ [.clientMessage message hdl]) ∨
      ∃ request, result.2.calls = world.calls ++ [.serviceRequest request hdl]) ∧
    ((∃ message, result.2.calls = world.calls ++ [.clientMessage message hdl]) ↔
      data[0]? = some 1 ∧ hasCapability config capabilityClientPublish ∧
        config.handlers.clientMessageHandler.isSome ∧ 5 ≤ data.length ∧
        littleWord ((data.drop 1).take 4) ∈ world.server.publications hdl) ∧
    (∀ message, result.2.calls = world.calls ++ [.clientMessage message hdl] →
      message.getData = data.drop 5 ∧ message.getLength = UInt64.ofNat (data.length - 5) ∧
        (world.server.publications hdl).lookup (littleWord ((data.drop 1).take 4)) =
          some message.advertisement) ∧
    ((∃ request, result.2.calls = world.calls ++ [.serviceRequest request hdl]) ↔
      data[0]? = some 2 ∧ hasCapability config capabilityServices ∧
        config.handlers.serviceRequestHandler.isSome ∧ 13 ≤ data.length ∧
        littleValue ((data.drop 9).take 4) ≤ 256 ∧
        13 + littleValue ((data.drop 9).take 4) ≤ data.length ∧
        littleWord ((data.drop 1).take 4) ∈ world.server.services) ∧
    (∀ request, result.2.calls = world.calls ++ [.serviceRequest request hdl] →
      request = ⟨littleWord ((data.drop 1).take 4), littleWord ((data.drop 5).take 4),
        (data.drop 13).take (littleValue ((data.drop 9).take 4)),
        data.drop (13 + littleValue ((data.drop 9).take 4))⟩) := by
  intro result
  have parsed : Parsed .littleEndian config world hdl data result := handleBinaryMessage_parsed
  simp only [parsed.calls_iff]
  refine ⟨fun undefined => ?_, ?_, ⟨?_, ?_⟩, ?_, ⟨?_, ?_⟩, ?_⟩
  · cases parsed with
    | called asks answered => exact ⟨_, asks, answered.undefined undefined⟩
    | refused _ refused => exact absurd undefined refused.defined
  · cases parsed with
    | called asks =>
      cases asks with
      | message opcode capable registered enough advertised =>
        exact .inr (.inl ⟨_, .message opcode capable registered enough advertised⟩)
      | service opcode capable registered read advertised =>
        exact .inr (.inr ⟨_, .service opcode capable registered read advertised⟩)
    | refused _ refused => exact .inl ⟨refused.calls, refused.server⟩
  · rintro ⟨_, opcode, capable, registered, enough, advertised⟩
    exact ⟨opcode, capable, registered, enough, Table.mem_of_lookup advertised⟩
  · rintro ⟨opcode, capable, registered, enough, advertised⟩
    obtain ⟨advertisement, found⟩ := (Table.mem_iff_lookup _ _).mp advertised
    exact ⟨_, .message opcode capable registered enough found⟩
  · rintro _ ⟨opcode, capable, registered, enough, advertised⟩
    exact ⟨rfl, (UInt64.ofNat_sub enough).symm, advertised⟩
  · rintro ⟨request, asks⟩
    cases asks with
    | service opcode capable registered read advertised =>
      obtain ⟨enough, limited, fits, rfl⟩ := read_drop_iff.mp read
      exact ⟨opcode, capable, registered, enough, limited, fits, advertised⟩
  · rintro ⟨opcode, capable, registered, enough, limited, fits, advertised⟩
    exact ⟨_, .service opcode capable registered
      (read_drop_iff.mpr ⟨enough, limited, fits, rfl⟩) advertised⟩
  · intro request asks
    cases asks with
    | service _ _ _ read => exact (read_drop_iff.mp read).2.2.2

end CoBridge
