import CoBridge.Ros2.GenericClient

/-!
# Responses find their requests in a client

Every promise is at one stage at a time: it belongs to a pending request, to the thread that
answers the request, or it has been used. The callback of a request is therefore called at
most once, and with a response that carries its number; and it is called when such a
response comes.
-/

namespace CoBridge.Ros2

open Library Table

variable {Thread Callback Response Value : Type}

/-- The request and the number of the response that a thread is answering it with. -/
def ClientPlace.held : ClientPlace Callback Response Value →
    Option (Int64 × PendingRequest Callback)
  | .answering sequence entry _ | .calling sequence entry => some (sequence, entry)
  | _ => none

/-- The places at which a thread has the mutex. -/
def ClientPlace.locks : ClientPlace Callback Response Value → Bool
  | .sending _ | .sent _ _ | .responding _ _ => true
  | _ => false

/-- The request was sent, and then a response with its number came that serializes to the
value. -/
def DeliveredAfter (serialize : Response → Option Value)
    (history : List (ClientRecord Callback Response)) (registration : Registration Callback)
    (value : Value) : Prop :=
  ∃ before after response, history = before ++ .registered registration :: after ∧
    .delivered registration.sequence response ∈ after ∧ serialize response = some value

section History

variable {serialize : Response → Option Value} {history : List (ClientRecord Callback Response)}
  {registration : Registration Callback} {value : Value}

theorem DeliveredAfter.append (after : DeliveredAfter serialize history registration value)
    (record : ClientRecord Callback Response) :
    DeliveredAfter serialize (history ++ [record]) registration value := by
  obtain ⟨before, rest, response, split, delivered, serialized⟩ := after
  exact ⟨before, rest ++ [record], response, by simp [split], by simp [delivered], serialized⟩

theorem DeliveredAfter.registered (after : DeliveredAfter serialize history registration value) :
    .registered registration ∈ history := by
  obtain ⟨before, rest, response, split, _⟩ := after
  simp [split]

/-- A record at the end is what was waited for, or it makes no difference. -/
theorem deliveredAfter_append_iff {record : ClientRecord Callback Response} :
    DeliveredAfter serialize (history ++ [record]) registration value ↔
      DeliveredAfter serialize history registration value ∨
        .registered registration ∈ history ∧
          ∃ response, record = .delivered registration.sequence response ∧
            serialize response = some value := by
  constructor
  · rintro ⟨before, rest, response, split, delivered, serialized⟩
    rcases List.eq_nil_or_concat rest with rfl | ⟨rest, last, rfl⟩
    · simp at delivered
    · have parts : history = before ++ .registered registration :: rest ∧ record = last := by
        rw [List.concat_eq_append, ← List.cons_append, ← List.append_assoc] at split
        simpa using List.append_inj' split rfl
      rw [List.concat_eq_append, List.mem_append, List.mem_singleton] at delivered
      rcases delivered with earlier | rfl
      · exact .inl ⟨before, rest, response, parts.1, earlier, serialized⟩
      · exact .inr ⟨by simp [parts.1], response, parts.2, serialized⟩
  · rintro (earlier | ⟨registered, response, rfl, serialized⟩)
    · exact earlier.append record
    · obtain ⟨before, rest, rfl⟩ := List.append_of_mem registered
      exact ⟨before, rest ++ [.delivered registration.sequence response], response, by simp,
        by simp, serialized⟩

end History

/-- The requests that were sent, in order. -/
def registrations (history : List (ClientRecord Callback Response)) :
    List (Registration Callback) :=
  history.filterMap fun
    | .registered registration => some registration
    | .delivered _ _ => none

theorem mem_registrations {history : List (ClientRecord Callback Response)}
    {registration : Registration Callback} :
    registration ∈ registrations history ↔ .registered registration ∈ history := by
  simp only [registrations, List.mem_filterMap]
  constructor
  · rintro ⟨record, member, same⟩
    cases record with
    | registered other =>
      obtain rfl := Option.some.inj same
      exact member
    | delivered => simp at same
  · intro member
    exact ⟨_, member, rfl⟩

/-- What a promise is for. -/
inductive Stage (Thread : Type) where
  | unborn
  | pending (sequence : Int64)
  | answering (thread : Thread)
  | used
deriving DecidableEq

namespace GenericClient

/-- Where the requests are, and that every promise is at its stage. -/
structure Tracks (serialize : Response → Option Value) (stage : Nat → Stage Thread)
    (client : GenericClient Thread Callback Response Value) : Prop where
  unborn : ∀ id, client.promises.length ≤ id → stage id = .unborn
  made : (registrations client.history).map Registration.promise =
    List.range client.promises.length
  pending : ∀ {sequence entry}, client.pending.lookup sequence = some entry →
    stage entry.promise = .pending sequence ∧ entry.future = entry.promise ∧
      client.promises[entry.promise]? = some none ∧
      .registered ⟨entry.promise, sequence, entry.callback⟩ ∈ client.history ∧
      ∀ value, ¬ DeliveredAfter serialize client.history
        ⟨entry.promise, sequence, entry.callback⟩ value
  answering : ∀ {thread sequence entry value},
    client.places thread = .answering sequence entry value →
    stage entry.promise = .answering thread ∧ entry.future = entry.promise ∧
      client.promises[entry.promise]? = some none ∧
      DeliveredAfter serialize client.history ⟨entry.promise, sequence, entry.callback⟩ value
  calling : ∀ {thread sequence entry}, client.places thread = .calling sequence entry →
    stage entry.promise = .answering thread ∧ entry.future = entry.promise ∧
      ∃ value, client.promises[entry.promise]? = some (some value) ∧
        DeliveredAfter serialize client.history ⟨entry.promise, sequence, entry.callback⟩ value
  invoked : ∀ call ∈ client.invoked, stage call.future = .used ∧
    DeliveredAfter serialize client.history ⟨call.future, call.sequence, call.callback⟩ call.value
  once : (client.invoked.map Invocation.future).Nodup
  settled : ∀ {registration}, .registered registration ∈ client.history →
    client.pending.lookup registration.sequence =
        some ⟨registration.promise, registration.callback, registration.promise⟩ ∨
      (∃ thread, (client.places thread).held = some (registration.sequence,
        ⟨registration.promise, registration.callback, registration.promise⟩)) ∨
      ∃ call ∈ client.invoked, call.future = registration.promise ∧
        call.sequence = registration.sequence ∧ call.callback = registration.callback

/-- The mutex belongs to whoever is at a place where it is held, and a number that was
returned stays free until it is registered. -/
structure Reserves (client : GenericClient Thread Callback Response Value) : Prop where
  mutex : ∀ thread, (client.places thread).locks = true ↔ client.mutex = some thread
  number : ∀ {thread callback sequence}, client.places thread = .sent callback sequence →
    sequence ∉ client.pending

theorem tracks_initial (serialize : Response → Option Value) :
    Tracks serialize (fun _ => .unborn)
      (initial : GenericClient Thread Callback Response Value) where
  unborn _ _ := rfl
  made := rfl
  pending found := by simp [initial] at found
  answering place := by simp [initial] at place
  calling place := by simp [initial] at place
  invoked call member := by simp [initial] at member
  once := by simp [initial]
  settled registered := by simp [initial] at registered

theorem reserves_initial :
    Reserves (initial : GenericClient Thread Callback Response Value) where
  mutex thread := by simp [initial, ClientPlace.locks]
  number place := by simp [initial] at place

variable [DecidableEq Thread]

/-- The steps of a client, one by one, and the requests that may be sent. -/
inductive Acts (serialize : Response → Option Value) (Requests : Callback → Prop) :
    GenericClient Thread Callback Response Value → GenericClient Thread Callback Response Value →
      Prop where
  | send {client thread callback} (requests : Requests callback)
      (idle : client.places thread = .idle) (free : client.mutex = none) :
      Acts serialize Requests client
        { client.setPlace thread (.sending callback) with mutex := some thread }
  | respond {client thread} (sequence : Int64) (response : Response)
      (idle : client.places thread = .idle) (free : client.mutex = none) :
      Acts serialize Requests client
        { client.setPlace thread (.responding sequence response) with mutex := some thread }
  | fail {client thread callback} (place : client.places thread = .sending callback) :
      Acts serialize Requests client (client.unlock thread .idle)
  | number {client thread callback sequence} (place : client.places thread = .sending callback)
      (fresh : sequence ∉ client.pending) :
      Acts serialize Requests client (client.setPlace thread (.sent callback sequence))
  | register {client thread callback sequence}
      (place : client.places thread = .sent callback sequence) :
      Acts serialize Requests client (unlock { client with
        promises := client.promises ++ [none]
        pending := client.pending.insert sequence
          ⟨client.promises.length, callback, client.promises.length⟩
        history := client.history ++
          [.registered ⟨client.promises.length, sequence, callback⟩] } thread .idle)
  | ignore {client thread sequence response}
      (place : client.places thread = .responding sequence response)
      (unusable : serialize response = none ∨ client.pending.lookup sequence = none) :
      Acts serialize Requests client (unlock { client with
        history := client.history ++ [.delivered sequence response] } thread .idle)
  | take {client thread sequence response value entry}
      (place : client.places thread = .responding sequence response)
      (serialized : serialize response = some value)
      (found : client.pending.lookup sequence = some entry) :
      Acts serialize Requests client (unlock { client with
        history := client.history ++ [.delivered sequence response]
        pending := client.pending.erase sequence } thread (.answering sequence entry value))
  | throw {client thread sequence entry value}
      (place : client.places thread = .answering sequence entry value)
      (satisfied : client.promises[entry.promise]? ≠ some none) :
      Acts serialize Requests client (client.setPlace thread .idle)
  | fulfil {client thread sequence entry value}
      (place : client.places thread = .answering sequence entry value)
      (unset : client.promises[entry.promise]? = some none) :
      Acts serialize Requests client (setPlace { client with
        promises := client.promises.set entry.promise (some value) } thread
        (.calling sequence entry))
  | call {client thread sequence entry value}
      (place : client.places thread = .calling sequence entry)
      (ready : client.promises[entry.future]? = some (some value)) :
      Acts serialize Requests client (setPlace { client with
        invoked := client.invoked ++ [⟨entry.future, sequence, entry.callback, value⟩] } thread
        .idle)

variable {client next : GenericClient Thread Callback Response Value}
  {serialize : Response → Option Value} {Requests : Callback → Prop}
  {event : ClientEvent Thread Callback Response} {thread : Thread}
variable {place : ClientPlace Callback Response Value} {stage : Nat → Stage Thread}
  {changed : GenericClient Thread Callback Response Value}

theorem lock_cases (step : client.lock thread place = some next) :
    client.places thread = .idle ∧ client.mutex = none ∧
      next = { client.setPlace thread place with mutex := some thread } := by
  unfold lock at step
  split at step
  next idle free => exact ⟨idle, free, (Option.some.inj step).symm⟩
  next => simp at step

/-- What one step of a service client can be. -/
theorem acts_of_step (fresh : event.FreshNumber client)
    (requests : ∀ thread callback, event = .asyncSendRequest thread callback → Requests callback)
    (step : event.apply serialize client = some next) : Acts serialize Requests client next := by
  cases event with
  | asyncSendRequest thread callback =>
    obtain ⟨idle, free, rfl⟩ := lock_cases step
    exact .send (requests thread callback rfl) idle free
  | handleResponse thread sequence response =>
    obtain ⟨idle, free, rfl⟩ := lock_cases step
    exact .respond sequence response idle free
  | rclSendRequest thread sequence =>
    simp only [ClientEvent.apply, rclSendRequest] at step
    split at step
    next callback place =>
      cases sequence with
      | none =>
        obtain rfl := Option.some.inj step
        exact .fail place
      | some sequence =>
        obtain rfl := Option.some.inj step
        exact .number place fresh
    next => simp at step
  | register thread =>
    simp only [ClientEvent.apply, GenericClient.register] at step
    split at step
    next callback sequence place =>
      obtain rfl := Option.some.inj step
      exact .register place
    next => simp at step
  | takePending thread =>
    simp only [ClientEvent.apply, takePending] at step
    split at step
    next sequence response place =>
      split at step
      next failed =>
        obtain rfl := Option.some.inj step
        exact .ignore place (.inl failed)
      next value serialized =>
        split at step
        next unknown =>
          obtain rfl := Option.some.inj step
          exact .ignore place (.inr unknown)
        next entry found =>
          obtain rfl := Option.some.inj step
          exact .take place serialized found
    next => simp at step
  | setValue thread =>
    simp only [ClientEvent.apply, setValue] at step
    split at step
    next sequence entry value place =>
      split at step
      next unset =>
        obtain rfl := Option.some.inj step
        exact .fulfil place unset
      next satisfied =>
        obtain rfl := Option.some.inj step
        exact .throw place satisfied
    next => simp at step
  | callCallback thread =>
    simp only [ClientEvent.apply, callCallback] at step
    split at step
    next sequence entry place =>
      split at step
      next value ready =>
        obtain rfl := Option.some.inj step
        exact .call place ready
      next => simp at step
    next => simp at step

@[simp] theorem setPlace_places (thread other : Thread)
    (place : ClientPlace Callback Response Value) :
    (client.setPlace thread place).places other =
      if other = thread then place else client.places other := by
  simp [setPlace, Function.update_apply]

/-- A thread with the mutex releases it; whatever it did to the tables, nobody else has a
number to register. -/
theorem Reserves.unlock (reserves : Reserves client) (held : (client.places thread).locks = true)
    (same : changed.places = client.places) (free : place.locks = false) :
    Reserves (changed.unlock thread place) := by
  have owner := (reserves.mutex thread).mp held
  have others {other : Thread} (apart : other ≠ thread) :
      (client.places other).locks = false := by
    rw [Bool.eq_false_iff]
    intro locks
    have mine := (reserves.mutex other).mp locks
    rw [owner, Option.some.injEq] at mine
    exact apart mine.symm
  refine ⟨fun other => ?_, fun {other callback sequence} sent => ?_⟩
  · by_cases apart : other = thread
    · simp [GenericClient.unlock, apart, free]
    · simp [GenericClient.unlock, apart, same, others apart]
  · by_cases apart : other = thread
    · simp only [GenericClient.unlock, setPlace_places, apart, if_true] at sent
      simp [sent, ClientPlace.locks] at free
    · simp only [GenericClient.unlock, setPlace_places, apart, if_false, same] at sent
      simpa [sent, ClientPlace.locks] using others apart

/-- A thread moves on with or without the mutex. -/
theorem Reserves.move (reserves : Reserves client) (samePlaces : changed.places = client.places)
    (sameMutex : changed.mutex = client.mutex) (samePending : changed.pending = client.pending)
    (sameLock : place.locks = (client.places thread).locks)
    (fresh : ∀ {callback sequence}, place = .sent callback sequence →
      sequence ∉ client.pending) : Reserves (changed.setPlace thread place) := by
  refine ⟨fun other => ?_, fun {other callback sequence} sent => ?_⟩
  · have owner : (changed.setPlace thread place).mutex = client.mutex := sameMutex
    by_cases apart : other = thread
    · simpa [apart, sameLock, owner] using reserves.mutex thread
    · simpa [apart, samePlaces, owner] using reserves.mutex other
  · have table : (changed.setPlace thread place).pending = client.pending := samePending
    rw [table]
    by_cases apart : other = thread
    · simp only [setPlace_places, apart, if_true] at sent
      exact fresh sent
    · simp only [setPlace_places, apart, if_false, samePlaces] at sent
      exact reserves.number sent

/-- A thread takes the mutex, and has no number yet. -/
theorem Reserves.lock (reserves : Reserves client) (free : client.mutex = none)
    (locks : place.locks = true) (unsent : ∀ callback sequence, place ≠ .sent callback sequence) :
    Reserves { client.setPlace thread place with mutex := some thread } := by
  refine ⟨fun other => ?_, fun {other callback sequence} sent => ?_⟩
  · by_cases apart : other = thread
    · simp [apart, locks]
    · simpa [apart, free, Ne.symm apart] using reserves.mutex other
  · by_cases apart : other = thread
    · simp only [setPlace_places, apart, if_true] at sent
      exact absurd sent (unsent callback sequence)
    · simp only [setPlace_places, apart, if_false] at sent
      exact reserves.number sent

theorem Acts.reserves (acts : Acts serialize Requests client next) (reserves : Reserves client) :
    Reserves next := by
  cases acts with
  | send requests idle free | respond sequence response idle free =>
    exact reserves.lock free rfl (by simp)
  | fail place | register place | ignore place | take place =>
    exact reserves.unlock (by simp [place, ClientPlace.locks]) rfl rfl
  | number place fresh =>
    refine reserves.move rfl rfl rfl (by simp [place, ClientPlace.locks]) fun sent => ?_
    obtain ⟨_, rfl⟩ := ClientPlace.sent.inj sent
    exact fresh
  | throw place | fulfil place | call place =>
    exact reserves.move rfl rfl rfl (by simp [place, ClientPlace.locks]) (by simp)

/-- The tables are looked at and the thread is not answering a request. -/
theorem Tracks.move (mutex : Option Thread) (tracks : Tracks serialize stage client)
    (before : (client.places thread).held = none) (after : place.held = none) :
    Tracks serialize stage { client.setPlace thread place with mutex := mutex } where
  unborn := tracks.unborn
  made := tracks.made
  pending := tracks.pending
  answering {other sequence entry value} answers := by
    by_cases apart : other = thread
    · simp only [setPlace_places, apart, if_true] at answers
      simp [answers, ClientPlace.held] at after
    · simp only [setPlace_places, apart, if_false] at answers
      exact tracks.answering answers
  calling {other sequence entry} calls := by
    by_cases apart : other = thread
    · simp only [setPlace_places, apart, if_true] at calls
      simp [calls, ClientPlace.held] at after
    · simp only [setPlace_places, apart, if_false] at calls
      exact tracks.calling calls
  invoked := tracks.invoked
  once := tracks.once
  settled {registration} registered := by
    rcases tracks.settled registered with pending | ⟨other, holds⟩ | invoked
    · exact .inl pending
    · have apart : other ≠ thread := by
        rintro rfl
        simp [before] at holds
      exact .inr (.inl ⟨other, by simpa [apart] using holds⟩)
    · exact .inr (.inr invoked)

section Steps

variable {stage : Nat → Stage Thread}

omit [DecidableEq Thread] in
/-- A promise that was made has its number. -/
theorem lt_of_stage (tracks : Tracks serialize stage client) {id : Nat}
    (made : stage id ≠ .unborn) : id < client.promises.length := by
  by_contra outside
  exact made (tracks.unborn id (by omega))

omit [DecidableEq Thread] in
theorem promise_lt (tracks : Tracks serialize stage client)
    {registration : Registration Callback}
    (registered : .registered registration ∈ client.history) :
    registration.promise < client.promises.length := by
  have member : registration.promise ∈ (registrations client.history).map Registration.promise :=
    List.mem_map_of_mem (mem_registrations.mpr registered)
  rw [tracks.made] at member
  exact List.mem_range.mp member

omit [DecidableEq Thread] in
/-- A response comes that no pending request can use. -/
theorem Tracks.deliver (tracks : Tracks serialize stage client) {sequence : Int64}
    {response : Response}
    (unusable : serialize response = none ∨ client.pending.lookup sequence = none) :
    Tracks serialize stage
      { client with history := client.history ++ [.delivered sequence response] } where
  unborn := tracks.unborn
  made := by simpa [registrations] using tracks.made
  pending {other entry} found := by
    obtain ⟨staged, future, unset, registered, undelivered⟩ := tracks.pending found
    refine ⟨staged, future, unset, by simp [registered], fun value after => ?_⟩
    rcases deliveredAfter_append_iff.mp after with earlier | ⟨_, delivered, same, serialized⟩
    · exact undelivered value earlier
    · obtain ⟨rfl, rfl⟩ := ClientRecord.delivered.inj same
      rcases unusable with failed | unknown
      · simp [failed] at serialized
      · simp [unknown] at found
  answering place := by
    obtain ⟨staged, future, unset, after⟩ := tracks.answering place
    exact ⟨staged, future, unset, after.append _⟩
  calling place := by
    obtain ⟨staged, future, value, set, after⟩ := tracks.calling place
    exact ⟨staged, future, value, set, after.append _⟩
  invoked call member := by
    obtain ⟨staged, after⟩ := tracks.invoked call member
    exact ⟨staged, after.append _⟩
  once := tracks.once
  settled registered := tracks.settled (by simpa using registered)

omit [DecidableEq Thread] in
/-- A request is registered under a number that no other has. -/
theorem Tracks.register (tracks : Tracks serialize stage client) {sequence : Int64}
    (callback : Callback) (fresh : sequence ∉ client.pending) :
    Tracks serialize (Function.update stage client.promises.length (.pending sequence))
      { client with
        promises := client.promises ++ [none]
        pending := client.pending.insert sequence
          ⟨client.promises.length, callback, client.promises.length⟩
        history := client.history ++
          [.registered ⟨client.promises.length, sequence, callback⟩] } := by
  have kept (id : Nat) (made : stage id ≠ .unborn) :
      Function.update stage client.promises.length (.pending sequence) id = stage id ∧
        (client.promises ++ [none])[id]? = client.promises[id]? := by
    have inside := lt_of_stage tracks made
    exact ⟨Function.update_of_ne (by omega) _ _, List.getElem?_append_left inside⟩
  constructor
  · intro id outside
    simp only [List.length_append, List.length_singleton] at outside
    rw [Function.update_of_ne (by omega)]
    exact tracks.unborn id (by omega)
  · have before := tracks.made
    simp only [registrations] at before ⊢
    simp [before, List.range_succ]
  · intro other entry found
    rw [lookup_insert_ite] at found
    split at found
    next same =>
      obtain rfl := Option.some.inj found
      subst same
      refine ⟨by simp, rfl, by simp, by simp, fun value after => ?_⟩
      rcases deliveredAfter_append_iff.mp after with earlier | ⟨_, _, impossible, _⟩
      · exact absurd (promise_lt tracks earlier.registered) (by simp)
      · simp at impossible
    next =>
      obtain ⟨staged, future, unset, registered, undelivered⟩ := tracks.pending found
      obtain ⟨sameStage, samePromise⟩ := kept entry.promise (by simp [staged])
      refine ⟨sameStage.trans staged, future, samePromise.trans unset, by simp [registered],
        fun value after => ?_⟩
      rcases deliveredAfter_append_iff.mp after with earlier | ⟨_, _, impossible, _⟩
      · exact undelivered value earlier
      · simp at impossible
  · intro thread other entry value place
    obtain ⟨staged, future, unset, after⟩ := tracks.answering place
    obtain ⟨sameStage, samePromise⟩ := kept entry.promise (by simp [staged])
    exact ⟨sameStage.trans staged, future, samePromise.trans unset, after.append _⟩
  · intro thread other entry place
    obtain ⟨staged, future, value, set, after⟩ := tracks.calling place
    obtain ⟨sameStage, samePromise⟩ := kept entry.promise (by simp [staged])
    exact ⟨sameStage.trans staged, future, value, samePromise.trans set, after.append _⟩
  · intro call member
    obtain ⟨staged, after⟩ := tracks.invoked call member
    exact ⟨(kept call.future (by simp [staged])).1.trans staged, after.append _⟩
  · exact tracks.once
  · intro registration registered
    simp only [List.mem_append, List.mem_singleton, ClientRecord.registered.injEq] at registered
    rcases registered with earlier | rfl
    · rcases tracks.settled earlier with pending | rest
      · have apart : registration.sequence ≠ sequence := by
          rintro rfl
          exact fresh (mem_of_lookup pending)
        exact .inl (by rw [lookup_insert_ite, if_neg apart, pending])
      · exact .inr rest
    · exact .inl (by simp)

/-- A thread takes a pending request out to answer it. -/
theorem Tracks.take (tracks : Tracks serialize stage client) {sequence : Int64}
    {response : Response} {value : Value} {entry : PendingRequest Callback}
    (before : (client.places thread).held = none) (serialized : serialize response = some value)
    (found : client.pending.lookup sequence = some entry) :
    Tracks serialize (Function.update stage entry.promise (.answering thread))
      (unlock { client with
        history := client.history ++ [.delivered sequence response]
        pending := client.pending.erase sequence } thread (.answering sequence entry value)) := by
  obtain ⟨staged, future, unset, registered, _⟩ := tracks.pending found
  have kept {id : Nat} (other : stage id ≠ .pending sequence) :
      Function.update stage entry.promise (.answering thread) id = stage id :=
    Function.update_of_ne (by rintro rfl; exact other staged) _ _
  constructor
  · intro id outside
    have unmade := tracks.unborn id outside
    rw [kept (by simp [unmade]), unmade]
  · simpa [registrations, unlock, setPlace] using tracks.made
  · intro other another foundThere
    change (client.pending.erase sequence).lookup other = some another at foundThere
    rw [lookup_erase_ite] at foundThere
    split at foundThere
    next => simp at foundThere
    next apart =>
      obtain ⟨stagedThere, futureThere, unsetThere, registeredThere, undelivered⟩ :=
        tracks.pending foundThere
      refine ⟨(kept (by simp [stagedThere, apart])).trans stagedThere, futureThere, unsetThere,
        by simp [unlock, setPlace, registeredThere], fun value after => ?_⟩
      rcases deliveredAfter_append_iff.mp after with earlier | ⟨_, _, same, _⟩
      · exact undelivered value earlier
      · exact apart (ClientRecord.delivered.inj same).1.symm
  · intro other anotherSequence another anotherValue place
    simp only [unlock, setPlace_places] at place
    split at place
    next mine =>
      obtain ⟨rfl, rfl, rfl⟩ := ClientPlace.answering.inj place
      refine ⟨by simp [mine], future, unset, deliveredAfter_append_iff.mpr (.inr ?_)⟩
      exact ⟨registered, response, rfl, serialized⟩
    next =>
      obtain ⟨stagedThere, futureThere, unsetThere, after⟩ := tracks.answering place
      exact ⟨(kept (by simp [stagedThere])).trans stagedThere, futureThere, unsetThere,
        after.append _⟩
  · intro other anotherSequence another place
    simp only [unlock, setPlace_places] at place
    split at place
    next => simp at place
    next =>
      obtain ⟨stagedThere, futureThere, set, isSet, after⟩ := tracks.calling place
      exact ⟨(kept (by simp [stagedThere])).trans stagedThere, futureThere, set, isSet,
        after.append _⟩
  · intro call member
    obtain ⟨stagedThere, after⟩ := tracks.invoked call member
    exact ⟨(kept (by simp [stagedThere])).trans stagedThere, after.append _⟩
  · exact tracks.once
  · intro registration registeredThere
    rcases tracks.settled (by simpa [unlock, setPlace] using registeredThere) with
      pending | ⟨other, holds⟩ | invoked
    · by_cases same : registration.sequence = sequence
      · -- It is the request that is taken.
        rw [same, found] at pending
        obtain rfl := Option.some.inj pending
        exact .inr (.inl ⟨thread, by simp [unlock, ClientPlace.held, same]⟩)
      · refine .inl ?_
        change (client.pending.erase sequence).lookup _ = _
        rw [lookup_erase_ite, if_neg same, pending]
    · have apart : other ≠ thread := by
        rintro rfl
        simp [before] at holds
      exact .inr (.inl ⟨other, by simpa [unlock, apart] using holds⟩)
    · exact .inr (.inr invoked)

/-- The promise of the request that a thread answers gets its value. -/
theorem Tracks.fulfil (tracks : Tracks serialize stage client) {sequence : Int64} {value : Value}
    {entry : PendingRequest Callback}
    (place : client.places thread = .answering sequence entry value) :
    Tracks serialize stage (setPlace { client with
      promises := client.promises.set entry.promise (some value) } thread
      (.calling sequence entry)) := by
  obtain ⟨staged, future, unset, after⟩ := tracks.answering place
  have kept {id : Nat} (other : stage id ≠ .answering thread) :
      (client.promises.set entry.promise (some value))[id]? = client.promises[id]? :=
    List.getElem?_set_ne (by rintro rfl; exact other staged)
  constructor
  · intro id outside
    exact tracks.unborn id (by simpa [setPlace] using outside)
  · simpa [setPlace] using tracks.made
  · intro other another found
    obtain ⟨stagedThere, futureThere, unsetThere, registered, undelivered⟩ := tracks.pending found
    have samePromise := kept (show stage another.promise ≠ _ by simp [stagedThere])
    exact ⟨stagedThere, futureThere, samePromise.trans unsetThere, registered, undelivered⟩
  · intro other anotherSequence another anotherValue answers
    simp only [setPlace_places] at answers
    split at answers
    next => simp at answers
    next apart =>
      obtain ⟨stagedThere, futureThere, unsetThere, afterThere⟩ := tracks.answering answers
      have samePromise := kept (show stage another.promise ≠ _ by simp [stagedThere, apart])
      exact ⟨stagedThere, futureThere, samePromise.trans unsetThere, afterThere⟩
  · intro other anotherSequence another calls
    simp only [setPlace_places] at calls
    split at calls
    next mine =>
      obtain ⟨rfl, rfl⟩ := ClientPlace.calling.inj calls
      have inside := lt_of_stage tracks (show stage entry.promise ≠ .unborn by simp [staged])
      exact ⟨mine ▸ staged, future, value, List.getElem?_set_self inside, after⟩
    next apart =>
      obtain ⟨stagedThere, futureThere, set, isSet, afterThere⟩ := tracks.calling calls
      have samePromise := kept (show stage another.promise ≠ _ by simp [stagedThere, apart])
      exact ⟨stagedThere, futureThere, set, samePromise.trans isSet, afterThere⟩
  · exact tracks.invoked
  · exact tracks.once
  · intro registration registered
    rcases tracks.settled registered with pending | ⟨other, holds⟩ | invoked
    · exact .inl pending
    · refine .inr (.inl ⟨other, ?_⟩)
      by_cases apart : other = thread
      · subst apart
        simpa [place, ClientPlace.held] using holds
      · simpa [apart] using holds
    · exact .inr (.inr invoked)

/-- The callback is called. -/
theorem Tracks.call (tracks : Tracks serialize stage client) {sequence : Int64} {value : Value}
    {entry : PendingRequest Callback} (place : client.places thread = .calling sequence entry)
    (ready : client.promises[entry.future]? = some (some value)) :
    Tracks serialize (Function.update stage entry.promise .used) (setPlace { client with
      invoked := client.invoked ++ [⟨entry.future, sequence, entry.callback, value⟩] } thread
      .idle) := by
  obtain ⟨staged, future, set, isSet, after⟩ := tracks.calling place
  have same : set = value := by
    rw [future, isSet] at ready
    exact Option.some.inj (Option.some.inj ready)
  subst same
  have kept {id : Nat} (other : stage id ≠ .answering thread) :
      Function.update stage entry.promise .used id = stage id :=
    Function.update_of_ne (by rintro rfl; exact other staged) _ _
  constructor
  · intro id outside
    have unmade := tracks.unborn id outside
    rw [kept (by simp [unmade]), unmade]
  · exact tracks.made
  · intro other another found
    obtain ⟨stagedThere, rest⟩ := tracks.pending found
    exact ⟨(kept (by simp [stagedThere])).trans stagedThere, rest⟩
  · intro other anotherSequence another anotherValue answers
    simp only [setPlace_places] at answers
    split at answers
    next => simp at answers
    next apart =>
      obtain ⟨stagedThere, rest⟩ := tracks.answering answers
      exact ⟨(kept (by simp [stagedThere, apart])).trans stagedThere, rest⟩
  · intro other anotherSequence another calls
    simp only [setPlace_places] at calls
    split at calls
    next => simp at calls
    next apart =>
      obtain ⟨stagedThere, rest⟩ := tracks.calling calls
      exact ⟨(kept (by simp [stagedThere, apart])).trans stagedThere, rest⟩
  · intro call member
    simp only [setPlace, List.mem_append, List.mem_singleton] at member
    rcases member with earlier | rfl
    · obtain ⟨stagedThere, afterThere⟩ := tracks.invoked call earlier
      exact ⟨(kept (by simp [stagedThere])).trans stagedThere, afterThere⟩
    · exact ⟨by simp [future], by simpa [future, setPlace] using after⟩
  · have unused : entry.future ∉ client.invoked.map Invocation.future := by
      rintro member
      obtain ⟨call, earlier, sameFuture⟩ := List.mem_map.mp member
      have used := (tracks.invoked call earlier).1
      rw [sameFuture, future, staged] at used
      simp at used
    simpa [setPlace, List.nodup_append, tracks.once] using unused
  · intro registration registered
    rcases tracks.settled registered with pending | ⟨other, holds⟩ | ⟨call, member, same⟩
    · exact .inl pending
    · by_cases apart : other = thread
      · subst apart
        simp only [place, ClientPlace.held, Option.some.injEq, Prod.mk.injEq] at holds
        obtain ⟨rfl, rfl⟩ := holds
        exact .inr (.inr ⟨⟨registration.promise, registration.sequence, registration.callback,
          set⟩, by simp [setPlace], rfl, rfl, rfl⟩)
      · exact .inr (.inl ⟨other, by simpa [apart] using holds⟩)
    · exact .inr (.inr ⟨call, by simp [setPlace, member], same⟩)

/-- Every step keeps track of the promises. -/
theorem Acts.tracks (acts : Acts serialize Requests client next) (reserves : Reserves client)
    (tracks : Tracks serialize stage client) : ∃ stage, Tracks serialize stage next := by
  cases acts with
  | send requests idle | respond sequence response idle =>
    exact ⟨stage, tracks.move _ (by simp [idle, ClientPlace.held]) rfl⟩
  | fail place => exact ⟨stage, tracks.move _ (by simp [place, ClientPlace.held]) rfl⟩
  | number place fresh => exact ⟨stage, tracks.move _ (by simp [place, ClientPlace.held]) rfl⟩
  | @register _ callback _ place =>
    have registered := tracks.register callback (reserves.number place)
    exact ⟨_, registered.move none (by simp [place, ClientPlace.held]) rfl⟩
  | ignore place unusable =>
    have delivered := tracks.deliver unusable
    exact ⟨_, delivered.move none (by simp [place, ClientPlace.held]) rfl⟩
  | take place serialized found =>
    exact ⟨_, tracks.take (by simp [place, ClientPlace.held]) serialized found⟩
  | throw place satisfied => exact absurd (tracks.answering place).2.2.1 satisfied
  | fulfil place unset => exact ⟨_, tracks.fulfil place⟩
  | call place ready => exact ⟨_, tracks.call place ready⟩

end Steps

/-- The steps that a thread with a request to answer has left. -/
def ClientPlace.remaining (thread : Thread) :
    ClientPlace Callback Response Value → List (ClientEvent Thread Callback Response)
  | .answering _ _ _ => [.setValue thread, .callCallback thread]
  | .calling _ _ => [.callCallback thread]
  | _ => []

/-- The future has its value when the callback is called. -/
theorem calls_ready (tracks : Tracks serialize stage client) {sequence : Int64}
    {entry : PendingRequest Callback} (place : client.places thread = .calling sequence entry) :
    ∃ next value, client.callCallback thread = some next ∧
      next.invoked = client.invoked ++ [⟨entry.promise, sequence, entry.callback, value⟩] ∧
      DeliveredAfter serialize client.history ⟨entry.promise, sequence, entry.callback⟩ value := by
  obtain ⟨_, future, value, set, after⟩ := tracks.calling place
  exact ⟨setPlace { client with
      invoked := client.invoked ++ [⟨entry.promise, sequence, entry.callback, value⟩] } thread
      .idle, value, by simp [callCallback, place, future, set], rfl, after⟩

/-- Nothing keeps a thread from calling the callback of the request it answers. -/
theorem calls_held (tracks : Tracks serialize stage client) {sequence : Int64}
    {entry : PendingRequest Callback}
    (holds : (client.places thread).held = some (sequence, entry)) :
    ∃ next value, (ClientPlace.remaining thread (client.places thread)).foldlM
        (fun client event => event.apply serialize client) client = some next ∧
      next.invoked = client.invoked ++ [⟨entry.promise, sequence, entry.callback, value⟩] ∧
      DeliveredAfter serialize client.history ⟨entry.promise, sequence, entry.callback⟩ value := by
  cases place : client.places thread with
  | answering other another value =>
    simp only [place, ClientPlace.held, Option.some.injEq, Prod.mk.injEq] at holds
    obtain ⟨rfl, rfl⟩ := holds
    obtain ⟨_, _, unset, _⟩ := tracks.answering place
    obtain ⟨next, set, called, invoked⟩ := calls_ready (tracks.fulfil place)
      (show places _ thread = .calling other another by simp)
    refine ⟨next, set, ?_, invoked⟩
    simp [ClientPlace.remaining, ClientEvent.apply, setValue, place, unset, called]
  | calling other another =>
    simp only [place, ClientPlace.held, Option.some.injEq, Prod.mk.injEq] at holds
    obtain ⟨rfl, rfl⟩ := holds
    obtain ⟨next, value, called, invoked⟩ := calls_ready tracks place
    exact ⟨next, value, by simp [ClientPlace.remaining, ClientEvent.apply, called], invoked⟩
  | idle | sending | sent | responding => simp [place, ClientPlace.held] at holds

end GenericClient

end CoBridge.Ros2
