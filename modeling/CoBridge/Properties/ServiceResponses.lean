import CoBridge.Properties.ServiceCalls

/-!
# Responses of services go to their requests

Every client of the bridge keeps track of its requests, however requests and responses
interleave, so what the bridge sends to a connection answers a request that came from it.
-/

namespace CoBridge.Ros2

open Library GenericClient

variable {Thread Response : Type} {serialize : Response → Option (List UInt8)}

/-- The request that a thread is sending. -/
def ClientPlace.requested {Callback Value : Type} :
    ClientPlace Callback Response Value → Option Callback
  | .sending callback | .sent callback _ => some callback
  | _ => none

theorem ClientPlace.locks_of_requested {Callback Value : Type} {callback : Callback}
    {place : ClientPlace Callback Response Value} (sends : place.requested = some callback) :
    place.locks = true := by
  cases place <;> first | rfl | cases sends

/-- The requests that were sent, in order. -/
def GenericClient.sentCalls (client : ServiceClient Thread Response) : List ServiceCall :=
  (registrations client.history).map Registration.callback

/-- The client sent some of the requests, each once and in their order, and a thread that is
sending has one that came after those. -/
structure Serves (requests : List ServiceCall) (client : ServiceClient Thread Response) :
    Prop where
  registered : client.sentCalls.Sublist requests
  sending : ∀ {thread call}, (client.places thread).requested = some call →
    (client.sentCalls ++ [call]).Sublist requests

theorem serves_initial (requests : List ServiceCall) :
    Serves requests (initial : ServiceClient Thread Response) where
  registered := List.nil_sublist requests
  sending sends := by simp [initial, ClientPlace.requested] at sends

theorem Serves.mono {requests more : List ServiceCall} {client : ServiceClient Thread Response}
    (serves : Serves requests client) (grown : requests.Sublist more) : Serves more client :=
  ⟨serves.registered.trans grown, fun sends => (serves.sending sends).trans grown⟩

variable [DecidableEq Thread] {requests more : List ServiceCall} {Requests : ServiceCall → Prop}
  {client next : ServiceClient Thread Response} {thread : Thread}

/-- A thread moves on and sends at most what it was sending, or a new request. -/
theorem Serves.move {place : ClientPlace ServiceCall Response (List UInt8)}
    {changed : ServiceClient Thread Response} (mutex : Option Thread)
    (serves : Serves requests client) (samePlaces : changed.places = client.places)
    (sameCalls : changed.sentCalls = client.sentCalls)
    (sends : ∀ {call}, place.requested = some call →
      (client.sentCalls ++ [call]).Sublist requests) :
    Serves requests { changed.setPlace thread place with mutex := mutex } where
  registered := sameCalls ▸ serves.registered
  sending {other call} requested := by
    change (changed.sentCalls ++ [call]).Sublist requests
    rw [sameCalls]
    by_cases apart : other = thread
    · exact sends (by simpa [apart] using requested)
    · exact serves.sending (by simpa [apart, samePlaces] using requested)

/-- A request that is registered follows those that were, since no other thread is sending. -/
theorem Serves.register {callback : ServiceCall} {sequence : Int64}
    (serves : Serves requests client)
    (reserves : Reserves client) (place : client.places thread = .sent callback sequence) :
    Serves requests (unlock { client with
      promises := client.promises ++ [none]
      pending := client.pending.insert sequence
        ⟨client.promises.length, callback, client.promises.length⟩
      history := client.history ++
        [.registered ⟨client.promises.length, sequence, callback⟩] } thread .idle) := by
  have follows := serves.sending (show (client.places thread).requested = _ by rw [place]; rfl)
  refine ⟨by simpa [sentCalls, registrations, unlock, setPlace] using follows,
    fun {other call} requested => ?_⟩
  by_cases apart : other = thread
  · simp [unlock, setPlace, apart, ClientPlace.requested] at requested
  · have sends : (client.places other).requested = some call := by
      simpa [unlock, setPlace, apart] using requested
    have mine := (reserves.mutex thread).mp (by rw [place]; rfl)
    have others := (reserves.mutex other).mp (ClientPlace.locks_of_requested sends)
    exact absurd (Option.some.inj (others.symm.trans mine)) apart

/-- A step of a client, which may begin to send a request that comes after all others. -/
theorem GenericClient.Acts.serves (acts : Acts serialize Requests client next)
    (reserves : Reserves client) (before : Serves requests client)
    (grown : requests.Sublist more)
    (added : ∀ call, Requests call → (requests ++ [call]).Sublist more) : Serves more next := by
  have serves := before.mono grown
  cases acts with
  | @send thread callback requests idle =>
    refine serves.move _ rfl rfl fun requested => ?_
    obtain rfl := Option.some.inj requested
    exact (before.registered.append_right _).trans (added _ requests)
  | @number thread callback sequence place fresh =>
    have mine := serves.sending (show (client.places thread).requested = _ by rw [place]; rfl)
    refine serves.move _ rfl rfl fun requested => ?_
    obtain rfl := Option.some.inj requested
    exact mine
  | register place => exact serves.register reserves place
  | ignore | take =>
    exact serves.move _ rfl (by simp [sentCalls, registrations]) (by simp [ClientPlace.requested])
  | respond | fail | throw | fulfil | call =>
    exact serves.move _ rfl rfl (by simp [ClientPlace.requested])

/-- What holds of a client that the requests are for. -/
structure Correlates (serialize : Response → Option (List UInt8)) (requests : List ServiceCall)
    (client : ServiceClient Thread Response) : Prop where
  reserves : Reserves client
  tracks : ∃ stage, Tracks serialize stage client
  serves : Serves requests client

omit [DecidableEq Thread] in
theorem correlates_initial :
    Correlates serialize requests (initial : ServiceClient Thread Response) :=
  ⟨reserves_initial, ⟨_, tracks_initial serialize⟩, serves_initial requests⟩

theorem GenericClient.Acts.correlates (acts : Acts serialize Requests client next)
    (correlates : Correlates serialize requests client) (grown : requests.Sublist more)
    (added : ∀ call, Requests call → (requests ++ [call]).Sublist more) :
    Correlates serialize more next := by
  obtain ⟨stage, tracks⟩ := correlates.tracks
  exact ⟨acts.reserves correlates.reserves, acts.tracks correlates.reserves tracks,
    acts.serves correlates.reserves correlates.serves grown added⟩

/-- The service requests of a run for a service, with the connections they came from. -/
def requestsTo (serviceId : ServiceId) (events : List (ServiceCallEvent Thread Response)) :
    List ServiceCall :=
  events.filterMap fun
    | .serviceRequest _ _ _ request clientHandle =>
      if request.serviceId = serviceId then some ⟨request, clientHandle⟩ else none
    | _ => none

variable {serviceId : ServiceId} {events : List (ServiceCallEvent Thread Response)}
  {event : ServiceCallEvent Thread Response}

omit [DecidableEq Thread] in
theorem mem_requestsTo {call : ServiceCall} : call ∈ requestsTo serviceId events ↔
    call.request.serviceId = serviceId ∧ ∃ thread creation available,
      .serviceRequest thread creation available call.request call.clientHandle ∈ events := by
  simp only [requestsTo, List.mem_filterMap]
  constructor
  · rintro ⟨event, member, same⟩
    cases event with
    | serviceRequest thread creation available request clientHandle =>
      obtain ⟨served, captured⟩ := Option.ite_none_right_eq_some.mp same
      obtain rfl := Option.some.inj captured
      exact ⟨served, thread, creation, available, member⟩
    | advertise | client => cases same
  · rintro ⟨served, thread, creation, available, member⟩
    exact ⟨_, member, if_pos served⟩

omit [DecidableEq Thread] in
theorem requestsTo_sublist (serviceId : ServiceId)
    (events : List (ServiceCallEvent Thread Response))
    (event : ServiceCallEvent Thread Response) :
    (requestsTo serviceId events).Sublist (requestsTo serviceId (events ++ [event])) := by
  rw [requestsTo, requestsTo, List.filterMap_append]
  exact List.sublist_append_left _ _

/-- What holds of all clients after a run. -/
def AllCorrelate (serialize : Response → Option (List UInt8))
    (events : List (ServiceCallEvent Thread Response)) (bridge : ServiceBridge Thread Response) :
    Prop :=
  ∀ serviceId client, bridge.serviceClients.lookup serviceId = some client →
    Correlates serialize (requestsTo serviceId events) client

variable {bridge after : ServiceBridge Thread Response}

omit [DecidableEq Thread] in
theorem AllCorrelate.append (all : AllCorrelate serialize events bridge)
    (event : ServiceCallEvent Thread Response) :
    AllCorrelate serialize (events ++ [event]) bridge :=
  fun serviceId client found =>
    let ⟨reserves, tracks, serves⟩ := all serviceId client found
    ⟨reserves, tracks, serves.mono (requestsTo_sublist serviceId events event)⟩

omit [DecidableEq Thread] in
theorem AllCorrelate.insert (all : AllCorrelate serialize events bridge)
    (correlates : Correlates serialize (requestsTo serviceId events) client) :
    AllCorrelate serialize events
      { bridge with serviceClients := bridge.serviceClients.insert serviceId client } := by
  intro other another found
  rw [Table.lookup_insert_ite] at found
  split at found
  next same =>
    obtain rfl := Option.some.inj found
    exact same ▸ correlates
  next => exact all _ _ found

omit [DecidableEq Thread] in
/-- The client of a service, found or made. -/
theorem serviceClient_correlates {creation : Creation} {service : ServiceWithoutId}
    {result : Except ServiceError (ServiceClient Thread Response)}
    (all : AllCorrelate serialize events bridge)
    (made : serviceClient creation serviceId service bridge = (result, after)) :
    AllCorrelate serialize events after ∧ ∀ client, result = .ok client →
      Correlates serialize (requestsTo serviceId events) client := by
  have entered (absent : bridge.serviceClients.lookup serviceId = none) :
      AllCorrelate serialize events { bridge with
        serviceClients := Table.emplace serviceId .initial bridge.serviceClients } := by
    intro other another found
    rw [Table.lookup_emplace, absent] at found
    split at found
    next => exact Option.some.inj found ▸ correlates_initial
    next => exact all _ _ found
  unfold serviceClient at made
  split at made
  next client found =>
    obtain ⟨rfl, rfl⟩ := Prod.mk.inj made
    exact ⟨all, fun client same => Except.ok.inj same ▸ all _ _ found⟩
  next absent =>
    cases creation with
    | notMade what =>
      obtain ⟨rfl, rfl⟩ := Prod.mk.inj made
      exact ⟨all, by simp⟩
    | notAdded what =>
      obtain ⟨rfl, rfl⟩ := Prod.mk.inj made
      exact ⟨entered absent, by simp⟩
    | made =>
      obtain ⟨rfl, rfl⟩ := Prod.mk.inj made
      exact ⟨entered absent, fun client same => Except.ok.inj same ▸ correlates_initial⟩

/-- A service request is the last one of the run so far, and is what its thread sends. -/
theorem serviceRequest_correlates {creation : Creation} {available : Bool}
    {request : ServiceRequest} {clientHandle : ConnHandle} {result : Except ServiceError Unit}
    (all : AllCorrelate serialize events bridge)
    (served : serviceRequest thread creation available request clientHandle bridge =
      some (result, after)) :
    AllCorrelate serialize
      (events ++ [.serviceRequest thread creation available request clientHandle]) after := by
  unfold serviceRequest at served
  split at served
  next =>
    obtain ⟨_, rfl⟩ := Prod.mk.inj (Option.some.inj served)
    exact all.append _
  next service _ =>
    split at served
    next error middle made =>
      obtain ⟨_, rfl⟩ := Prod.mk.inj (Option.some.inj served)
      exact (serviceClient_correlates all made).1.append _
    next client middle made =>
      obtain ⟨allThere, correlates⟩ := serviceClient_correlates all made
      split at served
      next =>
        obtain ⟨next, locked, same⟩ := Option.map_eq_some_iff.mp served
        obtain ⟨_, rfl⟩ := Prod.mk.inj same
        obtain ⟨idle, free, rfl⟩ := lock_cases locked
        have sends : Acts serialize (· = ⟨request, clientHandle⟩)
            client { client.setPlace thread (.sending ⟨request, clientHandle⟩) with
              mutex := some thread } := .send rfl idle free
        refine (allThere.append _).insert (sends.correlates (correlates client rfl)
          (requestsTo_sublist _ _ _) ?_)
        rintro call rfl
        simp [requestsTo]
      next =>
        obtain ⟨_, rfl⟩ := Prod.mk.inj (Option.some.inj served)
        exact allThere.append _

theorem allCorrelate_of_step (all : AllCorrelate serialize events bridge)
    (fresh : FreshNumbers bridge event) (step : event.apply serialize bridge = some after) :
    AllCorrelate serialize (events ++ [event]) after := by
  cases event with
  | advertise services =>
    obtain rfl := Option.some.inj step
    exact all.append (.advertise services)
  | serviceRequest thread creation available request clientHandle =>
    obtain ⟨⟨result, _⟩, served, rfl⟩ := Option.map_eq_some_iff.mp step
    exact serviceRequest_correlates all served
  | client serviceId event =>
    simp only [ServiceCallEvent.apply] at step
    split at step
    next _ _ client found other =>
      obtain ⟨next, moved, rfl⟩ := Option.map_eq_some_iff.mp step
      have acts : Acts serialize (fun _ => False) client next := by
        refine acts_of_step (fresh client found) ?_ moved
        rintro thread call rfl
        simp [ClientEvent.isRequest] at other
      exact (all.append _).insert (acts.correlates (all _ _ found) (requestsTo_sublist _ _ _)
        fun _ sends => sends.elim)
    next => simp at step

/-- In every run all clients keep track of their requests, which are among those of the run. -/
theorem allCorrelate_of_run
    (run : (serviceCallRuns serialize).GuardedRun FreshNumbers events bridge) :
    AllCorrelate serialize events bridge := by
  induction run with
  | initial valid =>
    intro serviceId client found
    have none : (_ : ServiceBridge Thread Response).serviceClients = ∅ := valid
    simp [none] at found
  | step _ admitted transition ih => exact allCorrelate_of_step ih admitted transition

/-- The requests sent through a client are service requests of the run for its service, each
sent at most once and in their order, and each has a promise of its own. Its callback is
called at most once, after a response with its number came that could be serialized, and then
sends that response, with the service id, call id and encoding of the request, to the
connection the request came from. When such a response has come, the callback was called or is
called by the next steps of a thread that nothing can stop. -/
theorem service_responses_correlated
    (run : (serviceCallRuns serialize).GuardedRun FreshNumbers events bridge)
    (found : bridge.serviceClients.lookup serviceId = some client) :
    ((registrations client.history).map Registration.promise).Nodup ∧
      ((registrations client.history).map Registration.callback).Sublist
        (requestsTo serviceId events) ∧
      (client.invoked.map Invocation.future).Nodup ∧
      (∀ call ∈ client.invoked, ∃ registration ∈ registrations client.history,
        call.future = registration.promise ∧ call.sequence = registration.sequence ∧
        call.callback = registration.callback ∧
        DeliveredAfter serialize client.history registration call.value ∧
        ∃ thread creation available request clientHandle,
          .serviceRequest thread creation available request clientHandle ∈ events ∧
          request.serviceId = serviceId ∧ registration.callback = ⟨request, clientHandle⟩ ∧
          sentResponse call = (clientHandle, { request with servData := call.value })) ∧
      ∀ registration value, DeliveredAfter serialize client.history registration value →
        (∃ call ∈ client.invoked, call.future = registration.promise) ∨
        ∃ thread next answer, (ClientPlace.remaining thread (client.places thread)).foldlM
            (fun client event => event.apply serialize client) client = some next ∧
          next.invoked = client.invoked ++
            [⟨registration.promise, registration.sequence, registration.callback, answer⟩] ∧
          DeliveredAfter serialize client.history registration answer := by
  obtain ⟨_, ⟨stage, tracks⟩, serves⟩ := allCorrelate_of_run run serviceId client found
  refine ⟨tracks.made ▸ List.nodup_range, serves.registered, tracks.once, fun call member => ?_,
    fun registration value after => ?_⟩
  · have delivered := (tracks.invoked call member).2
    have registered := mem_registrations.mpr delivered.registered
    obtain ⟨served, thread, creation, available, requested⟩ := mem_requestsTo.mp
      (serves.registered.subset (List.mem_map_of_mem registered))
    exact ⟨_, registered, rfl, rfl, rfl, delivered, thread, creation, available, _, _, requested,
      served, rfl, rfl⟩
  · rcases tracks.settled after.registered with pending | ⟨thread, holds⟩ | ⟨call, member, same⟩
    · exact absurd after ((tracks.pending pending).2.2.2.2 value)
    · obtain ⟨next, answer, reached, invoked, delivered⟩ := calls_held tracks holds
      exact .inr ⟨thread, next, answer, reached, invoked, delivered⟩
    · exact .inl ⟨call, member, same.1⟩

/-- A bridge that offers a service and has no client for it yet. -/
def offersService : ServiceBridge Bool (List UInt8) where
  advertisedServices := (∅ : Table ServiceId ServiceWithoutId).insert 5 ⟨"add", "", "", ""⟩
  serviceClients := ∅

/-- Two connections call a service, the second is answered first and twice. -/
def twoCalls : List (ServiceCallEvent Bool (List UInt8)) :=
  [.serviceRequest false .made true ⟨5, 1, [], [10]⟩ ⟨7⟩,
    .client 5 (.rclSendRequest false (some 1)), .client 5 (.register false),
    .serviceRequest false .made true ⟨5, 2, [], [20]⟩ ⟨8⟩,
    .client 5 (.rclSendRequest false (some 2)), .client 5 (.register false),
    .client 5 (.handleResponse true 2 [21]), .client 5 (.takePending true),
    .client 5 (.handleResponse false 2 [22]), .client 5 (.takePending false),
    .client 5 (.setValue true), .client 5 (.handleResponse false 1 [11]),
    .client 5 (.takePending false), .client 5 (.callCallback true),
    .client 5 (.setValue false), .client 5 (.callCallback false)]

/-- Two calls that are answered in the other order. -/
theorem service_responses_correlated_reordered :
    ∃ (bridge : ServiceBridge Bool (List UInt8)) (client : ServiceClient Bool (List UInt8)),
      (serviceCallRuns some).GuardedRun FreshNumbers twoCalls bridge ∧
      bridge.serviceClients.lookup 5 = some client ∧
      client.invoked.map sentResponse = [(⟨8⟩, ⟨5, 2, [], [21]⟩), (⟨7⟩, ⟨5, 1, [], [11]⟩)] ∧
      ∀ call ∈ client.invoked, ∃ registration ∈ registrations client.history,
        DeliveredAfter some client.history registration call.value := by
  have start : (serviceCallRuns some).GuardedRun FreshNumbers [] offersService := .initial rfl
  have answers : (twoCalls.foldlM (fun bridge event =>
      if FreshNumbers bridge event then event.apply some bridge else none) offersService).bind
      (fun bridge => (bridge.serviceClients.lookup 5).map
        fun client => client.invoked.map sentResponse) =
        some [(⟨8⟩, ⟨5, 2, [], [21]⟩), (⟨7⟩, ⟨5, 1, [], [11]⟩)] := by decide +kernel
  obtain ⟨bridge, reached, found⟩ := Option.bind_eq_some_iff.mp answers
  obtain ⟨client, found, sent⟩ := Option.map_eq_some_iff.mp found
  have run := start.foldlM (fun step => Option.ite_none_right_eq_some.mp step) reached
  refine ⟨bridge, client, run, found, sent, fun call member => ?_⟩
  obtain ⟨_, _, _, answered, _⟩ := service_responses_correlated run found
  obtain ⟨registration, registered, _, _, _, delivered, _⟩ := answered call member
  exact ⟨registration, registered, delivered⟩

/-- The table of pending requests holds exactly the requests that were sent and for which no
response that serializes has come: an answered request does not stay in it, and none that
still waits is lost. -/
theorem pending_requests_unanswered
    (run : (serviceCallRuns serialize).GuardedRun FreshNumbers events bridge)
    (found : bridge.serviceClients.lookup serviceId = some client) (sequence : Int64)
    (entry : PendingRequest ServiceCall) :
    client.pending.lookup sequence = some entry ↔ entry.future = entry.promise ∧
      ⟨entry.promise, sequence, entry.callback⟩ ∈ registrations client.history ∧
        ∀ value, ¬ DeliveredAfter serialize client.history
          ⟨entry.promise, sequence, entry.callback⟩ value := by
  obtain ⟨_, ⟨stage, tracks⟩, _⟩ := allCorrelate_of_run run serviceId client found
  rw [mem_registrations]
  constructor
  · intro waits
    obtain ⟨_, same, _, registered, unanswered⟩ := tracks.pending waits
    exact ⟨same, registered, unanswered⟩
  · obtain ⟨promise, callback, future⟩ := entry
    dsimp only
    rintro ⟨rfl, registered, unanswered⟩
    rcases tracks.settled registered with pending | ⟨thread, holds⟩ | ⟨call, member, rfl, rfl, rfl⟩
    · exact pending
    · obtain ⟨_, answer, _, _, delivered⟩ := calls_held tracks holds
      exact absurd delivered (unanswered answer)
    · exact absurd (tracks.invoked call member).2 (unanswered call.value)

/-- The second call was answered, the first is still waiting. -/
theorem pending_requests_unanswered_first :
    ∃ (bridge : ServiceBridge Bool (List UInt8)) (client : ServiceClient Bool (List UInt8)),
      (serviceCallRuns some).GuardedRun FreshNumbers (twoCalls.take 8) bridge ∧
      bridge.serviceClients.lookup 5 = some client ∧
      client.pending.lookup 1 = some ⟨0, ⟨⟨5, 1, [], [10]⟩, ⟨7⟩⟩, 0⟩ ∧
      ∀ value, ¬ DeliveredAfter some client.history ⟨0, 1, ⟨⟨5, 1, [], [10]⟩, ⟨7⟩⟩⟩ value := by
  have start : (serviceCallRuns some).GuardedRun FreshNumbers [] offersService := .initial rfl
  have waits : ((twoCalls.take 8).foldlM (fun bridge event =>
      if FreshNumbers bridge event then event.apply some bridge else none) offersService).bind
      (fun bridge => (bridge.serviceClients.lookup 5).bind fun client =>
        client.pending.lookup 1) = some ⟨0, ⟨⟨5, 1, [], [10]⟩, ⟨7⟩⟩, 0⟩ := by decide +kernel
  obtain ⟨bridge, reached, found⟩ := Option.bind_eq_some_iff.mp waits
  obtain ⟨client, found, pending⟩ := Option.bind_eq_some_iff.mp found
  have run := start.foldlM (fun step => Option.ite_none_right_eq_some.mp step) reached
  exact ⟨bridge, client, run, found, pending,
    ((pending_requests_unanswered run found _ _).mp pending).2.2⟩

end CoBridge.Ros2
