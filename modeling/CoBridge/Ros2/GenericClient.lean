import Mathlib.Logic.Function.Basic
import CoBridge.Library.Table
import CoBridge.Common
import CoBridge.Library.Transition

/-!
# The generic service client

`GenericClient` sends requests and hands each response to the callback of its request,
which it finds by the sequence number in `pending_requests_`. Sending holds
`pending_requests_mutex_` from before the request goes out until it is registered;
`handle_response` holds it until the request is taken out, and calls the callback without
it. Any number of threads do either.

Promises are numbered as they are made. The records of registrations, deliveries and
callback calls are kept for the statements only.
-/

namespace CoBridge.Ros2

open Library

section

/-- A value of `pending_requests_`. -/
structure PendingRequest (Callback : Type) where
  promise : Nat
  callback : Callback
  future : Nat
deriving DecidableEq

/-- Where a thread is in `async_send_request` or `handle_response`. -/
inductive ClientPlace (Callback Response Value : Type) where
  | idle
  /-- With the mutex, before the request is deserialized and sent. -/
  | sending (callback : Callback)
  /-- With the mutex, `rcl_send_request` having returned the number. -/
  | sent (callback : Callback) (sequence : Int64)
  /-- With the mutex, before the response is serialized and its number looked up. -/
  | responding (sequence : Int64) (response : Response)
  /-- Without the mutex, before `set_value`. -/
  | answering (sequence : Int64) (entry : PendingRequest Callback) (value : Value)
  /-- Before the call of the callback. -/
  | calling (sequence : Int64) (entry : PendingRequest Callback)

/-- A request that was sent, its number and the promise made for it. -/
structure Registration (Callback : Type) where
  promise : Nat
  sequence : Int64
  callback : Callback
deriving DecidableEq

/-- What happened while the mutex was held. -/
inductive ClientRecord (Callback Response : Type) where
  | registered (registration : Registration Callback)
  | delivered (sequence : Int64) (response : Response)
deriving DecidableEq

/-- A call of a callback with a future, in the handling of a response with the number. -/
structure Invocation (Callback Value : Type) where
  future : Nat
  sequence : Int64
  callback : Callback
  value : Value
deriving DecidableEq

structure GenericClient (Thread Callback Response Value : Type) where
  mutex : Option Thread
  places : Thread → ClientPlace Callback Response Value
  pending : Table Int64 (PendingRequest Callback)
  promises : List (Option Value)
  history : List (ClientRecord Callback Response)
  invoked : List (Invocation Callback Value)

inductive ClientEvent (Thread Callback Response : Type) where
  | asyncSendRequest (thread : Thread) (callback : Callback)
  /-- Nothing is returned if the request cannot be deserialized or sent. -/
  | rclSendRequest (thread : Thread) (sequence : Option Int64)
  | register (thread : Thread)
  | handleResponse (thread : Thread) (sequence : Int64) (response : Response)
  | takePending (thread : Thread)
  | setValue (thread : Thread)
  | callCallback (thread : Thread)

namespace GenericClient

variable {Thread Callback Response Value : Type}

def initial : GenericClient Thread Callback Response Value where
  mutex := none
  places _ := .idle
  pending := ∅
  promises := []
  history := []
  invoked := []

variable [DecidableEq Thread]

def setPlace (client : GenericClient Thread Callback Response Value) (thread : Thread)
    (place : ClientPlace Callback Response Value) : GenericClient Thread Callback Response Value :=
  { client with places := Function.update client.places thread place }

/-- A thread that does nothing takes the free mutex. -/
def lock (client : GenericClient Thread Callback Response Value) (thread : Thread)
    (place : ClientPlace Callback Response Value) :
    Option (GenericClient Thread Callback Response Value) :=
  match client.places thread, client.mutex with
  | .idle, none => some { client.setPlace thread place with mutex := some thread }
  | _, _ => none

/-- A thread goes on without the mutex. -/
def unlock (client : GenericClient Thread Callback Response Value) (thread : Thread)
    (place : ClientPlace Callback Response Value) : GenericClient Thread Callback Response Value :=
  { client.setPlace thread place with mutex := none }

/-- The send fails with an exception, or the request has a number. -/
def rclSendRequest (client : GenericClient Thread Callback Response Value) (thread : Thread)
    (sequence : Option Int64) : Option (GenericClient Thread Callback Response Value) :=
  match client.places thread with
  | .sending callback =>
    match sequence with
    | none => some (client.unlock thread .idle)
    | some sequence => some (client.setPlace thread (.sent callback sequence))
  | _ => none

/-- The end of `async_send_request`. -/
def register (client : GenericClient Thread Callback Response Value) (thread : Thread) :
    Option (GenericClient Thread Callback Response Value) :=
  match client.places thread with
  | .sent callback sequence =>
    let promise := client.promises.length
    some (unlock { client with
      promises := client.promises ++ [none]
      pending := client.pending.insert sequence ⟨promise, callback, promise⟩
      history := client.history ++ [.registered ⟨promise, sequence, callback⟩] } thread .idle)
  | _ => none

/-- The part of `handle_response` that holds the mutex. -/
def takePending (serialize : Response → Option Value)
    (client : GenericClient Thread Callback Response Value) (thread : Thread) :
    Option (GenericClient Thread Callback Response Value) :=
  match client.places thread with
  | .responding sequence response =>
    let client := { client with
      history := client.history ++ [ClientRecord.delivered sequence response] }
    match serialize response with
    | none => some (client.unlock thread .idle)
    | some value =>
      match client.pending.lookup sequence with
      | none => some (client.unlock thread .idle)
      | some entry =>
        some (unlock { client with pending := client.pending.erase sequence } thread
          (.answering sequence entry value))
  | _ => none

/-- `set_value`, which throws for a promise that has a value. -/
def setValue (client : GenericClient Thread Callback Response Value) (thread : Thread) :
    Option (GenericClient Thread Callback Response Value) :=
  match client.places thread with
  | .answering sequence entry value =>
    match client.promises[entry.promise]? with
    | some none =>
      some (setPlace { client with
        promises := client.promises.set entry.promise (some value) } thread
        (.calling sequence entry))
    | _ => some (client.setPlace thread .idle)
  | _ => none

/-- The callback is called and gets the value of its future. It would wait for one that has
no value. -/
def callCallback (client : GenericClient Thread Callback Response Value) (thread : Thread) :
    Option (GenericClient Thread Callback Response Value) :=
  match client.places thread with
  | .calling sequence entry =>
    match client.promises[entry.future]? with
    | some (some value) =>
      some (setPlace { client with
        invoked := client.invoked ++ [⟨entry.future, sequence, entry.callback, value⟩] } thread
        .idle)
    | _ => none
  | _ => none

end GenericClient

variable {Thread Callback Response Value : Type} [DecidableEq Thread]

def ClientEvent.apply (serialize : Response → Option Value)
    (event : ClientEvent Thread Callback Response)
    (client : GenericClient Thread Callback Response Value) :
    Option (GenericClient Thread Callback Response Value) :=
  match event with
  | .asyncSendRequest thread callback => client.lock thread (.sending callback)
  | .rclSendRequest thread sequence => client.rclSendRequest thread sequence
  | .register thread => client.register thread
  | .handleResponse thread sequence response =>
    client.lock thread (.responding sequence response)
  | .takePending thread => client.takePending serialize thread
  | .setValue thread => client.setValue thread
  | .callCallback thread => client.callCallback thread

/-- A number that `rcl_send_request` returns is not that of a pending request. -/
def ClientEvent.FreshNumber (client : GenericClient Thread Callback Response Value) :
    ClientEvent Thread Callback Response → Prop
  | .rclSendRequest _ (some sequence) => sequence ∉ client.pending
  | _ => True

instance ClientEvent.decidableFreshNumber (client : GenericClient Thread Callback Response Value) :
    (event : ClientEvent Thread Callback Response) → Decidable (event.FreshNumber client)
  | .rclSendRequest _ (some sequence) => inferInstanceAs (Decidable (sequence ∉ client.pending))
  | .rclSendRequest _ none | .asyncSendRequest _ _ | .register _ | .handleResponse _ _ _
  | .takePending _ | .setValue _ | .callCallback _ => isTrue trivial

end

/-!
## Service requests of the bridge

`CoBridge::service_request` sends a request through the client of its service, which it
makes at the first request, with a callback that keeps the request and the handle of the
connection it came from. The callback sends the response.
-/

/-- What the callback of a request captures. -/
structure ServiceCall where
  request : ServiceRequest
  clientHandle : ConnHandle
deriving DecidableEq

/-- The response that the callback makes of the serialized message. -/
def ServiceCall.response (call : ServiceCall) (value : List UInt8) : ServiceRequest where
  serviceId := call.request.serviceId
  callId := call.request.callId
  encoding := call.request.encoding
  servData := value

/-- What the callback passes to `send_service_response`. -/
def sentResponse (call : Invocation ServiceCall (List UInt8)) : ConnHandle × ServiceRequest :=
  (call.callback.clientHandle, call.callback.response call.value)

abbrev ServiceClient (Thread Response : Type) :=
  GenericClient Thread ServiceCall Response (List UInt8)

/-- `ServiceError`. -/
structure ServiceError where
  serviceId : ServiceId
  text : String
deriving DecidableEq

structure ServiceBridge (Thread Response : Type) where
  advertisedServices : Table ServiceId ServiceWithoutId
  serviceClients : Table ServiceId (ServiceClient Thread Response)

/-- How making the client of a service ends: in an exception before or after it is entered in
`_service_clients`, or well. -/
inductive Creation where
  | notMade (what : String)
  | notAdded (what : String)
  | made
deriving DecidableEq

variable {Thread Response : Type} [DecidableEq Thread]

/-- The client of a service, which is made if there is none. -/
def serviceClient (creation : Creation) (serviceId : ServiceId) (service : ServiceWithoutId)
    (bridge : ServiceBridge Thread Response) :
    Except ServiceError (ServiceClient Thread Response) × ServiceBridge Thread Response :=
  let failure (what : String) : ServiceError :=
    ⟨serviceId, "Failed to create service client for service " ++ service.name ++ ": " ++ what⟩
  let entered := { bridge with
    serviceClients := Table.emplace serviceId .initial bridge.serviceClients }
  match bridge.serviceClients.lookup serviceId with
  | some client => (.ok client, bridge)
  | none =>
    match creation with
    | .notMade what => (.error (failure what), bridge)
    | .notAdded what => (.error (failure what), entered)
    | .made => (.ok .initial, entered)

/-- `service_request` up to the point where `async_send_request` has the mutex of the client.
There is no step if another thread has it. -/
def serviceRequest (thread : Thread) (creation : Creation) (available : Bool)
    (request : ServiceRequest) (clientHandle : ConnHandle)
    (bridge : ServiceBridge Thread Response) :
    Option (Except ServiceError Unit × ServiceBridge Thread Response) :=
  match bridge.advertisedServices.lookup request.serviceId with
  | none =>
    some (.error ⟨request.serviceId,
      "Service with id " ++ toString request.serviceId ++ " does not exist"⟩, bridge)
  | some service =>
    match serviceClient creation request.serviceId service bridge with
    | (.error error, bridge) => some (.error error, bridge)
    | (.ok client, bridge) =>
      if available then
        (client.lock thread (.sending ⟨request, clientHandle⟩)).map fun client =>
          (.ok (), { bridge with
            serviceClients := bridge.serviceClients.insert request.serviceId client })
      else
        some (.error ⟨request.serviceId,
          "Service " ++ service.name ++ " is not available"⟩, bridge)

inductive ServiceCallEvent (Thread Response : Type) where
  /-- The advertised services change. -/
  | advertise (services : Table ServiceId ServiceWithoutId)
  | serviceRequest (thread : Thread) (creation : Creation) (available : Bool)
      (request : ServiceRequest) (clientHandle : ConnHandle)
  /-- A step of a client other than the beginning of a send. -/
  | client (serviceId : ServiceId) (event : ClientEvent Thread ServiceCall Response)

/-- Requests begin in `service_request` only. -/
def ClientEvent.isRequest : ClientEvent Thread ServiceCall Response → Bool
  | .asyncSendRequest _ _ => true
  | _ => false

def ServiceCallEvent.apply (serialize : Response → Option (List UInt8))
    (event : ServiceCallEvent Thread Response) (bridge : ServiceBridge Thread Response) :
    Option (ServiceBridge Thread Response) :=
  match event with
  | .advertise services => some { bridge with advertisedServices := services }
  | .serviceRequest thread creation available request clientHandle =>
    (Ros2.serviceRequest thread creation available request clientHandle bridge).map Prod.snd
  | .client serviceId event =>
    match bridge.serviceClients.lookup serviceId, event.isRequest with
    | some found, false =>
      (event.apply serialize found).map fun next =>
        { bridge with serviceClients := bridge.serviceClients.insert serviceId next }
    | _, _ => none

/-- The interleavings of service requests and responses. -/
def serviceCallRuns (serialize : Response → Option (List UInt8)) :
    TransitionSystem (ServiceBridge Thread Response) (ServiceCallEvent Thread Response) where
  Initial bridge := bridge.serviceClients = ∅
  Step bridge event next := event.apply serialize bridge = some next

/-- `rcl_send_request` returns a number other than those of the client's pending requests. -/
def FreshNumbers (bridge : ServiceBridge Thread Response) :
    ServiceCallEvent Thread Response → Prop
  | .client serviceId event =>
    ∀ client ∈ bridge.serviceClients.lookup serviceId, event.FreshNumber client
  | _ => True

instance decidableFreshNumbers (bridge : ServiceBridge Thread Response) :
    (event : ServiceCallEvent Thread Response) → Decidable (FreshNumbers bridge event)
  | .client serviceId event => inferInstanceAs (Decidable
      (∀ client ∈ bridge.serviceClients.lookup serviceId, event.FreshNumber client))
  | .advertise _ | .serviceRequest _ _ _ _ _ => isTrue trivial

end CoBridge.Ros2
