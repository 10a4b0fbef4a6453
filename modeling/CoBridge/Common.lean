import Mathlib.Data.List.Defs

/-!
# Shared vocabulary of the server and the bridges

Identifiers, channel and service records, exceptions and whitelists, as
`common.hpp`, `server_interface.hpp` and `regex_utils.hpp` declare them.
-/

namespace CoBridge

abbrev ChannelId := UInt32
abbrev ClientChannelId := UInt32
abbrev SubscriptionId := UInt32
abbrev ServiceId := UInt32

/-- A websocket connection handle. Handles are weak pointers compared by their
owner, which stays distinct after the connection itself is gone. -/
structure ConnHandle where
  owner : Nat
deriving DecidableEq, Repr

structure ChannelWithoutId where
  topic : String
  encoding : String
  schemaName : String
  schema : String
  schemaEncoding : Option String
deriving DecidableEq, Repr

structure Channel extends ChannelWithoutId where
  id : ChannelId
deriving DecidableEq, Repr

structure ClientAdvertisement where
  channelId : ClientChannelId
  topic : String
  encoding : String
  schemaName : String
  schema : List UInt8
deriving DecidableEq, Repr

structure ClientMessage where
  logTime : UInt64
  publishTime : UInt64
  sequence : UInt32
  advertisement : ClientAdvertisement
  dataLength : Nat
  data : List UInt8
deriving DecidableEq, Repr

structure ServiceWithoutId where
  name : String
  type : String
  requestSchema : String
  responseSchema : String
deriving DecidableEq, Repr

structure Service extends ServiceWithoutId where
  id : ServiceId
deriving DecidableEq, Repr

/-- Requests and responses of a service call share one layout. -/
structure ServiceRequest where
  serviceId : ServiceId
  callId : UInt32
  encoding : List UInt8
  servData : List UInt8
deriving DecidableEq, Repr

inductive StatusLevel where
  | info
  | warning
  | error
deriving DecidableEq, Repr

inductive ParameterSubscriptionOperation where
  | subscribe
  | unsubscribe
deriving DecidableEq, Repr

/-- Exceptions by what their `catch` clauses can tell apart. -/
inductive Exception where
  | std (what : String)
  | channelError (id : ChannelId) (what : String)
  | clientChannelError (id : ClientChannelId) (what : String)
  | serviceError (id : ServiceId) (what : String)
  /-- Not derived from `std::exception`: reached by `catch (...)` only. -/
  | foreign
deriving DecidableEq, Repr

/-- How a computation can fail to return. Undefined behaviour is kept apart
from exceptions: no `catch` clause resumes after it. -/
inductive Fault where
  | raised (exception : Exception)
  | undefinedBehavior
deriving DecidableEq, Repr

namespace Exception

/-- The `what()` text of exceptions derived from `std::exception`. -/
def what? : Exception → Option String
  | .std text => some text
  | .channelError _ text => some text
  | .clientChannelError _ text => some text
  | .serviceError _ text => some text
  | .foreign => none

/-- The id carried by an `ExceptionWithId<uint32_t>`. -/
def id? : Exception → Option UInt32
  | .channelError id _ => some id
  | .clientChannelError id _ => some id
  | .serviceError id _ => some id
  | .std _ => none
  | .foreign => none

end Exception

/-- A compiled pattern, as the names it matches entirely. -/
structure Regex where
  regexMatch : String → Bool

/-- Some pattern matches the name. -/
def isWhitelisted (name : String) (patterns : List Regex) : Bool :=
  patterns.any fun pattern => pattern.regexMatch name

def capabilityClientPublish : String := "clientPublish"
def capabilityTime : String := "time"
def capabilityMessageTime : String := "messageTime"
def capabilityParameters : String := "parameters"
def capabilityParametersSubscribe : String := "parametersSubscribe"
def capabilityServices : String := "services"
def capabilityConnectionGraph : String := "connectionGraph"
def capabilityAssets : String := "assets"

/-!
## Whitelists from configured patterns

Both bridges compile the configured texts and drop those that are no regular
expressions. The ROS 1 bridge puts a default in place of a list that is empty
afterwards. Compilation belongs to the standard library and stays abstract: it gives
a pattern or throws.
-/

/-- `std::regex` construction; `none` when it throws. -/
abbrev RegexCompiler : Type := String → Option Regex

namespace Ros2

def parseRegexStrings (compile : RegexCompiler) (strings : List String) : List Regex :=
  strings.filterMap compile

end Ros2

namespace Ros1

def parseRegexPatterns (compile : RegexCompiler) (patterns : List String) : List Regex :=
  let result := patterns.filterMap compile
  if result.isEmpty then (compile ".*").toList else result

end Ros1

end CoBridge
