import CoBridge.Server.Handlers
import Mathlib.Algebra.Group.Int.Defs
import Mathlib.Algebra.Group.Nat.Defs

/-!
# The ROS 1 bridge

The part of the nodelet in `ros1_bridge_nodelet.cpp` that keeps no table of the server's
clients: the calls to the master about parameters, and the count and the timer of its
updates. What the master answers is the `Environment`.
-/

namespace CoBridge.Ros1

open Library

/-- What the nodelet asks of ROS and of its master. It changes between calls. An exception
is the text that is thrown. -/
structure Environment where
  ok : Bool
  /-- Whether the master accepts `subscribeParam` or `unsubscribeParam` of a name, which is
  resolved first. -/
  executeParam : ParameterSubscriptionOperation → String → Except String Bool

/-- Nothing fails. -/
def Environment.quiet : Environment where
  ok := true
  executeParam := fun _ _ => .ok true

/-- The platforms the nodelet is built for, by their `size_t`. -/
inductive SizeT where
  | bits32
  | bits64
deriving DecidableEq, Repr

def SizeT.width : SizeT → Nat
  | .bits32 => 32
  | .bits64 => 64

/-- The increment of a `size_t`. -/
def SizeT.increment (size : SizeT) (value : Nat) : Nat := (value + 1) % 2 ^ size.width

/-- What `onInit` reads from the parameter server. -/
structure Options where
  paramWhitelistPatterns : List Regex
  /-- The parameter `max_update_ms`, an `int`. -/
  maxUpdateMsParam : Int32

/-- The conversion of `max_update_ms` to `size_t`. -/
def Options.maxUpdateMs (options : Options) (size : SizeT) : Nat :=
  (options.maxUpdateMsParam.toInt % 2 ^ size.width).toNat

/-- Everything is whitelisted, with the default update period. -/
def Options.open : Options where
  paramWhitelistPatterns := [⟨fun _ => true⟩]
  maxUpdateMsParam := 5000

/-- The state of the nodelet. The timer is identified by its period in milliseconds. -/
structure Bridge where
  updateCount : Nat
  updateTimer : Option Nat
  environment : Environment

/-- A nodelet before its first update. -/
def Bridge.initial (environment : Environment) : Bridge where
  updateCount := 0
  updateTimer := none
  environment := environment

/-- Whether the master accepted every whitelisted name of a request. -/
def executeParams (options : Options) (environment : Environment)
    (op : ParameterSubscriptionOperation) : List String → Except String Bool
  | [] => .ok true
  | paramName :: rest =>
    if isWhitelisted paramName options.paramWhitelistPatterns then do
      let accepted ← environment.executeParam op paramName
      let success ← executeParams options environment op rest
      pure (accepted && success)
    else
      executeParams options environment op rest

/-- The nodelet keeps no record of what it subscribed to at the master. -/
def subscribeParameters (options : Options) (parameters : List String)
    (op : ParameterSubscriptionOperation) (_ : ConnHandle) (bridge : Bridge) :
    Reply Bridge :=
  let opVerb := match op with
    | .subscribe => "subscribe"
    | .unsubscribe => "unsubscribe"
  match executeParams options bridge.environment op parameters with
  | .error what => .fail (.std what) bridge
  | .ok true => .accept bridge
  | .ok false => .fail (.std ("Failed to " ++ opVerb ++ " one or multiple parameters.")) bridge

end CoBridge.Ros1
