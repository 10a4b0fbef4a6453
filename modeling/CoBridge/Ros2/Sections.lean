import CoBridge.Ros2.Effects
import CoBridge.Server.Sections

/-!
# The callback worker and the graph poll thread

Two threads act on the server and the bridge. The callback worker runs the
clients' requests one at a time; the poll thread updates the advertised topics,
holding the subscriptions mutex from its first change of the bridge's tables to
its last.
-/

namespace CoBridge.Ros2

open Library

section

variable {Rest : Type}

/-- Find the channels to remove and forget them in the bridge. -/
def retireTopics (latest : KeySet TopicAndDatatype) :
    ServerAction (Bridge Rest) (List ChannelId) := do
  let channelIdsToRemove ← Action.gets fun world => world.bridge.channelIdsToRemove latest
  modifyBridge (Bridge.retire channelIdsToRemove)
  pure channelIdsToRemove

open Program in
/-- An exception of `addChannels` goes on when the subscriptions mutex was given back. -/
def exchangeChannelsSections (check : TextCheck) (latest : KeySet TopicAndDatatype) :
    ServerProgram (Bridge Rest) Unit := do
  let channelIdsToRemove ← perform .retireTopics (retireTopics latest)
  removeChannelsSections channelIdsToRemove
  let channelsToAdd ← perform .selectTopics
    (Action.gets fun world => world.bridge.channelsToAdd latest)
  let added ← addChannelsSections check channelsToAdd
  perform .advertiseTopics (do
    let channelIds ← Action.ofExcept added
    modifyBridge (Bridge.advertise (channelIds.zip channelsToAdd)))

open Program in
def updateAdvertisedTopicsSections (check : TextCheck) (options : Options) :
    ServerProgram (Bridge Rest) Unit := do
  let environment ← perform .readTopics (Action.gets fun world => world.bridge.environment)
  if environment.ok then
    let latest ← ofExcept (latestTopics options environment.topics)
    exchangeChannelsSections check latest
  else
    pure ()

/-- The sections of a poll, run in one go. -/
theorem updateAdvertisedTopicsSections_run (check : TextCheck) (options : Options) :
    (updateAdvertisedTopicsSections check options : ServerProgram (Bridge Rest) Unit).run =
      updateAdvertisedTopics check options := by
  simp [updateAdvertisedTopicsSections, updateAdvertisedTopics, exchangeChannelsSections,
    exchangeChannels, retireTopics, removeChannelsSections_run, addChannelsSections_run]

/-- How far the poll thread is: whether it holds the subscriptions mutex, and the
channels it erased without having told the clients. -/
structure Progress where
  subscriptionsLocked : Bool
  removing : List ChannelId
deriving DecidableEq

/-- The sections that take the subscriptions mutex. -/
def Section.locksSubscriptions : Section → Bool
  | .subscribe _ _ | .unsubscribe _ _ | .retireTopics => true
  | _ => false

def Progress.after (progress : Progress) : Section → Progress
  | .retireTopics => { progress with subscriptionsLocked := true }
  | .eraseChannels channelIds => { progress with removing := channelIds }
  | .announceRemoval _ => { progress with removing := [] }
  | .advertiseTopics => { progress with subscriptionsLocked := false }
  | _ => progress

def discipline : Discipline Section (World (Bridge Rest)) Progress where
  enabled label shared :=
    Section.locksSubscriptions label = true → shared.2.subscriptionsLocked = false
  effect label progress := progress.after label

instance (label : Section) (shared : World (Bridge Rest) × Progress) :
    Decidable (discipline.enabled label shared) :=
  inferInstanceAs (Decidable (_ → _))

inductive Thread where
  | callbacks
  | poll
deriving DecidableEq

/-- What the threads run. -/
inductive Starts (setup : Setup Rest) : Thread → ServerProgram (Bridge Rest) Unit → Prop where
  | login (payload : Json) (hdl : ConnHandle) :
      Starts setup .callbacks (handleLoginSections setup.config payload hdl)
  | subscribe (payload : Json) (hdl : ConnHandle) :
      Starts setup .callbacks (handleSubscribeSections setup.config payload hdl)
  | unsubscribe (payload : Json) (hdl : ConnHandle) :
      Starts setup .callbacks (handleUnsubscribeSections setup.config payload hdl)
  | closed (hdl : ConnHandle) :
      Starts setup .callbacks (handleConnectionClosedSections setup.config hdl)
  | poll : Starts setup .poll (updateAdvertisedTopicsSections setup.dump setup.options)

/-- ROS, the rest of the node and the connections change by themselves. -/
def Acts (world next : World (Bridge Rest)) : Prop :=
  ∃ environment rest link now, next =
    { world with
      bridge := { world.bridge with environment := environment, rest := rest }
      link := link
      now := now }

/-- The state of a node that was just started. -/
def Started (shared : World (Bridge Rest) × Progress) : Prop :=
  shared.1.server = .initial ∧
    (∃ environment rest, shared.1.bridge = .initial environment rest) ∧ shared.2 = ⟨false, []⟩

abbrev NodePool (Rest : Type) : Type :=
  Pool Thread Section (World (Bridge Rest)) Progress Fault

/-- Every interleaving of the two threads. -/
def nodeThreads (setup : Setup Rest) :
    TransitionSystem (NodePool Rest) (PoolEvent Thread Section) :=
  Pool.system discipline (Starts setup) Acts Started

end

/-!
## Runs of a node

A node under messages and disconnects of any connections, the polls of the ROS
graph and changes of ROS itself, one callback at a time.
-/

variable {Rest : Type}

/-- What the poll thread does about the connection graph. -/
def pollConnectionGraph (options : Options) : ServerAction (Bridge Rest) Unit := do
  let bridge ← Action.gets World.bridge
  if bridge.subscribeGraphUpdates then
    updateConnectionGraph (connectionGraph options bridge.environment)
  else
    pure ()

inductive NodeEvent where
  | message (hdl : ConnHandle) (frame : ClientFrame)
  | closed (hdl : ConnHandle)
  | updateAdvertisedTopics
  | updateConnectionGraph
  | surroundings

inductive NodeStep (setup : Setup Rest) (world : World (Bridge Rest)) :
    NodeEvent → World (Bridge Rest) → Prop where
  | message (hdl : ConnHandle) (frame : ClientFrame) :
      NodeStep setup world (.message hdl frame) (handleMessage setup.config hdl frame world).2
  | closed (hdl : ConnHandle) :
      NodeStep setup world (.closed hdl) (handleConnectionClosed setup.config hdl world).2
  | updateAdvertisedTopics :
      NodeStep setup world .updateAdvertisedTopics
        (updateAdvertisedTopics setup.dump setup.options world).2
  | updateConnectionGraph :
      NodeStep setup world .updateConnectionGraph (pollConnectionGraph setup.options world).2
  | surroundings {next : World (Bridge Rest)} (acts : Acts world next) :
      NodeStep setup world .surroundings next

/-- Every history of a node from its start. -/
def nodeRuns (setup : Setup Rest) : TransitionSystem (World (Bridge Rest)) NodeEvent where
  Initial world := world.server = .initial ∧
    ∃ environment rest, world.bridge = .initial environment rest
  Step := NodeStep setup

/-- The state after an event, with the surroundings at rest. -/
def NodeEvent.apply (setup : Setup Rest) (world : World (Bridge Rest)) :
    NodeEvent → World (Bridge Rest)
  | .message hdl frame => (handleMessage setup.config hdl frame world).2
  | .closed hdl => (handleConnectionClosed setup.config hdl world).2
  | .updateAdvertisedTopics => (Ros2.updateAdvertisedTopics setup.dump setup.options world).2
  | .updateConnectionGraph => (pollConnectionGraph setup.options world).2
  | .surroundings => world

/-- Every event can happen in every state. -/
theorem NodeEvent.apply_step (setup : Setup Rest) (world : World (Bridge Rest))
    (event : NodeEvent) : (nodeRuns setup).Step world event (event.apply setup world) := by
  cases event with
  | message hdl frame => exact .message hdl frame
  | closed hdl => exact .closed hdl
  | updateAdvertisedTopics => exact .updateAdvertisedTopics
  | updateConnectionGraph => exact .updateConnectionGraph
  | surroundings => exact .surroundings ⟨_, _, _, _, rfl⟩

end CoBridge.Ros2
