import CoBridge.Ros2.Node
import CoBridge.Server.GraphUpdates
import CoBridge.Library.Schedule
import CoBridge.Server.Effects

/-!
# Connection graph calls in sections

An update of the connection graph stores the new graph in one section and sends the
difference in a second one. A subscription counts the client, lets the first
subscriber's bridge run an update, sets the flag, copies the stored graph and sends
the copy, each in a section of its own.
-/

namespace CoBridge.Ros2

open Library

section

variable {Rest : Type}

/-- Every topic is in both topic maps. -/
def EqualSides (graph : ConnectionGraph) : Prop :=
  ∀ name, name ∈ graph.publishedTopics ↔ name ∈ graph.subscribedTopics

theorem EqualSides.keepsSides {new : ConnectionGraph} (sides : EqualSides new)
    (stored : ConnectionGraph) : stored.KeepsSides new :=
  ⟨fun name _ subscribed => (sides name).mpr subscribed,
    fun name _ published => (sides name).mp published⟩

/-- A topic's presence does not depend on the end that is asked for. -/
theorem mem_endpointsByTopic (options : Options) (endpoints : TopicInfo → List EndpointInfo)
    (topics : Table String TopicInfo) (name : String) :
    name ∈ endpointsByTopic options endpoints topics ↔
      name ∈ (topics.entries.filter fun topic =>
        isWhitelisted topic.1 options.topicWhitelistPatterns).map Sigma.fst := by
  have collects (listed : List (Sigma fun _ : String => TopicInfo)) (table : MapOfSets) :
      name ∈ listed.foldl (fun table topic =>
        table.emplace topic.1 ((endpoints topic.2).map EndpointInfo.id).toFinset) table ↔
      name ∈ table ∨ name ∈ listed.map Sigma.fst := by
    induction listed generalizing table with
    | nil => simp
    | cons topic rest ih =>
      rw [List.foldl_cons, ih, Table.mem_emplace, List.map_cons, List.mem_cons]
      constructor
      · rintro ((here | before) | later)
        · exact .inr (.inl here)
        · exact .inl before
        · exact .inr (.inr later)
      · rintro (before | here | later)
        · exact .inl (.inr before)
        · exact .inl (.inl here)
        · exact .inr later
  rw [endpointsByTopic, collects]
  simp

/-- The sections, with the client a subscription is for. `first` is the subscriber
whose subscription made the bridge update the graph. -/
inductive GraphSection where
  | countSubscriber (hdl : ConnHandle)
  | callBridge (hdl : ConnHandle)
  | storeGraph (first : Option ConnHandle) (graph : ConnectionGraph)
  | sendUpdate (first : Option ConnHandle) (update : ConnectionGraphUpdate)
  | flagSubscriber (hdl : ConnHandle)
  | readGraph (hdl : ConnHandle) (first : Bool)
  | sendGraph (hdl : ConnHandle) (first : Bool) (graph : ConnectionGraph)

abbrev GraphProgram (Rest Value : Type) : Type :=
  Program GraphSection (World (Bridge Rest)) Fault Value

/-- Compare with the stored graph and replace it. -/
def exchangeGraph {Bridge : Type} (graph : ConnectionGraph) :
    ServerAction Bridge ConnectionGraphUpdate := do
  let stored ← Action.gets fun world => world.server.connectionGraph
  modifyServer (Server.storeGraph graph)
  pure (stored.diff graph)

open Program in
def updateConnectionGraphSections (first : Option ConnHandle) (graph : ConnectionGraph) :
    GraphProgram Rest Unit := do
  let update ← perform (.storeGraph first graph) (exchangeGraph graph)
  if update.isEmpty then
    pure ()
  else
    perform (.sendUpdate first update) (sendGraphUpdate update)

/-- Count one more subscription. -/
def countSubscriber {Bridge : Type} : ServerAction Bridge Int := do
  modifyServer (Server.addToSubscriptionCount 1)
  Action.gets fun world => world.server.subscriptionCount

/-- The bridge is told to follow the graph and reads it. -/
def callBridge (options : Options) : ServerAction (Bridge Rest) ConnectionGraph := do
  Action.modify fun world => world.recordCall (.subscribeConnectionGraph true)
  Action.modify fun world =>
    { world with bridge := { world.bridge with subscribeGraphUpdates := true } }
  Action.gets fun world => connectionGraph options world.bridge.environment

open Program in
def announceConnectionGraphSections (options : Options) (hdl : ConnHandle) :
    GraphProgram Rest Unit := do
  let graph ← perform (.callBridge hdl) (callBridge options)
  updateConnectionGraphSections (some hdl) graph
  perform (.flagSubscriber hdl) (updateClient hdl (ClientInfo.setSubscribedToConnectionGraph true))

open Program in
def sendConnectionGraphSections (hdl : ConnHandle) (first : Bool) : GraphProgram Rest Unit := do
  let graph ← perform (.readGraph hdl first) (Action.gets fun world => world.server.connectionGraph)
  perform (.sendGraph hdl first graph) (sendRawJson hdl (.connectionGraphUpdate graph.snapshot))

open Program in
def handleSubscribeConnectionGraphSections (options : Options) (hdl : ConnHandle) :
    GraphProgram Rest Unit := do
  let subscriptionCount ← perform (.countSubscriber hdl) countSubscriber
  if subscriptionCount = 1 then
    announceConnectionGraphSections options hdl
    sendConnectionGraphSections hdl true
  else
    sendConnectionGraphSections hdl false

section Run

theorem updateConnectionGraphSections_run (first : Option ConnHandle) (graph : ConnectionGraph) :
    (updateConnectionGraphSections first graph : GraphProgram Rest Unit).run =
      updateConnectionGraph graph := by
  simp [updateConnectionGraphSections, updateConnectionGraph, exchangeGraph, sendGraphUpdate]

theorem callBridge_run (setup : Setup Rest) :
    (do
      let graph ← callBridge setup.options
      updateConnectionGraph graph) =
      callHandler setup.config (.subscribeConnectionGraph true) := by
  funext world
  have updates (graph : ConnectionGraph) (reached : World (Bridge Rest)) :
      (Action.forEach [Callback.updateConnectionGraph graph] runCallback >>= fun _ =>
        Action.ofExcept (.ok ())) reached = updateConnectionGraph graph reached := by
    change ((updateConnectionGraph graph >>= fun _ => pure ()) >>= fun _ => pure ()) reached = _
    rw [bind_assoc]
    exact congrFun (bind_pure (updateConnectionGraph graph)) reached
  exact (updates _ _).symm

theorem handleSubscribeConnectionGraphSections_run (setup : Setup Rest) (hdl : ConnHandle) :
    (handleSubscribeConnectionGraphSections setup.options hdl : GraphProgram Rest Unit).run =
      handleSubscribeConnectionGraph setup.config hdl := by
  have announces :
      (announceConnectionGraphSections setup.options hdl : GraphProgram Rest Unit).run =
      announceConnectionGraph setup.config hdl 1 := by
    simp only [announceConnectionGraphSections, Program.run_bind, Program.run_perform,
      updateConnectionGraphSections_run, announceConnectionGraph, ← callBridge_run, bind_assoc,
      if_pos]
  have sends (first : Bool) : (sendConnectionGraphSections hdl first : GraphProgram Rest Unit).run =
      sendConnectionGraph hdl := rfl
  unfold handleSubscribeConnectionGraphSections handleSubscribeConnectionGraph countSubscriber
  simp only [Program.run_bind, Program.run_perform, Program.run_ite, bind_assoc, announces, sends]
  congr 1
  funext _
  congr 1
  funext subscriptionCount
  by_cases first : subscriptionCount = 1
  · rw [if_pos first, first]
  · rw [if_neg first, announceConnectionGraph, if_neg first, pure_bind]

end Run

end

/-!
## Graph calls as steps on one client's view

What the sections of graph updates and graph subscriptions do to the stored graph,
the subscription count, and one client's flag and view, while the connections are
open. The programs follow these steps.
-/

open Action Table

variable {Rest : Type} {hdl : ConnHandle}

/-- What one client's view of the connection graph depends on. -/
structure GraphClient where
  graph : ConnectionGraph
  count : Int
  flagged : Bool
  view : ConnectionGraph

def graphClient (world : World (Bridge Rest)) (hdl : ConnHandle) : GraphClient where
  graph := world.server.connectionGraph
  count := world.server.subscriptionCount
  flagged := (world.server.clients.lookup hdl).any ClientInfo.subscribedToConnectionGraph
  view := world.receivedGraph hdl

theorem graphClient_flagged (world : World (Bridge Rest)) (hdl : ConnHandle) :
    (graphClient world hdl).flagged = true ↔ hdl ∈ world.server.graphSubscribers := by
  rw [Server.mem_graphSubscribers]
  change (world.server.clients.lookup hdl).any _ = true ↔ _
  cases world.server.clients.lookup hdl <;> simp

/-- An update frame, which goes to flagged clients. -/
def GraphClient.receive (update : ConnectionGraphUpdate) (client : GraphClient) : GraphClient :=
  if client.flagged then { client with view := update.applyTo client.view } else client

/-- The sections as one client sees them. -/
inductive GraphStep (hdl : ConnHandle) :
    GraphSection → GraphClient → GraphClient → Option GraphSection → Prop where
  | count (owner : ConnHandle) (client : GraphClient) :
      GraphStep hdl (.countSubscriber owner) client { client with count := client.count + 1 }
        (some (if client.count + 1 = 1 then .callBridge owner else .readGraph owner false))
  | call (owner : ConnHandle) {graph : ConnectionGraph} (sides : EqualSides graph)
      (client : GraphClient) :
      GraphStep hdl (.callBridge owner) client client (some (.storeGraph (some owner) graph))
  | store (first : Option ConnHandle) (graph : ConnectionGraph) (client : GraphClient) :
      GraphStep hdl (.storeGraph first graph) client { client with graph := graph }
        (if (client.graph.diff graph).isEmpty then first.map .flagSubscriber
          else some (.sendUpdate first (client.graph.diff graph)))
  | send (first : Option ConnHandle) (update : ConnectionGraphUpdate) (client : GraphClient) :
      GraphStep hdl (.sendUpdate first update) client (client.receive update)
        (first.map .flagSubscriber)
  | flag (client : GraphClient) :
      GraphStep hdl (.flagSubscriber hdl) client { client with flagged := true }
        (some (.readGraph hdl true))
  | flagOther {owner : ConnHandle} (other : owner ≠ hdl) (client : GraphClient) :
      GraphStep hdl (.flagSubscriber owner) client client (some (.readGraph owner true))
  | flagNobody (owner : ConnHandle) (client : GraphClient) :
      GraphStep hdl (.flagSubscriber owner) client client none
  | read (owner : ConnHandle) (first : Bool) (client : GraphClient) :
      GraphStep hdl (.readGraph owner first) client client
        (some (.sendGraph owner first client.graph))
  | reply (first : Bool) (graph : ConnectionGraph) (client : GraphClient) :
      GraphStep hdl (.sendGraph hdl first graph) client
        { client with view := graph.snapshot.applyTo client.view } none
  | replyOther {owner : ConnHandle} (other : owner ≠ hdl) (first : Bool) (graph : ConnectionGraph)
      (client : GraphClient) :
      GraphStep hdl (.sendGraph owner first graph) client client none

/-- The steps of the code, seen from the client while all connections are open. -/
structure SeenBy (hdl : ConnHandle) (label : GraphSection) (before after : World (Bridge Rest))
    (next : Option GraphSection) : Prop where
  link : after.link = before.link
  step : (∀ other, before.link other = .established) →
    GraphStep hdl label (graphClient before hdl) (graphClient after hdl) next

section Sections

variable (first : Option ConnHandle)

theorem exchangeGraph_seen (graph : ConnectionGraph) (world : World (Bridge Rest))
    {next : Option GraphSection}
    (continues : next = if (world.server.connectionGraph.diff graph).isEmpty
      then first.map .flagSubscriber
      else some (.sendUpdate first (world.server.connectionGraph.diff graph))) :
    SeenBy hdl (.storeGraph first graph) world (exchangeGraph graph world).2 next where
  link := rfl
  step _ := by
    rw [continues]
    exact .store first graph (graphClient world hdl)

theorem sendGraphUpdate_seen (update : ConnectionGraphUpdate) (world : World (Bridge Rest))
    (linked : ∀ other, world.link other = .established) :
    GraphStep hdl (.sendUpdate first update) (graphClient world hdl)
      (graphClient (sendGraphUpdate update world).2 hdl) (first.map .flagSubscriber) := by
  have sent : graphClient (sendGraphUpdate update world).2 hdl =
      (graphClient world hdl).receive update := by
    rw [sendGraphUpdate_apply fun other _ => linked other]
    unfold GraphClient.receive
    by_cases flagged : (graphClient world hdl).flagged = true
    · have subscribed := (graphClient_flagged world hdl).mp flagged
      rw [if_pos flagged]
      unfold graphClient
      rw [World.enqueueAll_server,
        World.receivedGraph_enqueueAll _ world.server.graphSubscribers_nodup,
        if_pos ⟨subscribed, linked hdl⟩]
      rfl
    · have unsubscribed := (graphClient_flagged world hdl).not.mp flagged
      rw [if_neg flagged]
      unfold graphClient
      rw [World.enqueueAll_server,
        World.receivedGraph_enqueueAll _ world.server.graphSubscribers_nodup,
        if_neg fun reached => unsubscribed reached.1]
  rw [sent]
  exact .send first update (graphClient world hdl)

/-- Whatever comes after an update, its two sections are steps. -/
theorem updateConnectionGraphSections_follows (graph : ConnectionGraph)
    {next : Unit → GraphProgram Rest Unit}
    (continues : (next ()).label? = first.map .flagSubscriber)
    (follows : (next ()).Follows (SeenBy hdl)) :
    (updateConnectionGraphSections first graph >>= next).Follows (SeenBy hdl) := by
  unfold updateConnectionGraphSections
  rw [bind_assoc]
  apply Program.follows_perform_bind
  · intro world
    apply exchangeGraph_seen
    change Program.label? (ite _ _ _ >>= next) = _
    split
    · exact continues
    · rfl
  · intro update
    split
    · exact follows
    · apply Program.follows_perform_bind
      · intro world
        refine ⟨?_, fun linked => ?_⟩
        · have frame : (sendGraphUpdate update : ServerAction (Bridge Rest) Unit).Meets
              (.frame World.link) := by
            apply Meets.bind (meets_gets _)
            intro subscribers
            apply meets_forEach
            intro other _
            exact serverSend_meets fun world => world.enqueue_link other _
          exact frame world
        have sends : (sendGraphUpdate update world).1 = .ok () := by
          rw [sendGraphUpdate_apply fun other _ => linked other]
        rw [sends]
        change GraphStep hdl _ _ _ (next ()).label?
        rw [continues]
        exact sendGraphUpdate_seen first update world linked
      · intro _
        exact follows

theorem flagSubscriber_seen (owner : ConnHandle) (world : World (Bridge Rest))
    {next : Unit → GraphProgram Rest Unit}
    (continues : (next ()).label? = some (.readGraph owner true)) :
    SeenBy hdl (.flagSubscriber owner) world
      (updateClient owner (ClientInfo.setSubscribedToConnectionGraph true) world).2
      (Program.labelAfter next
        (updateClient owner (ClientInfo.setSubscribedToConnectionGraph true) world).1) := by
  rw [updateClient_apply]
  split
  · next registered =>
    refine ⟨rfl, fun _ => ?_⟩
    change GraphStep hdl _ _ _ (next ()).label?
    rw [continues]
    obtain ⟨client, found⟩ := (mem_iff_lookup owner world.server.clients).mp registered
    by_cases same : owner = hdl
    · subst same
      have flagged : graphClient
          { world with
            server :=
              world.server.modifyClient owner (ClientInfo.setSubscribedToConnectionGraph true) }
          owner = { graphClient world owner with flagged := true } := by
        simp [graphClient, Server.modifyClient, lookup_modify, found,
          ClientInfo.setSubscribedToConnectionGraph, World.receivedGraph, World.sentTo]
      rw [flagged]
      exact .flag _
    · have unnoticed : graphClient
          { world with
            server :=
              world.server.modifyClient owner (ClientInfo.setSubscribedToConnectionGraph true) }
          hdl = graphClient world hdl := by
        simp [graphClient, Server.modifyClient, lookup_modify, Ne.symm same,
          World.receivedGraph, World.sentTo]
      rw [unnoticed]
      exact .flagOther same _
  · exact ⟨rfl, fun _ => .flagNobody owner _⟩

theorem sendConnectionGraphSections_follows (owner : ConnHandle) (first : Bool) :
    (sendConnectionGraphSections owner first : GraphProgram Rest Unit).Follows (SeenBy hdl) := by
  apply Program.follows_perform_bind
  · intro world
    exact ⟨rfl, fun _ => .read owner first _⟩
  intro graph
  apply Program.follows_perform
  intro world
  rw [sendRawJson_apply]
  refine ⟨World.enqueue_link _ _ _, fun linked => ?_⟩
  by_cases same : owner = hdl
  · subst same
    have received :
        graphClient (world.enqueue owner (.connectionGraphUpdate graph.snapshot)) owner =
        { graphClient world owner with
          view := graph.snapshot.applyTo (graphClient world owner).view } := by
      unfold graphClient
      rw [World.enqueue_server, World.receivedGraph_enqueue _ (linked owner)]
      rfl
    rw [received]
    exact .reply first graph _
  · have unnoticed : graphClient (world.enqueue owner (.connectionGraphUpdate graph.snapshot)) hdl =
        graphClient world hdl := by
      unfold graphClient World.receivedGraph
      rw [World.enqueue_server, World.sentTo_enqueue, if_neg fun reached => same reached.1,
        List.append_nil]
    rw [unnoticed]
    exact .replyOther same first graph _

/-- A subscription, as one client sees it, takes the steps of the view. -/
theorem handleSubscribeConnectionGraphSections_follows (options : Options) (owner : ConnHandle) :
    (handleSubscribeConnectionGraphSections options owner : GraphProgram Rest Unit).Follows
      (SeenBy hdl) := by
  apply Program.follows_perform_bind
  · intro world
    refine ⟨rfl, fun _ => ?_⟩
    have counts : GraphStep hdl _ _ _ _ := .count owner (graphClient world hdl)
    change GraphStep hdl _ _ _ (Program.label? (ite (world.server.subscriptionCount + 1 = 1) _ _))
    change GraphStep hdl _ _ _ (some (ite (world.server.subscriptionCount + 1 = 1) _ _)) at counts
    split
    · next first => rwa [if_pos first] at counts
    · next later => rwa [if_neg later] at counts
  intro subscriptionCount
  split
  · unfold announceConnectionGraphSections
    rw [bind_assoc]
    apply Program.follows_perform_bind
    · intro world
      refine ⟨rfl, fun _ => .call owner ?_ _⟩
      -- The graph the bridge builds has every topic in both maps.
      intro name
      exact (mem_endpointsByTopic options _ _ name).trans
        (mem_endpointsByTopic options _ _ name).symm
    intro graph
    rw [bind_assoc]
    apply updateConnectionGraphSections_follows
    · rfl
    apply Program.follows_perform_bind
    · intro world
      exact flagSubscriber_seen owner world rfl
    · intro _
      exact sendConnectionGraphSections_follows owner true
  · exact sendConnectionGraphSections_follows owner false

end Sections

end CoBridge.Ros2
