import Mathlib.Data.List.Chain
import CoBridge.Server.GraphUpdates

/-!
# Connection graph diffs

Additions are found in each map of the graph, removals of topics over both topic
maps together. So the difference is exact as long as no topic leaves one of the
topic maps and stays in the other, and a subscriber that got the whole graph
follows any sequence of such updates.
-/

namespace CoBridge

open Library

variable {Bridge : Type}

/-- The world after a sequence of updates. -/
def updateGraphs (world : World Bridge) (graphs : List ConnectionGraph) : World Bridge :=
  graphs.foldl (fun reached graph => (updateConnectionGraph graph reached).2) world

/-- The client knows exactly the graph that the server stores. -/
def UpToDate (world : World Bridge) (hdl : ConnHandle) : Prop :=
  (world.receivedGraph hdl).Same world.server.connectionGraph

/-- A subscriber that is up to date stays so through every update of a sequence if
and only if each update keeps its sides. -/
theorem upToDate_updates_iff {world : World Bridge} {hdl : ConnHandle}
    (subscriber : GraphSubscriber world hdl) (current : UpToDate world hdl)
    (graphs : List ConnectionGraph) :
    (∀ count, UpToDate (updateGraphs world (graphs.take count)) hdl) ↔
      (world.server.connectionGraph :: graphs).IsChain ConnectionGraph.KeepsSides := by
  induction graphs generalizing world with
  | nil =>
    refine ⟨fun _ => .singleton _, fun _ count => ?_⟩
    rw [List.take_nil]
    exact current
  | cons graph rest ih =>
    obtain ⟨continues, stored, received⟩ := subscriber.update graph
    have exact_iff : UpToDate (updateConnectionGraph graph world).2 hdl ↔
        world.server.connectionGraph.KeepsSides graph := by
      unfold UpToDate
      rw [received, stored]
      exact ConnectionGraph.diff_delivered_iff current
    rw [List.isChain_cons_cons]
    constructor
    · intro always
      have next : UpToDate (updateConnectionGraph graph world).2 hdl := always 1
      refine ⟨exact_iff.mp next, ?_⟩
      rw [← stored]
      exact (ih continues next).mp fun count => always (count + 1)
    · rintro ⟨keeps, chain⟩ count
      rw [← stored] at chain
      cases count with
      | zero => exact current
      | succ count => exact (ih continues (exact_iff.mpr keeps)).mpr chain count

/-- The difference of two graphs takes the one to the other if and only if it keeps
its sides, and a subscriber that got the whole stored graph knows the stored graph
after each of any sequence of updates if and only if all of them do. -/
theorem graph_diffs_exact :
    (∀ stored new : ConnectionGraph,
      ((stored.diff new).deliveredTo stored).Same new ↔ stored.KeepsSides new) ∧
    ∀ (world : World Bridge) (hdl : ConnHandle) (graphs : List ConnectionGraph),
      GraphSubscriber world hdl → (world.receivedGraph hdl).Same .empty →
      ((∀ count,
        UpToDate (updateGraphs (sendConnectionGraph hdl world).2 (graphs.take count)) hdl) ↔
        (world.server.connectionGraph :: graphs).IsChain ConnectionGraph.KeepsSides) := by
  constructor
  · intro stored new
    exact ConnectionGraph.diff_delivered_iff fun _ => rfl
  · intro world hdl graphs subscriber blank
    obtain ⟨continues, server, received⟩ := subscriber.snapshot
    have current : UpToDate (sendConnectionGraph hdl world).2 hdl := by
      unfold UpToDate
      rw [received, server]
      intro key
      rw [ConnectionGraphUpdate.lookup_applyTo, show (world.receivedGraph hdl).lookup = _ from
        funext blank, ← ConnectionGraphUpdate.lookup_applyTo]
      exact ConnectionGraph.snapshot_exact _ key
    rw [← server]
    exact upToDate_updates_iff continues current graphs

/-- One topic with a publisher and a subscriber. -/
def talkedTopic : ConnectionGraph :=
  ⟨AList.insert "/a" {"/talker"} ∅, AList.insert "/a" {"/listener"} ∅, ∅⟩

/-- The publisher is gone. -/
def silentTopic : ConnectionGraph := ⟨∅, AList.insert "/a" {"/listener"} ∅, ∅⟩

/-- A client subscribed before there was anything in the graph. -/
def graphSubscriberWorld : World Unit :=
  (handleSubscribeConnectionGraph .accepting ⟨1⟩
    (handleLogin .accepting loginPayload ⟨1⟩ (World.initial ())).2).2

/-- The topic comes and goes. -/
theorem graph_diffs_exact_topic : ∀ count,
    UpToDate (updateGraphs (sendConnectionGraph ⟨1⟩ graphSubscriberWorld).2
      ([talkedTopic, .empty, silentTopic].take count)) ⟨1⟩ := by
  have subscriber : GraphSubscriber graphSubscriberWorld ⟨1⟩ :=
    ⟨by decide +kernel, by decide +kernel⟩
  have blank : (graphSubscriberWorld.receivedGraph ⟨1⟩).Same .empty := fun key => by
    cases key <;> rfl
  exact (graph_diffs_exact.2 graphSubscriberWorld ⟨1⟩ _ subscriber blank).mpr (by decide +kernel)

/-- A publisher that leaves a topic with subscribers is not reported at all. -/
theorem graph_diff_misses_publisher :
    (talkedTopic.diff silentTopic).isEmpty = true ∧
      ¬((talkedTopic.diff silentTopic).deliveredTo talkedTopic).Same silentTopic := by
  refine ⟨by decide +kernel, fun same => ?_⟩
  exact absurd (same (.published "/a")) (by decide +kernel)

end CoBridge
