import Mathlib.Data.Fintype.Sum
import Mathlib.Tactic.DeriveFintype
import CoBridge.Ros2.GraphSteps
import CoBridge.Properties.LeakedSubscription

/-!
# Connection graph views converge

The callback worker serves subscriptions to the connection graph while other threads
run updates. What holds at any time between the stored graph and the view of one
client: before the client is flagged nothing reaches it, afterwards its view agrees
with the stored graph on every name that no frame under way mentions, as long as the
frames that reach it are timely.
-/

namespace CoBridge.Ros2

open Library

section

variable {Rest Caller : Type}

/-- The callback worker, and the threads that run updates by themselves. -/
inductive GraphThread (Caller : Type) where
  | worker
  | update (caller : Caller)
deriving DecidableEq, Fintype

inductive GraphCall (options : Options) : GraphThread Caller → GraphProgram Rest Unit → Prop where
  | subscribe (hdl : ConnHandle) :
      GraphCall options .worker (handleSubscribeConnectionGraphSections options hdl)
  | update (caller : Caller) {graph : ConnectionGraph} (sides : EqualSides graph) :
      GraphCall options (.update caller) (updateConnectionGraphSections none graph)

/-- The clients for which a first subscription has copied the graph, after a section. -/
def GraphSection.recordCopy (copied : List ConnHandle) : GraphSection → List ConnHandle
  | .readGraph hdl true => hdl :: copied
  | _ => copied

/-- Nothing but the mutexes orders the sections. -/
def graphCopies : Discipline GraphSection (World (Bridge Rest)) (List ConnHandle) where
  enabled _ _ := True
  effect label copied := label.recordCopy copied

instance (label : GraphSection) (shared : World (Bridge Rest) × List ConnHandle) :
    Decidable (graphCopies.enabled label shared) :=
  .isTrue trivial

/-- ROS and the rest of the node change by themselves. -/
def RosActs (world next : World (Bridge Rest)) : Prop :=
  ∃ environment rest now, next =
    { world with
      bridge := { world.bridge with environment := environment, rest := rest }
      now := now }

/-- All connections are open, nobody has subscribed to the graph or got any of it. -/
structure BeforeSubscriptions (shared : World (Bridge Rest) × List ConnHandle) : Prop where
  linked : ∀ hdl, shared.1.link hdl = .established
  uncounted : shared.1.server.subscriptionCount = 0
  unflagged : shared.1.server.graphSubscribers = []
  uninformed : ∀ hdl, (shared.1.receivedGraph hdl).Same .empty
  uncopied : shared.2 = []

/-- The interleavings of subscriptions and updates. -/
def graphCalls (Rest Caller : Type) [DecidableEq Caller] (options : Options) :
    TransitionSystem (Pool (GraphThread Caller) GraphSection (World (Bridge Rest))
      (List ConnHandle) Fault) (PoolEvent (GraphThread Caller) GraphSection) :=
  Pool.system graphCopies (GraphCall options) RosActs BeforeSubscriptions

/-- What the next section of a thread will tell the client. -/
def pendingGraph (hdl : ConnHandle) : Option GraphSection → Change GraphKey (Option (Finset String))
  | some (.sendUpdate _ update) => update.change
  | some (.sendGraph owner _ graph) => if owner = hdl then graph.snapshot.change else []
  | _ => []

/-- The stored graph, the client's view of it and the frames that are still to be sent. -/
def graphReplica (hdl : ConnHandle) (client : GraphClient) (copied : List ConnHandle)
    (labels : GraphThread Caller → Option GraphSection) :
    Replica (GraphThread Caller) GraphKey (Option (Finset String)) where
  store := client.graph.lookup
  view := client.view.lookup
  pending thread := pendingGraph hdl (labels thread)
  complete := decide (hdl ∈ copied)

/-- Every frame that reaches a flagged client tells it nothing that is over, except for
what another frame is about to set right. -/
def GraphFramesTimely
    (pool : Pool (GraphThread Caller) GraphSection (World (Bridge Rest)) (List ConnHandle) Fault) :
    PoolEvent (GraphThread Caller) GraphSection → Prop
  | .enter thread _ => ∀ hdl ∈ pool.shared.1.server.graphSubscribers,
      (graphReplica hdl (graphClient pool.shared.1 hdl) pool.shared.2 pool.labels).Timely
        none thread
  | _ => True

instance [Fintype Caller] [DecidableEq Caller]
    (pool : Pool (GraphThread Caller) GraphSection (World (Bridge Rest)) (List ConnHandle) Fault) :
    (event : PoolEvent (GraphThread Caller) GraphSection) → Decidable (GraphFramesTimely pool event)
  | .enter _ _ => inferInstanceAs (Decidable (∀ _ ∈ _, _))
  | .start _ => .isTrue trivial
  | .surroundings => .isTrue trivial

section Worker

variable {hdl : ConnHandle} {client after : GraphClient} {copied : List ConnHandle}
  {label : GraphSection} {following worker : Option GraphSection}

/-- The subscriber that the worker is about to flag. -/
def GraphSection.enrolls : GraphSection → Option ConnHandle
  | .callBridge hdl => some hdl
  | .storeGraph first _ => first
  | .sendUpdate first _ => first
  | .flagSubscriber hdl => some hdl
  | _ => none

/-- The subscription is counted already. -/
def GraphSection.counted : GraphSection → Bool
  | .countSubscriber _ => false
  | _ => true

/-- A section of an update that belongs to no subscription. -/
def GraphSection.unowned : GraphSection → Bool
  | .storeGraph none _ | .sendUpdate none _ => true
  | _ => false

/-- How far the worker is with the client: nothing has reached a client that may
still become the first subscriber, and a flagged client has its copy or is next. -/
structure WorkerProgress (hdl : ConnHandle) (client : GraphClient) (copied : List ConnHandle)
    (worker : Option GraphSection) : Prop where
  count : 0 ≤ client.count
  serving : ∀ label, worker = some label → label.counted = true → 0 < client.count
  fresh : client.flagged = false →
    client.count = 0 ∨ worker.bind GraphSection.enrolls = some hdl →
      hdl ∉ copied ∧ ∀ key, client.view.lookup key = none
  informed : client.flagged = true → hdl ∈ copied ∨ worker = some (.readGraph hdl true)

theorem enrolls_flagSubscriber (first : Option ConnHandle) :
    (first.map GraphSection.flagSubscriber).bind GraphSection.enrolls = first := by
  cases first <;> rfl

/-- Any section of an update, whoever runs it, after which the worker still serves the
same subscriber. -/
theorem WorkerProgress.update (progress : WorkerProgress hdl client copied worker)
    (count : after.count = client.count) (flagged : after.flagged = client.flagged)
    (view : client.flagged = false → after.view = client.view)
    (counted : ∀ label, following = some label → label.counted = true →
      ∃ label, worker = some label ∧ label.counted = true)
    (enrolls : following.bind GraphSection.enrolls = worker.bind GraphSection.enrolls)
    (waits : worker = some (.readGraph hdl true) → following = worker) :
    WorkerProgress hdl after copied following where
  count := count ▸ progress.count
  serving label found isCounted := by
    obtain ⟨earlier, current, earlierCounted⟩ := counted label found isCounted
    rw [count]
    exact progress.serving earlier current earlierCounted
  fresh unflagged mayEnroll := by
    rw [flagged] at unflagged
    rw [view unflagged]
    rw [count, enrolls] at mayEnroll
    exact progress.fresh unflagged mayEnroll
  informed isFlagged := by
    rw [flagged] at isFlagged
    refine (progress.informed isFlagged).imp_right fun reads => ?_
    rw [waits reads, reads]

/-- A subscription that is counted and enrolls nobody any more. -/
theorem WorkerProgress.served (positive : 0 < client.count)
    (enrolls : following.bind GraphSection.enrolls = none)
    (informed : client.flagged = true →
      hdl ∈ copied ∨ following = some (.readGraph hdl true)) :
    WorkerProgress hdl client copied following where
  count := Int.le_of_lt positive
  serving _ _ _ := positive
  fresh _ mayEnroll := by
    rcases mayEnroll with zero | enrolling
    · omega
    · rw [enrolls] at enrolling
      cases enrolling
  informed := informed

theorem GraphClient.receive_count (update : ConnectionGraphUpdate) :
    (client.receive update).count = client.count := by
  unfold GraphClient.receive
  split <;> rfl

theorem GraphClient.receive_flagged (update : ConnectionGraphUpdate) :
    (client.receive update).flagged = client.flagged := by
  unfold GraphClient.receive
  split <;> rfl

theorem GraphClient.receive_of_unflagged (update : ConnectionGraphUpdate)
    (unflagged : client.flagged = false) : client.receive update = client := by
  rw [GraphClient.receive, unflagged]
  rfl

/-- The worker's own sections. -/
theorem WorkerProgress.step (progress : WorkerProgress hdl client copied (some label))
    (step : GraphStep hdl label client after following) :
    WorkerProgress hdl after (label.recordCopy copied) following := by
  have informed (other : label ≠ .readGraph hdl true) : client.flagged = true → hdl ∈ copied :=
    fun flagged => (progress.informed flagged).resolve_right fun same =>
      other (Option.some.inj same)
  cases step with
  | count owner =>
    have positive : 0 < client.count + 1 := by
      have := progress.count
      omega
    refine ⟨Int.le_of_lt positive, fun _ _ _ => positive, fun unflagged mayEnroll => ?_,
      fun flagged => .inl (informed nofun flagged)⟩
    -- only the subscription that makes the count one enrolls its client
    apply progress.fresh unflagged
    left
    rcases mayEnroll with zero | enrolling
    · exact absurd zero positive.ne'
    · split at enrolling
      · omega
      · cases enrolling
  | call owner sides =>
    exact progress.update rfl rfl (fun _ => rfl) (fun _ _ _ => ⟨_, rfl, rfl⟩) rfl nofun
  | store first graph =>
    refine progress.update rfl rfl (fun _ => rfl) (fun _ _ _ => ⟨_, rfl, rfl⟩) ?_ nofun
    split
    · exact enrolls_flagSubscriber first
    · rfl
  | send first update =>
    exact progress.update (client.receive_count update) (client.receive_flagged update)
      (fun unflagged => by rw [client.receive_of_unflagged update unflagged])
      (fun _ _ _ => ⟨_, rfl, rfl⟩) (enrolls_flagSubscriber first) nofun
  | flag => exact .served (progress.serving _ rfl rfl) rfl fun _ => .inr rfl
  | flagOther other =>
    exact .served (progress.serving _ rfl rfl) rfl fun flagged => .inl (informed nofun flagged)
  | flagNobody owner =>
    exact .served (progress.serving _ rfl rfl) rfl fun flagged => .inl (informed nofun flagged)
  | read owner first =>
    refine .served (progress.serving _ rfl rfl) rfl fun flagged => .inl ?_
    rcases progress.informed flagged with before | same
    · cases first with
      | true => exact List.mem_cons_of_mem _ before
      | false => exact before
    · cases same
      exact List.mem_cons_self
  | reply first graph =>
    exact .served (progress.serving _ rfl rfl) rfl fun flagged => .inl (informed nofun flagged)
  | replyOther other first graph =>
    exact .served (progress.serving _ rfl rfl) rfl fun flagged => .inl (informed nofun flagged)

end Worker

section Agreement

variable [DecidableEq Caller] {hdl : ConnHandle} {client after : GraphClient}
  {copied : List ConnHandle} {labels : GraphThread Caller → Option GraphSection}
  {thread : GraphThread Caller} {label : GraphSection} {following : Option GraphSection}

/-- The frames under way after a section. -/
theorem graphReplica_update (client : GraphClient) (copied : List ConnHandle) :
    graphReplica hdl client copied (Function.update labels thread following) =
      { graphReplica hdl client copied labels with
        pending := Function.update (graphReplica hdl client copied labels).pending thread
          (pendingGraph hdl following) } := by
  unfold graphReplica
  congr 1
  exact Function.comp_update (pendingGraph hdl) labels thread following

/-- A section that neither changes the stored graph nor sends anything to the client. -/
theorem graphAgrees_silent
    (agrees : (graphReplica hdl client copied labels).Agrees none)
    (current : pendingGraph hdl (labels thread) = []) (next : pendingGraph hdl following = []) :
    (graphReplica hdl client copied (Function.update labels thread following)).Agrees none := by
  rw [graphReplica_update, next]
  exact agrees.publish current fun _ _ => rfl

/-- An update stores a graph; the next section announces every difference. -/
theorem graphAgrees_store {graph : ConnectionGraph}
    (sides : EqualSides graph) (agrees : (graphReplica hdl client copied labels).Agrees none)
    (current : pendingGraph hdl (labels thread) = [])
    (next : pendingGraph hdl following = (client.graph.diff graph).change) :
    (graphReplica hdl { client with graph := graph } copied
      (Function.update labels thread following)).Agrees none := by
  rw [graphReplica_update, next]
  refine agrees.publish current fun key unmentioned => ?_
  have exact_ := (ConnectionGraph.diff_exact_iff client.graph graph).mpr (sides.keepsSides _) key
  rw [Change.apply, unmentioned] at exact_
  exact exact_.symm

/-- A frame reaches the client. -/
theorem graphAgrees_deliver {update : ConnectionGraphUpdate}
    (agrees : (graphReplica hdl client copied labels).Agrees none)
    (timely : (graphReplica hdl client copied labels).Timely none thread)
    (current : pendingGraph hdl (labels thread) = update.change)
    (next : pendingGraph hdl following = []) :
    (graphReplica hdl { client with view := update.applyTo client.view } copied
      (Function.update labels thread following)).Agrees none := by
  rw [graphReplica_update, next]
  have delivered := agrees.deliver timely
  have view : (update.applyTo client.view).lookup =
      ((graphReplica hdl client copied labels).pending thread).apply
        (graphReplica hdl client copied labels).view := by
    funext key
    change _ = (pendingGraph hdl (labels thread)).apply client.view.lookup key
    rw [current]
    exact update.lookup_applyTo client.view key
  rw [← view] at delivered
  exact delivered

/-- A first or later subscription copies the stored graph for the client. -/
theorem graphAgrees_copy {first : Bool} {reached : List ConnHandle} (copies : hdl ∈ reached)
    (agrees : (graphReplica hdl client copied labels).Agrees none)
    (current : pendingGraph hdl (labels thread) = []) :
    (graphReplica hdl client reached
      (Function.update labels thread (some (.sendGraph hdl first client.graph)))).Agrees none := by
  rw [graphReplica_update]
  have covers :
      ∀ key, (pendingGraph hdl (some (.sendGraph hdl first client.graph))).find key = none →
      client.graph.lookup key = none := by
    intro key untold
    rw [pendingGraph, if_pos rfl, ConnectionGraph.find_snapshot] at untold
    exact Option.map_eq_none_iff.mp untold
  have copy := agrees.copy current covers
  unfold graphReplica at copy ⊢
  rw [decide_eq_true copies]
  exact copy

end Agreement

end

/-!
## Interleavings of graph subscriptions and updates

In every run whose frames are timely the view of each flagged client is the stored
graph once all calls have finished. A snapshot that is sent after the next update
shows what happens otherwise.
-/

variable {Rest Caller : Type} [DecidableEq Caller] {hdl : ConnHandle}

/-- What holds at any time for one client. -/
structure GraphConverging (hdl : ConnHandle) (shared : World (Bridge Rest) × List ConnHandle)
    (labels : GraphThread Caller → Option GraphSection) : Prop where
  linked : ∀ other, shared.1.link other = .established
  sides : ∀ thread first graph, labels thread = some (.storeGraph first graph) → EqualSides graph
  progress : WorkerProgress hdl (graphClient shared.1 hdl) shared.2 (labels .worker)
  agrees : (graphClient shared.1 hdl).flagged = true →
    (graphReplica hdl (graphClient shared.1 hdl) shared.2 labels).Agrees none

/-- The sections each thread can run. -/
def ThreadSeenBy (hdl : ConnHandle) : GraphThread Caller → GraphSection → World (Bridge Rest) →
    World (Bridge Rest) → Option GraphSection → Prop
  | .worker, label, before, after, next => SeenBy hdl label before after next
  | .update _, label, before, after, next =>
    SeenBy hdl label before after next ∧ label.unowned = true

section Steps

variable {labels : GraphThread Caller → Option GraphSection} {thread : GraphThread Caller}
  {label : GraphSection} {following : Option GraphSection} {copied : List ConnHandle}
  {client after : GraphClient}
variable {before : World (Bridge Rest)}

omit [DecidableEq Caller] in
theorem ThreadSeenBy.seen {after : World (Bridge Rest)}
    (seen : ThreadSeenBy hdl thread label before after following) :
    SeenBy hdl label before after following := by
  cases thread with
  | worker => exact seen
  | update caller => exact seen.1

/-- A graph that is about to be stored has all topics on both sides. -/
theorem sides_step (sides : ∀ thread first graph, labels thread = some (.storeGraph first graph) →
      EqualSides graph)
    (step : GraphStep hdl label client after following) (other : GraphThread Caller)
    (first : Option ConnHandle) (graph : ConnectionGraph)
    (found : Function.update labels thread following other = some (.storeGraph first graph)) :
    EqualSides graph := by
  by_cases same : other = thread
  · rw [same, Function.update_self] at found
    cases step with
    | count owner =>
      split at found <;> cases found
    | call owner builtSides =>
      cases found
      exact builtSides
    | store first graph =>
      split at found
      · cases first <;> cases found
      · cases found
    | send first update => cases first <;> cases found
    | _ => cases found
  · rw [Function.update_of_ne same] at found
    exact sides other first graph found

/-- A section keeps the progress of the worker. -/
theorem progress_step {reached : World (Bridge Rest)}
    (progress : WorkerProgress hdl client copied (labels .worker))
    (current : labels thread = some label)
    (seen : ThreadSeenBy hdl thread label before reached following)
    (step : GraphStep hdl label client after following) :
    WorkerProgress hdl after (label.recordCopy copied)
      (Function.update labels thread following .worker) := by
  cases thread with
  | worker =>
    rw [current] at progress
    exact progress.step step
  | update caller =>
    -- Sections of other threads.
    cases step with
    | store first graph =>
      exact progress.update rfl rfl (fun _ => rfl)
        (fun label found counted => ⟨label, found, counted⟩) rfl fun _ => rfl
    | send first update =>
      exact progress.update (client.receive_count update) (client.receive_flagged update)
        (fun unflagged => by rw [client.receive_of_unflagged update unflagged])
        (fun label found counted => ⟨label, found, counted⟩) rfl fun _ => rfl
    | _ => cases seen.2

/-- The agreement with the view of a flagged client survives every section. -/
theorem agrees_step
    (sides : ∀ thread first graph, labels thread = some (.storeGraph first graph) →
      EqualSides graph)
    (progress : WorkerProgress hdl client copied (labels .worker))
    (agrees : client.flagged = true → (graphReplica hdl client copied labels).Agrees none)
    (current : labels thread = some label) (atWorker : label.unowned = false → thread = .worker)
    (timely : client.flagged = true →
      (graphReplica hdl client copied labels).Timely none thread)
    (step : GraphStep hdl label client after following) (flagged : after.flagged = true) :
    (graphReplica hdl after (label.recordCopy copied)
      (Function.update labels thread following)).Agrees none := by
  have silent : pendingGraph hdl (some label) = [] → pendingGraph hdl (labels thread) = [] :=
    fun nothing => current ▸ nothing
  cases step with
  | count owner =>
    exact graphAgrees_silent (agrees flagged) (silent rfl) (by split <;> rfl)
  | call owner builtSides => exact graphAgrees_silent (agrees flagged) (silent rfl) rfl
  | store first graph =>
    refine graphAgrees_store (sides thread first graph current) (agrees flagged) (silent rfl) ?_
    split
    · next nothing =>
      rw [ConnectionGraphUpdate.change_of_isEmpty nothing]
      cases first <;> rfl
    · rfl
  | send first update =>
    rw [client.receive_flagged update] at flagged
    rw [GraphClient.receive, if_pos flagged]
    refine graphAgrees_deliver (agrees flagged) (timely flagged) (by rw [current]; rfl) ?_
    cases first <;> rfl
  | flag =>
    -- either the client was flagged before, or nothing has reached it yet
    by_cases before : client.flagged = true
    · change Replica.Agrees none (graphReplica hdl client copied _)
      exact graphAgrees_silent (agrees before) (silent rfl) rfl
    · rw [atWorker rfl] at current
      obtain ⟨uncopied, blank⟩ := progress.fresh (by simpa using before)
        (.inr (by rw [current]; rfl))
      exact Replica.agrees_of_blank (decide_eq_false uncopied) blank
  | flagOther other => exact graphAgrees_silent (agrees flagged) (silent rfl) rfl
  | flagNobody owner => exact graphAgrees_silent (agrees flagged) (silent rfl) rfl
  | read owner first =>
    by_cases same : owner = hdl
    · subst same
      refine graphAgrees_copy ?_ (agrees flagged) (silent rfl)
      rw [atWorker rfl] at current
      rw [current] at progress
      exact ((progress.step (.read owner first client)).informed flagged).resolve_right
        (by rintro ⟨⟩)
    · have sameCopies : decide (hdl ∈ GraphSection.recordCopy copied (.readGraph owner first)) =
          decide (hdl ∈ copied) := by
        cases first with
        | true => simp [GraphSection.recordCopy, Ne.symm same]
        | false => rfl
      have unchanged := graphAgrees_silent (agrees flagged) (silent rfl)
        (show pendingGraph hdl (some (.sendGraph owner first client.graph)) = [] by
          simp [pendingGraph, same])
      unfold graphReplica at unchanged ⊢
      rw [sameCopies]
      exact unchanged
  | reply first graph =>
    exact graphAgrees_deliver (agrees flagged) (timely flagged)
      (by rw [current, pendingGraph, if_pos rfl]) rfl
  | replyOther other first graph =>
    exact graphAgrees_silent (agrees flagged) (silent (by simp [pendingGraph, other])) rfl

end Steps

section Runs

variable {options : Options}
variable {thread : GraphThread Caller} {program : GraphProgram Rest Unit}

omit [DecidableEq Caller] in
theorem GraphCall.follows (call : GraphCall options thread program) :
    program.Follows (ThreadSeenBy hdl thread) := by
  cases call with
  | subscribe owner => exact handleSubscribeConnectionGraphSections_follows options owner
  | @update caller graph sides =>
    have unowned : (updateConnectionGraphSections none graph : GraphProgram Rest Unit).Follows
        fun label _ _ _ => label.unowned = true := by
      apply Program.follows_perform_bind
      · intro _
        rfl
      · intro update
        split
        · exact Program.follows_pure _
        · exact Program.follows_perform fun _ => rfl
    have follows : (updateConnectionGraphSections none graph >>= fun _ =>
        (pure () : GraphProgram Rest Unit)).Follows (SeenBy hdl) :=
      updateConnectionGraphSections_follows none graph rfl (Program.follows_pure _)
    rw [bind_pure] at follows
    exact follows.and unowned

theorem GraphConverging.start {shared : World (Bridge Rest) × List ConnHandle}
    {labels : GraphThread Caller → Option GraphSection}
    (converging : GraphConverging hdl shared labels) (idle : labels thread = none)
    (call : GraphCall options thread program) :
    GraphConverging hdl shared (Function.update labels thread program.label?) := by
  have current : pendingGraph hdl (labels thread) = [] := by
    rw [idle]
    rfl
  cases call with
  | subscribe owner =>
    refine ⟨converging.linked, ?_, ?_, fun flagged =>
      graphAgrees_silent (converging.agrees flagged) current rfl⟩
    · intro other first graph found
      by_cases same : other = .worker
      · rw [same, Function.update_self] at found
        cases found
      · rw [Function.update_of_ne same] at found
        exact converging.sides other first graph found
    · have progress := converging.progress
      rw [idle] at progress
      refine progress.update rfl rfl (fun _ => rfl) ?_ rfl nofun
      rintro _ ⟨⟩ ⟨⟩
  | @update caller graph builtSides =>
    refine ⟨converging.linked, ?_, ?_, fun flagged =>
      graphAgrees_silent (converging.agrees flagged) current rfl⟩
    · intro other first otherGraph found
      by_cases same : other = .update caller
      · rw [same, Function.update_self] at found
        cases found
        exact builtSides
      · rw [Function.update_of_ne same] at found
        exact converging.sides other first otherGraph found
    · rw [Function.update_of_ne (by simp)]
      exact converging.progress

/-- The programs follow the steps, and the steps keep the invariant. -/
theorem graphCalls_followed (options : Options) (hdl : ConnHandle) :
    Pool.Followed graphCopies
      (GraphCall options : GraphThread Caller → GraphProgram Rest Unit → Prop)
      RosActs (ThreadSeenBy hdl)
      (fun thread _ shared labels => hdl ∈ shared.1.server.graphSubscribers →
        (graphReplica hdl (graphClient shared.1 hdl) shared.2 labels).Timely none thread)
      (GraphConverging hdl) where
  follows _ _ call := call.follows
  starts converging idle call := converging.start idle call
  enters {world copied labels thread label next following} converging current timely seen := by
    have step := seen.seen.step converging.linked
    refine ⟨?_, sides_step converging.sides step,
      progress_step converging.progress current seen step,
      agrees_step converging.sides converging.progress converging.agrees current ?_
        (fun flagged => timely ((graphClient_flagged world hdl).mp flagged)) step⟩
    · intro other
      rw [seen.seen.link]
      exact converging.linked other
    · intro owned
      cases thread with
      | worker => rfl
      | update caller =>
        rw [seen.2] at owned
        cases owned
  surroundings converging acts := by
    obtain ⟨environment, rest, now, rfl⟩ := acts
    exact ⟨converging.linked, converging.sides, converging.progress, converging.agrees⟩

/-- Every run converges. -/
theorem graphConverging_of_run {events : List (PoolEvent (GraphThread Caller) GraphSection)}
    {pool : Pool (GraphThread Caller) GraphSection (World (Bridge Rest)) (List ConnHandle) Fault}
    (run : (graphCalls Rest Caller options).GuardedRun GraphFramesTimely events pool)
    (hdl : ConnHandle) : GraphConverging hdl pool.shared pool.labels := by
  refine Pool.invariant_of_follows (graphCalls_followed options hdl) ?_ ?_ run
  · rintro shared ⟨linked, uncounted, unflagged, uninformed, uncopied⟩
    have outside : ¬(graphClient shared.1 hdl).flagged = true := by
      rw [graphClient_flagged, unflagged]
      simp
    refine ⟨linked, nofun, ⟨uncounted.ge, nofun, fun _ _ => ⟨?_, fun key => ?_⟩,
      fun flagged => absurd flagged outside⟩, fun flagged => absurd flagged outside⟩
    · rw [uncopied]
      simp
    · exact (uninformed hdl key).trans (ConnectionGraph.empty_lookup key)
  · intro pool thread label guarded _
    exact guarded hdl

/-- Once all calls have finished, every flagged client has the stored graph, provided
that every frame was timely. -/
theorem graph_views_converge {events : List (PoolEvent (GraphThread Caller) GraphSection)}
    {pool : Pool (GraphThread Caller) GraphSection (World (Bridge Rest)) (List ConnHandle) Fault}
    (run : (graphCalls Rest Caller options).GuardedRun GraphFramesTimely events pool)
    (finished : ∀ thread, pool.Idle thread) {hdl : ConnHandle}
    (flagged : hdl ∈ pool.shared.1.server.graphSubscribers) :
    (pool.shared.1.receivedGraph hdl).Same pool.shared.1.server.connectionGraph := by
  have converging := graphConverging_of_run run hdl
  have isFlagged := (graphClient_flagged pool.shared.1 hdl).mpr flagged
  have copied : hdl ∈ pool.shared.2 := by
    refine (converging.progress.informed isFlagged).resolve_right fun reads => ?_
    rw [(finished .worker).labels] at reads
    cases reads
  have settled (thread : GraphThread Caller) : pendingGraph hdl (pool.labels thread) = [] := by
    rw [(finished thread).labels]
    rfl
  exact congrFun ((converging.agrees isFlagged).settled (decide_eq_true copied) settled)

end Runs

abbrev GraphPool : Type :=
  Pool (GraphThread Unit) GraphSection (World (Bridge Unit)) (List ConnHandle) Fault

/-- A client is registered, ROS has one topic. -/
def beforeGraphCalls : GraphPool where
  shared := ({ World.initial (.initial oneTopic ()) with
    server := Server.initial.registerClient ⟨1⟩ (.fresh "" "u" "i" ⟨1⟩) }, [])
  threads := fun _ => .done (.ok ())

/-- The client's subscription has copied the graph with the topic; then an update starts
that finds no topic. -/
def copiedGraphPool : GraphPool :=
  (Pool.play graphCopies .worker 6 (beforeGraphCalls.setThread .worker
    (handleSubscribeConnectionGraphSections quietSetup.options ⟨1⟩))).setThread (.update ())
      (updateConnectionGraphSections none .empty)

theorem copiedGraphPool_reached :
    Pool.Reached (graphCalls Unit Unit quietSetup.options) GraphFramesTimely copiedGraphPool := by
  have started : Pool.Reached (graphCalls Unit Unit quietSetup.options) GraphFramesTimely
      beforeGraphCalls :=
    ⟨[], .initial ⟨⟨fun _ => rfl, rfl, rfl, fun _ _ => rfl, rfl⟩, fun _ => ⟨_, rfl⟩⟩⟩
  have copied := (started.start trivial rfl (.subscribe ⟨1⟩)).play .worker 6 (by decide +kernel)
  exact copied.start trivial (by decide +kernel) (.update () fun _ => Iff.rfl)

/-- The copy is sent between the two sections of the update. -/
def settledGraphPool : GraphPool :=
  Pool.play graphCopies (.update ()) 1 (Pool.play graphCopies .worker 1
    (Pool.play graphCopies (.update ()) 1 copiedGraphPool))

/-- An update ran between the copy and its sending. -/
theorem graph_views_converge_settled :
    ⟨1⟩ ∈ settledGraphPool.shared.1.server.graphSubscribers ∧
      (settledGraphPool.shared.1.receivedGraph ⟨1⟩).Same
        settledGraphPool.shared.1.server.connectionGraph := by
  have flagged : ⟨1⟩ ∈ settledGraphPool.shared.1.server.graphSubscribers := by decide +kernel
  have idle : ∀ thread, settledGraphPool.isIdle thread = true := by decide +kernel
  obtain ⟨events, run⟩ := ((copiedGraphPool_reached.play (.update ()) 1 (by decide +kernel)).play
    .worker 1 (by decide +kernel)).play (.update ()) 1 (by decide +kernel)
  exact ⟨flagged,
    graph_views_converge run (fun thread => Pool.idle_of_isIdle (idle thread)) flagged⟩

/-- The copy is sent after the update. -/
def staleGraphPool : GraphPool :=
  Pool.play graphCopies .worker 1 (Pool.play graphCopies (.update ()) 2 copiedGraphPool)

/-- The client ends up with a topic that the stored graph does not have. -/
theorem graph_view_stale :
    Pool.Reached (graphCalls Unit Unit quietSetup.options) (fun _ _ => True) staleGraphPool ∧
      (∀ thread, staleGraphPool.Idle thread) ∧
      ⟨1⟩ ∈ staleGraphPool.shared.1.server.graphSubscribers ∧
      ¬(staleGraphPool.shared.1.receivedGraph ⟨1⟩).Same
        staleGraphPool.shared.1.server.connectionGraph := by
  have idle : ∀ thread, staleGraphPool.isIdle thread = true := by decide +kernel
  refine ⟨?_, fun thread => Pool.idle_of_isIdle (idle thread), by decide +kernel, fun same => ?_⟩
  · exact (copiedGraphPool_reached.unguarded.play (.update ()) 2 (by decide +kernel)).play
      .worker 1 (by decide +kernel)
  · exact absurd (same (.published "/a")) (by decide +kernel)

end CoBridge.Ros2
