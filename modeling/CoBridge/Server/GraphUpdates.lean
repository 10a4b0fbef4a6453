import CoBridge.Library.Change
import CoBridge.Server.Requests

/-!
# Connection graph updates

A client keeps three maps of its own and changes them by the updates it gets.
This module gives an update's meaning key by key and computes what the difference
of two graphs does to the first of them.
-/

namespace CoBridge

open Library Table

/-- A name in one of the three maps of a graph. -/
inductive GraphKey where
  | published (name : String)
  | subscribed (name : String)
  | service (name : String)
deriving DecidableEq

namespace ConnectionGraph

def lookup (graph : ConnectionGraph) : GraphKey → Option (Finset String)
  | .published name => graph.publishedTopics.lookup name
  | .subscribed name => graph.subscribedTopics.lookup name
  | .service name => graph.advertisedServices.lookup name

/-- The three maps are equal as maps. -/
def Same (first second : ConnectionGraph) : Prop := ∀ key, first.lookup key = second.lookup key

def empty : ConnectionGraph := ⟨∅, ∅, ∅⟩

theorem empty_lookup (key : GraphKey) : empty.lookup key = none := by
  cases key <;> rfl

end ConnectionGraph

namespace ConnectionGraphUpdate

/-- What a client does to its three maps on an update. -/
def applyTo (update : ConnectionGraphUpdate) (view : ConnectionGraph) : ConnectionGraph where
  publishedTopics :=
    (view.publishedTopics.setAll update.publishedTopics).eraseAll update.removedTopics
  subscribedTopics :=
    (view.subscribedTopics.setAll update.subscribedTopics).eraseAll update.removedTopics
  advertisedServices :=
    (view.advertisedServices.setAll update.advertisedServices).eraseAll update.removedServices

/-- The change to one of the maps. -/
def mapChange (entries : List (String × Finset String)) (removed : List String) :
    Change String (Option (Finset String)) :=
  .puts entries ++ .drops removed

def change (update : ConnectionGraphUpdate) : Change GraphKey (Option (Finset String)) :=
  (mapChange update.publishedTopics update.removedTopics).mapKeys .published ++
    (mapChange update.subscribedTopics update.removedTopics).mapKeys .subscribed ++
    (mapChange update.advertisedServices update.removedServices).mapKeys .service

variable (update : ConnectionGraphUpdate) (name : String)

theorem find_change_published :
    update.change.find (.published name) =
      (mapChange update.publishedTopics update.removedTopics).find name := by
  rw [change, Change.find_append, Change.find_append,
    Change.find_mapKeys_of_ne (by simp) (mapChange update.advertisedServices _),
    Change.find_mapKeys_of_ne (by simp) (mapChange update.subscribedTopics _),
    Change.find_mapKeys (fun _ _ same => GraphKey.published.inj same)]
  rfl

theorem find_change_subscribed :
    update.change.find (.subscribed name) =
      (mapChange update.subscribedTopics update.removedTopics).find name := by
  rw [change, Change.find_append, Change.find_append,
    Change.find_mapKeys_of_ne (by simp) (mapChange update.advertisedServices _),
    Change.find_mapKeys_of_ne (by simp) (mapChange update.publishedTopics _),
    Change.find_mapKeys (fun _ _ same => GraphKey.subscribed.inj same)]
  simp

theorem find_change_service :
    update.change.find (.service name) =
      (mapChange update.advertisedServices update.removedServices).find name := by
  rw [change, Change.find_append, Change.find_append,
    Change.find_mapKeys_of_ne (by simp) (mapChange update.subscribedTopics _),
    Change.find_mapKeys_of_ne (by simp) (mapChange update.publishedTopics _),
    Change.find_mapKeys (fun _ _ same => GraphKey.service.inj same)]
  simp

theorem lookup_mapChange (entries : List (String × Finset String)) (removed : List String)
    (map : MapOfSets) :
    ((map.setAll entries).eraseAll removed).lookup name =
      (mapChange entries removed).apply (fun name => map.lookup name) name := by
  rw [lookup_eraseAll_eq_apply, mapChange, Change.apply_append]
  congr 1
  funext other
  exact lookup_setAll entries map other

/-- An update changes a client's maps as its change says. -/
theorem lookup_applyTo (view : ConnectionGraph) (key : GraphKey) :
    (update.applyTo view).lookup key = update.change.apply view.lookup key := by
  cases key with
  | published name =>
    rw [Change.apply, find_change_published]
    exact lookup_mapChange name _ _ view.publishedTopics
  | subscribed name =>
    rw [Change.apply, find_change_subscribed]
    exact lookup_mapChange name _ _ view.subscribedTopics
  | service name =>
    rw [Change.apply, find_change_service]
    exact lookup_mapChange name _ _ view.advertisedServices

/-- A client's maps after an update, which is not sent when it is empty. -/
def deliveredTo (update : ConnectionGraphUpdate) (view : ConnectionGraph) : ConnectionGraph :=
  if update.isEmpty then view else update.applyTo view

/-- An update that is not sent would change nothing. -/
theorem change_of_isEmpty {update : ConnectionGraphUpdate} (nothing : update.isEmpty = true) :
    update.change = [] := by
  obtain ⟨published, subscribed, services, removedTopics, removedServices⟩ := update
  simp only [isEmpty, Bool.and_eq_true, List.isEmpty_iff] at nothing
  obtain ⟨⟨⟨⟨rfl, rfl⟩, rfl⟩, rfl⟩, rfl⟩ := nothing
  rfl

theorem lookup_deliveredTo (view : ConnectionGraph) (key : GraphKey) :
    (update.deliveredTo view).lookup key = update.change.apply view.lookup key := by
  unfold deliveredTo
  split
  · next nothing =>
    rw [change_of_isEmpty nothing]
    rfl
  · exact lookup_applyTo update view key

end ConnectionGraphUpdate

namespace ConnectionGraph

theorem mem_changedEntries (stored new : MapOfSets) (name : String) (ids : Finset String) :
    (name, ids) ∈ changedEntries stored new ↔
      new.lookup name = some ids ∧ stored.lookup name ≠ some ids := by
  unfold changedEntries
  rw [List.mem_filterMap]
  constructor
  · rintro ⟨⟨other, otherIds⟩, entry, chosen⟩
    split at chosen
    · next changed =>
      cases chosen
      refine ⟨AList.mem_lookup_iff.mpr entry, fun same => ?_⟩
      rw [same] at changed
      simp at changed
    · cases chosen
  · rintro ⟨found, different⟩
    exact ⟨⟨name, ids⟩, AList.mem_lookup_iff.mp found, if_pos (.inr different)⟩

theorem mem_removedNames (known new : List String) (name : String) :
    name ∈ removedNames known new ↔ name ∈ known ∧ name ∉ new := by
  unfold removedNames
  rw [List.mem_filter, ← AList.mem_keys, KeySet.mem_insertAll]
  simp

theorem mem_of_not_removed {known new : List String} {name : String} (listed : name ∈ known)
    (stays : name ∉ removedNames known new) : name ∈ new := by
  by_contra absent
  exact stays ((mem_removedNames known new name).mpr ⟨listed, absent⟩)

/-- What the entries that changed say about a name. -/
theorem find_changedEntries (stored new : MapOfSets) (name : String) :
    (Change.puts (changedEntries stored new)).find name =
      if new.lookup name = none ∨ stored.lookup name = new.lookup name then none
      else some (new.lookup name) := by
  have nodup : ((Change.puts (changedEntries stored new)).map Prod.fst).Nodup := by
    rw [Change.puts_keys]
    refine List.Nodup.sublist ?_ (AList.keys_nodup new)
    unfold changedEntries AList.keys List.keys
    induction new.entries with
    | nil => exact .slnil
    | cons entry rest ih =>
      rw [List.filterMap_cons, List.map_cons]
      split
      · exact ih.cons _
      · next chosen =>
        split at chosen
        · cases chosen
          exact ih.cons_cons _
        · cases chosen
  split
  · next unchanged =>
    rw [Change.find_eq_none_iff, Change.puts_keys]
    intro member
    obtain ⟨⟨_, ids⟩, listed, rfl⟩ := List.mem_map.mp member
    obtain ⟨found, different⟩ := (mem_changedEntries _ _ _ _).mp listed
    rw [found] at unchanged
    simp [different] at unchanged
  · next changed =>
    rw [not_or] at changed
    obtain ⟨ids, found⟩ := Option.ne_none_iff_exists'.mp changed.1
    have different := changed.2
    rw [found] at different
    rw [Change.find_eq_some_iff nodup, found]
    exact List.mem_map.mpr ⟨_, (mem_changedEntries stored new name ids).mpr ⟨found, different⟩, rfl⟩

/-- The stored map after the change to a new one: an entry of the new map counts,
and a stored one stays unless its name is removed. -/
theorem apply_mapChange (stored new : MapOfSets) (removed : List String) (name : String) :
    (ConnectionGraphUpdate.mapChange (changedEntries stored new) removed).apply
        (fun name => stored.lookup name) name =
      if name ∈ removed then none else (new.lookup name).or (stored.lookup name) := by
  rw [ConnectionGraphUpdate.mapChange, Change.apply_append, Change.apply, Change.find_drops]
  split
  · rfl
  · rw [Option.getD_none, Change.apply, find_changedEntries]
    rcases found : new.lookup name with _ | ids
    · simp
    · by_cases same : stored.lookup name = some ids <;> simp [same]

/-- No name moves from both topic maps into one of them: a stored publication of a
topic that the new graph still subscribes to is a publication there as well, and
the other way round. -/
structure KeepsSides (stored new : ConnectionGraph) : Prop where
  published : ∀ name ∈ stored.publishedTopics.keys, name ∈ new.subscribedTopics →
    name ∈ new.publishedTopics
  subscribed : ∀ name ∈ stored.subscribedTopics.keys, name ∈ new.publishedTopics →
    name ∈ new.subscribedTopics

instance (stored new : ConnectionGraph) : Decidable (KeepsSides stored new) :=
  decidable_of_iff (_ ∧ _) ⟨fun both => ⟨both.1, both.2⟩, fun keeps => ⟨keeps.1, keeps.2⟩⟩

/-- The difference of two maps gives the new map at a name unless the name was
stored, is missing now and is kept for being known elsewhere. -/
theorem mapChange_exact_iff {stored new : MapOfSets} {removed : List String} {name : String}
    {elsewhere : Prop} (gone : name ∈ removed → name ∉ new ∧ ¬elsewhere)
    (kept : name ∈ stored → name ∉ removed → name ∈ new ∨ elsewhere) :
    (ConnectionGraphUpdate.mapChange (changedEntries stored new) removed).apply
        (fun name => stored.lookup name) name = new.lookup name ↔
      (name ∈ stored → elsewhere → name ∈ new) := by
  rw [apply_mapChange]
  rcases found : new.lookup name with _ | ids
  · have absent : name ∉ new := AList.lookup_eq_none.mp found
    rcases before : stored.lookup name with _ | ids
    · have unknown : name ∉ stored := AList.lookup_eq_none.mp before
      simp [unknown]
    · have known : name ∈ stored := mem_of_lookup before
      by_cases dropped : name ∈ removed
      · simp [dropped, (gone dropped).2]
      · have stays : elsewhere := (kept known dropped).resolve_left absent
        simp [dropped, known, absent, stays]
  · have present : name ∈ new := mem_of_lookup found
    have stays : name ∉ removed := fun dropped => (gone dropped).1 present
    simp [stays, present]

variable (graph stored new : ConnectionGraph) (name : String)

theorem mem_topicNames :
    name ∈ graph.topicNames ↔ name ∈ graph.publishedTopics ∨ name ∈ graph.subscribedTopics := by
  rw [topicNames, List.mem_append, AList.mem_keys, AList.mem_keys]

theorem diff_exact_published :
    (stored.diff new).change.apply stored.lookup (.published name) = new.lookup (.published name) ↔
      (name ∈ stored.publishedTopics → name ∈ new.subscribedTopics →
        name ∈ new.publishedTopics) := by
  rw [Change.apply, ConnectionGraphUpdate.find_change_published]
  refine mapChange_exact_iff (fun dropped => ?_) (fun known stays => ?_)
  · rw [← not_or, ← mem_topicNames]
    exact ((mem_removedNames _ _ _).mp dropped).2
  · rw [← mem_topicNames]
    exact mem_of_not_removed ((mem_topicNames _ _).mpr (.inl known)) stays

theorem diff_exact_subscribed :
    (stored.diff new).change.apply stored.lookup (.subscribed name) =
        new.lookup (.subscribed name) ↔
      (name ∈ stored.subscribedTopics → name ∈ new.publishedTopics →
        name ∈ new.subscribedTopics) := by
  rw [Change.apply, ConnectionGraphUpdate.find_change_subscribed]
  refine mapChange_exact_iff (fun dropped => ?_) (fun known stays => ?_)
  · rw [← not_or, or_comm, ← mem_topicNames]
    exact ((mem_removedNames _ _ _).mp dropped).2
  · rw [or_comm, ← mem_topicNames]
    exact mem_of_not_removed ((mem_topicNames _ _).mpr (.inr known)) stays

theorem diff_exact_service :
    (stored.diff new).change.apply stored.lookup (.service name) = new.lookup (.service name) := by
  rw [Change.apply, ConnectionGraphUpdate.find_change_service]
  have exact_iff : _ ↔ (name ∈ stored.advertisedServices → False →
      name ∈ new.advertisedServices) :=
    mapChange_exact_iff
      (fun dropped : name ∈ (stored.diff new).removedServices =>
        ⟨((mem_removedNames _ _ _).mp dropped).2, id⟩)
      (fun known stays => .inl (mem_of_not_removed known stays))
  exact exact_iff.mpr fun _ => False.elim

/-- The difference of two graphs is exact if and only if no topic leaves one side only. -/
theorem diff_exact_iff :
    (∀ key, (stored.diff new).change.apply stored.lookup key = new.lookup key) ↔
      KeepsSides stored new := by
  constructor
  · intro exact
    exact ⟨fun name known => (diff_exact_published stored new name).mp (exact _) known,
      fun name known => (diff_exact_subscribed stored new name).mp (exact _) known⟩
  · rintro ⟨published, subscribed⟩ key
    cases key with
    | published name => exact (diff_exact_published stored new name).mpr (published name)
    | subscribed name => exact (diff_exact_subscribed stored new name).mpr (subscribed name)
    | service name => exact diff_exact_service stored new name

/-- A client whose maps are the stored graph has the new graph after the update if and
only if the two graphs keep their sides. -/
theorem diff_delivered_iff {stored new view : ConnectionGraph} (same : view.Same stored) :
    ((stored.diff new).deliveredTo view).Same new ↔ KeepsSides stored new := by
  have lookups : view.lookup = stored.lookup := funext same
  rw [← diff_exact_iff, ← lookups]
  exact forall_congr' fun key => by rw [ConnectionGraphUpdate.lookup_deliveredTo]

/-- The message for a new subscriber tells of every entry and of nothing else. -/
theorem find_snapshot (key : GraphKey) :
    graph.snapshot.change.find key = (graph.lookup key).map some := by
  have whole (map : MapOfSets) (name : String) :
      (ConnectionGraphUpdate.mapChange (map.entries.map fun entry => (entry.1, entry.2)) []).find
        name = (map.lookup name).map some := by
    rw [ConnectionGraphUpdate.mapChange, Change.find_append, find_puts_entries]
    rfl
  cases key with
  | published name =>
    rw [ConnectionGraphUpdate.find_change_published]
    exact whole graph.publishedTopics name
  | subscribed name =>
    rw [ConnectionGraphUpdate.find_change_subscribed]
    exact whole graph.subscribedTopics name
  | service name =>
    rw [ConnectionGraphUpdate.find_change_service]
    exact whole graph.advertisedServices name

theorem snapshot_exact : (graph.snapshot.applyTo empty).Same graph := by
  intro key
  rw [ConnectionGraphUpdate.lookup_applyTo, Change.apply, find_snapshot, empty_lookup]
  cases graph.lookup key <;> rfl

end ConnectionGraph

/-!
## Delivery of connection graph updates

What a client has received of the connection graph, and what the server's calls
send to it while the connections of all subscribers are open.
-/

open Action

variable {Bridge : Type}
variable {world : World Bridge}

/-- What a client does to its maps on a frame. -/
def ServerMessage.applyToGraph (view : ConnectionGraph) : ServerMessage → ConnectionGraph
  | .connectionGraphUpdate update => update.applyTo view
  | _ => view

/-- The graph a client knows from the frames enqueued on its connection. -/
def World.receivedGraph (world : World Bridge) (hdl : ConnHandle) : ConnectionGraph :=
  (world.sentTo hdl).foldl ServerMessage.applyToGraph .empty

theorem World.receivedGraph_enqueue (world : World Bridge) {hdl : ConnHandle}
    (established : world.link hdl = .established) (message : ServerMessage) :
    (world.enqueue hdl message).receivedGraph hdl =
      message.applyToGraph (world.receivedGraph hdl) := by
  unfold World.receivedGraph
  rw [World.sentTo_enqueue, if_pos ⟨rfl, established⟩, List.foldl_append]
  rfl

theorem World.receivedGraph_enqueueAll (world : World Bridge) {hdls : List ConnHandle}
    (nodup : hdls.Nodup) (message : ServerMessage) (hdl : ConnHandle) :
    (world.enqueueAll hdls message).receivedGraph hdl =
      if hdl ∈ hdls ∧ world.link hdl = .established then
        message.applyToGraph (world.receivedGraph hdl)
      else world.receivedGraph hdl := by
  unfold World.receivedGraph
  rw [World.sentTo_enqueueAll nodup, List.foldl_append]
  split <;> rfl

theorem Server.mem_graphSubscribers (server : Server) (hdl : ConnHandle) :
    hdl ∈ server.graphSubscribers ↔ ∃ client, server.clients.lookup hdl = some client ∧
      client.subscribedToConnectionGraph = true := by
  unfold Server.graphSubscribers
  rw [List.mem_map]
  constructor
  · rintro ⟨⟨other, client⟩, listed, rfl⟩
    obtain ⟨entry, flagged⟩ := List.mem_filter.mp listed
    exact ⟨client, AList.mem_lookup_iff.mpr entry, flagged⟩
  · rintro ⟨client, found, flagged⟩
    exact ⟨⟨hdl, client⟩, List.mem_filter.mpr ⟨AList.mem_lookup_iff.mp found, flagged⟩, rfl⟩

theorem Server.graphSubscribers_nodup (server : Server) : server.graphSubscribers.Nodup :=
  (AList.keys_nodup server.clients).sublist (List.filter_sublist.map _)

/-- While all listed connections are open, the loop sends to each of them. -/
theorem forEach_serverSend_apply {hdls : List ConnHandle} {message : ServerMessage}
    (established : ∀ hdl ∈ hdls, world.link hdl = .established) :
    Action.forEach hdls (fun hdl => serverSend hdl message) world =
      (.ok (), world.enqueueAll hdls message) := by
  induction hdls generalizing world with
  | nil => rfl
  | cons hdl rest ih =>
    have sent : serverSend hdl message world = (.ok (), world.enqueue hdl message) := by
      rw [serverSend_apply, established hdl List.mem_cons_self]
    rw [forEach_cons, bind_ok sent]
    apply ih
    intro other member
    rw [World.enqueue_link]
    exact established other (List.mem_cons_of_mem _ member)

/-- The section of `updateConnectionGraph` under the clients lock. -/
def sendGraphUpdate (update : ConnectionGraphUpdate) : ServerAction Bridge Unit := do
  let subscribers ← Action.gets fun world => world.server.graphSubscribers
  Action.forEach subscribers fun hdl => serverSend hdl (.connectionGraphUpdate update)

theorem sendGraphUpdate_apply {update : ConnectionGraphUpdate}
    (established : ∀ hdl ∈ world.server.graphSubscribers, world.link hdl = .established) :
    sendGraphUpdate update world =
      (.ok (), world.enqueueAll world.server.graphSubscribers (.connectionGraphUpdate update)) := by
  unfold sendGraphUpdate
  exact forEach_serverSend_apply established

/-- The client subscribed, and the connections of all subscribers are open. -/
structure GraphSubscriber (world : World Bridge) (hdl : ConnHandle) : Prop where
  flagged : hdl ∈ world.server.graphSubscribers
  established : ∀ other ∈ world.server.graphSubscribers, world.link other = .established

/-- An update stores the graph and brings the difference to every subscriber. -/
theorem GraphSubscriber.update {hdl : ConnHandle} (subscriber : GraphSubscriber world hdl)
    (graph : ConnectionGraph) :
    GraphSubscriber (updateConnectionGraph graph world).2 hdl ∧
      (updateConnectionGraph graph world).2.server.connectionGraph = graph ∧
      (updateConnectionGraph graph world).2.receivedGraph hdl =
        (world.server.connectionGraph.diff graph).deliveredTo (world.receivedGraph hdl) := by
  have stored : GraphSubscriber { world with server := world.server.storeGraph graph } hdl :=
    ⟨subscriber.flagged, subscriber.established⟩
  unfold updateConnectionGraph ConnectionGraphUpdate.deliveredTo
  rw [gets_bind_apply, modifyServer_bind_apply]
  split
  · exact ⟨stored, rfl, rfl⟩
  · have sends : sendGraphUpdate (world.server.connectionGraph.diff graph) _ = _ :=
      sendGraphUpdate_apply stored.established
    unfold sendGraphUpdate at sends
    rw [sends]
    refine ⟨⟨?_, ?_⟩, ?_, ?_⟩
    · rw [World.enqueueAll_server]
      exact subscriber.flagged
    · rw [World.enqueueAll_server, World.enqueueAll_link]
      exact subscriber.established
    · rw [World.enqueueAll_server]
      rfl
    · rw [World.receivedGraph_enqueueAll _ (Server.graphSubscribers_nodup _),
        if_pos ⟨stored.flagged, stored.established hdl stored.flagged⟩]
      rfl

/-- A subscriber gets the whole stored graph. -/
theorem GraphSubscriber.snapshot {hdl : ConnHandle} (subscriber : GraphSubscriber world hdl) :
    GraphSubscriber (sendConnectionGraph hdl world).2 hdl ∧
      (sendConnectionGraph hdl world).2.server = world.server ∧
      (sendConnectionGraph hdl world).2.receivedGraph hdl =
        world.server.connectionGraph.snapshot.applyTo (world.receivedGraph hdl) := by
  unfold sendConnectionGraph
  rw [gets_bind_apply, sendRawJson_apply]
  refine ⟨⟨?_, ?_⟩, World.enqueue_server _ _ _,
    world.receivedGraph_enqueue (subscriber.established hdl subscriber.flagged) _⟩
  · rw [World.enqueue_server]
    exact subscriber.flagged
  · rw [World.enqueue_server, World.enqueue_link]
    exact subscriber.established

end CoBridge
