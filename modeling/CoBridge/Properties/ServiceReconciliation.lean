import CoBridge.Ros2.Node
import CoBridge.Library.Registry
import CoBridge.Library.Transition

/-!
# Service updates

`updateAdvertisedServices` follows the services of the ROS graph as the node follows
its topics, but it compares names only.
-/

namespace CoBridge.Ros2

open Library

/-- The result of looking up a service definition. -/
inductive ServiceDefinition where
  | found (requestSchema responseSchema : String)
  | notFound
  | failed

/-- What ROS answers about services: their names with their types, and definitions. -/
structure ServiceGraph where
  ok : Bool
  services : Table String (List String)
  getFullSrvText : String → ServiceDefinition

/-- The part of the node that lists services. -/
structure ServiceState where
  advertisedServices : Table ServiceId ServiceWithoutId

/-- The services whose name does not exist any more. -/
def servicesToRemove (graph : ServiceGraph) (advertised : Table ServiceId ServiceWithoutId) :
    List ServiceId :=
  (advertised.entries.filter fun entry => entry.2.name ∉ graph.services).map Sigma.fst

/-- A service under a type. A definition that is not found leaves the schemas empty;
any other failure skips the service. -/
def newService (graph : ServiceGraph) (name type : String) : Option ServiceWithoutId :=
  match graph.getFullSrvText type with
  | .found requestSchema responseSchema => some ⟨name, type, requestSchema, responseSchema⟩
  | .notFound => some ⟨name, type, "", ""⟩
  | .failed => none

/-- The loop that collects new services. The type is the first one that is listed. -/
def newServices (options : Options) (graph : ServiceGraph)
    (advertised : Table ServiceId ServiceWithoutId) :
    List (Σ _ : String, List String) → Except Fault (List ServiceWithoutId)
  | [] => .ok []
  | ⟨name, datatypes⟩ :: rest =>
    if advertised.values.any fun service => service.name = name then
      newServices options graph advertised rest
    else do
      let hidden ← (if options.includeHidden then .ok false else isHiddenTopicOrService name)
      if hidden || !isWhitelisted name options.serviceWhitelistPatterns then
        newServices options graph advertised rest
      else
        match datatypes with
        | [] => .error .undefinedBehavior
        | type :: _ =>
          let services ← newServices options graph advertised rest
          pure ((newService graph name type).toList ++ services)

/-- Enter services under the ids the server gave them. -/
def ServiceState.advertise (services : List (ServiceId × ServiceWithoutId))
    (state : ServiceState) : ServiceState where
  advertisedServices := services.foldl (fun table service => table.emplace service.1 service.2)
    state.advertisedServices

def ServiceState.retire (serviceIds : List ServiceId) (state : ServiceState) : ServiceState where
  advertisedServices := state.advertisedServices.eraseAll serviceIds

def modifyServices (update : ServiceState → ServiceState) : ServerAction ServiceState Unit :=
  Action.modify fun world => { world with bridge := update world.bridge }

def updateAdvertisedServices (check : TextCheck) (options : Options) (graph : ServiceGraph) :
    ServerAction ServiceState Unit := do
  if !graph.ok || capabilityServices ∉ options.capabilities then
    pure ()
  else
    let removed ← Action.gets fun world =>
      servicesToRemove graph world.bridge.advertisedServices
    modifyServices (ServiceState.retire removed)
    removeServices removed
    let advertised ← Action.gets fun world => world.bridge.advertisedServices
    let services ← Action.ofExcept (newServices options graph advertised graph.services.entries)
    let serviceIds ← addServices check services
    modifyServices (ServiceState.advertise (serviceIds.zip services))

/-!
## Services follow the ROS graph

Over any sequence of graph snapshots the node and the server list the same services,
each under one id, with a name and a type of the last snapshot. The type is compared
nowhere, so this asks that no service comes back under its name with other types; and
as for topics, that the new services can be written into a message.
-/

open Action Table

variable {options : Options} {check : TextCheck} {graph : ServiceGraph}

/-- A node with the last snapshot an update looked at. -/
structure ServiceHistory where
  world : World ServiceState
  last : Table String (List String)

namespace ServiceHistory

def advertised (history : ServiceHistory) : Table ServiceId ServiceWithoutId :=
  history.world.bridge.advertisedServices

def services (history : ServiceHistory) : Table ServiceId ServiceWithoutId :=
  history.world.server.services

end ServiceHistory

/-- An update looks at the snapshot. -/
def Looks (options : Options) (graph : ServiceGraph) : Bool :=
  graph.ok && capabilityServices ∈ options.capabilities

def ServiceHistory.poll (check : TextCheck) (options : Options) (graph : ServiceGraph)
    (history : ServiceHistory) : ServiceHistory where
  world := (updateAdvertisedServices check options graph history.world).2
  last := if Looks options graph then graph.services else history.last

inductive ServiceEvent where
  | poll (graph : ServiceGraph)
  | meanwhile

/-- Updates, and anything else that does not touch the services. -/
inductive ServiceStep (check : TextCheck) (options : Options) (history : ServiceHistory) :
    ServiceEvent → ServiceHistory → Prop where
  | poll (graph : ServiceGraph) :
      ServiceStep check options history (.poll graph) (history.poll check options graph)
  | meanwhile {world : World ServiceState}
      (advertised : world.bridge.advertisedServices = history.advertised)
      (services : world.server.services = history.services) :
      ServiceStep check options history .meanwhile { history with world := world }

def serviceSystem (check : TextCheck) (options : Options) :
    TransitionSystem ServiceHistory ServiceEvent where
  Initial history := history.world.server = .initial ∧ history.advertised = ∅
  Step := ServiceStep check options

/-- Both tables list the same services, each with a name and a type of the last
snapshot, and no name twice. -/
structure ServicesReconciled (history : ServiceHistory) : Prop where
  same : ∀ id, history.services.lookup id = history.advertised.lookup id
  current : ∀ {id service}, history.advertised.lookup id = some service →
    ∃ types, history.last.lookup service.name = some types ∧ service.type ∈ types
  distinct : ∀ {id other service another}, history.advertised.lookup id = some service →
    history.advertised.lookup other = some another → service.name = another.name → id = other

/-- What is asked of an update that looks at its snapshot: every service has a type, an
advertised service that is still there has its type still, and the new services can be
written into a message. -/
def Steady (check : TextCheck) (options : Options) (history : ServiceHistory) :
    ServiceEvent → Prop
  | .poll graph => Looks options graph = true →
      (∀ entry ∈ graph.services.entries, entry.2 ≠ []) ∧
      (∀ id service types, history.advertised.lookup id = some service →
        graph.services.lookup service.name = some types → service.type ∈ types) ∧
      ∀ services, newServices options graph
          (history.advertised.eraseAll (servicesToRemove graph history.advertised))
          graph.services.entries = .ok services →
        ∀ service ∈ services, ∀ text ∈ service.texts, check text = .ok ()
  | .meanwhile => True

section NewServices

variable {advertised : Table ServiceId ServiceWithoutId}

theorem newService_name {name type : String} {service : ServiceWithoutId}
    (made : newService graph name type = some service) :
    service.name = name ∧ service.type = type := by
  rw [newService] at made
  split at made <;> cases made <;> exact ⟨rfl, rfl⟩

/-- The new services are among the entries of the snapshot, in their order. -/
theorem newServices_sublist {entries : List (Σ _ : String, List String)}
    {services : List ServiceWithoutId}
    (collected : newServices options graph advertised entries = .ok services) :
    (services.map ServiceWithoutId.name).Sublist (entries.map Sigma.fst) ∧
      ∀ service ∈ services,
        (∃ entry ∈ entries, entry.1 = service.name ∧ service.type ∈ entry.2) ∧
        ∀ id other, advertised.lookup id = some other → other.name ≠ service.name := by
  induction entries generalizing services with
  | nil =>
    cases collected
    exact ⟨.slnil, fun _ member => nomatch member⟩
  | cons entry rest ih =>
    obtain ⟨name, datatypes⟩ := entry
    have skip (skipped : newServices options graph advertised rest = .ok services) :
        (services.map ServiceWithoutId.name).Sublist (name :: rest.map Sigma.fst) ∧
          ∀ service ∈ services,
            (∃ entry ∈ (⟨name, datatypes⟩ : Σ _ : String, List String) :: rest,
              entry.1 = service.name ∧ service.type ∈ entry.2) ∧
            ∀ id other, advertised.lookup id = some other → other.name ≠ service.name := by
      obtain ⟨sublist, sources⟩ := ih skipped
      refine ⟨sublist.cons _, fun service member => ?_⟩
      obtain ⟨⟨source, among, described⟩, new⟩ := sources service member
      exact ⟨⟨source, List.mem_cons_of_mem _ among, described⟩, new⟩
    unfold newServices at collected
    split at collected
    · exact skip collected
    next unadvertised =>
    obtain ⟨hidden, -, listed⟩ := except_bind_ok.mp collected
    split at listed
    · exact skip listed
    cases datatypes with
    | nil => cases listed
    | cons type others =>
      obtain ⟨later, collectedLater, joined⟩ := except_bind_ok.mp listed
      cases joined
      cases made : newService graph name type with
      | none =>
        rw [made] at skip
        exact skip collectedLater
      | some service =>
        obtain ⟨rfl, rfl⟩ := newService_name made
        obtain ⟨sublist, sources⟩ := ih collectedLater
        refine ⟨sublist.cons_cons _, fun candidate member => ?_⟩
        rcases List.mem_cons.mp member with rfl | among
        · refine ⟨⟨_, List.mem_cons_self, rfl, List.mem_cons_self⟩, ?_⟩
          intro id other found same
          apply unadvertised
          rw [List.any_eq_true]
          exact ⟨other, (mem_values_iff _ _).mpr ⟨id, found⟩, decide_eq_true same⟩
        · obtain ⟨⟨source, inRest, described⟩, new⟩ := sources candidate among
          exact ⟨⟨source, List.mem_cons_of_mem _ inRest, described⟩, new⟩

end NewServices

/-- Registering services in the server and then entering them in the node is to enter
them one at a time in both. -/
theorem registerServices_enterAll (services : List ServiceWithoutId) (server : Server)
    (advertised : Table ServiceId ServiceWithoutId)
    (mirrors : Mirrors id advertised server.services) :
    let registered := server.registerServices services
    let entered := ((registered.1.map Service.id).zip services).foldl
      (fun table service => table.emplace service.1 service.2) advertised
    entered = (Registry.enterAll services ⟨advertised, server.nextServiceId⟩).held ∧
      Mirrors id entered registered.2.services := by
  induction services generalizing server advertised with
  | nil => exact ⟨rfl, mirrors⟩
  | cons service rest ih =>
    exact ih
      { server with
        nextServiceId := server.nextServiceId + 1
        services := server.services.emplace (server.nextServiceId + 1) service }
      (advertised.emplace (server.nextServiceId + 1) service)
      (mirrors.emplace (server.nextServiceId + 1) service)

section Updates

variable {world : World ServiceState} {history next : ServiceHistory}

/-- The node and the server after the services that vanished were removed. -/
theorem removeServices_tables (removed : List ServiceId) (world : World ServiceState) :
    ∃ reached, removeServices removed
        { world with bridge := world.bridge.retire removed } = (.ok (), reached) ∧
      reached.bridge = world.bridge.retire removed ∧
      reached.server = { world.server with
        services := world.server.services.eraseAll removed } := by
  obtain ⟨hdls, message, removes⟩ :=
    removeServices_apply removed { world with bridge := world.bridge.retire removed }
  exact ⟨_, removes, World.enqueueAll_bridge _ _ _, World.enqueueAll_server _ _ _⟩

/-- The tables after services were added to the server and entered in the node. -/
theorem addServices_tables {services : List ServiceWithoutId}
    (writable : ∀ service ∈ services, ∀ text ∈ service.texts, check text = .ok ())
    (mirrors : Mirrors id world.bridge.advertisedServices world.server.services) :
    ∃ ids reached, addServices check services world = (.ok ids, reached) ∧
      (reached.bridge.advertise (ids.zip services)).advertisedServices =
        (Registry.enterAll services
          ⟨world.bridge.advertisedServices, world.server.nextServiceId⟩).held ∧
      Mirrors id (reached.bridge.advertise (ids.zip services)).advertisedServices
        reached.server.services := by
  by_cases empty : services = []
  · subst empty
    exact ⟨[], world, rfl, rfl, mirrors⟩
  · have written : dumpTexts check (services.flatMap ServiceWithoutId.texts) = .ok () := by
      apply dumpTexts_ok
      intro text member
      obtain ⟨service, among, listed⟩ := List.mem_flatMap.mp member
      exact writable service among text listed
    refine ⟨_, _, addServices_apply empty written world, ?_⟩
    rw [World.enqueueAll_bridge, World.enqueueAll_server]
    exact registerServices_enterAll services world.server world.bridge.advertisedServices mirrors

/-- What an update that looks at its snapshot leaves in the tables. -/
theorem poll_services (looks : Looks options graph = true)
    (steady : Steady check options history (.poll graph))
    (mirrors : Mirrors id history.advertised history.services) :
    let left := history.advertised.eraseAll (servicesToRemove graph history.advertised)
    Mirrors id (history.poll check options graph).advertised
        (history.poll check options graph).services ∧
      ((history.poll check options graph).advertised = left ∨
        ∃ services counter, newServices options graph left graph.services.entries = .ok services ∧
          (history.poll check options graph).advertised =
            (Registry.enterAll services ⟨left, counter⟩).held) := by
  intro left
  obtain ⟨-, -, writable⟩ := steady looks
  obtain ⟨removed, removes, bridge, server⟩ :=
    removeServices_tables (servicesToRemove graph history.advertised) history.world
  have running : (!graph.ok || decide (capabilityServices ∉ options.capabilities)) = false := by
    simpa [Looks] using looks
  have leftMirrors : Mirrors id removed.bridge.advertisedServices removed.server.services := by
    rw [bridge, server]
    exact mirrors.eraseAll _
  have reads : removed.bridge.advertisedServices = left := by
    rw [bridge]
    rfl
  -- Up to the collection of new services, every step succeeds.
  have begins : updateAdvertisedServices check options graph history.world =
      (Action.ofExcept (newServices options graph left graph.services.entries) >>= fun services =>
        addServices check services >>= fun serviceIds =>
          modifyServices (ServiceState.advertise (serviceIds.zip services))) removed := by
    rw [updateAdvertisedServices, if_neg (by simpa using running), gets_bind_apply,
      modifyServices, modify_bind_apply]
    change (removeServices (servicesToRemove graph history.advertised) >>= _)
      { history.world with
        bridge := history.world.bridge.retire (servicesToRemove graph history.advertised) } = _
    rw [bind_ok removes, gets_bind_apply, reads]
  cases collected : newServices options graph left graph.services.entries with
  | error fault =>
    have ends : (history.poll check options graph).world = removed := by
      rw [ServiceHistory.poll, begins, collected]
      rfl
    rw [ServiceHistory.advertised, ServiceHistory.services, ends]
    exact ⟨leftMirrors, .inl reads⟩
  | ok services =>
    obtain ⟨ids, added, adds, advertised, mirrored⟩ :=
      addServices_tables (writable services collected) leftMirrors
    have ends : (history.poll check options graph).world =
        { added with bridge := added.bridge.advertise (ids.zip services) } := by
      rw [ServiceHistory.poll, begins, collected, ofExcept_ok_bind_apply,
        bind_ok adds]
      rfl
    rw [ServiceHistory.advertised, ServiceHistory.services, ends]
    rw [reads] at advertised
    exact ⟨mirrored, .inr ⟨services, removed.server.nextServiceId, rfl, advertised⟩⟩

/-- A service that is left has a name of the snapshot. -/
theorem named_of_left {advertised : Table ServiceId ServiceWithoutId} {id : ServiceId}
    {service : ServiceWithoutId}
    (found : (advertised.eraseAll (servicesToRemove graph advertised)).lookup id = some service) :
    advertised.lookup id = some service ∧
      ∃ types, graph.services.lookup service.name = some types := by
  rw [lookup_eraseAll] at found
  split at found
  · cases found
  next kept =>
  refine ⟨found, (mem_iff_lookup _ _).mp ?_⟩
  by_contra vanished
  apply kept
  rw [servicesToRemove, List.mem_map]
  exact ⟨⟨id, service⟩, List.mem_filter.mpr
    ⟨AList.mem_lookup_iff.mp found, decide_eq_true vanished⟩, rfl⟩

/-- A poll leaves the services reconciled. -/
theorem servicesReconciled_poll (reconciled : ServicesReconciled history)
    (steady : Steady check options history (.poll graph)) :
    ServicesReconciled (history.poll check options graph) := by
  by_cases looks : Looks options graph = true
  · have mirrors : Mirrors id history.advertised history.services := fun key => by
      rw [Option.map_id]
      exact reconciled.same key
    obtain ⟨-, typed, -⟩ := steady looks
    obtain ⟨mirrored, reached⟩ := poll_services looks steady mirrors
    let left := history.advertised.eraseAll (servicesToRemove graph history.advertised)
    have last : (history.poll check options graph).last = graph.services := if_pos looks
    have leftCurrent {id : ServiceId} {service : ServiceWithoutId}
        (found : left.lookup id = some service) :
        ∃ types, graph.services.lookup service.name = some types ∧ service.type ∈ types := by
      obtain ⟨earlier, types, listed⟩ := named_of_left found
      exact ⟨types, listed, typed id service types earlier listed⟩
    have leftDistinct (counter : UInt32) :
        (⟨left, counter⟩ : Registry ServiceWithoutId).Distinct ServiceWithoutId.name := by
      intro id other service another first second same
      exact reconciled.distinct (named_of_left first).1 (named_of_left second).1 same
    have same (id : ServiceId) : (history.poll check options graph).services.lookup id =
        (history.poll check options graph).advertised.lookup id := by
      rw [← mirrored id, Option.map_id]
      rfl
    rcases reached with unchanged | ⟨services, counter, collected, entered⟩
    · refine ⟨same, fun found => ?_, fun first second => ?_⟩
      · rw [last]
        rw [unchanged] at found
        exact leftCurrent found
      · rw [unchanged] at first second
        exact leftDistinct 0 first second
    · obtain ⟨sublist, sources⟩ := newServices_sublist collected
      have nodup : (services.map ServiceWithoutId.name).Nodup :=
        sublist.nodup graph.services.keys_nodup
      have fresh : ∀ service ∈ services, ¬ (⟨left, counter⟩ : Registry ServiceWithoutId).Holds
          ServiceWithoutId.name service.name := by
        rintro service member ⟨id, other, found, clash⟩
        exact (sources service member).2 id other found clash
      refine ⟨same, fun found => ?_, fun first second => ?_⟩
      · rw [last]
        rw [entered] at found
        rcases Registry.lookup_of_enterAll found with earlier | new
        · exact leftCurrent earlier
        · obtain ⟨⟨entry, among, named, listed⟩, -⟩ := sources _ new
          refine ⟨entry.2, ?_, listed⟩
          rw [← named]
          exact AList.mem_lookup_iff.mpr among
      · rw [entered] at first second
        exact (leftDistinct counter).enterAll nodup fresh first second
  · -- The update returned at once.
    have idle : history.poll check options graph = history := by
      have returns : (!graph.ok || decide (capabilityServices ∉ options.capabilities)) = true := by
        simpa [Looks, imp_iff_not_or] using looks
      rw [ServiceHistory.poll, if_neg looks, updateAdvertisedServices,
        if_pos (by simpa using returns)]
      rfl
    rw [idle]
    exact reconciled

theorem servicesReconciled_initial (initial : (serviceSystem check options).Initial history) :
    ServicesReconciled history := by
  obtain ⟨server, advertised⟩ := initial
  have services : history.services = ∅ := by
    rw [ServiceHistory.services, server]
    rfl
  refine ⟨fun _ => by rw [services, advertised], fun found => ?_, fun found => ?_⟩ <;>
    · rw [advertised] at found
      cases found

theorem servicesReconciled_step {event : ServiceEvent} (reconciled : ServicesReconciled history)
    (steady : Steady check options history event)
    (step : (serviceSystem check options).Step history event next) : ServicesReconciled next := by
  cases step with
  | poll graph => exact servicesReconciled_poll reconciled steady
  | meanwhile advertised services =>
    refine ⟨fun id => ?_, fun found => ?_, fun first second => ?_⟩
    · rw [ServiceHistory.services, services, ServiceHistory.advertised, advertised]
      exact reconciled.same id
    · rw [ServiceHistory.advertised, advertised] at found
      exact reconciled.current found
    · rw [ServiceHistory.advertised, advertised] at first second
      exact reconciled.distinct first second

end Updates

/-- In every run whose updates are steady, the services of the node and of the server
are reconciled with the last snapshot. -/
theorem services_reconciled (check : TextCheck) (options : Options) {events : List ServiceEvent}
    {history : ServiceHistory}
    (run : (serviceSystem check options).GuardedRun (Steady check options) events history) :
    ServicesReconciled history :=
  run.invariant (fun _ => servicesReconciled_initial) servicesReconciled_step

/-- A snapshot with the given services, whose definitions are found. -/
def offering (services : List (String × String)) : ServiceGraph where
  ok := true
  services := services.foldl (fun table service => table.emplace service.1 [service.2]) ∅
  getFullSrvText := fun type =>
    if type = "demo/srv/AddThreeInts" then .found "int64 a\nint64 b\nint64 c\n" "int64 sum\n"
    else .found "int64 a\nint64 b\n" "int64 result\n"

def servingOptions : Options := ⟨true, [], [⟨fun _ => true⟩], [capabilityServices]⟩

def ServiceHistory.start : ServiceHistory := ⟨.initial ⟨∅⟩, ∅⟩

def addingHistory : ServiceHistory :=
  ServiceHistory.start.poll writesAll servingOptions (offering [("/add", "demo/srv/AddTwoInts")])

/-- A second service appears. -/
def bothHistory : ServiceHistory := addingHistory.poll writesAll servingOptions
  (offering [("/add", "demo/srv/AddTwoInts"), ("/multiply", "demo/srv/MultiplyTwoInts")])

/-- The first service vanishes. -/
def multiplyingHistory : ServiceHistory := bothHistory.poll writesAll servingOptions
  (offering [("/multiply", "demo/srv/MultiplyTwoInts")])

/-- Services that appear and vanish one after the other. -/
theorem services_reconciled_multiplying :
    bothHistory.advertised.lookup 1 = some
        ⟨"/add", "demo/srv/AddTwoInts", "int64 a\nint64 b\n", "int64 result\n"⟩ ∧
      multiplyingHistory.advertised.lookup 1 = none ∧
      multiplyingHistory.advertised.lookup 2 = some
        ⟨"/multiply", "demo/srv/MultiplyTwoInts", "int64 a\nint64 b\n", "int64 result\n"⟩ ∧
      ServicesReconciled bothHistory ∧ ServicesReconciled multiplyingHistory := by
  have steady {history : ServiceHistory} {graph : ServiceGraph}
      (typed : ∀ entry ∈ graph.services.entries, entry.2 ≠ [])
      (kept : ∀ service ∈ history.advertised.values,
        service.type ∈ (graph.services.lookup service.name).getD [service.type]) :
      Steady writesAll servingOptions history (.poll graph) := by
    refine fun _ => ⟨typed, fun id service types found listed => ?_, fun _ _ _ _ _ _ => rfl⟩
    have member := kept service ((mem_values_iff _ _).mpr ⟨id, found⟩)
    rwa [listed] at member
  have started : (serviceSystem writesAll servingOptions).GuardedRun
      (Steady writesAll servingOptions) [] ServiceHistory.start := .initial ⟨rfl, rfl⟩
  have adding := started.step (steady (by decide +kernel) (by decide +kernel))
    (.poll (offering [("/add", "demo/srv/AddTwoInts")]))
  have both := adding.step (steady (by decide +kernel) (by decide +kernel)) (.poll (offering
    [("/add", "demo/srv/AddTwoInts"), ("/multiply", "demo/srv/MultiplyTwoInts")]))
  have multiplying := both.step (steady (by decide +kernel) (by decide +kernel))
    (.poll (offering [("/multiply", "demo/srv/MultiplyTwoInts")]))
  exact ⟨by decide +kernel, by decide +kernel, by decide +kernel,
    services_reconciled _ servingOptions both, services_reconciled _ servingOptions multiplying⟩

/-- A service that comes back under its name with another type keeps the old type. -/
theorem services_not_reconciled :
    let restarted := addingHistory.poll writesAll servingOptions
      (offering [("/add", "demo/srv/AddThreeInts")])
    (restarted.advertised.lookup 1).map (·.type) = some "demo/srv/AddTwoInts" ∧
      (restarted.services.lookup 1).map (·.type) = some "demo/srv/AddTwoInts" ∧
      restarted.last.lookup "/add" = some ["demo/srv/AddThreeInts"] ∧
      ¬ ServicesReconciled restarted := by
  refine ⟨by decide +kernel, by decide +kernel, by decide +kernel, ?_⟩
  intro reconciled
  have advertised : (addingHistory.poll writesAll servingOptions
      (offering [("/add", "demo/srv/AddThreeInts")])).advertised.lookup 1 = some
        ⟨"/add", "demo/srv/AddTwoInts", "int64 a\nint64 b\n", "int64 result\n"⟩ := by
    decide +kernel
  have listed : (addingHistory.poll writesAll servingOptions
      (offering [("/add", "demo/srv/AddThreeInts")])).last.lookup "/add" =
        some ["demo/srv/AddThreeInts"] := by decide +kernel
  obtain ⟨types, found, member⟩ := reconciled.current advertised
  cases found
  revert member
  decide

end CoBridge.Ros2
