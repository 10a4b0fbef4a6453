import CoBridge.Properties.SingleLogin
import CoBridge.Server.Broadcasts
import Mathlib.Data.List.TakeWhile

/-!
# Clients whose connections are gone

A connection that is gone stays registered until its close event is handled. A
broadcast should do what it does without such clients. The broadcasts that catch the
exceptions of their sends do. A login fails at the first client that is gone, before
it registers its connection, and an update of the connection graph fails at the first
subscriber that is gone, so subscribers behind it miss the update.
-/

namespace CoBridge

open Library Action Table

variable {Bridge Value : Type} {world : World Bridge}

/-- The lookup of the connection succeeds. -/
def World.alive (world : World Bridge) (hdl : ConnHandle) : Bool := world.link hdl ≠ .gone

/-- The world in which clients whose connections are gone are not registered. -/
def World.withoutDead (world : World Bridge) : World Bridge := world.restrictClients world.alive

/-- The tables, up to the clients that are gone, and the frames on every connection that
is not gone are the same with and without the clients that are gone. -/
structure SameEffects (action : ServerAction Bridge Value) (world : World Bridge) : Prop where
  tables : (action world.withoutDead).2.server = (action world).2.server.restrictClients world.alive
  frames : ∀ hdl, world.link hdl ≠ .gone →
    (action world.withoutDead).2.sentTo hdl = (action world).2.sentTo hdl

/-- Clients that are gone make no difference: nor do they make the action fail. -/
structure Isolated (action : ServerAction Bridge Value) (world : World Bridge) : Prop
    extends SameEffects action world where
  returns : (action world.withoutDead).1 = (action world).1

/-- The first subscriber of the graph whose connection is not established is gone. -/
def StopsAtDead (world : World Bridge) : Prop :=
  ∃ hdl, (world.server.graphSubscribers.dropWhile world.established).head? = some hdl ∧
    world.link hdl = .gone

/-- Behind the first subscriber of the graph whose connection is not established, the first
one that is not gone is established. -/
def CutsOff (world : World Bridge) : Prop :=
  ∃ hdl, ((world.server.graphSubscribers.dropWhile world.established).filter world.alive).head? =
    some hdl ∧ world.link hdl = .established

theorem alive_iff {hdl : ConnHandle} : world.alive hdl = true ↔ world.link hdl ≠ .gone :=
  decide_eq_true_iff

theorem established_iff {hdl : ConnHandle} :
    world.established hdl = true ↔ world.link hdl = .established := decide_eq_true_iff

theorem outOfReach_alive (world : World Bridge) : OutOfReach world.alive world := by
  intro hdl dead established
  simp [World.alive, established] at dead

theorem Isolated.of_commutes {action : ServerAction Bridge Value}
    (commutes : action.CommutesAt (World.restrictClients world.alive) world) :
    Isolated action world := by
  have same : action world.withoutDead =
      ((action world).1, (action world).2.restrictClients world.alive) := commutes
  refine ⟨⟨?_, fun hdl _ => ?_⟩, ?_⟩
  · rw [same]
    rfl
  · rw [same]
    rfl
  · rw [same]

section ConnectionGraph

variable {graph : ConnectionGraph}

/-- The subscribers that are not gone: those reached in any case, and the rest. -/
theorem filter_alive (world : World Bridge) (hdls : List ConnHandle) :
    hdls.filter world.alive = hdls.takeWhile world.established ++
      (hdls.dropWhile world.established).filter world.alive := by
  conv_lhs => rw [← List.takeWhile_append_dropWhile (p := world.established) (l := hdls)]
  rw [List.filter_append]
  congr 1
  apply List.filter_eq_self.mpr
  intro hdl member
  rw [alive_iff, established_iff.mp (List.mem_takeWhile_imp member)]
  exact Link.noConfusion

theorem takeWhile_alive (world : World Bridge) (hdls : List ConnHandle) :
    (hdls.filter world.alive).takeWhile world.established =
      hdls.takeWhile world.established ++
        ((hdls.dropWhile world.established).filter world.alive).takeWhile world.established := by
  rw [filter_alive, List.takeWhile_append_of_pos]
  exact fun hdl member => List.mem_takeWhile_imp member

theorem dropWhile_alive (world : World Bridge) (hdls : List ConnHandle) :
    (hdls.filter world.alive).dropWhile world.established =
      ((hdls.dropWhile world.established).filter world.alive).dropWhile world.established := by
  rw [filter_alive, List.dropWhile_append_of_pos]
  exact fun hdl member => List.mem_takeWhile_imp member

/-- Nobody is sent an update behind the first connection that is not established,
unless somebody is cut off there. -/
theorem takeWhile_rest (world : World Bridge) (cutsOff : ¬ CutsOff world) :
    ((world.server.graphSubscribers.dropWhile world.established).filter
      world.alive).takeWhile world.established = [] := by
  rcases live : (world.server.graphSubscribers.dropWhile world.established).filter world.alive with
    _ | ⟨hdl, others⟩
  · rfl
  · apply List.takeWhile_cons_of_neg
    intro established
    refine cutsOff ⟨hdl, ?_, established_iff.mp established⟩
    rw [live]
    rfl

/-- An update without the clients that are gone. -/
theorem updateConnectionGraph_withoutDead (graph : ConnectionGraph) (world : World Bridge) :
    updateConnectionGraph graph world.withoutDead =
      if (world.server.connectionGraph.diff graph).isEmpty then
        (.ok (), { world with
          server := (world.server.storeGraph graph).restrictClients world.alive })
      else
        (world.sendOutcome
          ((world.server.graphSubscribers.filter world.alive).dropWhile world.established).head?,
          { world.enqueueAll
              ((world.server.graphSubscribers.filter world.alive).takeWhile world.established)
              (.connectionGraphUpdate (world.server.connectionGraph.diff graph)) with
            server := (world.server.storeGraph graph).restrictClients world.alive }) := by
  have subscribers : world.withoutDead.server.graphSubscribers =
      world.server.graphSubscribers.filter world.alive :=
    Server.graphSubscribers_restrictClients _ _
  have outcome : world.withoutDead.sendOutcome = world.sendOutcome := by
    funext first
    cases first with
    | none => rfl
    | some hdl => rfl
  rw [updateConnectionGraph_apply, subscribers, outcome]
  unfold World.withoutDead World.restrictClients
  rw [World.enqueueAll_setServer]
  rfl

/-- Only subscribers behind one that is gone can miss an update. -/
theorem sameEffects_updateConnectionGraph_iff :
    SameEffects (updateConnectionGraph graph) world ↔
      (world.server.connectionGraph.diff graph).isEmpty ∨ ¬ CutsOff world := by
  constructor
  · intro same
    by_contra lost
    push Not at lost
    obtain ⟨changed, hdl, next, established⟩ := lost
    have frames := same.frames hdl (by simp [established])
    rw [updateConnectionGraph_withoutDead, updateConnectionGraph_apply, if_neg changed,
      if_neg changed] at frames
    change (world.enqueueAll _ _).sentTo hdl = (world.enqueueAll _ _).sentTo hdl at frames
    have nodup : world.server.graphSubscribers.Nodup := Server.graphSubscribers_nodup _
    rw [World.sentTo_enqueueAll ((nodup.filter _).sublist (List.takeWhile_sublist _)),
      World.sentTo_enqueueAll (nodup.sublist (List.takeWhile_sublist _)),
      List.append_cancel_left_eq] at frames
    have behind : hdl ∈ world.server.graphSubscribers.dropWhile world.established :=
      List.mem_of_mem_filter (List.mem_of_mem_head? next)
    have before : hdl ∉ world.server.graphSubscribers.takeWhile world.established := by
      intro member
      rw [← List.takeWhile_append_dropWhile (p := world.established)
        (l := world.server.graphSubscribers)] at nodup
      exact List.disjoint_of_nodup_append nodup member behind
    have reached : hdl ∈ (world.server.graphSubscribers.filter world.alive).takeWhile
        world.established := by
      rw [takeWhile_alive, List.mem_append]
      right
      obtain ⟨rest, split⟩ := List.head?_eq_some_iff.mp next
      rw [split, List.takeWhile_cons_of_pos (established_iff.mpr established)]
      exact List.mem_cons_self
    rw [if_pos ⟨reached, established⟩, if_neg (fun sent => before sent.1)] at frames
    cases frames
  · intro kept
    have equal : (updateConnectionGraph graph world.withoutDead).2 =
        (updateConnectionGraph graph world).2.restrictClients world.alive := by
      rw [updateConnectionGraph_withoutDead, updateConnectionGraph_apply]
      split
      · rfl
      · next changed =>
        have uncut := kept.resolve_left changed
        rw [takeWhile_alive, takeWhile_rest world uncut, List.append_nil]
        rfl
    exact ⟨congrArg World.server equal, fun hdl _ => congrArg (·.sentTo hdl) equal⟩

/-- Unless the loop stops at one that is gone, it ends with the first connection that is
not established, which is kept. -/
theorem rest_cases (reaches : ¬ StopsAtDead world) :
    world.server.graphSubscribers.dropWhile world.established = [] ∨
      ∃ first others, world.server.graphSubscribers.dropWhile world.established = first :: others ∧
        world.alive first = true ∧ ¬ world.established first = true := by
  have head := List.head?_dropWhile_not world.established world.server.graphSubscribers
  rcases rest : world.server.graphSubscribers.dropWhile world.established with _ | ⟨first, others⟩
  · exact .inl rfl
  · rw [rest] at head
    refine .inr ⟨first, others, rfl, alive_iff.mpr fun dead => reaches ⟨first, ?_, dead⟩, ?_⟩
    · rw [rest]
      rfl
    · exact Bool.eq_false_iff.mp head

theorem not_cutsOff (reaches : ¬ StopsAtDead world) : ¬ CutsOff world := by
  rintro ⟨hdl, next, established⟩
  rcases rest_cases reaches with rest | ⟨first, others, rest, alive, shut⟩
  · rw [rest] at next
    cases next
  · rw [rest, List.filter_cons_of_pos alive] at next
    cases next
    exact shut (established_iff.mpr established)

/-- An update fails because of a client that is gone exactly when it meets one before any
other connection that is not established. -/
theorem isolated_updateConnectionGraph_iff :
    Isolated (updateConnectionGraph graph) world ↔
      (world.server.connectionGraph.diff graph).isEmpty ∨ ¬ StopsAtDead world := by
  constructor
  · intro isolated
    by_contra stopped
    push Not at stopped
    obtain ⟨changed, hdl, first, dead⟩ := stopped
    have returns := isolated.returns
    rw [updateConnectionGraph_withoutDead, updateConnectionGraph_apply, if_neg changed,
      if_neg changed, first] at returns
    cases other : ((world.server.graphSubscribers.filter world.alive).dropWhile
        world.established).head? with
    | none =>
      rw [other] at returns
      cases returns
    | some hdl' =>
      have alive : world.alive hdl' = true := by
        have member := (List.dropWhile_sublist _).subset (List.mem_of_mem_head? other)
        exact List.of_mem_filter member
      rw [other] at returns
      simp [World.sendOutcome, dead, alive_iff.mp alive] at returns
  · intro kept
    refine ⟨sameEffects_updateConnectionGraph_iff.mpr (kept.imp_right not_cutsOff), ?_⟩
    rw [updateConnectionGraph_withoutDead, updateConnectionGraph_apply]
    split
    · rfl
    · next changed =>
      have reaches := kept.resolve_left changed
      rw [dropWhile_alive]
      rcases rest_cases reaches with rest | ⟨first, others, rest, alive, shut⟩
      · rw [rest]
        rfl
      · rw [rest, List.filter_cons_of_pos alive, List.dropWhile_cons_of_neg shut]
        rfl

end ConnectionGraph

section Login

variable {hdl : ConnHandle} {payload : Json}
variable (config : Config Bridge)

theorem withoutDead_valid (world : World Bridge) : AllValid world.withoutDead := by
  intro other member
  have listed : other ∈ (world.server.clients.restrict world.alive).keys := member
  rw [keys_restrict] at listed
  exact alive_iff.mp (List.of_mem_filter listed)

theorem withoutDead_eq_self (valid : AllValid world) : world.withoutDead = world := by
  have same : world.server.clients.restrict world.alive = world.server.clients :=
    restrict_eq_self fun other member => alive_iff.mpr (valid other member)
  unfold World.withoutDead World.restrictClients Server.restrictClients
  rw [same]

/-- A connection that is not gone gets its reply. -/
theorem loginReply_returns (alive : world.link hdl ≠ .gone) :
    (loginReply config hdl world).1 = .ok () := by
  have found : getConFromHdl hdl world = (.ok (), world) := by
    rw [getConFromHdl_apply, if_neg alive]
  have info : sendServerInfo config hdl world = (.ok (), _) :=
    (bind_ok found).trans (conSend_apply _ _ _)
  rw [loginReply, bind_ok info, gets_bind_apply, bind_ok (Prod.ext (sendJson_returns _ _ _ _) rfl),
    sendServices, gets_bind_apply, sendJson_returns]

/-- A login succeeds exactly when no client is gone. -/
theorem handleLogin_returns_iff {user : String × String} (read : loginUser payload = .ok user)
    {world : World Bridge} (alive : world.link hdl ≠ .gone) :
    (handleLogin config payload hdl world).1 = .ok () ↔ AllValid world := by
  have reply : handleLogin config payload hdl world =
      (admitClient user.1 user.2 hdl >>= fun _ => loginReply config hdl) world := by
    rw [handleLogin_apply, read]
  rw [reply]
  constructor
  · intro returns
    by_contra invalid
    have gone : ∃ other ∈ world.server.clients.keys, world.link other = .gone := by
      simpa [AllValid, AList.mem_keys] using invalid
    obtain ⟨sent, admitted⟩ := admitClient_apply user.1 user.2 hdl world
    rw [if_pos gone] at admitted
    rw [bind_error admitted] at returns
    cases returns
  · intro valid
    rw [bind_ok (admitClient_valid valid)]
    apply loginReply_returns
    change (world.enqueueAll _ _).link hdl ≠ .gone
    rw [World.enqueueAll_link]
    exact alive

/-- A login kicks through every handle, so it stops at an invalid one. -/
theorem isolated_handleLogin_iff (alive : world.link hdl ≠ .gone) :
    Isolated (handleLogin config payload hdl) world ↔
      (∃ fault, loginUser payload = .error fault) ∨ AllValid world := by
  cases read : loginUser payload with
  | error fault =>
    refine iff_of_true ?_ (.inl ⟨fault, rfl⟩)
    apply Isolated.of_commutes
    rw [Action.CommutesAt, handleLogin_apply, handleLogin_apply, read]
  | ok user =>
    rw [or_iff_right (by simp)]
    constructor
    · intro isolated
      have still : world.withoutDead.link hdl ≠ .gone := alive
      have returns : (handleLogin config payload hdl world.withoutDead).1 = .ok () :=
        (handleLogin_returns_iff config read still).mpr (withoutDead_valid world)
      rw [isolated.returns] at returns
      exact (handleLogin_returns_iff config read alive).mp returns
    · intro valid
      have outcome := (handleLogin_outcome config payload hdl world).1
      refine ⟨⟨?_, fun _ _ => by rw [withoutDead_eq_self valid]⟩, by rw [withoutDead_eq_self valid]⟩
      rw [withoutDead_eq_self valid]
      -- The login registers nobody who is gone.
      have registered : ∀ other ∈ (handleLogin config payload hdl world).2.server.clients,
          world.alive other = true := by
        intro other member
        obtain ⟨client, found⟩ := (mem_iff_lookup _ _).mp member
        rw [alive_iff]
        rcases outcome.lookup other with ⟨old, _, before, _⟩ | ⟨_, missing | ⟨rfl, _⟩⟩
        · exact valid other (mem_of_lookup before)
        · rw [missing] at found
          cases found
        · exact alive
      unfold Server.restrictClients
      rw [restrict_eq_self registered]

end Login

/-- Clients that are gone make no difference to the broadcasts that catch the exceptions
of their sends. An update of the connection graph fails exactly when something changed
and the first subscriber out of reach is gone, and leaves something out exactly when
somebody is cut off behind one that is gone. A login that can be read fails exactly when
some client is gone. -/
theorem dead_connections_isolated (config : Config Bridge) (check : TextCheck)
    (world : World Bridge) :
    (∀ channels, Isolated (addChannels check channels) world) ∧
    (∀ channelIds, Isolated (removeChannels channelIds) world) ∧
    (∀ services, Isolated (addServices check services) world) ∧
    (∀ serviceIds, Isolated (removeServices serviceIds) world) ∧
    (∀ timestamp, Isolated (broadcastTime timestamp) world) ∧
    (∀ graph, (Isolated (updateConnectionGraph graph) world ↔
      (world.server.connectionGraph.diff graph).isEmpty ∨ ¬ StopsAtDead world)) ∧
    (∀ graph, (SameEffects (updateConnectionGraph graph) world ↔
      (world.server.connectionGraph.diff graph).isEmpty ∨ ¬ CutsOff world)) ∧
    ∀ hdl payload, world.link hdl ≠ .gone →
      (Isolated (handleLogin config payload hdl) world ↔
        (∃ fault, loginUser payload = .error fault) ∨ AllValid world) := by
  have outOfReach := outOfReach_alive world
  refine ⟨fun channels => .of_commutes (addChannels_commutes outOfReach check channels),
    fun channelIds => .of_commutes ?_,
    fun services => .of_commutes (addServices_commutes outOfReach check services),
    fun serviceIds => .of_commutes (removeServices_commutes outOfReach serviceIds),
    fun timestamp => ?_, fun graph => isolated_updateConnectionGraph_iff,
    fun graph => sameEffects_updateConnectionGraph_iff,
    fun hdl payload alive => isolated_handleLogin_iff config alive⟩
  · apply Action.CommutesAt.ite (commutesAt_pure _)
    apply Action.CommutesAt.bind
    · apply modifyServer_commutes
      exact fun _ => rfl
    rintro _ _ ⟨⟩
    apply Action.CommutesAt.bind
    · apply modifyServer_commutes
      intro server
      simp only [Server.dropChannels, Server.restrictClients, Table.restrict_mapWithKey]
    rintro _ _ ⟨⟩
    apply broadcast_commutes
    exact outOfReach
  exact .of_commutes (broadcast_commutes outOfReach _)

section Example

/-- One client logged in and subscribed to the connection graph, then a second one logged
in, then the first connection was lost. -/
def lostSubscriber : World Unit :=
  let first := (handleLogin twoUsersConfig (userPayload "ann" "a") ⟨1⟩ (.initial ())).2
  let subscribed := (handleOperation twoUsersConfig .subscribeConnectionGraph .null ⟨1⟩ first).2
  let second := (handleLogin twoUsersConfig (userPayload "bob" "b") ⟨2⟩ subscribed).2
  { second with link := fun hdl => if hdl = ⟨1⟩ then .gone else .established }

def talkerGraph : ConnectionGraph :=
  ⟨AList.insert "/chatter" {"/talker"} ∅, ∅, ∅⟩

/-- The lost connection is not noticed by a broadcast, nor by an update without changes,
nor by a login that cannot be read; a login to a new server is complete. -/
theorem dead_connections_isolated_lost :
    Isolated (broadcastTime 7) lostSubscriber ∧
      Isolated (updateConnectionGraph lostSubscriber.server.connectionGraph) lostSubscriber ∧
      Isolated (handleLogin twoUsersConfig .null ⟨3⟩) lostSubscriber ∧
      Isolated (handleLogin twoUsersConfig (userPayload "ann" "a") ⟨1⟩) (.initial ()) := by
  have lost := dead_connections_isolated twoUsersConfig (fun _ => .ok ()) lostSubscriber
  have fresh := dead_connections_isolated twoUsersConfig (fun _ => .ok ()) (.initial ())
  obtain ⟨_, _, _, _, time, graph, _, login⟩ := lost
  refine ⟨time 7, (graph _).mpr (.inl (by decide +kernel)), ?_, ?_⟩
  · exact (login ⟨3⟩ .null (by decide)).mpr (.inl ⟨_, rfl⟩)
  · exact (fresh.2.2.2.2.2.2.2 ⟨1⟩ _ (by decide)).mpr (.inr fun hdl member => nomatch member)

/-- A third client cannot log in while the lost connection is registered. The second one is
logged out all the same, so nobody holds the login. An update of the graph fails. -/
theorem login_stopped_by_lost_connection :
    ¬ Isolated (handleLogin twoUsersConfig (userPayload "ann" "a") ⟨3⟩) lostSubscriber ∧
      ¬ Isolated (updateConnectionGraph talkerGraph) lostSubscriber ∧
      (handleLogin twoUsersConfig (userPayload "ann" "a") ⟨3⟩ lostSubscriber).2.identities ⟨2⟩ =
        some ("bob", "b", false) ∧
      (handleLogin twoUsersConfig (userPayload "ann" "a") ⟨3⟩ lostSubscriber).2.identities ⟨3⟩ =
        none ∧
      (handleLogin twoUsersConfig (userPayload "ann" "a") ⟨3⟩
        lostSubscriber.withoutDead).2.identities ⟨3⟩ = some ("ann", "a", true) := by
  refine ⟨?_, ?_, by decide +kernel, by decide +kernel, by decide +kernel⟩
  · rw [isolated_handleLogin_iff twoUsersConfig (by decide)]
    rintro (⟨fault, unread⟩ | valid)
    · cases unread
    · exact valid ⟨1⟩ (by decide +kernel) (by decide)
  · rw [isolated_updateConnectionGraph_iff]
    rintro (unchanged | reaches)
    · exact absurd unchanged (by decide +kernel)
    · exact reaches ⟨⟨1⟩, by decide +kernel, by decide⟩

end Example

end CoBridge
