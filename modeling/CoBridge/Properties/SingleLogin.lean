import CoBridge.Library.Transition
import CoBridge.Properties.TextDispatch
import CoBridge.Server.OperationEffects

/-!
# One client holds the login

A login logs out the registered clients and enters its own connection, unless it has
an entry already: then the connection logs itself out with the others and keeps the
name it had. So the client that logged in last holds the login as long as every login
comes from a connection that is not registered. At most one client holds it always.
-/

namespace CoBridge

open Library Action Table

variable {Bridge : Type} {config : Config Bridge} {world : World Bridge} {hdl : ConnHandle}

/-- The lookup of every registered connection succeeds. -/
def AllValid (world : World Bridge) : Prop :=
  ∀ hdl ∈ world.server.clients, world.link hdl ≠ .gone

def ServerMessage.isKicked : ServerMessage → Bool
  | .kicked _ _ => true
  | _ => false

/-- The frames of a connection that tell it that it was kicked. -/
def World.kickedFrames (world : World Bridge) (hdl : ConnHandle) : List ServerMessage :=
  (world.sentTo hdl).filter ServerMessage.isKicked

/-- The connection logged in, and everybody else was logged out and told so. -/
structure LoggedInAlone (hdl : ConnHandle) (userName userId : String)
    (before after : World Bridge) : Prop where
  entry : ∃ client, after.server.clients.lookup hdl = some client ∧
    client.identity = (userName, userId, true)
  others : ∀ other, other ≠ hdl →
    after.server.clients.lookup other = (before.server.clients.lookup other).map ClientInfo.logOut
  kicked : ∀ other, after.kickedFrames other = before.kickedFrames other ++
    if other ∈ before.server.clients ∧ other ≠ hdl ∧ before.link other = .established then
      [.kicked userId userName] else []

/-- The registered connection holds the login. -/
def HoldsLogin (world : World Bridge) (hdl : ConnHandle) : Prop :=
  ∃ client, world.server.clients.lookup hdl = some client ∧ client.login = true

/-- A server with its logins: the last one, unless it disconnected since, and all that
have not disconnected since, the newest first. -/
structure LoginHistory (Bridge : Type) where
  world : World Bridge
  last : Option ConnHandle
  logins : List ConnHandle

/-- The message is a login request that can be read. -/
def LogsIn (config : Config Bridge) (frame : ClientFrame) : Prop :=
  ∃ payload user, frame.request? config = some (.login, payload) ∧ loginUser payload = .ok user

inductive LoginEvent where
  | message (hdl : ConnHandle) (frame : ClientFrame)
  | closed (hdl : ConnHandle)
  | elsewhere

/-- Messages, disconnects, and anything else that leaves the identities alone. -/
inductive LoginStep (config : Config Bridge) (history : LoginHistory Bridge) :
    LoginEvent → LoginHistory Bridge → Prop where
  | login {hdl : ConnHandle} {frame : ClientFrame} (logsIn : LogsIn config frame) :
      LoginStep config history (.message hdl frame)
        ⟨(handleMessage config hdl frame history.world).2, some hdl, hdl :: history.logins⟩
  | message {hdl : ConnHandle} {frame : ClientFrame} (other : ¬ LogsIn config frame) :
      LoginStep config history (.message hdl frame)
        { history with world := (handleMessage config hdl frame history.world).2 }
  | closed (hdl : ConnHandle) :
      LoginStep config history (.closed hdl)
        ⟨(handleConnectionClosed config hdl history.world).2, history.last.filter (· ≠ hdl),
          history.logins.filter (· ≠ hdl)⟩
  | elsewhere {next : World Bridge} (same : next.identities = history.world.identities) :
      LoginStep config history .elsewhere { history with world := next }

def loginSystem (config : Config Bridge) : TransitionSystem (LoginHistory Bridge) LoginEvent where
  Initial history := history.world.server = .initial ∧ history.last = none ∧ history.logins = []
  Step := LoginStep config

/-- A login comes from a connection that is not registered, while the connections of
all clients are valid. -/
def FirstLogin (config : Config Bridge) (history : LoginHistory Bridge) : LoginEvent → Prop
  | .message hdl frame => LogsIn config frame →
      hdl ∉ history.world.server.clients ∧ AllValid history.world
  | _ => True

/-- The client that logged in last does not disconnect before the others. -/
def LastStays (history : LoginHistory Bridge) : LoginEvent → Prop
  | .closed hdl => history.last = some hdl → ∀ other ∈ history.logins, other = hdl
  | _ => True

section Login

variable {userName userId : String}

/-- Kicking clients whose connections are all valid. -/
theorem kickLoop_valid {hdls : List ConnHandle} (world : World Bridge)
    (valid : ∀ hdl ∈ hdls, world.link hdl ≠ .gone) :
    Action.forEach hdls (kickClient userId userName) world =
      (.ok (), { world.enqueueAll hdls (.kicked userId userName) with
        server := world.server.logOutAll hdls }) := by
  induction hdls generalizing world with
  | nil => simp [World.enqueueAll, Server.logOutAll_nil]
  | cons hdl rest ih =>
    have here : world.link hdl ≠ .gone := valid hdl List.mem_cons_self
    let kicked : World Bridge := { world.enqueue hdl (.kicked userId userName) with
      server := world.server.modifyClient hdl ClientInfo.logOut }
    have link : kicked.link = world.link := World.enqueue_link _ _ _
    have later := ih kicked fun other member => by
      rw [link]
      exact valid other (List.mem_cons_of_mem _ member)
    have first : kickClient userId userName hdl world = (.ok (), kicked) := by
      rw [kickClient_apply, if_neg here]
    rw [forEach_cons, bind_ok first, later, World.enqueueAll_setServer]
    rw [Server.logOutAll_modifyClient]
    rfl

/-- What a login leaves when the connections of all clients are valid, before it
replies. -/
def World.loggedIn (world : World Bridge) (hdl : ConnHandle) (userName userId : String) :
    World Bridge :=
  { world.enqueueAll world.server.clients.keys (.kicked userId userName) with
    server := (world.server.logOutAll world.server.clients.keys).registerClient hdl
      (.fresh (if world.link hdl = .gone then "(unknown)" else world.remoteEndpoint hdl)
        userName userId hdl) }

theorem admitClient_valid (valid : AllValid world) :
    admitClient userName userId hdl world = (.ok (), world.loggedIn hdl userName userId) := by
  have kicks : kickClients userId userName world =
      (.ok (), { world.enqueueAll world.server.clients.keys (.kicked userId userName) with
        server := world.server.logOutAll world.server.clients.keys }) :=
    kickLoop_valid world valid
  rw [admitClient, remoteEndpointString, gets_bind_apply, bind_ok kicks,
    modifyServer_apply]
  rfl

theorem kickedFrames_enqueue {message : ServerMessage} (other : message.isKicked = false) :
    (world.enqueue hdl message).kickedFrames = world.kickedFrames := by
  funext receiver
  rw [World.kickedFrames, World.sentTo_enqueue, List.filter_append]
  split
  · simp [World.kickedFrames, other]
  · simp [World.kickedFrames]

/-- The reply to a login kicks nobody. -/
theorem loginReply_kickedFrames (config : Config Bridge) (hdl : ConnHandle) :
    (loginReply config hdl).Meets (.frame World.kickedFrames) := by
  have sends {message : ServerMessage} (other : message.isKicked = false)
      (dumped : Except Exception Unit) :
      (sendJson hdl message dumped).Meets (.frame (World.kickedFrames : World Bridge → _)) :=
    sendJson_meets hdl message (fun world => kickedFrames_enqueue other) dumped
  apply Meets.bind
  · apply Meets.bind (getConFromHdl_meets _ hdl)
    intro _ world
    exact kickedFrames_enqueue rfl
  intro _
  apply Meets.bind (meets_gets _)
  intro channels
  apply Meets.bind (sends rfl _)
  intro _
  exact (meets_gets _).bind fun services => sends rfl _

theorem lookup_logOutAll_keys (server : Server) (other : ConnHandle) :
    (server.logOutAll server.clients.keys).clients.lookup other =
      (server.clients.lookup other).map ClientInfo.logOut := by
  rw [Server.logOutAll_clients, lookup_mapWithKey]
  cases found : server.clients.lookup other with
  | none => rfl
  | some client =>
    have member : other ∈ server.clients.keys := mem_of_lookup found
    rw [Option.map_some, Option.map_some, if_pos member]

theorem lookup_loggedIn (other : ConnHandle) :
    (world.loggedIn hdl userName userId).server.clients.lookup other =
      if other = hdl then some (((world.server.clients.lookup hdl).map ClientInfo.logOut).getD
        (.fresh (if world.link hdl = .gone then "(unknown)" else world.remoteEndpoint hdl)
          userName userId hdl))
      else (world.server.clients.lookup other).map ClientInfo.logOut := by
  rw [World.loggedIn, Server.registerClient, lookup_emplace, lookup_logOutAll_keys,
    lookup_logOutAll_keys]

theorem kickedFrames_loggedIn (other : ConnHandle) :
    (world.loggedIn hdl userName userId).kickedFrames other = world.kickedFrames other ++
      if other ∈ world.server.clients ∧ world.link other = .established then
        [.kicked userId userName] else [] := by
  change ((world.enqueueAll world.server.clients.keys (.kicked userId userName)).sentTo
    other).filter _ = _
  rw [World.sentTo_enqueueAll world.server.clients.keys_nodup, List.filter_append]
  congr 1
  by_cases reached : other ∈ world.server.clients ∧ world.link other = .established
  · rw [if_pos reached, if_pos (show other ∈ world.server.clients.keys ∧ _ from reached)]
    rfl
  · rw [if_neg reached, if_neg (show ¬ (other ∈ world.server.clients.keys ∧ _) from reached)]
    rfl

/-- A login does what it should exactly when its connection is not registered. -/
theorem loggedInAlone_iff {payload : Json} (config : Config Bridge)
    (user : loginUser payload = .ok (userName, userId)) (valid : AllValid world) :
    LoggedInAlone hdl userName userId world (handleLogin config payload hdl world).2 ↔
      hdl ∉ world.server.clients := by
  have reached : handleLogin config payload hdl world =
      loginReply config hdl (world.loggedIn hdl userName userId) := by
    rw [handleLogin_apply, user]
    exact bind_ok (admitClient_valid valid)
  rw [reached]
  have server : (loginReply config hdl (world.loggedIn hdl userName userId)).2.server =
      (world.loggedIn hdl userName userId).server :=
    congrArg Prod.fst (loginReply_unsent config hdl (world.loggedIn hdl userName userId))
  have kicked : (loginReply config hdl (world.loggedIn hdl userName userId)).2.kickedFrames =
      (world.loggedIn hdl userName userId).kickedFrames :=
    loginReply_kickedFrames config hdl (world.loggedIn hdl userName userId)
  constructor
  · intro alone member
    obtain ⟨client, found, identity⟩ := alone.entry
    obtain ⟨old, registered⟩ := (mem_iff_lookup _ _).mp member
    rw [server, lookup_loggedIn, if_pos rfl, registered] at found
    cases found
    exact Bool.noConfusion (congrArg (·.2.2) identity)
  · intro absent
    have missing : world.server.clients.lookup hdl = none := AList.lookup_eq_none.mpr absent
    refine ⟨?_, fun other different => ?_, fun other => ?_⟩
    · rw [server, lookup_loggedIn, if_pos rfl, missing]
      exact ⟨_, rfl, rfl⟩
    · rw [server, lookup_loggedIn, if_neg different]
    · rw [kicked, kickedFrames_loggedIn]
      have notSelf : other ∈ world.server.clients → other ≠ hdl := by
        rintro member rfl
        exact absent member
      congr 1
      simp only [← and_assoc, and_iff_left_of_imp notSelf]

end Login

section Runs

/-- A login request is answered by `handleLogin`, as far as the tables go. -/
theorem handleMessage_login {frame : ClientFrame} {payload : Json}
    (requested : frame.request? config = some (.login, payload)) :
    (handleMessage config hdl frame world).2.server =
      (handleLogin config payload hdl world).2.server :=
  handleMessage_of_request World.enqueue_server requested

variable {next : World Bridge} {history : LoginHistory Bridge} {event : LoginEvent}

theorem World.identities_of_server (same : next.server = world.server) :
    next.identities = world.identities := by
  unfold World.identities
  rw [same]

/-- A message that logs nobody in leaves the identities alone. -/
theorem identities_message {frame : ClientFrame} (other : ¬ LogsIn config frame) :
    (handleMessage config hdl frame world).2.identities = world.identities := by
  by_cases requested : ∃ payload, frame.request? config = some (.login, payload)
  · obtain ⟨payload, requested⟩ := requested
    apply World.identities_of_server
    rw [handleMessage_login requested, handleLogin_apply]
    cases read : loginUser payload with
    | error fault => rfl
    | ok user => exact absurd ⟨payload, user, requested, read⟩ other
  · exact (identities_kept config hdl).message world fun payload asked => requested ⟨payload, asked⟩

/-- A disconnect erases one identity. -/
theorem identities_closed (config : Config Bridge) (hdl : ConnHandle) (world : World Bridge) :
    (handleConnectionClosed config hdl world).2.identities =
      Function.update world.identities hdl none := by
  cases found : world.server.clients.lookup hdl with
  | none =>
    rw [handleConnectionClosed_of_none found]
    have nobody : world.identities hdl = none := by
      rw [World.identities, found, Option.map_none]
    rw [← nobody, Function.update_eq_self]
  | some client =>
    have kept : (handleConnectionClosed config hdl world).2.identities = _ :=
      (identities_kept config hdl).disconnect found
    rw [kept]
    funext other
    rw [World.identities, Server.eraseClient, Function.update_apply]
    by_cases same : other = hdl
    · rw [if_pos same, same, AList.lookup_erase, Option.map_none]
    · rw [if_neg same, AList.lookup_erase_ne same]
      rfl

theorem holdsLogin_iff : HoldsLogin world hdl ↔
    ∃ identity, world.identities hdl = some identity ∧ identity.2.2 = true := by
  constructor
  · rintro ⟨client, found, holds⟩
    exact ⟨client.identity, by rw [World.identities, found, Option.map_some], holds⟩
  · rintro ⟨identity, found, holds⟩
    obtain ⟨client, registered, rfl⟩ := Option.map_eq_some_iff.mp found
    exact ⟨client, registered, holds⟩

theorem holdsLogin_congr (same : next.identities = world.identities) :
    HoldsLogin next hdl ↔ HoldsLogin world hdl := by
  rw [holdsLogin_iff, holdsLogin_iff, same]

theorem holdsLogin_closed {other : ConnHandle} :
    HoldsLogin (handleConnectionClosed config hdl world).2 other ↔
      other ≠ hdl ∧ HoldsLogin world other := by
  rw [holdsLogin_iff, holdsLogin_iff, identities_closed, Function.update_apply]
  by_cases same : other = hdl
  · simp [same]
  · simp [same]

/-- Either a login only takes the login away, or nobody but its connection holds it. -/
theorem admitClient_holders (userName userId : String) (hdl : ConnHandle) (world : World Bridge) :
    (∀ other, HoldsLogin (admitClient userName userId hdl world).2 other →
        HoldsLogin world other) ∨
      ∀ other, HoldsLogin (admitClient userName userId hdl world).2 other → other = hdl := by
  by_cases valid : AllValid world
  · right
    rintro other ⟨client, found, holds⟩
    rw [admitClient_valid valid, lookup_loggedIn] at found
    by_contra different
    rw [if_neg different] at found
    obtain ⟨old, _, rfl⟩ := Option.map_eq_some_iff.mp found
    exact Bool.noConfusion holds
  · left
    have gone : ∃ other ∈ world.server.clients.keys, world.link other = .gone := by
      simpa [AllValid, AList.mem_keys] using valid
    obtain ⟨sent, admitted⟩ := admitClient_apply userName userId hdl world
    rw [admitted, if_pos gone]
    rintro other ⟨client, found, holds⟩
    rw [Server.logOutAll_clients, lookup_mapWithKey] at found
    obtain ⟨old, registered, rfl⟩ := Option.map_eq_some_iff.mp found
    split at holds
    · exact Bool.noConfusion holds
    · exact ⟨old, registered, holds⟩

/-- The holder of the login is unique. -/
def SingleHolder (world : World Bridge) : Prop :=
  ∀ ⦃first second⦄, HoldsLogin world first → HoldsLogin world second → first = second

theorem SingleHolder.congr (single : SingleHolder world)
    (same : next.identities = world.identities) :
    SingleHolder next := by
  intro first second one two
  exact single ((holdsLogin_congr same).mp one) ((holdsLogin_congr same).mp two)

/-- No step gives a second client the login. -/
theorem SingleHolder.step {next : LoginHistory Bridge} (single : SingleHolder history.world)
    (step : LoginStep config history event next) :
    SingleHolder next.world := by
  cases step with
  | @login hdl frame logsIn =>
    obtain ⟨payload, ⟨userName, userId⟩, requested, user⟩ := logsIn
    have server : (handleMessage config hdl frame history.world).2.server =
        (admitClient userName userId hdl history.world).2.server :=
      (handleMessage_login requested).trans (handleLogin_server config user hdl history.world)
    have admitted : SingleHolder (admitClient userName userId hdl history.world).2 := by
      intro first second one two
      rcases admitClient_holders userName userId hdl history.world with fewer | alone
      · exact single (fewer first one) (fewer second two)
      · exact (alone first one).trans (alone second two).symm
    exact admitted.congr (World.identities_of_server server)
  | message other => exact single.congr (identities_message other)
  | closed hdl =>
    intro first second one two
    exact single (holdsLogin_closed.mp one).2 (holdsLogin_closed.mp two).2
  | elsewhere same => exact single.congr same

/-- The last login is held. -/
theorem lastHolds_step {next : LoginHistory Bridge}
    (lastHolds : ∀ hdl, history.last = some hdl → HoldsLogin history.world hdl)
    (first : FirstLogin config history event) (step : LoginStep config history event next) :
    ∀ hdl, next.last = some hdl → HoldsLogin next.world hdl := by
  intro holder
  cases step with
  | @login hdl frame logsIn =>
    rintro ⟨⟩
    obtain ⟨absent, valid⟩ := first logsIn
    obtain ⟨payload, ⟨userName, userId⟩, requested, user⟩ := logsIn
    have alone := (loggedInAlone_iff config user valid).mpr absent
    obtain ⟨client, found, identity⟩ := alone.entry
    refine ⟨client, ?_, congrArg (·.2.2) identity⟩
    rw [handleMessage_login requested]
    exact found
  | message other =>
    intro last
    exact (holdsLogin_congr (identities_message other)).mpr (lastHolds holder last)
  | closed hdl =>
    intro last
    obtain ⟨last, different⟩ := Option.filter_eq_some_iff.mp last
    exact holdsLogin_closed.mpr ⟨of_decide_eq_true different, lastHolds holder last⟩
  | elsewhere same =>
    intro last
    exact (holdsLogin_congr same).mpr (lastHolds holder last)

/-- While the last one to log in stays, it is the newest of those that stayed. -/
theorem lastNewest_step {next : LoginHistory Bridge} (newest : history.logins.head? = history.last)
    (stays : LastStays history event) (step : LoginStep config history event next) :
    next.logins.head? = next.last := by
  cases step with
  | login logsIn => rfl
  | message other => exact newest
  | elsewhere same => exact newest
  | closed hdl =>
    cases logins : history.logins with
    | nil =>
      rw [logins] at newest
      rw [← newest]
      rfl
    | cons latest older =>
      rw [logins] at newest
      rw [← newest]
      by_cases same : latest = hdl
      · have everyone : ∀ other ∈ latest :: older, other = hdl := by
          rw [← logins]
          exact stays (newest.symm.trans (congrArg some same))
        have nobody : (latest :: older).filter (· ≠ hdl) = [] := by
          rw [List.filter_eq_nil_iff]
          intro other member
          simp [everyone other member]
        rw [nobody]
        simp [same, Option.filter_some]
      · simp [same, Option.filter_some]

end Runs

/-- A login leaves its connection as the only holder exactly when the connection was
not registered. At most one client holds the login in every run. In runs in which
every login comes from a connection that is not registered, the last one to log in
holds it, and as long as it does not leave before the others, it is the last of those
that are still there. -/
theorem single_login_holder (config : Config Bridge) :
    (∀ (world : World Bridge) (hdl : ConnHandle) (payload : Json) (userName userId : String),
      loginUser payload = .ok (userName, userId) → AllValid world →
      (LoggedInAlone hdl userName userId world (handleLogin config payload hdl world).2 ↔
        hdl ∉ world.server.clients)) ∧
    (∀ events history, (loginSystem config).Run events history → SingleHolder history.world) ∧
    (∀ events history, (loginSystem config).GuardedRun (FirstLogin config) events history →
      ∀ hdl, history.last = some hdl → HoldsLogin history.world hdl) ∧
    ∀ events history, (loginSystem config).GuardedRun
      (fun history event => FirstLogin config history event ∧ LastStays history event)
      events history → ∀ hdl, history.logins.head? = some hdl → HoldsLogin history.world hdl := by
  have nobody {history : LoginHistory Bridge} (initial : (loginSystem config).Initial history)
      (hdl : ConnHandle) : ¬ HoldsLogin history.world hdl := by
    rintro ⟨client, found, _⟩
    rw [initial.1] at found
    cases found
  have lastHolds {events : List LoginEvent} {history : LoginHistory Bridge}
      (run : (loginSystem config).GuardedRun (FirstLogin config) events history) :
      ∀ hdl, history.last = some hdl → HoldsLogin history.world hdl := by
    apply run.invariant
    · intro history initial hdl last
      rw [initial.2.1] at last
      cases last
    · exact lastHolds_step
  refine ⟨fun world hdl payload userName userId user valid => loggedInAlone_iff config user valid,
    fun events history run => ?_, fun events history run => lastHolds run,
    fun events history run hdl newest => ?_⟩
  · apply run.invariant
    · intro history initial first second one
      exact absurd one (nobody initial first)
    · exact fun single _ step => single.step step
  · have same : history.logins.head? = history.last := by
      apply run.invariant
      · intro history initial
        rw [initial.2.1, initial.2.2]
        rfl
      · exact fun newest admitted step => lastNewest_step newest admitted.2 step
    exact lastHolds (run.mono fun _ _ admitted => admitted.1) hdl (same.symm.trans newest)

section Example

def ann : TextRequest := userRequest "ann" "a"

def bob : TextRequest := userRequest "bob" "b"

/-- A server at which two users log in. -/
def twoUsersConfig : Config Unit := { Config.accepting with parse := readRequests [ann, bob] }

def noLogins : LoginHistory Unit := ⟨.initial (), none, []⟩

theorem noLogins_initial : (loginSystem twoUsersConfig).Initial noLogins := ⟨rfl, rfl, rfl⟩

def LoginHistory.login (history : LoginHistory Unit) (hdl : ConnHandle) (request : TextRequest) :
    LoginHistory Unit :=
  ⟨(handleMessage twoUsersConfig hdl request.frame history.world).2, some hdl,
    hdl :: history.logins⟩

def LoginHistory.close (history : LoginHistory Unit) (hdl : ConnHandle) : LoginHistory Unit :=
  ⟨(handleConnectionClosed twoUsersConfig hdl history.world).2, history.last.filter (· ≠ hdl),
    history.logins.filter (· ≠ hdl)⟩

theorem ann_logsIn : LogsIn twoUsersConfig ann.frame :=
  ⟨userPayload "ann" "a", ("ann", "a"),
    request_of_name (readRequests_of_mem [ann, bob] (by decide +kernel) List.mem_cons_self)
      rfl rfl rfl, rfl⟩

theorem bob_logsIn : LogsIn twoUsersConfig bob.frame :=
  ⟨userPayload "bob" "b", ("bob", "b"),
    request_of_name (readRequests_of_mem [ann, bob] (by decide +kernel)
      (.tail ann List.mem_cons_self)) rfl rfl rfl, rfl⟩

/-- A second connection logs in while the first is registered and open: it takes the login
from the first one, which is kicked. -/
theorem single_login_holder_bob :
    ⟨1⟩ ∈ (noLogins.login ⟨1⟩ ann).world.server.clients ∧
      (noLogins.login ⟨1⟩ ann).world.link ⟨1⟩ = .established ∧
      LoggedInAlone ⟨2⟩ "bob" "b" (noLogins.login ⟨1⟩ ann).world
        (handleLogin twoUsersConfig (userPayload "bob" "b") ⟨2⟩ (noLogins.login ⟨1⟩ ann).world).2 ∧
      SingleHolder ((noLogins.login ⟨1⟩ ann).login ⟨2⟩ bob).world ∧
      HoldsLogin ((noLogins.login ⟨1⟩ ann).login ⟨2⟩ bob).world ⟨2⟩ := by
  have theory := single_login_holder twoUsersConfig
  have nobody (hdl : ConnHandle) : hdl ∉ (World.initial ()).server.clients :=
    AList.notMem_empty hdl
  have clients : (noLogins.login ⟨1⟩ ann).world.server.clients.keys = [⟨1⟩] := by decide +kernel
  have linked : (noLogins.login ⟨1⟩ ann).world.link ⟨1⟩ = .established := by decide +kernel
  have valid : AllValid (noLogins.login ⟨1⟩ ann).world := by
    intro hdl member
    rw [AList.mem_keys, clients, List.mem_singleton] at member
    rw [member, linked]
    decide
  have absent : ⟨2⟩ ∉ (noLogins.login ⟨1⟩ ann).world.server.clients := by decide +kernel
  have first : (loginSystem twoUsersConfig).GuardedRun
      (fun history event => FirstLogin twoUsersConfig history event ∧ LastStays history event)
      [.message ⟨1⟩ ann.frame] (noLogins.login ⟨1⟩ ann) :=
    .step (.initial noLogins_initial)
      ⟨fun _ => ⟨nobody ⟨1⟩, fun hdl member => absurd member (nobody hdl)⟩, trivial⟩
      (.login ann_logsIn)
  have second : (loginSystem twoUsersConfig).GuardedRun
      (fun history event => FirstLogin twoUsersConfig history event ∧ LastStays history event)
      [.message ⟨1⟩ ann.frame, .message ⟨2⟩ bob.frame]
      ((noLogins.login ⟨1⟩ ann).login ⟨2⟩ bob) :=
    .step first ⟨fun _ => ⟨absent, valid⟩, trivial⟩ (.login bob_logsIn)
  refine ⟨by decide +kernel, linked, (theory.1 _ ⟨2⟩ _ "bob" "b" rfl valid).mpr absent,
    theory.2.1 _ _ second.unguarded, ?_⟩
  exact theory.2.2.2 _ _ second ⟨2⟩ rfl

/-- A client that logs in again, under another name, is kicked and logged out, and
keeps its first name: nobody holds the login. Nobody holds it either after the last
one to log in has left, although a client from before is still there. -/
theorem login_taken_from_itself :
    ¬ LoggedInAlone ⟨1⟩ "bob" "b" (noLogins.login ⟨1⟩ ann).world
        (handleLogin twoUsersConfig (userPayload "bob" "b") ⟨1⟩
          (noLogins.login ⟨1⟩ ann).world).2 ∧
      (∃ events, (loginSystem twoUsersConfig).Run events
        ((noLogins.login ⟨1⟩ ann).login ⟨1⟩ bob)) ∧
      ((noLogins.login ⟨1⟩ ann).login ⟨1⟩ bob).last = some ⟨1⟩ ∧
      ((noLogins.login ⟨1⟩ ann).login ⟨1⟩ bob).world.identities ⟨1⟩ = some ("ann", "a", false) ∧
      (((noLogins.login ⟨1⟩ ann).login ⟨1⟩ bob).world.kickedFrames ⟨1⟩).length = 1 ∧
      (∃ events, (loginSystem twoUsersConfig).Run events
        (((noLogins.login ⟨1⟩ ann).login ⟨2⟩ bob).close ⟨2⟩)) ∧
      (((noLogins.login ⟨1⟩ ann).login ⟨2⟩ bob).close ⟨2⟩).logins = [⟨1⟩] ∧
      (((noLogins.login ⟨1⟩ ann).login ⟨2⟩ bob).close ⟨2⟩).world.identities ⟨1⟩ =
        some ("ann", "a", false) := by
  have first : (loginSystem twoUsersConfig).Run [.message ⟨1⟩ ann.frame]
      (noLogins.login ⟨1⟩ ann) :=
    .step (.initial noLogins_initial) trivial (.login ann_logsIn)
  have second (hdl : ConnHandle) : (loginSystem twoUsersConfig).Run
      [.message ⟨1⟩ ann.frame, .message hdl bob.frame]
      ((noLogins.login ⟨1⟩ ann).login hdl bob) :=
    .step first trivial (.login bob_logsIn)
  refine ⟨fun alone => ?_, ⟨_, second ⟨1⟩⟩, rfl, by decide +kernel, by decide +kernel,
    ⟨_, .step (second ⟨2⟩) trivial (.closed ⟨2⟩)⟩, rfl, by decide +kernel⟩
  obtain ⟨client, found, identity⟩ := alone.entry
  have entry : (handleLogin twoUsersConfig (userPayload "bob" "b") ⟨1⟩
      (noLogins.login ⟨1⟩ ann).world).2.identities ⟨1⟩ = some ("ann", "a", false) := by
    decide +kernel
  rw [World.identities, found, Option.map_some, identity] at entry
  exact absurd entry (by decide)

end Example

end CoBridge
