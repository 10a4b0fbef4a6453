import CoBridge.Server.Effects

/-!
# What a login can do

A login logs out the registered clients, up to the first whose connection is
gone, and registers its own connection. It touches no other table, and what it
sends afterwards changes nothing.
-/

namespace CoBridge

open Library Action Table

variable {Bridge : Type}
variable {hdl : ConnHandle} {before after : Server} (userId userName : String)
  (config : Config Bridge)

/-- The clients a login logs out: those before the first whose connection is gone. -/
def World.kicked (world : World Bridge) (hdls : List ConnHandle) : List ConnHandle :=
  hdls.takeWhile fun hdl => world.link hdl ≠ .gone

/-- Log out the listed clients. -/
def Server.logOutAll (hdls : List ConnHandle) (server : Server) : Server :=
  { server with clients := server.clients.mapWithKey fun hdl client =>
      if hdl ∈ hdls then client.logOut else client }

theorem Server.logOutAll_clients (hdls : List ConnHandle) (server : Server) :
    (server.logOutAll hdls).clients = server.clients.mapWithKey fun hdl client =>
      if hdl ∈ hdls then client.logOut else client := rfl

@[simp] theorem ClientInfo.logOut_logOut (client : ClientInfo) :
    client.logOut.logOut = client.logOut := rfl

theorem Server.logOutAll_modifyClient (hdl : ConnHandle) (rest : List ConnHandle)
    (server : Server) :
    (server.modifyClient hdl ClientInfo.logOut).logOutAll rest =
      server.logOutAll (hdl :: rest) := by
  unfold Server.logOutAll Server.modifyClient Table.modify
  congr 1
  apply AList.ext
  simp only [Table.mapWithKey, List.map_map]
  apply List.map_congr_left
  rintro ⟨other, client⟩ _
  by_cases same : other = hdl
  · simp [same]
  · simp [same]

theorem Server.logOutAll_nil (server : Server) : server.logOutAll [] = server := by
  unfold Server.logOutAll
  congr 1
  apply AList.ext
  simp [Table.mapWithKey]

theorem kickClient_apply (hdl : ConnHandle) (world : World Bridge) :
    kickClient userId userName hdl world =
      if world.link hdl = .gone then (.error (.raised (.std "Bad Connection")), world)
      else (.ok (), { world.enqueue hdl (.kicked userId userName) with
        server := world.server.modifyClient hdl ClientInfo.logOut }) := by
  unfold kickClient
  by_cases gone : world.link hdl = .gone
  · rw [if_pos gone]
    exact bind_error (by rw [getConFromHdl_apply, if_pos gone])
  · rw [if_neg gone, bind_ok (by rw [getConFromHdl_apply, if_neg gone]),
      bind_ok (conSend_apply hdl _ world), modifyServer_apply, World.enqueue_server]

/-- The kick loop logs out clients up to the first whose connection is gone,
and fails there. -/
theorem kickLoop_apply (hdls : List ConnHandle) (world : World Bridge) :
    ∃ sent, Action.forEach hdls (kickClient userId userName) world =
      (if ∃ hdl ∈ hdls, world.link hdl = .gone then .error (.raised (.std "Bad Connection"))
        else .ok (),
       { world with server := world.server.logOutAll (world.kicked hdls), sent := sent }) := by
  induction hdls generalizing world with
  | nil => exact ⟨world.sent, by simp [World.kicked, Server.logOutAll_nil]⟩
  | cons hdl rest ih =>
    rw [forEach_cons, bind_apply, kickClient_apply]
    by_cases gone : world.link hdl = .gone
    · refine ⟨world.sent, ?_⟩
      simp [gone, World.kicked, Server.logOutAll_nil]
    · obtain ⟨sent, reached⟩ := ih
        { world.enqueue hdl (.kicked userId userName) with
          server := world.server.modifyClient hdl ClientInfo.logOut }
      refine ⟨sent, ?_⟩
      rw [if_neg gone]
      change Action.forEach rest (kickClient userId userName) _ = _
      rw [reached]
      have others : (∃ other ∈ hdl :: rest, world.link other = .gone) ↔
          ∃ other ∈ rest, world.link other = .gone := by simp [gone]
      have visited : world.kicked (hdl :: rest) = hdl :: world.kicked rest := by
        simp [World.kicked, gone]
      rw [visited, ← Server.logOutAll_modifyClient]
      unfold World.enqueue World.kicked
      simp only [others]
      split <;> rfl

theorem kickClients_apply (world : World Bridge) :
    ∃ sent, kickClients userId userName world =
      (if ∃ hdl ∈ world.server.clients.keys, world.link hdl = .gone then
          .error (.raised (.std "Bad Connection"))
        else .ok (),
       { world with
         server := world.server.logOutAll (world.kicked world.server.clients.keys)
         sent := sent }) := by
  unfold kickClients
  exact kickLoop_apply userId userName _ world

/-- The record of a client that just logged in. -/
def ClientInfo.fresh (endpoint userName userId : String) (hdl : ConnHandle) : ClientInfo where
  endpointName := endpoint
  userName := userName
  userId := userId
  handle := hdl

/-- The tables a login can leave: some clients logged out, the new one registered or not. -/
inductive LoginOutcome (hdl : ConnHandle) (before : Server) : Server → Prop where
  | kicked (hdls : List ConnHandle) : LoginOutcome hdl before (before.logOutAll hdls)
  | registered (hdls : List ConnHandle) (endpoint userName userId : String) :
      LoginOutcome hdl before ((before.logOutAll hdls).registerClient hdl
        (ClientInfo.fresh endpoint userName userId hdl))

theorem LoginOutcome.refl (hdl : ConnHandle) (server : Server) :
    LoginOutcome hdl server server := by
  have outcome : LoginOutcome hdl server (server.logOutAll []) := .kicked []
  rwa [Server.logOutAll_nil] at outcome

theorem LoginOutcome.tables (outcome : LoginOutcome hdl before after) :
    after = { before with clients := after.clients } := by
  cases outcome with
  | kicked hdls => rfl
  | registered hdls endpoint userName userId => rfl

/-- A record after a login: one from before, up to the login flag, or a fresh one. -/
theorem LoginOutcome.lookup (outcome : LoginOutcome hdl before after) (other : ConnHandle) :
    (∃ client login, before.clients.lookup other = some client ∧
        after.clients.lookup other = some { client with login := login }) ∨
      before.clients.lookup other = none ∧ (after.clients.lookup other = none ∨
        other = hdl ∧ ∃ endpoint userName userId,
          after.clients.lookup other = some (.fresh endpoint userName userId hdl)) := by
  have kept (hdls : List ConnHandle) {client : ClientInfo}
      (found : before.clients.lookup other = some client) :
      ∃ login, (before.logOutAll hdls).clients.lookup other =
        some { client with login := login } := by
    rw [Server.logOutAll_clients, lookup_mapWithKey, found, Option.map_some]
    by_cases member : other ∈ hdls
    · exact ⟨false, by rw [if_pos member]; rfl⟩
    · exact ⟨client.login, by rw [if_neg member]⟩
  have absent (hdls : List ConnHandle) (missing : before.clients.lookup other = none) :
      (before.logOutAll hdls).clients.lookup other = none := by
    rw [Server.logOutAll_clients, lookup_mapWithKey, missing, Option.map_none]
  cases outcome with
  | kicked hdls =>
    rcases found : before.clients.lookup other with _ | client
    · exact .inr ⟨rfl, .inl (absent hdls found)⟩
    · obtain ⟨login, after⟩ := kept hdls found
      exact .inl ⟨client, login, rfl, after⟩
  | registered hdls endpoint userName userId =>
    unfold Server.registerClient
    rw [lookup_emplace]
    by_cases same : other = hdl
    · subst same
      rw [if_pos rfl]
      rcases found : before.clients.lookup other with _ | client
      · rw [absent hdls found]
        exact .inr ⟨rfl, .inr ⟨rfl, endpoint, userName, userId, rfl⟩⟩
      · obtain ⟨login, after⟩ := kept hdls found
        rw [after]
        exact .inl ⟨client, login, rfl, rfl⟩
    · rw [if_neg same]
      rcases found : before.clients.lookup other with _ | client
      · exact .inr ⟨rfl, .inl (absent hdls found)⟩
      · obtain ⟨login, after⟩ := kept hdls found
        exact .inl ⟨client, login, rfl, after⟩

/-- A login keeps the number of clients with a property that it does not set. -/
theorem LoginOutcome.count (outcome : LoginOutcome hdl before after) {property : ClientInfo → Bool}
    (ignoresLogin : ∀ client, property (ClientInfo.logOut client) = property client)
    (fresh : ∀ endpoint userName userId,
      property (.fresh endpoint userName userId hdl) = false) :
    after.clients.count property = before.clients.count property := by
  have kicked (hdls : List ConnHandle) :
      (before.logOutAll hdls).clients.count property = before.clients.count property := by
    apply count_mapWithKey
    intro other client
    split
    · exact ignoresLogin client
    · rfl
  cases outcome with
  | kicked hdls => exact kicked hdls
  | registered hdls endpoint userName userId =>
    unfold Server.registerClient Table.emplace
    split
    · exact kicked hdls
    · next absent =>
      rw [count_insert, fresh, if_neg Bool.false_ne_true, Nat.zero_add, ← kicked hdls,
        count_eq_erase property hdl (before.logOutAll hdls).clients,
        AList.lookup_eq_none.mpr absent]
      simp

/-- Everything that sending frames leaves alone. -/
def World.unsent (world : World Bridge) :
    Server × List HandlerCall × Bridge × (ConnHandle → Link) :=
  (world.server, world.calls, world.bridge, world.link)

theorem conSend_unsent (hdl : ConnHandle) (message : ServerMessage) :
    (conSend hdl message : ServerAction Bridge Unit).Meets (.frame World.unsent) := by
  intro world
  change (world.enqueue hdl message).unsent = world.unsent
  simp [World.unsent]

theorem sendJson_unsent (hdl : ConnHandle) (message : ServerMessage)
    (dumped : Except Exception Unit) :
    (sendJson hdl message dumped : ServerAction Bridge Unit).Meets (.frame World.unsent) :=
  sendJson_meets hdl message (conSend_unsent hdl message) dumped

theorem getConFromHdl_meets (promise : Guarantee (World Bridge)) (hdl : ConnHandle) :
    (getConFromHdl hdl : ServerAction Bridge Unit).Meets promise := by
  intro world
  rw [getConFromHdl_apply]
  split
  · exact promise.refl world
  · exact promise.refl world

theorem loginReply_unsent (hdl : ConnHandle) :
    (loginReply config hdl).Meets (.frame World.unsent) := by
  apply Meets.bind
  · exact (getConFromHdl_meets _ hdl).bind fun _ => conSend_unsent hdl _
  intro _
  apply Meets.bind (meets_gets _)
  intro channels
  apply Meets.bind (sendJson_unsent hdl _ _)
  intro _
  exact (meets_gets _).bind fun services => sendJson_unsent hdl _ _

/-- Admitting a client logs the others out and registers it, unless one of the
others is gone. -/
theorem admitClient_apply (userId : String) (hdl : ConnHandle) (world : World Bridge) :
    ∃ sent, admitClient userName userId hdl world =
      if ∃ other ∈ world.server.clients.keys, world.link other = .gone then
        (.error (.raised (.std "Bad Connection")), { world with
          server := world.server.logOutAll (world.kicked world.server.clients.keys)
          sent := sent })
      else
        (.ok (), { world with
          server := (world.server.logOutAll (world.kicked world.server.clients.keys)).registerClient
            hdl (.fresh (if world.link hdl = .gone then "(unknown)" else world.remoteEndpoint hdl)
              userName userId hdl)
          sent := sent }) := by
  obtain ⟨sent, kicked⟩ := kickClients_apply userId userName world
  refine ⟨sent, ?_⟩
  unfold admitClient remoteEndpointString
  rw [gets_bind_apply]
  by_cases gone : ∃ other ∈ world.server.clients.keys, world.link other = .gone
  · rw [if_pos gone] at kicked ⊢
    exact bind_error kicked
  · rw [if_neg gone] at kicked ⊢
    rw [bind_ok kicked, modifyServer_apply]
    rfl

/-- Admitting a client changes the table of clients as `LoginOutcome` says and
nothing else. -/
theorem admitClient_outcome (userId : String) (hdl : ConnHandle) (world : World Bridge) :
    LoginOutcome hdl world.server (admitClient userName userId hdl world).2.server ∧
      (admitClient userName userId hdl world).2.calls = world.calls ∧
      (admitClient userName userId hdl world).2.bridge = world.bridge ∧
      (admitClient userName userId hdl world).2.link = world.link := by
  obtain ⟨sent, admitted⟩ := admitClient_apply userName userId hdl world
  rw [admitted]
  split
  · exact ⟨.kicked _, rfl, rfl, rfl⟩
  · exact ⟨.registered _ _ _ _, rfl, rfl, rfl⟩

/-- The user name and id a login request gives. -/
def loginUser (payload : Json) : Except Fault (String × String) := do
  let userName ← payload.atKey "username" >>= Json.getString
  let userId ← payload.atKey "userId" >>= Json.getString
  pure (userName, userId)

/-- A login reads the user, admits the client and replies. -/
theorem handleLogin_apply (payload : Json) (hdl : ConnHandle) (world : World Bridge) :
    handleLogin config payload hdl world =
      match loginUser payload with
      | .error fault => (.error fault, world)
      | .ok (userName, userId) =>
        (admitClient userName userId hdl >>= fun _ => loginReply config hdl) world := by
  unfold handleLogin loginUser
  rcases payload.atKey "username" >>= Json.getString with fault | userName
  · rfl
  rcases payload.atKey "userId" >>= Json.getString with fault | userId
  · rfl
  rfl

/-- The reply to a login changes no table. -/
theorem handleLogin_server {userName userId : String} {payload : Json}
    (user : loginUser payload = .ok (userName, userId)) (hdl : ConnHandle) (world : World Bridge) :
    (handleLogin config payload hdl world).2.server =
      (admitClient userName userId hdl world).2.server := by
  rw [handleLogin_apply, user]
  dsimp only
  rw [bind_apply]
  rcases admitClient userName userId hdl world with ⟨fault | _, reached⟩
  · rfl
  · exact congrArg Prod.fst (loginReply_unsent config hdl reached)

/-- A login changes the table of clients as `LoginOutcome` says and nothing else. -/
theorem handleLogin_outcome (payload : Json) (hdl : ConnHandle) (world : World Bridge) :
    LoginOutcome hdl world.server (handleLogin config payload hdl world).2.server ∧
      (handleLogin config payload hdl world).2.calls = world.calls ∧
      (handleLogin config payload hdl world).2.bridge = world.bridge ∧
      (handleLogin config payload hdl world).2.link = world.link := by
  rw [handleLogin_apply]
  rcases loginUser payload with fault | ⟨userName, userId⟩
  · exact ⟨.refl hdl world.server, rfl, rfl, rfl⟩
  dsimp only
  rw [bind_apply]
  have outcome := admitClient_outcome userName userId hdl world
  revert outcome
  rcases admitClient userName userId hdl world with ⟨fault | _, reached⟩
  · exact id
  · rintro ⟨server, calls, bridge, link⟩
    have replied := loginReply_unsent config hdl reached
    refine ⟨?_, (congrArg (·.2.1) replied).trans calls, (congrArg (·.2.2.1) replied).trans bridge,
      (congrArg (·.2.2.2) replied).trans link⟩
    exact Eq.mpr (congrArg (LoginOutcome hdl world.server) (congrArg (·.1) replied)) server

end CoBridge
