import CoBridge.Library.Transition
import CoBridge.Server.ParameterCalls

/-!
# The protocol of the parameter subscription handler

A name that is handed over with `unsubscribe` should have been handed over with
`subscribe` before, and not with `unsubscribe` since. Subscriptions and disconnects
keep this. A request to unsubscribe keeps it exactly when somebody is subscribed to
each of its names: names nobody asked for are handed over as well.
-/

namespace CoBridge

open Library Action

variable {Bridge : Type}
variable {world : World Bridge} {config : Config Bridge} {calls : List ParameterOperation}

/-- The operation of the last call that was given the name. -/
def lastOperation (name : String) (calls : List ParameterOperation) :
    Option ParameterSubscriptionOperation :=
  calls.foldl (fun last call => if name ∈ call.1 then some call.2 else last) none

/-- Names are unsubscribed only after they were subscribed and not unsubscribed since. -/
def Obeys (calls : List ParameterOperation) : Prop :=
  ∀ before names after, calls = before ++ (names, .unsubscribe) :: after →
    ∀ name ∈ names, lastOperation name before = some .subscribe

theorem obeys_nil : Obeys [] := by
  intro before names after split
  simp at split

theorem obeys_append (calls : List ParameterOperation) (call : ParameterOperation) :
    Obeys (calls ++ [call]) ↔ Obeys calls ∧
      (call.2 = .unsubscribe → ∀ name ∈ call.1, lastOperation name calls = some .subscribe) := by
  constructor
  · intro obeys
    constructor
    · intro before names after split
      apply obeys before names (after ++ [call])
      simp [split]
    · intro unsubscribes
      apply obeys calls call.1 []
      rw [← unsubscribes]
  · rintro ⟨obeys, added⟩ before names after split
    -- The call in question is the one that was added, or it stands before it.
    rcases List.eq_nil_or_concat after with rfl | ⟨front, last, rfl⟩
    · obtain ⟨rfl, same⟩ := List.append_inj' split rfl
      obtain rfl : call = (names, .unsubscribe) := by simpa using same
      exact added rfl
    · have shifted : calls ++ [call] = (before ++ (names, .unsubscribe) :: front) ++ [last] := by
        simpa using split
      exact obeys before names front (List.append_inj' shifted rfl).1

theorem lastOperation_handed (name : String) (calls : List ParameterOperation)
    (names : List String) (op : ParameterSubscriptionOperation) :
    lastOperation name (calls ++ handed names op) =
      if name ∈ names then some op else lastOperation name calls := by
  unfold handed
  split
  · next none => simp [none]
  · simp [lastOperation]

theorem obeys_unsubscribed_iff (obeys : Obeys calls) (names : List String) :
    Obeys (calls ++ handed names .unsubscribe) ↔
      ∀ name ∈ names, lastOperation name calls = some .subscribe := by
  unfold handed
  split
  · next none => simp [none, obeys]
  · rw [obeys_append, and_iff_right obeys]
    exact ⟨fun added => added rfl, fun added _ => added⟩

theorem Server.isParameterSubscribed_iff_exists (server : Server) (name : String) :
    server.isParameterSubscribed name = true ↔ ∃ hdl, name ∈ server.paramSubscriptions hdl := by
  rw [Server.isParameterSubscribed_iff]
  constructor
  · rintro ⟨hdl, names, found, member⟩
    exact ⟨hdl, by simpa [Server.paramSubscriptions, found] using member⟩
  · rintro ⟨hdl, member⟩
    rcases found : server.clientParamSubscriptions.lookup hdl with _ | names
    · simp [Server.paramSubscriptions, found] at member
    · exact ⟨hdl, names, found, by simpa [Server.paramSubscriptions, found] using member⟩

/-- The record of calls obeys the protocol, and a name was last subscribed exactly
when somebody is subscribed to it. -/
structure ParametersTracked (world : World Bridge) : Prop where
  obeys : Obeys world.parameterCalls
  last : ∀ name, lastOperation name world.parameterCalls = some .subscribe ↔
    world.server.isParameterSubscribed name = true

theorem Server.isParameterSubscribed_congr {first second : Server}
    (same : second.clientParamSubscriptions = first.clientParamSubscriptions) (name : String) :
    second.isParameterSubscribed name = first.isParameterSubscribed name := by
  unfold Server.isParameterSubscribed
  rw [same]

theorem ParametersTracked.of_view {next : World Bridge} (tracked : ParametersTracked world)
    (view : next.parameterView = world.parameterView) : ParametersTracked next := by
  have calls : next.parameterCalls = world.parameterCalls := congrArg Prod.snd view
  constructor
  · rw [calls]
    exact tracked.obeys
  · intro name
    rw [calls, tracked.last, Server.isParameterSubscribed_congr (congrArg Prod.fst view)]

/-- Names that nobody was subscribed to are handed over when they are added. -/
theorem ParametersTracked.add {next : World Bridge} (tracked : ParametersTracked world)
    {names : List String} (subscribed : ∀ name, next.server.isParameterSubscribed name = true ↔
      name ∈ names ∨ world.server.isParameterSubscribed name = true) (calls : next.parameterCalls =
      world.parameterCalls ++ handed (world.server.unsubscribedParams names) .subscribe) :
    ParametersTracked next := by
  constructor
  · rw [calls]
    unfold handed
    split
    · simpa using tracked.obeys
    · exact (obeys_append _ _).mpr ⟨tracked.obeys, fun unsubscribes => nomatch unsubscribes⟩
  · intro name
    rw [calls, lastOperation_handed, subscribed]
    simp only [Server.mem_unsubscribedParams]
    by_cases before : world.server.isParameterSubscribed name = true
    · simp [before, (tracked.last name).mpr before]
    · have neverLast := mt (tracked.last name).mp before
      by_cases listed : name ∈ names
      · simp [listed, before]
      · simp [listed, before, neverLast]

section Remove

variable {world next : World Bridge} {names : List String}

/-- Handing names over that nobody is subscribed to any more keeps the protocol
exactly when somebody was subscribed to each of them. -/
theorem ParametersTracked.obeys_remove_iff (tracked : ParametersTracked world)
    (calls : next.parameterCalls =
      world.parameterCalls ++ handed (next.server.unsubscribedParams names) .unsubscribe) :
    Obeys next.parameterCalls ↔ ∀ name ∈ next.server.unsubscribedParams names,
      world.server.isParameterSubscribed name = true := by
  rw [calls, obeys_unsubscribed_iff tracked.obeys]
  exact forall₂_congr fun name _ => tracked.last name

theorem ParametersTracked.remove (tracked : ParametersTracked world)
    (calls : next.parameterCalls =
      world.parameterCalls ++ handed (next.server.unsubscribedParams names) .unsubscribe)
    (fewer : ∀ name, next.server.isParameterSubscribed name = true →
      world.server.isParameterSubscribed name = true)
    (dropped : ∀ name, world.server.isParameterSubscribed name = true →
      next.server.isParameterSubscribed name = false → name ∈ names)
    (known : ∀ name ∈ next.server.unsubscribedParams names,
      world.server.isParameterSubscribed name = true) : ParametersTracked next := by
  constructor
  · exact (tracked.obeys_remove_iff calls).mpr known
  · intro name
    rw [calls, lastOperation_handed]
    by_cases after : next.server.isParameterSubscribed name = true
    · have kept : name ∉ next.server.unsubscribedParams names := by
        simp [Server.mem_unsubscribedParams, after]
      rw [if_neg kept, tracked.last]
      exact iff_of_true (fewer name after) after
    · rw [iff_false_right after]
      split
      · simp
      · next kept =>
        rw [tracked.last]
        intro before
        have gone : next.server.isParameterSubscribed name = false := by simpa using after
        exact kept ((Server.mem_unsubscribedParams _ _ _).mpr ⟨dropped name before gone, gone⟩)

end Remove

/-- Requests about parameter updates, changes of a connection, and anything that
happens inside the bridge. -/
inductive ParameterEvent (Bridge : Type) where
  | login (payload : Json) (hdl : ConnHandle)
  | subscribe (payload : Json) (hdl : ConnHandle)
  | unsubscribe (payload : Json) (hdl : ConnHandle)
  | closed (hdl : ConnHandle)
  | transport (hdl : ConnHandle) (link : Link)
  | bridge (change : Bridge → Bridge)

def parameterEventStep (config : Config Bridge) (world : World Bridge) :
    ParameterEvent Bridge → World Bridge
  | .login payload hdl => (handleLogin config payload hdl world).2
  | .subscribe payload hdl => (handleSubscribeParameterUpdates config payload hdl world).2
  | .unsubscribe payload hdl => (handleUnsubscribeParameterUpdates config payload hdl world).2
  | .closed hdl => (handleConnectionClosed config hdl world).2
  | .transport hdl link => world.setLink hdl link
  | .bridge change => { world with bridge := change world.bridge }

/-- Runs from a server that was just constructed, over any bridge and connections. -/
def parameterProtocol (config : Config Bridge) :
    TransitionSystem (World Bridge) (ParameterEvent Bridge) where
  Initial world := world.server = .initial ∧ world.calls = []
  Step world event next := next = parameterEventStep config world event

/-- Somebody is subscribed to every name of a request to unsubscribe. -/
def KnownNames (world : World Bridge) : ParameterEvent Bridge → Prop
  | .unsubscribe payload _ => ∀ names, parameterNameSet payload = .ok names →
      ∀ name ∈ names, world.server.isParameterSubscribed name = true
  | _ => True

section Steps

variable {config : Config Bridge} {world : World Bridge}
variable (server : Server) (hdl : ConnHandle)

theorem isParameterSubscribed_add (names : List String) (name : String) :
    (server.addParamSubscriptions hdl names).isParameterSubscribed name = true ↔
      name ∈ names ∨ server.isParameterSubscribed name = true := by
  simp only [Server.isParameterSubscribed_iff_exists, Server.paramSubscriptions_add]
  constructor
  · rintro ⟨other, member⟩
    split at member
    · exact ((KeySet.mem_insertAll _ _ _).mp member).imp_right fun before => ⟨hdl, before⟩
    · exact .inr ⟨other, member⟩
  · rintro (listed | ⟨other, member⟩)
    · exact ⟨hdl, by simp [listed]⟩
    · by_cases same : other = hdl
      · subst same
        exact ⟨other, by simp [member]⟩
      · exact ⟨other, by simpa [same] using member⟩

/-- A connection that lost some names: who else is subscribed stays subscribed. -/
theorem isParameterSubscribed_drop {before after : Server} {hdl : ConnHandle} {names : List String}
    (dropped : ∀ other name, name ∈ after.paramSubscriptions other ↔
      name ∈ before.paramSubscriptions other ∧ ¬(other = hdl ∧ name ∈ names)) (name : String) :
    (after.isParameterSubscribed name = true → before.isParameterSubscribed name = true) ∧
      (before.isParameterSubscribed name = true → after.isParameterSubscribed name = false →
        name ∈ names) := by
  rw [← Bool.not_eq_true]
  simp only [Server.isParameterSubscribed_iff_exists, dropped]
  constructor
  · exact fun ⟨other, member, _⟩ => ⟨other, member⟩
  · rintro ⟨other, member⟩ nobody
    by_contra unlisted
    exact nobody ⟨other, member, fun listed => unlisted listed.2⟩

theorem paramSubscriptions_removed (names : List String) (other : ConnHandle) (name : String) :
    name ∈ (server.removeParamSubscriptions hdl names).paramSubscriptions other ↔
      name ∈ server.paramSubscriptions other ∧ ¬(other = hdl ∧ name ∈ names) := by
  rw [Server.paramSubscriptions_remove]
  by_cases same : other = hdl
  · subst same
    simp [and_comm]
  · simp [same]

theorem paramSubscriptions_erased (other : ConnHandle) (name : String) :
    name ∈ (server.eraseParamSubscriptions hdl).paramSubscriptions other ↔
      name ∈ server.paramSubscriptions other ∧
        ¬(other = hdl ∧ name ∈ (server.paramSubscriptions hdl).keys) := by
  unfold Server.paramSubscriptions Server.eraseParamSubscriptions
  by_cases same : other = hdl
  · subst same
    simp [← AList.mem_keys]
  · simp [same]

/-- The view determines who is subscribed and what is handed over. -/
theorem unsubscribedParams_congr {first second : Server}
    (same : second.clientParamSubscriptions = first.clientParamSubscriptions)
    (names : List String) : second.unsubscribedParams names = first.unsubscribedParams names := by
  simp only [Server.unsubscribedParams, Server.isParameterSubscribed_congr same]

theorem tracked_subscribe (registered : config.handlers.parameterSubscriptionHandler.isSome)
    (tracked : ParametersTracked world) (payload : Json) (hdl : ConnHandle) :
    ParametersTracked (handleSubscribeParameterUpdates config payload hdl world).2 := by
  rcases parsed : parameterNameSet payload with fault | names
  · unfold handleSubscribeParameterUpdates
    rw [parsed]
    exact tracked
  · have view := handleSubscribeParameterUpdates_parameterView registered parsed hdl world
    have subscribed (name : String) : (handleSubscribeParameterUpdates config payload hdl
        world).2.server.isParameterSubscribed name = true ↔
          name ∈ names.keys ∨ world.server.isParameterSubscribed name = true := by
      rw [Server.isParameterSubscribed_congr (congrArg Prod.fst view)]
      exact isParameterSubscribed_add world.server hdl names.keys name
    exact tracked.add subscribed (congrArg Prod.snd view)

/-- A request to unsubscribe obeys the protocol exactly when its names are known,
and then the record still tells who is subscribed. -/
theorem tracked_unsubscribe (registered : config.handlers.parameterSubscriptionHandler.isSome)
    (tracked : ParametersTracked world) (payload : Json) (hdl : ConnHandle) :
    (Obeys (handleUnsubscribeParameterUpdates config payload hdl world).2.parameterCalls ↔
      KnownNames world (.unsubscribe payload hdl)) ∧
    (KnownNames world (.unsubscribe payload hdl) →
      ParametersTracked (handleUnsubscribeParameterUpdates config payload hdl world).2) := by
  rcases parsed : parameterNameSet payload with fault | names
  · have known : KnownNames world (.unsubscribe payload hdl) := by
      intro names accepted
      rw [parsed] at accepted
      cases accepted
    unfold handleUnsubscribeParameterUpdates
    rw [parsed]
    exact ⟨iff_of_true tracked.obeys known, fun _ => tracked⟩
  · have view := handleUnsubscribeParameterUpdates_parameterView registered parsed hdl world
    have table := congrArg Prod.fst view
    have calls := congrArg Prod.snd view
    rw [← unsubscribedParams_congr table] at calls
    have drops :=
      isParameterSubscribed_drop (paramSubscriptions_removed world.server hdl names.keys)
    have same := Server.isParameterSubscribed_congr table
    have known : (∀ name ∈ (handleUnsubscribeParameterUpdates config payload hdl
        world).2.server.unsubscribedParams names.keys,
          world.server.isParameterSubscribed name = true) ↔
        KnownNames world (.unsubscribe payload hdl) := by
      constructor
      · intro handedOver others accepted name member
        rw [parsed] at accepted
        cases accepted
        by_contra unknown
        -- Nobody was subscribed to the name, so nobody is now, and it is handed over.
        apply unknown (handedOver name
          ((Server.mem_unsubscribedParams _ _ _).mpr ⟨AList.mem_keys.mp member, ?_⟩))
        rw [same, ← Bool.not_eq_true]
        exact mt (drops name).1 unknown
      · intro known name member
        exact known names parsed name
          (AList.mem_keys.mpr ((Server.mem_unsubscribedParams _ _ _).mp member).1)
    refine ⟨(tracked.obeys_remove_iff calls).trans known, fun allKnown => ?_⟩
    apply tracked.remove calls _ _ (known.mpr allKnown)
    · intro name
      rw [same]
      exact (drops name).1
    · intro name
      rw [same]
      exact (drops name).2

theorem tracked_withdrawParameters
    (registered : config.handlers.parameterSubscriptionHandler.isSome)
    (tracked : ParametersTracked world)
    (hdl : ConnHandle) : ParametersTracked (withdrawParameters config hdl world).2 := by
  have view := withdrawParameters_parameterView registered hdl world
  have table := congrArg Prod.fst view
  have calls := congrArg Prod.snd view
  rw [← unsubscribedParams_congr table] at calls
  have drops := isParameterSubscribed_drop (paramSubscriptions_erased world.server hdl)
  have same := Server.isParameterSubscribed_congr table
  apply tracked.remove calls
  · intro name
    rw [same]
    exact (drops name).1
  · intro name
    rw [same]
    exact (drops name).2
  · intro name member
    have own := ((Server.mem_unsubscribedParams _ _ _).mp member).1
    exact (world.server.isParameterSubscribed_iff_exists name).mpr ⟨hdl, AList.mem_keys.mpr own⟩

theorem withdrawChannels_parameterView (client : ClientInfo) :
    (withdrawChannels config hdl client).Meets (.frame World.parameterView) :=
  withdrawChannels_meets (fun _ _ => callHandler_parameterView rfl)
    (fun _ _ => callHandler_parameterView rfl) fun _ => rfl

theorem releaseConnectionGraph_parameterView :
    (releaseConnectionGraph config).Meets (.frame World.parameterView) :=
  releaseConnectionGraph_meets (fun _ _ => rfl) (callHandler_parameterView rfl)

theorem handleConnectionClosed_parameterView (world : World Bridge) :
    (handleConnectionClosed config hdl world).2.parameterView = world.parameterView ∨
      ∃ reached : World Bridge, reached.parameterView = world.parameterView ∧
        (handleConnectionClosed config hdl world).2.parameterView =
          (withdrawParameters config hdl reached).2.parameterView :=
  handleConnectionClosed_cases (.frame World.parameterView) world (fun _ => rfl)
    (fun client => withdrawChannels_parameterView hdl client) releaseConnectionGraph_parameterView

theorem handleLogin_parameterView (payload : Json) (hdl : ConnHandle) (world : World Bridge) :
    (handleLogin config payload hdl world).2.parameterView = world.parameterView := by
  obtain ⟨outcome, calls, _, _⟩ := handleLogin_outcome config payload hdl world
  refine Prod.ext ?_ ?_
  · change (handleLogin config payload hdl world).2.server.clientParamSubscriptions = _
    rw [outcome.tables]
    rfl
  · change List.filterMap _ (handleLogin config payload hdl world).2.calls = _
    rw [calls]
    rfl

/-- From a tracked world, a step obeys the protocol exactly when its names are known. -/
theorem tracked_step (registered : config.handlers.parameterSubscriptionHandler.isSome)
    (tracked : ParametersTracked world) (event : ParameterEvent Bridge) :
    (Obeys (parameterEventStep config world event).parameterCalls ↔ KnownNames world event) ∧
      (KnownNames world event → ParametersTracked (parameterEventStep config world event)) := by
  have always {next : World Bridge} (nextTracked : ParametersTracked next) :
      (Obeys next.parameterCalls ↔ True) ∧ (True → ParametersTracked next) :=
    ⟨iff_of_true nextTracked.obeys trivial, fun _ => nextTracked⟩
  cases event with
  | login payload hdl =>
    exact always (tracked.of_view (handleLogin_parameterView payload hdl world))
  | subscribe payload hdl => exact always (tracked_subscribe registered tracked payload hdl)
  | unsubscribe payload hdl => exact tracked_unsubscribe registered tracked payload hdl
  | closed hdl =>
    refine always ?_
    rcases handleConnectionClosed_parameterView hdl world with kept | ⟨reached, before, after⟩
    · exact tracked.of_view kept
    · exact (tracked_withdrawParameters registered (tracked.of_view before) hdl).of_view after
  | transport hdl link => exact always (tracked.of_view rfl)
  | bridge change => exact always (tracked.of_view rfl)

/-- Without a handler nothing is handed over. -/
theorem parameterCalls_unregistered (missing : config.handlers.parameterSubscriptionHandler = none)
    (event : ParameterEvent Bridge) :
    (parameterEventStep config world event).parameterCalls = world.parameterCalls := by
  cases event with
  | login payload hdl => exact congrArg Prod.snd (handleLogin_parameterView payload hdl world)
  | subscribe payload hdl =>
    change (handleSubscribeParameterUpdates config payload hdl world).2.parameterCalls = _
    unfold handleSubscribeParameterUpdates
    rcases parameterNameSet payload with fault | names
    · rfl
    · rw [ofExcept_ok_bind_apply, gets_bind_apply, modifyServer_bind_apply]
      split
      · exact congrArg Prod.snd (callHandler_unregistered missing _)
      · rfl
  | unsubscribe payload hdl =>
    change (handleUnsubscribeParameterUpdates config payload hdl world).2.parameterCalls = _
    unfold handleUnsubscribeParameterUpdates
    rcases parameterNameSet payload with fault | names
    · rfl
    · rw [ofExcept_ok_bind_apply, modifyServer_bind_apply,
        unsubscribeParamsWithoutSubscriptions_unregistered missing]
      rfl
  | closed hdl =>
    rcases handleConnectionClosed_parameterView hdl world with kept | ⟨reached, before, after⟩
    · exact congrArg Prod.snd kept
    · have unchanged : (withdrawParameters config hdl reached).2.parameterCalls =
          reached.parameterCalls := by
        unfold withdrawParameters
        rw [gets_bind_apply, modifyServer_bind_apply,
          unsubscribeParamsWithoutSubscriptions_unregistered missing]
        rfl
      exact (congrArg Prod.snd after).trans (unchanged.trans (congrArg Prod.snd before))
  | transport hdl link => rfl
  | bridge change => rfl

end Steps

theorem tracked_initial (server : world.server = .initial) (calls : world.calls = []) :
    ParametersTracked world := by
  have none : world.parameterCalls = [] := by
    unfold World.parameterCalls
    rw [calls]
    rfl
  constructor
  · rw [none]
    exact obeys_nil
  · intro name
    rw [none, server]
    exact iff_of_false (by simp [lastOperation])
      (by simp [Server.isParameterSubscribed_iff, Server.initial])

/-- With a handler, a run of known names is tracked. -/
theorem tracked_run (registered : config.handlers.parameterSubscriptionHandler.isSome)
    {events : List (ParameterEvent Bridge)} {world : World Bridge}
    (run : (parameterProtocol config).GuardedRun KnownNames events world) :
    ParametersTracked world := by
  apply run.invariant
  · exact fun world initial => tracked_initial initial.1 initial.2
  · rintro world event next tracked known rfl
    exact (tracked_step registered tracked event).2 known

/-- Without one, no run hands anything over. -/
theorem parameterCalls_eq_nil (missing : config.handlers.parameterSubscriptionHandler = none)
    {guard : World Bridge → ParameterEvent Bridge → Prop} {events : List (ParameterEvent Bridge)}
    {world : World Bridge} (run : (parameterProtocol config).GuardedRun guard events world) :
    world.parameterCalls = [] := by
  induction run with
  | initial valid =>
    unfold World.parameterCalls
    rw [valid.2]
    rfl
  | step _ _ transition ih =>
    rw [transition, parameterCalls_unregistered missing]
    exact ih

end CoBridge
