import CoBridge.Properties.BatchRequests

/-!
# Subscribe requests as batches

A subscribe request compares its entries with the subscriptions there were when it
began. It stops at an entry the bridge refuses, and records an id twice that it lists
for two channels.
-/

namespace CoBridge.Ros2

open Library Table

variable {offer : Offer} {start view next : ClientView}

/-- The five maps of a connection, as maps. -/
@[ext] structure ClientMaps where
  subscriptionsByChannel : ChannelId → Option SubscriptionId
  advertisedChannels : ClientChannelId → Option Unit
  clientChannels : Option (ClientChannelId → Option ClientAdvertisement)
  subscriptions : ChannelId → Option TopicAndDatatype
  clientAdvertisedTopics : Option (ClientChannelId → Option TopicAndDatatype)

def ClientView.maps (view : ClientView) : ClientMaps where
  subscriptionsByChannel channelId := view.subscriptionsByChannel.lookup channelId
  advertisedChannels channelId := view.advertisedChannels.lookup channelId
  clientChannels := view.clientChannels.map fun publications channelId =>
    publications.lookup channelId
  subscriptions := view.subscriptions
  clientAdvertisedTopics := view.clientAdvertisedTopics.map fun publishers channelId =>
    publishers.lookup channelId

/-- The id is the one of a subscription. -/
def InUse (subscriptions : Table ChannelId SubscriptionId) (subId : SubscriptionId) : Prop :=
  ∃ channelId, subscriptions.lookup channelId = some subId

theorem findSubscription_isSome_iff (subscriptions : Table ChannelId SubscriptionId)
    (subId : SubscriptionId) :
    (findSubscriptionBySubId subscriptions subId).isSome ↔ InUse subscriptions subId := by
  rw [Option.isSome_iff_ne_none, Ne, findSubscriptionBySubId_eq_none]
  push Not
  rfl

theorem lookup_of_findSubscription {subscriptions : Table ChannelId SubscriptionId}
    {subId : SubscriptionId} {channelId : ChannelId}
    (found : findSubscriptionBySubId subscriptions subId = some channelId) :
    subscriptions.lookup channelId = some subId := by
  obtain ⟨⟨channel, stored⟩, here, rfl⟩ := Option.map_eq_some_iff.mp found
  have same : stored = subId := by simpa using List.find?_some here
  rw [← same]
  exact AList.mem_lookup_iff.mpr (List.mem_of_find?_eq_some here)

section Subscribe

variable {snapshot : Table ChannelId SubscriptionId} {entry : SubscriptionId × ChannelId}

/-- An entry that is handed to the bridge: its id was not in use and its channel is there. -/
def Considered (offer : Offer) (snapshot : Table ChannelId SubscriptionId)
    (entry : SubscriptionId × ChannelId) : Prop :=
  ¬ InUse snapshot entry.1 ∧ entry.2 ∈ offer.channels

theorem subscribeDecision_of_not_considered (ignored : ¬ Considered offer snapshot entry) :
    subscribeDecision offer snapshot entry view = .pass := by
  apply if_pos
  rw [findSubscription_isSome_iff]
  tauto

theorem subscribeDecision_of_considered (considered : Considered offer snapshot entry) :
    subscribeDecision offer snapshot entry view =
      if (view.subscriptions entry.2).isSome then .refuse
      else match grantedTopic offer.advertisedTopics offer.environment entry.2 with
        | none => .refuse
        | some topic => .take (view.subscribe entry topic) := by
  apply if_neg
  rw [findSubscription_isSome_iff]
  unfold Considered at considered
  tauto

theorem subscribeDecision_pass_iff :
    subscribeDecision offer snapshot entry view = .pass ↔ ¬ Considered offer snapshot entry := by
  refine ⟨fun passed considered => ?_, subscribeDecision_of_not_considered⟩
  rw [subscribeDecision_of_considered considered] at passed
  split at passed
  · cases passed
  · split at passed <;> cases passed

theorem subscribeDecision_take_iff :
    subscribeDecision offer snapshot entry view = .take next ↔
      Considered offer snapshot entry ∧ view.subscriptions entry.2 = none ∧
        ∃ topic, grantedTopic offer.advertisedTopics offer.environment entry.2 = some topic ∧
          next = view.subscribe entry topic := by
  by_cases considered : Considered offer snapshot entry
  · rw [subscribeDecision_of_considered considered]
    cases subscribed : view.subscriptions entry.2 with
    | some topic => simp
    | none =>
      cases granted : grantedTopic offer.advertisedTopics offer.environment entry.2 with
      | none => simp
      | some topic => simp [considered, eq_comm]
  · rw [subscribeDecision_of_not_considered considered]
    simp [considered]

theorem subscribeDecision_refuse_iff :
    subscribeDecision offer snapshot entry view = .refuse ↔
      Considered offer snapshot entry ∧ (view.subscriptions entry.2 ≠ none ∨
        grantedTopic offer.advertisedTopics offer.environment entry.2 = none) := by
  by_cases considered : Considered offer snapshot entry
  · rw [subscribeDecision_of_considered considered]
    cases subscribed : view.subscriptions entry.2 with
    | some topic => simp [considered]
    | none =>
      cases granted : grantedTopic offer.advertisedTopics offer.environment entry.2 with
      | none => simp [considered]
      | some topic => simp
  · rw [subscribeDecision_of_not_considered considered]
    simp [considered]

/-- Both layers have the subscriptions of the snapshot, and the bridge has all of the server. -/
structure SubscribeValid (snapshot : Table ChannelId SubscriptionId) (view : ClientView) :
    Prop where
  kept : ∀ channelId subId, snapshot.lookup channelId = some subId →
    view.subscriptionsByChannel.lookup channelId = some subId
  subscribed : ∀ channelId ∈ view.subscriptionsByChannel, view.subscriptions channelId ≠ none

theorem SubscribeValid.absent (valid : SubscribeValid snapshot view) {channelId : ChannelId}
    (unsubscribed : view.subscriptions channelId = none) :
    view.subscriptionsByChannel.lookup channelId = none := by
  rw [AList.lookup_eq_none]
  exact fun member => valid.subscribed channelId member unsubscribed

variable {channelId : ChannelId} {topic : TopicAndDatatype}

/-- What is recorded stays recorded. -/
theorem lookup_subscribe {subId : SubscriptionId}
    (recorded : view.subscriptionsByChannel.lookup channelId = some subId) :
    (view.subscribe entry topic).subscriptionsByChannel.lookup channelId = some subId := by
  unfold ClientView.subscribe
  rw [lookup_emplace]
  split
  · next same =>
    subst same
    rw [recorded, Option.getD_some]
  · exact recorded

theorem lookup_subscribe_of_absent (absent : view.subscriptionsByChannel.lookup entry.2 = none) :
    (view.subscribe entry topic).subscriptionsByChannel.lookup channelId =
      if channelId = entry.2 then some entry.1
      else view.subscriptionsByChannel.lookup channelId := by
  unfold ClientView.subscribe
  rw [lookup_emplace, absent, Option.getD_none]

theorem SubscribeValid.subscribe (valid : SubscribeValid snapshot view)
    (entry : SubscriptionId × ChannelId) (topic : TopicAndDatatype) :
    SubscribeValid snapshot (view.subscribe entry topic) where
  kept channelId subId recorded := lookup_subscribe (valid.kept channelId subId recorded)
  subscribed channelId member := by
    change Function.update view.subscriptions entry.2 (some topic) channelId ≠ none
    rw [Function.update_apply]
    split
    · exact Option.some_ne_none topic
    · next other =>
      rcases (mem_emplace _ _ _ _).mp member with same | recorded
      · exact absurd same other
      · exact valid.subscribed channelId recorded

/-- A considered entry of the snapshot is considered alone unless its id came into use. -/
theorem Considered.later (considered : Considered offer snapshot entry) :
    Considered offer view.subscriptionsByChannel entry ↔
      ¬ InUse view.subscriptionsByChannel entry.1 :=
  and_iff_left considered.2

theorem SubscribeValid.considered (valid : SubscribeValid snapshot view)
    (considered : Considered offer view.subscriptionsByChannel entry) :
    Considered offer snapshot entry := by
  refine ⟨?_, considered.2⟩
  rintro ⟨channelId, recorded⟩
  exact considered.1 ⟨channelId, valid.kept channelId entry.1 recorded⟩

/-- An id that a batch records twice is recorded once by the sequence. -/
theorem subscribe_diverges (valid : SubscribeValid snapshot view)
    (taken : (subscribePolicy offer snapshot).inBatch entry view = .take next)
    (differs : (subscribePolicy offer snapshot).alone entry view ≠ .take next)
    (rest : List (SubscriptionId × ChannelId)) :
    ((subscribePolicy offer snapshot).runBatch rest next).maps ≠
      ((subscribePolicy offer snapshot).runEach rest
        ((subscribePolicy offer snapshot).serveAlone entry view)).maps := by
  obtain ⟨considered, unsubscribed, topic, granted, rfl⟩ := subscribeDecision_take_iff.mp taken
  have absent := valid.absent unsubscribed
  have used : InUse view.subscriptionsByChannel entry.1 := by
    by_contra unused
    exact differs (subscribeDecision_take_iff.mpr
      ⟨considered.later.mpr unused, unsubscribed, topic, granted, rfl⟩)
  have skipped : (subscribePolicy offer snapshot).serveAlone entry view = view := by
    have passes : (subscribePolicy offer snapshot).alone entry view = .pass :=
      subscribeDecision_pass_iff.mpr fun later => later.1 used
    rw [BatchPolicy.serveAlone, passes]
  rw [skipped]
  -- The batch has the id on the channel of the entry, the sequence never gets it there.
  have recorded : ((subscribePolicy offer snapshot).runBatch rest
      (view.subscribe entry topic)).subscriptionsByChannel.lookup entry.2 = some entry.1 := by
    refine BatchPolicy.runBatch_invariant _ (fun view : ClientView =>
      view.subscriptionsByChannel.lookup entry.2 = some entry.1) ?_ id rest ?_
    · intro other view next holds taken
      obtain ⟨_, _, _, _, rfl⟩ := subscribeDecision_take_iff.mp taken
      exact lookup_subscribe holds
    · rw [lookup_subscribe_of_absent absent, if_pos rfl]
  have missing : InUse ((subscribePolicy offer snapshot).runEach rest view).subscriptionsByChannel
      entry.1 ∧ ((subscribePolicy offer snapshot).runEach rest
        view).subscriptionsByChannel.lookup entry.2 ≠ some entry.1 := by
    refine BatchPolicy.runEach_invariant _ (fun view : ClientView =>
      InUse view.subscriptionsByChannel entry.1 ∧
        view.subscriptionsByChannel.lookup entry.2 ≠ some entry.1) ?_ id rest ?_
    · rintro other view next ⟨⟨channelId, held⟩, elsewhere⟩ taken
      obtain ⟨considered, _, _, _, rfl⟩ := subscribeDecision_take_iff.mp taken
      refine ⟨⟨channelId, lookup_subscribe held⟩, ?_⟩
      unfold ClientView.subscribe
      rw [lookup_emplace]
      split
      · intro same
        cases here : view.subscriptionsByChannel.lookup other.2 with
        | none =>
          rw [here, Option.getD_none, Option.some.injEq] at same
          exact considered.1 ⟨channelId, by rw [held, same]⟩
        | some subId =>
          rw [here, Option.getD_some] at same
          next channel => exact elsewhere (by rw [channel, here, same])
      · exact elsewhere
    · refine ⟨used, ?_⟩
      rw [absent]
      rintro ⟨⟩
  intro same
  have lookups := congrFun (congrArg ClientMaps.subscriptionsByChannel same) entry.2
  exact missing.2 (lookups.symm.trans recorded)

theorem subscribe_comparable (offer : Offer) (snapshot : Table ChannelId SubscriptionId) :
    (subscribePolicy offer snapshot).Comparable (SubscribeValid snapshot) ClientView.maps
      (fun channelId maps => maps.subscriptions channelId ≠ none) where
  passes valid passed := by
    apply subscribeDecision_pass_iff.mpr
    exact fun considered => subscribeDecision_pass_iff.mp passed (valid.considered considered)
  keeps valid taken _ := by
    obtain ⟨_, _, topic, _, rfl⟩ := subscribeDecision_take_iff.mp taken
    exact valid.subscribe _ topic
  diverges := subscribe_diverges
  stops _ _ := .inr rfl
  settled _ _ _ := rfl
  grows {channelId} entry view held := by
    refine BatchPolicy.serveAlone_invariant _ (fun view : ClientView =>
      view.subscriptions channelId ≠ none) ?_ id entry held
    intro entry view next held taken
    obtain ⟨_, _, topic, _, rfl⟩ := subscribeDecision_take_iff.mp taken
    change Function.update view.subscriptions entry.2 (some topic) _ ≠ none
    rw [Function.update_apply]
    split
    · exact Option.some_ne_none topic
    · exact held
  gains {entry view next} _ taken := by
    obtain ⟨_, unsubscribed, topic, _, rfl⟩ := subscribeDecision_take_iff.mp taken
    refine ⟨entry.2, fun held => held unsubscribed, ?_⟩
    change Function.update view.subscriptions entry.2 (some topic) entry.2 ≠ none
    rw [Function.update_self]
    exact Option.some_ne_none topic

/-- An entry that a request of its own is granted. -/
def Granted (offer : Offer) (start : ClientView) (entry : SubscriptionId × ChannelId) : Prop :=
  Considered offer start.subscriptionsByChannel entry ∧ start.subscriptions entry.2 = none ∧
    grantedTopic offer.advertisedTopics offer.environment entry.2 ≠ none

/-- An entry of a subscribe request at which it stops: the client is subscribed to the
channel, maybe by an earlier entry, or the bridge cannot subscribe to it. -/
def SubscribeRefused (offer : Offer) (start : ClientView)
    (before : List (SubscriptionId × ChannelId)) (entry : SubscriptionId × ChannelId) : Prop :=
  Considered offer start.subscriptionsByChannel entry ∧
    (¬ Granted offer start entry ∨
      ∃ earlier ∈ before, Granted offer start earlier ∧ earlier.2 = entry.2)

/-- An entry that gets the id of an earlier one recorded for another channel. -/
def SubscribeClash (offer : Offer) (start : ClientView)
    (before : List (SubscriptionId × ChannelId)) (entry : SubscriptionId × ChannelId) : Prop :=
  Granted offer start entry ∧
    (∀ earlier ∈ before, Granted offer start earlier → earlier.2 ≠ entry.2) ∧
    ∃ earlier ∈ before, Granted offer start earlier ∧ earlier.1 = entry.1

/-- An entry that a request of its own is granted after the earlier ones. -/
def SubscribeMissed (offer : Offer) (start : ClientView)
    (before : List (SubscriptionId × ChannelId)) (entry : SubscriptionId × ChannelId) : Prop :=
  Granted offer start entry ∧
    ∀ earlier ∈ before, Granted offer start earlier → earlier.1 ≠ entry.1 ∧ earlier.2 ≠ entry.2

/-- The entries that were granted are recorded. -/
structure SubscribeFollows (offer : Offer) (start : ClientView)
    (before : List (SubscriptionId × ChannelId)) (view : ClientView) : Prop where
  valid : SubscribeValid start.subscriptionsByChannel view
  inUse : ∀ subId, InUse view.subscriptionsByChannel subId ↔
    InUse start.subscriptionsByChannel subId ∨
      ∃ earlier ∈ before, Granted offer start earlier ∧ earlier.1 = subId
  unsubscribed : ∀ channelId, view.subscriptions channelId = none ↔
    start.subscriptions channelId = none ∧
      ∀ earlier ∈ before, Granted offer start earlier → earlier.2 ≠ channelId

theorem subscribeFollows_start
    (subscribed :
      ∀ channelId ∈ start.subscriptionsByChannel, start.subscriptions channelId ≠ none) :
    SubscribeFollows offer start [] start where
  valid := ⟨fun _ _ => id, subscribed⟩
  inUse subId := by simp
  unsubscribed channelId := by simp

section Follows

variable {before : List (SubscriptionId × ChannelId)}
  (follows : SubscribeFollows offer start before view)

include follows

theorem SubscribeFollows.pass (ignored : ¬ Considered offer start.subscriptionsByChannel entry) :
    SubscribeFollows offer start (before ++ [entry]) view where
  valid := follows.valid
  inUse subId := by
    have ungranted : ¬ Granted offer start entry := fun granted => ignored granted.1
    rw [follows.inUse]
    simp [or_and_right, exists_or, ungranted]
  unsubscribed channelId := by
    have ungranted : ¬ Granted offer start entry := fun granted => ignored granted.1
    rw [follows.unsubscribed]
    simp [or_imp, forall_and, ungranted]

/-- A granted entry is added to what came before. -/
theorem SubscribeFollows.take (granted : Granted offer start entry)
    (unsubscribed : view.subscriptions entry.2 = none) (topic : TopicAndDatatype) :
    SubscribeFollows offer start (before ++ [entry]) (view.subscribe entry topic) where
  valid := follows.valid.subscribe entry topic
  inUse subId := by
    have absent := follows.valid.absent unsubscribed
    have added : InUse (view.subscribe entry topic).subscriptionsByChannel subId ↔
        InUse view.subscriptionsByChannel subId ∨ entry.1 = subId := by
      constructor
      · rintro ⟨channelId, recorded⟩
        rw [lookup_subscribe_of_absent absent] at recorded
        split at recorded
        · exact .inr (Option.some.inj recorded)
        · exact .inl ⟨channelId, recorded⟩
      · rintro (⟨channelId, recorded⟩ | rfl)
        · exact ⟨channelId, lookup_subscribe recorded⟩
        · refine ⟨entry.2, ?_⟩
          rw [lookup_subscribe_of_absent absent, if_pos rfl]
    rw [added, follows.inUse]
    simp [or_and_right, exists_or, granted, or_assoc]
  unsubscribed channelId := by
    change Function.update view.subscriptions entry.2 (some topic) channelId = none ↔ _
    rw [Function.update_apply]
    by_cases same : channelId = entry.2
    · rw [if_pos same]
      refine iff_of_false nofun fun free => ?_
      exact free.2 entry (by simp) granted same.symm
    · rw [if_neg same, follows.unsubscribed]
      simp [or_imp, forall_and, granted, Ne.symm same]

/-- An entry is granted after others if it was and none of them has its channel. -/
theorem SubscribeFollows.granted_iff
    (considered : Considered offer start.subscriptionsByChannel entry) :
    (view.subscriptions entry.2 = none ∧
      grantedTopic offer.advertisedTopics offer.environment entry.2 ≠ none) ↔
      Granted offer start entry ∧
        ∀ earlier ∈ before, Granted offer start earlier → earlier.2 ≠ entry.2 := by
  rw [follows.unsubscribed]
  unfold Granted
  tauto

end Follows

/-- What a subscribe request decides for each entry. -/
theorem subscribe_described (offer : Offer) (start : ClientView) :
    (subscribePolicy offer start.subscriptionsByChannel).Described (SubscribeFollows offer start)
      (SubscribeRefused offer start) (SubscribeClash offer start)
        (SubscribeMissed offer start) where
  refuses {before view} entry follows := by
    change subscribeDecision _ _ _ _ = _ ↔ _
    rw [subscribeDecision_refuse_iff]
    refine and_congr_right fun considered => ?_
    have granted := follows.granted_iff considered
    rw [← not_iff_not, not_or, not_not, ← Ne.eq_def, granted]
    push Not
    rfl
  clashes {before view} entry follows := by
    constructor
    · rintro ⟨next, taken, differs⟩
      obtain ⟨considered, unsubscribed, topic, granted, rfl⟩ := subscribeDecision_take_iff.mp taken
      obtain ⟨grants, others⟩ := (follows.granted_iff considered).mp
        ⟨unsubscribed, by simp [granted]⟩
      refine ⟨grants, others, ?_⟩
      by_contra fresh
      refine differs (subscribeDecision_take_iff.mpr ⟨considered.later.mpr ?_, unsubscribed, topic,
        granted, rfl⟩)
      rw [follows.inUse]
      exact not_or.mpr ⟨considered.1, fresh⟩
    · rintro ⟨grants, others, repeated⟩
      obtain ⟨unsubscribed, granted⟩ := (follows.granted_iff grants.1).mpr ⟨grants, others⟩
      obtain ⟨topic, granted⟩ := Option.ne_none_iff_exists'.mp granted
      refine ⟨view.subscribe entry topic, subscribeDecision_take_iff.mpr
        ⟨grants.1, unsubscribed, topic, granted, rfl⟩, fun taken => ?_⟩
      obtain ⟨later, _⟩ := subscribeDecision_take_iff.mp taken
      exact later.1 ((follows.inUse _).mpr (.inr repeated))
  missed {before view} entry follows := by
    rw [← not_iff_not, not_not]
    unfold BatchPolicy.Idle
    push Not
    constructor
    · rintro ⟨next, taken⟩
      obtain ⟨later, unsubscribed, topic, granted, rfl⟩ := subscribeDecision_take_iff.mp taken
      have considered := follows.valid.considered later
      obtain ⟨grants, others⟩ := (follows.granted_iff considered).mp
        ⟨unsubscribed, by simp [granted]⟩
      refine ⟨grants, fun earlier member granted => ⟨fun same => ?_, others earlier member granted⟩⟩
      exact later.1 ((follows.inUse _).mpr (.inr ⟨earlier, member, granted, same⟩))
    · rintro ⟨grants, others⟩
      obtain ⟨unsubscribed, granted⟩ := (follows.granted_iff grants.1).mpr
        ⟨grants, fun earlier member granted => (others earlier member granted).2⟩
      obtain ⟨topic, granted⟩ := Option.ne_none_iff_exists'.mp granted
      refine ⟨view.subscribe entry topic, subscribeDecision_take_iff.mpr
        ⟨grants.1.later.mpr ?_, unsubscribed, topic, granted, rfl⟩⟩
      rw [follows.inUse, not_or]
      refine ⟨grants.1.1, ?_⟩
      rintro ⟨earlier, member, granted, same⟩
      exact (others earlier member granted).1 same
  settles _ _ _ := Iff.rfl
  passes follows passed := follows.pass (subscribeDecision_pass_iff.mp passed)
  takes {before view entry next} follows taken _ := by
    obtain ⟨considered, unsubscribed, topic, granted, rfl⟩ := subscribeDecision_take_iff.mp taken
    obtain ⟨grants, _⟩ := (follows.granted_iff considered).mp ⟨unsubscribed, by simp [granted]⟩
    exact follows.take grants unsubscribed topic

end Subscribe

end CoBridge.Ros2
