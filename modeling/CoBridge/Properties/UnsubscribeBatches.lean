import CoBridge.Properties.SubscribeBatches

/-!
# Unsubscribe requests as batches

An unsubscribe request looks its ids up in the subscriptions there were when it began, so
it stops at an id whose subscription it has ended itself. The ids behind it stay in use.
-/

namespace CoBridge.Ros2

open Library Table

variable {offer : Offer} {start view next : ClientView}

section Unsubscribe

variable {snapshot : Table ChannelId SubscriptionId} {subId : SubscriptionId}
variable {subIds : List SubscriptionId}

/-- What an id does that is taken. -/
theorem unsubscribeDecision_take
    (taken : unsubscribeDecision offer snapshot subId view = .take next) :
    ∃ channelId, view.subscriptions channelId ≠ none ∧ next = view.unsubscribe channelId := by
  unfold unsubscribeDecision at taken
  split at taken
  · cases taken
  · next channelId _ =>
    split at taken
    · next granted =>
      cases taken
      exact ⟨channelId, Option.isSome_iff_ne_none.mp granted.2, rfl⟩
    · cases taken

/-- The subscriptions of the snapshot that are left are those the bridge still has. -/
structure UnsubscribeValid (offer : Offer) (snapshot : Table ChannelId SubscriptionId)
    (view : ClientView) : Prop where
  fewer : view.subscriptionsByChannel.entries.Sublist snapshot.entries
  subscribed : ∀ channelId ∈ snapshot,
    (view.subscriptions channelId ≠ none ↔ channelId ∈ view.subscriptionsByChannel)
  advertised : ∀ channelId ∈ snapshot, channelId ∈ offer.advertisedTopics

namespace UnsubscribeValid

variable (valid : UnsubscribeValid offer snapshot view)
variable {channelId : ChannelId}

include valid

theorem lookup (recorded : view.subscriptionsByChannel.lookup channelId = some subId) :
    snapshot.lookup channelId = some subId :=
  AList.mem_lookup_iff.mpr (valid.fewer.subset (AList.mem_lookup_iff.mp recorded))

theorem lookup_of_mem (member : channelId ∈ view.subscriptionsByChannel) :
    view.subscriptionsByChannel.lookup channelId = snapshot.lookup channelId := by
  obtain ⟨subId, recorded⟩ := (mem_iff_lookup _ _).mp member
  rw [recorded, valid.lookup recorded]

/-- The channel of an id in the snapshot is the one found later, unless it was erased. -/
theorem find (found : findSubscriptionBySubId snapshot subId = some channelId)
    (member : channelId ∈ view.subscriptionsByChannel) :
    findSubscriptionBySubId view.subscriptionsByChannel subId = some channelId := by
  have recorded := (valid.lookup_of_mem member).trans (lookup_of_findSubscription found)
  obtain ⟨⟨channel, stored⟩, here, rfl⟩ := Option.map_eq_some_iff.mp found
  have same : stored = subId := by simpa using List.find?_some here
  subst same
  unfold findSubscriptionBySubId
  rw [find_of_sublist valid.fewer snapshot.nodupKeys.nodup here (AList.mem_lookup_iff.mp recorded)]
  rfl

theorem unsubscribe (channelId : ChannelId) :
    UnsubscribeValid offer snapshot (view.unsubscribe channelId) where
  fewer := (List.kerase_sublist channelId _).trans valid.fewer
  subscribed other member := by
    change Function.update view.subscriptions channelId none other ≠ none ↔
      other ∈ view.subscriptionsByChannel.erase channelId
    rw [Function.update_apply, AList.mem_erase]
    by_cases same : other = channelId
    · simp [same]
    · rw [if_neg same]
      simpa [same] using valid.subscribed other member
  advertised := valid.advertised

/-- In the batch an id is taken exactly when it is in the snapshot and was not taken before. -/
theorem inBatch_eq :
    unsubscribeDecision offer snapshot subId view =
      match findSubscriptionBySubId snapshot subId with
      | none => .pass
      | some channelId =>
        if channelId ∈ view.subscriptionsByChannel then .take (view.unsubscribe channelId)
        else .refuse := by
  unfold unsubscribeDecision
  cases found : findSubscriptionBySubId snapshot subId with
  | none => rfl
  | some channelId =>
    have inSnapshot := mem_of_lookup (lookup_of_findSubscription found)
    simp only [valid.advertised channelId inSnapshot, true_and, Option.isSome_iff_ne_none,
      valid.subscribed channelId inSnapshot]

/-- Alone an id is taken whenever it is in use. -/
theorem alone_eq :
    unsubscribeDecision offer view.subscriptionsByChannel subId view =
      match findSubscriptionBySubId view.subscriptionsByChannel subId with
      | none => .pass
      | some channelId => .take (view.unsubscribe channelId) := by
  unfold unsubscribeDecision
  cases found : findSubscriptionBySubId view.subscriptionsByChannel subId with
  | none => rfl
  | some channelId =>
    have recorded := lookup_of_findSubscription found
    have inSnapshot := mem_of_lookup (valid.lookup recorded)
    have subscribed := (valid.subscribed channelId inSnapshot).mpr (mem_of_lookup recorded)
    exact if_pos ⟨valid.advertised channelId inSnapshot, Option.isSome_iff_ne_none.mpr subscribed⟩

theorem idle_iff :
    (unsubscribePolicy offer snapshot).Idle subId view ↔
      ¬ InUse view.subscriptionsByChannel subId := by
  rw [← findSubscription_isSome_iff, Option.not_isSome_iff_eq_none]
  change (∀ next, unsubscribeDecision offer view.subscriptionsByChannel subId view ≠ .take next) ↔ _
  rw [valid.alone_eq]
  cases findSubscriptionBySubId view.subscriptionsByChannel subId with
  | none => simp
  | some channelId => simp

/-- What is taken in the batch is taken alone. -/
theorem taken (took : unsubscribeDecision offer snapshot subId view = .take next) :
    ∃ channelId, findSubscriptionBySubId snapshot subId = some channelId ∧
      channelId ∈ view.subscriptionsByChannel ∧ next = view.unsubscribe channelId ∧
      unsubscribeDecision offer view.subscriptionsByChannel subId view = .take next := by
  rw [valid.inBatch_eq] at took
  cases found : findSubscriptionBySubId snapshot subId with
  | none =>
    rw [found] at took
    cases took
  | some channelId =>
    simp only [found] at took
    split at took
    · next member =>
      cases took
      refine ⟨channelId, rfl, member, rfl, ?_⟩
      rw [valid.alone_eq, valid.find found member]
    · cases took

end UnsubscribeValid

theorem unsubscribe_comparable (offer : Offer) (snapshot : Table ChannelId SubscriptionId) :
    (unsubscribePolicy offer snapshot).Comparable (UnsubscribeValid offer snapshot) ClientView.maps
      (fun channelId maps => maps.subscriptions channelId = none) where
  passes {subId view} valid passed := by
    change unsubscribeDecision offer snapshot subId view = .pass at passed
    change unsubscribeDecision offer view.subscriptionsByChannel subId view = .pass
    have unused : findSubscriptionBySubId snapshot subId = none := by
      rw [valid.inBatch_eq] at passed
      split at passed
      · assumption
      · split at passed <;> cases passed
    have unusedLater : findSubscriptionBySubId view.subscriptionsByChannel subId = none := by
      rw [findSubscriptionBySubId_eq_none] at unused ⊢
      exact fun channelId recorded => unused channelId (valid.lookup recorded)
    rw [valid.alone_eq, unusedLater]
  keeps valid taken _ := by
    obtain ⟨channelId, _, _, rfl, _⟩ := valid.taken taken
    exact valid.unsubscribe channelId
  diverges valid taken differs := by
    obtain ⟨_, _, _, _, agrees⟩ := valid.taken taken
    exact absurd agrees differs
  stops _ _ := .inr rfl
  settled _ _ _ := rfl
  grows {channelId} subId view held := by
    refine BatchPolicy.serveAlone_invariant _ (fun view : ClientView =>
      view.subscriptions channelId = none) ?_ id subId held
    intro subId view next held taken
    obtain ⟨ended, _, rfl⟩ := unsubscribeDecision_take taken
    change Function.update view.subscriptions ended none channelId = none
    rw [Function.update_apply]
    split
    · rfl
    · exact held
  gains {subId view next} _ taken := by
    obtain ⟨ended, subscribed, rfl⟩ := unsubscribeDecision_take taken
    refine ⟨ended, subscribed, ?_⟩
    change Function.update view.subscriptions ended none ended = none
    rw [Function.update_self]

/-- An id at which an unsubscribe request stops: it ended the subscription before. -/
def UnsubscribeRefused (start : ClientView) (before : List SubscriptionId)
    (subId : SubscriptionId) : Prop :=
  subId ∈ before ∧ InUse start.subscriptionsByChannel subId

/-- An id of a subscription that the earlier ids did not end. -/
def UnsubscribeMissed (start : ClientView) (before : List SubscriptionId)
    (subId : SubscriptionId) : Prop :=
  ∃ channelId, start.subscriptionsByChannel.lookup channelId = some subId ∧
    (subId ∈ before → findSubscriptionBySubId start.subscriptionsByChannel subId ≠ some channelId)

/-- The subscriptions of the ids are ended. -/
structure UnsubscribeFollows (offer : Offer) (start : ClientView) (before : List SubscriptionId)
    (view : ClientView) : Prop where
  valid : UnsubscribeValid offer start.subscriptionsByChannel view
  left : ∀ channelId subId, start.subscriptionsByChannel.lookup channelId = some subId →
    (channelId ∈ view.subscriptionsByChannel ↔ (subId ∈ before →
      findSubscriptionBySubId start.subscriptionsByChannel subId ≠ some channelId))

theorem unsubscribeFollows_start
    (valid : UnsubscribeValid offer start.subscriptionsByChannel start) :
    UnsubscribeFollows offer start [] start where
  valid := valid
  left channelId subId recorded := by simp [mem_of_lookup recorded]

theorem UnsubscribeFollows.missed_iff {before : List SubscriptionId}
    (follows : UnsubscribeFollows offer start before view) (subId : SubscriptionId) :
    InUse view.subscriptionsByChannel subId ↔ UnsubscribeMissed start before subId := by
  constructor
  · rintro ⟨channelId, recorded⟩
    have earlier := follows.valid.lookup recorded
    exact ⟨channelId, earlier, (follows.left channelId subId earlier).mp (mem_of_lookup recorded)⟩
  · rintro ⟨channelId, recorded, kept⟩
    have member := (follows.left channelId subId recorded).mpr kept
    exact ⟨channelId, (follows.valid.lookup_of_mem member).trans recorded⟩

/-- What an unsubscribe request decides for each id. -/
theorem unsubscribe_described (offer : Offer) (start : ClientView) :
    (unsubscribePolicy offer start.subscriptionsByChannel).Described
      (UnsubscribeFollows offer start)
      (UnsubscribeRefused start) (fun _ _ => False) (UnsubscribeMissed start) where
  refuses {before view} subId follows := by
    change unsubscribeDecision _ _ _ _ = _ ↔ _
    rw [follows.valid.inBatch_eq]
    unfold UnsubscribeRefused
    rw [← findSubscription_isSome_iff]
    cases found : findSubscriptionBySubId start.subscriptionsByChannel subId with
    | none => simp
    | some channelId =>
      have left := follows.left channelId subId (lookup_of_findSubscription found)
      simp [left, found]
  clashes subId follows := by
    simp only [iff_false]
    rintro ⟨next, taken, differs⟩
    obtain ⟨_, _, _, _, agrees⟩ := follows.valid.taken taken
    exact differs agrees
  missed subId follows := by rw [follows.valid.idle_iff, follows.missed_iff]
  settles _ _ _ := Iff.rfl
  passes {before view subId} follows passed := by
    refine ⟨follows.valid, fun channelId other recorded => ?_⟩
    have unused : findSubscriptionBySubId start.subscriptionsByChannel subId = none := by
      change unsubscribeDecision _ _ _ _ = _ at passed
      rw [follows.valid.inBatch_eq] at passed
      split at passed
      · assumption
      · split at passed <;> cases passed
    have different : other ≠ subId := by
      rintro rfl
      exact (findSubscriptionBySubId_eq_none _ _).mp unused channelId recorded
    rw [follows.left channelId other recorded]
    simp [different]
  takes {before view subId next} follows taken _ := by
    obtain ⟨ended, found, member, rfl, _⟩ := follows.valid.taken taken
    refine ⟨follows.valid.unsubscribe ended, fun channelId other recorded => ?_⟩
    change channelId ∈ view.subscriptionsByChannel.erase ended ↔ _
    rw [AList.mem_erase, follows.left channelId other recorded]
    by_cases same : channelId = ended
    · subst same
      have foundHere := lookup_of_findSubscription found
      rw [recorded, Option.some.injEq] at foundHere
      simp [foundHere, found]
    · by_cases repeated : other = subId
      · subst repeated
        simp [same, found, Ne.symm same]
      · simp [same, repeated]

/-- The id is the one of at most one subscription. -/
def HeldOnce (subscriptions : Table ChannelId SubscriptionId) (subId : SubscriptionId) : Prop :=
  ∀ channelId other, subscriptions.lookup channelId = some subId →
    subscriptions.lookup other = some subId → channelId = other

/-- A batch ends one subscription of an id at most. -/
theorem heldOnce_of_cleared (valid : UnsubscribeValid offer snapshot view)
    (cleared : ¬ InUse ((unsubscribePolicy offer snapshot).runBatch subIds
      view).subscriptionsByChannel subId) : HeldOnce view.subscriptionsByChannel subId := by
  have stays {channelId : ChannelId}
      (recorded : view.subscriptionsByChannel.lookup channelId = some subId)
      (other : findSubscriptionBySubId snapshot subId ≠ some channelId) : False := by
    refine cleared ⟨channelId, (BatchPolicy.runBatch_invariant _ (fun view : ClientView =>
      UnsubscribeValid offer snapshot view ∧
        view.subscriptionsByChannel.lookup channelId = some subId) ?_ id subIds
      ⟨valid, recorded⟩).2⟩
    rintro listed view next ⟨valid, recorded⟩ taken
    obtain ⟨ended, found, _, rfl, _⟩ := valid.taken taken
    refine ⟨valid.unsubscribe ended, ?_⟩
    change (view.subscriptionsByChannel.erase ended).lookup channelId = some subId
    rw [AList.lookup_erase_ne, recorded]
    rintro rfl
    have same := (valid.lookup recorded).symm.trans (lookup_of_findSubscription found)
    cases same
    exact other found
  intro channelId other recorded stored
  have first : findSubscriptionBySubId snapshot subId = some channelId :=
    by_contra fun different => stays recorded different
  have second : findSubscriptionBySubId snapshot subId = some other :=
    by_contra fun different => stays stored different
  exact Option.some.inj (first.symm.trans second)

/-- What is not in use does not come into use. -/
theorem unused_runBatch (unused : ¬ InUse view.subscriptionsByChannel subId) :
    ¬ InUse ((unsubscribePolicy offer snapshot).runBatch subIds view).subscriptionsByChannel
      subId := by
  refine BatchPolicy.runBatch_invariant _ (fun view : ClientView =>
    ¬ InUse view.subscriptionsByChannel subId) ?_ id subIds unused
  rintro listed view next unused taken ⟨channelId, recorded⟩
  obtain ⟨ended, _, rfl⟩ := unsubscribeDecision_take taken
  change (view.subscriptionsByChannel.erase ended).lookup channelId = some subId at recorded
  rw [lookup_erase_ite] at recorded
  split at recorded
  · cases recorded
  · exact unused ⟨channelId, recorded⟩

/-- After a batch no listed id is in use exactly when it is orderly and no listed id was
in use twice. -/
theorem unsubscribe_clears_iff (valid : UnsubscribeValid offer snapshot view) :
    (∀ subId ∈ subIds, ¬ InUse ((unsubscribePolicy offer snapshot).runBatch subIds
      view).subscriptionsByChannel subId) ↔
      (unsubscribePolicy offer snapshot).Orderly subIds view ∧
        ∀ subId ∈ subIds, HeldOnce view.subscriptionsByChannel subId := by
  constructor
  · intro cleared
    refine ⟨?_, fun subId member => heldOnce_of_cleared valid (cleared subId member)⟩
    induction subIds generalizing view with
    | nil => trivial
    | cons subId rest ih =>
      unfold BatchPolicy.runBatch at cleared
      unfold BatchPolicy.Orderly
      cases decision : (unsubscribePolicy offer snapshot).inBatch subId view with
      | pass =>
        rw [decision] at cleared
        exact ih valid fun other member =>
          cleared other (List.mem_cons_of_mem _ member)
      | take next =>
        rw [decision] at cleared
        obtain ⟨ended, _, _, rfl, agrees⟩ := valid.taken decision
        exact ⟨agrees, ih (valid.unsubscribe ended) fun other member =>
          cleared other (List.mem_cons_of_mem _ member)⟩
      | refuse =>
        rw [decision] at cleared
        exact ⟨valid.idle_iff.mpr (cleared subId List.mem_cons_self), fun other member =>
          valid.idle_iff.mpr (cleared other (List.mem_cons_of_mem _ member))⟩
  · rintro ⟨orderly, once⟩
    induction subIds generalizing view with
    | nil => exact fun _ member => absurd member List.not_mem_nil
    | cons subId rest ih =>
      unfold BatchPolicy.Orderly at orderly
      unfold BatchPolicy.runBatch
      cases decision : (unsubscribePolicy offer snapshot).inBatch subId view with
      | pass =>
        rw [decision] at orderly
        have idle : (unsubscribePolicy offer snapshot).Idle subId view := by
          intro next taken
          rw [(unsubscribe_comparable offer snapshot).passes valid decision] at taken
          cases taken
        refine List.forall_mem_cons.mpr ⟨unused_runBatch (valid.idle_iff.mp idle), ?_⟩
        exact ih valid orderly fun other member =>
          once other (List.mem_cons_of_mem _ member)
      | take next =>
        rw [decision] at orderly
        obtain ⟨ended, found, member, rfl, _⟩ := valid.taken decision
        have shrinks {channelId : ChannelId} {other : SubscriptionId}
            (recorded :
              (view.unsubscribe ended).subscriptionsByChannel.lookup channelId = some other) :
            channelId ≠ ended ∧ view.subscriptionsByChannel.lookup channelId = some other := by
          change (view.subscriptionsByChannel.erase ended).lookup channelId = some other at recorded
          rw [lookup_erase_ite] at recorded
          split at recorded
          · cases recorded
          · next different => exact ⟨different, recorded⟩
        have unused : ¬ InUse (view.unsubscribe ended).subscriptionsByChannel subId := by
          rintro ⟨channelId, recorded⟩
          obtain ⟨different, earlier⟩ := shrinks recorded
          have here := (valid.lookup_of_mem member).trans (lookup_of_findSubscription found)
          exact different (once subId List.mem_cons_self channelId ended earlier here)
        refine List.forall_mem_cons.mpr ⟨unused_runBatch unused, ?_⟩
        refine ih (valid.unsubscribe ended) orderly.2 ?_
        intro other later channelId second first last
        exact once other (List.mem_cons_of_mem _ later) channelId second (shrinks first).2
          (shrinks last).2
      | refuse =>
        rw [decision] at orderly
        exact List.forall_mem_cons.mpr ⟨valid.idle_iff.mp orderly.1, fun other member =>
          valid.idle_iff.mp (orderly.2 other member)⟩

end Unsubscribe

end CoBridge.Ros2
