import CoBridge.Properties.SubscribeBatches

/-!
# Advertise and unadvertise requests as batches

Whether a client's advertise request is its first is looked at once. In the first one an
id that is listed again is not recognised but handed to the bridge, which refuses it, and
the request stops there. An unadvertise request stops at a channel that the server lists and
the bridge cannot withdraw: its publisher is missing, or was removed when its timer could not
be created.
-/

namespace CoBridge.Ros2

open Library Table

variable {options : ServerOptions} {offer : Offer} {isFirst : Bool} {start view next : ClientView}
  {advertisement : ClientAdvertisement}

/-- The bridge has a publisher for every publication. -/
def ClientView.Published (view : ClientView) : Prop :=
  ∀ channelId ∈ view.publications, channelId ∈ view.publishers

section Advertise

def AllowedTopic (options : ServerOptions) (advertisement : ClientAdvertisement) : Prop :=
  isWhitelisted advertisement.topic options.clientTopicWhitelistPatterns = true

/-- An entry that is handed to the bridge: its topic is allowed and it is not known, unless
the request is the first. -/
def Proposed (options : ServerOptions) (isFirst : Bool) (view : ClientView)
    (advertisement : ClientAdvertisement) : Prop :=
  AllowedTopic options advertisement ∧
    (isFirst = true ∨ advertisement.channelId ∉ view.publications)

/-- The bridge creates a publisher for it. -/
def Creatable (offer : Offer) (view : ClientView) (advertisement : ClientAdvertisement) : Prop :=
  advertisement.channelId ∉ view.publishers ∧ offer.environment.creates advertisement

theorem advertisingDecision_of_not_proposed
    (ignored : ¬ Proposed options isFirst view advertisement) :
    advertisingDecision options offer isFirst advertisement view = .pass := by
  apply if_pos
  unfold Proposed AllowedTopic at ignored
  rw [← Bool.not_eq_true, ← Bool.not_eq_true]
  tauto

theorem advertisingDecision_of_proposed (proposed : Proposed options isFirst view advertisement) :
    advertisingDecision options offer isFirst advertisement view =
      if advertisement.channelId ∈ view.publishers ∨ ¬ offer.environment.creates advertisement then
        .refuse
      else .take (view.advertise advertisement) := by
  apply if_neg
  unfold Proposed AllowedTopic at proposed
  rw [← Bool.not_eq_true, ← Bool.not_eq_true]
  tauto

theorem advertisingDecision_pass_iff :
    advertisingDecision options offer isFirst advertisement view = .pass ↔
      ¬ Proposed options isFirst view advertisement := by
  refine ⟨fun passed proposed => ?_, advertisingDecision_of_not_proposed⟩
  rw [advertisingDecision_of_proposed proposed] at passed
  split at passed <;> cases passed

theorem advertisingDecision_take_iff :
    advertisingDecision options offer isFirst advertisement view = .take next ↔
      Proposed options isFirst view advertisement ∧ Creatable offer view advertisement ∧
        next = view.advertise advertisement := by
  by_cases proposed : Proposed options isFirst view advertisement
  · rw [advertisingDecision_of_proposed proposed]
    unfold Creatable
    split
    · next refused => simp; tauto
    · next granted =>
      rw [not_or, not_not] at granted
      simp [proposed, granted, eq_comm]
  · rw [advertisingDecision_of_not_proposed proposed]
    simp [proposed]

theorem advertisingDecision_refuse_iff :
    advertisingDecision options offer isFirst advertisement view = .refuse ↔
      Proposed options isFirst view advertisement ∧ ¬ Creatable offer view advertisement := by
  by_cases proposed : Proposed options isFirst view advertisement
  · rw [advertisingDecision_of_proposed proposed]
    unfold Creatable
    split
    · next refused => simp [proposed]; tauto
    · next granted =>
      rw [not_or, not_not] at granted
      simp [granted]
  · rw [advertisingDecision_of_not_proposed proposed]
    simp [proposed]

/-- The request opened the map of publications, and if it is the first of the client, the
bridge has them all. -/
structure AdvertiseValid (isFirst : Bool) (view : ClientView) : Prop where
  opened : view.clientChannels ≠ none
  published : isFirst = true → view.Published

theorem mem_publications_advertise (opened : view.clientChannels ≠ none)
    (advertisement : ClientAdvertisement) (channelId : ClientChannelId) :
    channelId ∈ (view.advertise advertisement).publications ↔
      channelId = advertisement.channelId ∨ channelId ∈ view.publications := by
  obtain ⟨publications, here⟩ := Option.ne_none_iff_exists'.mp opened
  unfold ClientView.publications ClientView.advertise
  simp only [here, Option.map_some, Option.getD_some]
  exact mem_emplace _ _ _ _

theorem mem_publishers_advertise (view : ClientView) (advertisement : ClientAdvertisement)
    (channelId : ClientChannelId) :
    channelId ∈ (view.advertise advertisement).publishers ↔
      channelId = advertisement.channelId ∨ channelId ∈ view.publishers :=
  mem_emplace _ _ _ _

theorem AdvertiseValid.advertise (valid : AdvertiseValid isFirst view)
    (advertisement : ClientAdvertisement) :
    AdvertiseValid isFirst (view.advertise advertisement) where
  opened := by
    unfold ClientView.advertise
    simpa using valid.opened
  published first channelId member := by
    rw [mem_publications_advertise valid.opened] at member
    rw [mem_publishers_advertise]
    exact member.imp_right (valid.published first channelId)

/-- What the bridge is asked to create and does create is not known. -/
theorem AdvertiseValid.unknown (valid : AdvertiseValid isFirst view)
    (proposed : Proposed options isFirst view advertisement)
    (creatable : Creatable offer view advertisement) :
    advertisement.channelId ∉ view.publications := by
  rcases proposed.2 with first | unknown
  · exact fun known => creatable.1 (valid.published first _ known)
  · exact unknown

theorem holds_publishers_iff (view : ClientView) (channelId : ClientChannelId) :
    (∃ publishers, view.maps.clientAdvertisedTopics = some publishers ∧
      publishers channelId ≠ none) ↔ channelId ∈ view.publishers := by
  unfold ClientView.maps ClientView.publishers
  cases view.clientAdvertisedTopics with
  | none => simp
  | some publishers => simp [← AList.lookup_isSome, Option.isSome_iff_ne_none]

/-- An entry that a request of its own is granted: its topic is allowed, its id is not known,
and the bridge creates a publisher. -/
def Publishable (options : ServerOptions) (offer : Offer) (view : ClientView)
    (advertisement : ClientAdvertisement) : Prop :=
  AllowedTopic options advertisement ∧ advertisement.channelId ∉ view.publications ∧
    Creatable offer view advertisement

theorem advertise_idle_iff : (advertisePolicy options offer isFirst).Idle advertisement view ↔
    ¬ Publishable options offer view advertisement := by
  constructor
  · rintro idle ⟨allowed, unknown, creatable⟩
    exact idle _ (advertisingDecision_take_iff.mpr ⟨⟨allowed, .inr unknown⟩, creatable, rfl⟩)
  · intro refused next taken
    obtain ⟨⟨allowed, known⟩, creatable, _⟩ := advertisingDecision_take_iff.mp taken
    exact refused ⟨allowed, known.resolve_left Bool.false_ne_true, creatable⟩

theorem advertise_comparable (options : ServerOptions) (offer : Offer) (isFirst : Bool) :
    (advertisePolicy options offer isFirst).Comparable (AdvertiseValid isFirst) ClientView.maps
      (fun channelId maps => ∃ publishers, maps.clientAdvertisedTopics = some publishers ∧
        publishers channelId ≠ none) where
  passes {advertisement view} _ passed := by
    apply advertisingDecision_pass_iff.mpr
    intro proposed
    exact advertisingDecision_pass_iff.mp passed ⟨proposed.1, proposed.2.imp_left nofun⟩
  keeps valid taken _ := by
    obtain ⟨_, _, rfl⟩ := advertisingDecision_take_iff.mp taken
    exact valid.advertise _
  diverges {advertisement view next} valid taken differs := by
    obtain ⟨proposed, creatable, rfl⟩ := advertisingDecision_take_iff.mp taken
    refine absurd (advertisingDecision_take_iff.mpr ⟨?_, creatable, rfl⟩) differs
    exact ⟨proposed.1, .inr (valid.unknown proposed creatable)⟩
  stops {advertisement view} valid refused := by
    obtain ⟨proposed, uncreatable⟩ := advertisingDecision_refuse_iff.mp refused
    by_cases known : advertisement.channelId ∈ view.publications
    · right
      have member := valid.published (proposed.2.resolve_right (not_not.mpr known)) _ known
      change { view with clientAdvertisedTopics := some view.publishers } = view
      unfold ClientView.publishers at member ⊢
      cases here : view.clientAdvertisedTopics with
      | none =>
        rw [here] at member
        exact absurd member (AList.notMem_empty _)
      | some publishers =>
        cases view
        cases here
        rfl
    · left
      exact advertisingDecision_refuse_iff.mpr ⟨⟨proposed.1, .inr known⟩, uncreatable⟩
  settled _ _ _ := rfl
  grows {channelId} advertisement view held := by
    rw [holds_publishers_iff] at held ⊢
    refine BatchPolicy.serveAlone_invariant _ (fun view : ClientView =>
      channelId ∈ view.publishers) ?_ id advertisement held
    intro advertisement view next held taken
    obtain ⟨_, _, rfl⟩ := advertisingDecision_take_iff.mp taken
    exact (mem_publishers_advertise _ _ _).mpr (.inr held)
  gains {advertisement view next} _ taken := by
    obtain ⟨_, creatable, rfl⟩ := advertisingDecision_take_iff.mp taken
    refine ⟨advertisement.channelId, ?_, ?_⟩
    · rw [holds_publishers_iff]
      exact creatable.1
    · rw [holds_publishers_iff, mem_publishers_advertise]
      exact .inl rfl

theorem openPublications_eq_self {publications : Table ClientChannelId ClientAdvertisement}
    (opened : view.clientChannels = some publications) : view.openPublications = view := by
  cases view
  cases opened
  rfl

/-- An advertise request with one entry. -/
theorem advertise_alone (isFirst : Bool) (advertisement : ClientAdvertisement) (view : ClientView) :
    (advertisePolicy options offer view.clientChannels.isNone).runBatch [advertisement]
        view.openPublications =
      (advertisePolicy options offer isFirst).serveAlone advertisement view.openPublications :=
  BatchPolicy.runBatch_singleton (advertise_first options advertisement view)

/-- Requests with one entry each, of which the first opens the map of publications. -/
theorem advertise_each (isFirst : Bool) {entries : List ClientAdvertisement} (some : entries ≠ [])
    (view : ClientView) :
    entries.foldl (fun reached entry => (advertisePolicy options offer
      reached.clientChannels.isNone).runBatch [entry] reached.openPublications) view =
      (advertisePolicy options offer isFirst).runEach entries view.openPublications := by
  induction entries generalizing view with
  | nil => exact absurd rfl some
  | cons first rest ih =>
    have served : ((advertisePolicy options offer isFirst).serveAlone first
        view.openPublications).clientChannels ≠ none := by
      refine BatchPolicy.serveAlone_invariant _ (fun view : ClientView =>
        view.clientChannels ≠ none) ?_ id first (Option.some_ne_none _)
      intro advertisement view next opened taken
      obtain ⟨_, _, rfl⟩ := advertisingDecision_take_iff.mp taken
      unfold ClientView.advertise
      simpa using opened
    obtain ⟨publications, opened⟩ := Option.ne_none_iff_exists'.mp served
    rw [List.foldl_cons, advertise_alone isFirst]
    change _ = (advertisePolicy options offer isFirst).runEach rest _
    by_cases last : rest = []
    · rw [last]
      rfl
    · rw [ih last, openPublications_eq_self opened]

/-- An earlier entry with the same id was granted. -/
def PublishedBefore (options : ServerOptions) (offer : Offer) (start : ClientView)
    (before : List ClientAdvertisement) (advertisement : ClientAdvertisement) : Prop :=
  ∃ earlier ∈ before, Publishable options offer start earlier ∧
    earlier.channelId = advertisement.channelId

/-- An entry at which an advertise request stops: the bridge has a publisher for the id or
cannot create one. In a first request it may have the publisher from an earlier entry. -/
def AdvertiseRefused (options : ServerOptions) (offer : Offer) (isFirst : Bool) (start : ClientView)
    (before : List ClientAdvertisement) (advertisement : ClientAdvertisement) : Prop :=
  AllowedTopic options advertisement ∧
    (isFirst = true ∨ (advertisement.channelId ∉ start.publications ∧
      ¬ PublishedBefore options offer start before advertisement)) ∧
    (¬ Publishable options offer start advertisement ∨
      PublishedBefore options offer start before advertisement)

/-- An entry that a request of its own is granted after the earlier ones. -/
def AdvertiseMissed (options : ServerOptions) (offer : Offer) (start : ClientView)
    (before : List ClientAdvertisement) (advertisement : ClientAdvertisement) : Prop :=
  Publishable options offer start advertisement ∧
    ¬ PublishedBefore options offer start before advertisement

/-- The entries that were granted are recorded. -/
structure AdvertiseFollows (options : ServerOptions) (offer : Offer) (isFirst : Bool)
    (start : ClientView) (before : List ClientAdvertisement) (view : ClientView) : Prop where
  valid : AdvertiseValid isFirst view
  publications : ∀ channelId, channelId ∈ view.publications ↔ channelId ∈ start.publications ∨
    ∃ earlier ∈ before, Publishable options offer start earlier ∧ earlier.channelId = channelId
  publishers : ∀ channelId, channelId ∈ view.publishers ↔ channelId ∈ start.publishers ∨
    ∃ earlier ∈ before, Publishable options offer start earlier ∧ earlier.channelId = channelId

/-- A client that never advertised has no publications. -/
theorem advertiseValid_start (first : isFirst = true → start.clientChannels = none) :
    AdvertiseValid isFirst start.openPublications := by
  refine ⟨Option.some_ne_none _, fun isFirst channelId member => ?_⟩
  change channelId ∈ start.clientChannels.getD ∅ at member
  rw [first isFirst] at member
  exact absurd member (AList.notMem_empty channelId)

theorem advertiseFollows_start (first : isFirst = true → start.clientChannels = none) :
    AdvertiseFollows options offer isFirst start [] start.openPublications where
  valid := advertiseValid_start first
  publications channelId := by
    change channelId ∈ start.publications ↔ _
    simp
  publishers channelId := by
    change channelId ∈ start.publishers ↔ _
    simp

section Follows

variable {before : List ClientAdvertisement}
  (follows : AdvertiseFollows options offer isFirst start before view)

include follows

/-- What is granted now was granted at the start, and not to an earlier entry. -/
theorem AdvertiseFollows.publishable_iff : Publishable options offer view advertisement ↔
    AdvertiseMissed options offer start before advertisement := by
  unfold AdvertiseMissed Publishable Creatable
  rw [follows.publishers, follows.publications]
  change _ ∧ ¬ (_ ∨ PublishedBefore options offer start before advertisement) ∧
    ¬ (_ ∨ PublishedBefore options offer start before advertisement) ∧ _ ↔ _
  tauto

theorem AdvertiseFollows.creatable_iff (proposed : Proposed options isFirst view advertisement) :
    Creatable offer view advertisement ↔
      AdvertiseMissed options offer start before advertisement := by
  rw [← follows.publishable_iff]
  exact ⟨fun creatable => ⟨proposed.1, follows.valid.unknown proposed creatable, creatable⟩,
    fun publishable => publishable.2.2⟩

/-- An entry that is passed over was not granted, or its id was recorded before. -/
theorem AdvertiseFollows.pass (known : Publishable options offer start advertisement →
      PublishedBefore options offer start before advertisement) :
    AdvertiseFollows options offer isFirst start (before ++ [advertisement]) view := by
  have same (channelId : ClientChannelId) :
      (∃ earlier ∈ before ++ [advertisement], Publishable options offer start earlier ∧
        earlier.channelId = channelId) ↔
      ∃ earlier ∈ before, Publishable options offer start earlier ∧
        earlier.channelId = channelId := by
    constructor
    · rintro ⟨earlier, member, granted, rfl⟩
      rcases List.mem_append.mp member with listed | last
      · exact ⟨earlier, listed, granted, rfl⟩
      · obtain rfl := List.mem_singleton.mp last
        exact known granted
    · rintro ⟨earlier, listed, granted⟩
      exact ⟨earlier, List.mem_append_left _ listed, granted⟩
  refine ⟨follows.valid, fun channelId => ?_, fun channelId => ?_⟩
  · rw [same, follows.publications]
  · rw [same, follows.publishers]

theorem AdvertiseFollows.take (granted : Publishable options offer start advertisement) :
    AdvertiseFollows options offer isFirst start (before ++ [advertisement])
      (view.advertise advertisement) := by
  have added (channelId : ClientChannelId) :
      (∃ earlier ∈ before ++ [advertisement], Publishable options offer start earlier ∧
        earlier.channelId = channelId) ↔ channelId = advertisement.channelId ∨
      ∃ earlier ∈ before, Publishable options offer start earlier ∧
        earlier.channelId = channelId := by
    constructor
    · rintro ⟨earlier, member, grants, rfl⟩
      rcases List.mem_append.mp member with listed | last
      · exact .inr ⟨earlier, listed, grants, rfl⟩
      · exact .inl (congrArg _ (List.mem_singleton.mp last))
    · rintro (rfl | ⟨earlier, listed, grants⟩)
      · exact ⟨advertisement, by simp, granted, rfl⟩
      · exact ⟨earlier, List.mem_append_left _ listed, grants⟩
  refine ⟨follows.valid.advertise advertisement, fun channelId => ?_, fun channelId => ?_⟩
  · rw [added, mem_publications_advertise follows.valid.opened, follows.publications, or_left_comm]
  · rw [added, mem_publishers_advertise, follows.publishers, or_left_comm]

end Follows

/-- What an advertise request decides for each entry. -/
theorem advertise_described (options : ServerOptions) (offer : Offer) (isFirst : Bool)
    (start : ClientView) :
    (advertisePolicy options offer isFirst).Described (AdvertiseFollows options offer isFirst start)
      (AdvertiseRefused options offer isFirst start) (fun _ _ => False)
      (AdvertiseMissed options offer start) where
  refuses {before view} advertisement follows := by
    change advertisingDecision _ _ _ _ _ = _ ↔ _
    have known : Proposed options isFirst view advertisement ↔
        AllowedTopic options advertisement ∧
          (isFirst = true ∨ (advertisement.channelId ∉ start.publications ∧
            ¬ PublishedBefore options offer start before advertisement)) := by
      unfold Proposed
      rw [follows.publications, not_or]
      rfl
    rw [advertisingDecision_refuse_iff]
    unfold AdvertiseRefused
    rw [← and_assoc, ← known]
    refine and_congr_right fun proposed => ?_
    rw [follows.creatable_iff proposed, AdvertiseMissed, not_and_or, not_not]
  clashes {before view} advertisement follows := by
    simp only [iff_false]
    rintro ⟨next, taken, differs⟩
    obtain ⟨proposed, creatable, rfl⟩ := advertisingDecision_take_iff.mp taken
    have unknown := follows.valid.unknown proposed creatable
    exact differs (advertisingDecision_take_iff.mpr
      ⟨⟨proposed.1, .inr unknown⟩, creatable, rfl⟩)
  missed {before view} advertisement follows := by
    rw [advertise_idle_iff, follows.publishable_iff]
  settles {before view} _ advertisement _ := by
    rw [advertise_idle_iff, advertise_idle_iff]
    rfl
  passes {before view advertisement} follows passed := by
    apply follows.pass
    intro granted
    by_contra unpublished
    have publishable := follows.publishable_iff.mpr ⟨granted, unpublished⟩
    exact advertisingDecision_pass_iff.mp passed ⟨publishable.1, .inr publishable.2.1⟩
  takes {before view advertisement next} follows taken _ := by
    obtain ⟨proposed, creatable, rfl⟩ := advertisingDecision_take_iff.mp taken
    exact follows.take ((follows.creatable_iff proposed).mp creatable).1

end Advertise

section Unadvertise

variable {channelId other : ClientChannelId} {channelIds : List ClientChannelId}

theorem mem_publishers_unadvertise (view : ClientView) (channelId other : ClientChannelId) :
    other ∈ (view.unadvertise channelId).publishers ↔ other ≠ channelId ∧
      other ∈ view.publishers := by
  rw [← AList.mem_erase]
  unfold ClientView.unadvertise ClientView.publishers
  split
  · next empty =>
    exact iff_of_false (AList.notMem_empty other) ((keys_isEmpty_iff _).mp empty other)
  · cases view.clientAdvertisedTopics with
    | none => rfl
    | some publishers => rfl

theorem mem_publications_unadvertise (view : ClientView) (channelId other : ClientChannelId) :
    other ∈ (view.unadvertise channelId).publications ↔
      other ≠ channelId ∧ other ∈ view.publications := by
  rw [← AList.mem_erase]
  unfold ClientView.publications ClientView.unadvertise
  cases view.clientChannels with
  | none => rfl
  | some publications => rfl

/-- The server lists the channel and the bridge has its publisher, so that a request to
unadvertise it removes this. -/
def Withdrawable (view : ClientView) (channelId : ClientChannelId) : Prop :=
  channelId ∈ view.publications ∧ channelId ∈ view.publishers

/-- An entry at which an unadvertise request stops: the server lists it, and the bridge has no
publisher for it or cannot create the timer. -/
def UnadvertiseRefused (offer : Offer) (view : ClientView) (channelId : ClientChannelId) : Prop :=
  channelId ∈ view.publications ∧
    ¬ (channelId ∈ view.publishers ∧ offer.environment.wallTimerFailure = none)

/-- Behind an entry at which the request stops, there is no other publisher to remove. -/
def UnadvertiseOrderly (offer : Offer) (start : ClientView) (channelIds : List ClientChannelId) :
    Prop :=
  ∀ before channelId rest, channelIds = before ++ channelId :: rest →
    UnadvertiseRefused offer start channelId →
    ∀ other ∈ rest, Withdrawable start other → other ∈ before ++ [channelId]

theorem unadvertisingDecision_refuse_iff :
    unadvertisingDecision offer channelId view = .refuse ↔
      UnadvertiseRefused offer view channelId := by
  unfold unadvertisingDecision UnadvertiseRefused
  split
  · next unlisted => simp [unlisted]
  · next listed => split <;> simp_all

/-- An entry is ignored, loses its publisher when the request stops, or is withdrawn. -/
theorem unadvertise_cases (offer : Offer) (channelId : ClientChannelId) (view : ClientView) :
    (¬ Withdrawable view channelId ∧
      (unadvertisePolicy offer).serveAlone channelId view = view) ∨
    (Withdrawable view channelId ∧ UnadvertiseRefused offer view channelId ∧
      (unadvertisePolicy offer).serveAlone channelId view = view.losePublisher channelId) ∨
    (Withdrawable view channelId ∧ ¬ UnadvertiseRefused offer view channelId ∧
      (unadvertisePolicy offer).serveAlone channelId view = view.unadvertise channelId) := by
  unfold Withdrawable UnadvertiseRefused BatchPolicy.serveAlone unadvertisePolicy
    unadvertisingDecision ClientView.losePublisher
  by_cases listed : channelId ∈ view.publications <;>
    by_cases published : channelId ∈ view.publishers <;>
    by_cases created : offer.environment.wallTimerFailure = none <;>
    simp [listed, published, created]

theorem mem_publishers_losePublisher (published : channelId ∈ view.publishers) :
    other ∈ (view.losePublisher channelId).publishers ↔
      other ≠ channelId ∧ other ∈ view.publishers := by
  rw [ClientView.losePublisher, if_pos published]
  exact mem_publishers_unadvertise view channelId other

theorem publications_losePublisher (view : ClientView) (channelId : ClientChannelId) :
    (view.losePublisher channelId).publications = view.publications := by
  unfold ClientView.losePublisher
  split <;> rfl

/-- The channel of the entry cannot be withdrawn again, the others can as before. -/
theorem withdrawable_served (offer : Offer) (view : ClientView)
    (channelId other : ClientChannelId) :
    Withdrawable ((unadvertisePolicy offer).serveAlone channelId view) other ↔
      other ≠ channelId ∧ Withdrawable view other := by
  rcases unadvertise_cases offer channelId view with ⟨idle, same⟩ | ⟨here, _, same⟩ |
    ⟨here, _, same⟩ <;> rw [same]
  · refine (and_iff_right_of_imp ?_).symm
    rintro withdrawable rfl
    exact idle withdrawable
  · unfold Withdrawable
    rw [publications_losePublisher, mem_publishers_losePublisher here.2, and_left_comm]
  · unfold Withdrawable
    rw [mem_publications_unadvertise, mem_publishers_unadvertise, ← and_and_left]

/-- An entry at which the request goes on changes nothing about where it stops. -/
theorem unadvertiseRefused_served (served : ¬ UnadvertiseRefused offer view channelId) :
    UnadvertiseRefused offer ((unadvertisePolicy offer).serveAlone channelId view) other ↔
      UnadvertiseRefused offer view other := by
  rcases unadvertise_cases offer channelId view with ⟨_, same⟩ | ⟨_, refused, _⟩ | ⟨here, _, same⟩
  · rw [same]
  · exact absurd refused served
  · rw [same]
    by_cases again : other = channelId
    · subst again
      refine iff_of_false (fun refused => ?_) served
      exact ((mem_publications_unadvertise _ _ _).mp refused.1).1 rfl
    · unfold UnadvertiseRefused
      rw [mem_publications_unadvertise, mem_publishers_unadvertise]
      simp only [ne_eq, again, not_false_eq_true, true_and]

theorem runEach_unadvertise_idle (idle : ∀ channelId ∈ channelIds, ¬ Withdrawable view channelId) :
    (unadvertisePolicy offer).runEach channelIds view = view := by
  induction channelIds with
  | nil => rfl
  | cons channelId rest ih =>
    change (unadvertisePolicy offer).runEach rest
      ((unadvertisePolicy offer).serveAlone channelId view) = view
    have first := idle channelId List.mem_cons_self
    rcases unadvertise_cases offer channelId view with ⟨_, same⟩ | ⟨here, _⟩ | ⟨here, _⟩
    · rw [same]
      exact ih fun other member => idle other (List.mem_cons_of_mem _ member)
    · exact absurd here first
    · exact absurd here first

/-- A publisher that is missing or can be withdrawn by one of the requests is missing in the end. -/
theorem not_mem_publishers_runEach (lost : other ∉ view.publishers ∨
      (other ∈ channelIds ∧ Withdrawable view other)) :
    other ∉ ((unadvertisePolicy offer).runEach channelIds view).publishers := by
  induction channelIds generalizing view with
  | nil => exact lost.resolve_right fun listed => List.not_mem_nil listed.1
  | cons channelId rest ih =>
    change other ∉ ((unadvertisePolicy offer).runEach rest
      ((unadvertisePolicy offer).serveAlone channelId view)).publishers
    apply ih
    have served := withdrawable_served offer view channelId other
    rcases unadvertise_cases offer channelId view with ⟨idle, same⟩ | ⟨here, _, same⟩ |
      ⟨here, _, same⟩ <;> rw [same] at served ⊢
    · refine lost.imp_right fun listed => ⟨?_, listed.2⟩
      exact (List.mem_cons.mp listed.1).resolve_left fun first => idle (first ▸ listed.2)
    · rw [mem_publishers_losePublisher here.2, served]
      grind
    · rw [mem_publishers_unadvertise, served]
      grind

/-- Requests that can withdraw something leave a trace. -/
theorem maps_runEach_unadvertise_iff :
    ((unadvertisePolicy offer).runEach channelIds view).maps = view.maps ↔
      ∀ channelId ∈ channelIds, ¬ Withdrawable view channelId := by
  refine ⟨fun same channelId member withdrawable => ?_, fun idle => ?_⟩
  · have lost : channelId ∉ ((unadvertisePolicy offer).runEach channelIds view).publishers :=
      not_mem_publishers_runEach (.inr ⟨member, withdrawable⟩)
    rw [← holds_publishers_iff, same, holds_publishers_iff] at lost
    exact lost withdrawable.2
  · rw [runEach_unadvertise_idle idle]

theorem unadvertiseOrderly_of_refused (refused : UnadvertiseRefused offer view channelId) :
    UnadvertiseOrderly offer view (channelId :: channelIds) ↔
      ∀ other ∈ channelIds, ¬ (other ≠ channelId ∧ Withdrawable view other) := by
  constructor
  · rintro orderly other member ⟨different, withdrawable⟩
    have listed := orderly [] channelId channelIds rfl refused other member withdrawable
    exact different (List.mem_singleton.mp listed)
  · intro others before current rest split _ other member withdrawable
    by_contra missing
    rw [List.mem_append, List.mem_singleton, not_or] at missing
    cases before with
    | nil =>
      obtain ⟨rfl, rfl⟩ := List.cons.inj split
      exact others other member ⟨missing.2, withdrawable⟩
    | cons first before =>
      obtain ⟨rfl, rfl⟩ := List.cons.inj split
      refine others other (by simp [member]) ⟨fun same => missing.1 ?_, withdrawable⟩
      exact same ▸ List.mem_cons_self

theorem unadvertiseOrderly_of_served (served : ¬ UnadvertiseRefused offer view channelId) :
    UnadvertiseOrderly offer view (channelId :: channelIds) ↔
      UnadvertiseOrderly offer ((unadvertisePolicy offer).serveAlone channelId view)
        channelIds := by
  constructor
  · intro orderly before current rest split refused other member withdrawable
    rw [unadvertiseRefused_served served] at refused
    rw [withdrawable_served] at withdrawable
    have listed := orderly (channelId :: before) current rest (by rw [split]; rfl) refused other
      member withdrawable.2
    exact (List.mem_cons.mp listed).resolve_left withdrawable.1
  · intro orderly before current rest split refused other member withdrawable
    cases before with
    | nil =>
      obtain ⟨rfl, rfl⟩ := List.cons.inj split
      exact absurd refused served
    | cons first before =>
      obtain ⟨rfl, rfl⟩ := List.cons.inj split
      by_cases same : other = channelId
      · exact same ▸ List.mem_cons_self
      · refine List.mem_cons_of_mem _ (orderly before current rest rfl ?_ other member ?_)
        · rwa [unadvertiseRefused_served served]
        · exact (withdrawable_served _ _ _ _).mpr ⟨same, withdrawable⟩

/-- A batch of ids to unadvertise is the sequence of them exactly when it is orderly. -/
theorem maps_runBatch_unadvertise_iff :
    ((unadvertisePolicy offer).runBatch channelIds view).maps =
        ((unadvertisePolicy offer).runEach channelIds view).maps ↔
      UnadvertiseOrderly offer view channelIds := by
  induction channelIds generalizing view with
  | nil =>
    refine iff_of_true rfl ?_
    intro before channelId rest split
    simp at split
  | cons channelId rest ih =>
    change _ = ((unadvertisePolicy offer).runEach rest
      ((unadvertisePolicy offer).serveAlone channelId view)).maps ↔ _
    by_cases refused : UnadvertiseRefused offer view channelId
    · rw [BatchPolicy.runBatch_of_refuse rfl
        (unadvertisingDecision_refuse_iff.mpr refused), eq_comm,
        maps_runEach_unadvertise_iff, unadvertiseOrderly_of_refused refused]
      simp only [withdrawable_served]
    · rw [BatchPolicy.runBatch_of_served rfl (mt unadvertisingDecision_refuse_iff.mp refused), ih,
        unadvertiseOrderly_of_served refused]

end Unadvertise

end CoBridge.Ros2
