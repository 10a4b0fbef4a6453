import CoBridge.Library.Transition
import CoBridge.Ros2.TopicUpdates

/-!
# Topics follow the ROS graph

Over any sequence of graph snapshots the bridge and the server list the same
channels, one for each topic and datatype that the last snapshot offers, and an id
stands for one topic for ever. This holds as long as every new channel can be written
into a message: the exception of the JSON library leaves channels in the server that
the bridge does not know.
-/

namespace CoBridge.Ros2

open Library Table

variable {Rest : Type} {options : Options} {check : TextCheck}

/-- A topic of the snapshot, under one of its datatypes, that is neither hidden nor
off the whitelist. -/
def Offered (options : Options) (environment : Environment) (topic : TopicAndDatatype) : Prop :=
  ∃ info, environment.topics.lookup topic.1 = some info ∧ topic.2 ∈ info.types ∧
    (options.includeHidden = true ∨ isHiddenTopicOrService topic.1 = .ok false) ∧
    isWhitelisted topic.1 options.topicWhitelistPatterns

/-- Every topic of the snapshot has a name, as ROS guarantees. -/
def Environment.Named (environment : Environment) : Prop :=
  ∀ name ∈ environment.topics, name ≠ ""

/-- The channels an update adds in this state of the node. -/
def newChannels (options : Options) (bridge : Bridge Rest) : List ChannelWithoutId :=
  match latestTopics options bridge.environment.topics with
  | .ok latest => bridge.missingChannels latest
  | .error _ => []

/-- The ids with their topics in either table. -/
def ChannelTables.listed (tables : ChannelTables) : List (ChannelId × TopicAndDatatype) :=
  tables.advertised.held.entries.map (fun entry => (entry.1, topicOf entry.2)) ++
    tables.channels.entries.map fun entry => (entry.1, topicOf entry.2.toChannelWithoutId)

/-- A node with what its updates did so far: the number of channels they added, and
the ids with their topics after each of them. -/
structure TopicHistory (Rest : Type) where
  world : World (Bridge Rest)
  added : Nat
  seen : List (ChannelId × TopicAndDatatype)

namespace TopicHistory

def tables (history : TopicHistory Rest) : ChannelTables := channelTables history.world

/-- The node at the moment ROS hands it a snapshot. -/
def given (history : TopicHistory Rest) (environment : Environment) : World (Bridge Rest) :=
  { history.world with bridge := { history.world.bridge with environment := environment } }

def poll (check : TextCheck) (options : Options) (environment : Environment)
    (history : TopicHistory Rest) : TopicHistory Rest :=
  let reached := (updateAdvertisedTopics check options (history.given environment)).2
  { world := reached
    added := history.added + (newChannels options (history.given environment).bridge).length
    seen := history.seen ++ (channelTables reached).listed }

end TopicHistory

inductive TopicEvent where
  | poll (environment : Environment)
  | meanwhile

/-- Updates, and anything else that does not touch the channels. -/
inductive TopicStep (check : TextCheck) (options : Options) (history : TopicHistory Rest) :
    TopicEvent → TopicHistory Rest → Prop where
  | poll (environment : Environment) :
      TopicStep check options history (.poll environment) (history.poll check options environment)
  | meanwhile {world : World (Bridge Rest)} (same : channelTables world = history.tables) :
      TopicStep check options history .meanwhile { history with world := world }

def topicSystem (check : TextCheck) (options : Options) :
    TransitionSystem (TopicHistory Rest) TopicEvent where
  Initial history := history.world.server = .initial ∧
    (∃ environment rest, history.world.bridge = .initial environment rest) ∧
    history.added = 0 ∧ history.seen = []
  Step := TopicStep check options

/-- What is asked of an update: ROS runs and names its topics, fewer than `2 ^ 32`
channels are added in all, and the new ones can be written into a message. -/
def Regular (check : TextCheck) (options : Options) (history : TopicHistory Rest) :
    TopicEvent → Prop
  | .poll environment => environment.ok = true ∧ environment.Named ∧
      history.added + (newChannels options (history.given environment).bridge).length < 2 ^ 32 ∧
      Writable check (newChannels options (history.given environment).bridge)
  | .meanwhile => True

/-- Both tables list the same topics under the same ids, no topic twice, and exactly
the offered ones apart from those whose lookup failed in this update; topics keep
their ids, and no id was ever given to two topics. -/
structure Reconciled (options : Options) (environment : Environment)
    (before after : TopicHistory Rest) : Prop where
  same : ∀ id, (after.tables.advertised.held.lookup id).map topicOf =
    (after.tables.channels.lookup id).map fun channel => topicOf channel.toChannelWithoutId
  distinct : ∀ {id other channel another}, after.tables.advertised.held.lookup id = some channel →
    after.tables.advertised.held.lookup other = some another → topicOf channel = topicOf another →
    id = other
  offered : ∀ {topic}, after.tables.advertised.Holds topicOf topic →
    Offered options environment topic
  complete : ∀ {topic}, Offered options environment topic →
    after.tables.advertised.Holds topicOf topic ∨
      ¬ before.tables.advertised.Holds topicOf topic ∧
        environment.getFullMsgText topic.2 = .failed
  kept : ∀ {id other channel another},
    before.tables.advertised.held.lookup id = some channel →
    after.tables.advertised.held.lookup other = some another →
    topicOf channel = topicOf another → id = other
  once : ∀ {id first second}, (id, first) ∈ after.seen → (id, second) ∈ after.seen →
    first = second

section Latest

theorem offers_of_named (options : Options) {name : String} (named : name ≠ "") :
    ∃ offered, options.offers name = .ok offered ∧
      (offered = true ↔
        (options.includeHidden = true ∨ isHiddenTopicOrService name = .ok false) ∧
          isWhitelisted name options.topicWhitelistPatterns) := by
  rw [Options.offers, isHiddenTopicOrService, if_neg named]
  cases options.includeHidden with
  | true => exact ⟨_, rfl, by simp⟩
  | false => exact ⟨_, rfl, by simp⟩

/-- An entry of the snapshot offers the topic. -/
def OfferedBy (options : Options) (entry : Σ _ : String, TopicInfo) (topic : TopicAndDatatype) :
    Prop :=
  entry.1 = topic.1 ∧ topic.2 ∈ entry.2.types ∧
    (options.includeHidden = true ∨ isHiddenTopicOrService topic.1 = .ok false) ∧
    isWhitelisted topic.1 options.topicWhitelistPatterns

/-- One iteration of the loop over the snapshot. -/
theorem addTopic_ok {entry : Σ _ : String, TopicInfo} (named : entry.1 ≠ "")
    (latest : KeySet TopicAndDatatype) :
    ∃ extended, (do
        if ← options.offers entry.1 then
          pure (KeySet.insertAll (entry.2.types.map fun datatype => (entry.1, datatype)) latest)
        else
          pure latest : Except Fault (KeySet TopicAndDatatype)) = .ok extended ∧
      ∀ topic, topic ∈ extended ↔ topic ∈ latest ∨ OfferedBy options entry topic := by
  obtain ⟨offered, answer, meaning⟩ := offers_of_named options named
  rw [answer]
  cases offered with
  | true =>
    refine ⟨_, rfl, fun topic => ?_⟩
    have shown := meaning.mp rfl
    simp only [KeySet.mem_insertAll, List.mem_map]
    constructor
    · rintro (⟨datatype, listed, rfl⟩ | earlier)
      · exact .inr ⟨rfl, listed, shown⟩
      · exact .inl earlier
    · rintro (earlier | ⟨same, listed, -⟩)
      · exact .inr earlier
      · exact .inl ⟨topic.2, listed, Prod.ext same rfl⟩
  | false =>
    refine ⟨_, rfl, fun topic => (or_iff_left ?_).symm⟩
    rintro ⟨same, -, shown⟩
    rw [← same] at shown
    exact Bool.noConfusion (meaning.mpr shown)

/-- The topics an update advertises are the offered ones. -/
theorem latestTopics_ok (options : Options) {environment : Environment}
    (named : environment.Named) :
    ∃ latest, latestTopics options environment.topics = .ok latest ∧
      ∀ topic, topic ∈ latest ↔ Offered options environment topic := by
  have loop (entries : List (Σ _ : String, TopicInfo)) (names : ∀ entry ∈ entries, entry.1 ≠ "")
      (start : KeySet TopicAndDatatype) :
      ∃ latest, (entries.foldlM
          (fun latest topic => do
            if ← options.offers topic.1 then
              pure (KeySet.insertAll (topic.2.types.map fun datatype => (topic.1, datatype)) latest)
            else
              pure latest) start : Except Fault (KeySet TopicAndDatatype)) = .ok latest ∧
        ∀ topic, topic ∈ latest ↔
          topic ∈ start ∨ ∃ entry ∈ entries, OfferedBy options entry topic := by
    induction entries generalizing start with
    | nil => exact ⟨start, rfl, by simp⟩
    | cons entry rest ih =>
      obtain ⟨extended, iterates, extends_⟩ := addTopic_ok (names entry List.mem_cons_self) start
      obtain ⟨latest, folded, members⟩ := ih
        (fun later member => names later (List.mem_cons_of_mem _ member)) extended
      refine ⟨latest, ?_, fun topic => ?_⟩
      · rw [List.foldlM_cons, iterates]
        exact folded
      · rw [members topic, extends_ topic, List.exists_mem_cons_iff, or_assoc]
  have names : ∀ entry ∈ environment.topics.entries, entry.1 ≠ "" := fun entry member =>
    named entry.1 (List.mem_map_of_mem member)
  obtain ⟨latest, folded, members⟩ := loop environment.topics.entries names ∅
  refine ⟨latest, folded, fun topic => (members topic).trans ?_⟩
  constructor
  · rintro (impossible | ⟨⟨name, info⟩, member, same, listed, shown⟩)
    · exact absurd impossible (AList.notMem_empty topic)
    · cases same
      exact ⟨info, AList.mem_lookup_iff.mpr member, listed, shown⟩
  · rintro ⟨info, found, listed, shown⟩
    exact .inr ⟨⟨topic.1, info⟩, AList.mem_lookup_iff.mp found, rfl, listed, shown⟩

end Latest

section Exchange

variable {bridge : Bridge Rest} {latest : KeySet TopicAndDatatype}
variable {environment : Environment} {topic : TopicAndDatatype} (counter : UInt32)

/-- The topics of a node, under a counter. -/
def Bridge.registry (bridge : Bridge Rest) (counter : UInt32) : Registry ChannelWithoutId :=
  ⟨bridge.advertisedTopics, counter⟩

theorem isAdvertised_iff {topic : TopicAndDatatype} :
    bridge.isAdvertised topic = true ↔ (bridge.registry counter).Holds topicOf topic := by
  rw [Bridge.isAdvertised, List.any_eq_true]
  constructor
  · rintro ⟨channel, member, same⟩
    obtain ⟨id, found⟩ := (mem_values_iff _ _).mp member
    exact ⟨id, channel, found, of_decide_eq_true same⟩
  · rintro ⟨id, channel, found, same⟩
    exact ⟨channel, (mem_values_iff _ _).mpr ⟨id, found⟩, decide_eq_true same⟩

theorem mem_channelIdsToRemove {id : ChannelId} :
    id ∈ bridge.channelIdsToRemove latest ↔
      ∃ channel, bridge.advertisedTopics.lookup id = some channel ∧ topicOf channel ∉ latest := by
  rw [Bridge.channelIdsToRemove, List.mem_map]
  constructor
  · rintro ⟨⟨_, channel⟩, member, rfl⟩
    obtain ⟨entry, vanished⟩ := List.mem_filter.mp member
    exact ⟨channel, AList.mem_lookup_iff.mpr entry, of_decide_eq_true vanished⟩
  · rintro ⟨channel, found, vanished⟩
    exact ⟨⟨id, channel⟩, List.mem_filter.mpr
      ⟨AList.mem_lookup_iff.mp found, decide_eq_true vanished⟩, rfl⟩

/-- After the vanished topics are given up, those that are left are the ones that
are still there. -/
theorem holds_giveUp_iff {topic : TopicAndDatatype} :
    ((bridge.registry counter).giveUp (bridge.channelIdsToRemove latest)).Holds topicOf topic ↔
      (bridge.registry counter).Holds topicOf topic ∧ topic ∈ latest := by
  constructor
  · rintro ⟨id, channel, found, rfl⟩
    have earlier := Registry.lookup_of_giveUp found
    refine ⟨⟨id, channel, earlier, rfl⟩, ?_⟩
    by_contra vanished
    rw [Registry.lookup_giveUp, if_pos (mem_channelIdsToRemove.mpr ⟨channel, earlier, vanished⟩)]
      at found
    cases found
  · rintro ⟨⟨id, channel, found, rfl⟩, there⟩
    refine ⟨id, channel, ?_, rfl⟩
    rw [Registry.lookup_giveUp, if_neg, found]
    intro removed
    obtain ⟨stored, same, vanished⟩ := mem_channelIdsToRemove.mp removed
    rw [Bridge.registry] at found
    rw [found] at same
    cases same
    exact vanished there

theorem topicOf_newChannel {channel : ChannelWithoutId}
    (made : newChannel environment topic = some channel) :
    topicOf channel = topic := by
  rw [newChannel] at made
  split at made <;> cases made <;> rfl

theorem newChannel_eq_none_iff :
    newChannel environment topic = none ↔ environment.getFullMsgText topic.2 = .failed := by
  rw [newChannel]
  split <;> simp_all

/-- The topics an update adds, in the order it finds them. -/
theorem topics_missingChannels :
    (bridge.missingChannels latest).map topicOf = latest.keys.filter fun topic =>
      !(bridge.retire (bridge.channelIdsToRemove latest)).isAdvertised topic &&
        (newChannel bridge.environment topic).isSome := by
  rw [Bridge.missingChannels, Bridge.channelsToAdd, List.map_filterMap, ← List.filterMap_eq_filter]
  congr 1
  funext topic
  change Option.map topicOf (if _ then none else newChannel bridge.environment topic) = _
  cases advertised : (bridge.retire (bridge.channelIdsToRemove latest)).isAdvertised topic with
  | true => simp [Option.guard, advertised]
  | false =>
    cases made : newChannel bridge.environment topic with
    | none => simp [Option.guard, made]
    | some channel => simp [Option.guard, advertised, made, topicOf_newChannel made]

theorem topics_missingChannels_nodup : ((bridge.missingChannels latest).map topicOf).Nodup := by
  rw [topics_missingChannels]
  exact latest.keys_nodup.filter _

/-- The missing topics: those that are there, are not advertised and can be looked up. -/
theorem mem_missing_iff {topic : TopicAndDatatype} :
    topic ∈ (bridge.missingChannels latest).map topicOf ↔
      topic ∈ latest ∧ ¬ (bridge.registry counter).Holds topicOf topic ∧
        bridge.environment.getFullMsgText topic.2 ≠ .failed := by
  have retired : (bridge.retire (bridge.channelIdsToRemove latest)).isAdvertised topic = true ↔
      (bridge.registry counter).Holds topicOf topic ∧ topic ∈ latest :=
    (isAdvertised_iff counter).trans (holds_giveUp_iff counter)
  rw [topics_missingChannels, List.mem_filter, Bool.and_eq_true, Bool.not_eq_true',
    ← Bool.not_eq_true, retired, Option.isSome_iff_ne_none, Ne, newChannel_eq_none_iff]
  tauto

end Exchange

section Runs

variable {environment : Environment} {history next : TopicHistory Rest}

/-- The numbers given so far include all that were seen, and the server's table goes
along with the bridge's. -/
def TopicsAccounted (history : TopicHistory Rest) : Prop :=
  Mirrors Channel.toChannelWithoutId history.tables.advertised.held history.tables.channels ∧
    ∃ given, history.tables.advertised.Sound topicOf history.added given ∧
      ∀ entry ∈ history.seen, entry ∈ given

theorem mem_listed {tables : ChannelTables}
    (mirrors : Mirrors Channel.toChannelWithoutId tables.advertised.held tables.channels)
    {entry : ChannelId × TopicAndDatatype} (listed : entry ∈ tables.listed) :
    ∃ channel, tables.advertised.held.lookup entry.1 = some channel ∧
      topicOf channel = entry.2 := by
  rcases List.mem_append.mp listed with advertised | stored
  · obtain ⟨⟨id, channel⟩, member, rfl⟩ := List.mem_map.mp advertised
    exact ⟨channel, AList.mem_lookup_iff.mpr member, rfl⟩
  · obtain ⟨⟨id, channel⟩, member, rfl⟩ := List.mem_map.mp stored
    refine ⟨channel.toChannelWithoutId, ?_, rfl⟩
    rw [← mirrors id, AList.mem_lookup_iff.mpr member]
    rfl

theorem accounted_initial (initial : (topicSystem check options).Initial history) :
    TopicsAccounted history := by
  obtain ⟨server, ⟨environment, rest, bridge⟩, added, seen⟩ := initial
  have tables : history.tables = ⟨⟨∅, 0⟩, ∅⟩ := by
    rw [TopicHistory.tables, channelTables, server, bridge]
    rfl
  rw [TopicsAccounted, tables, added, seen]
  exact ⟨fun _ => rfl, [], Registry.sound_empty, fun _ member => absurd member List.not_mem_nil⟩

/-- An update of an orderly node: the vanished topics are given up and the missing
ones entered. -/
theorem poll_tables
    (mirrors : Mirrors Channel.toChannelWithoutId history.tables.advertised.held
      history.tables.channels)
    (regular : Regular check options history (.poll environment)) :
    ∃ latest : KeySet TopicAndDatatype,
      (∀ topic, topic ∈ latest ↔ Offered options environment topic) ∧
      newChannels options (history.given environment).bridge =
        (history.given environment).bridge.missingChannels latest ∧
      (history.poll check options environment).tables.advertised =
        (history.tables.advertised.giveUp (history.world.bridge.channelIdsToRemove latest)).enterAll
          ((history.given environment).bridge.missingChannels latest) ∧
      Mirrors Channel.toChannelWithoutId
        (history.poll check options environment).tables.advertised.held
        (history.poll check options environment).tables.channels := by
  obtain ⟨ok, named, -, writable⟩ := regular
  obtain ⟨latest, selected, members⟩ := latestTopics_ok options named
  have missing : newChannels options (history.given environment).bridge =
      (history.given environment).bridge.missingChannels latest := by
    change (match latestTopics options environment.topics with | .ok _ => _ | .error _ => _) = _
    rw [selected]
  rw [missing] at writable
  obtain ⟨reached, exchanged, advertised, mirrored⟩ :=
    exchangeChannels_tables (history.given environment) writable mirrors
  have updated : updateAdvertisedTopics check options (history.given environment) =
      (.ok (), reached) := by
    change (if environment.ok then _ else _ : ServerAction (Bridge Rest) Unit) _ = _
    rw [if_pos ok]
    change (Action.ofExcept (latestTopics options environment.topics) >>= _) _ = _
    rw [selected, Action.ofExcept_ok_bind_apply, exchanged]
  have tables : (history.poll check options environment).tables = channelTables reached := by
    rw [TopicHistory.tables, TopicHistory.poll, updated]
  rw [tables]
  exact ⟨latest, members, missing, advertised, mirrored⟩

/-- One update keeps the account and reconciles the tables. -/
theorem poll_reconciles (accounted : TopicsAccounted history)
    (regular : Regular check options history (.poll environment)) :
    TopicsAccounted (history.poll check options environment) ∧
      Reconciled options environment history (history.poll check options environment) := by
  obtain ⟨mirrors, given, sound, seen⟩ := accounted
  obtain ⟨latest, members, missing, advertised, mirrored⟩ := poll_tables mirrors regular
  have room := regular.2.2.1
  rw [missing] at room
  let counter := history.world.server.nextChannelId
  let bridge := (history.given environment).bridge
  -- What is left of the earlier topics, and what is missing.
  have left (topic : TopicAndDatatype) :
      (history.tables.advertised.giveUp (history.world.bridge.channelIdsToRemove latest)).Holds
          topicOf topic ↔ history.tables.advertised.Holds topicOf topic ∧ topic ∈ latest :=
    holds_giveUp_iff counter
  have added (topic : TopicAndDatatype) : topic ∈ (bridge.missingChannels latest).map topicOf ↔
      topic ∈ latest ∧ ¬ history.tables.advertised.Holds topicOf topic ∧
        environment.getFullMsgText topic.2 ≠ .failed :=
    mem_missing_iff counter
  have fresh : ∀ channel ∈ bridge.missingChannels latest,
      ¬ (history.tables.advertised.giveUp
        (history.world.bridge.channelIdsToRemove latest)).Holds topicOf (topicOf channel) :=
    fun channel member held =>
      ((added _).mp (List.mem_map_of_mem member)).2.1 ((left _).mp held).1
  obtain ⟨⟨more, entered⟩, holds, kept⟩ := (sound.giveUp
    (history.world.bridge.channelIdsToRemove latest)).enterAll room
      topics_missingChannels_nodup fresh
  rw [← advertised] at entered holds kept
  have account : ∀ entry ∈ (history.poll check options environment).seen,
      entry ∈ given ++ more := by
    intro entry member
    rcases List.mem_append.mp member with earlier | now
    · exact List.mem_append_left _ (seen entry earlier)
    · obtain ⟨channel, found, same⟩ := mem_listed mirrored now
      have recorded := entered.recorded found
      rw [same] at recorded
      exact recorded
  refine ⟨⟨mirrored, given ++ more, ?_, account⟩, ?_⟩
  · change Registry.Sound topicOf (history.added + (newChannels options bridge).length) _ _
    rw [missing]
    exact entered
  · exact
      { same := fun id => by
          rw [← mirrored id, Option.map_map]
          rfl
        distinct := fun first second same => entered.distinct first second same
        offered := fun {topic} held => by
          rcases (holds topic).mp held with before | new
          · exact (members topic).mp ((left topic).mp before).2
          · exact (members topic).mp ((added topic).mp new).1
        complete := fun {topic} offered => by
          have there := (members topic).mpr offered
          by_cases before : history.tables.advertised.Holds topicOf topic
          · exact .inl ((holds topic).mpr (.inl ((left topic).mpr ⟨before, there⟩)))
          by_cases failed : environment.getFullMsgText topic.2 = .failed
          · exact .inr ⟨before, failed⟩
          · exact .inl ((holds topic).mpr (.inr ((added topic).mpr ⟨there, before, failed⟩)))
        kept := fun {id other channel another} before after same => by
          -- The topic is still there, so its entry was not given up.
          have held : (history.poll check options environment).tables.advertised.Holds topicOf
              (topicOf channel) := ⟨other, another, after, same.symm⟩
          have there : topicOf channel ∈ latest := by
            rcases (holds _).mp held with earlier | new
            · exact ((left _).mp earlier).2
            · exact ((added _).mp new).1
          obtain ⟨number, stored, found, sameTopic⟩ :=
            (left _).mpr ⟨⟨id, channel, before, rfl⟩, there⟩
          have itself := sound.distinct (Registry.lookup_of_giveUp found) before sameTopic
          rw [itself] at found
          exact entered.distinct (kept found) after (sameTopic.trans same)
        once := fun first second =>
          entered.functional (account _ first) (account _ second) }

theorem accounted_step {event : TopicEvent} (accounted : TopicsAccounted history)
    (regular : Regular check options history event)
    (step : (topicSystem check options).Step history event next) : TopicsAccounted next := by
  cases step with
  | poll environment => exact (poll_reconciles accounted regular).1
  | meanwhile same =>
    rw [TopicsAccounted, TopicHistory.tables, same]
    exact accounted

end Runs

/-- After every update of a run whose updates could all write their new channels, the
tables of the bridge and of the server are reconciled with the snapshot. -/
theorem topics_reconciled (check : TextCheck) (options : Options) {events : List TopicEvent}
    {history next : TopicHistory Rest} {environment : Environment}
    (run : (topicSystem check options).GuardedRun (Regular check options) events history)
    (regular : Regular check options history (.poll environment))
    (step : (topicSystem check options).Step history (.poll environment) next) :
    Reconciled options environment history next := by
  have accounted : TopicsAccounted history :=
    run.invariant (fun _ => accounted_initial) accounted_step
  cases step with
  | poll => exact (poll_reconciles accounted regular).2

/-- A node that was just started. -/
def TopicHistory.start : TopicHistory Unit := ⟨.initial (.initial .quiet ()), 0, []⟩

/-- A snapshot with one topic of one datatype, whose definition is found. -/
def snapshotOf (name datatype schema : String) : Environment :=
  { Environment.quiet with
    topics := Table.emplace name ⟨[datatype], [], []⟩ ∅
    getFullMsgText := fun _ => .msg schema }

def openOptions : Options := ⟨true, [⟨fun _ => true⟩], [], []⟩

def chatter : Environment := snapshotOf "/chatter" "std_msgs/msg/String" "string data"

def rosout : Environment := snapshotOf "/rosout" "rcl_interfaces/msg/Log" "string msg"

def chatterHistory : TopicHistory Unit := TopicHistory.start.poll writesAll openOptions chatter

/-- One topic takes the place of another. -/
theorem topics_reconciled_chatter :
    chatterHistory.tables.advertised.Holds topicOf ("/chatter", "std_msgs/msg/String") ∧
      Reconciled openOptions rosout chatterHistory
        (chatterHistory.poll writesAll openOptions rosout) := by
  have named (name datatype schema : String) (nonempty : name ≠ "") :
      (snapshotOf name datatype schema).Named := by
    intro other member
    rcases (mem_emplace _ _ _ _).mp member with rfl | impossible
    · exact nonempty
    · exact absurd impossible (AList.notMem_empty other)
  have started : (topicSystem writesAll openOptions).GuardedRun
      (Regular writesAll openOptions) [] TopicHistory.start :=
    .initial ⟨rfl, ⟨_, _, rfl⟩, rfl, rfl⟩
  have first : Regular writesAll openOptions TopicHistory.start (.poll chatter) :=
    ⟨rfl, named _ _ _ (by decide), by decide +kernel, fun _ _ _ _ => rfl⟩
  have second : Regular writesAll openOptions chatterHistory (.poll rosout) :=
    ⟨rfl, named _ _ _ (by decide), by decide +kernel, fun _ _ _ _ => rfl⟩
  have run := started.step first (.poll chatter)
  refine ⟨⟨1, ⟨"/chatter", "cdr", "std_msgs/msg/String", "string data", some "ros2msg"⟩, ?_, rfl⟩,
    ?_⟩
  · decide +kernel
  · exact topics_reconciled writesAll openOptions run second (.poll _)

/-- A schema of one byte, `0xB0`, which is a degree sign in Latin-1 and no UTF-8. The
character `U+00B0` stands for that byte, since a `String` here holds text only. -/
def degreeSign : String := "\xb0"

/-- The library refuses that schema. -/
def refusesDegreeSign : TextCheck := fun text =>
  if text = degreeSign then
    .error (.std "[json.exception.type_error.316] invalid UTF-8 byte at index 0: 0xB0")
  else .ok ()

def temperature : Environment := snapshotOf "/temperature" "demo/msg/Celsius" degreeSign

/-- The channel stays in the server without an entry in the bridge, and every further
update of the same snapshot adds it once more. -/
theorem topics_not_reconciled :
    let once := TopicHistory.start.poll refusesDegreeSign openOptions temperature
    let twice := once.poll refusesDegreeSign openOptions temperature
    once.tables.advertised.held.lookup 1 = none ∧
      (once.tables.channels.lookup 1).map (topicOf ·.toChannelWithoutId) =
        some ("/temperature", "demo/msg/Celsius") ∧
      (twice.tables.channels.lookup 2).map (topicOf ·.toChannelWithoutId) =
        some ("/temperature", "demo/msg/Celsius") ∧
      (twice.tables.channels.lookup 1).map (topicOf ·.toChannelWithoutId) =
        some ("/temperature", "demo/msg/Celsius") ∧
      ¬ Reconciled openOptions temperature TopicHistory.start once := by
  refine ⟨by decide +kernel, by decide +kernel, by decide +kernel, by decide +kernel, ?_⟩
  intro reconciled
  have same := reconciled.same 1
  revert same
  decide +kernel

end CoBridge.Ros2
