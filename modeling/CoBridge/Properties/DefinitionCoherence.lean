import CoBridge.Ros2.MessageDefinitionCache

/-!
# What the message definition cache holds

Messages, services and actions share the map, but the format in a key tells which loader
filled it (`definitionMemo`). A load adds the entry it was asked for or, for an action, the
entries of all five messages. Each of them is read from the same file again if it is asked
for itself, because the action name is recovered from it
(`removeActionSubtype_append`). So the map only ever holds what a new cache would read
(`definitionMemo_coherent`), and no call can tell one such map from another
(`perform_matches`), wherever earlier calls were interrupted.
-/

namespace CoBridge.Ros2

open Library Action

variable {environment : DefinitionEnvironment} {identifier : DefinitionIdentifier}
  {entries : List (DefinitionIdentifier × MessageSpec)}
variable {format : MessageDefinitionFormat} {added : DefinitionIdentifier}

/-- Both loaders as one: the format tells which of them is used. -/
def definitionMemo (environment : DefinitionEnvironment) :
    Memo DefinitionIdentifier MessageSpec DefinitionFault where
  compute identifier :=
    match identifier.format with
    | .msg | .idl => newMessageSpecs environment identifier
    | .srvReq | .srvResp => newServiceSpecs environment identifier
  missing := missingSpec

/-- Two functions load definitions, whatever the format. -/
theorem definitionMemo_compute (environment : DefinitionEnvironment)
    (identifier : DefinitionIdentifier) :
    (definitionMemo environment).compute identifier = newMessageSpecs environment identifier ∨
      (definitionMemo environment).compute identifier = newServiceSpecs environment identifier := by
  obtain ⟨format, name⟩ := identifier
  cases format with
  | idl => exact .inl rfl
  | msg => exact .inl rfl
  | srvReq => exact .inr rfl
  | srvResp => exact .inr rfl

/-! ### What a load adds -/

/-- The text of a service definition is that of its file or a part of it. -/
theorem serviceText_cases {isService : Bool} {contents text : Text}
    (chosen : serviceText format isService contents = .ok text) :
    text = contents ∨ ∃ request response,
      splitServiceDefinition contents = .ok (request, response) ∧
        (text = request ∨ text = response) := by
  unfold serviceText at chosen
  split at chosen
  · split at chosen
    · cases chosen
    · next request response parted =>
        refine .inr ⟨request, response, parted, ?_⟩
        rw [← Except.ok.inj chosen]
        split
        · exact .inl rfl
        · exact .inr rfl
  · exact .inl (Except.ok.inj chosen).symm

/-- A service definition adds the entry that was asked for. -/
theorem newServiceSpecs_cases (computed : newServiceSpecs environment identifier = .ok entries) :
    ∃ package filename contents text isService,
      environment.readInterface package filename = .ok contents ∧
      serviceText identifier.format isService contents = .ok text ∧
      entries = [(identifier, .construct environment identifier.format text package)] := by
  unfold newServiceSpecs at computed
  split at computed
  · cases computed
  · next package subfolder typeName _ =>
      split at computed
      · cases computed
      · simp only at computed
        split at computed
        · cases computed
        · next contents read =>
            split at computed
            · cases computed
            · next text chosen =>
                exact ⟨package, _, contents, text, _, read, chosen, (Except.ok.inj computed).symm⟩

/-- A message definition adds the entry that was asked for, a type in the action folder
the entries of its action. -/
theorem newMessageSpecs_cases (computed : newMessageSpecs environment identifier = .ok entries) :
    (∃ package filename contents, environment.readInterface package filename = .ok contents ∧
      entries = [(identifier, .construct environment identifier.format contents package)]) ∨
    (∃ package typeName contents goalDef resultDef feedbackDef,
      matchPackageTypename identifier.packageResourceName =
        some ⟨package, "action".toList, typeName⟩ ∧
      environment.readInterface package (removeActionSubtype typeName ++ ".action".toList) =
        .ok contents ∧
      splitActionMsgDefinition contents = .ok (goalDef, resultDef, feedbackDef) ∧
      entries = actionEntries environment .msg package (removeActionSubtype typeName)
        (actionTypeDefinitions goalDef resultDef feedbackDef)) := by
  unfold newMessageSpecs at computed
  split at computed
  · cases computed
  · next package subfolder typeName matched =>
      split at computed
      · next isAction =>
          subst isAction
          right
          unfold newActionSpecs at computed
          simp only at computed
          split at computed
          · cases computed
          · next contents read =>
              split at computed
              · next isMsg =>
                  split at computed
                  · cases computed
                  · next goalDef resultDef feedbackDef parted =>
                      rw [isMsg] at computed
                      exact ⟨package, typeName, contents, goalDef, resultDef, feedbackDef, matched,
                        read, parted, (Except.ok.inj computed).symm⟩
              · cases computed
      · left
        split at computed
        · cases computed
        · next contents read =>
            exact ⟨package, _, contents, read, (Except.ok.inj computed).symm⟩

/-- The load of any message of an action adds the same entries. -/
theorem newMessageSpecs_subtype
    {package typeName contents goalDef resultDef feedbackDef suffix : Text}
    (packageName : isName package) (typeIsName : isName typeName)
    (read : environment.readInterface package (removeActionSubtype typeName ++ ".action".toList) =
      .ok contents)
    (parted : splitActionMsgDefinition contents = .ok (goalDef, resultDef, feedbackDef))
    (member : suffix ∈ actionSubtypeSuffixes) :
    newMessageSpecs environment
        ⟨.msg, package ++ "/action/".toList ++ (removeActionSubtype typeName ++ suffix)⟩ =
      .ok (actionEntries environment .msg package (removeActionSubtype typeName)
        (actionTypeDefinitions goalDef resultDef feedbackDef)) := by
  have matched := matchPackageTypename_join packageName (isName_subtype typeIsName member)
  have same := removeActionSubtype_append (removeActionSubtype typeName) member
  simp only [newMessageSpecs, newActionSpecs, matched, same, read, parted, if_true]

theorem valueIn_singleton {spec value : MessageSpec}
    (listed : valueIn added [(identifier, spec)] = some value) :
    added = identifier ∧ value = spec := by
  by_cases same : identifier = added
  · subst same
    simp only [valueIn, List.find?_cons, decide_true, Option.map_some, Option.some.injEq] at listed
    exact ⟨rfl, listed.symm⟩
  · simp [valueIn, same] at listed

theorem actionTypeDefinitions_suffixes (goalDef resultDef feedbackDef : Text) :
    (actionTypeDefinitions goalDef resultDef feedbackDef).map Prod.fst = actionSubtypeSuffixes :=
  rfl

/-- Every entry of an action is under the name of one of its messages. -/
theorem valueIn_actionEntries {package actionName goalDef resultDef feedbackDef : Text}
    {value : MessageSpec} (listed : valueIn added (actionEntries environment .msg package actionName
      (actionTypeDefinitions goalDef resultDef feedbackDef)) = some value) :
    ∃ definition ∈ actionTypeDefinitions goalDef resultDef feedbackDef,
      added = ⟨.msg, package ++ "/action/".toList ++ (actionName ++ definition.1)⟩ ∧
        value = .construct environment .msg definition.2 package := by
  obtain ⟨entry, found, rfl⟩ := Option.map_eq_some_iff.mp listed
  have named : entry.1 = added := by simpa using List.find?_some found
  obtain ⟨definition, member, rfl⟩ := List.mem_map.mp (List.mem_of_find?_eq_some found)
  exact ⟨definition, member, named.symm, rfl⟩

/-- Every entry that is added is what a new cache would read for it. -/
theorem definitionMemo_coherent (environment : DefinitionEnvironment) :
    (definitionMemo environment).Coherent := by
  intro key entries computed added value listed
  -- an entry that was asked for is the one a new cache reads
  have asked {spec : MessageSpec} (single : entries = [(key, spec)]) :
      (definitionMemo environment).fresh added = .ok value := by
    subst single
    obtain ⟨rfl, rfl⟩ := valueIn_singleton listed
    exact Memo.fresh_computed computed listed
  have own := computed
  rcases definitionMemo_compute environment key with message | service
  · rw [message] at own
    rcases newMessageSpecs_cases own with ⟨_, _, _, _, single⟩ |
      ⟨package, typeName, contents, goalDef, resultDef, feedbackDef, matched, read, parted, all⟩
    · exact asked single
    · subst all
      obtain ⟨definition, member, named, -⟩ := valueIn_actionEntries listed
      obtain ⟨packageName, typeIsName⟩ := matchPackageTypename_action matched
      have suffixed : definition.1 ∈ actionSubtypeSuffixes := by
        rw [← actionTypeDefinitions_suffixes goalDef resultDef feedbackDef]
        exact List.mem_map_of_mem member
      apply Memo.fresh_computed _ listed
      rw [named]
      exact newMessageSpecs_subtype packageName typeIsName read parted suffixed
  · rw [service] at own
    obtain ⟨_, _, _, _, _, _, _, single⟩ := newServiceSpecs_cases own
    exact asked single

/-! ### Calls on two caches -/

/-- Two caches that hold only what a new one would read. -/
def BothSound (environment : DefinitionEnvironment) (left right : SpecTable) : Prop :=
  (definitionMemo environment).Sound left ∧ (definitionMemo environment).Sound right

/-- Two such caches in calls that have seen the same dependencies. -/
def BothAppending (environment : DefinitionEnvironment) (left right : AppendState) : Prop :=
  BothSound environment left.1 right.1 ∧ left.2 = right.2

/-- The second depth is the first, or it may be larger where `exhausted` is excused. -/
def Deepens (excused : DefinitionFault → Prop) (depth deeper : Nat) : Prop :=
  depth = deeper ∨ depth ≤ deeper ∧ excused .exhausted

theorem loadMessageSpec_eq (name : Text) (used : format = .msg ∨ format = .idl) :
    loadMessageSpec environment ⟨format, name⟩ =
      (definitionMemo environment).load ⟨format, name⟩ := by
  rcases used with rfl | rfl
  · exact Memo.load_congr rfl rfl
  · exact Memo.load_congr rfl rfl

theorem loadServiceSpec_eq (name : Text) (used : format = .srvReq ∨ format = .srvResp) :
    loadServiceSpec environment ⟨format, name⟩ =
      (definitionMemo environment).load ⟨format, name⟩ := by
  rcases used with rfl | rfl
  · exact Memo.load_congr rfl rfl
  · exact Memo.load_congr rfl rfl

section Matching

variable {excused : DefinitionFault → Prop} {format : MessageDefinitionFormat}

theorem insertSeen_matches (dep : DefinitionIdentifier) :
    (insertSeen dep).Matches (BothAppending environment) excused (insertSeen dep) := by
  rintro ⟨left, seen⟩ ⟨right, _⟩ ⟨sound, rfl⟩
  exact .same ⟨sound, rfl⟩

theorem appendDependencies_matches
    {append other : DefinitionIdentifier → Action AppendState DefinitionFault Text}
    (appendMatches : ∀ name, (append ⟨format, name⟩).Matches (BothAppending environment) excused
      (other ⟨format, name⟩)) (names : List Text) (result : Text) :
    (appendDependencies append format names result).Matches (BothAppending environment) excused
      (appendDependencies other format names result) := by
  induction names generalizing result with
  | nil => exact matches_pure result
  | cons name rest ih =>
    apply (insertSeen_matches _).bind
    intro inserted
    cases inserted with
    | false => exact ih result
    | true =>
      apply (appendMatches name).bind
      intro appended
      exact ih _

variable {load : DefinitionIdentifier → Action SpecTable DefinitionFault MessageSpec}

/-- A deeper recursion appends the same, unless the other one runs out of depth. -/
theorem appendRecursive_matches
    (loads : ∀ name, load ⟨format, name⟩ = (definitionMemo environment).load ⟨format, name⟩)
    {depth deeper : Nat} (deepens : Deepens excused depth deeper) (name : Text) :
    (appendRecursive load depth ⟨format, name⟩).Matches (BothAppending environment) excused
      (appendRecursive load deeper ⟨format, name⟩) := by
  induction depth generalizing deeper name with
  | zero =>
    rcases deepens with rfl | ⟨-, allowed⟩
    · exact matches_throw _
    · exact matches_excused allowed _
  | succ depth ih =>
    obtain ⟨less, rfl, fewer⟩ : ∃ less, deeper = less + 1 ∧ Deepens excused depth less := by
      rcases deepens with rfl | ⟨bound, allowed⟩
      · exact ⟨depth, rfl, .inl rfl⟩
      · exact ⟨deeper - 1, by omega, .inr ⟨by omega, allowed⟩⟩
    have loaded : (load ⟨format, name⟩).Matches (BothSound environment) excused
        (load ⟨format, name⟩) := by
      rw [loads name]
      exact Memo.load_matches (definitionMemo_coherent environment) excused _
    apply loaded.onFirst.bind
    intro spec
    exact appendDependencies_matches (ih fewer) spec.dependencies spec.text

theorem unlessNotFound_matches {Value : Type}
    {body other : Action AppendState DefinitionFault Value}
    (only : ∀ fault, excused fault → fault = .exhausted)
    (bodyMatches : body.Matches (BothAppending environment) excused other) :
    (unlessNotFound body).Matches (BothAppending environment) excused (unlessNotFound other) := by
  apply Action.Matches.tryCatch
  · exact bodyMatches.bind fun value => matches_pure (some value)
  · intro fault
    cases fault with
    | definitionNotFound what => exact matches_pure none
    | invalidArgument what => exact matches_throw _
    | packageNotFound package => exact matches_throw _
    | exhausted => exact matches_throw _
  · intro fault allowed
    rw [only fault allowed]

/-- A call does not tell one sound cache from another. -/
theorem perform_matches (only : ∀ fault, excused fault → fault = .exhausted) {depth deeper : Nat}
    (deepens : Deepens excused depth deeper) (call : DefinitionCall) :
    (call.perform environment depth).Matches (BothSound environment) excused
      (call.perform environment deeper) := by
  cases call with
  | getFullMsgText root =>
    have appends {format : MessageDefinitionFormat} (used : format = .msg ∨ format = .idl) :
        (appendRecursive (loadMessageSpec environment) depth ⟨format, root⟩).Matches
          (BothAppending environment) excused
          (appendRecursive (loadMessageSpec environment) deeper ⟨format, root⟩) :=
      appendRecursive_matches (fun name => loadMessageSpec_eq name used) deepens root
    apply Action.Matches.withLocal
    apply (unlessNotFound_matches only (appends (.inl rfl))).bind
    rintro (_ | result)
    · exact (appends (.inr rfl)).bind fun appended => matches_pure _
    · exact matches_pure _
  | getFullSrvText name =>
    have appends {format : MessageDefinitionFormat}
        (used : format = .srvReq ∨ format = .srvResp) :
        (appendRecursive (loadServiceSpec environment) depth ⟨format, name⟩).Matches
          (BothAppending environment) excused
          (appendRecursive (loadServiceSpec environment) deeper ⟨format, name⟩) :=
      appendRecursive_matches (fun other => loadServiceSpec_eq other used) deepens name
    apply Action.Matches.withLocal
    apply (unlessNotFound_matches only (appends (.inl rfl))).bind
    rintro (_ | request)
    · exact matches_pure _
    · apply (unlessNotFound_matches only (appends (.inr rfl))).bind
      rintro (_ | response)
      · exact matches_pure _
      · exact matches_pure _

end Matching

/-- On a sound cache each call of a sequence ends as on a new cache. -/
theorem callOutcomes_of_sound {specs : SpecTable} (sound : (definitionMemo environment).Sound specs)
    (calls : List (Nat × DefinitionCall)) :
    callOutcomes environment calls specs =
      calls.map fun entry => (entry.2.perform environment entry.1 ∅).1 := by
  induction calls generalizing specs with
  | nil => rfl
  | cons entry rest ih =>
    obtain ⟨depth, call⟩ := entry
    have matched : (call.perform environment depth).Matches (BothSound environment)
        (fun _ => False) (call.perform environment depth) :=
      perform_matches (fun _ => False.elim) (.inl rfl) call
    have sounds : BothSound environment specs ∅ := ⟨sound, Memo.sound_empty _⟩
    obtain ⟨same, reached, -⟩ := matched.reached (fun _ => id) sounds
    exact congrArg₂ List.cons same (ih reached)

end CoBridge.Ros2
