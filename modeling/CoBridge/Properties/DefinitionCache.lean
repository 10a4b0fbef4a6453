import Mathlib.Data.Finset.Card
import Mathlib.Data.Set.Finite.Lattice
import CoBridge.Properties.DefinitionCoherence

/-!
# Transparency of the message definition cache

No sequence of calls can tell whether it runs on one cache or each call on a new one.
The outcomes are compared at every depth of the recursion, a depth that was exceeded
included. With finitely many packages and files there are finitely many dependencies, each
of which is entered once, so a depth above their number is never exceeded and a larger one
changes nothing.
-/

namespace CoBridge.Ros2

open Library Action Table

variable {environment : DefinitionEnvironment} {identifier : DefinitionIdentifier}
  {spec : MessageSpec}

/-- Finitely many packages are installed and finitely many files exist. -/
def DefinitionEnvironment.Finite (environment : DefinitionEnvironment) : Prop :=
  {package | (environment.getPackageShareDirectory package).isSome}.Finite ∧
    {path | (environment.readFile path).isSome}.Finite

/-- The texts that definitions are given from the contents of a file. -/
def definitionTexts (contents : Text) : List Text :=
  contents ::
    ((match splitServiceDefinition contents with
      | .ok (request, response) => [request, response]
      | .error _ => []) ++
    (match splitActionMsgDefinition contents with
      | .ok (goalDef, resultDef, feedbackDef) =>
        (actionTypeDefinitions goalDef resultDef feedbackDef).map Prod.snd
      | .error _ => []))

/-! ### The dependencies that can occur -/

/-- A definition comes from a file, in a package that is installed. -/
theorem fresh_described (loaded : (definitionMemo environment).fresh identifier = .ok spec) :
    ∃ package path contents text format,
      (environment.getPackageShareDirectory package).isSome ∧
      environment.readFile path = some contents ∧ text ∈ definitionTexts contents ∧
      spec = .construct environment format text package := by
  obtain ⟨entries, computed, listed⟩ := Memo.fresh_eq_ok loaded
  rcases definitionMemo_compute environment identifier with message | service
  · rw [message] at computed
    rcases newMessageSpecs_cases computed with ⟨package, filename, contents, read, rfl⟩ |
      ⟨package, typeName, contents, goalDef, resultDef, feedbackDef, -, read, parted, rfl⟩
    · obtain ⟨installed, path, stored⟩ := DefinitionEnvironment.readInterface_ok read
      obtain ⟨-, rfl⟩ := valueIn_singleton listed
      exact ⟨package, path, contents, contents, _, installed, stored, List.mem_cons_self, rfl⟩
    · obtain ⟨installed, path, stored⟩ := DefinitionEnvironment.readInterface_ok read
      obtain ⟨definition, member, -, rfl⟩ := valueIn_actionEntries listed
      refine ⟨package, path, contents, definition.2, _, installed, stored, ?_, rfl⟩
      apply List.mem_cons_of_mem
      rw [parted]
      exact List.mem_append_right _ (List.mem_map_of_mem member)
  · rw [service] at computed
    obtain ⟨package, filename, contents, text, _, read, chosen, rfl⟩ :=
      newServiceSpecs_cases computed
    obtain ⟨installed, path, stored⟩ := DefinitionEnvironment.readInterface_ok read
    obtain ⟨-, rfl⟩ := valueIn_singleton listed
    refine ⟨package, path, contents, text, _, installed, stored, ?_, rfl⟩
    rcases serviceText_cases chosen with rfl | ⟨request, response, parted, part⟩
    · exact List.mem_cons_self
    · apply List.mem_cons_of_mem
      rw [parted]
      apply List.mem_append_left
      rcases part with rfl | rfl
      · exact List.mem_cons_self
      · exact List.mem_cons_of_mem _ List.mem_cons_self

/-- Finitely many names are dependencies of a definition. -/
theorem dependencies_finite (finite : environment.Finite) :
    {name | ∃ identifier spec, (definitionMemo environment).fresh identifier = .ok spec ∧
      name ∈ spec.dependencies}.Finite := by
  obtain ⟨packages, files⟩ := finite
  have formats : (Set.univ : Set MessageDefinitionFormat).Finite :=
    (List.finite_toSet [.idl, .msg, .srvReq, .srvResp]).subset fun format _ => by
      cases format <;> simp
  apply Set.Finite.subset (packages.biUnion fun package _ => files.biUnion fun path _ =>
    (List.finite_toSet (definitionTexts ((environment.readFile path).getD []))).biUnion
      fun text _ => formats.biUnion fun format _ =>
        List.finite_toSet (parseDependencies environment format text package))
  rintro name ⟨identifier, spec, loaded, member⟩
  obtain ⟨package, path, contents, text, format, installed, stored, listed, rfl⟩ :=
    fresh_described loaded
  simp only [Set.mem_iUnion]
  refine ⟨package, installed, path, ?_, text, ?_, format, Set.mem_univ _, member⟩
  · simp [stored]
  · simpa [stored] using listed

/-! ### Faults that are not raised by reading -/

theorem splitActionMsgDefinition_ne_exhausted (contents : Text) :
    splitActionMsgDefinition contents ≠ .error .exhausted := by
  unfold splitActionMsgDefinition
  split <;> exact nofun

theorem serviceText_ne_exhausted (format : MessageDefinitionFormat) (isService : Bool)
    (contents : Text) : serviceText format isService contents ≠ .error .exhausted := by
  have parts : splitServiceDefinition contents ≠ .error .exhausted := by
    unfold splitServiceDefinition
    simp only
    split
    · split <;> exact nofun
    · exact nofun
  unfold serviceText
  split
  · split
    · next fault failed =>
        rintro ⟨⟩
        exact parts failed
    · exact nofun
  · exact nofun

theorem messageFault_ne_exhausted (absence : Absence) (packageResourceName package : Text) :
    absence.messageFault packageResourceName package ≠ .exhausted := by
  cases absence <;> exact nofun

theorem serviceFault_ne_exhausted (absence : Absence)
    (packageResourceName package filename : Text) :
    absence.serviceFault packageResourceName package filename ≠ .exhausted := by
  cases absence <;> exact nofun

theorem newMessageSpecs_ne_exhausted (identifier : DefinitionIdentifier) :
    newMessageSpecs environment identifier ≠ .error .exhausted := by
  unfold newMessageSpecs
  split
  · exact nofun
  · split
    · unfold newActionSpecs
      simp only
      split
      · intro failed
        exact messageFault_ne_exhausted _ _ _ (Except.error.inj failed)
      · split
        · split
          · next fault failed =>
              rintro ⟨⟩
              exact splitActionMsgDefinition_ne_exhausted _ failed
          · exact nofun
        · exact nofun
    · split
      · intro failed
        exact messageFault_ne_exhausted _ _ _ (Except.error.inj failed)
      · exact nofun

theorem fresh_ne_exhausted (identifier : DefinitionIdentifier) :
    (definitionMemo environment).fresh identifier ≠ .error .exhausted := by
  have missing : (definitionMemo environment).missing identifier ≠ .exhausted := nofun
  refine Memo.fresh_ne_error ?_ missing
  rcases definitionMemo_compute environment identifier with message | service
  · rw [message]
    exact newMessageSpecs_ne_exhausted identifier
  · rw [service]
    unfold newServiceSpecs
    split
    · exact nofun
    · split
      · exact nofun
      · simp only
        split
        · intro failed
          exact serviceFault_ne_exhausted _ _ _ _ (Except.error.inj failed)
        · split
          · next fault failed =>
              rintro ⟨⟩
              exact serviceText_ne_exhausted _ _ _ failed
          · exact nofun

/-! ### A depth that is enough -/

/-- The names that have not been seen under a format. -/
def unseen (names : Finset Text) (format : MessageDefinitionFormat)
    (seen : KeySet DefinitionIdentifier) : Nat :=
  (names.filter fun name => (⟨format, name⟩ : DefinitionIdentifier) ∉ seen).card

/-- What has been seen stays so. -/
def seenGrows : Guarantee AppendState where
  rel before after := ∀ dep ∈ before.2, dep ∈ after.2
  refl _ _ := id
  trans first second dep present := second dep (first dep present)

section

variable {names : Finset Text} {format : MessageDefinitionFormat}
  {load : DefinitionIdentifier → Action SpecTable DefinitionFault MessageSpec}
variable {append : DefinitionIdentifier → Action AppendState DefinitionFault Text}

theorem unseen_le_card (seen : KeySet DefinitionIdentifier) :
    unseen names format seen ≤ names.card :=
  Finset.card_filter_le _ _

theorem unseen_mono {before after : KeySet DefinitionIdentifier}
    (grown : ∀ dep ∈ before, dep ∈ after) :
    unseen names format after ≤ unseen names format before := by
  apply Finset.card_le_card
  intro name member
  obtain ⟨listed, absent⟩ := Finset.mem_filter.mp member
  exact Finset.mem_filter.mpr ⟨listed, fun present => absent (grown _ present)⟩

/-- Marking a new dependency as seen leaves fewer. -/
theorem unseen_emplace_lt {name : Text} {seen : KeySet DefinitionIdentifier}
    (listed : name ∈ names) (absent : (⟨format, name⟩ : DefinitionIdentifier) ∉ seen) :
    unseen names format (Table.emplace ⟨format, name⟩ () seen) < unseen names format seen := by
  apply Finset.card_lt_card
  rw [Finset.ssubset_iff_of_subset]
  · refine ⟨name, Finset.mem_filter.mpr ⟨listed, absent⟩, fun member => ?_⟩
    exact (Finset.mem_filter.mp member).2 ((mem_emplace _ _ _ _).mpr (.inl rfl))
  · intro other member
    obtain ⟨otherListed, otherAbsent⟩ := Finset.mem_filter.mp member
    refine Finset.mem_filter.mpr ⟨otherListed, fun present => otherAbsent ?_⟩
    exact (mem_emplace _ _ _ _).mpr (.inr present)

theorem appendDependencies_grows (appendGrows : ∀ dep, (append dep).Meets seenGrows)
    (deps : List Text) (result : Text) :
    (appendDependencies append format deps result).Meets seenGrows := by
  induction deps generalizing result with
  | nil => exact meets_pure result
  | cons name rest ih =>
    have marked : (insertSeen ⟨format, name⟩).Meets seenGrows := fun state dep present =>
      (mem_emplace _ _ _ _).mpr (.inr present)
    apply marked.bind
    intro inserted
    cases inserted with
    | false => exact ih result
    | true => exact (appendGrows _).bind fun appended => ih _

theorem appendRecursive_grows (depth : Nat) (identifier : DefinitionIdentifier) :
    (appendRecursive load depth identifier).Meets seenGrows := by
  induction depth generalizing identifier with
  | zero => exact meets_throw _
  | succ depth ih =>
    have loaded : (Action.onFirst (load identifier) :
        Action AppendState DefinitionFault MessageSpec).Meets seenGrows :=
      fun _ _ present => present
    apply loaded.bind
    intro spec
    exact appendDependencies_grows ih spec.dependencies spec.text

/-- A sound cache, in a call that has at most so many names left to see. -/
def LeftToSee (environment : DefinitionEnvironment) (names : Finset Text)
    (format : MessageDefinitionFormat) (depth : Nat) (state : AppendState) : Prop :=
  (definitionMemo environment).Sound state.1 ∧ unseen names format state.2 ≤ depth

/-- The loop stays within the depth that the definitions below it have. -/
theorem appendDependencies_spares {depth : Nat}
    (appendSpares : ∀ name state, (definitionMemo environment).Sound state.1 →
      unseen names format state.2 < depth →
      Action.Spares .exhausted (fun reached => (definitionMemo environment).Sound reached.1)
        (append ⟨format, name⟩ state)) (appendGrows : ∀ dep, (append dep).Meets seenGrows)
    {deps : List Text} (listed : ∀ name ∈ deps, name ∈ names) (result : Text) {state : AppendState}
    (holds : LeftToSee environment names format depth state) :
    Action.Spares .exhausted (LeftToSee environment names format depth)
      (appendDependencies append format deps result state) := by
  induction deps generalizing result state with
  | nil => exact spares_pure holds
  | cons name rest ih =>
    have restListed : ∀ other ∈ rest, other ∈ names := fun other member =>
      listed other (List.mem_cons_of_mem _ member)
    by_cases seen : (⟨format, name⟩ : DefinitionIdentifier) ∈ state.2
    · rw [appendDependencies_seen seen]
      exact ih restListed result holds
    · rw [appendDependencies_new seen]
      have fewer := unseen_emplace_lt (listed name List.mem_cons_self) seen
      have spared := appendSpares name (state.1, Table.emplace ⟨format, name⟩ () state.2) holds.1
        (Nat.lt_of_lt_of_le fewer holds.2)
      have grown := appendGrows ⟨format, name⟩ (state.1, Table.emplace ⟨format, name⟩ () state.2)
      have kept : LeftToSee environment names format depth
          (append ⟨format, name⟩ (state.1, Table.emplace ⟨format, name⟩ () state.2)).2 :=
        ⟨spared.2, (unseen_mono grown).trans (fewer.le.trans holds.2)⟩
      apply Action.Spares.bind ⟨spared.1, kept⟩
      intro appended reached _ reachedHolds
      exact ih restListed _ reachedHolds

/-- A depth above the number of names left to see is not exceeded. -/
theorem appendRecursive_spares
    (bounded : ∀ identifier spec, (definitionMemo environment).fresh identifier = .ok spec →
      ∀ name ∈ spec.dependencies, name ∈ names)
    (loads : ∀ name, load ⟨format, name⟩ = (definitionMemo environment).load ⟨format, name⟩)
    {depth : Nat} (name : Text) {state : AppendState}
    (sound : (definitionMemo environment).Sound state.1)
    (enough : unseen names format state.2 < depth) :
    Action.Spares .exhausted (fun reached => (definitionMemo environment).Sound reached.1)
      (appendRecursive load depth ⟨format, name⟩ state) := by
  induction depth generalizing name state with
  | zero => exact absurd enough (Nat.not_lt_zero _)
  | succ depth ih =>
    obtain ⟨outcome, kept⟩ :=
      Memo.load_of_sound (definitionMemo_coherent environment) sound ⟨format, name⟩
    rw [← loads name] at outcome kept
    have loaded : Action.Spares .exhausted (LeftToSee environment names format depth)
        (Action.onFirst (load ⟨format, name⟩) state) := by
      refine ⟨?_, kept, Nat.le_of_lt_succ enough⟩
      change (load ⟨format, name⟩ state.1).1 ≠ _
      rw [outcome]
      exact fresh_ne_exhausted _
    refine Action.Spares.mono (loaded.bind ?_) fun reached holds => holds.1
    intro spec reached returned holds
    have fresh : (definitionMemo environment).fresh ⟨format, name⟩ = .ok spec :=
      outcome.symm.trans returned
    exact appendDependencies_spares
      (fun other state sound left => ih other sound left)
      (appendRecursive_grows depth) (bounded _ spec fresh) spec.text holds

end

theorem unlessNotFound_spares {Value : Type} {kept : AppendState → Prop}
    {body : Action AppendState DefinitionFault Value} {state : AppendState}
    (spares : Action.Spares .exhausted kept (body state)) :
    Action.Spares .exhausted kept (unlessNotFound body state) := by
  apply Action.Spares.tryCatch
  · exact spares.bind fun value reached _ holds => spares_pure holds
  · intro fault reached other holds
    cases fault with
    | definitionNotFound what => exact spares_pure holds
    | invalidArgument what => exact ⟨nofun, holds⟩
    | packageNotFound package => exact ⟨nofun, holds⟩
    | exhausted => exact absurd rfl other

/-- A call with a depth above the number of dependencies does not exceed it. -/
theorem perform_ne_exhausted {names : Finset Text}
    (bounded : ∀ identifier spec, (definitionMemo environment).fresh identifier = .ok spec →
      ∀ name ∈ spec.dependencies, name ∈ names)
    {depth : Nat} (enough : names.card < depth) (call : DefinitionCall) :
    (call.perform environment depth ∅).1 ≠ .error .exhausted := by
  have empty : (definitionMemo environment).Sound ∅ := Memo.sound_empty _
  have less (format : MessageDefinitionFormat) (seen : KeySet DefinitionIdentifier) :
      unseen names format seen < depth := (unseen_le_card seen).trans_lt enough
  cases call with
  | getFullMsgText root =>
    have appends {format : MessageDefinitionFormat} (used : format = .msg ∨ format = .idl)
        {state : AppendState} (sound : (definitionMemo environment).Sound state.1) :
        Action.Spares .exhausted (fun reached => (definitionMemo environment).Sound reached.1)
          (appendRecursive (loadMessageSpec environment) depth ⟨format, root⟩ state) :=
      appendRecursive_spares bounded (fun name => loadMessageSpec_eq name used) root sound
        (less format state.2)
    refine ((unlessNotFound_spares (appends (.inl rfl) empty)).bind ?_).1
    rintro (_ | result) reached _ sound
    · exact (appends (.inr rfl) sound).bind fun _ _ _ holds => spares_pure holds
    · exact spares_pure sound
  | getFullSrvText name =>
    have appends {format : MessageDefinitionFormat}
        (used : format = .srvReq ∨ format = .srvResp)
        {state : AppendState} (sound : (definitionMemo environment).Sound state.1) :
        Action.Spares .exhausted (fun reached => (definitionMemo environment).Sound reached.1)
          (appendRecursive (loadServiceSpec environment) depth ⟨format, name⟩ state) :=
      appendRecursive_spares bounded (fun other => loadServiceSpec_eq other used) name sound
        (less format state.2)
    refine ((unlessNotFound_spares (appends (.inl rfl) empty)).bind ?_).1
    rintro (_ | request) reached _ sound
    · exact spares_pure sound
    · refine (unlessNotFound_spares (appends (.inr rfl) sound)).bind ?_
      rintro (_ | response) final _ finalSound
      · exact spares_pure finalSound
      · exact spares_pure finalSound

/-- A larger depth changes nothing for a call that did not exceed its own. -/
theorem perform_deeper {call : DefinitionCall} {depth deeper : Nat} (bound : depth ≤ deeper)
    (ended : (call.perform environment depth ∅).1 ≠ .error .exhausted) :
    (call.perform environment deeper ∅).1 = (call.perform environment depth ∅).1 := by
  have matched : (call.perform environment depth).Matches (BothSound environment)
      (fun fault => fault = .exhausted) (call.perform environment deeper) :=
    perform_matches (fun _ => id) (.inr ⟨bound, rfl⟩) call
  have alike := matched ∅ ∅ ⟨Memo.sound_empty _, Memo.sound_empty _⟩
  generalize call.perform environment depth ∅ = first at alike ended ⊢
  generalize call.perform environment deeper ∅ = second at alike ⊢
  cases alike with
  | @excuse fault _ _ allowed =>
    subst allowed
    exact absurd rfl ended
  | same _ => rfl

/-- Over every index and file system, each call of every sequence on one cache returns or
throws what it does on a new cache, at whatever depth of recursion. With finitely many
packages and files a depth is enough for every call. -/
theorem definition_cache_transparent (environment : DefinitionEnvironment) :
    (∀ calls : List (Nat × DefinitionCall),
      callOutcomes environment calls ∅ =
        calls.map fun entry => (entry.2.perform environment entry.1 ∅).1) ∧
    (environment.Finite →
      ∃ enough, ∀ (call : DefinitionCall) (depth : Nat), enough ≤ depth →
        (call.perform environment depth ∅).1 = (call.perform environment enough ∅).1 ∧
          (call.perform environment depth ∅).1 ≠ .error .exhausted) := by
  refine ⟨callOutcomes_of_sound (Memo.sound_empty _), fun finite => ?_⟩
  have names := dependencies_finite finite
  have bounded : ∀ identifier spec, (definitionMemo environment).fresh identifier = .ok spec →
      ∀ name ∈ spec.dependencies, name ∈ names.toFinset := by
    intro identifier spec loaded name member
    exact names.mem_toFinset.mpr ⟨identifier, spec, loaded, member⟩
  refine ⟨names.toFinset.card + 1, fun call depth bound => ⟨?_, ?_⟩⟩
  · exact perform_deeper bound (perform_ne_exhausted bounded (Nat.lt_succ_self _) call)
  · exact perform_ne_exhausted bounded bound call

/-- A package with an action, some messages of which depend on a package that is not
installed. The field types are the first words of the lines. -/
def fibonacciEnvironment : DefinitionEnvironment where
  getPackageShareDirectory package :=
    if package = "demo".toList then some "/share/demo".toList else none
  getResource package :=
    if package = "demo".toList then some "action/Fibonacci.action\nmsg/Pair.msg".toList else none
  readFile path :=
    if path = "/share/demo/action/Fibonacci.action".toList then
      some "int32 order\n---\nPair last\n---\nint32 current".toList
    else if path = "/share/demo/msg/Pair.msg".toList then
      some "int32 first\nint32 second".toList
    else none
  msgFieldTypes text := (splitString text "\n".toList).map (List.takeWhile (· ≠ ' '))
  idlFieldTypes _ := []

theorem fibonacciEnvironment_finite : fibonacciEnvironment.Finite := by
  constructor
  · apply (Set.finite_singleton "demo".toList).subset
    intro package installed
    by_contra other
    have absent : fibonacciEnvironment.getPackageShareDirectory package = none := if_neg other
    simp [absent] at installed
  · apply (List.finite_toSet ["/share/demo/action/Fibonacci.action".toList,
      "/share/demo/msg/Pair.msg".toList]).subset
    intro path stored
    by_contra other
    have neither : path ≠ "/share/demo/action/Fibonacci.action".toList ∧
        path ≠ "/share/demo/msg/Pair.msg".toList := by simpa using other
    have absent : fibonacciEnvironment.readFile path = none :=
      (if_neg neither.1).trans (if_neg neither.2)
    simp [absent] at stored

/-- The feedback is interrupted by a dependency that is not installed; the result, which
the same load has read, is complete. -/
theorem definition_cache_transparent_fibonacci :
    callOutcomes fibonacciEnvironment
        [(3, .getFullMsgText "demo/action/Fibonacci_FeedbackMessage".toList),
          (3, .getFullMsgText "demo/action/Fibonacci_GetResult_Response".toList)] ∅ =
      [.error (.packageNotFound "unique_identifier_msgs".toList),
        .ok (.msg .msg ("int8 status\nPair last\n".toList ++
          delimiter ⟨.msg, "demo/Pair".toList⟩ ++ "int32 first\nint32 second".toList))] ∧
    ∃ enough, ∀ (call : DefinitionCall) (depth : Nat), enough ≤ depth →
      (call.perform fibonacciEnvironment depth ∅).1 =
          (call.perform fibonacciEnvironment enough ∅).1 ∧
        (call.perform fibonacciEnvironment depth ∅).1 ≠ .error .exhausted := by
  obtain ⟨transparent, ends⟩ := definition_cache_transparent fibonacciEnvironment
  refine ⟨?_, ends fibonacciEnvironment_finite⟩
  rw [transparent]
  decide +kernel

end CoBridge.Ros2
