import CoBridge.Library.DepthFirst
import CoBridge.Library.Traverse
import CoBridge.Properties.DefinitionCache

/-!
# Schemas with everything they depend on

What `append_recursive` produces, in terms of the graph of definitions: the text of the root
and one section for each definition below it, in depth-first order. The search fails with
the first definition in that order that cannot be loaded. The marks of one format do not
hinder a search in another, so the second attempt of `get_full_msg_text` starts anew.
-/

namespace CoBridge.Ros2

open Library Action

variable (environment : DefinitionEnvironment) (format : MessageDefinitionFormat)

/-- The definition of a name in a format, or why it cannot be loaded. -/
def specOf (name : Text) : Except DefinitionFault MessageSpec :=
  (definitionMemo environment).fresh ⟨format, name⟩

def IsDefined (name : Text) : Prop := ∃ spec, specOf environment format name = .ok spec

def dependenciesOf (name : Text) : List Text :=
  match specOf environment format name with
  | .ok spec => spec.dependencies
  | .error _ => []

def textOf (name : Text) : Text :=
  match specOf environment format name with
  | .ok spec => spec.text
  | .error _ => []

/-- An edge of the graph. -/
def DependsOn (name dependency : Text) : Prop := dependency ∈ dependenciesOf environment format name

/-- A definition below the root: a newline, the delimiter with its name, and its text. -/
def schemaSection (name text : Text) : Text := "\n".toList ++ delimiter ⟨format, name⟩ ++ text

/-- The text of the root followed by the sections. -/
def schemaText (root : Text) (order : List Text) : Text :=
  textOf environment format root ++
    order.flatMap fun name => schemaSection format name (textOf environment format name)

/-- The definitions below a root, in the order of their sections. -/
structure SchemaOrder (root : Text) (order : List Text) : Prop where
  preorder :
    DepthFirst (dependenciesOf environment format) ∅ (dependenciesOf environment format root)
    order
  ascending : ∀ name, (dependenciesOf environment format name).Pairwise (· < ·)
  once : order.Nodup
  reached : ∀ name, name ∈ order ↔ Relation.TransGen (DependsOn environment format) root name

/-- The section of a definition, if it can be loaded. -/
def sectionOf (name : Text) : Except DefinitionFault Text :=
  (specOf environment format name).map fun spec => schemaSection format name spec.text

/-- What a search through these definitions gives. -/
def schemaOutcome (root : Text) (order : List Text) : Except DefinitionFault Text := do
  let spec ← specOf environment format root
  let sections ← order.mapM (sectionOf environment format)
  return spec.text ++ sections.flatten

variable {environment format}
variable {load : DefinitionIdentifier → Action SpecTable DefinitionFault MessageSpec}

/-! ### Dependencies are a set in ascending order -/

theorem insertName_ascending {names : List Text} (sorted : names.Pairwise (· < ·)) (name : Text) :
    (insertName name names).Pairwise (· < ·) := by
  unfold insertName
  split
  next listed => exact sorted
  next absent =>
    have weak : (names.orderedInsert (· ≤ ·) name).Pairwise (· ≤ ·) :=
      (sorted.imp fun less => less.le).orderedInsert name names
    have distinct : (names.orderedInsert (· ≤ ·) name).Nodup := by
      rw [(names.perm_orderedInsert (· ≤ ·) name).nodup_iff, List.nodup_cons]
      exact ⟨absent, sorted.imp fun less => less.ne⟩
    exact weak.imp₂ (fun _ _ below different => lt_of_le_of_ne below different) distinct

theorem foldl_insertName_ascending {step : List Text → Text → List Text}
    (inserts : ∀ names type, step names type = names ∨
      ∃ name, step names type = insertName name names)
    (types : List Text) {names : List Text} (sorted : names.Pairwise (· < ·)) :
    (types.foldl step names).Pairwise (· < ·) := by
  induction types generalizing names with
  | nil => exact sorted
  | cons type rest ih =>
    apply ih
    rcases inserts names type with same | ⟨name, same⟩
    · rwa [same]
    · rw [same]
      exact insertName_ascending sorted name

theorem parseDependencies_ascending (environment : DefinitionEnvironment)
    (format : MessageDefinitionFormat) (text packageContext : Text) :
    (parseDependencies environment format text packageContext).Pairwise (· < ·) := by
  have msg : (parseMsgDependencies environment text packageContext).Pairwise (· < ·) := by
    refine foldl_insertName_ascending (fun names type => ?_) _ List.Pairwise.nil
    split
    next primitive => exact .inl rfl
    next other =>
      split
      next qualified => exact .inr ⟨_, rfl⟩
      next bare => exact .inr ⟨_, rfl⟩
  have idl : (parseIdlDependencies environment text).Pairwise (· < ·) :=
    foldl_insertName_ascending (fun names type => .inr ⟨type, rfl⟩) _ List.Pairwise.nil
  cases format with
  | idl => exact idl
  | msg => exact msg
  | srvReq => exact msg
  | srvResp => exact msg

theorem dependenciesOf_ascending (name : Text) :
    (dependenciesOf environment format name).Pairwise (· < ·) := by
  unfold dependenciesOf
  split
  next spec loaded =>
    obtain ⟨package, _, _, text, other, _, _, _, rfl⟩ := fresh_described loaded
    exact parseDependencies_ascending environment other text package
  next fault failed => exact List.Pairwise.nil

/-! ### The search -/

/-- The names that are marked as seen under a format. -/
def seenNames (format : MessageDefinitionFormat) (seen : KeySet DefinitionIdentifier) : Set Text :=
  {name | (⟨format, name⟩ : DefinitionIdentifier) ∈ seen}

/-- A part of the search from a state: it ends as expected unless it went too deep, and marks
what it has entered under its own format only. -/
structure Searched (environment : DefinitionEnvironment) (format : MessageDefinitionFormat)
    (expected : Except DefinitionFault Text) (entered : List Text)
    (before : KeySet DefinitionIdentifier) (ended : Except DefinitionFault Text × AppendState) :
    Prop where
  outcome : ended.1 = .error .exhausted ∨ ended.1 = expected
  sound : (definitionMemo environment).Sound ended.2.1
  others : ∀ dep, dep.format ≠ format → (dep ∈ ended.2.2 ↔ dep ∈ before)
  marked : (∃ text, ended.1 = .ok text) →
    seenNames format ended.2.2 = seenNames format before ∪ {name | name ∈ entered}

theorem seenNames_emplace (format : MessageDefinitionFormat) (name : Text)
    (seen : KeySet DefinitionIdentifier) :
    seenNames format (Table.emplace ⟨format, name⟩ () seen) =
      insert name (seenNames format seen) := by
  ext other
  change (⟨format, other⟩ : DefinitionIdentifier) ∈ Table.emplace ⟨format, name⟩ () seen ↔ _
  rw [Table.mem_emplace, DefinitionIdentifier.mk.injEq, and_iff_right rfl]
  rfl

/-- The sections of a definition and of what is below it, then those of the rest. -/
theorem sections_enter (name : Text) (inner later : List Text) (result : Text) :
    ((name :: (inner ++ later)).mapM (sectionOf environment format)).map
        (fun sections => result ++ sections.flatten) =
      schemaOutcome environment format name inner >>= fun text =>
        (later.mapM (sectionOf environment format)).map fun sections =>
          result ++ "\n".toList ++ delimiter ⟨format, name⟩ ++ text ++ sections.flatten := by
  rw [List.mapM_cons, List.mapM_append, schemaOutcome, sectionOf]
  cases specOf environment format name with
  | error fault => rfl
  | ok spec =>
    cases inner.mapM (sectionOf environment format) with
    | error fault => rfl
    | ok sections =>
      cases later.mapM (sectionOf environment format) with
      | error fault => rfl
      | ok others => simp [bind, Except.bind, pure, Except.pure, Except.map, schemaSection]

/-- The loop over the dependencies is a depth-first search. -/
theorem appendDependencies_searched
    {append : DefinitionIdentifier → Action AppendState DefinitionFault Text}
    (appends : ∀ name inner state, (definitionMemo environment).Sound state.1 →
      DepthFirst (dependenciesOf environment format) (seenNames format state.2)
        (dependenciesOf environment format name) inner →
      Searched environment format (schemaOutcome environment format name inner) inner state.2
        (append ⟨format, name⟩ state))
    {seen : Set Text} {deps order : List Text}
    (search : DepthFirst (dependenciesOf environment format) seen deps order) (result : Text)
    {state : AppendState} (sound : (definitionMemo environment).Sound state.1)
    (known : seenNames format state.2 = seen) :
    Searched environment format
      ((order.mapM (sectionOf environment format)).map fun sections => result ++ sections.flatten)
      order state.2 (appendDependencies append format deps result state) := by
  induction search generalizing result state with
  | done =>
    refine ⟨.inr ?_, sound, fun _ _ => Iff.rfl, fun _ => ?_⟩
    · change Except.ok result = .ok (result ++ [])
      rw [List.append_nil]
    · change seenNames format state.2 = _
      simp
  | @skip seen name rest order marked after ih =>
    subst known
    rw [appendDependencies_seen marked]
    exact ih result sound rfl
  | @enter seen name rest inner later new below after _ ih =>
    subst known
    rw [appendDependencies_new new]
    have marks := seenNames_emplace format name state.2
    have otherMarks (dep : DefinitionIdentifier) (other : dep.format ≠ format) :
        dep ∈ Table.emplace ⟨format, name⟩ () state.2 ↔ dep ∈ state.2 := by
      rw [Table.mem_emplace]
      exact or_iff_right fun same => other (congrArg DefinitionIdentifier.format same)
    have part := appends name inner (state.1, Table.emplace ⟨format, name⟩ () state.2) sound
      (marks ▸ below)
    rcases ran : append ⟨format, name⟩ (state.1, Table.emplace ⟨format, name⟩ () state.2) with
      ⟨fault | text, reached⟩
    · rw [ran] at part
      rw [bind_error ran]
      refine ⟨?_, part.sound, fun dep other => ?_, by rintro ⟨_, ⟨⟩⟩⟩
      · refine part.outcome.imp_right fun same => ?_
        rw [sections_enter, ← same]
        rfl
      · exact (part.others dep other).trans (otherMarks dep other)
    · rw [ran] at part
      rw [bind_ok ran]
      have same : schemaOutcome environment format name inner = .ok text :=
        (part.outcome.resolve_left (by rintro ⟨⟩)).symm
      have reachedMarks : seenNames format reached.2 =
          insert name (seenNames format state.2) ∪ {other | other ∈ inner} :=
        (part.marked ⟨text, rfl⟩).trans (by rw [marks])
      have rest := ih
        (result ++ "\n".toList ++ delimiter ⟨format, name⟩ ++ text) part.sound reachedMarks
      refine ⟨?_, rest.sound, fun dep other => ?_, fun returned => ?_⟩
      · rw [sections_enter, same]
        exact rest.outcome
      · exact (rest.others dep other).trans
          ((part.others dep other).trans (otherMarks dep other))
      · rw [rest.marked returned, reachedMarks]
        ext other
        simp only [Set.mem_union, Set.mem_insert_iff, Set.mem_ofPred_eq, List.mem_cons,
          List.mem_append]
        tauto

/-- The text of a definition and the sections below it. -/
theorem appendRecursive_searched
    (loads : ∀ name, load ⟨format, name⟩ = (definitionMemo environment).load ⟨format, name⟩)
    (depth : Nat) (name : Text) (inner : List Text) (state : AppendState)
    (sound : (definitionMemo environment).Sound state.1)
    (search : DepthFirst (dependenciesOf environment format) (seenNames format state.2)
      (dependenciesOf environment format name) inner) :
    Searched environment format (schemaOutcome environment format name inner) inner state.2
      (appendRecursive load depth ⟨format, name⟩ state) := by
  induction depth generalizing name inner state with
  | zero => exact ⟨.inl rfl, sound, fun _ _ => Iff.rfl, by rintro ⟨_, ⟨⟩⟩⟩
  | succ depth ih =>
    obtain ⟨outcome, kept⟩ :=
      Memo.load_of_sound (definitionMemo_coherent environment) sound ⟨format, name⟩
    rw [← loads name] at outcome kept
    rcases ran : load ⟨format, name⟩ state.1 with ⟨fault | spec, reached⟩
    · rw [ran] at outcome kept
      have failed : Action.onFirst (load ⟨format, name⟩) state =
          (.error fault, (reached, state.2)) := by
        rw [Action.onFirst, ran]
      have expected : schemaOutcome environment format name inner = .error fault := by
        rw [schemaOutcome, specOf, ← outcome]
        rfl
      rw [appendRecursive, bind_error failed, expected]
      exact ⟨.inr rfl, kept, fun _ _ => Iff.rfl, by rintro ⟨_, ⟨⟩⟩⟩
    · rw [ran] at outcome kept
      have returned : Action.onFirst (load ⟨format, name⟩) state =
          (.ok spec, (reached, state.2)) := by
        rw [Action.onFirst, ran]
      have loaded : specOf environment format name = .ok spec := outcome.symm
      have dependencies : dependenciesOf environment format name = spec.dependencies := by
        rw [dependenciesOf, loaded]
      have expected : schemaOutcome environment format name inner =
          (inner.mapM (sectionOf environment format)).map
            fun sections => spec.text ++ sections.flatten := by
        rw [schemaOutcome, loaded]
        cases inner.mapM (sectionOf environment format) <;> rfl
      rw [appendRecursive, bind_ok returned, expected]
      rw [dependencies] at search
      have started : (definitionMemo environment).Sound (reached, state.2).1 := kept
      exact appendDependencies_searched ih search spec.text started rfl

/-! ### What the search finds -/

/-- With finitely many packages and files the definitions below a root have an order. -/
theorem exists_schemaOrder (finite : environment.Finite) (format : MessageDefinitionFormat)
    (root : Text) : ∃ order, SchemaOrder environment format root order := by
  have names := dependencies_finite finite
  have bounded (name : Text) :
      ∀ dependency ∈ dependenciesOf environment format name, dependency ∈ names.toFinset := by
    intro dependency member
    unfold dependenciesOf at member
    split at member
    next spec loaded =>
      exact names.mem_toFinset.mpr ⟨⟨format, name⟩, spec, loaded, member⟩
    next fault failed => exact absurd member List.not_mem_nil
  obtain ⟨order, search⟩ := DepthFirst.exists_order (fun name _ => bounded name) ∅ (bounded root)
  refine ⟨order, search, dependenciesOf_ascending, search.nodup, fun name => ?_⟩
  rw [search.mem_iff, Relation.TransGen.head'_iff]
  rfl

section Outcome

variable {root : Text} {order : List Text}

theorem SchemaOrder.defined_iff (schema : SchemaOrder environment format root order) :
    (∀ name, Relation.ReflTransGen (DependsOn environment format) root name →
      IsDefined environment format name) ↔
    IsDefined environment format root ∧ ∀ name ∈ order, IsDefined environment format name := by
  constructor
  · intro all
    exact ⟨all root .refl, fun name member =>
      all name ((schema.reached name).mp member).to_reflTransGen⟩
  · rintro ⟨rootDefined, orderDefined⟩ name path
    rcases Relation.reflTransGen_iff_eq_or_transGen.mp path with rfl | steps
    · exact rootDefined
    · exact orderDefined name ((schema.reached name).mpr steps)

theorem sectionOf_defined {name : Text} (defined : IsDefined environment format name) :
    sectionOf environment format name =
      .ok (schemaSection format name (textOf environment format name)) := by
  obtain ⟨spec, loaded⟩ := defined
  rw [sectionOf, textOf, loaded]
  rfl

theorem mapM_sectionOf_defined (defined : ∀ name ∈ order, IsDefined environment format name) :
    order.mapM (sectionOf environment format) =
      .ok (order.map fun name => schemaSection format name (textOf environment format name)) := by
  induction order with
  | nil => rfl
  | cons name rest ih =>
    obtain ⟨first, others⟩ := List.forall_mem_cons.mp defined
    exact mapM_cons_ok.mpr ⟨_, _, sectionOf_defined first, ih others, rfl⟩

/-- Where everything that can be reached is defined, the search gives the whole text. -/
theorem SchemaOrder.outcome_defined (schema : SchemaOrder environment format root order)
    (defined : ∀ name, Relation.ReflTransGen (DependsOn environment format) root name →
      IsDefined environment format name) :
    schemaOutcome environment format root order =
      .ok (schemaText environment format root order) := by
  obtain ⟨⟨spec, loaded⟩, others⟩ := schema.defined_iff.mp defined
  rw [schemaOutcome, mapM_sectionOf_defined others, schemaText, textOf, loaded, List.flatMap]
  rfl

/-- A text is given only where everything is defined. -/
theorem SchemaOrder.defined_of_outcome (schema : SchemaOrder environment format root order)
    {text : Text} (found : schemaOutcome environment format root order = .ok text) :
    ∀ name, Relation.ReflTransGen (DependsOn environment format) root name →
      IsDefined environment format name := by
  rw [schema.defined_iff]
  rw [schemaOutcome] at found
  cases loaded : specOf environment format root with
  | error fault =>
    rw [loaded] at found
    cases found
  | ok spec =>
    cases searched : order.mapM (sectionOf environment format) with
    | error fault =>
      rw [loaded, searched] at found
      cases found
    | ok sections =>
      refine ⟨⟨spec, loaded⟩, fun name member => ?_⟩
      obtain ⟨made, sectioned⟩ := forall_of_mapM searched name member
      obtain ⟨own, ownLoaded, _⟩ := map_ok_iff.mp sectioned
      exact ⟨own, ownLoaded⟩

/-- The definitions themselves never are too deep. -/
theorem schemaOutcome_ne_exhausted (root : Text) (order : List Text) :
    schemaOutcome environment format root order ≠ .error .exhausted := by
  rw [schemaOutcome]
  cases loaded : specOf environment format root with
  | error fault =>
    rintro ⟨⟩
    exact fresh_ne_exhausted _ loaded
  | ok spec =>
    cases searched : order.mapM (sectionOf environment format) with
    | error fault =>
      rintro ⟨⟩
      obtain ⟨name, _, failed⟩ := mem_of_mapM_error searched
      rw [sectionOf] at failed
      cases own : specOf environment format name with
      | error other =>
        rw [own] at failed
        cases failed
        exact fresh_ne_exhausted _ own
      | ok spec =>
        rw [own] at failed
        cases failed
    | ok sections => rintro ⟨⟩

end Outcome

/-! ### Messages -/

/-- What the handler makes of an outcome. -/
def caught {Value : Type} : Except DefinitionFault Value → Except DefinitionFault (Option Value)
  | .ok value => .ok (some value)
  | .error (.definitionNotFound _) => .ok none
  | .error fault => .error fault

theorem unlessNotFound_apply {Value : Type} (body : Action AppendState DefinitionFault Value)
    (state : AppendState) :
    unlessNotFound body state = (caught (body state).1, (body state).2) := by
  rcases ran : body state with ⟨fault | value, reached⟩
  · rw [unlessNotFound, Action.tryCatch, bind_error ran]
    cases fault <;> rfl
  · rw [unlessNotFound, Action.tryCatch, bind_ok ran]
    rfl

/-- A depth that no search exceeds: more than there are dependencies. -/
def EnoughDepth (environment : DefinitionEnvironment) (depth : Nat) : Prop :=
  ∃ names : Finset Text, names.card < depth ∧
    ∀ identifier spec, (definitionMemo environment).fresh identifier = .ok spec →
      ∀ name ∈ spec.dependencies, name ∈ names

theorem exists_enoughDepth (finite : environment.Finite) :
    ∃ enough, ∀ depth, enough ≤ depth → EnoughDepth environment depth := by
  have names := dependencies_finite finite
  refine ⟨names.toFinset.card + 1, fun depth bound => ⟨names.toFinset, bound, ?_⟩⟩
  intro identifier spec loaded name member
  exact names.mem_toFinset.mpr ⟨identifier, spec, loaded, member⟩

/-- With enough depth a search ends as its definitions say. -/
theorem appendRecursive_outcome
    (loads : ∀ name, load ⟨format, name⟩ = (definitionMemo environment).load ⟨format, name⟩)
    {depth : Nat} (enough : EnoughDepth environment depth) {root : Text} {order : List Text}
    (schema : SchemaOrder environment format root order) {state : AppendState}
    (sound : (definitionMemo environment).Sound state.1) (unmarked : seenNames format state.2 = ∅) :
    (appendRecursive load depth ⟨format, root⟩ state).1 =
        schemaOutcome environment format root order ∧
      Searched environment format (schemaOutcome environment format root order) order state.2
        (appendRecursive load depth ⟨format, root⟩ state) := by
  obtain ⟨names, fewer, bounded⟩ := enough
  have searched := appendRecursive_searched loads depth root order state sound
    (unmarked ▸ schema.preorder)
  have spared := appendRecursive_spares bounded loads root sound
    ((unseen_le_card state.2).trans_lt fewer)
  exact ⟨searched.outcome.resolve_left spared.1, searched⟩

theorem seenNames_empty (format : MessageDefinitionFormat) :
    seenNames format (∅ : KeySet DefinitionIdentifier) = ∅ := by
  ext name
  exact iff_of_false (AList.notMem_empty _) (Set.notMem_empty _)

/-- A search in one format leaves another one unmarked. -/
theorem Searched.unmarked {other : MessageDefinitionFormat} {expected : Except DefinitionFault Text}
    {entered : List Text} {ended : Except DefinitionFault Text × AppendState}
    (searched : Searched environment format expected entered ∅ ended) (different : other ≠ format) :
    seenNames other ended.2.2 = ∅ := by
  rw [← seenNames_empty other]
  ext name
  exact searched.others ⟨other, name⟩ different

/-- Everything that can be reached is defined. -/
def AllDefined (environment : DefinitionEnvironment) (format : MessageDefinitionFormat)
    (root : Text) : Prop :=
  ∀ name, Relation.ReflTransGen (DependsOn environment format) root name →
    IsDefined environment format name

end CoBridge.Ros2
