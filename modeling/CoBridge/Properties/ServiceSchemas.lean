import CoBridge.Properties.SchemaClosure

/-!
# Schemas of services

`get_full_srv_text` searches for the request and then for the response, inside one handler for
definitions that are not found. What the first search has found stays when the second one
fails: the request is returned with an empty response.
-/

namespace CoBridge.Ros2

open Library Action

variable {environment : DefinitionEnvironment} {serviceName : Text}

/-- What `get_full_srv_text` makes of its two searches. -/
def serviceReply (request response : Except DefinitionFault Text) :
    Except DefinitionFault DefinitionReply := do
  match ← caught request with
  | none => return .srv (.srvReq, []) (.srvResp, [])
  | some request =>
    match ← caught response with
    | none => return .srv (.srvReq, request) (.srvResp, [])
    | some response => return .srv (.srvReq, request) (.srvResp, response)

theorem getFullSrvText_eq {depth : Nat} (enough : EnoughDepth environment depth)
    {specs : SpecTable} (sound : (definitionMemo environment).Sound specs)
    {requestOrder responseOrder : List Text}
    (requestSchema : SchemaOrder environment .srvReq serviceName requestOrder)
    (responseSchema : SchemaOrder environment .srvResp serviceName responseOrder) :
    (getFullSrvText environment depth serviceName specs).1 =
      serviceReply (schemaOutcome environment .srvReq serviceName requestOrder)
        (schemaOutcome environment .srvResp serviceName responseOrder) := by
  have start : (definitionMemo environment).Sound (specs, (∅ : KeySet DefinitionIdentifier)).1 :=
    sound
  obtain ⟨requestOutcome, requestSearched⟩ := appendRecursive_outcome
    (fun name => loadServiceSpec_eq name (.inl rfl)) enough requestSchema start
    (seenNames_empty .srvReq)
  rw [getFullSrvText, Action.withLocal, serviceReply]
  have first := unlessNotFound_apply
    (appendRecursive (loadServiceSpec environment) depth ⟨.srvReq, serviceName⟩) (specs, ∅)
  rw [requestOutcome] at first
  rcases found : caught (schemaOutcome environment .srvReq serviceName requestOrder) with
    fault | (_ | request)
  · rw [found] at first
    rw [bind_error first]
    rfl
  · rw [found] at first
    rw [bind_ok first]
    rfl
  · rw [found] at first
    obtain ⟨responseOutcome, _⟩ := appendRecursive_outcome
      (fun name => loadServiceSpec_eq name (.inr rfl)) enough responseSchema requestSearched.sound
      (requestSearched.unmarked (by decide))
    have second := unlessNotFound_apply
      (appendRecursive (loadServiceSpec environment) depth ⟨.srvResp, serviceName⟩)
      (appendRecursive (loadServiceSpec environment) depth ⟨.srvReq, serviceName⟩ (specs, ∅)).2
    rw [responseOutcome] at second
    rw [bind_ok first]
    change ((unlessNotFound (appendRecursive (loadServiceSpec environment) depth
      ⟨.srvResp, serviceName⟩) >>= _) _).1 = _
    rcases answered : caught (schemaOutcome environment .srvResp serviceName responseOrder) with
      fault | (_ | response)
    · rw [answered] at second
      rw [bind_error second]
      rfl
    · rw [answered] at second
      rw [bind_ok second]
      rfl
    · rw [answered] at second
      rw [bind_ok second]
      rfl

/-- The text with everything the definition depends on. -/
def IsFullText (environment : DefinitionEnvironment) (format : MessageDefinitionFormat)
    (root text : Text) : Prop :=
  AllDefined environment format root ∧
    ∃ order, SchemaOrder environment format root order ∧
      text = schemaText environment format root order

/-- The call throws, or returns both halves in full, or two empty texts. -/
def CompleteOrAbsent (environment : DefinitionEnvironment) (serviceName : Text)
    (outcome : Except DefinitionFault DefinitionReply) : Prop :=
  (∃ fault, outcome = .error fault ∧ fault ≠ .exhausted) ∨
  ∃ request response, outcome = .ok (.srv (.srvReq, request) (.srvResp, response)) ∧
    (IsFullText environment .srvReq serviceName request ∧
        IsFullText environment .srvResp serviceName response ∨
      request = [] ∧ response = [])

/-- In the order of the search, the first definition that cannot be loaded is not found. -/
def MissesDefinition (environment : DefinitionEnvironment) (format : MessageDefinitionFormat)
    (root : Text) : Prop :=
  ∃ order, SchemaOrder environment format root order ∧
    ∃ before missing after what, root :: order = before ++ missing :: after ∧
      (∀ name ∈ before, IsDefined environment format name) ∧
      specOf environment format missing = .error (.definitionNotFound what)

/-- The request is there in full and is not empty, and the search for the response misses a
definition. -/
def ResponseLost (environment : DefinitionEnvironment) (serviceName : Text) : Prop :=
  (∃ request, IsFullText environment .srvReq serviceName request ∧ request ≠ []) ∧
    MissesDefinition environment .srvResp serviceName

section Missing

variable {format : MessageDefinitionFormat} {root name : Text} {order : List Text}
  {fault : DefinitionFault}

theorem sectionOf_error_iff :
    sectionOf environment format name = .error fault ↔
      specOf environment format name = .error fault := by
  rw [sectionOf]
  cases specOf environment format name <;> simp [Except.map]

theorem sectionOf_ok_iff :
    (∃ text, sectionOf environment format name = .ok text) ↔ IsDefined environment format name := by
  rw [sectionOf, IsDefined]
  cases specOf environment format name <;> simp [Except.map]

/-- The search fails as a load of one definition after the other would. -/
theorem schemaOutcome_error_iff :
    schemaOutcome environment format root order = .error fault ↔
      (root :: order).mapM (sectionOf environment format) = .error fault := by
  rw [schemaOutcome, List.mapM_cons, sectionOf]
  cases specOf environment format root with
  | error other => simp [bind, Except.bind, Except.map]
  | ok spec =>
    cases order.mapM (sectionOf environment format) with
    | error other => simp [bind, Except.bind, Except.map]
    | ok sections => exact iff_of_false (by rintro ⟨⟩) (by rintro ⟨⟩)

theorem missesDefinition_iff (schema : SchemaOrder environment format root order) :
    MissesDefinition environment format root ↔
      ∃ what, schemaOutcome environment format root order = .error (.definitionNotFound what) := by
  simp only [schemaOutcome_error_iff, mapM_error_iff, sectionOf_error_iff, sectionOf_ok_iff]
  constructor
  · rintro ⟨other, otherSchema, before, missing, after, what, split, defined, failed⟩
    rw [otherSchema.preorder.unique schema.preorder] at split
    exact ⟨what, before, missing, after, split, defined, failed⟩
  · rintro ⟨what, before, missing, after, split, defined, failed⟩
    exact ⟨order, schema, before, missing, after, what, split, defined, failed⟩

theorem isFullText_iff (schema : SchemaOrder environment format root order) (text : Text) :
    IsFullText environment format root text ↔
      schemaOutcome environment format root order = .ok text := by
  constructor
  · rintro ⟨defined, other, otherSchema, rfl⟩
    rw [otherSchema.preorder.unique schema.preorder]
    exact schema.outcome_defined defined
  · intro found
    have defined := schema.defined_of_outcome found
    refine ⟨defined, order, schema, ?_⟩
    rw [schema.outcome_defined defined] at found
    exact (Except.ok.inj found).symm

end Missing

/-- What was lost is the response of a request that was found. -/
theorem responseLost_iff {requestOrder responseOrder : List Text}
    (requestSchema : SchemaOrder environment .srvReq serviceName requestOrder)
    (responseSchema : SchemaOrder environment .srvResp serviceName responseOrder) :
    ResponseLost environment serviceName ↔
      (∃ request, schemaOutcome environment .srvReq serviceName requestOrder = .ok request ∧
        request ≠ []) ∧
      ∃ what, schemaOutcome environment .srvResp serviceName responseOrder =
        .error (.definitionNotFound what) := by
  rw [ResponseLost, missesDefinition_iff responseSchema]
  simp only [isFullText_iff requestSchema]

/-- The reply is complete or absent unless the second search alone misses a definition, after
a request that is not empty. -/
theorem serviceReply_iff {request response : Except DefinitionFault Text}
    (requestEnds : request ≠ .error .exhausted) (responseEnds : response ≠ .error .exhausted) :
    ((∃ fault, serviceReply request response = .error fault ∧ fault ≠ .exhausted) ∨
      ∃ first second,
        serviceReply request response = .ok (.srv (.srvReq, first) (.srvResp, second)) ∧
        (request = .ok first ∧ response = .ok second ∨ first = [] ∧ second = [])) ↔
    ¬ ((∃ text, request = .ok text ∧ text ≠ []) ∧
      ∃ what, response = .error (.definitionNotFound what)) := by
  cases request with
  | error fault =>
    refine iff_of_true ?_ (by rintro ⟨⟨_, ⟨⟩, _⟩, _⟩)
    cases fault with
    | definitionNotFound what => exact .inr ⟨[], [], rfl, .inr ⟨rfl, rfl⟩⟩
    | exhausted => exact absurd rfl requestEnds
    | invalidArgument what => exact .inl ⟨_, rfl, by rintro ⟨⟩⟩
    | packageNotFound package => exact .inl ⟨_, rfl, by rintro ⟨⟩⟩
  | ok text =>
    cases response with
    | ok answer =>
      exact iff_of_true (.inr ⟨text, answer, rfl, .inl ⟨rfl, rfl⟩⟩) (by rintro ⟨_, _, ⟨⟩⟩)
    | error fault =>
      cases fault with
      | definitionNotFound what =>
        constructor
        · rintro (⟨_, ⟨⟩, _⟩ | ⟨first, second, returned, ⟨_, ⟨⟩⟩ | ⟨rfl, rfl⟩⟩) ⟨inhabited, _⟩
          cases returned
          obtain ⟨_, ⟨⟩, some⟩ := inhabited
          exact some rfl
        · intro kept
          refine .inr ⟨text, [], rfl, .inr ⟨?_, rfl⟩⟩
          by_contra some
          exact kept ⟨⟨text, rfl, some⟩, what, rfl⟩
      | exhausted => exact absurd rfl responseEnds
      | invalidArgument what =>
        exact iff_of_true (.inl ⟨_, rfl, by rintro ⟨⟩⟩) (by rintro ⟨_, _, ⟨⟩⟩)
      | packageNotFound package =>
        exact iff_of_true (.inl ⟨_, rfl, by rintro ⟨⟩⟩) (by rintro ⟨_, _, ⟨⟩⟩)

/-- Over every finite store, and from every cache that earlier calls can leave, the schema of
a service is complete or absent unless its response is lost. -/
theorem service_schema_iff (environment : DefinitionEnvironment) (finite : environment.Finite)
    (specs : SpecTable) (sound : (definitionMemo environment).Sound specs) (serviceName : Text) :
    ∃ enough, ∀ depth, enough ≤ depth →
      (CompleteOrAbsent environment serviceName
          (getFullSrvText environment depth serviceName specs).1 ↔
        ¬ ResponseLost environment serviceName) := by
  obtain ⟨requestOrder, requestSchema⟩ := exists_schemaOrder finite .srvReq serviceName
  obtain ⟨responseOrder, responseSchema⟩ := exists_schemaOrder finite .srvResp serviceName
  obtain ⟨enough, deep⟩ := exists_enoughDepth finite
  refine ⟨enough, fun depth bound => ?_⟩
  rw [getFullSrvText_eq (deep depth bound) sound requestSchema responseSchema, CompleteOrAbsent,
    responseLost_iff requestSchema responseSchema]
  simp only [isFullText_iff requestSchema, isFullText_iff responseSchema]
  exact serviceReply_iff (schemaOutcome_ne_exhausted _ _) (schemaOutcome_ne_exhausted _ _)

/-- A store with two services. The message that the response of the first one has is not
there. The field types are the first words of the lines. -/
def tankEnvironment : DefinitionEnvironment where
  getPackageShareDirectory package :=
    List.lookup package [("demo".toList, "/share/demo".toList)]
  getResource package :=
    List.lookup package [("demo".toList, "srv/Fill.srv\nsrv/Drain.srv".toList)]
  readFile path :=
    List.lookup path
      [("/share/demo/srv/Fill.srv".toList, "int32 amount\n---\nLevel reached".toList),
        ("/share/demo/srv/Drain.srv".toList, "int32 amount\n---\nbool done".toList)]
  msgFieldTypes text :=
    ((splitString text "\n".toList).filter (· ≠ [])).map (List.takeWhile (· ≠ ' '))
  idlFieldTypes _ := []

theorem tankEnvironment_finite : tankEnvironment.Finite := by
  have listed (entries : List (Text × Text)) : {key | (entries.lookup key).isSome}.Finite := by
    refine (List.finite_toSet (entries.map Prod.fst)).subset fun key found => ?_
    by_contra absent
    have none : entries.lookup key = none := by
      rw [List.lookup_eq_none_iff]
      exact fun entry member => bne_iff_ne.mpr fun same =>
        absent (List.mem_map.mpr ⟨entry, member, same.symm⟩)
    rw [Set.mem_ofPred_eq, none] at found
    cases found
  exact ⟨listed _, listed _⟩

/-- The second service has nothing to miss. -/
theorem service_schema_drain :
    ∃ enough, ∀ depth, enough ≤ depth →
      CompleteOrAbsent tankEnvironment "demo/srv/Drain".toList
        (getFullSrvText tankEnvironment depth "demo/srv/Drain".toList ∅).1 := by
  obtain ⟨enough, ends⟩ := service_schema_iff tankEnvironment tankEnvironment_finite ∅
    (Memo.sound_empty _) "demo/srv/Drain".toList
  refine ⟨enough, fun depth bound => (ends depth bound).mpr ?_⟩
  rintro ⟨_, order, schema, before, missing, after, what, split, _, failed⟩
  have none : dependenciesOf tankEnvironment .srvResp "demo/srv/Drain".toList = [] := by
    decide +kernel
  have search := schema.preorder
  rw [none] at search
  cases search
  obtain ⟨rfl, rfl, rfl⟩ : before = [] ∧ missing = "demo/srv/Drain".toList ∧ after = [] := by
    cases before with
    | nil => simpa [eq_comm] using split
    | cons first rest => simp at split
  have loaded : (specOf tankEnvironment .srvResp "demo/srv/Drain".toList).isOk := by
    decide +kernel
  rw [failed] at loaded
  cases loaded

/-- The request of the first service is returned without its response. -/
theorem response_lost_fill :
    (getFullSrvText tankEnvironment 3 "demo/srv/Fill".toList ∅).1 =
        .ok (.srv (.srvReq, "int32 amount\n".toList) (.srvResp, [])) ∧
      ¬ CompleteOrAbsent tankEnvironment "demo/srv/Fill".toList
        (getFullSrvText tankEnvironment 3 "demo/srv/Fill".toList ∅).1 := by
  have returned : (getFullSrvText tankEnvironment 3 "demo/srv/Fill".toList ∅).1 =
      .ok (.srv (.srvReq, "int32 amount\n".toList) (.srvResp, [])) := by
    decide +kernel
  refine ⟨returned, ?_⟩
  rw [returned]
  rintro (⟨_, ⟨⟩, _⟩ | ⟨request, response, ⟨⟩, ⟨_, full⟩ | ⟨⟨⟩, _⟩⟩)
  have edge : DependsOn tankEnvironment .srvResp "demo/srv/Fill".toList "demo/Level".toList := by
    have listed : dependenciesOf tankEnvironment .srvResp "demo/srv/Fill".toList =
        ["demo/Level".toList] := by
      decide +kernel
    rw [DependsOn, listed]
    exact List.mem_cons_self
  obtain ⟨spec, loaded⟩ := full.1 "demo/Level".toList (.single edge)
  have missing : ¬ (specOf tankEnvironment .srvResp "demo/Level".toList).isOk := by
    decide +kernel
  rw [loaded] at missing
  exact missing rfl

end CoBridge.Ros2
