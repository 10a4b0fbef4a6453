import CoBridge.Library.Memo
import CoBridge.Ros2.MessageDefinitions

/-!
# The message definition cache

`MessageDefinitionCache` keeps the definitions it has read in one map for messages,
services and actions. `getFullMsgText` and `getFullSrvText` join a definition with those
it depends on, each one once.

The recursion over dependencies is bounded by `depth`, the number of nested calls of
`append_recursive`.
-/

namespace CoBridge.Ros2

open Library

structure MessageSpec where
  dependencies : List Text
  text : Text
  format : MessageDefinitionFormat
deriving Repr, DecidableEq

def MessageSpec.construct (environment : DefinitionEnvironment) (format : MessageDefinitionFormat)
    (text packageContext : Text) : MessageSpec :=
  ⟨parseDependencies environment format text packageContext, text, format⟩

/-- `msg_specs_by_definition_identifier_`. -/
abbrev SpecTable : Type := Table DefinitionIdentifier MessageSpec

/-- What `load_message_spec` throws for a definition that could not be read. -/
def Absence.messageFault (packageResourceName package : Text) : Absence → DefinitionFault
  | .package => .packageNotFound package
  | .resource | .line _ | .file _ => .definitionNotFound packageResourceName

/-- What `load_service_spec` throws for a definition that could not be read. -/
def Absence.serviceFault (packageResourceName package filename : Text) : Absence → DefinitionFault
  | .package => .packageNotFound package
  | .resource =>
    .definitionNotFound
      ("get resource of 'rosidl_interfaces' failed: ".toList ++ packageResourceName)
  | .line indexContents =>
    .definitionNotFound
      ("find ".toList ++ filename ++ " in index_contents failed: ".toList ++ indexContents)
  | .file fullPath =>
    .definitionNotFound
      ("file ".toList ++ fullPath ++ " not found:".toList ++ packageResourceName)

def invalidPackageResourceName (packageResourceName : Text) : DefinitionFault :=
  .invalidArgument ("Invalid package resource name: ".toList ++ packageResourceName)

/-- `return_val`: the part of a service that was asked for, or the whole text. -/
def serviceText (format : MessageDefinitionFormat) (isService : Bool) (contents : Text) :
    Except DefinitionFault Text :=
  if isService then
    match splitServiceDefinition contents with
    | .error fault => .error fault
    | .ok (request, response) => .ok (if format = .srvReq then request else response)
  else .ok contents

section Loading

variable (environment : DefinitionEnvironment)

/-- The entries `load_service_spec` adds for an identifier that is not in the map. -/
def newServiceSpecs (identifier : DefinitionIdentifier) :
    Except DefinitionFault (List (DefinitionIdentifier × MessageSpec)) :=
  match matchPackageTypename identifier.packageResourceName with
  | none => .error (invalidPackageResourceName identifier.packageResourceName)
  | some ⟨package, subfolder, typeName⟩ =>
    if subfolder ≠ "srv".toList ∧ subfolder ≠ [] then
      .error (.invalidArgument ("Invalid subfolder: ".toList ++ subfolder))
    else
      let isService := decide (subfolder = "srv".toList)
      let filename :=
        if isService then typeName ++ ".srv".toList
        else typeName ++ extensionForFormat identifier.format
      match environment.readInterface package filename with
      | .error absence =>
        .error (absence.serviceFault identifier.packageResourceName package filename)
      | .ok contents =>
        match serviceText identifier.format isService contents with
        | .error fault => .error fault
        | .ok text => .ok [(identifier, .construct environment identifier.format text package)]

/-- The entries of the messages of an action, one for each definition. -/
def actionEntries (format : MessageDefinitionFormat) (package actionName : Text)
    (definitions : List (Text × Text)) : List (DefinitionIdentifier × MessageSpec) :=
  definitions.map fun definition =>
    (⟨format, package ++ "/action/".toList ++ (actionName ++ definition.1)⟩,
      .construct environment format definition.2 package)

/-- The entries `load_message_spec` adds for a type in the action folder: the five
messages of its action, with the fields that every action adds. -/
def newActionSpecs (identifier : DefinitionIdentifier) (package typeName : Text) :
    Except DefinitionFault (List (DefinitionIdentifier × MessageSpec)) :=
  let actionName := removeActionSubtype typeName
  match environment.readInterface package (actionName ++ ".action".toList) with
  | .error absence => .error (absence.messageFault identifier.packageResourceName package)
  | .ok contents =>
    if identifier.format = .msg then
      match splitActionMsgDefinition contents with
      | .error fault => .error fault
      | .ok (goalDef, resultDef, feedbackDef) =>
        .ok (actionEntries environment identifier.format package actionName
          (actionTypeDefinitions goalDef resultDef feedbackDef))
    else .error (.definitionNotFound identifier.packageResourceName)

/-- The entries `load_message_spec` adds for an identifier that is not in the map. -/
def newMessageSpecs (identifier : DefinitionIdentifier) :
    Except DefinitionFault (List (DefinitionIdentifier × MessageSpec)) :=
  match matchPackageTypename identifier.packageResourceName with
  | none => .error (invalidPackageResourceName identifier.packageResourceName)
  | some ⟨package, subfolder, typeName⟩ =>
    if subfolder = "action".toList then
      newActionSpecs environment identifier package typeName
    else
      match environment.readInterface package
          (typeName ++ extensionForFormat identifier.format) with
      | .error absence => .error (absence.messageFault identifier.packageResourceName package)
      | .ok contents =>
        .ok [(identifier, .construct environment identifier.format contents package)]

/-- The fault of an identifier that the added entries do not contain. -/
def missingSpec (identifier : DefinitionIdentifier) : DefinitionFault :=
  .definitionNotFound identifier.packageResourceName

/-- Look the identifier up, or read its definition and those read along with it. -/
def loadMessageSpec : DefinitionIdentifier → Action SpecTable DefinitionFault MessageSpec :=
  Memo.load ⟨newMessageSpecs environment, missingSpec⟩

/-- As `loadMessageSpec`; here the entry that is added is always the one asked for. -/
def loadServiceSpec : DefinitionIdentifier → Action SpecTable DefinitionFault MessageSpec :=
  Memo.load ⟨newServiceSpecs environment, missingSpec⟩

end Loading

/-- The map, and `seen_deps` of the call that is running. -/
abbrev AppendState : Type := SpecTable × KeySet DefinitionIdentifier

/-- `seen_deps.insert(dep).second`. -/
def insertSeen (dep : DefinitionIdentifier) :
    Action AppendState DefinitionFault Bool := fun state =>
  (.ok (dep ∉ state.2), (state.1, Table.emplace dep () state.2))

/-- The loop over the dependencies of a definition. -/
def appendDependencies (append : DefinitionIdentifier → Action AppendState DefinitionFault Text)
    (format : MessageDefinitionFormat) :
    List Text → Text → Action AppendState DefinitionFault Text
  | [], result => pure result
  | depName :: rest, result => do
    let inserted ← insertSeen ⟨format, depName⟩
    if inserted then
      let appended ← append ⟨format, depName⟩
      appendDependencies append format rest
        (result ++ "\n".toList ++ delimiter ⟨format, depName⟩ ++ appended)
    else appendDependencies append format rest result

section

variable {append : DefinitionIdentifier → Action AppendState DefinitionFault Text}
  {format : MessageDefinitionFormat} {depName : Text} {state : AppendState}

/-- A dependency that has been seen is passed over. -/
theorem appendDependencies_seen (seen : ⟨format, depName⟩ ∈ state.2) (rest : List Text)
    (result : Text) :
    appendDependencies append format (depName :: rest) result state =
      appendDependencies append format rest result state := by
  have kept : Table.emplace ⟨format, depName⟩ () state.2 = state.2 := Table.emplace_of_mem seen ()
  have found : insertSeen ⟨format, depName⟩ state = (.ok false, state) := by
    rw [insertSeen, kept, decide_eq_false (not_not_intro seen)]
  rw [appendDependencies, Action.bind_ok found]
  rfl

/-- A new one is appended with its delimiter, after it has been marked as seen. -/
theorem appendDependencies_new (unseen : ⟨format, depName⟩ ∉ state.2) (rest : List Text)
    (result : Text) :
    appendDependencies append format (depName :: rest) result state =
      (append ⟨format, depName⟩ >>= fun appended =>
        appendDependencies append format rest
          (result ++ "\n".toList ++ delimiter ⟨format, depName⟩ ++ appended))
        (state.1, Table.emplace ⟨format, depName⟩ () state.2) := by
  have found : insertSeen ⟨format, depName⟩ state =
      (.ok true, (state.1, Table.emplace ⟨format, depName⟩ () state.2)) := by
    rw [insertSeen, decide_eq_true unseen]
  rw [appendDependencies, Action.bind_ok found]
  rfl

end

/-- A definition followed by its dependencies. -/
def appendRecursive (load : DefinitionIdentifier → Action SpecTable DefinitionFault MessageSpec) :
    (depth : Nat) → DefinitionIdentifier → Action AppendState DefinitionFault Text
  | 0, _ => Action.throw .exhausted
  | depth + 1, identifier => do
    let spec ← Action.onFirst (load identifier)
    appendDependencies (appendRecursive load depth) identifier.format spec.dependencies spec.text

/-- `catch (const DefinitionNotFoundError &)`: nothing is returned, and other faults pass. -/
def unlessNotFound {Value : Type} (body : Action AppendState DefinitionFault Value) :
    Action AppendState DefinitionFault (Option Value) :=
  Action.tryCatch (do return some (← body)) fun fault =>
    match fault with
    | .definitionNotFound _ => pure none
    | other => Action.throw other

/-- What a call returns: a format with a text, or those of the request and the response. -/
inductive DefinitionReply where
  | msg (format : MessageDefinitionFormat) (text : Text)
  | srv (request response : MessageDefinitionFormat × Text)
deriving Repr, DecidableEq

section Calls

variable (environment : DefinitionEnvironment) (depth : Nat)

def getFullMsgText (rootPackageResourceName : Text) :
    Action SpecTable DefinitionFault DefinitionReply :=
  Action.withLocal (∅ : KeySet DefinitionIdentifier) do
    let append := appendRecursive (loadMessageSpec environment) depth
    match ← unlessNotFound (append ⟨.msg, rootPackageResourceName⟩) with
    | some result => return .msg .msg result
    | none =>
      let root : DefinitionIdentifier := ⟨.idl, rootPackageResourceName⟩
      let appended ← append root
      return .msg .idl (delimiter root ++ appended)

/-- The texts stay empty from the definition on that was not found. -/
def getFullSrvText (serviceName : Text) : Action SpecTable DefinitionFault DefinitionReply :=
  Action.withLocal (∅ : KeySet DefinitionIdentifier) do
    let append := appendRecursive (loadServiceSpec environment) depth
    match ← unlessNotFound (append ⟨.srvReq, serviceName⟩) with
    | none => return .srv (.srvReq, []) (.srvResp, [])
    | some request =>
      match ← unlessNotFound (append ⟨.srvResp, serviceName⟩) with
      | none => return .srv (.srvReq, request) (.srvResp, [])
      | some response => return .srv (.srvReq, request) (.srvResp, response)

end Calls

/-- A call of one of the two functions. -/
inductive DefinitionCall where
  | getFullMsgText (rootPackageResourceName : Text)
  | getFullSrvText (serviceName : Text)
deriving Repr, DecidableEq

def DefinitionCall.perform (environment : DefinitionEnvironment) (depth : Nat) :
    DefinitionCall → Action SpecTable DefinitionFault DefinitionReply
  | .getFullMsgText name => Ros2.getFullMsgText environment depth name
  | .getFullSrvText name => Ros2.getFullSrvText environment depth name

/-- What each call of a sequence on one cache returns or throws. A call that throws leaves
the entries it has added. -/
def callOutcomes (environment : DefinitionEnvironment) :
    List (Nat × DefinitionCall) → SpecTable → List (Except DefinitionFault DefinitionReply)
  | [], _ => []
  | (depth, call) :: rest, specs =>
    let ended := call.perform environment depth specs
    ended.1 :: callOutcomes environment rest ended.2

end CoBridge.Ros2
