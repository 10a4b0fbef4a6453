import Mathlib.Data.Char
import Mathlib.Data.List.Lex
import Mathlib.Data.List.Sort

/-!
# Message definition files

How a definition is found from a package resource name, and how its text is taken
apart. The ament index and the file system are functions from names to texts or absence.
`std::regex` searches for the field types in a text; which types it finds is left to the
environment, and what is made of them (`parseDependencies`) is here.

A text is a list of characters, one for each byte of the `std::string`, so that texts are
ordered as `std::string` orders them.
-/

namespace CoBridge.Ros2

abbrev Text : Type := List Char

inductive MessageDefinitionFormat where
  | idl
  | msg
  | srvReq
  | srvResp
deriving Repr, DecidableEq

structure DefinitionIdentifier where
  format : MessageDefinitionFormat
  packageResourceName : Text
deriving Repr, DecidableEq

/-- The exceptions of the cache. `exhausted` stands for a recursion that goes deeper than
it is allowed to, which no handler catches. -/
inductive DefinitionFault where
  | definitionNotFound (what : Text)
  | invalidArgument (what : Text)
  | packageNotFound (package : Text)
  | exhausted
deriving Repr, DecidableEq

/-- The ament index, the file system and the field type searches. -/
structure DefinitionEnvironment where
  getPackageShareDirectory : Text → Option Text
  /-- The `rosidl_interfaces` resource of a package. -/
  getResource : Text → Option Text
  readFile : Text → Option Text
  /-- The first groups of the matches of `MSG_FIELD_TYPE_REGEX`. -/
  msgFieldTypes : Text → List Text
  /-- The first groups of the matches of `IDL_FIELD_TYPE_REGEX`. -/
  idlFieldTypes : Text → List Text

/-! ### Package resource names -/

/-- The character class `[a-zA-Z0-9_]`. -/
def isNameCharacter (character : Char) : Bool :=
  ('a' ≤ character && character ≤ 'z') || ('A' ≤ character && character ≤ 'Z') ||
    ('0' ≤ character && character ≤ '9') || character = '_'

/-- One or more characters of the class. -/
def isName (text : Text) : Bool := !text.isEmpty && text.all isNameCharacter

/-- The groups of `PACKAGE_TYPENAME_REGEX`; a subfolder that did not match is empty. -/
structure PackageTypename where
  package : Text
  subfolder : Text
  typeName : Text
deriving Repr, DecidableEq

/-- A match of `PACKAGE_TYPENAME_REGEX` with the whole name. No group contains a slash, so
the slashes of the name separate the groups. -/
def matchPackageTypename (packageResourceName : Text) : Option PackageTypename :=
  match packageResourceName.splitOn '/' with
  | [package, typeName] =>
    if isName package && isName typeName then some ⟨package, [], typeName⟩ else none
  | [package, subfolder, typeName] =>
    if isName package && ["msg".toList, "srv".toList, "action".toList].contains subfolder &&
        isName typeName then
      some ⟨package, subfolder, typeName⟩
    else none
  | _ => none

/-! ### Texts -/

/-- Split at the delimiter from left to right. The number counts the characters of a
delimiter that are still to be passed. -/
def splitLoop (delimiter : Text) : Nat → Text → Text × List Text
  | _, [] => ([], [])
  | passing + 1, _ :: rest => splitLoop delimiter passing rest
  | 0, character :: rest =>
    if delimiter.isPrefixOf (character :: rest) then
      let found := splitLoop delimiter (delimiter.length - 1) rest
      ([], found.1 :: found.2)
    else
      let found := splitLoop delimiter 0 rest
      (character :: found.1, found.2)

def splitString (text delimiter : Text) : List Text :=
  (splitLoop delimiter 0 text).1 :: (splitLoop delimiter 0 text).2

/-- The goal, the result and the feedback of an action. -/
def splitActionMsgDefinition (actionDefinition : Text) :
    Except DefinitionFault (Text × Text × Text) :=
  match splitString actionDefinition "\n---\n".toList with
  | [goalDef, resultDef, feedbackDef] => .ok (goalDef, resultDef, feedbackDef)
  | _ => .error (.invalidArgument ("Invalid action definition:\n".toList ++ actionDefinition))

/-- The first of the two replacements of `split_service_definition`. -/
def replaceReturnNewline : Text → Text
  | '\r' :: '\n' :: rest => '\n' :: replaceReturnNewline rest
  | character :: rest => character :: replaceReturnNewline rest
  | [] => []

/-- The loop over the lines: those before the first separator go to the request. -/
def collectLines : (isRequest : Bool) → List Text → Text × Text → Text × Text
  | _, [], collected => collected
  | isRequest, line :: rest, (request, response) =>
    if line = "---".toList then collectLines false rest (request, response)
    else if isRequest then collectLines true rest (request ++ line ++ "\n".toList, response)
    else collectLines false rest (request, response ++ line ++ "\n".toList)

/-- The request and the response of a service. -/
def splitServiceDefinition (serviceDefinition : Text) : Except DefinitionFault (Text × Text) :=
  let normalized := (replaceReturnNewline serviceDefinition).map fun character =>
    if character = '\r' then '\n' else character
  match splitString normalized "\n".toList with
  | [line] =>
    if line = "---".toList then .ok (collectLines true [line] ([], []))
    else .error (.invalidArgument ("Invalid service definition:\n".toList ++ serviceDefinition))
  | lines => .ok (collectLines true lines ([], []))

/-! ### Action subtypes -/

/-- The suffixes of the five messages of an action. -/
def actionSubtypeSuffixes : List Text :=
  ["_FeedbackMessage".toList, "_GetResult_Request".toList, "_GetResult_Response".toList,
    "_SendGoal_Request".toList, "_SendGoal_Response".toList]

/-- The name without the first of the suffixes that it ends with. -/
def removeActionSubtype (actionType : Text) : Text :=
  match actionSubtypeSuffixes.find? fun suffix => suffix.isSuffixOf actionType with
  | some suffix => actionType.take (actionType.length - suffix.length)
  | none => actionType

/-- `action_type_definitions`, in the order of the map. -/
def actionTypeDefinitions (goalDef resultDef feedbackDef : Text) : List (Text × Text) :=
  [("_FeedbackMessage".toList, "unique_identifier_msgs/UUID goal_id\n".toList ++ feedbackDef),
    ("_GetResult_Request".toList, "unique_identifier_msgs/UUID goal_id\n".toList),
    ("_GetResult_Response".toList, "int8 status\n".toList ++ resultDef),
    ("_SendGoal_Request".toList, "unique_identifier_msgs/UUID goal_id\n".toList ++ goalDef),
    ("_SendGoal_Response".toList, "bool accepted\nbuiltin_interfaces/msg/Time stamp".toList)]

/-- A suffix that ends with another one is the other one. -/
theorem eq_of_suffix_subtype {first second : Text} (firstMember : first ∈ actionSubtypeSuffixes)
    (secondMember : second ∈ actionSubtypeSuffixes) (ends : first <:+ second) : first = second := by
  have distinct : ∀ first ∈ actionSubtypeSuffixes, ∀ second ∈ actionSubtypeSuffixes,
      first <:+ second → first = second := by decide
  exact distinct first firstMember second secondMember ends

/-- An action name is recovered from the name of each of its messages. -/
theorem removeActionSubtype_append (actionName : Text) {suffix : Text}
    (member : suffix ∈ actionSubtypeSuffixes) :
    removeActionSubtype (actionName ++ suffix) = actionName := by
  have own : suffix <:+ actionName ++ suffix := List.suffix_append actionName suffix
  have found : actionSubtypeSuffixes.find? (fun other => other.isSuffixOf (actionName ++ suffix)) =
      some suffix := by
    cases search : actionSubtypeSuffixes.find? fun other =>
        other.isSuffixOf (actionName ++ suffix) with
    | none =>
      have missed := List.find?_eq_none.mp search suffix member
      exact absurd (List.isSuffixOf_iff_suffix.mpr own) missed
    | some other =>
      have otherMember := List.mem_of_find?_eq_some search
      have ends : other <:+ actionName ++ suffix := by
        simpa using List.find?_some search
      -- both are ends of one name, so one is an end of the other
      rcases List.suffix_or_suffix_of_suffix ends own with shorter | shorter
      · rw [eq_of_suffix_subtype otherMember member shorter]
      · rw [eq_of_suffix_subtype member otherMember shorter]
  rw [removeActionSubtype, found]
  simp

variable {typeName package packageContext : Text} {environment : DefinitionEnvironment}

/-- The messages of an action whose type has a name have names. -/
theorem isName_subtype {suffix : Text} (name : isName typeName)
    (member : suffix ∈ actionSubtypeSuffixes) :
    isName (removeActionSubtype typeName ++ suffix) := by
  have suffixName : ∀ suffix ∈ actionSubtypeSuffixes, isName suffix := by decide
  obtain ⟨nonempty, suffixAll⟩ := Bool.and_eq_true_iff.mp (suffixName suffix member)
  have all := List.all_eq_true.mp (Bool.and_eq_true_iff.mp name).2
  have kept : ∀ character ∈ removeActionSubtype typeName, character ∈ typeName := by
    intro character present
    unfold removeActionSubtype at present
    split at present
    · exact List.mem_of_mem_take present
    · exact present
  apply Bool.and_eq_true_iff.mpr
  constructor
  · cases suffix with
    | nil => exact absurd nonempty (by decide)
    | cons first rest => simp
  · rw [List.all_append, Bool.and_eq_true]
    exact ⟨List.all_eq_true.mpr fun character present => all character (kept character present),
      suffixAll⟩

/-! ### Dependencies -/

def primitiveTypes : List Text :=
  ["bool", "byte", "char", "float32", "float64", "int8", "uint8", "int16", "uint16", "int32",
    "uint32", "int64", "uint64", "string"].map String.toList

/-- Insertion into a `std::set<std::string>`, which is iterated over in ascending order. -/
def insertName (name : Text) (names : List Text) : List Text :=
  if name ∈ names then names else names.orderedInsert (· ≤ ·) name

def parseMsgDependencies (environment : DefinitionEnvironment) (text packageContext : Text) :
    List Text :=
  (environment.msgFieldTypes text).foldl (fun dependencies type =>
    if type ∈ primitiveTypes then dependencies
    else if '/' ∈ type then insertName type dependencies
    else insertName (packageContext ++ '/' :: type) dependencies) []

/-- What `parse_msg_dependencies` inserts for a type it found. -/
def inserted? (packageContext type : Text) : Option Text :=
  if type ∈ primitiveTypes then none
  else some (if '/' ∈ type then type else packageContext ++ '/' :: type)

theorem mem_insertName {name other : Text} {names : List Text} :
    other ∈ insertName name names ↔ other = name ∨ other ∈ names := by
  unfold insertName
  split
  next member =>
    constructor
    · exact .inr
    · rintro (rfl | present)
      · exact member
      · exact present
  next absent => exact List.mem_orderedInsert (· ≤ ·)

theorem mem_foldl_inserted {dependency : Text} (types dependencies : List Text) :
    dependency ∈ types.foldl (fun dependencies type =>
        if type ∈ primitiveTypes then dependencies
        else if '/' ∈ type then insertName type dependencies
        else insertName (packageContext ++ '/' :: type) dependencies) dependencies ↔
      dependency ∈ dependencies ∨
        ∃ type ∈ types, inserted? packageContext type = some dependency := by
  induction types generalizing dependencies with
  | nil => simp
  | cons type types ih =>
    rw [List.foldl_cons, ih]
    simp only [List.mem_cons, or_and_right, exists_or, exists_eq_left, ← or_assoc]
    refine or_congr_left ?_
    unfold inserted?
    split
    next primitive => simp
    next other =>
      split
      next qualified => rw [mem_insertName, or_comm, Option.some_inj, eq_comm]
      next bare => rw [mem_insertName, or_comm, Option.some_inj, eq_comm]

theorem mem_parseMsgDependencies {text dependency : Text} :
    dependency ∈ parseMsgDependencies environment text packageContext ↔
      ∃ type ∈ environment.msgFieldTypes text, inserted? packageContext type = some dependency := by
  rw [parseMsgDependencies, mem_foldl_inserted]
  simp

def parseIdlDependencies (environment : DefinitionEnvironment) (text : Text) : List Text :=
  (environment.idlFieldTypes text).foldl (fun dependencies type => insertName type dependencies) []

def parseDependencies (environment : DefinitionEnvironment) (format : MessageDefinitionFormat)
    (text packageContext : Text) : List Text :=
  match format with
  | .msg | .srvResp | .srvReq => parseMsgDependencies environment text packageContext
  | .idl => parseIdlDependencies environment text

def extensionForFormat : MessageDefinitionFormat → Text
  | .msg | .srvResp | .srvReq => ".msg".toList
  | .idl => ".idl".toList

/-- The line above a dependency in a full text. -/
def delimiter (identifier : DefinitionIdentifier) : Text :=
  List.replicate 80 '=' ++ "\n".toList ++
    (match identifier.format with
      | .msg | .srvResp | .srvReq => "MSG: ".toList
      | .idl => "IDL: ".toList) ++
    identifier.packageResourceName ++ "\n".toList

/-! ### Reading a definition -/

/-- Why a definition could not be read. -/
inductive Absence where
  | package
  | resource
  | line (indexContents : Text)
  | file (fullPath : Text)
deriving Repr, DecidableEq

/-- `std::filesystem::path::filename`: what follows the last slash. -/
def pathFilename (path : Text) : Text := (path.splitOn '/').getLastD []

/-- Read the file that the first matching line of the package's index names. -/
def DefinitionEnvironment.readInterface (environment : DefinitionEnvironment)
    (package filename : Text) : Except Absence Text :=
  match environment.getPackageShareDirectory package with
  | none => .error .package
  | some shareDir =>
    match environment.getResource package with
    | none => .error .resource
    | some indexContents =>
      match (splitString indexContents "\n".toList).find? fun line =>
          pathFilename line = filename with
      | none => .error (.line indexContents)
      | some line =>
        match environment.readFile (shareDir ++ '/' :: line) with
        | none => .error (.file (shareDir ++ '/' :: line))
        | some contents => .ok contents

/-- What is read is the contents of a file, for a package that is installed. -/
theorem DefinitionEnvironment.readInterface_ok {filename contents : Text}
    (read : environment.readInterface package filename = .ok contents) :
    (environment.getPackageShareDirectory package).isSome ∧
      ∃ path, environment.readFile path = some contents := by
  unfold readInterface at read
  cases share : environment.getPackageShareDirectory package with
  | none =>
    rw [share] at read
    cases read
  | some shareDir =>
    refine ⟨rfl, ?_⟩
    simp only [share] at read
    split at read
    · cases read
    · split at read
      · cases read
      · next line _ =>
          cases stored : environment.readFile (shareDir ++ '/' :: line) with
          | none =>
            rw [stored] at read
            cases read
          | some text =>
            rw [stored] at read
            exact ⟨_, by rw [stored, Except.ok.inj read]⟩

/-- The slashes of a name in the action folder separate its groups. -/
theorem matchPackageTypename_join (packageName : isName package) (typeIsName : isName typeName) :
    matchPackageTypename (package ++ "/action/".toList ++ typeName) =
      some ⟨package, "action".toList, typeName⟩ := by
  have noSlash {text : Text} (name : isName text) : '/' ∉ text := by
    intro slash
    have all := (Bool.and_eq_true_iff.mp name).2
    exact absurd (List.all_eq_true.mp all '/' slash) (by decide)
  have split : (package ++ "/action/".toList ++ typeName).splitOn '/' =
      [package, "action".toList, typeName] := by
    have joined : package ++ "/action/".toList ++ typeName =
        ['/'].intercalate [package, "action".toList, typeName] := by
      simp [List.intercalate, List.intersperse]
    rw [joined]
    apply List.splitOn_intercalate
    · intro part member
      simp only [List.mem_cons, List.not_mem_nil, or_false] at member
      rcases member with rfl | rfl | rfl
      · exact noSlash packageName
      · decide
      · exact noSlash typeIsName
    · exact List.cons_ne_nil _ _
  rw [matchPackageTypename, split]
  simp [packageName, typeIsName]

theorem matchPackageTypename_action {name : Text}
    (matched : matchPackageTypename name = some ⟨package, "action".toList, typeName⟩) :
    isName package ∧ isName typeName := by
  unfold matchPackageTypename at matched
  split at matched
  · split at matched
    · cases matched
    · cases matched
  · split at matched
    · next names =>
        obtain ⟨rfl, rfl, rfl⟩ := PackageTypename.mk.inj (Option.some.inj matched)
        simp only [Bool.and_eq_true] at names
        exact ⟨names.1.1, names.2⟩
    · cases matched
  · cases matched

end CoBridge.Ros2
