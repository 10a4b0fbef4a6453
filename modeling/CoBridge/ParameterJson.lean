import CoBridge.Library.OrderedMap
import CoBridge.Base64
import CoBridge.Library.Search

/-!
# Parameter values as trees

A value is a tree whose inner nodes are arrays and structs. `ParameterValue.treeInduction`
is induction over it with one hypothesis for all elements of an array and one for all
members of a struct. `ParameterValue.Every` says that a property holds at every node.

A struct is a map, so two lists of its members in another order are the same value:
`ParameterValue.Same` compares values with their members in the order of the keys.
-/

namespace CoBridge

open Library

namespace ParameterValue

/-- Induction with what holds for all elements of an array and all members of a struct. -/
@[elab_as_elim]
theorem treeInduction {motive : ParameterValue → Prop}
    (notSet : motive .notSet) (bool : ∀ value, motive (.bool value))
    (integer : ∀ value, motive (.integer value)) (double : ∀ value, motive (.double value))
    (string : ∀ value, motive (.string value)) (byteArray : ∀ value, motive (.byteArray value))
    (array : ∀ elements, (∀ element ∈ elements, motive element) → motive (.array elements))
    (struct : ∀ members, (∀ member ∈ members, motive member.2) → motive (.struct members))
    (value : ParameterValue) : motive value :=
  @ParameterValue.rec motive (fun elements => ∀ element ∈ elements, motive element)
    (fun members => ∀ member ∈ members, motive member.2) (fun member => motive member.2)
    notSet bool integer double string byteArray array struct
    (fun _ member => absurd member List.not_mem_nil)
    (fun _ _ first rest => List.forall_mem_cons.mpr ⟨first, rest⟩)
    (fun _ member => absurd member List.not_mem_nil)
    (fun _ _ first rest => List.forall_mem_cons.mpr ⟨first, rest⟩)
    (fun _ _ second => second) value

mutual

/-- The property holds at every node of the tree. -/
def Every (holds : ParameterValue → Prop) : ParameterValue → Prop
  | .array elements => holds (.array elements) ∧ EveryElement holds elements
  | .struct members => holds (.struct members) ∧ EveryMember holds members
  | leaf => holds leaf

def EveryElement (holds : ParameterValue → Prop) : List ParameterValue → Prop
  | [] => True
  | element :: rest => Every holds element ∧ EveryElement holds rest

def EveryMember (holds : ParameterValue → Prop) : List (String × ParameterValue) → Prop
  | [] => True
  | (_, value) :: rest => Every holds value ∧ EveryMember holds rest

end

variable {holds : ParameterValue → Prop}
variable (elements : List ParameterValue) (members : List (String × ParameterValue))

theorem everyElement_iff :
    EveryElement holds elements ↔ ∀ element ∈ elements, Every holds element := by
  induction elements with
  | nil => simp [EveryElement]
  | cons element rest ih =>
    rw [EveryElement, ih, List.forall_mem_cons]

theorem everyMember_iff :
    EveryMember holds members ↔ ∀ member ∈ members, Every holds member.2 := by
  induction members with
  | nil => simp [EveryMember]
  | cons member rest ih =>
    rw [EveryMember, ih, List.forall_mem_cons]

theorem every_array :
    Every holds (.array elements) ↔
      holds (.array elements) ∧ ∀ element ∈ elements, Every holds element := by
  rw [Every, everyElement_iff]

theorem every_struct :
    Every holds (.struct members) ↔
      holds (.struct members) ∧ ∀ member ∈ members, Every holds member.2 := by
  rw [Every, everyMember_iff]

/-- What a struct always is in the program: a map that has no key twice. -/
def IsMap : ParameterValue → Prop
  | .struct members => DistinctKeys members
  | _ => True

mutual

/-- The same value with the members of every struct in the order of their keys. -/
def ordered : ParameterValue → ParameterValue
  | .array elements => .array (orderedElements elements)
  | .struct members => .struct (ofEntries (orderedMembers members))
  | leaf => leaf

def orderedElements : List ParameterValue → List ParameterValue
  | [] => []
  | element :: rest => ordered element :: orderedElements rest

def orderedMembers : List (String × ParameterValue) → List (String × ParameterValue)
  | [] => []
  | (key, value) :: rest => (key, ordered value) :: orderedMembers rest

end

/-- Equality of values. -/
def Same (left right : ParameterValue) : Prop := left.ordered = right.ordered

theorem orderedElements_eq :
    orderedElements elements = elements.map ordered := by
  induction elements with
  | nil => rfl
  | cons element rest ih =>
    rw [orderedElements, ih, List.map_cons]

theorem orderedMembers_eq :
    orderedMembers members = members.map (Prod.map id ordered) := by
  induction members with
  | nil => rfl
  | cons member rest ih =>
    rw [orderedMembers, ih, List.map_cons]
    rfl

theorem ordered_array :
    ordered (.array elements) = .array (elements.map ordered) := by
  rw [ordered, orderedElements_eq]

theorem ordered_struct :
    ordered (.struct members) = .struct (ofEntries (members.map (Prod.map id ordered))) := by
  rw [ordered, orderedMembers_eq]

theorem ordered_idempotent (value : ParameterValue) : value.ordered.ordered = value.ordered := by
  induction value using treeInduction with
  | notSet => rfl
  | bool value => rfl
  | integer value => rfl
  | double value => rfl
  | string value => rfl
  | byteArray value => rfl
  | array elements ih =>
    rw [ordered_array, ordered_array, List.map_map]
    exact congrArg _ (List.map_congr_left ih)
  | struct members ih =>
    have again : (members.map (Prod.map id ordered)).map (Prod.map id ordered) =
        members.map (Prod.map id ordered) := by
      rw [List.map_map]
      refine List.map_congr_left fun member listed => ?_
      exact Prod.ext rfl (ih member listed)
    rw [ordered_struct, ordered_struct, map_ofEntries, again,
      ofEntries_of_ascending (ascending_ofEntries _)]

end ParameterValue

/-!
## Parameters written to JSON

The encoding of `serialization.cpp`. A byte array is written as a string, and a member `type`
beside the value tells how to read it. The member depends on the type of the value and on
the first element of an array, and on nothing further inside.
-/

mutual

/-- A struct becomes an object, which has its members in the order of their keys. -/
def ParameterValue.toJson : ParameterValue → Json
  | .bool value => .boolean value
  | .integer value => .numberInteger value
  | .double value => .numberFloat value
  | .string value => .string value
  | .byteArray value => .string (asciiText (base64Encode value))
  | .struct members => .object (ofEntries (ParameterValue.toJsonMembers members))
  | .array elements => .array (ParameterValue.toJsonElements elements)
  | .notSet => .null

def ParameterValue.toJsonElements : List ParameterValue → List Json
  | [] => []
  | element :: rest => ParameterValue.toJson element :: ParameterValue.toJsonElements rest

def ParameterValue.toJsonMembers : List (String × ParameterValue) → List (String × Json)
  | [] => []
  | (key, value) :: rest =>
    (key, ParameterValue.toJson value) :: ParameterValue.toJsonMembers rest

end

/-- The member `type`, if there is one. -/
def ParameterValue.jsonType : ParameterValue → Option String
  | .byteArray _ => some "byte_array"
  | .double _ => some "float64"
  | .array (.double _ :: _) => some "float64_array"
  | _ => none

def Parameter.toJson (param : Parameter) : Json :=
  .object (("name", .string param.name) ::
    ((param.value.jsonType.map fun type => ("type", .string type)).toList ++
      [("value", param.value.toJson)]))

namespace ParameterValue

theorem toJsonElements_eq (elements : List ParameterValue) :
    toJsonElements elements = elements.map toJson := by
  induction elements with
  | nil => rfl
  | cons element rest ih =>
    rw [toJsonElements, ih, List.map_cons]

variable (members : List (String × ParameterValue))

theorem toJsonMembers_eq :
    toJsonMembers members = members.map (Prod.map id toJson) := by
  induction members with
  | nil => rfl
  | cons member rest ih =>
    rw [toJsonMembers, ih, List.map_cons]
    rfl

theorem fromJsonItems_eq (items : List Json) : fromJsonItems items = items.map fromJson := by
  induction items with
  | nil => rfl
  | cons item rest ih =>
    rw [fromJsonItems, ih, List.map_cons]

theorem fromJsonMembers_eq (members : List (String × Json)) :
    fromJsonMembers members = members.map (Prod.map id fromJson) := by
  induction members with
  | nil => rfl
  | cons member rest ih =>
    rw [fromJsonMembers, ih, List.map_cons]
    rfl

/-- What is read back where a value was written. -/
def reread (value : ParameterValue) : ParameterValue := fromJson value.toJson

theorem reread_array (elements : List ParameterValue) :
    reread (.array elements) = .array (elements.map reread) := by
  rw [reread, toJson, fromJson, toJsonElements_eq, fromJsonItems_eq, List.map_map]
  rfl

theorem reread_struct :
    reread (.struct members) = .struct (ofEntries (members.map (Prod.map id reread))) := by
  rw [reread, toJson, fromJson, toJsonMembers_eq, fromJsonMembers_eq, map_ofEntries,
    List.map_map]
  rfl

end ParameterValue

namespace Parameter

/-- What the member `type` does to the value that was read. -/
def applyType (name type : String) : ParameterValue → Except Fault ParameterValue
  | .string text =>
    if type = "byte_array" then (base64Decode text.toUTF8.toList).map .byteArray
    else .ok (.string text)
  | .integer number =>
    if type = "float64" then .ok (.double (Double.ofInt64 number)) else .ok (.integer number)
  | .array items =>
    if type = "float64_array" then (items.mapM (floatElement name)).map .array
    else .ok (.array items)
  | value => .ok value

/-- Decoding of a parameter that has a name, a value and possibly a type. -/
theorem fromJson_of_members {json nameMember member : Json} {name : String}
    {type : Option String} (found : json.index "name" = .ok nameMember)
    (named : nameMember.getString = .ok name) (valued : json.find? "value" = some member)
    (typed : json.findString? "type" = .ok type) :
    fromJson json =
      (applyType name (type.getD "") (ParameterValue.fromJson member)).map
        fun value => ⟨name, value⟩ := by
  simp only [fromJson, found, named, valued, typed, bind, Except.bind, pure, Except.pure]
  cases ParameterValue.fromJson member with
  | string text =>
    by_cases bytes : type.getD "" = "byte_array"
    · simp only [applyType, if_pos bytes]
      cases base64Decode text.toUTF8.toList <;> rfl
    · simp only [applyType, if_neg bytes, Except.map]
  | integer number =>
    by_cases float : type.getD "" = "float64"
    · simp only [applyType, if_pos float, Except.map]
    · simp only [applyType, if_neg float, Except.map]
  | array items =>
    by_cases floats : type.getD "" = "float64_array"
    · simp only [applyType, if_pos floats]
      cases items.mapM (floatElement name) <;> rfl
    · simp only [applyType, if_neg floats, Except.map]
  | notSet => rfl
  | bool value => rfl
  | double value => rfl
  | byteArray value => rfl
  | struct members => rfl

/-- What is in an array of the type `float64_array` becomes a double. -/
theorem floatElement_double {name : String} {value result : ParameterValue}
    (made : floatElement name value = .ok result) : ∃ number, result = .double number := by
  cases value with
  | integer number =>
    cases made
    exact ⟨_, rfl⟩
  | double number =>
    cases made
    exact ⟨_, rfl⟩
  | notSet | bool value | string value | byteArray value | array elements | struct members =>
    cases made

end Parameter

end CoBridge
