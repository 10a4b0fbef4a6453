import CoBridge.Library.Traverse
import CoBridge.ParameterJson

/-!
# Parameters written to JSON and read back

Inside a container nothing tells a byte array from a string, and the type that an array of
doubles is written with applies to all its elements. These are the only two losses.
-/

namespace CoBridge

open Library

namespace ParameterValue

def IsNotBytes : ParameterValue → Prop
  | .byteArray _ => False
  | _ => True

/-- No byte array strictly inside an array or a struct. -/
def NoInnerBytes : ParameterValue → Prop
  | .array elements => ∀ element ∈ elements, element.Every IsNotBytes
  | .struct members => ∀ member ∈ members, member.2.Every IsNotBytes
  | _ => True

/-- An array that starts with a double has nothing but doubles. -/
def FirstDoubleDecides : ParameterValue → Prop
  | .array (.double _ :: rest) => ∀ element ∈ rest, ∃ number, element = .double number
  | _ => True

variable {value : ParameterValue}

theorem reread_eq_ordered (kept : value.Every IsNotBytes) :
    value.reread = value.ordered := by
  induction value using treeInduction with
  | notSet => rfl
  | bool value => rfl
  | integer value => rfl
  | double value => rfl
  | string value => rfl
  | byteArray value => exact kept.elim
  | array elements ih =>
    rw [every_array] at kept
    rw [reread_array, ordered_array]
    refine congrArg _ (List.map_congr_left fun element listed => ?_)
    exact ih element listed (kept.2 element listed)
  | struct members ih =>
    rw [every_struct] at kept
    rw [reread_struct, ordered_struct]
    refine congrArg (ParameterValue.struct ∘ ofEntries) ?_
    refine List.map_congr_left fun member listed => Prod.ext rfl ?_
    exact ih member listed (kept.2 member listed)

/-- Nothing is read as a byte array. -/
theorem reread_not_bytes (value : ParameterValue) : value.reread.Every IsNotBytes := by
  induction value using treeInduction with
  | notSet => trivial
  | bool value => trivial
  | integer value => trivial
  | double value => trivial
  | string value => trivial
  | byteArray value => trivial
  | array elements ih =>
    rw [reread_array, every_array]
    refine ⟨trivial, fun element listed => ?_⟩
    obtain ⟨original, member, rfl⟩ := List.mem_map.mp listed
    exact ih original member
  | struct members ih =>
    rw [reread_struct, every_struct]
    refine ⟨trivial, fun member listed => ?_⟩
    obtain ⟨original, member, rfl⟩ := List.mem_map.mp (mem_of_mem_ofEntries listed)
    exact ih original member

theorem ordered_not_bytes (kept : value.Every IsNotBytes) :
    value.ordered.Every IsNotBytes :=
  reread_eq_ordered kept ▸ reread_not_bytes value

/-- Where structs are maps, putting them in order loses no member. -/
theorem not_bytes_of_ordered (maps : value.Every IsMap) (kept : value.ordered.Every IsNotBytes) :
    value.Every IsNotBytes := by
  induction value using treeInduction with
  | notSet => trivial
  | bool value => trivial
  | integer value => trivial
  | double value => trivial
  | string value => trivial
  | byteArray value => exact kept
  | array elements ih =>
    rw [every_array] at maps
    rw [ordered_array, every_array] at kept
    refine (every_array elements).mpr ⟨trivial, fun element listed => ?_⟩
    exact ih element listed (maps.2 element listed)
      (kept.2 element.ordered (List.mem_map_of_mem listed))
  | struct members ih =>
    rw [every_struct] at maps
    rw [ordered_struct, every_struct] at kept
    have distinct : DistinctKeys (members.map (Prod.map id ordered)) :=
      List.pairwise_map.mpr maps.1
    refine (every_struct members).mpr ⟨trivial, fun member listed => ?_⟩
    exact ih member listed (maps.2 member listed)
      (kept.2 _ ((mem_ofEntries distinct _).mpr (List.mem_map_of_mem listed)))

theorem eq_double_of_ordered {number : Double} (double : value.ordered = .double number) :
    value = .double number := by
  cases value with
  | array elements =>
    cases double
  | struct members =>
    cases double
  | notSet | bool value | integer value | double value | string value | byteArray value =>
    exact double

/-- Without a type the values that come back are those without byte arrays. -/
theorem reread_same_iff (maps : value.Every IsMap) :
    Same value.reread value ↔ value.Every IsNotBytes := by
  constructor
  · intro same
    refine not_bytes_of_ordered maps ?_
    rw [← (show value.reread.ordered = value.ordered from same)]
    exact ordered_not_bytes (reread_not_bytes value)
  · intro kept
    rw [reread_eq_ordered kept]
    exact ordered_idempotent value

end ParameterValue

namespace Parameter

open ParameterValue

/-- Parameters with the same name and value. -/
def Same (left right : Parameter) : Prop :=
  left.name = right.name ∧ left.value.Same right.value

/-- The parameter is read back as it was written. -/
def Restored (param : Parameter) : Prop :=
  ∃ restored, fromJson param.toJson = .ok restored ∧ Same restored param

theorem fromJson_toJson (param : Parameter) :
    fromJson param.toJson =
      (applyType param.name (param.value.jsonType.getD "") param.value.reread).map
        fun value => ⟨param.name, value⟩ := by
  refine fromJson_of_members rfl rfl ?_ ?_
  · cases written : param.value.jsonType <;>
      simp [toJson, Json.find?, List.lookup_cons, written]
  · cases written : param.value.jsonType <;>
      simp [toJson, Json.findString?, Json.find?, Json.getString, Except.map, List.lookup_cons,
        written]

theorem restored_iff (param : Parameter) :
    Restored param ↔
      ∃ value, applyType param.name (param.value.jsonType.getD "") param.value.reread = .ok value ∧
        value.Same param.value := by
  rw [Restored, fromJson_toJson]
  constructor
  · rintro ⟨restored, returned, _, same⟩
    obtain ⟨value, applied, rfl⟩ := map_ok_iff.mp returned
    exact ⟨value, applied, same⟩
  · rintro ⟨value, applied, same⟩
    exact ⟨⟨param.name, value⟩, map_ok_iff.mpr ⟨value, applied, rfl⟩, rfl, same⟩

variable (name : String)

/-- An array with a type comes back when it has nothing but doubles. -/
theorem doubles_restored_iff (elements : List ParameterValue) :
    (∃ values, (elements.map reread).mapM (floatElement name) = .ok values ∧
        ParameterValue.Same (.array values) (.array elements)) ↔
      ∀ element ∈ elements, ∃ number, element = .double number := by
  constructor
  · rintro ⟨values, converted, same⟩ element listed
    rw [ParameterValue.Same, ordered_array, ordered_array] at same
    have image : element.ordered ∈ values.map ordered :=
      ParameterValue.array.inj same ▸ List.mem_map_of_mem listed
    obtain ⟨value, member, equal⟩ := List.mem_map.mp image
    obtain ⟨item, _, made⟩ := mem_of_mapM converted value member
    obtain ⟨number, rfl⟩ := floatElement_double made
    exact ⟨number, eq_double_of_ordered equal.symm⟩
  · intro doubles
    refine ⟨elements, ?_, rfl⟩
    have unchanged : elements.map reread = elements := by
      refine (List.map_congr_left fun element listed => ?_).trans (List.map_id elements)
      obtain ⟨number, rfl⟩ := doubles element listed
      rfl
    rw [unchanged]
    refine mapM_eq_self fun element listed => ?_
    obtain ⟨number, rfl⟩ := doubles element listed
    rfl

/-- A value that its type says nothing about comes back when it has no byte array. -/
theorem untyped_restored_iff {param : Parameter}
    (untyped : applyType param.name (param.value.jsonType.getD "") param.value.reread =
      .ok param.value.reread) (maps : param.value.Every IsMap) :
    Restored param ↔ param.value.Every IsNotBytes := by
  rw [restored_iff, untyped, ← reread_same_iff maps]
  constructor
  · rintro ⟨value, ⟨⟩, same⟩
    exact same
  · exact fun same => ⟨_, rfl, same⟩

theorem bytes_restored (bytes : List UInt8) :
    Restored ⟨name, .byteArray bytes⟩ := by
  refine (restored_iff _).mpr ⟨.byteArray bytes, ?_, rfl⟩
  change (base64Decode (asciiText (base64Encode bytes)).toUTF8.toList).map _ = _
  rw [toUTF8_asciiText (base64Encode_ascii bytes), base64Decode_base64Encode]
  rfl

/-- The type of an array is `float64_array` when its first element is a double. -/
theorem array_restored_iff {elements : List ParameterValue} (maps : Every IsMap (.array elements)) :
    Restored ⟨name, .array elements⟩ ↔
      (∀ element ∈ elements, element.Every IsNotBytes) ∧ FirstDoubleDecides (.array elements) := by
  have plain (untyped : jsonType (.array elements) = none)
      (undecided : FirstDoubleDecides (.array elements)) :
      Restored ⟨name, .array elements⟩ ↔
        (∀ element ∈ elements, element.Every IsNotBytes) ∧
          FirstDoubleDecides (.array elements) := by
    rw [untyped_restored_iff (by rw [untyped, reread_array]; rfl) maps, every_array,
      and_iff_left undecided]
    exact and_iff_right trivial
  cases elements with
  | nil => exact plain rfl trivial
  | cons first rest =>
    cases first with
    | double number =>
      have typed := doubles_restored_iff name (.double number :: rest)
      rw [restored_iff, reread_array]
      constructor
      · rintro ⟨value, applied, same⟩
        obtain ⟨values, converted, rfl⟩ := map_ok_iff.mp applied
        have doubles := typed.mp ⟨values, converted, same⟩
        refine ⟨fun element listed => ?_, (List.forall_mem_cons.mp doubles).2⟩
        obtain ⟨other, rfl⟩ := doubles element listed
        trivial
      · rintro ⟨_, doubles⟩
        obtain ⟨values, converted, same⟩ :=
          typed.mpr (List.forall_mem_cons.mpr ⟨⟨number, rfl⟩, doubles⟩)
        exact ⟨.array values, map_ok_iff.mpr ⟨values, converted, rfl⟩, same⟩
    | notSet | bool value | integer value | string value | byteArray value | array elements
    | struct members => exact plain rfl trivial

/-- The parameters that survive: no byte array is strictly inside a container, and an array
that starts with a double has nothing but doubles. -/
theorem parameter_restored_iff (param : Parameter) (maps : param.value.Every IsMap) :
    Restored param ↔ NoInnerBytes param.value ∧ FirstDoubleDecides param.value := by
  obtain ⟨name, value⟩ := param
  cases value with
  | byteArray bytes => exact iff_of_true (bytes_restored name bytes) ⟨trivial, trivial⟩
  | array elements => exact array_restored_iff name maps
  | struct members =>
    rw [untyped_restored_iff (by rw [reread_struct]; rfl) maps, every_struct]
    exact ⟨fun kept => ⟨kept.2, trivial⟩, fun kept => ⟨trivial, kept.1⟩⟩
  | notSet | bool value | integer value | double value | string value =>
    rw [untyped_restored_iff rfl maps]
    exact iff_of_true trivial ⟨trivial, trivial⟩

/-- A struct that holds an array of an integer and a double comes back; with a byte array in
the place of the integer it does not. -/
theorem parameter_restored_nested :
    Restored ⟨"limits", .struct [("range", .array [.integer 1, .double ⟨0⟩])]⟩ ∧
      ¬ Restored ⟨"limits", .struct [("range", .array [.byteArray [1], .double ⟨0⟩])]⟩ := by
  have single (value : ParameterValue) : DistinctKeys [("range", value)] :=
    List.pairwise_singleton _ _
  constructor
  · refine (parameter_restored_iff _ ?_).mpr ⟨?_, trivial⟩
    · simp [Every, EveryMember, EveryElement, IsMap, single]
    · simp [NoInnerBytes, Every, EveryElement, IsNotBytes]
  · rw [parameter_restored_iff _ (by simp [Every, EveryMember, EveryElement, IsMap, single])]
    simp [NoInnerBytes, Every, EveryElement, IsNotBytes]

end Parameter

end CoBridge
