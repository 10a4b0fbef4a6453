import CoBridge.Library.Traverse
import CoBridge.ParameterJson
import CoBridge.Ros1.Parameters
import CoBridge.Ros2.ParameterInterface

/-!
# Parameters through the conversions of the bridges

Both bridges build containers by what they find in them: the ROS 2 bridge takes the type
of an array from its first element, and in the ROS 1 bridge an array or struct comes into
being with the first assignment to an element. An empty container is lost in either.
-/

namespace CoBridge

open Library

namespace Ros2

/-- An array without elements, of one of the four types. -/
def RosParameterValue.EmptyArray (value : RosParameterValue) : Prop :=
  value = .boolArray [] ∨ value = .integerArray [] ∨ value = .doubleArray [] ∨
    value = .stringArray []

/-- The elements of an array come back with its type. -/
theorem toRosParam_array {Element : Type} (wrap : Element → ParameterValue)
    (get : ParameterValue → Except Fault Element) (build : List Element → RosParameterValue)
    (unwraps : ∀ element, get (wrap element) = .ok element) (elements : List Element) :
    ((elements.map wrap).mapM get).map build = .ok (build elements) := by
  rw [mapM_map_of_forall unwraps]
  rfl

theorem toRosParam_toParameterValue_iff (value : RosParameterValue) :
    toRosParam value.toParameterValue = .ok value ↔ ¬ value.EmptyArray := by
  unfold RosParameterValue.EmptyArray
  cases value with
  | notSet => exact iff_of_true rfl (by simp)
  | bool value => exact iff_of_true rfl (by simp)
  | integer value => exact iff_of_true rfl (by simp)
  | double value => exact iff_of_true rfl (by simp)
  | string value => exact iff_of_true rfl (by simp)
  | byteArray value => exact iff_of_true rfl (by simp)
  | boolArray values =>
    cases values with
    | nil => exact iff_of_false (by rintro ⟨⟩) (by simp)
    | cons first rest =>
      exact iff_of_true (toRosParam_array .bool getBool .boolArray (fun _ => rfl) (first :: rest))
        (by simp)
  | integerArray values =>
    cases values with
    | nil => exact iff_of_false (by rintro ⟨⟩) (by simp)
    | cons first rest =>
      exact iff_of_true
        (toRosParam_array .integer getInteger .integerArray (fun _ => rfl) (first :: rest))
        (by simp)
  | doubleArray values =>
    cases values with
    | nil => exact iff_of_false (by rintro ⟨⟩) (by simp)
    | cons first rest =>
      exact iff_of_true
        (toRosParam_array .double getDouble .doubleArray (fun _ => rfl) (first :: rest))
        (by simp)
  | stringArray values =>
    cases values with
    | nil => exact iff_of_false (by rintro ⟨⟩) (by simp)
    | cons first rest =>
      exact iff_of_true
        (toRosParam_array .string getString .stringArray (fun _ => rfl) (first :: rest))
        (by simp)

/-- A parameter of ROS 2 comes back as it was, unless it is an array without elements. -/
theorem ros_parameter_round_trip_iff (param : RosParameter) :
    toRosParameter (fromRosParam param) = .ok param ↔ ¬ param.value.EmptyArray := by
  rw [← toRosParam_toParameterValue_iff, toRosParameter]
  change (toRosParam param.value.toParameterValue).map _ = _ ↔ _
  cases toRosParam param.value.toParameterValue with
  | error fault => exact iff_of_false (by rintro ⟨⟩) (by rintro ⟨⟩)
  | ok value =>
    change Except.ok (RosParameter.mk param.name value) = .ok param ↔
      Except.ok value = Except.ok param.value
    rw [Except.ok.injEq, Except.ok.injEq]
    exact ⟨fun same => congrArg RosParameter.value same, fun same => by rw [same]⟩

/-- The first element of an empty array is accessed. -/
theorem empty_array_undefined :
    toRosParameter (fromRosParam ⟨"gains", .doubleArray []⟩) = .error .undefinedBehavior :=
  rfl

end Ros2

namespace Ros1

/-- Booleans, integers, doubles, strings, arrays and structs. -/
def IsPlain : ParameterValue → Prop
  | .notSet | .byteArray _ => False
  | .bool _ | .integer _ | .double _ | .string _ | .array _ | .struct _ => True

/-- A node that `XmlRpcValue` can take over: an integer of 32 bits, a container with
elements, and no more of them than an `int` counts. -/
def IsKept : ParameterValue → Prop
  | .integer value => -2 ^ 31 ≤ value.toInt ∧ value.toInt < 2 ^ 31
  | .array elements => 0 < elements.length ∧ elements.length < 2 ^ 31
  | .struct members => 0 < members.length
  | .notSet | .bool _ | .double _ | .string _ | .byteArray _ => True

/-- The value comes back as it was. -/
def RoundTrips (value : ParameterValue) : Prop :=
  ∃ converted, toRosParam value = .ok converted ∧ fromRosParam converted = .ok value

def LosesNothing (value : ParameterValue) : Prop :=
  (∃ exception, toRosParam value = .error exception) ∨ RoundTrips value

def toRosParamMember (member : String × ParameterValue) : Except Exception (String × XmlRpcValue) :=
  (toRosParam member.2).map fun value => (member.1, value)

def fromRosParamMember (member : String × XmlRpcValue) :
    Except Exception (String × ParameterValue) :=
  (fromRosParam member.2).map fun value => (member.1, value)

theorem fromRosParamElements_eq (elements : List XmlRpcValue) :
    fromRosParamElements elements = elements.mapM fromRosParam := by
  induction elements with
  | nil => rfl
  | cons element rest ih =>
    rw [fromRosParamElements, ih, List.mapM_cons]

theorem fromRosParamMembers_eq (members : List (String × XmlRpcValue)) :
    fromRosParamMembers members = members.mapM fromRosParamMember := by
  induction members with
  | nil => rfl
  | cons member rest ih =>
    rw [fromRosParamMembers, ih, List.mapM_cons, fromRosParamMember]
    cases fromRosParam member.2 <;> rfl

theorem toRosParamElements_eq (rounds : Nat) (elements : List ParameterValue) :
    toRosParamElements rounds elements = (elements.take rounds).mapM toRosParam := by
  induction elements generalizing rounds with
  | nil =>
    cases rounds <;> rfl
  | cons element rest ih =>
    cases rounds with
    | zero => rfl
    | succ rounds =>
      rw [toRosParamElements, ih, List.take_succ_cons, List.mapM_cons]

variable (members : List (String × ParameterValue))

theorem toRosParamMembers_eq :
    toRosParamMembers members = members.mapM toRosParamMember := by
  induction members with
  | nil => rfl
  | cons member rest ih =>
    rw [toRosParamMembers, ih, List.mapM_cons, toRosParamMember]
    cases toRosParam member.2 <;> rfl

theorem loopRounds_eq {size : Nat} (small : size < 2 ^ 31) : loopRounds size = size := by
  rw [loopRounds, Int32.toInt_ofNat_of_lt small, Int.toNat_natCast]

theorem loopRounds_lt (size : Nat) : loopRounds size < 2 ^ 31 := by
  have bound := Int32.toInt_lt (Int32.ofNat size)
  unfold loopRounds
  omega

theorem toInt64_toInt32_eq_iff (value : Int64) :
    value.toInt32.toInt64 = value ↔ -2 ^ 31 ≤ value.toInt ∧ value.toInt < 2 ^ 31 := by
  constructor
  · intro same
    rw [← same, Int32.toInt_toInt64]
    exact ⟨Int32.le_toInt _, Int32.toInt_lt _⟩
  · rintro ⟨lower, upper⟩
    rw [← Int64.toInt_inj, Int32.toInt_toInt64, Int64.toInt_toInt32]
    exact Int.bmod_eq_of_le (by omega) (by omega)

/-- A member survives with its name when its value does. -/
theorem member_roundTrips_iff (member : String × ParameterValue) :
    (∃ converted, toRosParamMember member = .ok converted ∧
      fromRosParamMember converted = .ok member) ↔ RoundTrips member.2 := by
  constructor
  · rintro ⟨converted, there, back⟩
    obtain ⟨result, done, rfl⟩ := map_ok_iff.mp there
    obtain ⟨value, undone, same⟩ := map_ok_iff.mp back
    exact ⟨result, done, undone.trans (congrArg Except.ok (congrArg Prod.snd same))⟩
  · rintro ⟨converted, there, back⟩
    exact ⟨(member.1, converted), map_ok_iff.mpr ⟨converted, there, rfl⟩,
      map_ok_iff.mpr ⟨member.2, back, rfl⟩⟩

theorem roundTrips_struct_iff :
    RoundTrips (.struct members) ↔
      0 < members.length ∧ ∀ member ∈ members, RoundTrips member.2 := by
  cases members with
  | nil =>
    refine iff_of_false ?_ fun kept => Nat.lt_irrefl 0 kept.1
    rintro ⟨converted, there, back⟩
    cases there
    cases back
  | cons first rest =>
    have each := @mapM_roundTrip_iff _ _ _ toRosParamMember fromRosParamMember (first :: rest)
    simp only [member_roundTrips_iff] at each
    rw [← each, and_iff_right (List.length_pos_of_ne_nil (List.cons_ne_nil _ _))]
    constructor
    · rintro ⟨converted, there, back⟩
      rw [toRosParam, toRosParamMembers_eq] at there
      obtain ⟨results, done, rfl⟩ := map_ok_iff.mp there
      rw [fromRosParam, fromRosParamMembers_eq] at back
      obtain ⟨values, undone, same⟩ := map_ok_iff.mp back
      exact ⟨results, done, undone.trans (congrArg Except.ok (ParameterValue.struct.inj same))⟩
    · rintro ⟨results, done, undone⟩
      refine ⟨.struct results, ?_, ?_⟩
      · rw [toRosParam, toRosParamMembers_eq]
        exact map_ok_iff.mpr ⟨results, done, rfl⟩
      · rw [fromRosParam, fromRosParamMembers_eq]
        exact map_ok_iff.mpr ⟨first :: rest, undone, rfl⟩

/-- The loop stops after `2 ^ 31 - 1` rounds at most, so an array it converts completely
has no more elements. -/
theorem roundTrips_array_iff (elements : List ParameterValue) :
    RoundTrips (.array elements) ↔
      (0 < elements.length ∧ elements.length < 2 ^ 31) ∧
        ∀ element ∈ elements, RoundTrips element := by
  have each : _ ↔ ∀ element ∈ elements, RoundTrips element :=
    mapM_roundTrip_iff elements
  constructor
  · rintro ⟨converted, there, back⟩
    rw [toRosParam] at there
    split at there
    next none =>
      cases there
      cases back
    next some =>
      rw [toRosParamElements_eq] at there
      obtain ⟨results, done, rfl⟩ := map_ok_iff.mp there
      rw [fromRosParam, fromRosParamElements_eq] at back
      obtain ⟨values, undone, same⟩ := map_ok_iff.mp back
      obtain rfl := ParameterValue.array.inj same
      have all : min (loopRounds values.length) values.length = values.length := by
        rw [← List.length_take, ← length_of_mapM done, length_of_mapM undone]
      have few := loopRounds_lt values.length
      rw [List.take_of_length_le (by omega)] at done
      refine ⟨⟨Nat.pos_of_ne_zero fun zero => ?_, by omega⟩, each.mp ⟨results, done, undone⟩⟩
      rw [zero] at some
      exact some rfl
  · rintro ⟨⟨inhabited, few⟩, kept⟩
    obtain ⟨results, done, undone⟩ := each.mpr kept
    have rounds := loopRounds_eq few
    refine ⟨.array results, ?_, ?_⟩
    · rw [toRosParam, rounds, if_neg (by omega), toRosParamElements_eq, List.take_length]
      exact map_ok_iff.mpr ⟨results, done, rfl⟩
    · rw [fromRosParam, fromRosParamElements_eq]
      exact map_ok_iff.mpr ⟨elements, undone, rfl⟩

theorem roundTrips_integer_iff (value : Int64) :
    RoundTrips (.integer value) ↔ IsKept (.integer value) := by
  rw [IsKept, ← toInt64_toInt32_eq_iff]
  constructor
  · rintro ⟨converted, there, back⟩
    cases there
    exact ParameterValue.integer.inj (Except.ok.inj back)
  · intro same
    exact ⟨.int value.toInt32, by rw [toRosParam], by rw [fromRosParam, same]⟩

theorem roundTrips_iff (value : ParameterValue) (plain : value.Every IsPlain) :
    RoundTrips value ↔ value.Every IsKept := by
  induction value using ParameterValue.treeInduction with
  | notSet => exact plain.elim
  | byteArray value => exact plain.elim
  | bool value =>
    exact iff_of_true ⟨.boolean value, by rw [toRosParam], by rw [fromRosParam]⟩ trivial
  | integer value => exact roundTrips_integer_iff value
  | double value =>
    exact iff_of_true ⟨.double value, by rw [toRosParam], by rw [fromRosParam]⟩ trivial
  | string value =>
    exact iff_of_true ⟨.string value, by rw [toRosParam], by rw [fromRosParam]⟩ trivial
  | array elements ih =>
    rw [ParameterValue.every_array] at plain
    rw [ParameterValue.every_array, roundTrips_array_iff]
    refine and_congr Iff.rfl (forall₂_congr fun element member => ?_)
    exact ih element member (plain.2 element member)
  | struct members ih =>
    rw [ParameterValue.every_struct] at plain
    rw [ParameterValue.every_struct, roundTrips_struct_iff]
    refine and_congr Iff.rfl (forall₂_congr fun member listed => ?_)
    exact ih member listed (plain.2 member listed)

/-- Nothing that is made of plain values is refused. -/
theorem toRosParam_returns (value : ParameterValue) (plain : value.Every IsPlain) :
    ∃ converted, toRosParam value = .ok converted := by
  induction value using ParameterValue.treeInduction with
  | notSet => exact plain.elim
  | byteArray value => exact plain.elim
  | bool value => exact ⟨.boolean value, by rw [toRosParam]⟩
  | integer value => exact ⟨.int value.toInt32, by rw [toRosParam]⟩
  | double value => exact ⟨.double value, by rw [toRosParam]⟩
  | string value => exact ⟨.string value, by rw [toRosParam]⟩
  | array elements ih =>
    rw [ParameterValue.every_array] at plain
    rw [toRosParam, toRosParamElements_eq]
    split
    next none => exact ⟨.invalid, rfl⟩
    next some =>
      have each : ∀ element ∈ elements.take (loopRounds elements.length),
          ∃ converted, toRosParam element = .ok converted := fun element member =>
        ih element (List.mem_of_mem_take member)
          (plain.2 element (List.mem_of_mem_take member))
      obtain ⟨results, done⟩ := mapM_of_forall each
      exact ⟨.array results, map_ok_iff.mpr ⟨results, done, rfl⟩⟩
  | struct members ih =>
    rw [ParameterValue.every_struct] at plain
    cases members with
    | nil => exact ⟨.invalid, by rw [toRosParam]⟩
    | cons first rest =>
      have each : ∀ member ∈ first :: rest,
          ∃ converted, toRosParamMember member = .ok converted := by
        intro member listed
        obtain ⟨converted, done⟩ := ih member listed (plain.2 member listed)
        exact ⟨(member.1, converted), map_ok_iff.mpr ⟨converted, done, rfl⟩⟩
      obtain ⟨results, done⟩ := mapM_of_forall each
      rw [toRosParam, toRosParamMembers_eq]
      exact ⟨.struct results, map_ok_iff.mpr ⟨results, done, rfl⟩⟩

theorem losesNothing_iff_roundTrips {value : ParameterValue} (plain : value.Every IsPlain) :
    LosesNothing value ↔ RoundTrips value := by
  refine or_iff_right ?_
  rintro ⟨exception, thrown⟩
  obtain ⟨converted, returned⟩ := toRosParam_returns value plain
  rw [thrown] at returned
  cases returned

/-- The values that survive are those whose integers have 32 bits and whose containers are
inhabited and of a size that an `int` holds, at every depth. -/
theorem loses_nothing_iff (value : ParameterValue) (plain : value.Every IsPlain) :
    LosesNothing value ↔ value.Every IsKept := by
  rw [losesNothing_iff_roundTrips plain, roundTrips_iff value plain]

/-- A struct with an integer and a list of strings comes back. -/
theorem loses_nothing_sample :
    LosesNothing (.struct [("rate", .integer 30), ("frames", .array [.string "map"])]) := by
  refine (loses_nothing_iff _ ?_).mpr ?_
  · simp [ParameterValue.Every, ParameterValue.EveryMember, ParameterValue.EveryElement, IsPlain]
  · simp [ParameterValue.Every, ParameterValue.EveryMember, ParameterValue.EveryElement, IsKept]

/-- The first integer beyond 32 bits comes back negative, and an empty array inside a
struct can no longer be read. -/
theorem large_integer_and_empty_array_lost :
    (toRosParam (.integer 2147483648) = .ok (.int (-2147483648)) ∧
      fromRosParam (.int (-2147483648)) = .ok (.integer (-2147483648)) ∧
      ¬ LosesNothing (.integer 2147483648)) ∧
    toRosParam (.struct [("gains", .array [])]) = .ok (.struct [("gains", .invalid)]) ∧
      fromRosParam (.struct [("gains", .invalid)]) = .error (.std "Parameter not set") ∧
      ¬ LosesNothing (.struct [("gains", .array [])]) := by
  refine ⟨⟨by rw [toRosParam]; rfl, by rw [fromRosParam]; rfl, ?_⟩, rfl, rfl, ?_⟩
  · rw [losesNothing_iff_roundTrips (by simp [ParameterValue.Every, IsPlain]),
      roundTrips_integer_iff, IsKept]
    decide
  · rw [losesNothing_iff_roundTrips (by
      simp [ParameterValue.Every, ParameterValue.EveryMember,
        ParameterValue.EveryElement, IsPlain]),
      roundTrips_struct_iff]
    intro kept
    exact Nat.lt_irrefl 0 ((roundTrips_array_iff []).mp (kept.2 _ List.mem_cons_self)).1.1

end Ros1

end CoBridge
