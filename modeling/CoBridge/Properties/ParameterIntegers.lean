import CoBridge.Library.Traverse
import CoBridge.ParameterJson

/-!
# Integers in parameters that a client sets

A place inside a JSON value is a path of indices and keys, and decoding keeps places. An
integer literal is changed without an error in two ways: the conversion to 64 signed bits
wraps around at `2 ^ 63`, and a member `type` turns integers into doubles.
-/

namespace CoBridge

open Library

/-- From a container to what it contains. -/
inductive JsonStep where
  | item (index : Nat)
  | member (key : String)

namespace Json

def child? : Json → JsonStep → Option Json
  | .array items, .item index => items[index]?
  | .object members, .member key => members.lookup key
  | _, _ => none

/-- What the path leads to. -/
def at? (json : Json) (path : List JsonStep) : Option Json := path.foldlM child? json

/-- The number an integer literal stands for. -/
def integer? : Json → Option Int
  | .numberInteger value => some value.toInt
  | .numberUnsigned value => some value.toNat
  | _ => none

def IsString : Json → Prop
  | .string _ => True
  | _ => False

def IsNumber : Json → Prop
  | .numberInteger _ | .numberUnsigned _ | .numberFloat _ => True
  | _ => False

end Json

namespace ParameterValue

def child? : ParameterValue → JsonStep → Option ParameterValue
  | .array elements, .item index => elements[index]?
  | .struct members, .member key => members.lookup key
  | _, _ => none

def at? (value : ParameterValue) (path : List JsonStep) : Option ParameterValue :=
  path.foldlM child? value

theorem child?_fromJson (json : Json) (step : JsonStep) :
    (fromJson json).child? step = (json.child? step).map fromJson := by
  cases json with
  | array items =>
    rw [fromJson, fromJsonItems_eq]
    cases step with
    | item index => exact List.getElem?_map
    | member key => rfl
  | object members =>
    rw [fromJson, fromJsonMembers_eq]
    cases step with
    | item index => rfl
    | member key => exact lookup_map fromJson members key
  | null | boolean value | numberInteger value | numberUnsigned value | numberFloat value
  | string value => cases step <;> rfl

/-- Every place keeps what was decoded there. -/
theorem at?_fromJson (json : Json) (path : List JsonStep) :
    (fromJson json).at? path = (json.at? path).map fromJson := by
  induction path generalizing json with
  | nil => rfl
  | cons step rest ih =>
    change ((fromJson json).child? step).bind (·.at? rest) =
      ((json.child? step).bind (·.at? rest)).map fromJson
    rw [child?_fromJson]
    cases json.child? step with
    | none => rfl
    | some inner => exact ih inner

/-- A literal is decoded exactly when it is below `2 ^ 63`. -/
theorem fromJson_literal {literal : Json} {z : Int} (integer : literal.integer? = some z) :
    ∃ number : Int64, fromJson literal = .integer number ∧ (number.toInt = z ↔ z < 2 ^ 63) := by
  cases literal with
  | numberInteger value =>
    obtain rfl : value.toInt = z := Option.some.inj integer
    exact ⟨value, rfl, iff_of_true rfl value.toInt_lt⟩
  | numberUnsigned value =>
    obtain rfl : (value.toNat : Int) = z := Option.some.inj integer
    refine ⟨⟨value⟩, rfl, ?_⟩
    have same : (⟨value⟩ : Int64).toInt = (value.toNat : Int).bmod (2 ^ 64) :=
      BitVec.toInt_eq_toNat_bmod value.toBitVec
    rw [same, Int.bmod_def]
    split <;> omega
  | null | boolean value | numberFloat value | string value | array items | object members =>
    cases integer

end ParameterValue

namespace Parameter

/-- The value of the parameter has the integer literal at the end of the path. -/
def HasLiteral (json : Json) (path : List JsonStep) (z : Int) : Prop :=
  ∃ value literal, json.find? "value" = some value ∧ value.at? path = some literal ∧
    literal.integer? = some z

/-- The integer is at its place, or the decoder throws. -/
def IntegerKept (json : Json) (path : List JsonStep) (z : Int) : Prop :=
  (∃ param number, fromJson json = .ok param ∧
    param.value.at? path = some (.integer number) ∧ number.toInt = z) ∨
  ∃ exception, fromJson json = .error (.raised exception)

/-- A name or a type that is no string, or a `float64_array` with something else than
numbers. -/
def IsRefused (json : Json) : Prop :=
  ∃ name, json.find? "name" = some name ∧
    (¬ name.IsString ∨ (∃ type, json.find? "type" = some type ∧ ¬ type.IsString) ∨
      json.find? "type" = some (.string "float64_array") ∧
        ∃ items, json.find? "value" = some (.array items) ∧ ∃ item ∈ items, ¬ item.IsNumber)

/-- The type asks for a double at the end of the path. -/
def AsksForDouble (json : Json) (path : List JsonStep) : Prop :=
  json.find? "type" = some (.string "float64") ∧ path = [] ∨
    json.find? "type" = some (.string "float64_array") ∧ ∃ index, path = [.item index]

variable {json value literal : Json} {name : String} {type : Option String} {path : List JsonStep}

theorem getString_error (other : ¬ json.IsString) :
    ∃ exception, json.getString = .error (.raised exception) := by
  cases json with
  | string value => exact absurd trivial other
  | null | boolean value | numberInteger value | numberUnsigned value | numberFloat value
  | array items | object members => exact ⟨_, rfl⟩

theorem eq_string (string : json.IsString) : ∃ text, json = .string text := by
  cases json with
  | string value => exact ⟨value, rfl⟩
  | null | boolean value | numberInteger value | numberUnsigned value | numberFloat value
  | array items | object members => exact string.elim

/-- In an object the unchecked subscript fails only when the key is missing. -/
theorem index_eq {other : String} (object : json.find? other = some value) (key : String) :
    json.index key = (json.find? key).elim (.error .undefinedBehavior) .ok := by
  cases json with
  | object members =>
    cases found : members.lookup key with
    | none => simp [Json.index, Json.find?, found]
    | some member => simp [Json.index, Json.find?, found]
  | null | boolean value | numberInteger value | numberUnsigned value | numberFloat value
  | string value | array items => cases object

/-- The name and the type are looked at before the value. -/
theorem fromJson_cases (valued : json.find? "value" = some value) :
    (json.find? "name" = none ∧ fromJson json = .error .undefinedBehavior) ∨
    (∃ name, json.find? "name" = some name ∧
      (¬ name.IsString ∨ ∃ type, json.find? "type" = some type ∧ ¬ type.IsString) ∧
      ∃ exception, fromJson json = .error (.raised exception)) ∨
    ∃ name type, json.find? "name" = some (.string name) ∧
      json.find? "type" = Option.map .string type ∧
      fromJson json = (applyType name (type.getD "") (ParameterValue.fromJson value)).map
        fun value => ⟨name, value⟩ := by
  have index := index_eq valued "name"
  cases named : json.find? "name" with
  | none =>
    rw [named] at index
    refine .inl ⟨rfl, ?_⟩
    rw [fromJson, index]
    rfl
  | some name =>
    rw [named] at index
    refine .inr ?_
    by_cases string : name.IsString
    · obtain ⟨text, rfl⟩ := eq_string string
      cases typed : json.find? "type" with
      | none =>
        refine .inr ⟨text, none, rfl, rfl, ?_⟩
        exact fromJson_of_members index rfl valued (by rw [Json.findString?, typed])
      | some type =>
        by_cases typeString : type.IsString
        · obtain ⟨typeText, rfl⟩ := eq_string typeString
          refine .inr ⟨text, some typeText, rfl, rfl, ?_⟩
          refine fromJson_of_members index rfl valued ?_
          rw [Json.findString?, typed]
          rfl
        · obtain ⟨exception, thrown⟩ := getString_error typeString
          refine .inl ⟨_, rfl, .inr ⟨type, rfl, typeString⟩, exception, ?_⟩
          have typeThrown : json.findString? "type" = .error (.raised exception) := by
            rw [Json.findString?, typed]
            simp only [thrown, Except.map]
          simp only [fromJson, index, Option.elim, bind, Except.bind, Json.getString, valued,
            typeThrown]
    · obtain ⟨exception, thrown⟩ := getString_error string
      refine .inl ⟨name, rfl, .inl string, exception, ?_⟩
      simp only [fromJson, index, Option.elim, bind, Except.bind, thrown]

theorem floatElement_number (name : String) {item : Json} (number : item.IsNumber) :
    ∃ double, floatElement name (ParameterValue.fromJson item) = .ok (.double double) := by
  cases item with
  | numberInteger value => exact ⟨_, rfl⟩
  | numberUnsigned value => exact ⟨_, rfl⟩
  | numberFloat value => exact ⟨_, rfl⟩
  | null | boolean value | string value | array items | object members => exact number.elim

theorem floatElement_other (name : String) {item : Json} (other : ¬ item.IsNumber) :
    ∃ exception, floatElement name (ParameterValue.fromJson item) = .error (.raised exception) := by
  cases item with
  | numberInteger value => exact absurd trivial other
  | numberUnsigned value => exact absurd trivial other
  | numberFloat value => exact absurd trivial other
  | null | boolean value | string value | array items | object members => exact ⟨_, rfl⟩

/-- A `float64_array` is refused, or it has doubles only. -/
theorem floatElements_cases (name : String) (items : List Json) :
    ((∃ item ∈ items, ¬ item.IsNumber) ∧ ∃ exception,
      (items.map ParameterValue.fromJson).mapM (floatElement name) = .error (.raised exception)) ∨
    (∀ item ∈ items, item.IsNumber) ∧ ∃ values,
      (items.map ParameterValue.fromJson).mapM (floatElement name) = .ok values ∧
        ∀ value ∈ values, ∃ number, value = .double number := by
  cases converted : (items.map ParameterValue.fromJson).mapM (floatElement name) with
  | error fault =>
    obtain ⟨value, listed, thrown⟩ := mem_of_mapM_error converted
    obtain ⟨item, member, rfl⟩ := List.mem_map.mp listed
    have other : ¬ item.IsNumber := by
      intro number
      obtain ⟨double, made⟩ := floatElement_number name number
      rw [thrown] at made
      cases made
    obtain ⟨exception, raised⟩ := floatElement_other name other
    rw [thrown] at raised
    cases raised
    exact .inl ⟨⟨item, member, other⟩, exception, rfl⟩
  | ok values =>
    refine .inr ⟨fun item member => ?_, values, rfl, fun value listed => ?_⟩
    · by_contra other
      obtain ⟨exception, raised⟩ := floatElement_other name other
      obtain ⟨result, made⟩ := forall_of_mapM converted _ (List.mem_map_of_mem member)
      rw [raised] at made
      cases made
    · obtain ⟨item, _, made⟩ := mem_of_mapM converted value listed
      exact floatElement_double made

/-- Inside an array of numbers a path has one step. -/
theorem path_of_numbers {items : List Json} (numbers : ∀ item ∈ items, item.IsNumber)
    {path : List JsonStep} {literal : Json} {z : Int}
    (reached : Json.at? (.array items) path = some literal) (integer : literal.integer? = some z) :
    ∃ index, path = [.item index] := by
  cases path with
  | nil =>
    obtain rfl : Json.array items = literal := Option.some.inj reached
    cases integer
  | cons step rest =>
    cases step with
    | member key => cases reached
    | item index =>
      cases rest with
      | nil => exact ⟨index, rfl⟩
      | cons next later =>
        obtain ⟨item, found, inner⟩ := Option.bind_eq_some_iff.mp reached
        have number := numbers item (List.mem_of_getElem? found)
        cases item with
        | numberInteger value => cases inner
        | numberUnsigned value => cases inner
        | numberFloat value => cases inner
        | null | boolean value | string value | array items | object members =>
          exact number.elim

theorem integerKept_of_ok {param : Parameter} (decoded : fromJson json = .ok param)
    (path : List JsonStep) (z : Int) :
    IntegerKept json path z ↔
      ∃ number, param.value.at? path = some (.integer number) ∧ number.toInt = z := by
  rw [IntegerKept, decoded]
  constructor
  · rintro (⟨_, number, ⟨⟩, found, same⟩ | ⟨_, ⟨⟩⟩)
    exact ⟨number, found, same⟩
  · rintro ⟨number, found, same⟩
    exact .inl ⟨param, number, rfl, found, same⟩

theorem not_isRefused (named : json.find? "name" = some (.string name))
    (valued : json.find? "value" = some value) (typed : json.find? "type" = Option.map .string type)
    (numbers : type = some "float64_array" → ∀ items, value = .array items →
      ∀ item ∈ items, item.IsNumber) : ¬ IsRefused json := by
  rintro ⟨other, found, reason⟩
  rw [named] at found
  cases found
  rcases reason with string | ⟨member, found, string⟩ | ⟨floats, items, array, item, listed, other⟩
  · exact string trivial
  · rw [typed] at found
    obtain ⟨text, _, rfl⟩ := Option.map_eq_some_iff.mp found
    exact string trivial
  · rw [typed] at floats
    obtain ⟨text, given, same⟩ := Option.map_eq_some_iff.mp floats
    cases same
    rw [valued] at array
    exact other (numbers given items (Option.some.inj array) item listed)

/-- With the type `float64` the integer is a double afterwards. -/
theorem not_kept_float {z : Int} (integer : literal.integer? = some z)
    (decoded : fromJson json = (applyType name "float64" (ParameterValue.fromJson literal)).map
      fun value => ⟨name, value⟩) : ¬ IntegerKept json [] z := by
  obtain ⟨number, read, _⟩ := ParameterValue.fromJson_literal integer
  rw [read] at decoded
  rw [integerKept_of_ok decoded]
  rintro ⟨other, found, _⟩
  cases found

/-- Doubles only are left in a `float64_array`. -/
theorem not_kept_doubles {values : List ParameterValue}
    (decoded : fromJson json = .ok ⟨name, .array values⟩)
    (doubles : ∀ value ∈ values, ∃ number, value = .double number) (index : Nat) (z : Int) :
    ¬ IntegerKept json [.item index] z := by
  rw [integerKept_of_ok decoded]
  rintro ⟨number, found, _⟩
  obtain ⟨value, listed, inner⟩ := Option.bind_eq_some_iff.mp found
  obtain ⟨double, rfl⟩ := doubles value (List.mem_of_getElem? listed)
  cases inner

/-- Where no type applies the integer is decoded as it stands. -/
theorem kept_iff_of_untyped {z : Int} (reached : value.at? path = some literal)
    (integer : literal.integer? = some z)
    (decoded : fromJson json = .ok ⟨name, ParameterValue.fromJson value⟩) :
    IntegerKept json path z ↔ z < 2 ^ 63 := by
  obtain ⟨number, read, exact_iff⟩ := ParameterValue.fromJson_literal integer
  rw [integerKept_of_ok decoded, ParameterValue.at?_fromJson, reached, ← exact_iff]
  constructor
  · rintro ⟨other, found, same⟩
    rw [Option.map_some, read] at found
    cases found
    exact same
  · intro same
    exact ⟨number, congrArg some read, same⟩

/-- A type other than those of the two conversions does nothing to a literal's value. -/
theorem applyType_eq_self {z : Int} (reached : value.at? path = some literal)
    (integer : literal.integer? = some z) (name type : String)
    (float : ¬ (type = "float64" ∧ path = []))
    (floats : ¬ (type = "float64_array" ∧ ∃ items, value = .array items)) :
    applyType name type (ParameterValue.fromJson value) = .ok (ParameterValue.fromJson value) := by
  cases value with
  | string text =>
    -- a string is no literal and has none inside
    cases path with
    | nil =>
      cases reached
      cases integer
    | cons step rest => cases reached
  | numberInteger number =>
    cases path with
    | nil => exact if_neg fun same => float ⟨same, rfl⟩
    | cons step rest => cases reached
  | numberUnsigned number =>
    cases path with
    | nil => exact if_neg fun same => float ⟨same, rfl⟩
    | cons step rest => cases reached
  | array items =>
    exact if_neg fun same => floats ⟨same, items, rfl⟩
  | object members =>
    rfl
  | null | boolean value | numberFloat value => rfl

theorem eq_some_of_getD {text : String} (given : type.getD "" = text) (inhabited : text ≠ "") :
    type = some text := by
  cases type with
  | none => exact absurd given.symm inhabited
  | some other => exact congrArg some given

/-- The parameter is refused, or it has a name, the literal is below `2 ^ 63` and no double is
asked for in its place. -/
def IsSafe (json : Json) (path : List JsonStep) (z : Int) : Prop :=
  IsRefused json ∨ (json.find? "name").isSome ∧ z < 2 ^ 63 ∧ ¬ AsksForDouble json path

section Typed

variable {json value literal : Json} {name : String} {type : Option String}
  {path : List JsonStep} {z : Int}

theorem kept_iff_doubles {items : List Json} (integer : literal.integer? = some z)
    (reached : Json.at? (.array items) path = some literal)
    (named : json.find? "name" = some (.string name))
    (valued : json.find? "value" = some (.array items))
    (typed : json.find? "type" = some (.string "float64_array"))
    (decoded : fromJson json =
      (((items.map ParameterValue.fromJson).mapM (floatElement name)).map .array).map
        fun value => ⟨name, value⟩) : IntegerKept json path z ↔ IsSafe json path z := by
  rcases floatElements_cases name items with ⟨other, exception, thrown⟩ |
    ⟨numbers, values, converted, doubles⟩
  · rw [thrown] at decoded
    exact iff_of_true (.inr ⟨exception, decoded⟩)
      (.inl ⟨_, named, .inr (.inr ⟨typed, items, valued, other⟩)⟩)
  · rw [converted] at decoded
    obtain ⟨index, rfl⟩ := path_of_numbers numbers reached integer
    refine iff_of_false (not_kept_doubles decoded doubles index z) ?_
    rintro (refused | ⟨_, _, undoubled⟩)
    · have given : json.find? "type" = Option.map .string (some "float64_array") := typed
      refine not_isRefused named valued given (fun _ others same => ?_) refused
      cases same
      exact numbers
    · exact undoubled (.inr ⟨typed, index, rfl⟩)

theorem kept_iff_plain (integer : literal.integer? = some z)
    (reached : value.at? path = some literal)
    (named : json.find? "name" = some (.string name)) (valued : json.find? "value" = some value)
    (typed : json.find? "type" = Option.map .string type)
    (float : ¬ (type = some "float64" ∧ path = []))
    (floats : ¬ (type = some "float64_array" ∧ ∃ items, value = .array items))
    (decoded : fromJson json = .ok ⟨name, ParameterValue.fromJson value⟩) :
    IntegerKept json path z ↔ IsSafe json path z := by
  have unrefused : ¬ IsRefused json :=
    not_isRefused named valued typed fun given items same => absurd ⟨given, items, same⟩ floats
  have given {text : String} (same : json.find? "type" = some (.string text)) :
      type = some text := by
    rw [typed] at same
    obtain ⟨other, found, equal⟩ := Option.map_eq_some_iff.mp same
    cases equal
    exact found
  have undoubled : ¬ AsksForDouble json path := by
    rintro (⟨asked, rfl⟩ | ⟨asked, index, rfl⟩)
    · exact float ⟨given asked, rfl⟩
    · obtain ⟨item, found, _⟩ := Option.bind_eq_some_iff.mp reached
      cases value with
      | array items => exact floats ⟨given asked, items, rfl⟩
      | null | boolean value | numberInteger value | numberUnsigned value | numberFloat value
      | string value | object members => cases found
  rw [kept_iff_of_untyped reached integer decoded, IsSafe, or_iff_right unrefused, named]
  exact ⟨fun below => ⟨rfl, below, undoubled⟩, fun safe => safe.2.1⟩

end Typed

/-- An integer literal keeps its value, or the decoder throws, exactly where it is safe. -/
theorem integer_kept_iff {json : Json} {path : List JsonStep} {z : Int}
    (present : HasLiteral json path z) : IntegerKept json path z ↔ IsSafe json path z := by
  obtain ⟨value, literal, valued, reached, integer⟩ := present
  rcases fromJson_cases valued with ⟨unnamed, undefined⟩ | ⟨name, named, strings, raised⟩ |
    ⟨name, type, named, typed, decoded⟩
  · refine iff_of_false ?_ ?_
    · rintro (⟨_, _, returned, _⟩ | ⟨_, thrown⟩)
      · rw [undefined] at returned
        cases returned
      · rw [undefined] at thrown
        cases thrown
    · rintro (⟨name, named, _⟩ | ⟨named, _⟩)
      · rw [unnamed] at named
        cases named
      · rw [unnamed] at named
        cases named
  · exact iff_of_true (.inr raised) (.inl ⟨name, named, strings.imp_right .inl⟩)
  · by_cases float : type = some "float64" ∧ path = []
    · obtain ⟨rfl, rfl⟩ := float
      obtain rfl : value = literal := Option.some.inj reached
      refine iff_of_false (not_kept_float integer decoded) ?_
      rintro (refused | ⟨_, _, undoubled⟩)
      · have given : json.find? "type" = Option.map .string (some "float64") := typed
        exact not_isRefused named valued given (fun other => absurd other (by decide)) refused
      · exact undoubled (.inl ⟨typed, rfl⟩)
    by_cases floats : type = some "float64_array" ∧ ∃ items, value = .array items
    · obtain ⟨rfl, items, rfl⟩ := floats
      rw [ParameterValue.fromJson, ParameterValue.fromJsonItems_eq] at decoded
      exact kept_iff_doubles integer reached named valued typed decoded
    · have unchanged := applyType_eq_self reached integer name (type.getD "")
        (fun both => float ⟨eq_some_of_getD both.1 (by decide), both.2⟩)
        (fun both => floats ⟨eq_some_of_getD both.1 (by decide), both.2⟩)
      rw [unchanged] at decoded
      exact kept_iff_plain integer reached named valued typed float floats decoded

/-- An integer inside an array of a struct stays what it is. -/
theorem integer_kept_nested :
    IntegerKept (.object [("name", .string "limits"),
      ("value", .object [("range", .array [.numberUnsigned 5])])])
      [.member "range", .item 0] 5 := by
  refine (integer_kept_iff ⟨_, .numberUnsigned 5, rfl, rfl, rfl⟩).mpr (.inr ⟨rfl, by decide, ?_⟩)
  rintro (⟨given, _⟩ | ⟨given, _⟩) <;> cases given

/-- The literal `9223372036854775808` is stored as the smallest integer. -/
theorem large_literal_changed :
    fromJson (.object [("name", .string "limit"), ("value", .numberUnsigned 9223372036854775808)]) =
        .ok ⟨"limit", .integer (-9223372036854775808)⟩ ∧
      ¬ IntegerKept (.object [("name", .string "limit"),
        ("value", .numberUnsigned 9223372036854775808)]) [] 9223372036854775808 := by
  have decoded : fromJson (.object [("name", .string "limit"),
      ("value", .numberUnsigned 9223372036854775808)]) =
        .ok ⟨"limit", .integer (-9223372036854775808)⟩ := rfl
  refine ⟨decoded, ?_⟩
  rw [integerKept_of_ok decoded]
  rintro ⟨number, found, same⟩
  cases found
  revert same
  decide

end Parameter

end CoBridge
