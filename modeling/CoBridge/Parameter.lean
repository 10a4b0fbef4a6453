import Mathlib.Algebra.Group.Int.Defs
import Mathlib.Algebra.Group.Nat.Defs
import CoBridge.Common

/-!
# JSON values and their typed access

Values as the bundled JSON library stores them after parsing, with the access
functions the server uses. Every access either returns a value or fails with
the library's exception; the one exception is `index`, the constant subscript
operator, which dereferences a past-the-end iterator when the key is missing.
-/

namespace CoBridge

/-- An IEEE 754 binary64 number, by its bit pattern. -/
structure Double where
  bits : UInt64
deriving DecidableEq, Repr

namespace Double

/-- The integral part, rounded towards zero; infinities and NaN have none. -/
def truncate? (number : Double) : Option Int :=
  let exponent := ((number.bits >>> 52) &&& 0x7FF).toNat
  let fraction := (number.bits &&& 0xFFFFFFFFFFFFF).toNat
  if exponent = 0x7FF then
    none
  else
    let significand := if exponent = 0 then fraction else fraction + 2 ^ 52
    -- The value is `significand * 2 ^ (scale - 1075)`; subnormals share scale 1.
    let scale := max exponent 1
    let magnitude := significand * 2 ^ (scale - 1075) / 2 ^ (1075 - scale)
    some (if number.bits >>> 63 = 1 then -(magnitude : Int) else magnitude)

/-- Conversion of an integer to the nearest double, ties to even. -/
def ofInt64 (value : Int64) : Double :=
  let magnitude := value.toInt.natAbs
  if magnitude = 0 then
    ⟨0⟩
  else
    let exponent := magnitude.log2
    let shift := exponent - 52
    let quotient := magnitude * 2 ^ (52 - exponent) / 2 ^ shift
    let remainder := magnitude % 2 ^ shift
    let half := 2 ^ shift / 2
    let roundUp := 0 < shift ∧ (half < remainder ∨ half = remainder ∧ quotient % 2 = 1)
    let rounded := if roundUp then quotient + 1 else quotient
    -- A carry out of the significand moves into the exponent field by addition.
    let sign := if value.toInt < 0 then 2 ^ 63 else 0
    ⟨UInt64.ofNat (sign + (exponent + 1023) * 2 ^ 52 + (rounded - 2 ^ 52))⟩

end Double

inductive Json where
  | null
  | boolean (value : Bool)
  | numberInteger (value : Int64)
  | numberUnsigned (value : UInt64)
  | numberFloat (value : Double)
  | string (value : String)
  | array (elements : List Json)
  | object (members : List (String × Json))

namespace Json

/-- The type names used in the library's messages. -/
def typeName : Json → String
  | .null => "null"
  | .object _ => "object"
  | .array _ => "array"
  | .string _ => "string"
  | .boolean _ => "boolean"
  | .numberInteger _ => "number"
  | .numberUnsigned _ => "number"
  | .numberFloat _ => "number"

def typeError (code : Nat) (what : String) : Fault :=
  .raised (.std ("[json.exception.type_error." ++ toString code ++ "] " ++ what))

def outOfRange (code : Nat) (what : String) : Fault :=
  .raised (.std ("[json.exception.out_of_range." ++ toString code ++ "] " ++ what))

/-- Members by key; a value that is not an object has none. -/
def find? (json : Json) (key : String) : Option Json :=
  match json with
  | .object members => members.lookup key
  | _ => none

/-- Checked member access. -/
def atKey (json : Json) (key : String) : Except Fault Json :=
  match json with
  | .object members =>
    match members.lookup key with
    | some member => .ok member
    | none => .error (outOfRange 403 ("key '" ++ key ++ "' not found"))
  | _ => .error (typeError 304 ("cannot use at() with " ++ json.typeName))

/-- The constant subscript operator, unchecked for missing keys. -/
def index (json : Json) (key : String) : Except Fault Json :=
  match json with
  | .object members =>
    match members.lookup key with
    | some member => .ok member
    | none => .error .undefinedBehavior
  | _ => .error (typeError 305
      ("cannot use operator[] with a string argument with " ++ json.typeName))

/-- What a range-based loop visits: a primitive is a range of one element. -/
def elements : Json → List Json
  | .null => []
  | .array items => items
  | .object members => members.map Prod.snd
  | primitive => [primitive]

def getString : Json → Except Fault String
  | .string value => .ok value
  | json => .error (typeError 302 ("type must be string, but is " ++ json.typeName))

/-- Conversion to a 32-bit unsigned integer by `static_cast`. A floating-point
value outside the target's range has no defined conversion. -/
def getUInt32 : Json → Except Fault UInt32
  | .numberUnsigned value => .ok value.toUInt32
  | .numberInteger value => .ok value.toUInt64.toUInt32
  | .boolean value => .ok (if value then 1 else 0)
  | .numberFloat value =>
    match value.truncate? with
    | some integral =>
      if 0 ≤ integral ∧ integral < 2 ^ 32 then .ok (UInt32.ofNat integral.toNat)
      else .error .undefinedBehavior
    | none => .error .undefinedBehavior
  | json => .error (typeError 302 ("type must be number, but is " ++ json.typeName))

/-- Conversion to a sequence container, element by element. -/
def getArray {Value : Type} (convert : Json → Except Fault Value) (json : Json) :
    Except Fault (List Value) :=
  match json with
  | .array items => items.mapM convert
  | _ => .error (typeError 302 ("type must be array, but is " ++ json.typeName))

def getStrings : Json → Except Fault (List String) := getArray getString

/-- An optional string member: absent, or present and a string. -/
def findString? (json : Json) (key : String) : Except Fault (Option String) :=
  match json.find? key with
  | none => .ok none
  | some member => member.getString.map some

/-- Checked access to a string member never is undefined behaviour. -/
theorem stringMember_defined (json : Json) (key : String) :
    (json.atKey key >>= getString) ≠ .error .undefinedBehavior := by
  have typed (member : Json) : member.getString ≠ .error .undefinedBehavior := by
    cases member <;> simp [getString, typeError]
  unfold atKey
  split
  · split
    · exact typed _
    · simp [outOfRange, bind, Except.bind]
  · simp [typeError, bind, Except.bind]

end Json

/-- What writing a string into a message does: the string is written, or its bytes,
which are not UTF-8, are refused. -/
abbrev TextCheck : Type := String → Except Exception Unit

/-- All strings are text. -/
def writesAll : TextCheck := fun _ => .ok ()

/-- Write a message with the given strings; the first one that is refused throws. -/
def dumpTexts (check : TextCheck) (texts : List String) : Except Exception Unit := texts.forM check

theorem dumpTexts_ok {check : TextCheck} {texts : List String}
    (passes : ∀ text ∈ texts, check text = .ok ()) : dumpTexts check texts = .ok () := by
  induction texts with
  | nil => rfl
  | cons text rest ih =>
    have written := ih fun later member =>
      passes later (List.mem_cons_of_mem _ member)
    change check text >>= (fun _ => dumpTexts check rest) = _
    rw [passes text List.mem_cons_self]
    exact written

/-!
## Parameters and their JSON form

Parameter values with the decoding of `serialization.cpp`, and the base64
decoder it uses for byte arrays.
-/

inductive ParameterValue where
  | notSet
  | bool (value : Bool)
  | integer (value : Int64)
  | double (value : Double)
  | string (value : String)
  | byteArray (value : List UInt8)
  | array (elements : List ParameterValue)
  | struct (members : List (String × ParameterValue))

structure Parameter where
  name : String
  value : ParameterValue

private def runtimeError (what : String) : Fault := .raised (.std what)

/-- The six bits a base64 character stands for. -/
def sextet? (character : UInt8) : Option UInt32 :=
  if 0x41 ≤ character ∧ character ≤ 0x5A then some (character - 0x41).toUInt32
  else if 0x61 ≤ character ∧ character ≤ 0x7A then some (character - 0x47).toUInt32
  else if 0x30 ≤ character ∧ character ≤ 0x39 then some (character + 0x04).toUInt32
  else if character = 0x2B then some 0x3E
  else if character = 0x2F then some 0x3F
  else none

private def lowByte (word : UInt32) : UInt8 := word.toUInt8

/-- The decoder's loop: `position` counts the characters of the current group
of four, `temp` keeps the bits of the groups read so far. -/
def base64DecodeLoop (remaining : List UInt8) (position : Nat) (temp : UInt32)
    (decoded : List UInt8) : Except Fault (List UInt8) :=
  match remaining with
  | [] => .ok decoded
  | character :: rest =>
    let shifted := temp <<< 6
    match sextet? character with
    | some bits =>
      let temp := shifted ||| bits
      if position = 3 then
        base64DecodeLoop rest 0 temp
          (decoded ++ [lowByte (temp >>> 16), lowByte (temp >>> 8), lowByte temp])
      else
        base64DecodeLoop rest (position + 1) temp decoded
    | none =>
      if character = 0x3D then
        match rest with
        | [] => .ok (decoded ++ [lowByte (shifted >>> 16), lowByte (shifted >>> 8)])
        | [_] => .ok (decoded ++ [lowByte (shifted >>> 10)])
        | _ => .error (runtimeError "Invalid padding in base64!")
      else
        .error (runtimeError "Invalid character in base64!")

def base64Decode (input : List UInt8) : Except Fault (List UInt8) :=
  if input.length % 4 ≠ 0 then .error (runtimeError "Invalid base64 length!")
  else base64DecodeLoop input 0 0 []

mutual

/-- Decoding of a value; a JSON null leaves the value unset. -/
def ParameterValue.fromJson : Json → ParameterValue
  | .string value => .string value
  | .boolean value => .bool value
  | .numberInteger value => .integer value
  | .numberUnsigned value => .integer ⟨value⟩
  | .numberFloat value => .double value
  | .object members => .struct (ParameterValue.fromJsonMembers members)
  | .array items => .array (ParameterValue.fromJsonItems items)
  | .null => .notSet

def ParameterValue.fromJsonItems : List Json → List ParameterValue
  | [] => []
  | item :: rest => ParameterValue.fromJson item :: ParameterValue.fromJsonItems rest

def ParameterValue.fromJsonMembers : List (String × Json) → List (String × ParameterValue)
  | [] => []
  | (key, item) :: rest =>
    (key, ParameterValue.fromJson item) :: ParameterValue.fromJsonMembers rest

end

/-- An element of a `float64_array` as a double. -/
def Parameter.floatElement (name : String) : ParameterValue → Except Fault ParameterValue
  | .integer value => .ok (.double (Double.ofInt64 value))
  | .double value => .ok (.double value)
  | _ => .error (runtimeError
      ("Parameter '" ++ name ++ "' (float64_array) contains non-numeric elements."))

/-- Decoding of a parameter. The name is read by the unchecked subscript. -/
def Parameter.fromJson (json : Json) : Except Fault Parameter := do
  let name ← (← json.index "name").getString
  match json.find? "value" with
  | none => return ⟨name, .notSet⟩
  | some member =>
    let value := ParameterValue.fromJson member
    let type := (← json.findString? "type").getD ""
    match value with
    | .string text =>
      if type = "byte_array" then
        return ⟨name, .byteArray (← base64Decode text.toUTF8.toList)⟩
      else return ⟨name, value⟩
    | .integer number =>
      if type = "float64" then return ⟨name, .double (Double.ofInt64 number)⟩
      else return ⟨name, value⟩
    | .array items =>
      if type = "float64_array" then
        return ⟨name, .array (← items.mapM (floatElement name))⟩
      else return ⟨name, value⟩
    | _ => return ⟨name, value⟩

end CoBridge
