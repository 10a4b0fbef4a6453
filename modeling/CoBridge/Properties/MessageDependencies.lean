import CoBridge.Properties.DefinitionSplits
import CoBridge.Ros2.FieldTypes

/-!
# The dependencies of a message text

A message text is a list of blank lines, comments, constants and fields. The expression for the
field types runs over the whole text, but no match reaches from one declaration into the next:
it ends in front of the name that follows the type, and the next one starts at the end of a line.
So the types it finds are those of the constants and fields, apart from the bounded ones, where
it finds nothing.

`PRIMITIVE_TYPES` leaves out `wstring`, so a field of that type adds a dependency on a message
`wstring` of the package.
-/

namespace CoBridge.Ros2

open Library

/-! ### Message texts -/

/-- Whitespace inside a line. -/
def isBlank (character : Char) : Bool := isSpace character && character ≠ '\n'

inductive PrimitiveType where
  | bool
  | byte
  | char
  | float32
  | float64
  | int8
  | uint8
  | int16
  | uint16
  | int32
  | uint32
  | int64
  | uint64
  | string
  | wstring
deriving Repr, DecidableEq

def PrimitiveType.text : PrimitiveType → Text
  | .bool => "bool".toList
  | .byte => "byte".toList
  | .char => "char".toList
  | .float32 => "float32".toList
  | .float64 => "float64".toList
  | .int8 => "int8".toList
  | .uint8 => "uint8".toList
  | .int16 => "int16".toList
  | .uint16 => "uint16".toList
  | .int32 => "int32".toList
  | .uint32 => "uint32".toList
  | .int64 => "int64".toList
  | .uint64 => "uint64".toList
  | .string => "string".toList
  | .wstring => "wstring".toList

/-- The type of a constant or a field. -/
inductive MsgType where
  | primitive (type : PrimitiveType)
  | boundedString (bound : Text) (digits : bound.all Char.isDigit)
  | boundedWstring (bound : Text) (digits : bound.all Char.isDigit)
  | bare (typeName : Text) (valid : isName typeName)
      (other : ∀ type : PrimitiveType, typeName ≠ type.text)
  | qualified (package typeName : Text) (packageValid : isName package)
      (typeValid : isName typeName)

namespace MsgType

/-- The type without its bound. -/
def unbounded : MsgType → Text
  | .primitive type => type.text
  | .boundedString _ _ => PrimitiveType.string.text
  | .boundedWstring _ _ => PrimitiveType.wstring.text
  | .bare typeName _ _ => typeName
  | .qualified package typeName _ _ => package ++ '/' :: typeName

/-- The bound as it is written behind the type. -/
def boundText : MsgType → Text
  | .boundedString bound _ | .boundedWstring bound _ => '<' :: '=' :: bound
  | .primitive _ | .bare .. | .qualified .. => []

def isPrimitive : MsgType → Bool
  | .primitive _ | .boundedString .. | .boundedWstring .. => true
  | .bare .. | .qualified .. => false

/-- A `wstring` without a bound. -/
def isWstring : MsgType → Bool
  | .primitive .wstring => true
  | _ => false

/-- What the expression for field types finds where the type is written. -/
def found? : MsgType → Option Text
  | .primitive type => some type.text
  | .boundedString .. | .boundedWstring .. => none
  | .bare typeName _ _ => some typeName
  | .qualified package typeName _ _ => some (package ++ '/' :: typeName)

/-- The message that a field of the type depends on. -/
def dependency? (packageContext : Text) : MsgType → Option Text
  | .primitive _ | .boundedString .. | .boundedWstring .. => none
  | .bare typeName _ _ => some (packageContext ++ '/' :: typeName)
  | .qualified package typeName _ _ => some (package ++ '/' :: typeName)

end MsgType

/-- A constant or a field: a type, a name and any rest of the line. -/
structure Declaration where
  indent : Text
  type : MsgType
  /-- What stands in the brackets of an array suffix. -/
  suffix : Option Text
  gap : Text
  name : Text
  rest : Text
  indentBlank : indent.all isBlank
  suffixClosed : ∀ inside ∈ suffix, ']' ∉ inside ∧ '\n' ∉ inside
  gapInhabited : gap ≠ []
  gapBlank : gap.all isBlank
  nameValid : isName name
  restLine : '\n' ∉ rest

def suffixText : Option Text → Text
  | none => []
  | some inside => '[' :: (inside ++ [']'])

def Declaration.text (declaration : Declaration) : Text :=
  declaration.indent ++ (declaration.type.unbounded ++ (declaration.type.boundText ++
    (suffixText declaration.suffix ++ (declaration.gap ++ (declaration.name ++
      declaration.rest)))))

/-- A line of a message text. Constants have primitive types. -/
inductive MsgLine where
  | blank (blanks : Text) (valid : blanks.all isBlank)
  | comment (indent text : Text) (indentBlank : indent.all isBlank) (textLine : '\n' ∉ text)
  | constant (declaration : Declaration) (primitive : declaration.type.isPrimitive)
  | field (declaration : Declaration)

namespace MsgLine

def text : MsgLine → Text
  | .blank blanks _ => blanks
  | .comment indent text _ _ => indent ++ '#' :: text
  | .constant declaration _ | .field declaration => declaration.text

/-- A constant or a field of the type `wstring`. -/
def isWstring : MsgLine → Bool
  | .constant declaration _ | .field declaration => declaration.type.isWstring
  | .blank .. | .comment .. => false

def found? : MsgLine → Option Text
  | .constant declaration _ | .field declaration => declaration.type.found?
  | .blank .. | .comment .. => none

def dependency? (packageContext : Text) : MsgLine → Option Text
  | .field declaration => declaration.type.dependency? packageContext
  | .blank .. | .comment .. | .constant .. => none

end MsgLine

def msgText (lines : List MsgLine) : Text := joinLines (lines.map MsgLine.text)

/-- The field types that are not primitive, in the order of the fields. -/
def fieldDependencies (packageContext : Text) (lines : List MsgLine) : List Text :=
  lines.filterMap (MsgLine.dependency? packageContext)

/-! ### Characters of the parts -/

theorem isSpace_of_isBlank {text : Text} (blank : text.all isBlank) : text.all isSpace := by
  rw [List.all_eq_true] at blank ⊢
  exact fun character member => (Bool.and_eq_true_iff.mp (blank character member)).1

theorem not_newline_of_isBlank {text : Text} (blank : text.all isBlank) : '\n' ∉ text :=
  fun member => absurd (List.all_eq_true.mp blank '\n' member) (by decide)

/-- A name is a type. -/
theorem isTypeCharacter_of_isName {text : Text} (name : isName text) :
    text ≠ [] ∧ text.all isTypeCharacter := by
  obtain ⟨inhabited, all⟩ := Bool.and_eq_true_iff.mp name
  constructor
  · rintro rfl
    cases inhabited
  · rw [List.all_eq_true] at all ⊢
    exact fun character member => Bool.or_eq_true_iff.mpr (.inl (all character member))

theorem not_newline_of_type {text : Text} (all : text.all isTypeCharacter) : '\n' ∉ text :=
  fun member => absurd (List.all_eq_true.mp all '\n' member) (by decide)

theorem not_slash_of_isName {text : Text} (name : isName text) : '/' ∉ text :=
  fun member => absurd (List.all_eq_true.mp (Bool.and_eq_true_iff.mp name).2 '/' member) (by decide)

theorem primitive_text_type (type : PrimitiveType) :
    type.text ≠ [] ∧ type.text.all isTypeCharacter := by
  cases type <;> decide

namespace MsgType

variable (type : MsgType)

theorem unbounded_type :
    type.unbounded ≠ [] ∧ type.unbounded.all isTypeCharacter := by
  cases type with
  | primitive type => exact primitive_text_type type
  | boundedString bound digits => exact primitive_text_type .string
  | boundedWstring bound digits => exact primitive_text_type .wstring
  | bare typeName valid other => exact isTypeCharacter_of_isName valid
  | qualified package typeName packageValid typeValid =>
    have packageAll := (isTypeCharacter_of_isName packageValid).2
    have typeAll := (isTypeCharacter_of_isName typeValid).2
    refine ⟨by simp [unbounded], ?_⟩
    rw [unbounded, List.all_append, packageAll, List.all_cons, typeAll]
    rfl

theorem boundText_line : '\n' ∉ type.boundText := by
  have digitsLine : ∀ bound : Text, bound.all Char.isDigit → '\n' ∉ '<' :: '=' :: bound := by
    intro bound digits member
    rcases List.mem_cons.mp member with impossible | member
    · exact absurd impossible (by decide)
    rcases List.mem_cons.mp member with impossible | member
    · exact absurd impossible (by decide)
    · exact absurd (List.all_eq_true.mp digits '\n' member) (by decide)
  cases type with
  | boundedString bound digits => exact digitsLine bound digits
  | boundedWstring bound digits => exact digitsLine bound digits
  | primitive type => exact List.not_mem_nil
  | bare typeName valid other => exact List.not_mem_nil
  | qualified package typeName packageValid typeValid => exact List.not_mem_nil

/-- A type is found unless it has a bound. -/
theorem found_cases :
    (type.boundText = [] ∧ type.found? = some type.unbounded) ∨
      ∃ bound, type.boundText = '<' :: bound ∧ type.found? = none := by
  cases type with
  | boundedString bound digits => exact .inr ⟨_, rfl, rfl⟩
  | boundedWstring bound digits => exact .inr ⟨_, rfl, rfl⟩
  | primitive type => exact .inl ⟨rfl, rfl⟩
  | bare typeName valid other => exact .inl ⟨rfl, rfl⟩
  | qualified package typeName packageValid typeValid => exact .inl ⟨rfl, rfl⟩

end MsgType

namespace Declaration

variable (declaration : Declaration)
variable (following : Text)

theorem suffixText_line : '\n' ∉ suffixText declaration.suffix := by
  cases known : declaration.suffix with
  | none => exact List.not_mem_nil
  | some inside =>
    have line := (declaration.suffixClosed inside known).2
    simp [suffixText, line]

theorem text_line : '\n' ∉ declaration.text := by
  have indent := not_newline_of_isBlank declaration.indentBlank
  have type := not_newline_of_type declaration.type.unbounded_type.2
  have bound := declaration.type.boundText_line
  have suffix := declaration.suffixText_line
  have gap := not_newline_of_isBlank declaration.gapBlank
  have name := not_newline_of_type (isTypeCharacter_of_isName declaration.nameValid).2
  simp only [Declaration.text, List.mem_append, not_or]
  exact ⟨indent, type, bound, suffix, gap, name, declaration.restLine⟩

/-- The text behind the name of the type. -/
def behindType (following : Text) : Text :=
  declaration.type.boundText ++ (suffixText declaration.suffix ++ (declaration.gap ++
    (declaration.name ++ (declaration.rest ++ following))))

theorem stopsAt_behindType :
    Pattern.StopsAt isTypeCharacter (declaration.behindType following) := by
  rcases declaration.type.found_cases with ⟨plain, _⟩ | ⟨bound, bounded, _⟩
  · rw [behindType, plain, List.nil_append]
    cases known : declaration.suffix with
    | none =>
      rw [suffixText, List.nil_append]
      refine Pattern.stopsAt_append declaration.gapInhabited fun head member type => ?_
      exact not_isSpace_of_isTypeCharacter type
        (List.all_eq_true.mp (isSpace_of_isBlank declaration.gapBlank) head member)
    | some inside =>
      rintro _ ⟨⟩
      decide
  · rw [behindType, bounded]
    rintro _ ⟨⟩
    decide

theorem afterType_run_behindType (plain : declaration.type.boundText = []) (type : Text) :
    afterType.run ⟨false, declaration.behindType following, type⟩ Pattern.outcome =
      some (type, declaration.name ++ (declaration.rest ++ following)) := by
  obtain ⟨nameInhabited, nameAll⟩ := isTypeCharacter_of_isName declaration.nameValid
  have stops : Pattern.StopsAt isSpace (declaration.name ++ (declaration.rest ++ following)) :=
    Pattern.stopsAt_append nameInhabited fun head member =>
      not_isSpace_of_isTypeCharacter (List.all_eq_true.mp nameAll head member)
  have gap := isSpace_of_isBlank declaration.gapBlank
  rw [behindType, plain, List.nil_append]
  cases known : declaration.suffix with
  | none => exact afterType_run declaration.gapInhabited gap stops
  | some inside =>
    have closed := (declaration.suffixClosed inside known).1
    rw [suffixText, List.cons_append, List.append_assoc]
    exact afterType_run_suffix closed declaration.gapInhabited gap stops

/-- The match at a declaration starts behind the indentation. -/
theorem matchHere_text :
    fieldType.matchHere false (declaration.text ++ following) =
      afterType.run ⟨false, declaration.behindType following, declaration.type.unbounded⟩
        Pattern.outcome := by
  obtain ⟨inhabited, all⟩ := declaration.type.unbounded_type
  have stops : Pattern.StopsAt isSpace
      (declaration.type.unbounded ++ declaration.behindType following) :=
    Pattern.stopsAt_append inhabited fun head member =>
      not_isSpace_of_isTypeCharacter (List.all_eq_true.mp all head member)
  have split : declaration.text ++ following = declaration.indent ++
      (declaration.type.unbounded ++ declaration.behindType following) := by
    simp only [Declaration.text, behindType, List.append_assoc]
  rw [split, Pattern.matchHere, fieldType_run (isSpace_of_isBlank declaration.indentBlank) stops,
    typeAndAfter_run inhabited all (declaration.stopsAt_behindType following)]

end Declaration

/-! ### Searching line by line -/

/-- Each line behind the end of the one before. -/
def lineTexts (lines : List MsgLine) : Text := lines.flatMap fun line => '\n' :: line.text

theorem lineTexts_cons (line : MsgLine) (more : List MsgLine) :
    lineTexts (line :: more) = '\n' :: (line.text ++ lineTexts more) := rfl

theorem search_newline (text : Text) :
    msgFieldTypeRegex.search false ('\n' :: text) =
      (fieldType.matchHere false text).or (msgFieldTypeRegex.search false text) :=
  Pattern.search_lineStart_end rfl

theorem search_inside {inside : Text} (line : '\n' ∉ inside) (following : Text) :
    msgFieldTypeRegex.search false (inside ++ following) =
      msgFieldTypeRegex.search false following :=
  Pattern.search_lineStart_inside fun _ member ends => line (of_decide_eq_true ends ▸ member)

/-- A line where nothing matches is passed. -/
theorem search_passes {text following : Text} (line : '\n' ∉ text)
    (absent : fieldType.matchHere false (text ++ following) = none) :
    msgFieldTypeRegex.search false ('\n' :: (text ++ following)) =
      msgFieldTypeRegex.search false following := by
  rw [search_newline, absent, Option.none_or, search_inside line]

namespace Declaration

variable (declaration : Declaration)

theorem search_found {type : Text} (found : declaration.type.found? = some type)
    (following : Text) :
    msgFieldTypeRegex.search false ('\n' :: (declaration.text ++ following)) =
      some (type, (declaration.name ++ declaration.rest) ++ following) := by
  rcases declaration.type.found_cases with ⟨plain, same⟩ | ⟨_, _, same⟩
  · cases same.symm.trans found
    rw [search_newline, matchHere_text, afterType_run_behindType declaration following plain,
      Option.some_or, List.append_assoc]
  · cases same.symm.trans found

theorem search_bounded (bounded : declaration.type.found? = none) (following : Text) :
    msgFieldTypeRegex.search false ('\n' :: (declaration.text ++ following)) =
      msgFieldTypeRegex.search false following := by
  rcases declaration.type.found_cases with ⟨_, same⟩ | ⟨bound, text, _⟩
  · cases same.symm.trans bounded
  · refine search_passes declaration.text_line ?_
    rw [matchHere_text, behindType, text]
    -- A bound behind the type name is neither a suffix nor whitespace.
    exact rfl

end Declaration

theorem matchHere_comment {indent : Text} (blank : indent.all isBlank) (following : Text) :
    fieldType.matchHere false (indent ++ '#' :: following) = none := by
  have noSpace : Pattern.StopsAt isSpace ('#' :: following) := by
    rintro _ ⟨⟩
    decide
  have noType : Pattern.StopsAt isTypeCharacter ('#' :: following) := by
    rintro _ ⟨⟩
    decide
  rw [Pattern.matchHere, fieldType_run (isSpace_of_isBlank blank) noSpace,
    typeAndAfter_run_none noType]

/-- Blank lines are passed, at whichever of their ends the match of the next line starts. -/
theorem search_blank {blanks : Text} (blank : blanks.all isBlank) (more : List MsgLine) :
    msgFieldTypeRegex.search false ('\n' :: (blanks ++ lineTexts more)) =
      msgFieldTypeRegex.search false (lineTexts more) := by
  have spaces := isSpace_of_isBlank blank
  rw [search_newline, search_inside (not_newline_of_isBlank blank), matchHere_spaces spaces]
  cases more with
  | nil => rfl
  | cons line more =>
    have newline : ['\n'].all isSpace := rfl
    rw [lineTexts_cons, search_newline]
    rw [show '\n' :: (line.text ++ lineTexts more) = ['\n'] ++ (line.text ++ lineTexts more)
      from rfl, matchHere_spaces newline, ← Option.or_assoc, Option.or_self]

variable {line : MsgLine} (lines : List MsgLine) (packageContext : Text) (type : MsgType)

/-- A line in which a type is found ends with characters that no match starts at. -/
theorem search_line_found {type : Text} (found : line.found? = some type) :
    ∃ inside, '\n' ∉ inside ∧ ∀ following,
      msgFieldTypeRegex.search false ('\n' :: (line.text ++ following)) =
        some (type, inside ++ following) := by
  have declared : ∀ declaration : Declaration, declaration.type.found? = some type →
      ∃ inside, '\n' ∉ inside ∧ ∀ following,
        msgFieldTypeRegex.search false ('\n' :: (declaration.text ++ following)) =
          some (type, inside ++ following) := by
    intro declaration found
    have name := not_newline_of_type (isTypeCharacter_of_isName declaration.nameValid).2
    refine ⟨declaration.name ++ declaration.rest, ?_, declaration.search_found found⟩
    rw [List.mem_append, not_or]
    exact ⟨name, declaration.restLine⟩
  cases line with
  | blank blanks valid => cases found
  | comment indent text indentBlank textLine => cases found
  | constant declaration primitive => exact declared declaration found
  | field declaration => exact declared declaration found

theorem search_line_none (absent : line.found? = none) (more : List MsgLine) :
    msgFieldTypeRegex.search false ('\n' :: (line.text ++ lineTexts more)) =
      msgFieldTypeRegex.search false (lineTexts more) := by
  cases line with
  | blank blanks valid => exact search_blank valid more
  | comment indent text indentBlank textLine =>
    refine search_passes ?_ ?_
    · rw [MsgLine.text, List.mem_append, not_or]
      refine ⟨not_newline_of_isBlank indentBlank, fun member => ?_⟩
      rcases List.mem_cons.mp member with impossible | member
      · exact absurd impossible (by decide)
      · exact textLine member
    · rw [MsgLine.text, List.append_assoc]
      exact matchHere_comment indentBlank _
  | constant declaration primitive => exact declaration.search_bounded absent _
  | field declaration => exact declaration.search_bounded absent _

/-- The matches in a text are those of its lines. A search goes on inside a line, behind the
name of a declaration. -/
theorem searchAll_lines {fuel : Nat} {inside : Text} (enough : lines.length ≤ fuel)
    (line : '\n' ∉ inside) :
    msgFieldTypeRegex.searchAll fuel false (inside ++ lineTexts lines) =
      lines.filterMap MsgLine.found? := by
  rw [Pattern.searchAll_congr (search_inside line (lineTexts lines))]
  induction lines generalizing fuel inside with
  | nil => exact Pattern.searchAll_none rfl fuel
  | cons first more ih =>
    rw [lineTexts_cons]
    cases result : first.found? with
    | none =>
      rw [Pattern.searchAll_congr (search_line_none result more),
        List.filterMap_cons_none result]
      exact ih (Nat.le_of_succ_le enough) line
    | some type =>
      obtain ⟨remaining, remainingLine, search⟩ := search_line_found result
      cases fuel with
      | zero => exact absurd enough (Nat.not_succ_le_zero _)
      | succ fuel =>
        rw [Pattern.searchAll_some (search (lineTexts more)),
          List.filterMap_cons_some result,
          Pattern.searchAll_congr (search_inside remainingLine (lineTexts more)),
          ih (Nat.le_of_succ_le_succ enough) remainingLine]

theorem newline_msgText (first : MsgLine) (more : List MsgLine) :
    '\n' :: msgText (first :: more) = lineTexts (first :: more) := by
  induction more generalizing first with
  | nil =>
    rw [msgText, List.map_singleton, joinLines_single, lineTexts_cons]
    simp [lineTexts]
  | cons second more ih =>
    rw [msgText, List.map_cons, joinLines_cons _ (by simp), lineTexts_cons,
      ← ih second]
    rfl

theorem length_le_lineTexts : lines.length ≤ (lineTexts lines).length := by
  induction lines with
  | nil => exact Nat.le_refl 0
  | cons first more ih =>
    rw [lineTexts_cons, List.length_cons, List.length_cons, List.length_append]
    omega

/-- The types found in a message text are those of the constants and fields without a bound. -/
theorem searchMsgFieldTypes_msgText :
    searchMsgFieldTypes (msgText lines) = lines.filterMap MsgLine.found? := by
  cases lines with
  | nil => rfl
  | cons first more =>
    have start : msgFieldTypeRegex.search true (msgText (first :: more)) =
        msgFieldTypeRegex.search false (lineTexts (first :: more)) := by
      rw [← newline_msgText]
      exact Pattern.search_lineStart_start rfl rfl _
    have enough : (first :: more).length ≤ (msgText (first :: more)).length + 1 := by
      have count := length_le_lineTexts (first :: more)
      rw [← newline_msgText] at count
      exact count
    rw [searchMsgFieldTypes, Pattern.groups, Pattern.searchAll_congr start]
    exact searchAll_lines (first :: more) enough (List.not_mem_nil : '\n' ∉ ([] : Text))

/-! ### Dependencies -/

/-- The table has every primitive type but one. -/
theorem inserted_primitive (type : PrimitiveType) :
    inserted? packageContext type.text =
      if type = .wstring then some (packageContext ++ "/wstring".toList) else none := by
  cases type <;> rfl

theorem exists_of_mem_primitiveTypes : ∀ text ∈ primitiveTypes,
    '/' ∉ text ∧ ∃ type : PrimitiveType, text = type.text := by
  have texts : primitiveTypes = ([.bool, .byte, .char, .float32, .float64, .int8, .uint8, .int16,
      .uint16, .int32, .uint32, .int64, .uint64, .string] : List PrimitiveType).map
        PrimitiveType.text := rfl
  intro text member
  rw [texts] at member
  obtain ⟨type, _, rfl⟩ := List.mem_map.mp member
  exact ⟨by cases type <;> decide, type, rfl⟩

/-- What is inserted for a type is what a field of it depends on, but for `wstring`. -/
theorem MsgType.found_inserted :
    type.found?.bind (inserted? packageContext) =
      if type.isWstring then some (packageContext ++ "/wstring".toList)
      else type.dependency? packageContext := by
  cases type with
  | primitive type =>
    refine (inserted_primitive packageContext type).trans ?_
    cases type <;> rfl
  | boundedString bound digits => rfl
  | boundedWstring bound digits => rfl
  | bare typeName valid other =>
    have notPrimitive : typeName ∉ primitiveTypes := by
      intro member
      obtain ⟨_, type, same⟩ := exists_of_mem_primitiveTypes typeName member
      exact other type same
    change inserted? packageContext typeName = some _
    rw [inserted?, if_neg notPrimitive, if_neg (not_slash_of_isName valid)]
  | qualified package typeName packageValid typeValid =>
    have slash : '/' ∈ package ++ '/' :: typeName :=
      List.mem_append_right package List.mem_cons_self
    have notPrimitive : package ++ '/' :: typeName ∉ primitiveTypes :=
      fun member => (exists_of_mem_primitiveTypes _ member).1 slash
    change inserted? packageContext (package ++ '/' :: typeName) = some _
    rw [inserted?, if_neg notPrimitive, if_pos slash]

theorem MsgType.dependency_primitive (primitive : type.isPrimitive) (packageContext : Text) :
    type.dependency? packageContext = none := by
  cases type with
  | primitive type => rfl
  | boundedString bound digits => rfl
  | boundedWstring bound digits => rfl
  | bare typeName valid other => cases primitive
  | qualified package typeName packageValid typeValid => cases primitive

theorem MsgType.isPrimitive_of_isWstring (wstring : type.isWstring) :
    type.isPrimitive := by
  cases type with
  | primitive type => rfl
  | boundedString bound digits => rfl
  | boundedWstring bound digits => rfl
  | bare typeName valid other => cases wstring
  | qualified package typeName packageValid typeValid => cases wstring

theorem MsgLine.found_inserted (line : MsgLine) :
    line.found?.bind (inserted? packageContext) =
      if line.isWstring then some (packageContext ++ "/wstring".toList)
      else line.dependency? packageContext := by
  cases line with
  | blank blanks valid => rfl
  | comment indent text indentBlank textLine => rfl
  | field declaration => exact declaration.type.found_inserted packageContext
  | constant declaration primitive =>
    have independent := declaration.type.dependency_primitive primitive packageContext
    refine (declaration.type.found_inserted packageContext).trans ?_
    rw [independent]
    rfl

/-- A field of the type `wstring` depends on nothing. -/
theorem MsgLine.dependency_wstring (wstring : line.isWstring) (packageContext : Text) :
    line.dependency? packageContext = none := by
  cases line with
  | blank blanks valid => rfl
  | comment indent text indentBlank textLine => rfl
  | constant declaration primitive => rfl
  | field declaration =>
    exact declaration.type.dependency_primitive
      (declaration.type.isPrimitive_of_isWstring wstring) packageContext

section Dependencies

variable {environment : DefinitionEnvironment} {lines : List MsgLine}
  {packageContext dependency : Text}

/-- The dependencies that are found are those of the fields, and one more where there is a
`wstring`. -/
theorem mem_parseMsgDependencies_msgText
    (search : environment.msgFieldTypes = searchMsgFieldTypes) :
    dependency ∈ parseMsgDependencies environment (msgText lines) packageContext ↔
      dependency ∈ fieldDependencies packageContext lines ∨
        (∃ line ∈ lines, line.isWstring) ∧ dependency = packageContext ++ "/wstring".toList := by
  rw [mem_parseMsgDependencies, search, searchMsgFieldTypes_msgText]
  constructor
  · rintro ⟨type, member, insertedType⟩
    obtain ⟨line, present, found⟩ := List.mem_filterMap.mp member
    have result := line.found_inserted packageContext
    rw [found, Option.bind_some, insertedType] at result
    cases wstring : line.isWstring with
    | true =>
      rw [wstring, if_pos rfl] at result
      exact .inr ⟨⟨line, present, wstring⟩, Option.some_inj.mp result⟩
    | false =>
      rw [wstring, if_neg Bool.false_ne_true] at result
      exact .inl (List.mem_filterMap.mpr ⟨line, present, result.symm⟩)
  · have inserts : ∀ line ∈ lines, line.found?.bind (inserted? packageContext) = some dependency →
        ∃ type ∈ lines.filterMap MsgLine.found?,
          inserted? packageContext type = some dependency := by
      intro line present result
      obtain ⟨type, found, insertedType⟩ := Option.bind_eq_some_iff.mp result
      exact ⟨type, List.mem_filterMap.mpr ⟨line, present, found⟩, insertedType⟩
    rintro (member | ⟨⟨line, present, wstring⟩, rfl⟩)
    · obtain ⟨line, present, depends⟩ := List.mem_filterMap.mp member
      have plain : ¬ line.isWstring := by
        intro wstring
        rw [line.dependency_wstring wstring] at depends
        cases depends
      refine inserts line present ?_
      rw [line.found_inserted, if_neg plain, depends]
    · refine inserts line present ?_
      rw [line.found_inserted, if_pos wstring]

end Dependencies

/-- The dependencies are those of the fields exactly when there is no `wstring`, or when
another field depends on a message of that name in the package. -/
theorem message_dependencies_iff (environment : DefinitionEnvironment) (lines : List MsgLine)
    (packageContext : Text) :
    (∀ dependency, dependency ∈ parseMsgDependencies
        { environment with msgFieldTypes := searchMsgFieldTypes } (msgText lines) packageContext ↔
        dependency ∈ fieldDependencies packageContext lines) ↔
      ((∃ line ∈ lines, line.isWstring) →
        packageContext ++ "/wstring".toList ∈ fieldDependencies packageContext lines) := by
  constructor
  · intro same wstring
    refine (same _).mp ?_
    exact (mem_parseMsgDependencies_msgText rfl).mpr (.inr ⟨wstring, rfl⟩)
  · intro named dependency
    rw [mem_parseMsgDependencies_msgText rfl]
    constructor
    · rintro (member | ⟨wstring, rfl⟩)
      · exact member
      · exact named wstring
    · exact .inl

/-- A message with a single field `wstring name`. -/
def wstringField : MsgLine :=
  .field {
    indent := []
    type := .primitive .wstring
    suffix := none
    gap := " ".toList
    name := "name".toList
    rest := []
    indentBlank := rfl
    suffixClosed := fun _ impossible => by cases impossible
    gapInhabited := by decide
    gapBlank := by decide
    nameValid := by decide
    restLine := List.not_mem_nil }

/-- An environment without packages. -/
def emptyEnvironment : DefinitionEnvironment where
  getPackageShareDirectory _ := none
  getResource _ := none
  readFile _ := none
  msgFieldTypes := searchMsgFieldTypes
  idlFieldTypes _ := []

/-- A `wstring` field is taken for a message type of the package. -/
theorem wstring_field_depends :
    msgText [wstringField] = "wstring name".toList ∧
      parseMsgDependencies emptyEnvironment "wstring name".toList "demo".toList =
        ["demo/wstring".toList] ∧
      fieldDependencies "demo".toList [wstringField] = [] := by
  refine ⟨rfl, ?_, rfl⟩
  decide

end CoBridge.Ros2
