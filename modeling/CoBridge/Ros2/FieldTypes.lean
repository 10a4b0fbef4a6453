import CoBridge.Library.Backtracking
import CoBridge.Ros2.MessageDefinitions

/-!
# The field types of a message text

`MSG_FIELD_TYPE_REGEX`, as `std::regex` reads it: an ECMAScript expression without the
multiline flag, so that `^` is the start of the text alone, and whitespace runs across the ends
of lines. `std::sregex_iterator` searches on behind each match.

After the start of a line the expression is deterministic. What follows each of its repetitions
cannot start with a character the repetition takes, so a run of whitespace or of type characters
is taken as a whole.
-/

namespace CoBridge.Ros2

open Library

/-- The class `\s`: the blank and the control characters from tab to carriage return. -/
def isSpace (character : Char) : Bool :=
  character = ' ' || ('\t' ≤ character && character ≤ '\r')

/-- The class `[a-zA-Z0-9_/]`. -/
def isTypeCharacter (character : Char) : Bool := isNameCharacter character || character = '/'

/-- The expression `\[[^\]]*\]`. -/
def arraySuffix : Pattern Char :=
  .sequence (.symbol (· = '[')) (.sequence (.many (.symbol (· ≠ ']'))) (.symbol (· = ']')))

/-- The array suffix, if there is one, and the whitespace behind the type. -/
def afterType : Pattern Char :=
  .sequence (.optional arraySuffix) (.oneOrMore (.symbol isSpace))

def typeAndAfter : Pattern Char :=
  .sequence (.group (.oneOrMore (.symbol isTypeCharacter))) afterType

/-- The expression behind the start of the line. -/
def fieldType : Pattern Char := .sequence (.many (.symbol isSpace)) typeAndAfter

def msgFieldTypeRegex : Pattern Char := .lineStart (· = '\n') fieldType

/-- The first groups of the matches of `MSG_FIELD_TYPE_REGEX`. -/
def searchMsgFieldTypes (text : Text) : List Text := msgFieldTypeRegex.groups text

/-! ### What each part takes -/

/-- The slash is the first of the type characters. -/
theorem slash_le_of_isTypeCharacter {character : Char} (type : isTypeCharacter character) :
    '/' ≤ character := by
  simp only [isTypeCharacter, isNameCharacter, Bool.or_eq_true, Bool.and_eq_true,
    decide_eq_true_eq] at type
  rcases type with (((⟨lower, _⟩ | ⟨upper, _⟩) | ⟨digit, _⟩) | rfl) | rfl
  · exact le_trans (by decide) lower
  · exact le_trans (by decide) upper
  · exact le_trans (by decide) digit
  · decide
  · decide

theorem not_isSpace_of_isTypeCharacter {character : Char} (type : isTypeCharacter character) :
    ¬ isSpace character := by
  have above : ' ' < character :=
    lt_of_lt_of_le (by decide) (slash_le_of_isTypeCharacter type)
  simp only [isSpace, Bool.or_eq_true, Bool.and_eq_true, decide_eq_true_eq]
  rintro (rfl | ⟨_, below⟩)
  · exact lt_irrefl _ above
  · exact absurd (lt_of_lt_of_le above below) (by decide)

section Parts

variable {Result : Type} {next : Cursor Char → Option Result} {atStart : Bool}
  {rest captured : Text}

theorem typeAndAfter_refuses :
    Pattern.Refuses (fun cursor => typeAndAfter.run cursor next) isSpace :=
  fun _ _ _ _ space => if_neg fun type => not_isSpace_of_isTypeCharacter type space

theorem afterType_refuses :
    Pattern.Refuses (fun cursor => afterType.run cursor next) isTypeCharacter := by
  have suffix : Pattern.Refuses (fun cursor => arraySuffix.run cursor fun later =>
      (Pattern.oneOrMore (.symbol isSpace)).run later next) isTypeCharacter := by
    intro _ head _ _ type
    refine if_neg fun opens => ?_
    rw [of_decide_eq_true opens] at type
    exact absurd type (by decide)
  exact Pattern.Refuses.optional suffix
    fun _ _ _ _ type => if_neg (not_isSpace_of_isTypeCharacter type)

/-- Leading whitespace is passed, across lines. -/
theorem fieldType_run {spaces : Text} (all : spaces.all isSpace)
    (stops : Pattern.StopsAt isSpace rest) :
    fieldType.run ⟨atStart, spaces ++ rest, captured⟩ next =
      typeAndAfter.run ⟨atStart && spaces.isEmpty, rest, captured⟩ next :=
  Pattern.run_many all stops (.inl typeAndAfter_refuses)

/-- There is no type where no type character is. -/
theorem typeAndAfter_run_none (stops : Pattern.StopsAt isTypeCharacter rest) :
    typeAndAfter.run ⟨atStart, rest, captured⟩ next = none := by
  cases rest with
  | nil => rfl
  | cons head rest => exact if_neg (stops head rfl)

/-- The type is the longest run of type characters. -/
theorem typeAndAfter_run {type : Text} (inhabited : type ≠ []) (all : type.all isTypeCharacter)
    (stops : Pattern.StopsAt isTypeCharacter rest) :
    typeAndAfter.run ⟨atStart, type ++ rest, captured⟩ next =
      afterType.run ⟨false, rest, type⟩ next := by
  have refuses : Pattern.Refuses (fun later : Cursor Char => afterType.run ⟨later.atStart,
      later.rest, (type ++ rest).take ((type ++ rest).length - later.rest.length)⟩ next)
      isTypeCharacter :=
    fun atStart head rest _ => afterType_refuses atStart head rest _
  refine (Pattern.run_oneOrMore inhabited all stops (.inl refuses)).trans ?_
  rw [List.length_append, Nat.add_sub_cancel, List.take_left]

/-- An array suffix ends at the first closing bracket. -/
theorem arraySuffix_run {inside : Text} (closed : ']' ∉ inside) :
    arraySuffix.run ⟨atStart, '[' :: (inside ++ ']' :: rest), captured⟩ next =
      next ⟨false, rest, captured⟩ := by
  have all : inside.all (· ≠ ']') := by
    rw [List.all_eq_true]
    exact fun character member => decide_eq_true fun same => closed (same ▸ member)
  have stops : Pattern.StopsAt (fun character : Char => character ≠ ']') (']' :: rest) := by
    rintro _ ⟨⟩
    decide
  have refuses : Pattern.Refuses (fun cursor => (Pattern.symbol fun character : Char =>
      character = ']').run cursor next) fun character => character ≠ ']' :=
    Pattern.refuses_symbol fun head other => by simpa using other
  exact Pattern.run_many all stops (.inl refuses)

end Parts

section Lines

variable {atStart : Bool} {rest type captured gap : Text}

/-- Whitespace behind a type ends the match. -/
theorem spaces_run (inhabited : gap ≠ []) (all : gap.all isSpace)
    (stops : Pattern.StopsAt isSpace rest) :
    (Pattern.oneOrMore (.symbol isSpace)).run ⟨atStart, gap ++ rest, type⟩ Pattern.outcome =
      some (type, rest) :=
  Pattern.run_oneOrMore inhabited all stops (.inr fun _ => rfl)

theorem afterType_run (inhabited : gap ≠ []) (all : gap.all isSpace)
    (stops : Pattern.StopsAt isSpace rest) :
    afterType.run ⟨atStart, gap ++ rest, type⟩ Pattern.outcome = some (type, rest) := by
  have noSuffix : arraySuffix.run ⟨atStart, gap ++ rest, type⟩ (fun later =>
      (Pattern.oneOrMore (.symbol isSpace)).run later Pattern.outcome) = none := by
    cases gap with
    | nil => exact absurd rfl inhabited
    | cons head gap =>
      refine if_neg fun opens => ?_
      rw [of_decide_eq_true opens] at all
      cases all
  exact (congrArg (Option.or · _) noSuffix).trans (spaces_run inhabited all stops)

theorem afterType_run_suffix {inside : Text} (closed : ']' ∉ inside) (inhabited : gap ≠ [])
    (all : gap.all isSpace) (stops : Pattern.StopsAt isSpace rest) :
    afterType.run ⟨atStart, '[' :: (inside ++ ']' :: (gap ++ rest)), type⟩ Pattern.outcome =
      some (type, rest) := by
  have suffix : arraySuffix.run ⟨atStart, '[' :: (inside ++ ']' :: (gap ++ rest)), type⟩
      (fun later => (Pattern.oneOrMore (.symbol isSpace)).run later Pattern.outcome) =
      some (type, rest) := by
    rw [arraySuffix_run closed]
    exact spaces_run inhabited all stops
  exact congrArg (Option.or · _) suffix

/-- Whitespace in front makes no difference. -/
theorem matchHere_spaces {spaces : Text} (all : spaces.all isSpace) (text : Text) :
    fieldType.matchHere false (spaces ++ text) = fieldType.matchHere false text := by
  have split : text = text.takeWhile isSpace ++ text.dropWhile isSpace :=
    List.takeWhile_append_dropWhile.symm
  have own : (text.takeWhile isSpace).all isSpace := List.all_takeWhile
  have stops : Pattern.StopsAt isSpace (text.dropWhile isSpace) := by
    intro head first space
    have kept := List.head?_dropWhile_not isSpace text
    rw [first] at kept
    exact absurd space (by simpa using kept)
  have both : (spaces ++ text.takeWhile isSpace).all isSpace := by
    rw [List.all_append, all, own]
    rfl
  rw [Pattern.matchHere, Pattern.matchHere, split, ← List.append_assoc, fieldType_run both stops,
    fieldType_run own stops]
  rfl

end Lines

end CoBridge.Ros2
