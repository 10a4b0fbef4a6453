import CoBridge.Ros2.DefinitionLoops

/-!
# Definitions split at their separators

Both splitters are described by what they do to lines. `split_action_msg_definition` searches
for a separator together with the newlines around it, so a separator counts only with a line
before it, in its own part, and a line after it: a part without lines is never found.
`split_service_definition` takes the lines apart first and has no such restriction.
-/

namespace CoBridge.Ros2

open Library

/-- The line between the parts. -/
def separator : Text := "---".toList

/-- The lines joined by newlines. -/
def joinLines (lines : List Text) : Text := ['\n'].intercalate lines

/-- A text that is a line, and not the separator. -/
def IsPlainLine (line : Text) : Prop := line ≠ separator ∧ '\n' ∉ line

theorem joinLines_single (line : Text) : joinLines [line] = line := List.intercalate_singleton

theorem joinLines_cons (line : Text) {rest : List Text} (inhabited : rest ≠ []) :
    joinLines (line :: rest) = line ++ '\n' :: joinLines rest := by
  rw [joinLines, List.intercalate_cons_of_ne_nil inhabited, List.append_assoc]
  rfl

/-- The first newline splits a text in one way. -/
theorem eq_of_append_newline {left right leftRest rightRest : Text} (leftLine : '\n' ∉ left)
    (rightLine : '\n' ∉ right) (same : left ++ '\n' :: leftRest = right ++ '\n' :: rightRest) :
    left = right := by
  induction left generalizing right with
  | nil =>
    cases right with
    | nil => rfl
    | cons character right =>
      cases same
      exact absurd List.mem_cons_self rightLine
  | cons character left ih =>
    cases right with
    | nil =>
      cases same
      exact absurd List.mem_cons_self leftLine
    | cons other right =>
      obtain ⟨rfl, later⟩ := List.cons.inj same
      rw [ih (fun member => leftLine (List.mem_cons_of_mem _ member))
        (fun member => rightLine (List.mem_cons_of_mem _ member)) later]

section Splitting

variable {delimiter text part : Text} {parts : List Text}

/-- A character at which the delimiter does not start belongs to the first part. -/
theorem splitString_cons {character : Char} (absent : ¬ delimiter <+: character :: text)
    (split : splitString text delimiter = part :: parts) :
    splitString (character :: text) delimiter = (character :: part) :: parts := by
  obtain ⟨rfl, rfl⟩ := List.cons.inj split
  have notHere : ¬ delimiter.isPrefixOf (character :: text) :=
    fun here => absent (List.isPrefixOf_iff_prefix.mp here)
  rw [splitString, splitLoop, if_neg notHere]

/-- A line before a delimiter that starts with a newline belongs to the first part. -/
theorem splitString_line {tail line : Text} (clean : '\n' ∉ line)
    (split : splitString text ('\n' :: tail) = part :: parts) :
    splitString (line ++ text) ('\n' :: tail) = (line ++ part) :: parts := by
  induction line with
  | nil => exact split
  | cons character line ih =>
    obtain ⟨different, others⟩ := not_or.mp (mt List.mem_cons.mpr clean)
    refine splitString_cons (fun starts => ?_) (ih others)
    exact different (List.cons_prefix_cons.mp starts).1

theorem splitString_delimiter {head : Char} {tail : Text} :
    splitString ((head :: tail) ++ text) (head :: tail) =
      [] :: splitString text (head :: tail) := by
  have here : (head :: tail).isPrefixOf (head :: (tail ++ text)) :=
    List.isPrefixOf_iff_prefix.mpr ⟨text, rfl⟩
  rw [List.cons_append, splitString, splitLoop, if_pos here, splitLoop_passing, splitString]
  simp

end Splitting

/-! ### Actions -/

/-- A separator with its newlines. -/
def actionDelimiter : Text := '\n' :: (separator ++ ['\n'])

theorem separator_line : '\n' ∉ separator := by decide

variable {line first : Text} {lines : List Text}

/-- A separator that lines follow is found in front of them and nowhere else. -/
theorem delimiter_starts_iff (clean : '\n' ∉ line) {rest : List Text} (inhabited : rest ≠ []) :
    actionDelimiter <+: '\n' :: joinLines (line :: rest) ↔ line = separator := by
  rw [actionDelimiter, List.cons_prefix_cons, joinLines_cons line inhabited]
  constructor
  · rintro ⟨_, later, same⟩
    exact (eq_of_append_newline separator_line clean same).symm
  · rintro rfl
    exact ⟨rfl, joinLines rest, by rw [List.append_assoc]; rfl⟩

theorem delimiter_not_last (clean : '\n' ∉ line) :
    ¬ actionDelimiter <+: '\n' :: joinLines [line] := by
  rw [actionDelimiter, List.cons_prefix_cons, joinLines_single]
  rintro ⟨_, later, rfl⟩
  exact clean (by simp)

/-- The lines up to the first separator that counts are a part. -/
theorem splitString_part {part : List Text} (clean : ∀ line ∈ first :: part, '\n' ∉ line)
    (plain : ∀ line ∈ part, line ≠ separator) (next : Text) (more : List Text) :
    splitString (joinLines (first :: part ++ separator :: next :: more)) actionDelimiter =
      joinLines (first :: part) :: splitString (joinLines (next :: more)) actionDelimiter := by
  induction part generalizing first with
  | nil =>
    obtain ⟨firstClean, _⟩ := List.forall_mem_cons.mp clean
    have whole : joinLines ([first] ++ separator :: next :: more) =
        first ++ (actionDelimiter ++ joinLines (next :: more)) := by
      rw [List.singleton_append, joinLines_cons _ (List.cons_ne_nil _ _),
        joinLines_cons _ (List.cons_ne_nil _ _), actionDelimiter]
      simp
    have split : splitString (first ++ (actionDelimiter ++ joinLines (next :: more)))
        actionDelimiter = (first ++ []) :: splitString (joinLines (next :: more)) actionDelimiter :=
      splitString_line firstClean splitString_delimiter
    rw [whole, split, List.append_nil, joinLines_single]
  | cons second part ih =>
    obtain ⟨firstClean, restClean⟩ := List.forall_mem_cons.mp clean
    obtain ⟨secondPlain, restPlain⟩ := List.forall_mem_cons.mp plain
    have absent : ¬ actionDelimiter <+:
        '\n' :: joinLines (second :: part ++ separator :: next :: more) := by
      rw [List.cons_append, delimiter_starts_iff (restClean second List.mem_cons_self) (by simp)]
      exact secondPlain
    exact splitString_line firstClean
      (splitString_cons absent (ih restClean restPlain))

/-- Lines among which no separator counts are one part. -/
theorem splitString_whole {rest : List Text} (clean : ∀ line ∈ first :: rest, '\n' ∉ line)
    (plain : ∀ line ∈ rest.dropLast, line ≠ separator) :
    splitString (joinLines (first :: rest)) actionDelimiter = [joinLines (first :: rest)] := by
  induction rest generalizing first with
  | nil =>
    have split : splitString (first ++ []) actionDelimiter = [first ++ []] :=
      splitString_line (clean first List.mem_cons_self) rfl
    rwa [List.append_nil, ← joinLines_single first] at split
  | cons second rest ih =>
    obtain ⟨firstClean, restClean⟩ := List.forall_mem_cons.mp clean
    have absent : ¬ actionDelimiter <+: '\n' :: joinLines (second :: rest) := by
      cases rest with
      | nil => exact delimiter_not_last (restClean second List.mem_cons_self)
      | cons third rest =>
        rw [delimiter_starts_iff (restClean second List.mem_cons_self) (List.cons_ne_nil _ _)]
        exact plain second List.mem_cons_self
    have later : ∀ line ∈ rest.dropLast, line ≠ separator := by
      cases rest with
      | nil => exact fun _ member => absurd member List.not_mem_nil
      | cons third rest => exact fun line member => plain line (List.mem_cons_of_mem _ member)
    exact splitString_line firstClean
      (splitString_cons absent (ih restClean later))

section Action

variable {goal result feedback : List Text}

theorem clean_cons {first : Text} {rest : List Text} (firstClean : '\n' ∉ first)
    (plain : ∀ line ∈ rest, IsPlainLine line) : ∀ line ∈ first :: rest, '\n' ∉ line :=
  List.forall_mem_cons.mpr ⟨firstClean, fun line member => (plain line member).2⟩

/-- Plain lines after the first are one part, also with a separator in the last place. -/
theorem splitString_plain {first : Text} {rest last : List Text} (firstClean : '\n' ∉ first)
    (plain : ∀ line ∈ rest, IsPlainLine line) (lastLine : last = [] ∨ last = [separator]) :
    (splitString (joinLines (first :: (rest ++ last))) actionDelimiter) =
      [joinLines (first :: (rest ++ last))] := by
  rcases lastLine with rfl | rfl
  · rw [List.append_nil]
    exact splitString_whole (clean_cons firstClean plain)
      fun line member => (plain line (List.dropLast_subset rest member)).1
  · refine splitString_whole (List.forall_mem_cons.mpr ⟨firstClean, fun line member => ?_⟩) ?_
    · rcases List.mem_append.mp member with inner | final
      · exact (plain line inner).2
      · rw [List.mem_singleton.mp final]
        exact separator_line
    · rw [List.dropLast_concat]
      exact fun line member => (plain line member).1

/-- With lines in every part all three are found. -/
theorem splitString_three {goalFirst resultFirst feedbackFirst : Text}
    (goalPlain : ∀ line ∈ goalFirst :: goal, IsPlainLine line)
    (resultPlain : ∀ line ∈ resultFirst :: result, IsPlainLine line)
    (feedbackPlain : ∀ line ∈ feedbackFirst :: feedback, IsPlainLine line) :
    splitString (joinLines (goalFirst :: goal ++ separator :: (resultFirst :: result) ++
        separator :: (feedbackFirst :: feedback))) actionDelimiter =
      [joinLines (goalFirst :: goal), joinLines (resultFirst :: result),
        joinLines (feedbackFirst :: feedback)] := by
  obtain ⟨goalFirstPlain, goalRest⟩ := List.forall_mem_cons.mp goalPlain
  obtain ⟨resultFirstPlain, resultRest⟩ := List.forall_mem_cons.mp resultPlain
  obtain ⟨feedbackFirstPlain, feedbackRest⟩ := List.forall_mem_cons.mp feedbackPlain
  have final := splitString_plain feedbackFirstPlain.2 feedbackRest (.inl rfl)
  rw [List.append_nil] at final
  have first := splitString_part (clean_cons goalFirstPlain.2 goalRest)
    (fun line member => (goalRest line member).1) resultFirst
    (result ++ separator :: feedbackFirst :: feedback)
  have second := splitString_part (clean_cons resultFirstPlain.2 resultRest)
    (fun line member => (resultRest line member).1) feedbackFirst feedback
  rw [List.append_assoc]
  exact first.trans (congrArg _ (second.trans (congrArg _ final)))

/-- Two parts at most are found when one of the three has no lines. -/
theorem splitString_fewer (goalPlain : ∀ line ∈ goal, IsPlainLine line)
    (resultPlain : ∀ line ∈ result, IsPlainLine line)
    (feedbackPlain : ∀ line ∈ feedback, IsPlainLine line)
    (missing : goal = [] ∨ result = [] ∨ feedback = []) :
    (splitString (joinLines (goal ++ separator :: result ++ separator :: feedback))
      actionDelimiter).length ≤ 2 := by
  cases goal with
  | nil =>
    -- the separator in the first line is taken for a line of the first part
    cases feedback with
    | nil =>
      have whole := splitString_plain separator_line resultPlain (.inr rfl)
      rw [List.nil_append, List.cons_append, whole]
      exact Nat.le_succ 1
    | cons feedbackFirst feedback =>
      obtain ⟨firstPlain, restPlain⟩ := List.forall_mem_cons.mp feedbackPlain
      have final := splitString_plain firstPlain.2 restPlain (.inl rfl)
      rw [List.append_nil] at final
      rw [List.nil_append, splitString_part (clean_cons separator_line resultPlain)
        fun line member => (resultPlain line member).1, final]
      exact Nat.le_refl 2
  | cons goalFirst goal =>
    obtain ⟨goalFirstPlain, goalRest⟩ := List.forall_mem_cons.mp goalPlain
    cases result with
    | nil =>
      -- the second separator follows the first one and starts a part
      have final := splitString_plain separator_line feedbackPlain (.inl rfl)
      rw [List.append_nil] at final
      have split := splitString_part (clean_cons goalFirstPlain.2 goalRest)
        (fun line member => (goalRest line member).1) separator feedback
      rw [final] at split
      rw [List.append_assoc]
      exact Nat.le_of_eq (congrArg List.length split)
    | cons resultFirst result =>
      obtain ⟨resultFirstPlain, resultRest⟩ := List.forall_mem_cons.mp resultPlain
      obtain rfl : feedback = [] := by simpa using missing
      have final := splitString_plain resultFirstPlain.2 resultRest (.inr rfl)
      have split := splitString_part (clean_cons goalFirstPlain.2 goalRest)
        (fun line member => (goalRest line member).1) resultFirst (result ++ [separator])
      rw [final] at split
      rw [List.append_assoc]
      exact Nat.le_of_eq (congrArg List.length split)

end Action

/-- Three parts are what `split_action_msg_definition` accepts. -/
theorem splitActionMsgDefinition_eq (definition : Text) :
    splitActionMsgDefinition definition =
      match splitString definition actionDelimiter with
      | [goalDef, resultDef, feedbackDef] => .ok (goalDef, resultDef, feedbackDef)
      | _ => .error (.invalidArgument ("Invalid action definition:\n".toList ++ definition)) := rfl

theorem splitActionMsgDefinition_fewer {definition : Text}
    (fewer : (splitString definition actionDelimiter).length ≤ 2) :
    splitActionMsgDefinition definition =
      .error (.invalidArgument ("Invalid action definition:\n".toList ++ definition)) := by
  rw [splitActionMsgDefinition_eq]
  split
  next parts =>
    rw [parts] at fewer
    exact absurd fewer (by simp)
  next other => rfl

/-- An action comes apart into its goal, result and feedback exactly when each of them has a
line. -/
theorem action_parts_iff (goal result feedback : List Text)
    (plain : ∀ line ∈ goal ++ result ++ feedback, IsPlainLine line) :
    splitActionMsgDefinition
        (joinLines (goal ++ separator :: result ++ separator :: feedback)) =
      .ok (joinLines goal, joinLines result, joinLines feedback) ↔
    goal ≠ [] ∧ result ≠ [] ∧ feedback ≠ [] := by
  obtain ⟨both, feedbackPlain⟩ := List.forall_mem_append.mp plain
  obtain ⟨goalPlain, resultPlain⟩ := List.forall_mem_append.mp both
  by_cases missing : goal = [] ∨ result = [] ∨ feedback = []
  · have fewer := splitString_fewer goalPlain resultPlain feedbackPlain missing
    rw [splitActionMsgDefinition_fewer fewer]
    refine iff_of_false (by rintro ⟨⟩) ?_
    rintro ⟨goalLines, resultLines, feedbackLines⟩
    rcases missing with rfl | rfl | rfl
    · exact goalLines rfl
    · exact resultLines rfl
    · exact feedbackLines rfl
  · obtain ⟨goalLines, others⟩ := not_or.mp missing
    obtain ⟨resultLines, feedbackLines⟩ := not_or.mp others
    refine iff_of_true ?_ ⟨goalLines, resultLines, feedbackLines⟩
    obtain ⟨goalFirst, goal, rfl⟩ := List.exists_cons_of_ne_nil goalLines
    obtain ⟨resultFirst, result, rfl⟩ := List.exists_cons_of_ne_nil resultLines
    obtain ⟨feedbackFirst, feedback, rfl⟩ := List.exists_cons_of_ne_nil feedbackLines
    rw [splitActionMsgDefinition_eq, splitString_three goalPlain resultPlain feedbackPlain]

/-- A goal of one line, an empty line as result and two lines of feedback. -/
theorem action_parts_sample :
    splitActionMsgDefinition "int32 order\n---\n\n---\nint32 done\nint32 left".toList =
      .ok ("int32 order".toList, [], "int32 done\nint32 left".toList) := by
  refine (action_parts_iff ["int32 order".toList] [[]]
    ["int32 done".toList, "int32 left".toList] ?_).mpr (by simp)
  unfold IsPlainLine
  decide

/-- The definition of an action without a goal is refused. -/
theorem action_without_goal_refused :
    joinLines ([] ++ separator :: ["int32 done".toList] ++ separator :: ["int32 left".toList]) =
        "---\nint32 done\n---\nint32 left".toList ∧
      splitActionMsgDefinition "---\nint32 done\n---\nint32 left".toList =
        .error (.invalidArgument
          "Invalid action definition:\n---\nint32 done\n---\nint32 left".toList) :=
  ⟨by decide, by decide⟩

/-! ### Services -/

inductive LineEnding where
  | lf
  | crlf
  | cr

def LineEnding.text : LineEnding → Text
  | .lf => ['\n']
  | .crlf => ['\r', '\n']
  | .cr => ['\r']

/-- A line of any ending that is not the separator. -/
def IsServiceLine (line : Text) : Prop := line ≠ separator ∧ '\n' ∉ line ∧ '\r' ∉ line

/-- Each line followed by a newline. -/
def endLines (lines : List Text) : Text := lines.flatMap (· ++ "\n".toList)

theorem replaceReturnNewline_append {copied : Text} (clean : '\r' ∉ copied) (rest : Text) :
    replaceReturnNewline (copied ++ rest) = copied ++ replaceReturnNewline rest := by
  induction copied with
  | nil => rfl
  | cons character copied ih =>
    obtain ⟨different, others⟩ := not_or.mp (mt List.mem_cons.mpr clean)
    rw [List.cons_append, replaceReturnNewline, ih others, List.cons_append]
    rintro later rfl
    exact absurd rfl different

/-- A line is copied. -/
theorem normalizeEndings_line (clean : '\r' ∉ line) (rest : Text) :
    normalizeEndings (line ++ rest) = line ++ normalizeEndings rest := by
  rw [normalizeEndings, replaceReturnNewline_append clean, List.map_append, normalizeEndings]
  have copied :
      line.map (fun character => if character = '\r' then '\n' else character) = line := by
    refine (List.map_congr_left fun character member => ?_).trans (List.map_id line)
    refine if_neg fun same => ?_
    rw [same] at member
    exact clean member
  rw [copied]

/-- An ending becomes a newline, unless it is a return that a newline follows. -/
theorem normalizeEndings_ending (ending : LineEnding) {rest : Text}
    (alone : ending = .cr → '\n' ∉ rest) :
    normalizeEndings (ending.text ++ rest) = '\n' :: normalizeEndings rest := by
  cases ending with
  | lf => rw [LineEnding.text, normalizeEndings_line (by decide), List.singleton_append]
  | crlf => rfl
  | cr =>
    have single : replaceReturnNewline ('\r' :: rest) = '\r' :: replaceReturnNewline rest := by
      refine replaceReturnNewline.eq_2 '\r' rest ?_
      rintro later _ rfl
      exact alone rfl List.mem_cons_self
    rw [LineEnding.text, List.singleton_append, normalizeEndings, single, List.map_cons,
      if_pos rfl, normalizeEndings]

theorem newline_not_mem_returns (clean : ∀ line ∈ lines, '\n' ∉ line) :
    '\n' ∉ LineEnding.cr.text.intercalate lines := by
  induction lines with
  | nil => exact List.not_mem_nil
  | cons line rest ih =>
    obtain ⟨lineClean, restClean⟩ := List.forall_mem_cons.mp clean
    cases rest with
    | nil => rwa [List.intercalate_singleton]
    | cons next rest =>
      rw [List.intercalate_cons_cons, List.mem_append, List.mem_append]
      rintro ((member | member) | member)
      · exact lineClean member
      · exact absurd member (by decide)
      · exact ih restClean member

/-- Lines with any of the endings are the lines with newlines. -/
theorem normalizeEndings_lines (ending : LineEnding) {lines : List Text}
    (newlineFree : ∀ line ∈ lines, '\n' ∉ line) (returnFree : ∀ line ∈ lines, '\r' ∉ line) :
    normalizeEndings (ending.text.intercalate lines) = joinLines lines := by
  induction lines with
  | nil => rfl
  | cons line rest ih =>
    obtain ⟨_, restNewlines⟩ := List.forall_mem_cons.mp newlineFree
    obtain ⟨lineReturns, restReturns⟩ := List.forall_mem_cons.mp returnFree
    cases rest with
    | nil =>
      have copied := normalizeEndings_line lineReturns []
      rw [List.append_nil] at copied
      rw [List.intercalate_singleton, joinLines_single, copied]
      exact List.append_nil line
    | cons next rest =>
      have alone : ending = .cr → '\n' ∉ ending.text.intercalate (next :: rest) := by
        rintro rfl
        exact newline_not_mem_returns restNewlines
      rw [List.intercalate_cons_cons, List.append_assoc, normalizeEndings_line lineReturns,
        normalizeEndings_ending ending alone, ih restNewlines restReturns,
        joinLines_cons line (List.cons_ne_nil _ _)]

/-- Lines that were joined by newlines are split again. -/
theorem splitString_lines {rest : List Text} (clean : ∀ line ∈ first :: rest, '\n' ∉ line) :
    splitString (joinLines (first :: rest)) "\n".toList = first :: rest := by
  induction rest generalizing first with
  | nil =>
    have split : splitString (first ++ []) "\n".toList = [first ++ []] :=
      splitString_line (clean first List.mem_cons_self) rfl
    rwa [joinLines_single, ← List.append_nil first]
  | cons second rest ih =>
    obtain ⟨firstClean, restClean⟩ := List.forall_mem_cons.mp clean
    have later : splitString ('\n' :: joinLines (second :: rest)) "\n".toList =
        [] :: second :: rest :=
      splitString_delimiter.trans (congrArg _ (ih restClean))
    have split := splitString_line firstClean later
    rwa [List.append_nil] at split

theorem collectLines_request (plain : ∀ line ∈ lines, line ≠ separator) (later : List Text)
    (request response : Text) :
    collectLines true (lines ++ later) (request, response) =
      collectLines true later (request ++ endLines lines, response) := by
  induction lines generalizing request with
  | nil => rw [endLines, List.flatMap_nil, List.append_nil, List.nil_append]
  | cons line rest ih =>
    obtain ⟨linePlain, restPlain⟩ := List.forall_mem_cons.mp plain
    have different : line ≠ "---".toList := linePlain
    rw [List.cons_append, collectLines, if_neg different, if_pos rfl,
      ih restPlain, endLines, endLines, List.flatMap_cons]
    simp

theorem collectLines_response (plain : ∀ line ∈ lines, line ≠ separator) (request response : Text) :
    collectLines false lines (request, response) = (request, response ++ endLines lines) := by
  induction lines generalizing response with
  | nil => rw [endLines, List.flatMap_nil, List.append_nil, collectLines]
  | cons line rest ih =>
    obtain ⟨linePlain, restPlain⟩ := List.forall_mem_cons.mp plain
    have different : line ≠ "---".toList := linePlain
    rw [collectLines, if_neg different, if_neg (by decide), ih restPlain,
      endLines, endLines, List.flatMap_cons]
    simp

/-- Where there is a separator the lines are accepted. -/
theorem serviceParts_eq {request response : List Text} (definition : Text)
    (requestPlain : ∀ line ∈ request, line ≠ separator)
    (responsePlain : ∀ line ∈ response, line ≠ separator) :
    serviceParts definition (request ++ separator :: response) =
      .ok (endLines request, endLines response) := by
  have collected : collectLines true (request ++ separator :: response) ([], []) =
      (endLines request, endLines response) := by
    rw [collectLines_request requestPlain, collectLines]
    exact collectLines_response responsePlain _ _
  cases request with
  | nil =>
    cases response with
    | nil => rfl
    | cons first rest => exact congrArg Except.ok collected
  | cons first rest =>
    cases rest with
    | nil => exact congrArg Except.ok collected
    | cons second rest => exact congrArg Except.ok collected

/-- The loops end, and the lines before the separator are the request, those after it the
response, whichever ending the lines have. -/
theorem service_parts (request response : List Text) (ending : LineEnding)
    (plain : ∀ line ∈ request ++ response, IsServiceLine line) :
    ∃ enough, ∀ fuel, enough ≤ fuel →
      splitServiceDefinitionRun fuel
          (ending.text.intercalate (request ++ separator :: response)) =
        some (.ok (endLines request, endLines response)) := by
  refine ⟨(ending.text.intercalate (request ++ separator :: response)).length + 1,
    fun fuel enough => ?_⟩
  obtain ⟨requestPlain, responsePlain⟩ := List.forall_mem_append.mp plain
  have newlineFree : ∀ line ∈ request ++ separator :: response, '\n' ∉ line :=
    List.forall_mem_append.mpr ⟨fun line member => (requestPlain line member).2.1,
      List.forall_mem_cons.mpr ⟨separator_line, fun line member => (responsePlain line member).2.1⟩⟩
  have returnFree : ∀ line ∈ request ++ separator :: response, '\r' ∉ line :=
    List.forall_mem_append.mpr ⟨fun line member => (requestPlain line member).2.2,
      List.forall_mem_cons.mpr ⟨by decide, fun line member => (responsePlain line member).2.2⟩⟩
  have lines : splitString (joinLines (request ++ separator :: response)) "\n".toList =
      request ++ separator :: response := by
    obtain ⟨first, rest, same⟩ := List.exists_cons_of_ne_nil
      (show request ++ separator :: response ≠ [] by simp)
    rw [same] at newlineFree ⊢
    exact splitString_lines newlineFree
  rw [splitServiceDefinitionRun_eq enough, splitServiceDefinition_eq,
    normalizeEndings_lines ending newlineFree returnFree, lines,
    serviceParts_eq _ (fun line member => (requestPlain line member).1)
      fun line member => (responsePlain line member).1]

/-- A service with an empty line in its request and nothing in its response. -/
theorem service_parts_sample :
    ∃ enough, ∀ fuel, enough ≤ fuel →
      splitServiceDefinitionRun fuel "bool on\r\n\r\n---".toList =
        some (.ok ("bool on\n\n".toList, [])) := by
  refine service_parts ["bool on".toList, []] [] .crlf ?_
  unfold IsServiceLine
  decide

end CoBridge.Ros2
