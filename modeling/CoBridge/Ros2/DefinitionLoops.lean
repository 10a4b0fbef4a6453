import CoBridge.Library.Search
import CoBridge.Ros2.MessageDefinitions

/-!
# The loops that split definitions

`split_string` and the two replacements of `split_service_definition` as they run: each round
searches from a position in the whole text. With more fuel than the text has characters they
end, and they compute `splitString` and `splitServiceDefinition`.
-/

namespace CoBridge.Ros2

open Library

/-- The loop of `split_string`, from `prev` on. -/
def splitStringRun (text delimiter : Text) : (fuel prev : Nat) → Option (List Text)
  | 0, _ => none
  | fuel + 1, prev =>
    match findFrom delimiter text prev with
    | none => some [text.drop prev]
    | some pos =>
      (splitStringRun text delimiter fuel (pos + delimiter.length)).map
        ((text.drop prev).take (pos - prev) :: ·)

/-- What `split_service_definition` does with the lines. -/
def serviceParts (serviceDefinition : Text) : List Text → Except DefinitionFault (Text × Text)
  | [line] =>
    if line = "---".toList then .ok (collectLines true [line] ([], []))
    else .error (.invalidArgument ("Invalid service definition:\n".toList ++ serviceDefinition))
  | lines => .ok (collectLines true lines ([], []))

def splitServiceDefinitionRun (fuel : Nat) (serviceDefinition : Text) :
    Option (Except DefinitionFault (Text × Text)) := do
  let joined ← replaceLoop "\r\n".toList "\n".toList fuel serviceDefinition 0
  let normalized ← replaceLoop "\r".toList "\n".toList fuel joined 0
  let definitions ← splitStringRun normalized "\n".toList fuel 0
  return serviceParts serviceDefinition definitions

/-- The text with one kind of line ending. -/
def normalizeEndings (text : Text) : Text :=
  (replaceReturnNewline text).map fun character => if character = '\r' then '\n' else character

theorem splitServiceDefinition_eq (serviceDefinition : Text) :
    splitServiceDefinition serviceDefinition =
      serviceParts serviceDefinition
        (splitString (normalizeEndings serviceDefinition) "\n".toList) := rfl

theorem splitLoop_passing (delimiter : Text) (passing : Nat) (text : Text) :
    splitLoop delimiter passing text = splitLoop delimiter 0 (text.drop passing) := by
  induction text generalizing passing with
  | nil =>
    cases passing <;> rfl
  | cons character rest ih =>
    cases passing with
    | zero => rfl
    | succ passing =>
      rw [splitLoop, ih]
      rfl

theorem splitString_of_none {delimiter text : Text} (absent : findIn delimiter text = none) :
    splitString text delimiter = [text] := by
  have loop : splitLoop delimiter 0 text = (text, []) := by
    induction text with
    | nil => rfl
    | cons character rest ih =>
      rw [findIn] at absent
      split at absent
      next here => cases absent
      next notHere =>
        rw [splitLoop, if_neg notHere, ih (Option.map_eq_none_iff.mp absent)]
  rw [splitString, loop]

section Found

variable {head : Char} {tail before after : Text}

theorem splitString_of_some
    (occurs : findIn (head :: tail) (before ++ (head :: tail) ++ after) = some before.length) :
    splitString (before ++ (head :: tail) ++ after) (head :: tail) =
      before :: splitString after (head :: tail) := by
  have loop : splitLoop (head :: tail) 0 (before ++ (head :: tail) ++ after) =
      (before, splitString after (head :: tail)) := by
    induction before with
    | nil =>
      rw [List.nil_append, List.cons_append, findIn] at occurs
      split at occurs
      next here =>
        rw [List.nil_append, List.cons_append, splitLoop, if_pos here, splitLoop_passing,
          splitString]
        simp
      next notHere => simp at occurs
    | cons character before ih =>
      rw [List.cons_append, List.cons_append] at occurs
      obtain ⟨notHere, later⟩ := findIn_later occurs
      rw [List.cons_append, List.cons_append, splitLoop, if_neg notHere,
        ih later]
  rw [splitString, loop]

/-- Every round of the loop leaves less of the text. -/
theorem splitStringRun_eq {fuel : Nat} (done remaining : Text)
    (enough : remaining.length < fuel) :
    splitStringRun (done ++ remaining) (head :: tail) fuel done.length =
      some (splitString remaining (head :: tail)) := by
  induction fuel generalizing done remaining with
  | zero => exact absurd enough (Nat.not_lt_zero _)
  | succ fuel ih =>
    rw [splitStringRun, findFrom, List.drop_left]
    cases occurs : findIn (head :: tail) remaining with
    | none =>
      rw [splitString_of_none occurs]
      rfl
    | some place =>
      obtain ⟨before, after, rfl, rfl⟩ := findIn_split occurs
      have fewer : after.length < fuel := by
        simp only [List.length_append, List.length_cons] at enough
        omega
      have whole : done ++ (before ++ (head :: tail) ++ after) =
          (done ++ before ++ (head :: tail)) ++ after := by
        simp
      have place : before.length + done.length + (head :: tail).length =
          (done ++ before ++ (head :: tail)).length := by
        simp only [List.length_append]
        omega
      have part : (before ++ (head :: tail) ++ after).take
          (before.length + done.length - done.length) = before := by
        rw [Nat.add_sub_cancel, List.append_assoc, List.take_left]
      rw [Option.map_some, splitString_of_some occurs]
      change (splitStringRun _ _ fuel _).map _ = _
      rw [part, whole, place, ih _ _ fewer]
      rfl

end Found

theorem replacePass_returnNewline (text : Text) :
    replacePass "\r\n".toList "\n".toList 0 text = replaceReturnNewline text := by
  induction text using replaceReturnNewline.induct with
  | case1 rest ih =>
    rw [replaceReturnNewline, ← ih]
    rfl
  | case2 character rest other ih =>
    have notHere : ¬ "\r\n".toList.isPrefixOf (character :: rest) := by
      rw [List.isPrefixOf_iff_prefix]
      rintro ⟨after, split⟩
      cases split
      exact other _ rfl rfl
    rw [replaceReturnNewline, replacePass, if_neg notHere, ih]
    exact other
  | case3 => rfl

theorem replacePass_return (text : Text) :
    replacePass "\r".toList "\n".toList 0 text =
      text.map fun character => if character = '\r' then '\n' else character := by
  induction text with
  | nil => rfl
  | cons character rest ih =>
    rw [List.map_cons, ← ih]
    by_cases here : character = '\r'
    · rw [here]
      rfl
    · have notHere : ¬ "\r".toList.isPrefixOf (character :: rest) := by
        rw [List.isPrefixOf_iff_prefix]
        rintro ⟨after, split⟩
        cases split
        exact here rfl
      rw [replacePass, if_neg notHere, if_neg here]

theorem length_replaceReturnNewline (text : Text) :
    (replaceReturnNewline text).length ≤ text.length := by
  induction text using replaceReturnNewline.induct with
  | case1 rest ih =>
    rw [replaceReturnNewline, List.length_cons, List.length_cons, List.length_cons]
    omega
  | case2 character rest other ih =>
    rw [replaceReturnNewline, List.length_cons, List.length_cons]
    · omega
    · exact other
  | case3 => exact Nat.le_refl _

/-- All three loops end, and the service is split as `splitServiceDefinition` says. -/
theorem splitServiceDefinitionRun_eq {fuel : Nat} {serviceDefinition : Text}
    (enough : serviceDefinition.length < fuel) :
    splitServiceDefinitionRun fuel serviceDefinition =
      some (splitServiceDefinition serviceDefinition) := by
  have shorter := length_replaceReturnNewline serviceDefinition
  have joined : replaceLoop "\r\n".toList "\n".toList fuel serviceDefinition 0 =
      some (replaceReturnNewline serviceDefinition) := by
    rw [← replacePass_returnNewline]
    exact replaceLoop_eq (by decide) [] serviceDefinition
      (Nat.lt_of_le_of_lt List.count_le_length enough)
  have normalized : replaceLoop "\r".toList "\n".toList fuel
      (replaceReturnNewline serviceDefinition) 0 = some (normalizeEndings serviceDefinition) := by
    rw [normalizeEndings, ← replacePass_return]
    exact replaceLoop_eq (by decide) [] (replaceReturnNewline serviceDefinition)
      (Nat.lt_of_le_of_lt List.count_le_length (Nat.lt_of_le_of_lt shorter enough))
  have split : splitStringRun (normalizeEndings serviceDefinition) "\n".toList fuel 0 =
      some (splitString (normalizeEndings serviceDefinition) "\n".toList) := by
    refine splitStringRun_eq [] (normalizeEndings serviceDefinition) ?_
    rw [normalizeEndings, List.length_map]
    exact Nat.lt_of_le_of_lt shorter enough
  rw [splitServiceDefinitionRun, joined, Option.bind_eq_bind, Option.bind_some, normalized,
    Option.bind_eq_bind, Option.bind_some, split, splitServiceDefinition_eq]
  rfl

end CoBridge.Ros2
