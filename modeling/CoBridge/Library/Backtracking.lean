import Mathlib.Data.List.Basic

/-!
# Regular expressions by backtracking

What a greedy, leftmost search with one group finds. The matcher passes the rest of the
expression along as a continuation: a choice tries its first branch with the continuation and
turns to the second one when that fails.

A repetition of a class gives up symbols again only if what follows it can start with a symbol
of the class. When it cannot, `run_many` says that the repetition takes a whole run at once.
-/

namespace CoBridge.Library

inductive Pattern (Symbol : Type) where
  /-- The start of the text. -/
  | start
  | symbol (accepts : Symbol → Bool)
  | sequence (first second : Pattern Symbol)
  | either (first second : Pattern Symbol)
  | optional (inner : Pattern Symbol)
  | many (inner : Pattern Symbol)
  | group (inner : Pattern Symbol)

/-- A place in the text, with what the group has matched so far. -/
structure Cursor (Symbol : Type) where
  atStart : Bool
  rest : List Symbol
  captured : List Symbol

namespace Pattern

variable {Symbol Result : Type}

/-- One or more of a kind. -/
def oneOrMore (inner : Pattern Symbol) : Pattern Symbol := .sequence inner (.many inner)

/-- Go on for as long as there is progress, and stop where nothing longer succeeds. -/
def runMany (step : Cursor Symbol → (Cursor Symbol → Option Result) → Option Result) :
    (fuel : Nat) → Cursor Symbol → (Cursor Symbol → Option Result) → Option Result
  | 0, cursor, next => next cursor
  | fuel + 1, cursor, next =>
    (step cursor fun later =>
      if later.rest.length < cursor.rest.length then runMany step fuel later next
      else none).or (next cursor)

/-- The first result that a way to match leads to. -/
def run : Pattern Symbol → Cursor Symbol → (Cursor Symbol → Option Result) → Option Result
  | .start, cursor, next => if cursor.atStart then next cursor else none
  | .symbol accepts, cursor, next =>
    match cursor.rest with
    | [] => none
    | head :: rest => if accepts head then next ⟨false, rest, cursor.captured⟩ else none
  | .sequence first second, cursor, next => first.run cursor fun later => second.run later next
  | .either first second, cursor, next => (first.run cursor next).or (second.run cursor next)
  | .optional inner, cursor, next => (inner.run cursor next).or (next cursor)
  | .many inner, cursor, next => runMany inner.run cursor.rest.length cursor next
  | .group inner, cursor, next =>
    inner.run cursor fun later =>
      next ⟨later.atStart, later.rest,
        cursor.rest.take (cursor.rest.length - later.rest.length)⟩

/-- What a match found: its group and the text behind it. -/
def outcome (cursor : Cursor Symbol) : Option (List Symbol × List Symbol) :=
  some (cursor.captured, cursor.rest)

/-- The match that starts here. -/
def matchHere (pattern : Pattern Symbol) (atStart : Bool) (text : List Symbol) :
    Option (List Symbol × List Symbol) :=
  pattern.run ⟨atStart, text, []⟩ outcome

/-- The match that starts first. -/
def search (pattern : Pattern Symbol) : (atStart : Bool) → (text : List Symbol) →
    Option (List Symbol × List Symbol)
  | atStart, [] => pattern.matchHere atStart []
  | atStart, head :: rest =>
    (pattern.matchHere atStart (head :: rest)).or (pattern.search false rest)

/-- The groups of up to so many matches, each searched for behind the one before. -/
def searchAll (pattern : Pattern Symbol) : (fuel : Nat) → (atStart : Bool) →
    (text : List Symbol) → List (List Symbol)
  | 0, _, _ => []
  | fuel + 1, atStart, text =>
    match pattern.search atStart text with
    | none => []
    | some (captured, rest) => captured :: pattern.searchAll fuel false rest

/-- The groups of the matches in a text, for a pattern that does not match the empty text:
there are no more matches than symbols. -/
def groups (pattern : Pattern Symbol) (text : List Symbol) : List (List Symbol) :=
  pattern.searchAll (text.length + 1) true text

section Running

variable {accepts : Symbol → Bool} {next : Cursor Symbol → Option Result} {atStart : Bool}
  {head : Symbol} {rest captured : List Symbol}

theorem run_symbol (accepted : accepts head) :
    (symbol accepts).run ⟨atStart, head :: rest, captured⟩ next = next ⟨false, rest, captured⟩ :=
  if_pos accepted

theorem run_symbol_refused (refused : ¬ accepts head) :
    (symbol accepts).run ⟨atStart, head :: rest, captured⟩ next = none :=
  if_neg refused

/-- A repetition of a class takes one symbol and goes on, or stops. -/
theorem run_many_cons (accepted : accepts head) :
    (many (symbol accepts)).run ⟨atStart, head :: rest, captured⟩ next =
      ((many (symbol accepts)).run ⟨false, rest, captured⟩ next).or
        (next ⟨atStart, head :: rest, captured⟩) := by
  have progress : rest.length < (head :: rest).length := Nat.lt_succ_self rest.length
  rw [run, List.length_cons, runMany, run_symbol accepted]
  rw [if_pos progress]
  rfl

theorem run_many_stop (refused : ¬ accepts head) :
    (many (symbol accepts)).run ⟨atStart, head :: rest, captured⟩ next =
      next ⟨atStart, head :: rest, captured⟩ := by
  rw [run, List.length_cons, runMany, run_symbol_refused refused, Option.none_or]

end Running

/-! ### Runs of a class -/

section Refusing

variable {accepts blocked : Symbol → Bool} {next : Cursor Symbol → Option Result}
  {taken rest captured : List Symbol} {atStart : Bool}

/-- Nothing that goes on like this starts with a symbol of the class. -/
def Refuses (next : Cursor Symbol → Option Result) (blocked : Symbol → Bool) : Prop :=
  ∀ atStart head rest captured, blocked head → next ⟨atStart, head :: rest, captured⟩ = none

/-- The text does not start with a symbol of the class. -/
def StopsAt (accepts : Symbol → Bool) (text : List Symbol) : Prop :=
  ∀ head ∈ text.head?, ¬ accepts head

theorem stopsAt_append (inhabited : taken ≠ []) (none : ∀ head ∈ taken, ¬ accepts head) :
    StopsAt accepts (taken ++ rest) := by
  cases taken with
  | nil => exact absurd rfl inhabited
  | cons head taken =>
    rintro _ ⟨⟩
    exact none head List.mem_cons_self

theorem refuses_symbol (disjoint : ∀ head, blocked head → ¬ accepts head) :
    Refuses (fun cursor => (symbol accepts).run cursor next) blocked :=
  fun _ head _ _ isBlocked => run_symbol_refused (disjoint head isBlocked)

theorem Refuses.optional {inner : Pattern Symbol}
    (inside : Refuses (fun cursor => inner.run cursor next) blocked)
    (behind : Refuses next blocked) :
    Refuses (fun cursor => (optional inner).run cursor next) blocked := by
  intro atStart head rest captured isBlocked
  change (inner.run _ next).or (next _) = none
  rw [behind atStart head rest captured isBlocked, Option.or_none]
  exact inside atStart head rest captured isBlocked

/-- A run of the class is taken as a whole when nothing that follows can start inside it, or
when what follows succeeds behind it. -/
theorem run_many (all : taken.all accepts) (stops : StopsAt accepts rest)
    (settled : Refuses next accepts ∨ ∀ atStart, (next ⟨atStart, rest, captured⟩).isSome) :
    (many (symbol accepts)).run ⟨atStart, taken ++ rest, captured⟩ next =
      next ⟨atStart && taken.isEmpty, rest, captured⟩ := by
  induction taken generalizing atStart with
  | nil =>
    rw [List.nil_append, List.isEmpty_nil, Bool.and_true]
    cases rest with
    | nil => rfl
    | cons head rest => exact run_many_stop (stops head rfl)
  | cons head taken ih =>
    obtain ⟨accepted, others⟩ := Bool.and_eq_true_iff.mp (List.all_cons.symm.trans all)
    rw [List.cons_append, run_many_cons accepted, ih others, Bool.false_and,
      List.isEmpty_cons, Bool.and_false]
    rcases settled with refuses | succeeds
    · rw [refuses atStart head (taken ++ rest) captured accepted, Option.or_none]
    · obtain ⟨value, same⟩ := Option.isSome_iff_exists.mp (succeeds false)
      rw [same, Option.some_or]

/-- The same for a run that may not be empty. -/
theorem run_oneOrMore (inhabited : taken ≠ []) (all : taken.all accepts)
    (stops : StopsAt accepts rest)
    (settled : Refuses next accepts ∨ ∀ atStart, (next ⟨atStart, rest, captured⟩).isSome) :
    (oneOrMore (symbol accepts)).run ⟨atStart, taken ++ rest, captured⟩ next =
      next ⟨false, rest, captured⟩ := by
  cases taken with
  | nil => exact absurd rfl inhabited
  | cons head taken =>
    obtain ⟨accepted, others⟩ := Bool.and_eq_true_iff.mp (List.all_cons.symm.trans all)
    rw [oneOrMore, run, List.cons_append, run_symbol accepted, run_many others stops settled,
      Bool.false_and]

end Refusing

/-! ### Patterns that do not look for the start -/

/-- There is no `start` in the pattern. -/
def isUnanchored : Pattern Symbol → Bool
  | .start => false
  | .symbol _ => true
  | .sequence first second | .either first second => first.isUnanchored && second.isUnanchored
  | .optional inner | .many inner | .group inner => inner.isUnanchored

/-- The result does not depend on whether the cursor is at the start. -/
def Indifferent (next : Cursor Symbol → Option Result) : Prop :=
  ∀ rest captured, next ⟨true, rest, captured⟩ = next ⟨false, rest, captured⟩

theorem indifferent_runMany
    {step : Cursor Symbol → (Cursor Symbol → Option Result) → Option Result}
    (stepIndifferent : ∀ next, Indifferent next → Indifferent fun cursor => step cursor next)
    {next : Cursor Symbol → Option Result} (nextIndifferent : Indifferent next) (fuel : Nat) :
    Indifferent fun cursor => runMany step fuel cursor next := by
  induction fuel with
  | zero => exact nextIndifferent
  | succ fuel ih =>
    intro rest captured
    have further : Indifferent fun later : Cursor Symbol =>
        if later.rest.length < rest.length then runMany step fuel later next else none := by
      intro laterRest laterCaptured
      change ite _ _ _ = ite _ _ _
      rw [show runMany step fuel ⟨true, laterRest, laterCaptured⟩ next =
        runMany step fuel ⟨false, laterRest, laterCaptured⟩ next from
          ih laterRest laterCaptured]
    change (step _ _).or (next _) = (step _ _).or (next _)
    rw [nextIndifferent rest captured]
    exact congrArg (Option.or · _) (stepIndifferent _ further rest captured)

theorem indifferent_run (pattern : Pattern Symbol) (unanchored : pattern.isUnanchored)
    {next : Cursor Symbol → Option Result} (nextIndifferent : Indifferent next) :
    Indifferent fun cursor => pattern.run cursor next := by
  induction pattern generalizing next with
  | start => cases unanchored
  | symbol accepts =>
    intro rest captured
    cases rest with
    | nil => rfl
    | cons head rest => rfl
  | sequence first second firstHypothesis secondHypothesis =>
    obtain ⟨left, right⟩ := Bool.and_eq_true_iff.mp unanchored
    exact firstHypothesis left (secondHypothesis right nextIndifferent)
  | either first second firstHypothesis secondHypothesis =>
    obtain ⟨left, right⟩ := Bool.and_eq_true_iff.mp unanchored
    intro rest captured
    exact congrArg₂ Option.or (firstHypothesis left nextIndifferent rest captured)
      (secondHypothesis right nextIndifferent rest captured)
  | optional inner ih =>
    intro rest captured
    exact congrArg₂ Option.or (ih unanchored nextIndifferent rest captured)
      (nextIndifferent rest captured)
  | many inner ih =>
    intro rest captured
    have steps : ∀ next : Cursor Symbol → Option Result, Indifferent next →
        Indifferent fun cursor => inner.run cursor next :=
      fun _ indifferent => ih unanchored indifferent
    exact indifferent_runMany steps nextIndifferent rest.length rest captured
  | group inner ih =>
    intro rest captured
    have further : Indifferent fun later : Cursor Symbol =>
        next ⟨later.atStart, later.rest, rest.take (rest.length - later.rest.length)⟩ :=
      fun laterRest _ => nextIndifferent laterRest _
    exact ih unanchored further rest captured

/-! ### Patterns at the start of a line -/

/-- A pattern behind the start of the text or the end of a line. -/
def lineStart (ends : Symbol → Bool) (body : Pattern Symbol) : Pattern Symbol :=
  .sequence (.either .start (.symbol ends)) body

section Lines

variable {ends : Symbol → Bool} {body : Pattern Symbol} {head : Symbol} {rest : List Symbol}

theorem matchHere_lineStart_true (text : List Symbol) :
    (lineStart ends body).matchHere true text =
      (body.matchHere true text).or ((lineStart ends body).matchHere false text) := rfl

/-- At the end of a line there may be a match. -/
theorem search_lineStart_end (isEnd : ends head) :
    (lineStart ends body).search false (head :: rest) =
      (body.matchHere false rest).or ((lineStart ends body).search false rest) := by
  have here : (lineStart ends body).matchHere false (head :: rest) = body.matchHere false rest :=
    if_pos isEnd
  rw [search, here]

/-- There is none inside a line. -/
theorem search_lineStart_inside {inside : List Symbol}
    (noEnd : ∀ head ∈ inside, ¬ ends head) :
    (lineStart ends body).search false (inside ++ rest) =
      (lineStart ends body).search false rest := by
  induction inside with
  | nil => rfl
  | cons head inside ih =>
    have here : (lineStart ends body).matchHere false (head :: (inside ++ rest)) = none :=
      if_neg (noEnd head List.mem_cons_self)
    rw [List.cons_append, search, here, Option.none_or]
    exact ih fun other member => noEnd other (List.mem_cons_of_mem head member)

/-- The start of the text is searched like the end of a line before it. -/
theorem search_lineStart_start (unanchored : body.isUnanchored) (isEnd : ends head)
    (text : List Symbol) :
    (lineStart ends body).search true text =
      (lineStart ends body).search false (head :: text) := by
  have same : body.matchHere true text = body.matchHere false text :=
    indifferent_run body unanchored (fun _ _ => rfl) text []
  rw [search_lineStart_end isEnd, ← same]
  cases text with
  | nil => rfl
  | cons first later => rw [search, matchHere_lineStart_true, search, Option.or_assoc]

end Lines

/-! ### One match after the other -/

section Successive

variable {pattern : Pattern Symbol} {atStart : Bool} {text : List Symbol}

theorem searchAll_none (absent : pattern.search atStart text = none) (fuel : Nat) :
    pattern.searchAll fuel atStart text = [] := by
  cases fuel with
  | zero => rfl
  | succ fuel => rw [searchAll, absent]

theorem searchAll_some {captured rest : List Symbol}
    (present : pattern.search atStart text = some (captured, rest)) (fuel : Nat) :
    pattern.searchAll (fuel + 1) atStart text =
      captured :: pattern.searchAll fuel false rest := by
  rw [searchAll, present]

/-- The matches of a text depend on where the search in it leads. -/
theorem searchAll_congr {other : List Symbol} {otherStart : Bool}
    (same : pattern.search atStart text = pattern.search otherStart other) (fuel : Nat) :
    pattern.searchAll fuel atStart text = pattern.searchAll fuel otherStart other := by
  cases fuel with
  | zero => rfl
  | succ fuel => rw [searchAll, same, searchAll]

end Successive

end Pattern

end CoBridge.Library
