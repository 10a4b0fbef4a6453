import CoBridge.Library.Action
import CoBridge.Library.Table

/-!
# Comparing two computations

`Action.Matches` compares two computations from related states: they end with
the same value or the same fault, in related states again. It is closed under
every way of composing actions, so two programs of the same shape match as soon
as their parts do.

A fault may be excused: where the first computation ends with it nothing is
said about the second. Excusing the fault of a computation that ran out of a
bound compares it with one that has a larger bound.

`Action.onFirst` and `Action.withLocal` add a local state to a computation and
take it away again. `Action.Spares` is the judgement that a run did not end with a
given fault, for computations that are to be compared without excuses.
-/

namespace CoBridge.Library.Action

variable {State Local Fault Value Result : Type}

/-- The first of two runs ended with an excused fault, or both ended with the
same outcome in related states. -/
inductive Alike (rel : State → State → Prop) (excused : Fault → Prop) :
    Except Fault Value × State → Except Fault Value × State → Prop where
  | excuse {fault left other} (allowed : excused fault) :
      Alike rel excused (.error fault, left) other
  | same {outcome left right} (related : rel left right) :
      Alike rel excused (outcome, left) (outcome, right)

/-- From related states the two computations end alike. -/
def Matches (rel : State → State → Prop) (excused : Fault → Prop)
    (first second : Action State Fault Value) : Prop :=
  ∀ left right, rel left right → Alike rel excused (first left) (second right)

/-- Run a computation on the first part of a state. -/
def onFirst (action : Action State Fault Value) : Action (State × Local) Fault Value := fun state =>
  ((action state.1).1, ((action state.1).2, state.2))

/-- Run a computation with a local state that is dropped afterwards. -/
def withLocal (initial : Local) (action : Action (State × Local) Fault Value) :
    Action State Fault Value := fun state =>
  ((action (state, initial)).1, (action (state, initial)).2.1)

section

variable {rel : State → State → Prop} {excused : Fault → Prop}
variable {first second : Action State Fault Value}

theorem matches_pure (value : Value) :
    (pure value : Action State Fault Value).Matches rel excused (pure value) :=
  fun _ _ related => .same related

theorem matches_throw (fault : Fault) :
    (throw fault : Action State Fault Value).Matches rel excused (throw fault) :=
  fun _ _ related => .same related

/-- An excused fault matches every computation. -/
theorem matches_excused {fault : Fault} (allowed : excused fault)
    (second : Action State Fault Value) : (throw fault).Matches rel excused second :=
  fun _ _ _ => .excuse allowed

theorem Matches.bind {next other : Value → Action State Fault Result}
    (firstMatches : first.Matches rel excused second)
    (nextMatches : ∀ value, (next value).Matches rel excused (other value)) :
    (first >>= next).Matches rel excused (second >>= other) := by
  intro left right related
  have alike := firstMatches left right related
  rw [bind_apply, bind_apply]
  generalize first left = leftRun at alike ⊢
  generalize second right = rightRun at alike ⊢
  cases alike with
  | excuse allowed => exact .excuse allowed
  | @same outcome leftState rightState related =>
    cases outcome with
    | error fault => exact .same related
    | ok value => exact nextMatches value leftState rightState related

/-- The handlers match, and the first one passes an excused fault on. -/
theorem Matches.tryCatch {handler other : Fault → Action State Fault Value}
    (bodyMatches : first.Matches rel excused second)
    (handlerMatches : ∀ fault, (handler fault).Matches rel excused (other fault))
    (passed : ∀ fault, excused fault → handler fault = throw fault) :
    (tryCatch first handler).Matches rel excused (tryCatch second other) := by
  intro left right related
  have alike := bodyMatches left right related
  rw [Action.tryCatch, Action.tryCatch]
  generalize first left = leftRun at alike ⊢
  generalize second right = rightRun at alike ⊢
  cases alike with
  | @excuse fault leftState _ allowed =>
    change Alike rel excused (handler fault leftState) _
    rw [passed fault allowed]
    exact .excuse allowed
  | @same outcome leftState rightState related =>
    cases outcome with
    | error fault => exact handlerMatches fault leftState rightState related
    | ok value => exact .same related

theorem Matches.onFirst (partMatches : first.Matches rel excused second) :
    (onFirst first : Action (State × Local) Fault Value).Matches
      (fun left right => rel left.1 right.1 ∧ left.2 = right.2) excused (onFirst second) := by
  rintro ⟨left, own⟩ ⟨right, _⟩ ⟨related, rfl⟩
  have alike := partMatches left right related
  unfold Action.onFirst
  generalize first left = leftRun at alike ⊢
  generalize second right = rightRun at alike ⊢
  cases alike with
  | excuse allowed => exact .excuse allowed
  | same related => exact .same ⟨related, rfl⟩

theorem Matches.withLocal {initial : Local} {first second : Action (State × Local) Fault Value}
    (bodyMatches : first.Matches (fun left right => rel left.1 right.1 ∧ left.2 = right.2)
      excused second) :
    (withLocal initial first).Matches rel excused (withLocal initial second) := by
  intro left right related
  have alike := bodyMatches (left, initial) (right, initial) ⟨related, rfl⟩
  unfold Action.withLocal
  generalize first (left, initial) = leftRun at alike ⊢
  generalize second (right, initial) = rightRun at alike ⊢
  cases alike with
  | excuse allowed => exact .excuse allowed
  | same related => exact .same related.1

/-- A computation that matches itself with nothing excused keeps what related
states have in common. -/
theorem Matches.reached (nothing : ∀ fault, ¬ excused fault)
    (matched : first.Matches rel excused second) {left right : State} (related : rel left right) :
    (first left).1 = (second right).1 ∧ rel (first left).2 (second right).2 := by
  have alike := matched left right related
  generalize first left = leftRun at alike ⊢
  generalize second right = rightRun at alike ⊢
  cases alike with
  | excuse allowed => exact absurd allowed (nothing _)
  | same related => exact ⟨rfl, related⟩

end

/-- A run that did not end with the fault, in a state that has the property. -/
def Spares (avoided : Fault) (kept : State → Prop) (ended : Except Fault Value × State) : Prop :=
  ended.1 ≠ .error avoided ∧ kept ended.2

section

variable {avoided : Fault} {kept : State → Prop}
variable {state : State}

theorem Spares.bind {first : Action State Fault Value} {next : Value → Action State Fault Result}
    (firstSpares : Spares avoided kept (first state))
    (nextSpares : ∀ value reached, (first state).1 = .ok value → kept reached →
      Spares avoided kept (next value reached)) :
    Spares avoided kept ((first >>= next) state) := by
  rw [bind_apply]
  generalize first state = ended at firstSpares nextSpares ⊢
  obtain ⟨fault | value, reached⟩ := ended
  · refine ⟨fun raised => ?_, firstSpares.2⟩
    exact firstSpares.1 (congrArg Except.error (Except.error.inj raised))
  · exact nextSpares value reached rfl firstSpares.2

theorem Spares.tryCatch {body : Action State Fault Value}
    {handler : Fault → Action State Fault Value} (bodySpares : Spares avoided kept (body state))
    (handlerSpares : ∀ fault reached, fault ≠ avoided → kept reached →
      Spares avoided kept (handler fault reached)) :
    Spares avoided kept (tryCatch body handler state) := by
  rw [Action.tryCatch]
  generalize body state = ended at bodySpares ⊢
  obtain ⟨fault | value, reached⟩ := ended
  · apply handlerSpares fault reached _ bodySpares.2
    rintro rfl
    exact bodySpares.1 rfl
  · refine ⟨?_, bodySpares.2⟩
    rintro ⟨⟩

theorem Spares.mono {weaker : State → Prop} {ended : Except Fault Value × State}
    (spares : Spares avoided kept ended) (implies : ∀ state, kept state → weaker state) :
    Spares avoided weaker ended :=
  ⟨spares.1, implies _ spares.2⟩

theorem spares_pure {value : Value} (holds : kept state) :
    Spares avoided kept ((pure value : Action State Fault Value) state) :=
  ⟨nofun, holds⟩

end

end CoBridge.Library.Action

/-!
## Memoized loads

A `Memo` computes, for a key that is not in its cache, a list of entries to
add; the key is then looked up again. One computation may add entries for other
keys, and it need not add one for the key that was asked for.

`Memo.Coherent` says that every entry a computation adds is the value its own
key would have been given by a load on an empty cache. Then the cache holds only
such values (`Memo.Sound`), and no load can tell what it holds.
-/

namespace CoBridge.Library

open Library.Action

/-- The first value listed for a key. -/
def valueIn {Key Value : Type} [DecidableEq Key] (key : Key) (entries : List (Key × Value)) :
    Option Value :=
  (entries.find? fun entry => entry.1 = key).map Prod.snd

namespace Table

variable {Key Value : Type} [DecidableEq Key]

/-- Add the entries from left to right; a key that has a value keeps it. -/
def emplaceAll (entries : List (Key × Value)) (table : Table Key Value) : Table Key Value :=
  entries.foldl (fun grown entry => grown.emplace entry.1 entry.2) table

theorem lookup_emplaceAll (entries : List (Key × Value)) (table : Table Key Value) (key : Key) :
    (table.emplaceAll entries).lookup key = (table.lookup key).or (valueIn key entries) := by
  induction entries generalizing table with
  | nil => simp [emplaceAll, valueIn]
  | cons entry rest ih =>
    change ((table.emplace entry.1 entry.2).emplaceAll rest).lookup key = _
    rw [ih, lookup_emplace]
    by_cases same : entry.1 = key
    · subst key
      cases table.lookup entry.1 <;> simp [valueIn]
    · simp [valueIn, same, Ne.symm same]

end Table

/-- How the entries for a missing key are computed, and the fault of a key that
they do not contain. -/
structure Memo (Key Value Fault : Type) where
  compute : Key → Except Fault (List (Key × Value))
  missing : Key → Fault

namespace Memo

variable {Key Value Fault : Type} [DecidableEq Key] {memo other : Memo Key Value Fault}
variable {key : Key} {cache : Table Key Value} {value : Value} {entries : List (Key × Value)}

/-- Look the key up; compute, add and look it up again if it is not there. -/
def load (memo : Memo Key Value Fault) (key : Key) : Action (Table Key Value) Fault Value := do
  match ← Action.gets fun cache => cache.lookup key with
  | some value => pure value
  | none =>
    let entries ← Action.ofExcept (memo.compute key)
    Action.modify fun cache => cache.emplaceAll entries
    match ← Action.gets fun cache => cache.lookup key with
    | some value => pure value
    | none => Action.throw (memo.missing key)

/-- The outcome of a load on an empty cache. -/
def fresh (memo : Memo Key Value Fault) (key : Key) : Except Fault Value := (memo.load key ∅).1

/-- Every entry that is computed is what a load of its own key would give. -/
def Coherent (memo : Memo Key Value Fault) : Prop :=
  ∀ key entries, memo.compute key = .ok entries →
    ∀ added value, valueIn added entries = some value → memo.fresh added = .ok value

/-- The cache holds only values that a load on an empty cache gives. -/
def Sound (memo : Memo Key Value Fault) (cache : Table Key Value) : Prop :=
  ∀ key value, cache.lookup key = some value → memo.fresh key = .ok value

theorem sound_empty (memo : Memo Key Value Fault) : memo.Sound ∅ := by
  intro key value found
  simp at found

/-- A load reads the memo at its own key only. -/
theorem load_congr (computed : memo.compute key = other.compute key)
    (missing : memo.missing key = other.missing key) : memo.load key = other.load key := by
  unfold load
  rw [computed, missing]

theorem load_hit (found : cache.lookup key = some value) :
    memo.load key cache = (.ok value, cache) := by
  rw [load, gets_bind_apply, found]
  rfl

theorem load_fault {fault : Fault} (absent : cache.lookup key = none)
    (failed : memo.compute key = .error fault) :
    memo.load key cache = (.error fault, cache) := by
  rw [load, gets_bind_apply, absent, failed]
  rfl

theorem load_computed (absent : cache.lookup key = none)
    (computed : memo.compute key = .ok entries) :
    memo.load key cache =
      (match valueIn key entries with
        | some value => .ok value
        | none => .error (memo.missing key), cache.emplaceAll entries) := by
  have again : (cache.emplaceAll entries).lookup key = valueIn key entries := by
    rw [Table.lookup_emplaceAll, absent, Option.none_or]
  rw [load, gets_bind_apply, absent, computed]
  change (match (cache.emplaceAll entries).lookup key with
    | some value => (pure value : Action (Table Key Value) Fault Value)
    | none => Action.throw (memo.missing key)) (cache.emplaceAll entries) = _
  rw [again]
  cases valueIn key entries <;> rfl

theorem fresh_computed (computed : memo.compute key = .ok entries)
    (listed : valueIn key entries = some value) :
    memo.fresh key = .ok value := by
  rw [fresh, load_computed (AList.lookup_empty key) computed, listed]

/-- A value that a fresh load gives was computed for its key. -/
theorem fresh_eq_ok (loaded : memo.fresh key = .ok value) :
    ∃ entries, memo.compute key = .ok entries ∧ valueIn key entries = some value := by
  have absent : (∅ : Table Key Value).lookup key = none := AList.lookup_empty key
  unfold fresh at loaded
  cases computed : memo.compute key with
  | error fault =>
    rw [load_fault absent computed] at loaded
    cases loaded
  | ok entries =>
    rw [load_computed absent computed] at loaded
    cases listed : valueIn key entries with
    | none =>
      rw [listed] at loaded
      cases loaded
    | some found =>
      rw [listed] at loaded
      exact ⟨entries, rfl, by rw [listed, Except.ok.inj loaded]⟩

/-- A fault that neither the computation nor the second lookup raises does not occur. -/
theorem fresh_ne_error {fault : Fault} (computed : memo.compute key ≠ .error fault)
    (missing : memo.missing key ≠ fault) : memo.fresh key ≠ .error fault := by
  have absent : (∅ : Table Key Value).lookup key = none := AList.lookup_empty key
  unfold fresh
  cases result : memo.compute key with
  | error other =>
    rw [load_fault absent result]
    rintro ⟨⟩
    exact computed result
  | ok entries =>
    rw [load_computed absent result]
    cases valueIn key entries with
    | none =>
      rintro ⟨⟩
      exact missing rfl
    | some value => exact nofun

/-- On a sound cache a load gives what it gives on an empty one. -/
theorem load_of_sound (coherent : memo.Coherent) {cache : Table Key Value}
    (sound : memo.Sound cache) (key : Key) :
    (memo.load key cache).1 = memo.fresh key ∧ memo.Sound (memo.load key cache).2 := by
  have absentFresh : (∅ : Table Key Value).lookup key = none := AList.lookup_empty key
  cases found : cache.lookup key with
  | some value =>
    rw [load_hit found, sound key value found]
    exact ⟨rfl, sound⟩
  | none =>
    cases computed : memo.compute key with
    | error fault =>
      rw [load_fault found computed, fresh, load_fault absentFresh computed]
      exact ⟨rfl, sound⟩
    | ok entries =>
      rw [load_computed found computed, fresh, load_computed absentFresh computed]
      refine ⟨rfl, fun added value present => ?_⟩
      -- an entry of the grown cache was there before or has just been computed
      rw [Table.lookup_emplaceAll, Option.or_eq_some_iff] at present
      rcases present with held | ⟨-, listed⟩
      · exact sound added value held
      · exact coherent key entries computed added value listed

theorem load_matches (coherent : memo.Coherent) (excused : Fault → Prop) (key : Key) :
    (memo.load key).Matches (fun left right => memo.Sound left ∧ memo.Sound right) excused
      (memo.load key) := by
  rintro left right ⟨leftSound, rightSound⟩
  obtain ⟨leftOutcome, leftReached⟩ := load_of_sound coherent leftSound key
  obtain ⟨rightOutcome, rightReached⟩ := load_of_sound coherent rightSound key
  have outcomes := leftOutcome.trans rightOutcome.symm
  generalize memo.load key left = leftRun at outcomes leftReached ⊢
  generalize memo.load key right = rightRun at outcomes rightReached ⊢
  obtain ⟨_, rightCache⟩ := rightRun
  cases outcomes
  exact .same ⟨leftReached, rightReached⟩

end Memo

end CoBridge.Library
