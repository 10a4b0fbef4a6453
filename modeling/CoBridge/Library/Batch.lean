import CoBridge.Library.Action
import Mathlib.Data.List.Forall2
import Mathlib.Tactic.Push
import CoBridge.Library.Transition

/-!
# Batches and the sequences of their entries

An entry of a request is passed over, taken or refused. A batch ends at the first
entry that it refuses, while entries that are served alone are all considered. A
batch may also decide on an entry in another way than is done for the entry alone,
since it looks at the state in which it began.

`Orderly` says of a batch that it takes entries as they are taken alone, and that
nothing is left to take when it ends. Then batch and sequence reach the same state.
The converse needs that what is taken leaves a trace: `Comparable`.
-/

namespace CoBridge.Library

open Library.Action

/-- What happens to an entry. -/
inductive Decision (State : Type) where
  | pass
  | take (next : State)
  | refuse

/-- How entries are decided on in a batch and alone, and what a refusal leaves behind. -/
structure BatchPolicy (State Entry : Type) where
  inBatch : Entry → State → Decision State
  alone : Entry → State → Decision State
  refused : Entry → State → State

namespace BatchPolicy

variable {State Entry Seen Key : Type} (policy : BatchPolicy State Entry)

/-- The entries as one request. -/
def runBatch : List Entry → State → State
  | [], state => state
  | entry :: rest, state =>
    match policy.inBatch entry state with
    | .pass => runBatch rest state
    | .take next => runBatch rest next
    | .refuse => policy.refused entry state

def serveAlone (entry : Entry) (state : State) : State :=
  match policy.alone entry state with
  | .pass => state
  | .take next => next
  | .refuse => policy.refused entry state

/-- The entries as requests of their own, one after the other. -/
def runEach (entries : List Entry) (state : State) : State :=
  entries.foldl (fun reached entry => policy.serveAlone entry reached) state

/-- The entry is not taken alone. -/
def Idle (entry : Entry) (state : State) : Prop := ∀ next, policy.alone entry state ≠ .take next

/-- What the batch takes is taken alone, and once it refuses an entry, nothing is left
to take. -/
def Orderly : List Entry → State → Prop
  | [], _ => True
  | entry :: rest, state =>
    match policy.inBatch entry state with
    | .pass => Orderly rest state
    | .take next => policy.alone entry state = .take next ∧ Orderly rest next
    | .refuse =>
      policy.Idle entry state ∧ ∀ other ∈ rest, policy.Idle other (policy.refused entry state)

/-- In valid states, batches and sequences can be told apart by what is seen of the
states: keys that are held stay held, and what is taken gains one. -/
structure Comparable (valid : State → Prop) (observe : State → Seen) (held : Key → Seen → Prop) :
    Prop where
  passes : ∀ {entry state}, valid state → policy.inBatch entry state = .pass →
    policy.alone entry state = .pass
  keeps : ∀ {entry state next}, valid state → policy.inBatch entry state = .take next →
    policy.alone entry state = .take next → valid next
  diverges : ∀ {entry state next}, valid state → policy.inBatch entry state = .take next →
    policy.alone entry state ≠ .take next → ∀ rest,
      observe (policy.runBatch rest next) ≠
        observe (policy.runEach rest (policy.serveAlone entry state))
  stops : ∀ {entry state}, valid state → policy.inBatch entry state = .refuse →
    policy.alone entry state = .refuse ∨ policy.refused entry state = state
  settled : ∀ entry other state,
    policy.refused other (policy.refused entry state) = policy.refused entry state
  grows : ∀ {key} entry {state}, held key (observe state) →
    held key (observe (policy.serveAlone entry state))
  gains : ∀ {entry state next} other, policy.alone entry state = .take next →
    ∃ key, ¬ held key (observe (policy.refused other state)) ∧ held key (observe next)

variable {policy} {valid : State → Prop} {observe : State → Seen} {held : Key → Seen → Prop}
variable {state : State}

theorem serveAlone_of_take {entry : Entry} {next : State}
    (taken : policy.alone entry state = .take next) : policy.serveAlone entry state = next := by
  rw [serveAlone, taken]

section Head

variable {entry : Entry} (same : policy.inBatch entry state = policy.alone entry state)

include same

/-- A batch that stops at its first entry, and decides on it as it is decided on alone. -/
theorem runBatch_of_refuse (refused : policy.inBatch entry state = .refuse) (entries : List Entry) :
    policy.runBatch (entry :: entries) state = policy.serveAlone entry state := by
  unfold runBatch serveAlone
  rw [← same, refused]

theorem runBatch_of_served (served : policy.inBatch entry state ≠ .refuse) (entries : List Entry) :
    policy.runBatch (entry :: entries) state =
      policy.runBatch entries (policy.serveAlone entry state) := by
  rw [runBatch, serveAlone, ← same]
  cases decision : policy.inBatch entry state with
  | pass | take => rfl
  | refuse => exact absurd decision served

theorem runBatch_singleton : policy.runBatch [entry] state = policy.serveAlone entry state := by
  by_cases refused : policy.inBatch entry state = .refuse
  · exact runBatch_of_refuse same refused []
  · exact runBatch_of_served same refused []

end Head

theorem runBatch_of_pass {entries : List Entry}
    (passes : ∀ entry ∈ entries, policy.inBatch entry state = .pass) :
    policy.runBatch entries state = state := by
  induction entries with
  | nil => rfl
  | cons entry rest ih =>
    rw [runBatch, passes entry List.mem_cons_self]
    exact ih fun other member => passes other (List.mem_cons_of_mem _ member)

/-- What every entry that is taken in the batch keeps, the batch keeps. -/
theorem runBatch_invariant (policy : BatchPolicy State Entry) (holds : State → Prop)
    (takes : ∀ {entry state next}, holds state → policy.inBatch entry state = .take next →
      holds next)
    (refuses : ∀ {entry state}, holds state → holds (policy.refused entry state))
    (entries : List Entry)
    {state : State} (start : holds state) : holds (policy.runBatch entries state) := by
  induction entries generalizing state with
  | nil => exact start
  | cons entry rest ih =>
    unfold runBatch
    cases decision : policy.inBatch entry state with
    | pass => exact ih start
    | take next => exact ih (takes start decision)
    | refuse => exact refuses start

theorem serveAlone_invariant (policy : BatchPolicy State Entry) (holds : State → Prop)
    (takes : ∀ {entry state next}, holds state → policy.alone entry state = .take next → holds next)
    (refuses : ∀ {entry state}, holds state → holds (policy.refused entry state)) (entry : Entry)
    {state : State} (start : holds state) : holds (policy.serveAlone entry state) := by
  unfold serveAlone
  cases decision : policy.alone entry state with
  | pass => exact start
  | take next => exact takes start decision
  | refuse => exact refuses start

/-- What every entry that is taken alone keeps, the sequence keeps. -/
theorem runEach_invariant (policy : BatchPolicy State Entry) (holds : State → Prop)
    (takes : ∀ {entry state next}, holds state → policy.alone entry state = .take next → holds next)
    (refuses : ∀ {entry state}, holds state → holds (policy.refused entry state))
    (entries : List Entry)
    {state : State} (start : holds state) : holds (policy.runEach entries state) := by
  induction entries generalizing state with
  | nil => exact start
  | cons entry rest ih =>
    exact ih (serveAlone_invariant policy holds takes refuses entry start)

theorem runEach_grows (comparable : policy.Comparable valid observe held) (entries : List Entry)
    {state : State} {key : Key} (holds : held key (observe state)) :
    held key (observe (policy.runEach entries state)) := by
  induction entries generalizing state with
  | nil => exact holds
  | cons entry rest ih => exact ih (comparable.grows entry holds)

namespace Comparable

variable (comparable : policy.Comparable valid observe held)
variable {state : State} {entries : List Entry} {last : Entry}

include comparable

/-- An entry that is not taken after a refusal changes nothing. -/
theorem serveAlone_settled {entry : Entry} (idle : policy.Idle entry (policy.refused last state)) :
    policy.serveAlone entry (policy.refused last state) = policy.refused last state := by
  unfold serveAlone
  cases decision : policy.alone entry (policy.refused last state) with
  | pass => rfl
  | take next => exact absurd decision (idle next)
  | refuse => exact comparable.settled last entry state

theorem runEach_settled (idle : ∀ entry ∈ entries, policy.Idle entry (policy.refused last state)) :
    policy.runEach entries (policy.refused last state) = policy.refused last state := by
  induction entries with
  | nil => rfl
  | cons entry rest ih =>
    change policy.runEach rest (policy.serveAlone entry (policy.refused last state)) = _
    rw [comparable.serveAlone_settled (idle entry List.mem_cons_self)]
    exact ih fun other member => idle other (List.mem_cons_of_mem _ member)

/-- The entry that ends the batch leaves what a refusal leaves, if it is not taken alone. -/
theorem serveAlone_stopped {entry : Entry} (holds : valid state)
    (refuses : policy.inBatch entry state = .refuse) (idle : policy.Idle entry state) :
    policy.serveAlone entry state = policy.refused entry state := by
  unfold serveAlone
  cases decision : policy.alone entry state with
  | pass =>
    rcases comparable.stops holds refuses with refused | same
    · exact nomatch decision.symm.trans refused
    · exact same.symm
  | take next => exact absurd decision (idle next)
  | refuse => rfl

/-- An orderly batch equals its entries one by one. -/
theorem runBatch_eq_runEach (holds : valid state) (orderly : policy.Orderly entries state) :
    policy.runBatch entries state = policy.runEach entries state := by
  induction entries generalizing state with
  | nil => rfl
  | cons entry rest ih =>
    change _ = policy.runEach rest (policy.serveAlone entry state)
    unfold runBatch
    unfold Orderly at orderly
    cases decision : policy.inBatch entry state with
    | pass =>
      rw [decision] at orderly
      have skipped : policy.serveAlone entry state = state := by
        rw [serveAlone, comparable.passes holds decision]
      rw [skipped]
      exact ih holds orderly
    | take next =>
      rw [decision] at orderly
      rw [serveAlone_of_take orderly.1]
      exact ih (comparable.keeps holds decision orderly.1) orderly.2
    | refuse =>
      rw [decision] at orderly
      rw [comparable.serveAlone_stopped holds decision orderly.1]
      exact (comparable.runEach_settled orderly.2).symm

/-- After a refusal, an entry that is taken leaves a trace. -/
theorem runEach_gains (taken : ¬ ∀ entry ∈ entries, policy.Idle entry (policy.refused last state)) :
    ∃ key, ¬ held key (observe (policy.refused last state)) ∧
      held key (observe (policy.runEach entries (policy.refused last state))) := by
  induction entries with
  | nil => exact absurd (fun _ member => nomatch member) taken
  | cons entry rest ih =>
    change ∃ key, _ ∧ held key (observe (policy.runEach rest
      (policy.serveAlone entry (policy.refused last state))))
    by_cases idle : policy.Idle entry (policy.refused last state)
    · rw [comparable.serveAlone_settled idle]
      apply ih
      intro others
      apply taken
      intro other member
      rcases List.mem_cons.mp member with rfl | later
      · exact idle
      · exact others other later
    · unfold Idle at idle
      push Not at idle
      obtain ⟨next, took⟩ := idle
      obtain ⟨key, lacked, gained⟩ := comparable.gains last took
      rw [comparable.settled] at lacked
      rw [serveAlone_of_take took]
      exact ⟨key, lacked, runEach_grows comparable rest gained⟩

/-- A batch is the sequence of its entries exactly when it is orderly. -/
theorem observe_runBatch_iff (holds : valid state) :
    observe (policy.runBatch entries state) = observe (policy.runEach entries state) ↔
      policy.Orderly entries state := by
  refine ⟨fun same => ?_, fun orderly =>
    congrArg observe (comparable.runBatch_eq_runEach holds orderly)⟩
  induction entries generalizing state with
  | nil => trivial
  | cons entry rest ih =>
    change _ = observe (policy.runEach rest (policy.serveAlone entry state)) at same
    unfold runBatch at same
    unfold Orderly
    cases decision : policy.inBatch entry state with
    | pass =>
      rw [decision, serveAlone, comparable.passes holds decision] at same
      exact ih holds same
    | take next =>
      rw [decision] at same
      by_cases agrees : policy.alone entry state = .take next
      · rw [serveAlone_of_take agrees] at same
        exact ⟨agrees, ih (comparable.keeps holds decision agrees) same⟩
      · exact absurd same (comparable.diverges holds decision agrees rest)
    | refuse =>
      rw [decision] at same
      have idle : policy.Idle entry state := by
        intro next took
        obtain ⟨key, lacked, gained⟩ := comparable.gains entry took
        rw [serveAlone_of_take took] at same
        rw [same] at lacked
        exact lacked (runEach_grows comparable rest gained)
      refine ⟨idle, ?_⟩
      by_contra taken
      rw [comparable.serveAlone_stopped holds decision idle] at same
      obtain ⟨key, lacked, gained⟩ := comparable.runEach_gains taken
      rw [same] at lacked
      exact lacked gained

end Comparable

section Actions

variable {World Fault Item : Type}

/-- The action on one entry ends as decided, in a world that shows the state decided on. -/
def Serves (shows : State → World → Prop) (refused : State → State) (state : State) :
    Decision State → Except Fault Unit × World → Prop
  | .pass, ended => ended.1 = .ok () ∧ shows state ended.2
  | .take next, ended => ended.1 = .ok () ∧ shows next ended.2
  | .refuse, ended => (∃ fault, ended.1 = .error fault) ∧ shows (refused state) ended.2

/-- A loop over entries is the batch of them. -/
theorem forEach_shows (policy : BatchPolicy State Entry) (shows : State → World → Prop)
    {body : Item → Action World Fault Unit} {reads : Item → Entry → Prop}
    (serves : ∀ {item entry}, reads item entry → ∀ {state world}, shows state world →
      Serves shows (policy.refused entry) state (policy.inBatch entry state) (body item world))
    {items : List Item} {entries : List Entry} (read : List.Forall₂ reads items entries)
    {state : State} {world : World} (shown : shows state world) :
    shows (policy.runBatch entries state) (Action.forEach items body world).2 := by
  induction read generalizing state world with
  | nil => exact shown
  | @cons item entry items entries reads _ ih =>
    have served := serves reads shown
    rw [forEach_cons]
    unfold runBatch
    rcases ended : body item world with ⟨result, reached⟩
    rw [ended] at served
    cases decision : policy.inBatch entry state with
    | pass =>
      rw [decision] at served
      obtain ⟨rfl, showsNext⟩ := served
      rw [bind_ok ended]
      exact ih showsNext
    | take next =>
      rw [decision] at served
      obtain ⟨rfl, showsNext⟩ := served
      rw [bind_ok ended]
      exact ih showsNext
    | refuse =>
      rw [decision] at served
      obtain ⟨⟨fault, rfl⟩, showsRefused⟩ := served
      rw [bind_error ended]
      exact showsRefused

end Actions

end BatchPolicy

/-!
## Batches judged by their entries

Whether a batch is orderly can often be told from its entries and the state in which it
begins: which entries are refused, clash or are missed then depends on the entries before
them. `Described` asks for that, and `orderly_iff_inOrder` gives the condition on the
list of entries.
-/

namespace BatchPolicy

open Trace

variable {State Entry : Type}
variable {refuses clashes missed : List Entry → Entry → Prop}

/-- Up to the first entry that is refused no entry clashes with those before it, and from
there on none is missed. -/
def InOrder (refuses clashes missed : List Entry → Entry → Prop) (entries : List Entry) : Prop :=
  ∀ before entry rest, entries = before ++ entry :: rest →
    Always (fun earlier other => ¬ refuses earlier other) before →
    ¬ clashes before entry ∧ (refuses before entry → ∀ other ∈ entry :: rest, ¬ missed before other)

/-- The same of entries that come after others. -/
def InOrderAfter (refuses clashes missed : List Entry → Entry → Prop) (done entries : List Entry) :
    Prop :=
  ∀ before entry rest, entries = before ++ entry :: rest →
    Always (fun earlier other => ¬ refuses earlier other) (done ++ before) →
    ¬ clashes (done ++ before) entry ∧
      (refuses (done ++ before) entry → ∀ other ∈ entry :: rest, ¬ missed (done ++ before) other)

/-- The entry that is considered next, and those behind it. -/
theorem inOrderAfter_cons {done : List Entry}
    (unrefused : Always (fun earlier other => ¬ refuses earlier other) done) (entry : Entry)
    (entries : List Entry) :
    InOrderAfter refuses clashes missed done (entry :: entries) ↔
      (¬ clashes done entry ∧
        (refuses done entry → ∀ other ∈ entry :: entries, ¬ missed done other)) ∧
        InOrderAfter refuses clashes missed (done ++ [entry]) entries := by
  constructor
  · intro places
    constructor
    · simpa using places [] entry entries rfl (by simpa using unrefused)
    · intro before current rest split always
      simpa using places (entry :: before) current rest (by simp [split]) (by simpa using always)
  · rintro ⟨first, later⟩ before current rest split always
    cases before with
    | nil =>
      obtain ⟨rfl, rfl⟩ := List.cons.inj split
      simpa using first
    | cons head before =>
      obtain ⟨rfl, same⟩ := List.cons.inj split
      simpa using later before current rest same (by simpa using always)

/-- Nothing is asked of entries behind one that is refused. -/
theorem inOrderAfter_refused {done : List Entry} {entry : Entry} (refused : refuses done entry)
    (entries : List Entry) :
    InOrderAfter refuses clashes missed (done ++ [entry]) entries := by
  intro before current rest split always
  rw [List.append_assoc] at always
  exact absurd refused (always done entry before rfl)

/-- In the states that follow some entries, the decisions can be told from these. -/
structure Described (policy : BatchPolicy State Entry) (follows : List Entry → State → Prop)
    (refuses clashes missed : List Entry → Entry → Prop) : Prop where
  refuses : ∀ {before state} entry, follows before state →
    (policy.inBatch entry state = .refuse ↔ refuses before entry)
  clashes : ∀ {before state} entry, follows before state →
    ((∃ next, policy.inBatch entry state = .take next ∧ policy.alone entry state ≠ .take next) ↔
      clashes before entry)
  missed : ∀ {before state} entry, follows before state →
    (policy.Idle entry state ↔ ¬ missed before entry)
  settles : ∀ {before state} entry other, follows before state →
    (policy.Idle other (policy.refused entry state) ↔ policy.Idle other state)
  passes : ∀ {before state entry}, follows before state → policy.inBatch entry state = .pass →
    follows (before ++ [entry]) state
  takes : ∀ {before state entry next}, follows before state →
    policy.inBatch entry state = .take next → policy.alone entry state = .take next →
    follows (before ++ [entry]) next

namespace Described

variable {policy : BatchPolicy State Entry} {follows : List Entry → State → Prop}
  {refuses clashes missed : List Entry → Entry → Prop} {done entries : List Entry} {state : State}
  (described : policy.Described follows refuses clashes missed)

include described

/-- The rest of a batch, after entries none of which was refused. -/
theorem orderly_iff (reached : follows done state)
    (unrefused : Always (fun earlier other => ¬ refuses earlier other) done) :
    policy.Orderly entries state ↔ InOrderAfter refuses clashes missed done entries := by
  induction entries generalizing done state with
  | nil =>
    refine iff_of_true trivial ?_
    intro before entry rest split
    simp at split
  | cons entry entries ih =>
    rw [inOrderAfter_cons unrefused]
    unfold Orderly
    have refusal := described.refuses entry reached
    have clash := described.clashes entry reached
    cases decision : policy.inBatch entry state with
    | pass =>
      have served : ¬ refuses done entry := by simp [← refusal, decision]
      have agrees : ¬ clashes done entry := by simp [← clash, decision]
      have continued := (always_concat done entry).mpr ⟨unrefused, served⟩
      rw [ih (described.passes reached decision) continued]
      exact (and_iff_right ⟨agrees, fun refused => absurd refused served⟩).symm
    | take next =>
      have served : ¬ refuses done entry := by simp [← refusal, decision]
      have continued := (always_concat done entry).mpr ⟨unrefused, served⟩
      have agrees : policy.alone entry state = .take next ↔ ¬ clashes done entry := by
        simp [← clash, decision]
      constructor
      · rintro ⟨same, rest⟩
        exact ⟨⟨agrees.mp same, fun refused => absurd refused served⟩,
          (ih (described.takes reached decision same) continued).mp rest⟩
      · rintro ⟨⟨unclashed, _⟩, rest⟩
        have same := agrees.mpr unclashed
        exact ⟨same, (ih (described.takes reached decision same)
          continued).mpr rest⟩
    | refuse =>
      have refused : refuses done entry := refusal.mp decision
      have agrees : ¬ clashes done entry := by simp [← clash, decision]
      rw [and_iff_left (inOrderAfter_refused refused entries)]
      simp [described.settles _ _ reached, described.missed _ reached, agrees, refused]

/-- A batch is orderly exactly when its entries are in order. -/
theorem orderly_iff_inOrder (start : follows [] state) :
    policy.Orderly entries state ↔ InOrder refuses clashes missed entries :=
  described.orderly_iff start always_nil

end Described

end BatchPolicy

end CoBridge.Library
