import CoBridge.Library.Table
import Mathlib.Data.Fintype.Basic
import Mathlib.Logic.Function.Basic

/-!
# Changes to some keys

A `Change` gives values to some keys of a map. Entries put into a table and keys
erased from it are changes, and `find` is what a change says about one key.
-/

namespace CoBridge.Library

section

variable {Key Value : Type} [DecidableEq Key]

/-- Values for some keys; the last entry of a key counts. -/
abbrev Change (Key Value : Type) : Type := List (Key × Value)

namespace Change

def find (change : Change Key Value) (key : Key) : Option Value :=
  change.foldl (fun found entry => if entry.1 = key then some entry.2 else found) none

/-- The values after the change. -/
def apply (change : Change Key Value) (values : Key → Value) (key : Key) : Value :=
  (change.find key).getD (values key)

variable (change : Change Key Value) (key : Key)

@[simp] theorem find_nil : find ([] : Change Key Value) key = none := rfl

theorem foldl_find (found : Option Value) :
    change.foldl (fun found entry => if entry.1 = key then some entry.2 else found) found =
      (change.find key).or found := by
  unfold find
  induction change generalizing found with
  | nil => rfl
  | cons entry rest ih =>
    rw [List.foldl_cons, List.foldl_cons, ih,
      ih (if entry.1 = key then some entry.2 else none)]
    split
    · simp
    · simp

theorem find_append (first second : Change Key Value) (key : Key) :
    (first ++ second).find key = (second.find key).or (first.find key) := by
  rw [find, List.foldl_append, foldl_find]
  rfl

theorem apply_append (first second : Change Key Value) (values : Key → Value) (key : Key) :
    (first ++ second).apply values key = second.apply (first.apply values) key := by
  rw [apply, find_append, apply]
  cases second.find key <;> rfl

theorem find_cons (entry : Key × Value) (rest : Change Key Value) (key : Key) :
    find (entry :: rest) key =
      (rest.find key).or (if entry.1 = key then some entry.2 else none) := by
  rw [find, List.foldl_cons, foldl_find]

theorem find_isSome_iff :
    (change.find key).isSome = true ↔ key ∈ change.map Prod.fst := by
  induction change with
  | nil => simp
  | cons entry rest ih =>
    rw [find_cons, Option.isSome_or, Bool.or_eq_true, ih, List.map_cons,
      List.mem_cons, or_comm]
    refine or_congr_left ?_
    split
    · next same => simp [same]
    · next different => simpa using Ne.symm different

theorem find_eq_none_iff :
    change.find key = none ↔ key ∉ change.map Prod.fst := by
  rw [← find_isSome_iff, Option.not_isSome_iff_eq_none]

/-- In a change that mentions each key once, `find` is membership. -/
theorem find_eq_some_iff {change : Change Key Value} (nodup : (change.map Prod.fst).Nodup)
    (key : Key) (value : Value) : change.find key = some value ↔ (key, value) ∈ change := by
  induction change with
  | nil => simp
  | cons entry rest ih =>
    obtain ⟨fresh, restNodup⟩ := List.nodup_cons.mp nodup
    rw [find_cons, List.mem_cons, ← ih restNodup]
    by_cases same : entry.1 = key
    · subst same
      rw [(find_eq_none_iff rest entry.1).mpr fresh]
      simp [Prod.ext_iff, eq_comm]
    · have different : (key, value) ≠ entry := by
        rintro rfl
        exact same rfl
      simp [same, different]

section MapKeys

variable {OtherKey : Type} [DecidableEq OtherKey]
variable {rename : Key → OtherKey}

/-- The same values under other keys. -/
def mapKeys (rename : Key → OtherKey) (change : Change Key Value) : Change OtherKey Value :=
  change.map fun entry => (rename entry.1, entry.2)

theorem find_mapKeys (injective : Function.Injective rename)
    (change : Change Key Value) (key : Key) :
    (change.mapKeys rename).find (rename key) = change.find key := by
  induction change with
  | nil => rfl
  | cons entry rest ih =>
    change find ((rename entry.1, entry.2) :: mapKeys rename rest) (rename key) = _
    rw [find_cons, find_cons, ih]
    simp [injective.eq_iff]

omit [DecidableEq Key] in
theorem find_mapKeys_of_ne {other : OtherKey} (different : ∀ key, rename key ≠ other)
    (change : Change Key Value) :
    (change.mapKeys rename).find other = none := by
  rw [find_eq_none_iff]
  intro member
  obtain ⟨_, renamed, rfl⟩ := List.mem_map.mp member
  obtain ⟨entry, _, rfl⟩ := List.mem_map.mp renamed
  exact different entry.1 rfl

end MapKeys

/-- Entries that are put into a table. -/
def puts (entries : List (Key × Value)) : Change Key (Option Value) :=
  entries.map fun entry => (entry.1, some entry.2)

/-- Keys that are erased from a table. -/
def drops (keys : List Key) : Change Key (Option Value) :=
  keys.map fun key => (key, none)

omit [DecidableEq Key] in
theorem puts_keys (entries : List (Key × Value)) :
    (puts entries).map Prod.fst = entries.map Prod.fst := by
  simp [puts]

theorem find_drops (keys : List Key) (key : Key) :
    (drops keys : Change Key (Option Value)).find key = if key ∈ keys then some none else none := by
  induction keys with
  | nil => rfl
  | cons dropped rest ih =>
    change find ((dropped, none) :: drops rest) key = _
    rw [find_cons, ih]
    by_cases later : key ∈ rest
    · simp [later]
    · simp [later, eq_comm]

end Change

namespace Table

/-- Put entries into the table, replacing what is there. -/
def setAll (entries : List (Key × Value)) (table : Table Key Value) : Table Key Value :=
  entries.foldl (fun table entry => table.insert entry.1 entry.2) table

theorem lookup_setAll (entries : List (Key × Value)) (table : Table Key Value) (key : Key) :
    (table.setAll entries).lookup key =
      (Change.puts entries).apply (fun key => table.lookup key) key := by
  induction entries generalizing table with
  | nil => rfl
  | cons entry rest ih =>
    change (setAll rest (table.insert entry.1 entry.2)).lookup key =
      (Change.find ((entry.1, some entry.2) :: Change.puts rest) key).getD _
    rw [ih, Change.find_cons, Change.apply, lookup_insert_ite]
    by_cases same : key = entry.1
    · subst same
      cases (Change.puts rest).find entry.1 <;> simp
    · simp [same, Ne.symm same]

/-- A change that puts all entries of a table says of every key what the table says. -/
theorem find_puts_entries (table : Table Key Value) (key : Key) :
    (Change.puts (table.entries.map fun entry => (entry.1, entry.2))).find key =
      (table.lookup key).map some := by
  have keys : (Change.puts (table.entries.map fun entry => (entry.1, entry.2))).map Prod.fst =
      table.keys := by
    rw [Change.puts_keys, List.map_map]
    rfl
  rcases found : table.lookup key with _ | value
  · rw [Option.map_none, Change.find_eq_none_iff, keys]
    exact AList.lookup_eq_none.mp found
  · rw [Option.map_some, Change.find_eq_some_iff (keys ▸ table.keys_nodup)]
    have entry : (⟨key, value⟩ : Sigma fun _ => Value) ∈ table.entries :=
      AList.mem_lookup_iff.mp found
    exact List.mem_map.mpr ⟨_, List.mem_map.mpr ⟨_, entry, rfl⟩, rfl⟩

theorem lookup_eraseAll_eq_apply (keys : List Key) (table : Table Key Value) (key : Key) :
    (table.eraseAll keys).lookup key =
      (Change.drops keys).apply (fun key => table.lookup key) key := by
  rw [lookup_eraseAll, Change.apply, Change.find_drops]
  split <;> rfl

end Table

end

/-!
## Replicas kept up to date by messages

A store is changed by several threads. Each of them announces its change in a
message of its own, some time after the change; a replica applies the messages in
the order they arrive, and somewhere among them a copy of the whole store.

The replica agrees with the store on every key that no message under way mentions
(`Replica.Agrees`), as long as no message is delivered that gives a key a value
which the store does not have and which nobody is about to correct
(`Replica.Timely`).
-/

variable {Thread Key Value : Type} [DecidableEq Key]

/-- A store, what a replica has of it, and the messages that are under way. -/
structure Replica (Thread Key Value : Type) where
  store : Key → Value
  view : Key → Value
  pending : Thread → Change Key Value
  /-- A copy of the store was taken for the replica. -/
  complete : Bool

namespace Replica

variable {replica : Replica Thread Key Value} {blank : Value} {thread : Thread}

/-- No message under way mentions the key. -/
def Quiet (replica : Replica Thread Key Value) (key : Key) : Prop :=
  ∀ thread, (replica.pending thread).find key = none

/-- A key that no message under way mentions has the store's value, or is still
missing before the copy is taken. -/
def Agrees (blank : Value) (replica : Replica Thread Key Value) : Prop :=
  ∀ key, replica.Quiet key → replica.view key = replica.store key ∨
    replica.complete = false ∧ replica.view key = blank

/-- Each value in the thread's message is the store's, or will be replaced by
another message or by the copy. -/
def Timely (blank : Value) (replica : Replica Thread Key Value) (thread : Thread) : Prop :=
  ∀ key ∈ (replica.pending thread).map Prod.fst,
    (replica.pending thread).find key = some (replica.store key) ∨
      (replica.complete = false ∧ (replica.pending thread).find key = some blank) ∨
      ∃ other, other ≠ thread ∧ key ∈ (replica.pending other).map Prod.fst

instance [Fintype Thread] [DecidableEq Thread] [DecidableEq Value] (blank : Value)
    (replica : Replica Thread Key Value) (thread : Thread) :
    Decidable (replica.Timely blank thread) :=
  inferInstanceAs (Decidable (∀ _ ∈ _, _))

section Steps

variable [DecidableEq Thread]

theorem quiet_of_update {change : Change Key Value} {key : Key} (quiet : ∀ other,
    (Function.update replica.pending thread change other).find key = none) :
    change.find key = none ∧ ∀ other, other ≠ thread → (replica.pending other).find key = none := by
  refine ⟨by simpa using quiet thread, fun other different => ?_⟩
  simpa [different] using quiet other

/-- A thread changes the store and has its change to announce. -/
theorem Agrees.publish (agrees : replica.Agrees blank) (idle : replica.pending thread = [])
    {store : Key → Value} {change : Change Key Value}
    (same : ∀ key, change.find key = none → store key = replica.store key) :
    Agrees blank { replica with
      store := store
      pending := Function.update replica.pending thread change } := by
  intro key quiet
  obtain ⟨unmentioned, others⟩ := quiet_of_update quiet
  change replica.view key = store key ∨ _
  rw [same key unmentioned]
  apply agrees
  intro other
  by_cases here : other = thread
  · rw [here, idle]
    rfl
  · exact others other here

/-- A message arrives in time. -/
theorem Agrees.deliver (agrees : replica.Agrees blank) (timely : replica.Timely blank thread) :
    Agrees blank { replica with
      view := (replica.pending thread).apply replica.view
      pending := Function.update replica.pending thread [] } := by
  intro key quiet
  obtain ⟨_, others⟩ := quiet_of_update quiet
  change ((replica.pending thread).find key).getD (replica.view key) = replica.store key ∨ _ ∧
    ((replica.pending thread).find key).getD (replica.view key) = blank
  by_cases mentioned : key ∈ (replica.pending thread).map Prod.fst
  · rcases timely key mentioned with current | ⟨incomplete, missing⟩ | ⟨other, different, corrects⟩
    · rw [current]
      exact .inl rfl
    · rw [missing]
      exact .inr ⟨incomplete, rfl⟩
    · rw [← Change.find_isSome_iff, others other different] at corrects
      cases corrects
  · have unmentioned : (replica.pending thread).find key = none := by
      rwa [← Option.not_isSome_iff_eq_none, Change.find_isSome_iff]
    rw [unmentioned]
    apply agrees
    intro other
    by_cases here : other = thread
    · rw [here, unmentioned]
    · exact others other here

/-- A thread takes a copy of the store, which it will send. -/
theorem Agrees.copy (agrees : replica.Agrees blank) (idle : replica.pending thread = [])
    {change : Change Key Value}
    (covers : ∀ key, change.find key = none → replica.store key = blank) :
    Agrees blank { replica with
      pending := Function.update replica.pending thread change
      complete := true } := by
  intro key quiet
  obtain ⟨unmentioned, others⟩ := quiet_of_update quiet
  have before : replica.Quiet key := by
    intro other
    by_cases here : other = thread
    · rw [here, idle]
      rfl
    · exact others other here
  refine .inl ?_
  rcases agrees key before with same | ⟨_, missing⟩
  · exact same
  · exact missing.trans (covers key unmentioned).symm

end Steps

/-- A replica that has nothing yet agrees whatever happens to the store. -/
theorem agrees_of_blank (incomplete : replica.complete = false)
    (missing : ∀ key, replica.view key = blank) : replica.Agrees blank :=
  fun key _ => .inr ⟨incomplete, missing key⟩

/-- When no message is under way, a replica that got its copy is the store. -/
theorem Agrees.settled (agrees : replica.Agrees blank) (complete : replica.complete = true)
    (settled : ∀ thread, replica.pending thread = []) : replica.view = replica.store := by
  funext key
  have quiet : replica.Quiet key := fun thread => by rw [settled thread]; rfl
  refine (agrees key quiet).resolve_right ?_
  rw [complete]
  exact fun impossible => absurd impossible.1 (by simp)

end Replica

end CoBridge.Library
