import Mathlib.Algebra.Group.Int.Defs
import Mathlib.Algebra.Group.Nat.Defs
import CoBridge.Transport.SendQueue

/-!
# Messages that waited for too long

A connection may drop a message that is not reliable and has waited for 100 ms. The readings
of the clock are signed, and `write_push` and `write_pop` convert them before they subtract
them, so the age that decides is the exact one modulo `2 ^ 64`.

`write_pop` does what it is for unless every queued message is late, for then the last of
them is still in the variable that it returns. If the clock was set back after a push, the
age wraps round and the message is dropped however fresh it is.
-/

namespace CoBridge.Transport

/-- The reading of the clock that a time stamp was converted from. -/
def reading (time : UInt64) : Int := time.toInt64.toInt

namespace Queued

/-- How long ago a message was pushed, in exact arithmetic. -/
def age (now : UInt64) (entry : Queued) : Int := reading now - reading entry.time

/-- May be dropped: not reliable, and at least 100 ms old. -/
def isStale (now : UInt64) (entry : Queued) : Bool :=
  !entry.reliable && decide (100 ≤ entry.age now)

/-- The clock shows less than at the push, but not so much less that the unsigned age comes
round to less than 100 again. -/
def SetBack (now : UInt64) (entry : Queued) : Prop :=
  entry.reliable = false ∧ entry.age now < 0 ∧ 100 - 2 ^ 64 ≤ entry.age now

end Queued

variable {now : UInt64} {entry taken : Queued} {dropped left : List Queued} {con : Connection}

theorem toNat_eq_reading (time : UInt64) : (time.toNat : Int) = reading time % 2 ^ 64 := by
  have signed : reading time = (time.toNat : Int).bmod (2 ^ 64) :=
    BitVec.toInt_eq_toNat_bmod time.toBitVec
  have wrapped : (time.toNat : Int).bmod (2 ^ 64) % ((2 ^ 64 : Nat) : Int) = _ := Int.bmod_emod
  have bounded : time.toNat < 2 ^ 64 := time.toNat_lt
  omega

/-- The difference that the loop computes. -/
theorem toNat_sub_eq_age (now : UInt64) (entry : Queued) :
    ((now - entry.time).toNat : Int) = entry.age now % 2 ^ 64 := by
  have difference : reading (now - entry.time) = (entry.age now).bmod (2 ^ 64) := by
    simp only [reading, UInt64.toInt64_sub, Int64.toInt_sub, Queued.age]
  have wrapped : (entry.age now).bmod (2 ^ 64) % ((2 ^ 64 : Nat) : Int) = _ := Int.bmod_emod
  rw [toNat_eq_reading, difference]
  omega

namespace Queued

theorem age_bounds (now : UInt64) (entry : Queued) :
    -2 ^ 64 < entry.age now ∧ entry.age now < 2 ^ 64 := by
  have nowLow : -2 ^ 63 ≤ reading now := Int64.le_toInt now.toInt64
  have nowHigh : reading now < 2 ^ 63 := Int64.toInt_lt now.toInt64
  have timeLow : -2 ^ 63 ≤ reading entry.time := Int64.le_toInt entry.time.toInt64
  have timeHigh : reading entry.time < 2 ^ 63 := Int64.toInt_lt entry.time.toInt64
  unfold age
  omega

theorem isPassedOver_iff :
    entry.isPassedOver now = true ↔ entry.reliable = false ∧ 100 ≤ entry.age now % 2 ^ 64 := by
  have unsigned : (now - entry.time < 100) ↔ entry.age now % 2 ^ 64 < 100 := by
    rw [UInt64.lt_iff_toNat_lt, ← toNat_sub_eq_age]
    exact Int.ofNat_lt.symm
  simp only [isPassedOver, Bool.not_eq_true', Bool.or_eq_false_iff, decide_eq_false_iff_not,
    unsigned, Int.not_lt]
  exact And.comm

theorem isStale_iff :
    entry.isStale now = true ↔ entry.reliable = false ∧ 100 ≤ entry.age now := by
  simp [isStale]

/-- What the loop passes over is late, or the clock went back. -/
theorem isPassedOver_iff_stale_or_setBack :
    entry.isPassedOver now = true ↔ entry.isStale now = true ∨ entry.SetBack now := by
  obtain ⟨low, high⟩ := age_bounds now entry
  rw [isPassedOver_iff, isStale_iff, SetBack, ← and_or_left]
  refine and_congr_right fun _ => ?_
  omega

/-- As long as the clock has not gone back the loop decides rightly. -/
theorem isPassedOver_eq_isStale (stamped : reading entry.time ≤ reading now) :
    entry.isPassedOver now = entry.isStale now := by
  have notBack : ¬ entry.SetBack now := by
    rintro ⟨-, negative, -⟩
    unfold age at negative
    omega
  rw [Bool.eq_iff_iff, isPassedOver_iff_stale_or_setBack]
  simp [notBack]

end Queued

/-- What `write_pop` is for: the message it should return and the queue it should leave. -/
def discardStale (now : UInt64) (queue : List Queued) : Option Message × List Queued :=
  match queue.dropWhile (Queued.isStale now) with
  | [] => (none, [])
  | entry :: rest => (some entry.message, rest)

theorem discardStale_all (stale : ∀ entry ∈ dropped, entry.isStale now = true) :
    discardStale now dropped = (none, []) := by
  rw [← List.append_nil dropped, discardStale, List.dropWhile_append_of_pos stale]
  rfl

theorem discardStale_append (stale : ∀ entry ∈ dropped, entry.isStale now = true)
    (current : taken.isStale now = false) :
    discardStale now (dropped ++ taken :: left) = (some taken.message, left) := by
  rw [discardStale, List.dropWhile_append_of_pos stale,
    List.dropWhile_cons_of_neg (by simp [current])]

/-- If the clock has not gone back, stale messages are dropped and none is returned exactly if
there is a message that is not stale, or none at all. -/
theorem stale_discarded_iff (now : UInt64) (con : Connection)
    (stamped : ∀ entry ∈ con.sendQueue, reading entry.time ≤ reading now) :
    (((writePop now con).1, (writePop now con).2.sendQueue) = discardStale now con.sendQueue ∧
        ∀ message, (writePop now con).1 = some message →
          ∃ entry ∈ con.sendQueue, entry.message = message ∧ entry.isStale now = false) ↔
      con.sendQueue = [] ∨ ∃ entry ∈ con.sendQueue, entry.isStale now = false := by
  rcases writePop_cases now con with ⟨empty, popped⟩ | ⟨dropped, taken, left, split, passed, ends,
    popped⟩
  · simp [popped, empty, discardStale]
  have stale : ∀ entry ∈ dropped, entry.isStale now = true := by
    intro entry member
    rw [← Queued.isPassedOver_eq_isStale (stamped entry (by simp [split, member]))]
    exact passed entry member
  have same : taken.isPassedOver now = taken.isStale now :=
    Queued.isPassedOver_eq_isStale (stamped taken (by simp [split]))
  rw [popped, split]
  cases current : taken.isStale now with
  | false =>
    have reached : ∃ entry ∈ dropped ++ taken :: left,
        entry.message = taken.message ∧ entry.isStale now = false :=
      ⟨taken, by simp, rfl, current⟩
    refine ⟨fun _ => .inr ⟨taken, by simp, current⟩, fun _ => ⟨?_, ?_⟩⟩
    · rw [discardStale_append stale current]
    · rintro message returned
      cases returned
      exact reached
  | true =>
    -- The loop ran out of entries, and returns the last one although it is stale.
    have out : left = [] := ends.resolve_left (by simp [same, current])
    have all : ∀ entry ∈ dropped ++ [taken], entry.isStale now = true := by
      simpa [or_imp, forall_and, current] using stale
    subst out
    refine ⟨fun holds => ?_, ?_⟩
    · rw [discardStale_all all] at holds
      simp at holds
    · rintro (nothing | ⟨entry, member, fresh⟩)
      · simp at nothing
      · rw [all entry member] at fresh
        cases fresh

/-- A message with one byte of payload. -/
def sampleMessage : Message := ⟨[], [1], false⟩

/-- One message that waited for 100 ms: it is returned. -/
theorem stale_message_returned : ∃ now con,
    (∀ entry ∈ con.sendQueue, reading entry.time ≤ reading now) ∧
      (∀ entry ∈ con.sendQueue, entry.isStale now = true) ∧
      (writePop now con).1 = some sampleMessage ∧ (discardStale now con.sendQueue).1 = none :=
  ⟨100, writePush 0 (some sampleMessage) false .initial, by decide, by decide, by decide, by decide⟩

/-- A late message before one that is in time. -/
theorem stale_discarded_second :
    ((writePop 100 (writePush 50 (some sampleMessage) false
        (writePush 0 (some sampleMessage) false .initial))).1 = some sampleMessage) ∧
      discardStale 100 [⟨0, sampleMessage, false⟩, ⟨50, sampleMessage, false⟩] =
        (some sampleMessage, []) := by
  have applied := (stale_discarded_iff 100 (writePush 50 (some sampleMessage) false
    (writePush 0 (some sampleMessage) false .initial)) (by decide)).mpr (.inr (by decide))
  exact ⟨congrArg Prod.fst applied.1, by decide⟩

/-- The entries that `write_pop` removes, without the last of them, which it returns. -/
def discarded (now : UInt64) (con : Connection) : List Queued :=
  (con.sendQueue.take (con.sendQueue.length - (writePop now con).2.sendQueue.length)).dropLast

theorem discarded_eq (split : con.sendQueue = dropped ++ taken :: left)
    (remains : (writePop now con).2.sendQueue = left) : discarded now con = dropped := by
  have removed : con.sendQueue.length - left.length = (dropped ++ [taken]).length := by
    simp only [split, List.length_append, List.length_cons, List.length_nil]
    omega
  rw [discarded, remains, removed, split, List.append_cons dropped taken left, List.take_left,
    List.dropLast_concat]

/-- An entry that is passed over with all before it is dropped, unless it is the last one. -/
theorem mem_of_passedOver {earlier later : List Queued}
    (same : dropped ++ taken :: left = earlier ++ entry :: later)
    (passed : ∀ before ∈ earlier ++ [entry], before.isPassedOver now = true)
    (ends : taken.isPassedOver now = false ∨ left = []) (more : later ≠ []) : entry ∈ dropped := by
  induction dropped generalizing earlier with
  | nil =>
    -- The loop would have ended at the first entry, for want of others.
    cases earlier with
    | nil =>
      obtain ⟨rfl, rfl⟩ := List.cons.inj same
      exact absurd (ends.resolve_left (by simp [passed taken (by simp)])) more
    | cons first earlier =>
      obtain ⟨rfl, rfl⟩ := List.cons.inj same
      have out := ends.resolve_left (by simp [passed taken (by simp)])
      simp at out
  | cons first dropped ih =>
    cases earlier with
    | nil =>
      obtain ⟨rfl, -⟩ := List.cons.inj same
      exact List.mem_cons_self
    | cons second earlier =>
      have shorter := (List.cons.inj same).2
      exact List.mem_cons_of_mem first (ih shorter
        fun before member => passed before (List.mem_cons_of_mem second member))

/-- A message is dropped only at the exact age of 100 ms, unless there is a first entry that
is not stale, is not reliable and not the last one, and after which the clock was set back. -/
theorem fresh_kept_iff (now : UInt64) (con : Connection) :
    (∀ entry ∈ discarded now con, entry.reliable = false → 100 ≤ entry.age now) ↔
      ∀ earlier entry later, con.sendQueue = earlier ++ entry :: later → later ≠ [] →
        (∀ before ∈ earlier, before.isStale now = true) → ¬ entry.SetBack now := by
  rcases writePop_cases now con with ⟨empty, popped⟩ | ⟨dropped, taken, left, split, passed, ends,
    popped⟩
  · simp [discarded, empty]
  rw [discarded_eq split (congrArg (fun result => result.2.sendQueue) popped)]
  constructor
  · intro kept earlier entry later queued more stale back
    have passedEntry : entry.isPassedOver now = true :=
      Queued.isPassedOver_iff_stale_or_setBack.mpr (.inr back)
    have passedEarlier : ∀ before ∈ earlier ++ [entry], before.isPassedOver now = true := by
      simpa [or_imp, forall_and, passedEntry] using fun before member =>
        Queued.isPassedOver_iff_stale_or_setBack.mpr (.inl (stale before member))
    have member : entry ∈ dropped :=
      mem_of_passedOver (split.symm.trans queued) passedEarlier ends more
    have fresh := kept entry member back.1
    have negative := back.2.1
    omega
  · intro condition
    have stale : ∀ seen, seen <+: dropped → ∀ entry ∈ seen, entry.isStale now = true := by
      intro seen
      induction seen using List.reverseRecOn with
      | nil => simp
      | append_singleton earlier entry ih =>
        rintro ⟨later, rfl⟩
        have before := ih ⟨entry :: later, by simp⟩
        have notBack := condition earlier entry (later ++ taken :: left) (by simp [split])
          (by simp) before
        have late : entry.isStale now = true :=
          (Queued.isPassedOver_iff_stale_or_setBack.mp (passed entry (by simp))).resolve_right
            notBack
        simpa [or_imp, forall_and, late] using before
    intro entry member _
    exact (Queued.isStale_iff.mp (stale dropped (List.prefix_refl dropped) entry member)).2

/-- Two messages, and the clock goes back by one millisecond: the first one is dropped. -/
theorem fresh_message_dropped : ∃ now con, ∃ entry ∈ discarded now con,
    entry.reliable = false ∧ entry.age now = -1 ∧ (writePop now con).2.sendQueue = [] :=
  ⟨0, writePush 1 (some sampleMessage) false (writePush 1 (some sampleMessage) false .initial),
    ⟨1, sampleMessage, false⟩, by decide, by decide, by decide, by decide⟩

end CoBridge.Transport
