import Mathlib.Data.String.Basic
import Mathlib.Data.List.Basic

/-!
# Texts of ASCII characters

A list of bytes below 128 is the encoding of the string with one character for each byte.
-/

namespace CoBridge.Library

/-- The string with one character for each byte. -/
def asciiText (bytes : List UInt8) : String :=
  String.ofList (bytes.map fun byte => Char.ofNat byte.toNat)

theorem byteArray_toListLoop (bytes : ByteArray) (index : Nat) (collected : List UInt8) :
    ByteArray.toList.loop bytes index collected =
      collected.reverse ++ bytes.data.toList.drop index := by
  fun_induction ByteArray.toList.loop with
  | case1 index collected inside ih =>
    have inData : index < bytes.data.toList.length := inside
    have current : bytes.get! index = bytes.data.toList[index] := by
      exact getElem!_pos bytes.data index inside
    rw [ih, current, List.drop_eq_getElem_cons inData]
    simp
  | case2 index collected outside =>
    have finished : bytes.data.toList.length ≤ index := Nat.le_of_not_lt outside
    rw [List.drop_eq_nil_of_le finished, List.append_nil]

theorem toList_toByteArray (bytes : List UInt8) : bytes.toByteArray.toList = bytes := by
  rw [ByteArray.toList, byteArray_toListLoop, List.data_toByteArray]
  simp

/-- An ASCII text is encoded by its own bytes. -/
theorem toUTF8_asciiText {bytes : List UInt8} (ascii : ∀ byte ∈ bytes, byte < 128) :
    (asciiText bytes).toUTF8.toList = bytes := by
  have single (byte : UInt8) (small : byte < 128) :
      String.utf8EncodeChar (Char.ofNat byte.toNat) = [byte] := by
    have places : ∀ place : Fin 128,
        String.utf8EncodeChar (Char.ofNat (UInt8.ofNat place).toNat) = [UInt8.ofNat place] := by
      decide +kernel
    simpa using places ⟨byte.toNat, small⟩
  have encoded : (bytes.map fun byte => Char.ofNat byte.toNat).flatMap String.utf8EncodeChar =
      bytes := by
    induction bytes with
    | nil => rfl
    | cons byte rest ih =>
      rw [List.map_cons, List.flatMap_cons, single byte (ascii byte List.mem_cons_self),
        ih fun later member => ascii later (List.mem_cons_of_mem _ member)]
      rfl
  rw [asciiText, String.toUTF8, String.toByteArray_ofList, List.utf8Encode, encoded,
    toList_toByteArray]

/-!
## Searching and replacing

The first occurrence of a pattern, and the loop that replaces one occurrence after the other
in place. The loop searches on from where it has replaced, so it looks at the replacement
again. `replacePass` reads the text once; both agree when no occurrence can start inside the
replacement.
-/

variable {Symbol : Type} [BEq Symbol]

/-- The first place where the pattern occurs. -/
def findIn (pattern : List Symbol) : List Symbol → Option Nat
  | [] => if pattern.isEmpty then some 0 else none
  | symbol :: rest =>
    if pattern.isPrefixOf (symbol :: rest) then some 0
    else (findIn pattern rest).map (· + 1)

/-- The first place from `position` on. -/
def findFrom (pattern text : List Symbol) (position : Nat) : Option Nat :=
  (findIn pattern (text.drop position)).map (· + position)

/-- Replace occurrences until there is none, for as many rounds as there is fuel. -/
def replaceLoop (pattern replacement : List Symbol) :
    (fuel : Nat) → (text : List Symbol) → (position : Nat) → Option (List Symbol)
  | 0, _, _ => none
  | fuel + 1, text, position =>
    match findFrom pattern text position with
    | none => some text
    | some found =>
      replaceLoop pattern replacement fuel
        (text.take found ++ replacement ++ text.drop (found + pattern.length)) found

/-- Replace in one pass; `passing` symbols belong to an occurrence. -/
def replacePass (pattern replacement : List Symbol) : (passing : Nat) → List Symbol → List Symbol
  | _, [] => []
  | passing + 1, _ :: rest => replacePass pattern replacement passing rest
  | 0, symbol :: rest =>
    if pattern.isPrefixOf (symbol :: rest) then
      replacement ++ replacePass pattern replacement (pattern.length - 1) rest
    else symbol :: replacePass pattern replacement 0 rest

variable {head : Symbol} {tail replacement : List Symbol}
variable {pattern text : List Symbol}

/-- The text around the first occurrence. -/
theorem findIn_split [LawfulBEq Symbol] {found : Nat} (occurs : findIn pattern text = some found) :
    ∃ before after, text = before ++ pattern ++ after ∧ before.length = found := by
  induction text generalizing found with
  | nil =>
    rw [findIn] at occurs
    split at occurs
    next empty =>
      cases occurs
      exact ⟨[], [], by rw [List.isEmpty_iff.mp empty]; rfl, rfl⟩
    next inhabited => cases occurs
  | cons symbol rest ih =>
    rw [findIn] at occurs
    split at occurs
    next here =>
      cases occurs
      obtain ⟨after, split⟩ := List.isPrefixOf_iff_prefix.mp here
      exact ⟨[], after, split.symm, rfl⟩
    next notHere =>
      obtain ⟨place, later, rfl⟩ := Option.map_eq_some_iff.mp occurs
      obtain ⟨before, after, rfl, rfl⟩ := ih later
      exact ⟨symbol :: before, after, rfl, rfl⟩

theorem replacePass_passing (pattern replacement : List Symbol) (passing : Nat)
    (text : List Symbol) :
    replacePass pattern replacement passing text =
      replacePass pattern replacement 0 (text.drop passing) := by
  induction text generalizing passing with
  | nil =>
    cases passing <;> rfl
  | cons symbol rest ih =>
    cases passing with
    | zero => rfl
    | succ passing =>
      rw [replacePass, ih]
      rfl

theorem replacePass_of_none (absent : findIn pattern text = none) (replacement : List Symbol) :
    replacePass pattern replacement 0 text = text := by
  induction text with
  | nil => rfl
  | cons symbol rest ih =>
    rw [findIn] at absent
    split at absent
    next here => cases absent
    next notHere =>
      rw [replacePass, if_neg notHere, ih (Option.map_eq_none_iff.mp absent)]

/-- An occurrence behind the first symbol. -/
theorem findIn_later {symbol : Symbol} {place : Nat}
    (occurs : findIn pattern (symbol :: text) = some (place + 1)) :
    ¬ pattern.isPrefixOf (symbol :: text) ∧ findIn pattern text = some place := by
  rw [findIn] at occurs
  split at occurs
  next here => cases occurs
  next notHere =>
    obtain ⟨other, later, same⟩ := Option.map_eq_some_iff.mp occurs
    exact ⟨notHere, Nat.succ.inj same ▸ later⟩

theorem replacePass_of_some {before after : List Symbol}
    (occurs : findIn (head :: tail) (before ++ (head :: tail) ++ after) = some before.length) :
    replacePass (head :: tail) replacement 0 (before ++ (head :: tail) ++ after) =
      before ++ replacement ++ replacePass (head :: tail) replacement 0 after := by
  induction before with
  | nil =>
    rw [List.nil_append, List.cons_append, findIn] at occurs
    split at occurs
    next here =>
      rw [List.nil_append, List.cons_append, replacePass, if_pos here, replacePass_passing]
      simp
    next notHere => simp at occurs
  | cons symbol before ih =>
    rw [List.cons_append, List.cons_append] at occurs
    obtain ⟨notHere, later⟩ := findIn_later occurs
    rw [List.cons_append, List.cons_append, replacePass, if_neg notHere,
      ih later]
    rfl

/-- Symbols that no occurrence starts with are copied. -/
theorem replacePass_append [LawfulBEq Symbol] {copied : List Symbol} (other : head ∉ copied)
    (rest : List Symbol) :
    replacePass (head :: tail) replacement 0 (copied ++ rest) =
      copied ++ replacePass (head :: tail) replacement 0 rest := by
  induction copied with
  | nil => rfl
  | cons symbol copied ih =>
    obtain ⟨different, others⟩ := not_or.mp (mt List.mem_cons.mpr other)
    have notHere : ¬ (head :: tail).isPrefixOf (symbol :: (copied ++ rest)) := by
      rw [List.isPrefixOf_iff_prefix, List.cons_prefix_cons]
      exact fun both => different both.1
    rw [List.cons_append, replacePass, if_neg notHere, ih others,
      List.cons_append]

/-- With more fuel than there are symbols an occurrence can start with, the loop ends with
the text that one pass gives. -/
theorem replaceLoop_eq [LawfulBEq Symbol] (fresh : head ∉ replacement) {fuel : Nat}
    (done remaining : List Symbol) (enough : remaining.count head < fuel) :
    replaceLoop (head :: tail) replacement fuel (done ++ remaining) done.length =
      some (done ++ replacePass (head :: tail) replacement 0 remaining) := by
  induction fuel generalizing done remaining with
  | zero => exact absurd enough (Nat.not_lt_zero _)
  | succ fuel ih =>
    rw [replaceLoop, findFrom, List.drop_left]
    cases occurs : findIn (head :: tail) remaining with
    | none =>
      rw [replacePass_of_none occurs]
      rfl
    | some place =>
      obtain ⟨before, after, rfl, rfl⟩ := findIn_split occurs
      -- the search goes on at the replacement, which no occurrence starts in
      have fewer : (replacement ++ after).count head < fuel := by
        rw [List.count_append, List.count_eq_zero_of_not_mem fresh]
        simp only [List.count_append, List.count_cons_self] at enough
        omega
      have whole : done ++ (before ++ (head :: tail) ++ after) =
          (done ++ before) ++ ((head :: tail) ++ after) := by
        simp
      have place : before.length + done.length = (done ++ before).length := by
        rw [List.length_append, Nat.add_comm]
      have text : (done ++ (before ++ (head :: tail) ++ after)).take
            (before.length + done.length) ++ replacement ++
          (done ++ (before ++ (head :: tail) ++ after)).drop
            (before.length + done.length + (head :: tail).length) =
          (done ++ before) ++ (replacement ++ after) := by
        rw [whole, place, List.take_left, ← List.drop_drop, List.drop_left, List.drop_left,
          List.append_assoc]
      rw [Option.map_some]
      change replaceLoop _ _ fuel _ _ = _
      rw [text, place, ih _ _ fewer, replacePass_of_some occurs,
        replacePass_append fresh]
      simp

end CoBridge.Library
