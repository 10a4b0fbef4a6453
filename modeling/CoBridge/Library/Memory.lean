import Mathlib.Data.Nat.Digits.Lemmas

/-!
# Bytes in memory

A pointer to a block is the list of what the block holds, and an access is `none` outside of
it; a block that is written from front to back ends up with the pieces in a row. Numbers
are stored in a byte order; `littleBytes` has the least significant byte first.
-/

namespace CoBridge.Library

section Blocks

variable {Item : Type} {block piece : List Item} {offset count : Nat}

/-- Copy out of a block. -/
def load (block : List Item) (offset count : Nat) : Option (List Item) :=
  if offset + count ≤ block.length then some ((block.drop offset).take count) else none

/-- Copy into a block. -/
def store (block : List Item) (offset : Nat) (piece : List Item) : Option (List Item) :=
  if offset + piece.length ≤ block.length then
    some (block.take offset ++ piece ++ block.drop (offset + piece.length))
  else
    none

theorem load_eq_some (fits : offset + count ≤ block.length) :
    load block offset count = some ((block.drop offset).take count) :=
  if_pos fits

/-- A piece of a block. -/
theorem load_piece (before after : List Item) (split : block = before ++ piece ++ after)
    (offsets : offset = before.length) (counts : count = piece.length) :
    load block offset count = some piece := by
  subst split offsets counts
  rw [load_eq_some (by simp)]
  simp

/-- A copy begins with its first item. -/
theorem load_succ : load block offset (count + 1) =
    (block[offset]?).bind fun item => (load block (offset + 1) count).map (item :: ·) := by
  by_cases inside : offset < block.length
  · rw [List.getElem?_eq_getElem inside, Option.bind_some]
    by_cases fits : offset + 1 + count ≤ block.length
    · rw [load_eq_some fits, load_eq_some (by omega), Option.map_some,
        List.drop_eq_getElem_cons inside, List.take_succ_cons]
    · simp [load, fits, show ¬ offset + (count + 1) ≤ block.length by omega]
  · simp [load, List.getElem?_eq_none (Nat.le_of_not_lt inside),
      show ¬ offset + (count + 1) ≤ block.length by omega]

theorem load_zero (fits : offset ≤ block.length) : load block offset 0 = some [] := by
  simp [load, fits]

/-- A piece that fills the block. -/
theorem store_all (sized : block.length = piece.length) : store block 0 piece = some piece := by
  simp [store, sized]

/-- Two pieces one behind the other. -/
theorem store_bind_store {first second : List Item} {behind : Nat}
    (follows : behind = offset + first.length) :
    ((store block offset first).bind fun next => store next behind second) =
      store block offset (first ++ second) := by
  subst follows
  by_cases fits : offset + (first ++ second).length ≤ block.length
  · rw [List.length_append] at fits
    have inside : offset + first.length ≤ block.length := by omega
    have unchanged : (block.take offset ++ first ++ block.drop (offset + first.length)).length =
        block.length := by
      simp
      omega
    have front : offset + first.length = (block.take offset ++ first).length := by
      simp
      omega
    have rest : (block.take offset ++ first ++ block.drop (offset + first.length)).drop
        (offset + first.length + second.length) =
        block.drop (offset + (first ++ second).length) := by
      rw [List.drop_append, List.drop_eq_nil_of_le (by omega), List.nil_append, List.drop_drop,
        ← front, List.length_append]
      congr 1
      omega
    rw [store, if_pos inside, Option.bind_some, store, if_pos (by omega), store,
      if_pos (by rw [List.length_append]; omega), rest, front, List.take_left' rfl]
    simp
  · rw [store.eq_def block offset (first ++ second), if_neg fits]
    rw [List.length_append] at fits
    by_cases inside : offset + first.length ≤ block.length
    · rw [store, if_pos inside, Option.bind_some, store, if_neg]
      simp
      omega
    · rw [store, if_neg inside, Option.bind_none]

end Blocks

section Numbers

/-- The number that bytes stand for, the least significant first. -/
def littleValue (bytes : List UInt8) : Nat := Nat.ofDigits 256 (bytes.map UInt8.toNat)

/-- The lowest bytes of a number, the least significant first. -/
def littleBytes : (count value : Nat) → List UInt8
  | 0, _ => []
  | count + 1, value => UInt8.ofNat value :: littleBytes count (value / 256)

@[simp] theorem length_littleBytes (count value : Nat) :
    (littleBytes count value).length = count := by
  induction count generalizing value with
  | zero => rfl
  | succ count ih => simp [littleBytes, ih]

@[simp] theorem littleValue_nil : littleValue [] = 0 := rfl

@[simp] theorem littleValue_cons (byte : UInt8) (rest : List UInt8) :
    littleValue (byte :: rest) = byte.toNat + 256 * littleValue rest := by
  simp [littleValue, Nat.ofDigits_cons]

theorem littleValue_lt (bytes : List UInt8) : littleValue bytes < 256 ^ bytes.length := by
  have bound := Nat.ofDigits_lt_base_pow_length (b := 256) (l := bytes.map UInt8.toNat)
    (by omega) (by
      intro digit member
      obtain ⟨byte, _, rfl⟩ := List.mem_map.mp member
      exact byte.toNat_lt)
  simpa [littleValue] using bound

theorem littleValue_littleBytes (count value : Nat) :
    littleValue (littleBytes count value) = value % 256 ^ count := by
  induction count generalizing value with
  | zero => simp [littleBytes, Nat.mod_one]
  | succ count ih =>
    have low : (UInt8.ofNat value).toNat = value % 256 := UInt8.toNat_ofNat'
    rw [littleBytes, littleValue_cons, ih, low, Nat.pow_succ', Nat.mod_mul]

theorem littleBytes_littleValue (bytes : List UInt8) :
    littleBytes bytes.length (littleValue bytes) = bytes := by
  induction bytes with
  | nil => rfl
  | cons byte rest ih =>
    have small : byte.toNat < 256 := byte.toNat_lt
    have low : UInt8.ofNat (byte.toNat + 256 * littleValue rest) = byte := by
      apply UInt8.toNat_inj.mp
      rw [UInt8.toNat_ofNat']
      omega
    have high : (byte.toNat + 256 * littleValue rest) / 256 = littleValue rest := by omega
    rw [List.length_cons, littleBytes, littleValue_cons, low, high, ih]

/-- The byte order of a host's loads and stores. -/
inductive ByteOrder where
  | littleEndian
  | bigEndian
deriving DecidableEq, Repr

/-- The bytes in memory, the least significant first, or back. -/
def ByteOrder.arrange : ByteOrder → List UInt8 → List UInt8
  | .littleEndian, bytes => bytes
  | .bigEndian, bytes => bytes.reverse

/-- The 32-bit word with the given bytes, the least significant first. -/
def littleWord (bytes : List UInt8) : UInt32 := UInt32.ofNat (littleValue bytes)

/-- The bytes of a 32-bit word, the least significant first. -/
def wordBytes (word : UInt32) : List UInt8 := littleBytes 4 word.toNat

@[simp] theorem length_wordBytes (word : UInt32) : (wordBytes word).length = 4 :=
  length_littleBytes 4 _

@[simp] theorem littleWord_wordBytes (word : UInt32) : littleWord (wordBytes word) = word := by
  have small : word.toNat < 256 ^ 4 := word.toNat_lt
  rw [littleWord, wordBytes, littleValue_littleBytes, Nat.mod_eq_of_lt small, UInt32.ofNat_toNat]

theorem toNat_littleWord {bytes : List UInt8} (four : bytes.length = 4) :
    (littleWord bytes).toNat = littleValue bytes := by
  have bound := littleValue_lt bytes
  rw [four] at bound
  exact Nat.mod_eq_of_lt bound

theorem wordBytes_littleWord {bytes : List UInt8} (four : bytes.length = 4) :
    wordBytes (littleWord bytes) = bytes := by
  have same := littleBytes_littleValue bytes
  rwa [four, ← toNat_littleWord four] at same

/-- A native load of a 32-bit word. -/
def ByteOrder.loadWord (host : ByteOrder) (block : List UInt8) (offset : Nat) : Option UInt32 :=
  (load block offset 4).map fun bytes => littleWord (host.arrange bytes)

/-- A native store of a 32-bit word. -/
def ByteOrder.storeWord (host : ByteOrder) (block : List UInt8) (offset : Nat) (word : UInt32) :
    Option (List UInt8) :=
  store block offset (host.arrange (wordBytes word))

end Numbers

end CoBridge.Library
