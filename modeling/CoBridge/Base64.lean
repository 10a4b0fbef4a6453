import CoBridge.Parameter

/-!
# Base64

`base64_encode`, and that `base64_decode` undoes it. The decoder shifts six bits at a time
into a word that it never clears; what it takes out of the word depends only on the bits that
were shifted in last.
-/

namespace CoBridge

section

/-- `ALPHABET`. -/
def base64Alphabet : List UInt8 :=
  "ABCDEFGHIJKLMNOPQRSTUVWXYZabcdefghijklmnopqrstuvwxyz0123456789+/".toList.map fun letter =>
    UInt8.ofNat letter.toNat

/-- `ALPHABET[index]`; the array ends with a zero. -/
def base64Letter (index : UInt8) : UInt8 := base64Alphabet.getD index.toNat 0

/-- `base64_encode`, three bytes in each round of its loop. -/
def base64Encode : List UInt8 → List UInt8
  | b0 :: b1 :: b2 :: rest =>
    base64Letter (b0 >>> 2) :: base64Letter (((b0 &&& 0x03) <<< 4) ||| (b1 >>> 4)) ::
      base64Letter (((b1 &&& 0x0F) <<< 2) ||| (b2 >>> 6)) :: base64Letter (b2 &&& 0x3F) ::
      base64Encode rest
  | [b0, b1] =>
    [base64Letter (b0 >>> 2), base64Letter (((b0 &&& 0x03) <<< 4) ||| (b1 >>> 4)),
      base64Letter ((b1 &&& 0x0F) <<< 2), 0x3D]
  | [b0] => [base64Letter (b0 >>> 2), base64Letter ((b0 &&& 0x03) <<< 4), 0x3D, 0x3D]
  | [] => []

variable (input : List UInt8) (temp : UInt32)

theorem length_base64Encode :
    (base64Encode input).length = 4 * ((input.length + 2) / 3) := by
  fun_induction base64Encode with
  | case1 b0 b1 b2 rest ih =>
    simp only [List.length_cons, ih]
    omega
  | case2 | case3 | case4 => simp

/-- The decoder reads the letters of the alphabet as their places. -/
theorem sextet?_base64Letter {index : UInt8} (inside : index.toNat < 64) :
    sextet? (base64Letter index) = some index.toUInt32 := by
  have places : ∀ place : Fin 64, sextet? (base64Letter (UInt8.ofNat place)) =
      some (UInt8.ofNat place).toUInt32 := by decide +kernel
  simpa using places ⟨index.toNat, inside⟩

section Indices

variable {byte high low : UInt8} {mask shift : UInt8} (bits : Nat)

theorem toNat_mask (ones : mask.toNat = 2 ^ bits - 1) :
    (byte &&& mask).toNat = byte.toNat % 2 ^ bits := by
  rw [UInt8.toNat_and, ones, Nat.and_two_pow_sub_one_eq_mod]

theorem toNat_shiftDown (amount : shift.toNat = bits) (inside : bits < 8) :
    (byte >>> shift).toNat = byte.toNat / 2 ^ bits := by
  rw [UInt8.toNat_shiftRight, amount, Nat.mod_eq_of_lt inside, Nat.shiftRight_eq_div_pow]

theorem toNat_shiftUp (amount : shift.toNat = bits) (inside : bits < 8)
    (room : high.toNat * 2 ^ bits < 2 ^ 8) : (high <<< shift).toNat = high.toNat * 2 ^ bits := by
  rw [UInt8.toNat_shiftLeft, amount, Nat.mod_eq_of_lt inside, Nat.shiftLeft_eq,
    Nat.mod_eq_of_lt room]

theorem toNat_shiftUp_or (amount : shift.toNat = bits) (inside : bits < 8)
    (room : high.toNat * 2 ^ bits < 2 ^ 8) (small : low.toNat < 2 ^ bits) :
    ((high <<< shift) ||| low).toNat = high.toNat * 2 ^ bits + low.toNat := by
  rw [UInt8.toNat_or, toNat_shiftUp bits amount inside room, ← Nat.shiftLeft_eq,
    ← Nat.shiftLeft_add_eq_or_of_lt small]

end Indices

/-- The four places in the alphabet that three bytes are written as. -/
theorem toNat_places (b0 b1 b2 : UInt8) :
    (b0 >>> 2).toNat = b0.toNat / 4 ∧
      (((b0 &&& 0x03) <<< 4) ||| (b1 >>> 4)).toNat = b0.toNat % 4 * 16 + b1.toNat / 16 ∧
      (((b1 &&& 0x0F) <<< 2) ||| (b2 >>> 6)).toNat = b1.toNat % 16 * 4 + b2.toNat / 64 ∧
      (b2 &&& 0x3F).toNat = b2.toNat % 64 := by
  have small1 : b1.toNat < 2 ^ 8 := b1.toNat_lt
  have small2 : b2.toNat < 2 ^ 8 := b2.toNat_lt
  have two : (b0 &&& 0x03).toNat = b0.toNat % 4 := toNat_mask 2 rfl
  have four : (b1 &&& 0x0F).toNat = b1.toNat % 16 := toNat_mask 4 rfl
  have upper : (b1 >>> 4).toNat = b1.toNat / 16 := toNat_shiftDown 4 rfl (by omega)
  have top : (b2 >>> 6).toNat = b2.toNat / 64 := toNat_shiftDown 6 rfl (by omega)
  refine ⟨toNat_shiftDown 2 rfl (by omega), ?_, ?_, toNat_mask 6 rfl⟩
  · rw [toNat_shiftUp_or 4 rfl (by omega) (by omega) (by omega), two, upper]
    omega
  · rw [toNat_shiftUp_or 2 rfl (by omega) (by omega) (by omega), four, top]
    omega

/-- The word of the decoder with the place of one more letter shifted in. -/
def pushPlace (temp : UInt32) (index : UInt8) : UInt32 := (temp <<< 6) ||| index.toUInt32

/-- What was in the word moves up, and the highest bits are lost. -/
theorem pushPlace_low {index : UInt8} (kept : Nat) (fits : kept + 6 ≤ 32)
    (inside : index.toNat < 64) :
    (pushPlace temp index).toNat % 2 ^ (kept + 6) = temp.toNat % 2 ^ kept * 64 + index.toNat := by
  have shifted : (temp <<< 6).toNat = (temp.toNat % 2 ^ 26) <<< 6 := by
    rw [UInt32.toNat_shiftLeft, show UInt32.toNat 6 % 32 = 6 from rfl, Nat.shiftLeft_eq,
      Nat.shiftLeft_eq]
    omega
  have pushed : (pushPlace temp index).toNat = 64 * (temp.toNat % 2 ^ 26) + index.toNat := by
    rw [pushPlace, UInt32.toNat_or, shifted, UInt8.toNat_toUInt32,
      ← Nat.shiftLeft_add_eq_or_of_lt inside, Nat.shiftLeft_eq, Nat.mul_comm]
  have divides : 2 ^ kept ∣ 2 ^ 26 := Nat.pow_dvd_pow 2 (by omega)
  have upper : (64 * (temp.toNat % 2 ^ 26) + index.toNat) / 64 = temp.toNat % 2 ^ 26 := by omega
  rw [pushed, Nat.pow_add, Nat.mul_comm (2 ^ kept), Nat.mod_mul, show 2 ^ 6 = 64 from rfl, upper,
    Nat.mod_mod_of_dvd _ divides]
  omega

section Words

variable (temp : UInt32) {i0 i1 i2 i3 : UInt8}

theorem pushPlace_two (inside0 : i0.toNat < 64) (inside1 : i1.toNat < 64) :
    (pushPlace (pushPlace temp i0) i1).toNat % 2 ^ 12 = i0.toNat * 64 + i1.toNat := by
  have first := pushPlace_low temp 0 (by omega) inside0
  have second := pushPlace_low (pushPlace temp i0) 6 (by omega) inside1
  omega

theorem pushPlace_three (inside0 : i0.toNat < 64) (inside1 : i1.toNat < 64)
    (inside2 : i2.toNat < 64) :
    (pushPlace (pushPlace (pushPlace temp i0) i1) i2).toNat % 2 ^ 18 =
      (i0.toNat * 64 + i1.toNat) * 64 + i2.toNat := by
  have third := pushPlace_low (pushPlace (pushPlace temp i0) i1) 12 (by omega) inside2
  rw [pushPlace_two temp inside0 inside1] at third
  exact third

theorem pushPlace_four (inside0 : i0.toNat < 64) (inside1 : i1.toNat < 64)
    (inside2 : i2.toNat < 64) (inside3 : i3.toNat < 64) :
    (pushPlace (pushPlace (pushPlace (pushPlace temp i0) i1) i2) i3).toNat % 2 ^ 24 =
      ((i0.toNat * 64 + i1.toNat) * 64 + i2.toNat) * 64 + i3.toNat := by
  have fourth := pushPlace_low (pushPlace (pushPlace (pushPlace temp i0) i1) i2) 18 (by omega)
    inside3
  rw [pushPlace_three temp inside0 inside1 inside2] at fourth
  exact fourth

end Words

/-- A byte that is taken out of the word. -/
theorem toNat_takeByte (word : UInt32) {shift : UInt32} (bits : Nat)
    (amount : shift.toNat = bits) (inside : bits < 32) :
    (word >>> shift).toUInt8.toNat = word.toNat / 2 ^ bits % 256 := by
  rw [UInt32.toNat_toUInt8, UInt32.toNat_shiftRight, amount, Nat.mod_eq_of_lt inside,
    Nat.shiftRight_eq_div_pow]

/-- The bytes of a complete group. -/
theorem takeBytes {word : UInt32} {b0 b1 b2 : UInt8}
    (low : word.toNat % 2 ^ 24 = (b0.toNat * 256 + b1.toNat) * 256 + b2.toNat) :
    (word >>> 16).toUInt8 = b0 ∧ (word >>> 8).toUInt8 = b1 ∧ word.toUInt8 = b2 := by
  have small1 : b1.toNat < 2 ^ 8 := b1.toNat_lt
  have small2 : b2.toNat < 2 ^ 8 := b2.toNat_lt
  have first := toNat_takeByte word 16 (show UInt32.toNat 16 = 16 from rfl) (by omega)
  have second := toNat_takeByte word 8 (show UInt32.toNat 8 = 8 from rfl) (by omega)
  have third := UInt32.toNat_toUInt8 word
  simp only [← UInt8.toNat_inj]
  omega

/-- The word after the four letters of three bytes. -/
theorem pushPlace_bytes (b0 b1 b2 : UInt8) :
    (pushPlace (pushPlace (pushPlace (pushPlace temp (b0 >>> 2))
      (((b0 &&& 0x03) <<< 4) ||| (b1 >>> 4))) (((b1 &&& 0x0F) <<< 2) ||| (b2 >>> 6)))
      (b2 &&& 0x3F)).toNat % 2 ^ 24 = (b0.toNat * 256 + b1.toNat) * 256 + b2.toNat := by
  obtain ⟨first, second, third, fourth⟩ := toNat_places b0 b1 b2
  have small0 : b0.toNat < 2 ^ 8 := b0.toNat_lt
  have small1 : b1.toNat < 2 ^ 8 := b1.toNat_lt
  have small2 : b2.toNat < 2 ^ 8 := b2.toNat_lt
  rw [pushPlace_four temp (by omega) (by omega) (by omega) (by omega)]
  omega

/-- The only byte of a group with two padding characters. -/
theorem takeByte_alone (byte : UInt8) :
    (pushPlace (pushPlace (pushPlace temp (byte >>> 2))
      (((byte &&& 0x03) <<< 4) ||| ((0 : UInt8) >>> 4))) 0 >>> 10).toUInt8 = byte := by
  obtain ⟨first, second, _, _⟩ := toNat_places byte 0 0
  have small : byte.toNat < 2 ^ 8 := byte.toNat_lt
  have zero : UInt8.toNat 0 = 0 := rfl
  have low := pushPlace_three temp (show (byte >>> 2).toNat < 64 by omega)
    (show (((byte &&& 0x03) <<< 4) ||| ((0 : UInt8) >>> 4)).toNat < 64 by omega)
    (show UInt8.toNat 0 < 64 by omega)
  apply UInt8.toNat_inj.mp
  rw [toNat_takeByte _ 10 rfl (by omega)]
  omega

/-- Every place is one of the 64 letters. -/
theorem places_inside (b0 b1 b2 : UInt8) :
    (b0 >>> 2).toNat < 64 ∧ (((b0 &&& 0x03) <<< 4) ||| (b1 >>> 4)).toNat < 64 ∧
      (((b1 &&& 0x0F) <<< 2) ||| (b2 >>> 6)).toNat < 64 ∧ (b2 &&& 0x3F).toNat < 64 := by
  obtain ⟨first, second, third, fourth⟩ := toNat_places b0 b1 b2
  have small0 : b0.toNat < 2 ^ 8 := b0.toNat_lt
  have small1 : b1.toNat < 2 ^ 8 := b1.toNat_lt
  have small2 : b2.toNat < 2 ^ 8 := b2.toNat_lt
  omega

section Loop

variable {index : UInt8} {rest decoded : List UInt8} {position : Nat} {temp : UInt32}

/-- One of the first three letters of a group. -/
theorem base64DecodeLoop_letter (inside : index.toNat < 64) (early : position ≠ 3) :
    base64DecodeLoop (base64Letter index :: rest) position temp decoded =
      base64DecodeLoop rest (position + 1) (pushPlace temp index) decoded := by
  rw [base64DecodeLoop.eq_def]
  dsimp only
  rw [sextet?_base64Letter inside]
  exact if_neg early

/-- The letter that completes a group. -/
theorem base64DecodeLoop_complete (inside : index.toNat < 64) :
    base64DecodeLoop (base64Letter index :: rest) 3 temp decoded =
      base64DecodeLoop rest 0 (pushPlace temp index) (decoded ++
        [(pushPlace temp index >>> 16).toUInt8, (pushPlace temp index >>> 8).toUInt8,
          (pushPlace temp index).toUInt8]) := by
  rw [base64DecodeLoop.eq_def]
  dsimp only
  rw [sextet?_base64Letter inside]
  rfl

/-- One padding character shifts zeros in. -/
theorem base64DecodeLoop_pad : base64DecodeLoop [0x3D] 3 temp decoded =
    .ok (decoded ++ [(pushPlace temp 0 >>> 16).toUInt8, (pushPlace temp 0 >>> 8).toUInt8]) := by
  rw [pushPlace, show UInt8.toUInt32 0 = 0 from rfl, UInt32.or_zero]
  rfl

/-- The first of two padding characters. -/
theorem base64DecodeLoop_pad_pad : base64DecodeLoop [0x3D, 0x3D] 2 temp decoded =
    .ok (decoded ++ [(pushPlace temp 0 >>> 10).toUInt8]) := by
  rw [pushPlace, show UInt8.toUInt32 0 = 0 from rfl, UInt32.or_zero]
  rfl

end Loop

/-- The decoder appends the bytes that were encoded, whatever its word holds. -/
theorem base64DecodeLoop_base64Encode (decoded : List UInt8) :
    base64DecodeLoop (base64Encode input) 0 temp decoded = .ok (decoded ++ input) := by
  induction input using base64Encode.induct generalizing temp decoded with
  | case1 b0 b1 b2 rest ih =>
    obtain ⟨first, second, third, fourth⟩ := places_inside b0 b1 b2
    obtain ⟨byte0, byte1, byte2⟩ := takeBytes (pushPlace_bytes temp b0 b1 b2)
    rw [base64Encode, base64DecodeLoop_letter first (by omega),
      base64DecodeLoop_letter second (by omega), base64DecodeLoop_letter third (by omega),
      base64DecodeLoop_complete fourth, ih, byte0, byte1, byte2]
    simp
  | case2 b0 b1 =>
    -- The tail is written and read like three bytes of which the last is zero.
    obtain ⟨first, second, third, _⟩ := places_inside b0 b1 0
    obtain ⟨byte0, byte1, _⟩ := takeBytes (pushPlace_bytes temp b0 b1 0)
    rw [show (0 : UInt8) &&& 0x3F = 0 from rfl] at byte0 byte1
    have padded : (b1 &&& 0x0F) <<< 2 = ((b1 &&& 0x0F) <<< 2) ||| ((0 : UInt8) >>> 6) := by
      simp
    rw [base64Encode, padded, base64DecodeLoop_letter first (by omega),
      base64DecodeLoop_letter second (by omega), base64DecodeLoop_letter third (by omega),
      base64DecodeLoop_pad, byte0, byte1]
  | case3 b0 =>
    obtain ⟨first, second, _, _⟩ := places_inside b0 0 0
    have padded : (b0 &&& 0x03) <<< 4 = ((b0 &&& 0x03) <<< 4) ||| ((0 : UInt8) >>> 4) := by
      simp
    rw [base64Encode, padded, base64DecodeLoop_letter first (by omega),
      base64DecodeLoop_letter second (by omega), base64DecodeLoop_pad_pad, takeByte_alone]
  | case4 => simp [base64Encode, base64DecodeLoop]

theorem base64Decode_base64Encode :
    base64Decode (base64Encode input) = .ok input := by
  rw [base64Decode, if_neg (by rw [length_base64Encode]; omega)]
  exact base64DecodeLoop_base64Encode input 0 []

/-- Every byte string is encoded with four letters for every three bytes begun, and decoded
again. -/
theorem base64_round_trip (input : List UInt8) :
    base64Decode (base64Encode input) = .ok input ∧
      (base64Encode input).length = 4 * ((input.length + 2) / 3) :=
  ⟨base64Decode_base64Encode input, length_base64Encode input⟩

theorem base64Letter_ascii (index : UInt8) : base64Letter index < 128 := by
  have places : ∀ place : Fin 256, base64Letter (UInt8.ofNat place) < 128 := by decide +kernel
  simpa using places ⟨index.toNat, index.toNat_lt⟩

theorem base64Encode_ascii : ∀ byte ∈ base64Encode input, byte < 128 := by
  fun_induction base64Encode with
  | case1 b0 b1 b2 rest ih =>
    simpa [base64Letter_ascii] using ih
  | case2 | case3 => simp [base64Letter_ascii]
  | case4 => simp

end

/-!
## What the base64 decoder accepts

The decoder recognises padding by the distance to the end of its input, before it has
looked at what follows. A padding character in the second to last place ends the loop, so
the last character is never read: `DanglingPad` are the inputs that are accepted without
being base64.
-/

/-- `kPadCharacter`. -/
def padCharacter : UInt8 := 0x3D

/-- Characters of the alphabet only. -/
def Letters (text : List UInt8) : Prop := ∀ character ∈ text, character ∈ base64Alphabet

/-- Groups of four characters of the alphabet, the last one or two of which may be padding. -/
def WellFormedBase64 (input : List UInt8) : Prop :=
  input.length % 4 = 0 ∧ ∃ body, Letters body ∧
    (input = body ∨ input = body ++ [padCharacter] ∨ input = body ++ [padCharacter, padCharacter])

/-- Padding in the second to last place and something else in the last. -/
def DanglingPad (input : List UInt8) : Prop :=
  input.length % 4 = 0 ∧ ∃ body last, Letters body ∧ last ≠ padCharacter ∧
    input = body ++ [padCharacter, last]

/-- The decoder returns for what is base64, and throws for everything else. -/
def DecodesExactly (input : List UInt8) : Prop :=
  ((∃ bytes, base64Decode input = .ok bytes) ↔ WellFormedBase64 input) ∧
    (¬ WellFormedBase64 input → ∃ what, base64Decode input = .error (.raised (.std what)))

/-- What the loop accepts, whatever it has read before. -/
def LoopAccepts (text : List UInt8) : Prop :=
  ∃ body tail, text = body ++ tail ∧ Letters body ∧
    (tail = [] ∨ tail = [padCharacter] ∨ ∃ last, tail = [padCharacter, last])

theorem sextet?_isSome_iff (character : UInt8) :
    (sextet? character).isSome ↔ character ∈ base64Alphabet := by
  have all : ∀ place : Fin 256, (sextet? (UInt8.ofNat place)).isSome ↔
      UInt8.ofNat place ∈ base64Alphabet := by decide +kernel
  simpa using all ⟨character.toNat, character.toNat_lt⟩

theorem padCharacter_not_letter : padCharacter ∉ base64Alphabet := by decide +kernel

theorem loopAccepts_nil : LoopAccepts [] :=
  ⟨[], [], rfl, fun _ member => absurd member List.not_mem_nil, .inl rfl⟩

theorem loopAccepts_letter {character : UInt8} (letter : character ∈ base64Alphabet)
    (rest : List UInt8) : LoopAccepts (character :: rest) ↔ LoopAccepts rest := by
  constructor
  · rintro ⟨body, tail, split, letters, padding⟩
    cases body with
    | nil =>
      -- a text that starts with a letter does not start with padding
      rcases padding with rfl | rfl | ⟨last, rfl⟩
      · cases split
      · exact absurd ((List.cons.inj split).1 ▸ letter) padCharacter_not_letter
      · exact absurd ((List.cons.inj split).1 ▸ letter) padCharacter_not_letter
    | cons first body =>
      exact ⟨body, tail, (List.cons.inj split).2,
        fun other member => letters other (List.mem_cons_of_mem _ member), padding⟩
  · rintro ⟨body, tail, rfl, letters, padding⟩
    refine ⟨character :: body, tail, rfl, ?_, padding⟩
    intro other member
    rcases List.mem_cons.mp member with rfl | later
    · exact letter
    · exact letters other later

theorem loopAccepts_other {character : UInt8} (other : character ∉ base64Alphabet)
    (rest : List UInt8) :
    LoopAccepts (character :: rest) ↔ character = padCharacter ∧ rest.length ≤ 1 := by
  constructor
  · rintro ⟨body, tail, split, letters, padding⟩
    cases body with
    | nil =>
      rcases padding with rfl | rfl | ⟨last, rfl⟩
      · cases split
      · cases split
        exact ⟨rfl, by simp⟩
      · cases split
        exact ⟨rfl, by simp⟩
    | cons first body =>
      exact absurd ((List.cons.inj split).1 ▸ letters first List.mem_cons_self) other
  · rintro ⟨rfl, short⟩
    refine ⟨[], padCharacter :: rest, rfl, fun _ member => absurd member List.not_mem_nil, ?_⟩
    rcases rest with _ | ⟨last, _ | ⟨next, later⟩⟩
    · exact .inr (.inl rfl)
    · exact .inr (.inr ⟨last, rfl⟩)
    · simp at short

/-- The loop returns for what it accepts, and throws for everything else. -/
theorem base64DecodeLoop_returns_iff (text : List UInt8) (position : Nat) (temp : UInt32)
    (decoded : List UInt8) :
    (LoopAccepts text ∧ ∃ bytes, base64DecodeLoop text position temp decoded = .ok bytes) ∨
      (¬ LoopAccepts text ∧
        ∃ what, base64DecodeLoop text position temp decoded = .error (.raised (.std what))) := by
  induction text generalizing position temp decoded with
  | nil => exact .inl ⟨loopAccepts_nil, decoded, rfl⟩
  | cons character rest ih =>
    rw [base64DecodeLoop.eq_def]
    dsimp only
    cases read : sextet? character with
    | some bits =>
      have letter : character ∈ base64Alphabet := by
        rw [← sextet?_isSome_iff, read]
        rfl
      rw [loopAccepts_letter letter]
      dsimp only
      split
      · exact ih _ _ _
      · exact ih _ _ _
    | none =>
      have other : character ∉ base64Alphabet := by
        rw [← sextet?_isSome_iff, read]
        simp
      rw [loopAccepts_other other]
      dsimp only
      split
      · next pad =>
          rcases rest with _ | ⟨last, _ | ⟨next, later⟩⟩
          · exact .inl ⟨⟨pad, by simp⟩, _, rfl⟩
          · exact .inl ⟨⟨pad, by simp⟩, _, rfl⟩
          · exact .inr ⟨by simp, _, rfl⟩
      · next pad => exact .inr ⟨fun accepted => pad accepted.1, _, rfl⟩

/-- What the loop accepts is base64, but for a dangling padding character. -/
theorem loopAccepts_iff {input : List UInt8} (groups : input.length % 4 = 0) :
    LoopAccepts input ↔ WellFormedBase64 input ∨ DanglingPad input := by
  constructor
  · rintro ⟨body, tail, rfl, letters, rfl | rfl | ⟨last, rfl⟩⟩
    · exact .inl ⟨groups, body, letters, .inl (List.append_nil body)⟩
    · exact .inl ⟨groups, body, letters, .inr (.inl rfl)⟩
    · by_cases pad : last = padCharacter
      · subst pad
        exact .inl ⟨groups, body, letters, .inr (.inr rfl)⟩
      · exact .inr ⟨groups, body, last, letters, pad, rfl⟩
  · rintro (⟨_, body, letters, rfl | rfl | rfl⟩ | ⟨_, body, last, letters, _, rfl⟩)
    · exact ⟨input, [], (List.append_nil input).symm, letters, .inl rfl⟩
    · exact ⟨body, _, rfl, letters, .inr (.inl rfl)⟩
    · exact ⟨body, _, rfl, letters, .inr (.inr ⟨_, rfl⟩)⟩
    · exact ⟨body, _, rfl, letters, .inr (.inr ⟨last, rfl⟩)⟩

theorem DanglingPad.not_wellFormed {input : List UInt8} (dangling : DanglingPad input) :
    ¬ WellFormedBase64 input := by
  obtain ⟨_, body, last, _, other, rfl⟩ := dangling
  rintro ⟨_, whole, letters, same | same | same⟩
  · apply padCharacter_not_letter
    apply letters
    rw [← same]
    simp
  · exact other (by simpa using congrArg List.getLast? same)
  · exact other (by simpa using congrArg List.getLast? same)

/-- The decoder is exact on every input that does not end with a padding character and
then something else. -/
theorem decodes_exactly_iff (input : List UInt8) : DecodesExactly input ↔ ¬ DanglingPad input := by
  by_cases groups : input.length % 4 = 0
  · have loop := base64DecodeLoop_returns_iff input 0 0 []
    rw [loopAccepts_iff groups] at loop
    unfold DecodesExactly
    rw [base64Decode, if_neg (not_not_intro groups)]
    constructor
    · rintro ⟨returns, _⟩ dangling
      rcases loop with ⟨_, returned⟩ | ⟨refused, _⟩
      · exact dangling.not_wellFormed (returns.mp returned)
      · exact refused (.inr dangling)
    · intro complete
      rw [or_iff_left complete] at loop
      rcases loop with ⟨formed, returned⟩ | ⟨malformed, what, thrown⟩
      · exact ⟨iff_of_true returned formed, fun malformed => absurd formed malformed⟩
      · refine ⟨iff_of_false ?_ malformed, fun _ => ⟨what, thrown⟩⟩
        rintro ⟨bytes, returned⟩
        rw [thrown] at returned
        cases returned
  · refine iff_of_true ⟨iff_of_false ?_ fun formed => groups formed.1, fun _ => ?_⟩
      fun dangling => groups dangling.1
    · rintro ⟨bytes, returned⟩
      rw [base64Decode, if_pos groups] at returned
      cases returned
    · rw [base64Decode, if_pos groups]
      exact ⟨_, rfl⟩

/-- `AA=A` is decoded, although it is not base64. -/
theorem decodes_dangling :
    base64Decode [0x41, 0x41, 0x3D, 0x41] = .ok [0] ∧
      ¬ DecodesExactly [0x41, 0x41, 0x3D, 0x41] := by
  have returned : base64Decode [0x41, 0x41, 0x3D, 0x41] = .ok [0] := rfl
  have letters : Letters [0x41, 0x41] := by
    intro character member
    obtain rfl : character = 0x41 := by simpa using member
    decide +kernel
  have dangling : DanglingPad [0x41, 0x41, 0x3D, 0x41] :=
    ⟨rfl, [0x41, 0x41], 0x41, letters, by decide, rfl⟩
  refine ⟨returned, fun exactly => ?_⟩
  exact dangling.not_wellFormed (exactly.1.mp ⟨_, returned⟩)

end CoBridge
