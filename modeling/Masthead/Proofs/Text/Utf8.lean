import Masthead.Text.Utf8

/-!
# Encoded texts are decoded

A character is encoded as one byte that tells how many follow it and continuations of six bits each.
Decoding reads the same number of bytes and puts the same bits together, so what is encoded is
decoded to the same text, and different texts are encoded differently.
-/

namespace Masthead

namespace Utf8

variable {position : Nat} {first second third fourth : UInt8} {rest : List UInt8}

/-! ## Reading a sequence of each length -/

theorem not_lt_of_toNat_le
    {byte bound : UInt8}
    (least : bound.toNat ≤ byte.toNat) :
    ¬ byte < bound :=
  UInt8.not_lt.2 (UInt8.le_iff_toNat_le.2 least)

theorem decodeAt_one (lead : first.toNat < 0x80) :
    decodeAt position (first :: rest) =
      (decodeAt (position + 1) rest).map (assemble first.toNat [] :: ·) := by
  have single : first < 0x80 := UInt8.lt_iff_toNat_lt.2 lead
  rw [decodeAt.eq_def]
  simp only [if_pos single]

theorem decodeAt_two
    (least : 0xC2 ≤ first.toNat)
    (below : first.toNat < 0xE0)
    (follows : mayFollow first second = true) :
    decodeAt position (first :: second :: rest) =
      (decodeAt (position + 2) rest).map (assemble (first.toNat % 32) [second] :: ·) := by
  have several : ¬ first < 0x80 := not_lt_of_toNat_le (Nat.le_trans (by decide) least)
  have leads : ¬ first < 0xC2 := not_lt_of_toNat_le (Nat.le_trans (by decide) least)
  have two : first < 0xE0 := UInt8.lt_iff_toNat_lt.2 below
  rw [decodeAt.eq_def]
  simp only [if_neg several, if_neg leads, if_pos two, if_pos follows]

theorem decodeAt_three
    (least : 0xE0 ≤ first.toNat)
    (below : first.toNat < 0xF0)
    (follows : mayFollow first second = true)
    (continues : isContinuation third = true) :
    decodeAt position (first :: second :: third :: rest) =
      (decodeAt (position + 3) rest).map (assemble (first.toNat % 16) [second, third] :: ·) := by
  have several : ¬ first < 0x80 := not_lt_of_toNat_le (Nat.le_trans (by decide) least)
  have leads : ¬ first < 0xC2 := not_lt_of_toNat_le (Nat.le_trans (by decide) least)
  have more : ¬ first < 0xE0 := not_lt_of_toNat_le (Nat.le_trans (by decide) least)
  have three : first < 0xF0 := UInt8.lt_iff_toNat_lt.2 below
  rw [decodeAt.eq_def]
  simp only [if_neg several, if_neg leads, if_neg more, if_pos three, if_pos follows,
    if_pos continues]

theorem decodeAt_four
    (least : 0xF0 ≤ first.toNat)
    (below : first.toNat < 0xF5)
    (follows : mayFollow first second = true)
    (continues : isContinuation third = true)
    (ends : isContinuation fourth = true) :
    decodeAt position (first :: second :: third :: fourth :: rest) =
      (decodeAt (position + 4) rest).map
        (assemble (first.toNat % 8) [second, third, fourth] :: ·) := by
  have several : ¬ first < 0x80 := not_lt_of_toNat_le (Nat.le_trans (by decide) least)
  have leads : ¬ first < 0xC2 := not_lt_of_toNat_le (Nat.le_trans (by decide) least)
  have more : ¬ first < 0xE0 := not_lt_of_toNat_le (Nat.le_trans (by decide) least)
  have most : ¬ first < 0xF0 := not_lt_of_toNat_le (Nat.le_trans (by decide) least)
  have four : first < 0xF5 := UInt8.lt_iff_toNat_lt.2 below
  rw [decodeAt.eq_def]
  simp only [if_neg several, if_neg leads, if_neg more, if_neg most, if_pos four, if_pos follows,
    if_pos continues, if_pos ends]

/-! ## The bytes of a character -/

theorem toNat_continuation (bits : Nat) : (continuation bits).toNat = 0x80 + bits % 0x40 := by
  rw [continuation, UInt8.toNat_ofNat']
  omega

theorem isContinuation_continuation (bits : Nat) : isContinuation (continuation bits) = true := by
  simp only [isContinuation, Bool.and_eq_true, decide_eq_true_eq, UInt8.le_iff_toNat_le,
    UInt8.lt_iff_toNat_lt, toNat_continuation, UInt8.toNat_ofNat]
  omega

/-- A continuation may follow a first byte if the two are not the beginning of a sequence that is
longer than it needs to be, of a surrogate or of something too large. -/
theorem mayFollow_continuation
    {bits : Nat}
    (longThree : first.toNat = 0xE0 → 0x20 ≤ bits % 0x40)
    (surrogate : first.toNat = 0xED → bits % 0x40 < 0x20)
    (longFour : first.toNat = 0xF0 → 0x10 ≤ bits % 0x40)
    (large : first.toNat = 0xF4 → bits % 0x40 < 0x10) :
    mayFollow first (continuation bits) = true := by
  rw [mayFollow, isContinuation_continuation, Bool.true_and]
  simp only [beq_iff_eq, ← UInt8.toNat_inj, UInt8.le_iff_toNat_le, UInt8.lt_iff_toNat_lt,
    toNat_continuation, UInt8.toNat_ofNat]
  split
  · simp only [decide_eq_true_eq]
    omega
  · split
    · simp only [decide_eq_true_eq]
      omega
    · split
      · simp only [decide_eq_true_eq]
        omega
      · split
        · simp only [decide_eq_true_eq]
          omega
        · rfl

theorem assemble_eq
    {payload : Nat} {continuations : List UInt8} {c : Char}
    (same : continuations.foldl (fun code byte => code * 64 + byte.toNat % 64) payload = c.toNat) :
    assemble payload continuations = c := by
  rw [assemble, same, Char.ofNat_toNat]

theorem toNat_ofNat_of_lt (value : Nat) (small : value < 0x100) :
    (UInt8.ofNat value).toNat = value := by
  rw [UInt8.toNat_ofNat']
  omega

/-- Decoding reads a character back and goes on. -/
theorem decodeAt_encodeChar_append (position : Nat) (c : Char) (rest : List UInt8) :
    decodeAt position (encodeChar c ++ rest) =
      (decodeAt (position + (encodeChar c).length) rest).map (c :: ·) := by
  have valid : c.toNat < 0xD800 ∨ 0xDFFF < c.toNat ∧ c.toNat < 0x110000 := c.valid
  by_cases one : c.toNat < 0x80
  · have lead := toNat_ofNat_of_lt c.toNat (by omega)
    have bytes : encodeChar c = [UInt8.ofNat c.toNat] := by
      simp only [encodeChar, if_pos one]
    rw [bytes, List.cons_append, List.nil_append, decodeAt_one (by omega), lead,
      assemble_eq (c := c) rfl]
    rfl
  by_cases two : c.toNat < 0x800
  · have lead := toNat_ofNat_of_lt (0xC0 + c.toNat / 0x40) (by omega)
    have bytes : encodeChar c = [UInt8.ofNat (0xC0 + c.toNat / 0x40), continuation c.toNat] := by
      simp only [encodeChar, if_neg one, if_pos two]
    rw [bytes]
    show decodeAt position (_ :: _ :: rest) = _
    rw [decodeAt_two (by omega) (by omega) (mayFollow_continuation (by omega) (by omega) (by omega)
      (by omega)), lead, assemble_eq (c := c)]
    · rfl
    · simp only [List.foldl_cons, List.foldl_nil, toNat_continuation]
      omega
  by_cases three : c.toNat < 0x10000
  · have lead := toNat_ofNat_of_lt (0xE0 + c.toNat / 0x1000) (by omega)
    have bytes : encodeChar c = [UInt8.ofNat (0xE0 + c.toNat / 0x1000),
        continuation (c.toNat / 0x40), continuation c.toNat] := by
      simp only [encodeChar, if_neg one, if_neg two, if_pos three]
    rw [bytes]
    show decodeAt position (_ :: _ :: _ :: rest) = _
    rw [decodeAt_three (by omega) (by omega) (mayFollow_continuation (by omega) (by omega)
      (by omega) (by omega)) (isContinuation_continuation _), lead, assemble_eq (c := c)]
    · rfl
    · simp only [List.foldl_cons, List.foldl_nil, toNat_continuation]
      omega
  · have lead := toNat_ofNat_of_lt (0xF0 + c.toNat / 0x40000) (by omega)
    have bytes : encodeChar c = [UInt8.ofNat (0xF0 + c.toNat / 0x40000),
        continuation (c.toNat / 0x1000), continuation (c.toNat / 0x40),
          continuation c.toNat] := by
      simp only [encodeChar, if_neg one, if_neg two, if_neg three]
    rw [bytes]
    show decodeAt position (_ :: _ :: _ :: _ :: rest) = _
    rw [decodeAt_four (by omega) (by omega) (mayFollow_continuation (by omega) (by omega)
      (by omega) (by omega)) (isContinuation_continuation _) (isContinuation_continuation _), lead,
      assemble_eq (c := c)]
    · rfl
    · simp only [List.foldl_cons, List.foldl_nil, toNat_continuation]
      omega

theorem decodeAt_encode (position : Nat) (text : Text) :
    decodeAt position (encode text) = .ok text := by
  induction text generalizing position with
  | nil => rfl
  | cons c text ih =>
    show decodeAt position (encodeChar c ++ encode text) = _
    rw [decodeAt_encodeChar_append, ih]
    rfl

/-- What is encoded is decoded to the same text. -/
theorem decode_encode (text : Text) : decode (encode text) = .ok text :=
  decodeAt_encode 0 text

end Utf8

end Masthead
