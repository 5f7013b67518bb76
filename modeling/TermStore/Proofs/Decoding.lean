import TermStore.Proofs.ByteOrder

/-!
# Texts from their bytes

The bytes of a text are read as that text. They come character by character, and the first byte of
a character tells how many others follow it: the ranges of the reader are those in which a
character of that many bytes can lie, so it takes exactly the bytes of one character at a time.
-/

namespace TermStore.Text.Utf8

/-! ### Bytes that go on -/

theorem isTail_iff {b : UInt8} : isTail b = true ↔ 0x80 ≤ b.toNat ∧ b.toNat ≤ 0xBF := by
  simp [isTail, UInt8.le_iff_toNat_le]

theorem startsThree_iff {lead second : UInt8} : startsThree lead second = true ↔
    isTail second = true ∧ (lead.toNat = 0xE0 → 0xA0 ≤ second.toNat) ∧
      (lead.toNat = 0xED → second.toNat ≤ 0x9F) := by
  unfold startsThree
  simp only [beq_iff_eq, ← UInt8.toNat_inj, isTail_iff]
  split_ifs with hfirst hsecond
  · simp [UInt8.le_iff_toNat_le] at hfirst ⊢
    omega
  · simp [UInt8.le_iff_toNat_le] at hfirst hsecond ⊢
    omega
  · simp [isTail, UInt8.le_iff_toNat_le] at hfirst hsecond ⊢
    omega

theorem startsFour_iff {lead second : UInt8} : startsFour lead second = true ↔
    isTail second = true ∧ (lead.toNat = 0xF0 → 0x90 ≤ second.toNat) ∧
      (lead.toNat = 0xF4 → second.toNat ≤ 0x8F) := by
  unfold startsFour
  simp only [beq_iff_eq, ← UInt8.toNat_inj, isTail_iff]
  split_ifs with hfirst hsecond
  · simp [UInt8.le_iff_toNat_le] at hfirst ⊢
    omega
  · simp [UInt8.le_iff_toNat_le] at hfirst hsecond ⊢
    omega
  · simp [isTail, UInt8.le_iff_toNat_le] at hfirst hsecond ⊢
    omega

/-! ### Characters of one to four bytes -/

section Characters

variable {a b c d : UInt8} {index : Nat} {rest : List UInt8}

theorem decodeFrom_one (ha : a.toNat < 0x80) : decodeFrom index (a :: rest) =
    (decodeFrom (index + 1) rest).map (Char.ofNat a.toNat :: ·) := by
  rw [decodeFrom.eq_def]
  dsimp only
  rw [if_pos (UInt8.lt_iff_toNat_lt.2 ha)]

theorem decodeFrom_two (hlow : 0xC2 ≤ a.toNat) (hhigh : a.toNat ≤ 0xDF) (hb : isTail b = true) :
    decodeFrom index (a :: b :: rest) = (decodeFrom (index + 2) rest).map
      (Char.ofNat (a.toNat % 0x20 * 0x40 + payload b) :: ·) := by
  have hone : ¬ a < 0x80 := by
    simp [UInt8.lt_iff_toNat_lt]
    omega
  have htwo : (0xC2 ≤ a && a ≤ 0xDF) = true := by
    simp [UInt8.le_iff_toNat_le, hlow, hhigh]
  rw [decodeFrom.eq_def]
  dsimp only
  rw [if_neg hone, if_pos htwo, if_pos hb]

theorem decodeFrom_three (hlow : 0xE0 ≤ a.toNat) (hhigh : a.toNat ≤ 0xEF)
    (hb : startsThree a b = true) (hc : isTail c = true) :
    decodeFrom index (a :: b :: c :: rest) = (decodeFrom (index + 3) rest).map
      (Char.ofNat ((a.toNat % 0x10 * 0x40 + payload b) * 0x40 + payload c) :: ·) := by
  have hone : ¬ a < 0x80 := by
    simp [UInt8.lt_iff_toNat_lt]
    omega
  have htwo : ¬ (0xC2 ≤ a && a ≤ 0xDF) = true := by
    simp [UInt8.le_iff_toNat_le]
    omega
  have hthree : (0xE0 ≤ a && a ≤ 0xEF) = true := by
    simp [UInt8.le_iff_toNat_le, hlow, hhigh]
  rw [decodeFrom.eq_def]
  dsimp only
  rw [if_neg hone, if_neg htwo, if_pos hthree, if_pos hb, if_pos hc]

theorem decodeFrom_four (hlow : 0xF0 ≤ a.toNat) (hhigh : a.toNat ≤ 0xF4)
    (hb : startsFour a b = true) (hc : isTail c = true) (hd : isTail d = true) :
    decodeFrom index (a :: b :: c :: d :: rest) = (decodeFrom (index + 4) rest).map
      (Char.ofNat (((a.toNat % 0x08 * 0x40 + payload b) * 0x40 + payload c) * 0x40 + payload d)
        :: ·) := by
  have hone : ¬ a < 0x80 := by
    simp [UInt8.lt_iff_toNat_lt]
    omega
  have htwo : ¬ (0xC2 ≤ a && a ≤ 0xDF) = true := by
    simp [UInt8.le_iff_toNat_le]
    omega
  have hthree : ¬ (0xE0 ≤ a && a ≤ 0xEF) = true := by
    simp [UInt8.le_iff_toNat_le]
    omega
  have hfour : (0xF0 ≤ a && a ≤ 0xF4) = true := by
    simp [UInt8.le_iff_toNat_le, hlow, hhigh]
  rw [decodeFrom.eq_def]
  dsimp only
  rw [if_neg hone, if_neg htwo, if_neg hthree, if_pos hfour, if_pos hb, if_pos hc, if_pos hd]

end Characters

/-! ### Texts -/

/-- A character is read from its bytes. -/
theorem decodeFrom_utf8EncodeChar (char : Char) (index : Nat) (rest : List UInt8) :
    decodeFrom index (String.utf8EncodeChar char ++ rest) =
      (decodeFrom (index + char.utf8Size) rest).map (char :: ·) := by
  have hbyte : ∀ n, n < 256 → (UInt8.ofNat n).toNat = n := fun n => UInt8.toNat_ofNat_of_lt'
  have htail : ∀ n, isTail (UInt8.ofNat (n % 64 + 128)) = true := fun n => by
    rw [isTail_iff, hbyte _ (by omega)]
    omega
  have hpayload : ∀ n, payload (UInt8.ofNat (n % 64 + 128)) = n % 64 := fun n => by
    rw [payload, hbyte _ (by omega)]
    omega
  have hvalid : char.val.toNat < 0xD800 ∨ 0xDFFF < char.val.toNat ∧ char.val.toNat < 0x110000 :=
    char.valid
  have hchar : Char.ofNat char.val.toNat = char := Char.ofNat_toNat char
  rw [← String.length_utf8EncodeChar]
  unfold String.utf8EncodeChar
  generalize char.val.toNat = n at hvalid hchar
  dsimp only
  -- by the number of bytes, each of which gives back its digits
  split_ifs with hone htwo hthree
  · have hlead := hbyte n (by omega)
    refine (decodeFrom_one (by omega)).trans ?_
    rw [hlead, hchar]
    rfl
  · have hlead := hbyte (n / 64 % 32 + 192) (by omega)
    refine (decodeFrom_two (by omega) (by omega) (htail n)).trans ?_
    have hdigits : (n / 64 % 32 + 192) % 0x20 * 0x40 + n % 64 = n := by omega
    rw [hlead, hpayload, hdigits, hchar]
    rfl
  · have hlead := hbyte (n / 4096 % 16 + 224) (by omega)
    have hsecond := hbyte (n / 64 % 64 + 128) (by omega)
    have hstarts : startsThree (UInt8.ofNat (n / 4096 % 16 + 224))
        (UInt8.ofNat (n / 64 % 64 + 128)) = true :=
      startsThree_iff.2 ⟨htail (n / 64), fun _ => by omega, fun _ => by omega⟩
    refine (decodeFrom_three (by omega) (by omega) hstarts (htail n)).trans ?_
    have hdigits : ((n / 4096 % 16 + 224) % 0x10 * 0x40 + n / 64 % 64) * 0x40 + n % 64 = n := by
      omega
    rw [hlead, hpayload, hpayload, hdigits, hchar]
    rfl
  · have hlead := hbyte (n / 262144 % 8 + 240) (by omega)
    have hsecond := hbyte (n / 4096 % 64 + 128) (by omega)
    have hstarts : startsFour (UInt8.ofNat (n / 262144 % 8 + 240))
        (UInt8.ofNat (n / 4096 % 64 + 128)) = true :=
      startsFour_iff.2 ⟨htail (n / 4096), fun _ => by omega, fun _ => by omega⟩
    refine (decodeFrom_four (by omega) (by omega) hstarts (htail (n / 64)) (htail n)).trans ?_
    have hdigits : (((n / 262144 % 8 + 240) % 0x08 * 0x40 + n / 4096 % 64) * 0x40 + n / 64 % 64) *
        0x40 + n % 64 = n := by
      omega
    rw [hlead, hpayload, hpayload, hpayload, hdigits, hchar]
    rfl

theorem decodeFrom_flatMap (text : List Char) (index : Nat) :
    decodeFrom index (text.flatMap String.utf8EncodeChar) = .ok text := by
  induction text generalizing index with
  | nil => rfl
  | cons char rest ih =>
      rw [List.flatMap_cons, decodeFrom_utf8EncodeChar, ih]
      rfl

/-- The bytes of a text are read as that text. -/
theorem decode_encode (text : String) : decode (encode text) = .ok text := by
  rw [decode, encode_eq, decodeFrom_flatMap, Except.map, String.ofList_toList]

end TermStore.Text.Utf8
