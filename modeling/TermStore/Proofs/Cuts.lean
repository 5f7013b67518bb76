import TermStore.Proofs.Decoding
import TermStore.Text.Truncation

/-!
# Cut texts

A text is cut after the longest run of its characters that fits the limit, and that is where the
search through its bytes ends. The first byte of a character is the only one that does not continue
one, so the search steps back over the bytes that the limit leaves of a character, and stops where
that character begins; it is the first one that was not kept.
-/

namespace TermStore.Text

variable {limit other : Nat} {text : String}

/-! ### The bytes of a character -/

/-- The bytes of a character are one that begins it and others that continue it. -/
theorem exists_utf8EncodeChar (c : Char) :
    ∃ lead tails, String.utf8EncodeChar c = lead :: tails ∧ Utf8.isTail lead = false ∧
      ∀ byte ∈ tails, Utf8.isTail byte = true := by
  have hvalid : c.val.toNat < 0x110000 := by
    rcases c.valid with hc | hc
    · exact Nat.lt_trans hc (by decide)
    · exact hc.2
  have hlead : ∀ n, n < 0x80 ∨ 0xC0 ≤ n → n < 0x100 → Utf8.isTail (UInt8.ofNat n) = false := by
    intro n hn hsmall
    rw [Bool.eq_false_iff, Ne, Utf8.isTail_iff, UInt8.toNat_ofNat_of_lt' hsmall]
    omega
  have htail : ∀ n, 0x80 ≤ n → n ≤ 0xBF → Utf8.isTail (UInt8.ofNat n) = true := by
    intro n hlow hhigh
    have hsmall : n < 0x100 := by omega
    rw [Utf8.isTail_iff, UInt8.toNat_ofNat_of_lt' hsmall]
    exact ⟨hlow, hhigh⟩
  unfold String.utf8EncodeChar
  generalize c.val.toNat = n at hvalid
  dsimp only
  split_ifs with hone htwo hthree
  · exact ⟨_, _, rfl, hlead _ (by omega) (by omega), List.forall_mem_nil _⟩
  · refine ⟨_, _, rfl, hlead _ (by omega) (by omega), ?_⟩
    simp only [List.forall_mem_cons]
    exact ⟨htail _ (by omega) (by omega), List.forall_mem_nil _⟩
  · refine ⟨_, _, rfl, hlead _ (by omega) (by omega), ?_⟩
    simp only [List.forall_mem_cons]
    exact ⟨htail _ (by omega) (by omega), htail _ (by omega) (by omega), List.forall_mem_nil _⟩
  · refine ⟨_, _, rfl, hlead _ (by omega) (by omega), ?_⟩
    simp only [List.forall_mem_cons]
    exact ⟨htail _ (by omega) (by omega), htail _ (by omega) (by omega),
      htail _ (by omega) (by omega), List.forall_mem_nil _⟩

theorem length_flatMap_utf8EncodeChar (text : List Char) :
    (text.flatMap String.utf8EncodeChar).length = byteLength text := by
  induction text with
  | nil => rfl
  | cons c rest ih =>
      rw [List.flatMap_cons, List.length_append, ih, String.length_utf8EncodeChar, byteLength_cons]

theorem length_encode (text : String) : (Utf8.encode text).length = byteLength text.toList := by
  rw [Utf8.encode_eq, length_flatMap_utf8EncodeChar]

theorem utf8ByteSize_eq (text : String) : text.utf8ByteSize = byteLength text.toList := by
  have hsize : ∀ chars : List Char, (String.ofList chars).utf8ByteSize = byteLength chars := by
    intro chars
    induction chars with
    | nil => rfl
    | cons c rest ih =>
        have hsplit : String.ofList (c :: rest) = String.singleton c ++ String.ofList rest := by
          rw [String.singleton_eq_ofList, ← String.ofList_append]
          rfl
        rw [hsplit, String.utf8ByteSize_append, String.utf8ByteSize_singleton, ih, byteLength_cons]
  rw [← hsize, String.ofList_toList]

/-! ### The search for the cut -/

/-- Behind some characters, the search steps back over what continues the next one. -/
theorem boundaryBefore?_append (front behind : List UInt8) {c : Char} {steps : Nat}
    (hsteps : steps < c.utf8Size) :
    boundaryBefore? (front ++ (String.utf8EncodeChar c ++ behind)) (front.length + steps) =
      some front.length := by
  obtain ⟨lead, tails, hbytes, hlead, htails⟩ := exists_utf8EncodeChar c
  have hlength : tails.length + 1 = c.utf8Size := by
    rw [← String.length_utf8EncodeChar, hbytes, List.length_cons]
  rw [hbytes]
  induction steps with
  | zero =>
      have hboundary : isBoundary (front ++ (lead :: tails ++ behind)) front.length = true := by
        simp [isBoundary, hlead]
      rw [Nat.add_zero]
      cases hfront : front.length with
      | zero => rw [boundaryBefore?, ← hfront, if_pos hboundary]
      | succ index => rw [boundaryBefore?, ← hfront, if_pos hboundary]
  | succ steps ih =>
      have htail : steps < tails.length := by omega
      have hbyte : (front ++ (lead :: tails ++ behind))[front.length + steps + 1]? =
          some tails[steps] := by
        rw [Nat.add_assoc, List.getElem?_append_right (Nat.le_add_right _ _),
          Nat.add_sub_cancel_left, List.cons_append, List.getElem?_cons_succ,
          List.getElem?_append_left htail, List.getElem?_eq_getElem htail]
      have hinside : isBoundary (front ++ (lead :: tails ++ behind)) (front.length + steps + 1) =
          false := by
        rw [isBoundary, hbyte]
        simp [htails _ (List.getElem_mem htail)]
      rw [← Nat.add_assoc, boundaryBefore?, hinside, if_neg Bool.false_ne_true]
      exact ih (Nat.lt_of_succ_lt hsteps)

/-- What does not fit begins with a character that goes beyond the limit. -/
theorem exists_not_fitting {limit : Nat} {text : List Char} (h : limit < byteLength text) :
    ∃ c rest, text = fitting limit text ++ c :: rest ∧
      limit < byteLength (fitting limit text) + c.utf8Size := by
  induction text generalizing limit with
  | nil => exact absurd h (Nat.not_lt_zero limit)
  | cons c rest ih =>
      rw [byteLength_cons] at h
      by_cases hfits : c.utf8Size ≤ limit
      · have hbehind : limit - c.utf8Size < byteLength rest := by omega
        obtain ⟨next, behind, hrest, hnext⟩ := ih hbehind
        rw [fitting, if_pos hfits, byteLength_cons]
        exact ⟨next, behind, by rw [List.cons_append, ← hrest], by omega⟩
      · rw [fitting, if_neg hfits]
        exact ⟨c, rest, rfl, by rw [byteLength_nil]; omega⟩

theorem fitting_of_le {limit : Nat} {text : List Char} (h : byteLength text ≤ limit) :
    fitting limit text = text := by
  have hkept := fitting_prefix limit text
  have hwhole := prefix_fitting_iff.2 ⟨List.prefix_refl text, h⟩
  exact hkept.eq_of_length_le hwhole.length_le

/-- The search finds the place behind the characters that fit. -/
theorem cutPlace?_eq (limit : Nat) (text : String) :
    cutPlace? limit text = some (byteLength (fitting limit text.toList)) := by
  unfold cutPlace?
  rw [length_encode]
  split
  · next hwhole => rw [fitting_of_le hwhole]
  · next hlonger =>
    obtain ⟨c, rest, hsplit, hnext⟩ := exists_not_fitting (Nat.not_le.1 hlonger)
    have hkept := byteLength_fitting_le limit text.toList
    have hfront := length_flatMap_utf8EncodeChar (fitting limit text.toList)
    have hlimit : limit = ((fitting limit text.toList).flatMap String.utf8EncodeChar).length +
        (limit - byteLength (fitting limit text.toList)) := by omega
    have hsteps : limit - byteLength (fitting limit text.toList) < c.utf8Size := by omega
    have hfound := boundaryBefore?_append
      ((fitting limit text.toList).flatMap String.utf8EncodeChar)
      (rest.flatMap String.utf8EncodeChar) hsteps
    rw [← List.flatMap_cons, ← List.flatMap_append, ← hsplit, ← Utf8.encode_eq, ← hlimit,
      hfront] at hfound
    exact hfound

/-- A cut text has the bytes of the text up to the place where the search ends. -/
theorem encode_truncate (limit : Nat) (text : String) :
    Utf8.encode (truncate limit text) =
      (Utf8.encode text).take (byteLength (fitting limit text.toList)) := by
  obtain ⟨behind, hbehind⟩ := fitting_prefix limit text.toList
  have hfront := length_flatMap_utf8EncodeChar (fitting limit text.toList)
  have htext : Utf8.encode text = (fitting limit text.toList).flatMap String.utf8EncodeChar ++
      behind.flatMap String.utf8EncodeChar := by
    rw [Utf8.encode_eq, ← List.flatMap_append, hbehind]
  rw [truncate, Utf8.encode_ofList, htext, ← hfront, List.take_left]

/-! ### What is kept -/

/-- The search for the place of a cut ends within the text, and what is kept is the text up to that
place. It is a prefix of the text of at most `limit` bytes, and every longer prefix has more. So
cutting twice is cutting at the smaller limit, a text within the limit is kept, and at a larger
limit no less is kept. -/
theorem truncate_longest (limit : Nat) (text : String) :
    (∃ place, cutPlace? limit text = some place ∧
      Utf8.encode (truncate limit text) = (Utf8.encode text).take place) ∧
    (truncate limit text).toList <+: text.toList ∧
    (truncate limit text).utf8ByteSize ≤ limit ∧
    (∀ longer : String, longer.toList <+: text.toList →
      (truncate limit text).length < longer.length → limit < longer.utf8ByteSize) ∧
    (∀ other, truncate other (truncate limit text) = truncate (min limit other) text) ∧
    (text.utf8ByteSize ≤ limit → truncate limit text = text) ∧
    ∀ other, limit ≤ other → (truncate limit text).toList <+: (truncate other text).toList := by
  refine ⟨⟨_, cutPlace?_eq limit text, encode_truncate limit text⟩, ?_, ?_, ?_, ?_, ?_, ?_⟩
  · rw [truncate, String.toList_ofList]
    exact fitting_prefix limit text.toList
  · rw [utf8ByteSize_eq, truncate, String.toList_ofList]
    exact byteLength_fitting_le limit text.toList
  · intro longer hfront hlonger
    rw [truncate, String.length_ofList, ← String.length_toList] at hlonger
    rw [utf8ByteSize_eq]
    by_contra hfits
    have hkept := prefix_fitting_iff.2 ⟨hfront, Nat.not_lt.1 hfits⟩
    exact absurd hkept.length_le (Nat.not_le.2 hlonger)
  · intro other
    rw [truncate, truncate, String.toList_ofList, fitting_fitting, truncate]
  · intro hfits
    rw [utf8ByteSize_eq] at hfits
    rw [truncate, fitting_of_le hfits, String.ofList_toList]
  · intro other hle
    rw [truncate, truncate, String.toList_ofList, String.toList_ofList]
    have hkept := fitting_prefix limit text.toList
    exact prefix_fitting_iff.2
      ⟨hkept, Nat.le_trans (byteLength_fitting_le limit text.toList) hle⟩

/-- Of characters of one, two and three bytes the last one is left out where two of its bytes are
within the limit. -/
theorem truncate_longest_euro :
    cutPlace? 5 "aä€" = some 3 ∧ truncate 5 "aä€" = "aä" ∧ 5 < "aä€".utf8ByteSize ∧
      (truncate 5 "aä€").toList <+: (truncate 6 "aä€").toList := by
  have hlongest := truncate_longest 5 "aä€"
  have hcut : truncate 5 "aä€" = "aä" := by decide
  refine ⟨by decide +kernel, hcut, ?_, hlongest.2.2.2.2.2.2 6 (by decide)⟩
  exact hlongest.2.2.2.1 "aä€" (List.prefix_refl _) (by rw [hcut]; decide)

end TermStore.Text
