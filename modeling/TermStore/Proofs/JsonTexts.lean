import TermStore.Json.Reader
import TermStore.Proofs.Maps

/-!
# JSON texts and how they are read

The grammar of JSON, said without a reader: `Spells value chars` holds of the characters that write
a value, and `IsText value text` of those with blanks around. One value has many texts: blanks may
stand between its tokens, and a character of a string may be written as itself or as an escape.

Reading is compared with the grammar by `Settles`: a reader that is given what some characters spell
either returns exactly what is wanted of it, with what is behind the characters, or, where nothing
can be wanted, nothing but what its caller refuses. Lists and maps settle what their items settle,
so the rules for commas, ends and blanks are proved once, whatever stands between them.
-/

namespace TermStore.Json

/-! ### The grammar -/

/-- Blanks as they may stand between tokens. -/
def Blank (chars : List Char) : Prop := ∀ c ∈ chars, c = ' ' ∨ c = '\t' ∨ c = '\n' ∨ c = '\r'

/-- A hexadecimal digit and its value. -/
def IsHex (c : Char) (value : Nat) : Prop :=
  "0123456789abcdef".toList[value]? = some c ∨ "0123456789ABCDEF".toList[value]? = some c

/-- Four hexadecimal digits and the number that they spell. -/
inductive SpellsUnit : Nat → List Char → Prop
  | mk {a b c d : Char} {k l m n : Nat} (ha : IsHex a k) (hb : IsHex b l) (hc : IsHex c m)
      (hd : IsHex d n) : SpellsUnit (((k * 16 + l) * 16 + m) * 16 + n) [a, b, c, d]

/-- The letters that may follow a backslash, and the characters that they stand for. -/
def letters : List (Char × Char) :=
  [('"', '"'), ('\\', '\\'), ('/', '/'), ('b', '\x08'), ('f', '\x0c'), ('n', '\n'), ('r', '\r'),
    ('t', '\t')]

/-- What stands between the quotes of a string, and the text that it spells. A character beyond
the first plane is escaped by two units. -/
inductive SpellsText : List Char → List Char → Prop
  | nil : SpellsText [] []
  | plain {c : Char} {text chars : List Char} (hquote : c ≠ '"') (hbackslash : c ≠ '\\')
      (hcontrol : 0x20 ≤ c.toNat) (hrest : SpellsText text chars) :
      SpellsText (c :: text) (c :: chars)
  | letter {e c : Char} {text chars : List Char} (hletter : (e, c) ∈ letters)
      (hrest : SpellsText text chars) : SpellsText (c :: text) ('\\' :: e :: chars)
  | unit {c : Char} {digits text chars : List Char} (hunit : SpellsUnit c.toNat digits)
      (hrest : SpellsText text chars) : SpellsText (c :: text) ('\\' :: 'u' :: (digits ++ chars))
  | pair {c : Char} {high low : Nat} {first second text chars : List Char}
      (hfirst : SpellsUnit high first) (hhigh : 0xD800 ≤ high ∧ high ≤ 0xDBFF)
      (hsecond : SpellsUnit low second) (hlow : 0xDC00 ≤ low ∧ low ≤ 0xDFFF)
      (hc : c.toNat = 0x10000 + (high - 0xD800) * 0x400 + (low - 0xDC00))
      (hrest : SpellsText text chars) :
      SpellsText (c :: text) ('\\' :: 'u' :: (first ++ '\\' :: 'u' :: (second ++ chars)))

/-- Digits, at least one. -/
def IsDigits (chars : List Char) : Prop := chars ≠ [] ∧ ∀ c ∈ chars, c.isDigit = true

/-- A numeral: a sign, whole digits that do not start with a superfluous zero, places and a power
of ten. -/
structure IsNumeral (chars : List Char) : Prop where
  parts : ∃ sign whole places power : List Char, chars = sign ++ (whole ++ (places ++ power)) ∧
    (sign = [] ∨ sign = ['-']) ∧
    (IsDigits whole ∧ (whole.head? = some '0' → whole = ['0'])) ∧
    (places = [] ∨ ∃ digits, places = '.' :: digits ∧ IsDigits digits) ∧
    (power = [] ∨ ∃ e s digits, power = e :: (s ++ digits) ∧ (e = 'e' ∨ e = 'E') ∧
      (s = [] ∨ s = ['+'] ∨ s = ['-']) ∧ IsDigits digits)

section Sequences

variable {α : Type}

/-- Items behind the first one: each has a comma in front and may have blanks around. -/
inductive Follows (P : α → List Char → Prop) : List α → List Char → Prop
  | nil {before : List Char} (hbefore : Blank before) : Follows P [] before
  | cons {before behind chars rest : List Char} {x : α} {xs : List α} (hbefore : Blank before)
      (hbehind : Blank behind) (hx : P x chars) (hrest : Follows P xs rest) :
      Follows P (x :: xs) (before ++ ',' :: (behind ++ (chars ++ rest)))

/-- Items with commas between them, and blanks around each. -/
inductive Listed (P : α → List Char → Prop) : List α → List Char → Prop
  | nil {before : List Char} (hbefore : Blank before) : Listed P [] before
  | cons {before chars rest : List Char} {x : α} {xs : List α} (hbefore : Blank before)
      (hx : P x chars) (hrest : Follows P xs rest) :
      Listed P (x :: xs) (before ++ (chars ++ rest))

end Sequences

/-- A member of an object: a string, a colon and a value. -/
inductive SpellsMember (P : Value → List Char → Prop) : String × Value → List Char → Prop
  | mk {key : String} {value : Value} {spelled before behind chars : List Char}
      (hkey : SpellsText key.toList spelled) (hbefore : Blank before) (hbehind : Blank behind)
      (hvalue : P value chars) :
      SpellsMember P (key, value) ('"' :: (spelled ++ '"' :: (before ++ ':' :: (behind ++ chars))))

/-- The characters that write a value, without blanks in front or behind. Which number a numeral
stands for is left open. -/
inductive Spells : Value → List Char → Prop
  | null : Spells .null ['n', 'u', 'l', 'l']
  | yes : Spells (.boolean true) ['t', 'r', 'u', 'e']
  | no : Spells (.boolean false) ['f', 'a', 'l', 's', 'e']
  | number {value : Number} {chars : List Char} (h : IsNumeral chars) :
      Spells (.number value) chars
  | text {value : String} {chars : List Char} (h : SpellsText value.toList chars) :
      Spells (.text value) ('"' :: (chars ++ ['"']))
  | list {items : List Value} {chars : List Char} (h : Listed Spells items chars) :
      Spells (.list items) ('[' :: (chars ++ [']']))
  | object {members : List (String × Value)} {chars : List Char}
      (h : Listed (SpellsMember Spells) members chars) :
      Spells (.object members) ('{' :: (chars ++ ['}']))

/-- A text is a value with nothing but blanks around it. -/
def IsText (value : Value) (text : List Char) : Prop :=
  ∃ before chars behind, Blank before ∧ Spells value chars ∧ Blank behind ∧
    text = before ++ (chars ++ behind)

/-! ### Blanks -/

theorem blank_nil : Blank [] := fun _ hc => absurd hc List.not_mem_nil

theorem isSpace_of_blank {chars : List Char} (h : Blank chars) : ∀ c ∈ chars, isSpace c = true := by
  intro c hc
  rcases h c hc with rfl | rfl | rfl | rfl <;> rfl

theorem skipSpace_cons {c : Char} (h : isSpace c = false) (rest : List Char) :
    skipSpace (c :: rest) = c :: rest := by
  simp [skipSpace, h]

theorem skipSpace_append {chars : List Char} (h : Blank chars) (rest : List Char) :
    skipSpace (chars ++ rest) = skipSpace rest :=
  List.dropWhile_append_of_pos (isSpace_of_blank h)

theorem skipSpace_blank {chars : List Char} (h : Blank chars) : skipSpace chars = [] := by
  simpa [skipSpace] using skipSpace_append h []

/-- Blanks are skipped up to a character that is none. -/
theorem skipSpace_append_cons {chars : List Char} (h : Blank chars) {c : Char}
    (hc : isSpace c = false) (rest : List Char) : skipSpace (chars ++ c :: rest) = c :: rest := by
  rw [skipSpace_append h, skipSpace_cons hc]

/-! ### Strings -/

theorem hexValue?_of_isHex {c : Char} {value : Nat} (h : IsHex c value) :
    hexValue? c = some value := by
  have hall : ∀ digits ∈ ["0123456789abcdef".toList, "0123456789ABCDEF".toList],
      ∀ n < 16, digits[n]?.map hexValue? = some (some n) := by decide +kernel
  have hdigit : ∀ digits ∈ ["0123456789abcdef".toList, "0123456789ABCDEF".toList],
      digits[value]? = some c → hexValue? c = some value := by
    intro digits hdigits hget
    have hlength : digits.length = 16 := by
      have : ∀ digits ∈ ["0123456789abcdef".toList, "0123456789ABCDEF".toList],
        digits.length = 16 := by decide +kernel
      exact this digits hdigits
    have hvalue : value < 16 := hlength ▸ (List.getElem?_eq_some_iff.1 hget).1
    have hmap := hall digits hdigits value hvalue
    rw [hget] at hmap
    exact Option.some.inj hmap
  rcases h with h | h
  · exact hdigit _ (by simp) h
  · exact hdigit _ (by simp) h

theorem hexUnit?_of_spellsUnit {n : Nat} {digits : List Char} (h : SpellsUnit n digits) :
    ∃ a b c d, digits = [a, b, c, d] ∧ hexUnit? a b c d = some n := by
  cases h with
  | @mk a b c d k l m n ha hb hc hd =>
      refine ⟨a, b, c, d, rfl, ?_⟩
      simp [hexUnit?, hexValue?_of_isHex ha, hexValue?_of_isHex hb, hexValue?_of_isHex hc,
        hexValue?_of_isHex hd]

theorem shortEscape?_of_letter {e c : Char} (h : (e, c) ∈ letters) :
    e ≠ 'u' ∧ shortEscape? e = some c := by
  have hall : ∀ pair ∈ letters, pair.1 ≠ 'u' ∧ shortEscape? pair.1 = some pair.2 := by decide
  exact hall (e, c) h

/-- No character is a surrogate. -/
theorem not_surrogate (c : Char) : c.toNat < 0xD800 ∨ 0xDFFF < c.toNat := by
  rcases c.valid with h | ⟨h, -⟩
  · exact Or.inl h
  · exact Or.inr h

section ReadString

variable {a b c d e : Char} {n : Nat}

theorem readString_quote (rest : List Char) : readString ('"' :: rest) = .ok ([], rest) := by
  rw [readString.eq_def]
  simp

theorem readString_plain (hquote : c ≠ '"') (hbackslash : c ≠ '\\') (hcontrol : 0x20 ≤ c.toNat)
    (rest : List Char) : readString (c :: rest) = push c (readString rest) := by
  rw [readString.eq_def]
  simp only [if_neg hquote, if_neg hbackslash, if_neg (Nat.not_lt.2 hcontrol)]

theorem readString_letter (hletter : (e, c) ∈ letters) (rest : List Char) :
    readString ('\\' :: e :: rest) = push c (readString rest) := by
  obtain ⟨hnot, hescape⟩ := shortEscape?_of_letter hletter
  rw [readString.eq_def]
  simp [hnot, hescape]

/-- A unit that is a character, so no half of a pair. -/
theorem readString_unit (hunit : hexUnit? a b c d = some n) (hn : n < 0xD800 ∨ 0xDFFF < n)
    (rest : List Char) :
    readString ('\\' :: 'u' :: a :: b :: c :: d :: rest) =
      push (Char.ofNat n) (readString rest) := by
  have hlow : ¬ (0xDC00 ≤ n ∧ n ≤ 0xDFFF) := by omega
  have hhigh : ¬ (0xD800 ≤ n ∧ n ≤ 0xDBFF) := by omega
  rw [readString.eq_def]
  simp [hunit, hlow, hhigh]

theorem readString_pair {a' b' c' d' : Char} {m : Nat} (hfirst : hexUnit? a b c d = some n)
    (hhigh : 0xD800 ≤ n ∧ n ≤ 0xDBFF) (hsecond : hexUnit? a' b' c' d' = some m)
    (hlow : 0xDC00 ≤ m ∧ m ≤ 0xDFFF) (rest : List Char) :
    readString
        ('\\' :: 'u' :: a :: b :: c :: d :: '\\' :: 'u' :: a' :: b' :: c' :: d' :: rest) =
      push (Char.ofNat ((n - 0xD800) * 0x400 + (m - 0xDC00) + 0x10000)) (readString rest) := by
  have hnotLow : ¬ (0xDC00 ≤ n ∧ n ≤ 0xDFFF) := by omega
  rw [readString.eq_def]
  simp [hfirst, hsecond, hnotLow, hhigh, hlow]

/-- A string is read up to its closing quote, as the text that it spells. -/
theorem readString_of_spellsText {text chars : List Char} (h : SpellsText text chars)
    (rest : List Char) : readString (chars ++ '"' :: rest) = .ok (text, rest) := by
  induction h with
  | nil => exact readString_quote rest
  | plain hquote hbackslash hcontrol _ ih =>
      rw [List.cons_append, readString_plain hquote hbackslash hcontrol, ih]
      rfl
  | letter hletter _ ih =>
      rw [List.cons_append, List.cons_append, readString_letter hletter, ih]
      rfl
  | @unit c digits text chars hunit _ ih =>
      obtain ⟨w, x, y, z, rfl, hvalue⟩ := hexUnit?_of_spellsUnit hunit
      show readString ('\\' :: 'u' :: w :: x :: y :: z :: (chars ++ '"' :: rest)) = _
      rw [readString_unit hvalue (not_surrogate c), ih, Char.ofNat_toNat]
      rfl
  | @pair c high low first second text chars hfirst hhigh hsecond hlow hc _ ih =>
      obtain ⟨w, x, y, z, rfl, hvalue⟩ := hexUnit?_of_spellsUnit hfirst
      obtain ⟨w', x', y', z', rfl, hvalue'⟩ := hexUnit?_of_spellsUnit hsecond
      have hchar : (high - 0xD800) * 0x400 + (low - 0xDC00) + 0x10000 = c.toNat := by omega
      show readString ('\\' :: 'u' :: w :: x :: y :: z :: '\\' :: 'u' :: w' :: x' :: y' :: z' ::
        (chars ++ '"' :: rest)) = _
      rw [readString_pair hvalue hhigh hvalue' hlow, ih, hchar, Char.ofNat_toNat]
      rfl

end ReadString

/-! ### What reading comes to -/

/-- A reader returns what is wanted of it, and what is behind that; where nothing is wanted, it
returns nothing but what its caller refuses. -/
def Settles {α : Type} (Refused : α → Prop) (wanted : Option α) (rest : List Char)
    (outcome : Except Fault (α × List Char)) : Prop :=
  match wanted with
  | some result => outcome = .ok (result, rest)
  | none => ∀ result left, outcome = .ok (result, left) → Refused result

section Settles

variable {α β : Type} {Refused : β → Prop}

theorem Settles.mono {Refused' : β → Prop} {wanted : Option β} {rest : List Char}
    {outcome : Except Fault (β × List Char)} (h : Settles Refused wanted rest outcome)
    (himp : ∀ y, Refused y → Refused' y) : Settles Refused' wanted rest outcome := by
  cases wanted with
  | some y => exact h
  | none => exact fun result left hresult => himp result (h result left hresult)

/-- What is made of a result is settled with the result. -/
theorem Settles.map {γ : Type} {wanted : Option β} {rest : List Char}
    {outcome : Except Fault (β × List Char)} (h : Settles (fun _ => False) wanted rest outcome)
    (f : β → γ) :
    Settles (fun _ => False) (wanted.map f) rest
      (do let (y, left) ← outcome; return (f y, left)) := by
  cases wanted with
  | some y => exact bind_eq_ok_iff.2 ⟨(y, rest), h, rfl⟩
  | none =>
      intro result left hresult
      obtain ⟨found, hfound, -⟩ := bind_eq_ok_iff.1 hresult
      exact h found.1 found.2 hfound

/-- Something first, and others from what is left behind it. -/
theorem settles_cons {wanted : Option β} {others : Option (List β)} {middle rest : List Char}
    {outcome : Except Fault (β × List Char)} (next : Reader (List β))
    (hfirst : Settles Refused wanted middle outcome)
    (hnext : Settles (fun ys => ∃ y ∈ ys, Refused y) others rest (next middle)) :
    Settles (fun ys => ∃ y ∈ ys, Refused y)
      (do let y ← wanted; let ys ← others; return y :: ys) rest
      (do
        let (y, left) ← outcome
        let (ys, left) ← next left
        return (y :: ys, left)) := by
  -- what a result is put together from
  have hparts : ∀ {result left},
      (do
        let (y, left) ← outcome
        let (ys, left) ← next left
        return (y :: ys, left)) = (.ok (result, left) : Except Fault (List β × List Char)) →
      ∃ y middle' ys, outcome = .ok (y, middle') ∧ next middle' = .ok (ys, left) ∧
        result = y :: ys := by
    intro result left h
    obtain ⟨⟨y, middle'⟩, houtcome, h⟩ := bind_eq_ok_iff.1 h
    obtain ⟨⟨ys, left'⟩, hrest, h⟩ := bind_eq_ok_iff.1 h
    cases h
    exact ⟨y, middle', ys, houtcome, hrest, rfl⟩
  cases wanted with
  | none =>
      intro result left h
      obtain ⟨y, middle', ys, houtcome, -, rfl⟩ := hparts h
      exact ⟨y, List.mem_cons_self, hfirst y middle' houtcome⟩
  | some y =>
      have houtcome : outcome = .ok (y, middle) := hfirst
      cases others with
      | some ys =>
          have hrest : next middle = .ok (ys, rest) := hnext
          exact bind_eq_ok_iff.2 ⟨_, houtcome, bind_eq_ok_iff.2 ⟨_, hrest, rfl⟩⟩
      | none =>
          intro result left h
          obtain ⟨y', middle', ys, houtcome', hrest, rfl⟩ := hparts h
          cases houtcome.symm.trans houtcome'
          obtain ⟨z, hz, hrefused⟩ := hnext ys left hrest
          exact ⟨z, List.mem_cons_of_mem y hz, hrefused⟩

/-- Each item behind the first one has a comma, so there are no more items than characters. -/
theorem Follows.length_le {P : α → List Char → Prop} {xs : List α} {chars : List Char}
    (h : Follows P xs chars) : xs.length ≤ chars.length := by
  induction h with
  | nil => simp
  | cons _ _ _ _ ih =>
      simp only [List.length_cons, List.length_append]
      omega

section Items

variable {item : Reader β} {P : α → List Char → Prop} {want : α → Option β}
  (hitem : ∀ x chars, P x chars → ∀ rest, Settles Refused (want x) rest (item (chars ++ rest)))
  (hhead : ∀ x chars, P x chars → ∃ c rest, chars = c :: rest ∧ isSpace c = false ∧ c ≠ ']')

include hitem hhead

/-- The items behind the first one, up to the closing bracket. -/
theorem settles_readItems {xs : List α} {chars : List Char} (h : Follows P xs chars)
    (rest : List Char) {bound : Nat} (hbound : xs.length < bound) :
    Settles (fun ys => ∃ y ∈ ys, Refused y) (xs.mapM want) rest
      (readItems item bound (chars ++ ']' :: rest)) := by
  induction h generalizing bound with
  | @nil before hbefore =>
      obtain ⟨bound, rfl⟩ := Nat.exists_eq_succ_of_ne_zero (Nat.ne_of_gt hbound)
      show readItems item (bound + 1) (before ++ ']' :: rest) = .ok ([], rest)
      rw [readItems, skipSpace_append_cons hbefore (by decide)]
      simp
  | @cons before behind chars tail x xs hbefore hbehind hx _ ih =>
      rw [List.length_cons] at hbound
      obtain ⟨bound, rfl⟩ := Nat.exists_eq_succ_of_ne_zero (Nat.ne_of_gt (Nat.zero_lt_of_lt hbound))
      obtain ⟨c, chars', rfl, hspace, hend⟩ := hhead _ _ hx
      have hread : readItems item (bound + 1)
          (before ++ ',' :: (behind ++ (c :: chars' ++ tail)) ++ ']' :: rest) =
          (do
            let (y, left) ← item (c :: chars' ++ (tail ++ ']' :: rest))
            let (ys, left) ← readItems item bound left
            return (y :: ys, left)) := by
        simp only [List.append_assoc, List.cons_append, readItems,
          skipSpace_append_cons hbefore (show isSpace ',' = false by decide),
          skipSpace_append_cons hbehind hspace, Char.reduceEq, if_false, if_true, if_neg hend]
      rw [hread, List.mapM_cons]
      exact settles_cons (readItems item bound) (hitem _ _ hx _) (ih (by omega))

/-- The items of a list, up to the closing bracket. -/
theorem settles_readList {xs : List α} {chars : List Char} (h : Listed P xs chars)
    (rest : List Char) :
    Settles (fun ys => ∃ y ∈ ys, Refused y) (xs.mapM want) rest
      (readList item (chars ++ ']' :: rest)) := by
  cases h with
  | nil hbefore =>
      show readList item (chars ++ ']' :: rest) = .ok ([], rest)
      rw [readList, skipSpace_append_cons hbefore (by decide)]
      simp
  | @cons before chars tail x xs hbefore hx hrest =>
      obtain ⟨c, chars', rfl, hspace, hend⟩ := hhead _ _ hx
      have hread : readList item (before ++ (c :: chars' ++ tail) ++ ']' :: rest) =
          (do
            let (y, left) ← item (c :: chars' ++ (tail ++ ']' :: rest))
            let (ys, left) ← readItems item left.length left
            return (y :: ys, left)) := by
        simp only [List.append_assoc, List.cons_append, readList,
          skipSpace_append_cons hbefore hspace, if_neg hend]
      have hbound : xs.length < (tail ++ ']' :: rest).length := by
        have := hrest.length_le
        simp only [List.length_append, List.length_cons]
        omega
      rw [hread, List.mapM_cons]
      exact settles_cons (fun left => readItems item left.length left) (hitem _ _ hx _)
        (settles_readItems hitem hhead hrest rest hbound)

end Items

section Members

variable {member : Reader β} {P : α → List Char → Prop} {want : α → Option β}
  (hmember : ∀ x chars, P x chars → ∃ behind, chars = '"' :: behind ∧
    ∀ rest, Settles Refused (want x) rest (member (behind ++ rest)))

include hmember

/-- The members behind the first one, up to the closing brace. -/
theorem settles_readMembers {xs : List α} {chars : List Char} (h : Follows P xs chars)
    (rest : List Char) {bound : Nat} (hbound : xs.length < bound) :
    Settles (fun ys => ∃ y ∈ ys, Refused y) (xs.mapM want) rest
      (readMembers member bound (chars ++ '}' :: rest)) := by
  induction h generalizing bound with
  | @nil before hbefore =>
      obtain ⟨bound, rfl⟩ := Nat.exists_eq_succ_of_ne_zero (Nat.ne_of_gt hbound)
      show readMembers member (bound + 1) (before ++ '}' :: rest) = .ok ([], rest)
      rw [readMembers, skipSpace_append_cons hbefore (by decide)]
      simp
  | @cons before behind chars tail x xs hbefore hbehind hx _ ih =>
      rw [List.length_cons] at hbound
      obtain ⟨bound, rfl⟩ := Nat.exists_eq_succ_of_ne_zero (Nat.ne_of_gt (Nat.zero_lt_of_lt hbound))
      obtain ⟨chars', rfl, hsettles⟩ := hmember _ _ hx
      have hread : readMembers member (bound + 1)
          (before ++ ',' :: (behind ++ ('"' :: chars' ++ tail)) ++ '}' :: rest) =
          (do
            let (y, left) ← member (chars' ++ (tail ++ '}' :: rest))
            let (ys, left) ← readMembers member bound left
            return (y :: ys, left)) := by
        simp only [List.append_assoc, List.cons_append, readMembers,
          skipSpace_append_cons hbefore (show isSpace ',' = false by decide),
          skipSpace_append_cons hbehind (show isSpace '"' = false by decide), Char.reduceEq,
          if_false, if_true]
      rw [hread, List.mapM_cons]
      exact settles_cons (readMembers member bound) (hsettles _) (ih (by omega))

/-- The members of an object, up to the closing brace. -/
theorem settles_readMap {xs : List α} {chars : List Char} (h : Listed P xs chars)
    (rest : List Char) :
    Settles (fun ys => ∃ y ∈ ys, Refused y) (xs.mapM want) rest
      (readMap member (chars ++ '}' :: rest)) := by
  cases h with
  | nil hbefore =>
      show readMap member (chars ++ '}' :: rest) = .ok ([], rest)
      rw [readMap, skipSpace_append_cons hbefore (by decide)]
      simp
  | @cons before chars tail x xs hbefore hx hrest =>
      obtain ⟨chars', rfl, hsettles⟩ := hmember _ _ hx
      have hread : readMap member (before ++ ('"' :: chars' ++ tail) ++ '}' :: rest) =
          (do
            let (y, left) ← member (chars' ++ (tail ++ '}' :: rest))
            let (ys, left) ← readMembers member left.length left
            return (y :: ys, left)) := by
        simp only [List.append_assoc, List.cons_append, readMap,
          skipSpace_append_cons hbefore (show isSpace '"' = false by decide), Char.reduceEq,
          if_false, if_true]
      have hbound : xs.length < (tail ++ '}' :: rest).length := by
        have := hrest.length_le
        simp only [List.length_append, List.length_cons]
        omega
      rw [hread, List.mapM_cons]
      exact settles_cons (fun left => readMembers member left.length left) (hsettles _)
        (settles_readMembers hmember hrest rest hbound)

end Members

/-- What is wanted of a member: its key, if it is one of those wanted, and what is wanted of its
value. -/
def wantMember {κ γ : Type} (key : String → Option κ) (want : Value → Option γ)
    (m : String × Value) : Option (κ × γ) := do
  let k ← key m.1
  let v ← want m.2
  return (k, v)

/-- A member from behind the opening quote of its key. -/
theorem settles_readMember {κ γ : Type} {key : String → Option κ} {refusal : String → Problem}
    {value : Reader γ} {want : Value → Option γ}
    (hvalue : ∀ v chars, Spells v chars → ∀ before, Blank before → ∀ rest,
      Settles (fun _ => False) (want v) rest (value (before ++ (chars ++ rest))))
    {m : String × Value} {chars : List Char} (h : SpellsMember Spells m chars) :
    ∃ behind, chars = '"' :: behind ∧ ∀ rest,
      Settles (fun _ => False) (wantMember key want m) rest
        (readMember key refusal value (behind ++ rest)) := by
  cases h with
  | @mk name content spelled before behind chars hkey hbefore hbehind hcontent =>
      refine ⟨_, rfl, fun rest => ?_⟩
      cases hname : key name with
      | none =>
          have hwant : wantMember key want (name, content) = none := by
            simp [wantMember, hname]
          have hread : readMember key refusal value
              (spelled ++ '"' :: (before ++ ':' :: (behind ++ chars)) ++ rest) =
              .error (.before (refusal name) (before ++ ':' :: (behind ++ (chars ++ rest)))) := by
            simp [readMember, readString_of_spellsText hkey, bind, Except.bind, hname]
          rw [hwant, hread]
          intro found left hfound
          cases hfound
      | some k =>
          have hwant : wantMember key want (name, content) =
              (want content).map fun found => (k, found) := by
            simp only [wantMember, hname]
            cases want content <;> rfl
          have hread : readMember key refusal value
              (spelled ++ '"' :: (before ++ ':' :: (behind ++ chars)) ++ rest) = (do
                let (found, left) ← value (behind ++ (chars ++ rest))
                return ((k, found), left)) := by
            simp [readMember, readString_of_spellsText hkey, bind, Except.bind, hname,
              skipSpace_append_cons hbefore (show isSpace ':' = false by decide)]
          rw [hwant, hread]
          exact (hvalue _ _ hcontent _ hbehind rest).map fun found => (k, found)

end Settles

/-! ### Values -/

/-- Characters that a scalar does not begin with: those that begin or end other values, and
blanks. -/
def marks : List Char := ['"', '[', ']', '{', ' ', '\t', '\n', '\r']

/-- A character with which the text of a value may begin. -/
def Value.Opens (c : Char) : Value → Prop
  | .text _ => c = '"'
  | .list _ => c = '['
  | .object _ => c = '{'
  | _ => c ∉ marks

/-- A value begins with a character of its kind, so only a text begins with a quote. -/
theorem Spells.exists_head {v : Value} {chars : List Char} (h : Spells v chars) :
    ∃ c rest, chars = c :: rest ∧ v.Opens c := by
  cases h with
  | null => exact ⟨_, _, rfl, (by decide : 'n' ∉ marks)⟩
  | yes => exact ⟨_, _, rfl, (by decide : 't' ∉ marks)⟩
  | no => exact ⟨_, _, rfl, (by decide : 'f' ∉ marks)⟩
  | text => exact ⟨_, _, rfl, rfl⟩
  | list => exact ⟨_, _, rfl, rfl⟩
  | object => exact ⟨_, _, rfl, rfl⟩
  | number hnumeral =>
      obtain ⟨sign, whole, places, power, rfl, hsign, ⟨⟨hne, hdigits⟩, -⟩, -, -⟩ := hnumeral.parts
      obtain ⟨d, digits, rfl⟩ := List.exists_cons_of_ne_nil hne
      have hdigit := hdigits d List.mem_cons_self
      have hmark : ∀ c ∈ marks, c.isDigit = false := by
        have hall : (marks.all fun c => !c.isDigit) = true := by decide
        simpa using hall
      rcases hsign with rfl | rfl
      · exact ⟨d, _, rfl, fun hd => Bool.false_ne_true ((hmark d hd).symm.trans hdigit)⟩
      · exact ⟨'-', _, rfl, (by decide : '-' ∉ marks)⟩

namespace Value.Opens

variable {v : Value} {c : Char} (h : v.Opens c)

include h

theorem cases_mark : (c = '"' ∨ c = '[' ∨ c = '{') ∨ c ∉ marks := by
  cases v with
  | text => exact Or.inl (Or.inl h)
  | list => exact Or.inl (Or.inr (Or.inl h))
  | object => exact Or.inl (Or.inr (Or.inr h))
  | null => exact Or.inr h
  | boolean => exact Or.inr h
  | number => exact Or.inr h

theorem isSpace_eq : isSpace c = false := by
  rcases h.cases_mark with (rfl | rfl | rfl) | hmark
  · decide
  · decide
  · decide
  · simp only [marks, List.mem_cons, not_or] at hmark
    simp [isSpace, hmark]

theorem ne_bracket : c ≠ ']' := by
  rcases h.cases_mark with (rfl | rfl | rfl) | hmark
  · decide
  · decide
  · decide
  · intro hc
    exact hmark (hc ▸ by decide)

omit h in
/-- Only texts begin with a quote. -/
theorem exists_text (h : v.Opens '"') : ∃ text, v = .text text := by
  cases v with
  | text text => exact ⟨text, rfl⟩
  | list => exact absurd (show '"' = '[' from h) (by decide)
  | object => exact absurd (show '"' = '{' from h) (by decide)
  | _ => exact absurd (show '"' ∉ marks from h) (by decide)

omit h in
/-- Only lists begin with a bracket. -/
theorem exists_list (h : v.Opens '[') : ∃ items, v = .list items := by
  cases v with
  | list items => exact ⟨items, rfl⟩
  | text => exact absurd (show '[' = '"' from h) (by decide)
  | object => exact absurd (show '[' = '{' from h) (by decide)
  | _ => exact absurd (show '[' ∉ marks from h) (by decide)

omit h in
/-- Only objects begin with a brace. -/
theorem exists_object (h : v.Opens '{') : ∃ members, v = .object members := by
  cases v with
  | object members => exact ⟨members, rfl⟩
  | text => exact absurd (show '{' = '"' from h) (by decide)
  | list => exact absurd (show '{' = '[' from h) (by decide)
  | _ => exact absurd (show '{' ∉ marks from h) (by decide)

end Value.Opens

theorem eq_of_readWord {α : Type} {value result : α} {word rest left : List Char}
    (h : readWord value word rest = .ok (result, left)) : result = value := by
  induction word generalizing rest with
  | nil =>
      cases h
      rfl
  | cons w word ih =>
      cases rest with
      | nil => cases h
      | cons c rest =>
          rw [readWord] at h
          split at h
          · exact ih h
          · cases h

/-- Null, a truth value or a number. -/
def Value.IsScalar : Value → Prop
  | .null | .boolean _ | .number _ => True
  | _ => False

/-- What does not begin with a quote is not read as a text, and no list or map is read here. -/
theorem isScalar_of_readPlain {c : Char} (hquote : c ≠ '"') {v : Value} {rest left : List Char}
    (h : readPlain c rest = .ok (v, left)) : v.IsScalar := by
  have hnumber : ∀ {read : Except Fault (Number × List Char)},
      read.map (fun r => (Value.number r.1, r.2)) = .ok (v, left) → v.IsScalar := by
    intro read hread
    cases read with
    | error fault => cases hread
    | ok found =>
        cases hread
        trivial
  unfold readPlain at h
  rw [if_neg hquote] at h
  split at h
  · rw [eq_of_readWord h]
    trivial
  split at h
  · rw [eq_of_readWord h]
    trivial
  split at h
  · rw [eq_of_readWord h]
    trivial
  split at h
  · exact hnumber h
  split at h
  · exact hnumber h
  · cases h

section ReadValue

variable {before rest left : List Char} (hbefore : Blank before)

include hbefore

theorem readValue_plain {c : Char} (hspace : isSpace c = false) (hlist : c ≠ '[')
    (hobject : c ≠ '{') (room : Nat) (rest : List Char) :
    readValue room (before ++ c :: rest) = readPlain c rest := by
  rw [readValue.eq_def]
  simp only [skipSpace_append_cons hbefore hspace, if_neg hlist, if_neg hobject]

theorem readValue_list (room : Nat) (rest : List Char) :
    readValue (room + 1) (before ++ '[' :: rest) =
      (readList (readValue room) rest).map fun r => (.list r.1, r.2) := by
  rw [readValue.eq_def]
  simp only [skipSpace_append_cons hbefore (show isSpace '[' = false by decide), if_true]

theorem readValue_object (room : Nat) (rest : List Char) :
    readValue (room + 1) (before ++ '{' :: rest) =
      (readMap (readMember some (fun _ => .keyNotText) (readValue room)) rest).map fun r =>
        (.object r.1, r.2) := by
  rw [readValue.eq_def]
  simp only [skipSpace_append_cons hbefore (show isSpace '{' = false by decide), Char.reduceEq,
    if_false, if_true]

theorem readValue_zero {c : Char} (hopens : c = '[' ∨ c = '{') (rest : List Char) :
    readValue 0 (before ++ c :: rest) = .error (.behind .nestedTooDeep (c :: rest)) := by
  rw [readValue.eq_def]
  rcases hopens with rfl | rfl
  · simp only [skipSpace_append_cons hbefore (show isSpace '[' = false by decide), if_true]
  · simp only [skipSpace_append_cons hbefore (show isSpace '{' = false by decide), Char.reduceEq,
      if_false, if_true]

/-- What begins with a quote is read as the text that it spells. -/
theorem readValue_text {text : String} {chars : List Char} (h : SpellsText text.toList chars)
    (room : Nat) (rest : List Char) :
    readValue room (before ++ ('"' :: (chars ++ ['"']) ++ rest)) = .ok (.text text, rest) := by
  simp only [List.cons_append, List.append_assoc]
  rw [readValue_plain hbefore (by decide) (by decide) (by decide)]
  simp [readPlain, readString_of_spellsText h, Except.map]

/-- What begins with another character than a quote is read as another value than a text. -/
theorem not_text_of_readValue {c : Char} (hspace : isSpace c = false) (hquote : c ≠ '"')
    {room : Nat} {v : Value} (h : readValue room (before ++ c :: rest) = .ok (v, left)) :
    v.IsScalar ∨ (c = '[' ∧ ∃ items, v = .list items) ∨ ∃ members, v = .object members := by
  by_cases hlist : c = '['
  · subst hlist
    cases room with
    | zero =>
        rw [readValue_zero hbefore (Or.inl rfl)] at h
        cases h
    | succ room =>
        rw [readValue_list hbefore] at h
        cases hread : readList (readValue room) rest with
        | error fault =>
            rw [hread] at h
            cases h
        | ok found =>
            rw [hread] at h
            cases h
            exact Or.inr (Or.inl ⟨rfl, _, rfl⟩)
  · by_cases hobject : c = '{'
    · subst hobject
      cases room with
      | zero =>
          rw [readValue_zero hbefore (Or.inr rfl)] at h
          cases h
      | succ room =>
          rw [readValue_object hbefore] at h
          cases hread : readMap (readMember some (fun _ => .keyNotText) (readValue room)) rest with
          | error fault =>
              rw [hread] at h
              cases h
          | ok found =>
              rw [hread] at h
              cases h
              exact Or.inr (Or.inr ⟨_, rfl⟩)
    · rw [readValue_plain hbefore hspace hlist hobject] at h
      exact Or.inl (isScalar_of_readPlain hquote h)

end ReadValue

/-! ### Wanted maps -/

/-- What is wanted of the members of an object; nothing, if it is no object. -/
def Value.wantMembers {κ γ : Type} (key : String → Option κ) (want : Value → Option γ) :
    Value → Option (List (κ × γ))
  | .object members => members.mapM (wantMember key want)
  | _ => none

/-- Where a map is wanted, an object settles what its members settle, and nothing else will do. -/
theorem settles_readWantedMap {κ γ : Type} {key : String → Option κ} {refusal : String → Problem}
    {value : Nat → Reader γ} {want : Value → Option γ} {room : Nat}
    (hvalue : ∀ v chars, Spells v chars → ∀ before, Blank before → ∀ rest,
      Settles (fun _ => False) (want v) rest (value room (before ++ (chars ++ rest))))
    {v : Value} {chars : List Char} (h : Spells v chars) {before : List Char}
    (hbefore : Blank before) (rest : List Char) :
    Settles (fun _ => False) (v.wantMembers key want) rest
      (readWantedMap (room + 1) (fun room => readMember key refusal (value room))
        (before ++ (chars ++ rest))) := by
  by_cases hobject : ∃ members, v = .object members
  · obtain ⟨members, rfl⟩ := hobject
    cases h with
    | @object _ inner hmembers =>
        have hread : readWantedMap (room + 1) (fun room => readMember key refusal (value room))
            (before ++ ('{' :: (inner ++ ['}']) ++ rest)) =
              readMap (readMember key refusal (value room)) (inner ++ '}' :: rest) := by
          simp only [List.cons_append, List.append_assoc, List.nil_append, readWantedMap,
            skipSpace_append_cons hbefore (show isSpace '{' = false by decide), if_true]
        rw [hread]
        exact (settles_readMap (fun m chars hm => settles_readMember hvalue hm) hmembers rest).mono
          fun _ ⟨_, _, hfalse⟩ => hfalse
  · have hnone : v.wantMembers key want = none := by
      cases v with
      | object members => exact absurd ⟨members, rfl⟩ hobject
      | _ => rfl
    rw [hnone]
    intro result left hresult
    obtain ⟨c, tail, rfl, hopens⟩ := h.exists_head
    have hbrace : c ≠ '{' := by
      intro hbrace
      subst hbrace
      exact hobject hopens.exists_object
    simp only [List.cons_append, readWantedMap,
      skipSpace_append_cons hbefore hopens.isSpace_eq, if_neg hbrace] at hresult
    split at hresult
    · cases hresult
    · obtain ⟨found, -, hfound⟩ := bind_eq_ok_iff.1 hresult
      cases hfound

end TermStore.Json
