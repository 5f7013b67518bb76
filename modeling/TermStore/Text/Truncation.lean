import TermStore.Text.Utf8

/-!
# Cutting a text at a byte limit

A column holds at most so many bytes, and a cut must not split a character. `truncate` keeps the
longest run of leading characters whose UTF-8 form fits: it stops at the first character that
does not fit, since every longer prefix would contain that character as well.

In the bytes of the text the cut is the last place within the limit where a character begins or
the text ends. `cutPlace?` looks for that place as a search from the limit backwards.
-/

namespace TermStore.Text

/-- The number of bytes that the UTF-8 form of some characters takes. -/
def byteLength : List Char → Nat
  | [] => 0
  | c :: rest => c.utf8Size + byteLength rest

/-- The longest leading run of characters that takes at most `limit` bytes. -/
def fitting (limit : Nat) : List Char → List Char
  | [] => []
  | c :: rest => if c.utf8Size ≤ limit then c :: fitting (limit - c.utf8Size) rest else []

/-- Cuts a text to at most `limit` bytes without splitting a character. -/
def truncate (limit : Nat) (text : String) : String :=
  String.ofList (fitting limit text.toList)

/-- Does a character begin at the index of some bytes, or do they end there? -/
def isBoundary (bytes : List UInt8) (index : Nat) : Bool :=
  match bytes[index]? with
  | some byte => index = 0 || !Utf8.isTail byte
  | none => index = bytes.length

/-- The last boundary at or before an index, looked for one byte at a time; `none` if the search
leaves the bytes. -/
def boundaryBefore? (bytes : List UInt8) : (index : Nat) → Option Nat
  | 0 => if isBoundary bytes 0 then some 0 else none
  | index + 1 =>
    if isBoundary bytes (index + 1) then some (index + 1) else boundaryBefore? bytes index

/-- The number of bytes that are left of a text cut at a limit, found in its UTF-8 form. -/
def cutPlace? (limit : Nat) (text : String) : Option Nat :=
  if (Utf8.encode text).length ≤ limit then some (Utf8.encode text).length
  else boundaryBefore? (Utf8.encode text) limit

@[simp] theorem byteLength_nil : byteLength [] = 0 := rfl

@[simp] theorem byteLength_cons (c : Char) (rest : List Char) :
    byteLength (c :: rest) = c.utf8Size + byteLength rest := rfl

@[simp] theorem byteLength_append (left right : List Char) :
    byteLength (left ++ right) = byteLength left + byteLength right := by
  induction left with
  | nil => simp
  | cons c rest ih => simp [ih, Nat.add_assoc]

/-- What is kept is a prefix of the text. -/
theorem fitting_prefix (limit : Nat) (text : List Char) : fitting limit text <+: text := by
  induction text generalizing limit with
  | nil => exact List.prefix_refl []
  | cons c rest ih =>
    unfold fitting
    split
    · exact List.cons_prefix_cons.2 ⟨rfl, ih _⟩
    · exact List.nil_prefix

/-- What is kept fits the limit. -/
theorem byteLength_fitting_le (limit : Nat) (text : List Char) :
    byteLength (fitting limit text) ≤ limit := by
  induction text generalizing limit with
  | nil => simp [fitting]
  | cons c rest ih =>
    unfold fitting
    split
    · have := ih (limit - c.utf8Size)
      simp only [byteLength_cons]
      omega
    · simp

/-- The prefixes of what is kept are the prefixes of the text that fit the limit. -/
theorem prefix_fitting_iff {limit : Nat} {front text : List Char} :
    front <+: fitting limit text ↔ front <+: text ∧ byteLength front ≤ limit := by
  induction text generalizing limit front with
  | nil =>
    rw [fitting, List.prefix_nil]
    constructor
    · rintro rfl
      exact ⟨rfl, Nat.zero_le limit⟩
    · exact And.left
  | cons c rest ih =>
    cases front with
    | nil => simp
    | cons d front =>
      rw [fitting, List.cons_prefix_cons, byteLength_cons]
      split
      · next hfits =>
        rw [List.cons_prefix_cons, ih, and_assoc]
        refine and_congr_right fun hsame => and_congr_right fun _ => ?_
        subst hsame
        omega
      · next hfits =>
        rw [List.prefix_nil]
        constructor
        · intro h
          cases h
        · rintro ⟨⟨rfl, -⟩, hlength⟩
          omega

/-- Cutting twice is cutting at the smaller limit. -/
theorem fitting_fitting (limit other : Nat) (text : List Char) :
    fitting other (fitting limit text) = fitting (min limit other) text := by
  -- both have the same prefixes, so each is a prefix of the other
  have hsame : ∀ front, front <+: fitting other (fitting limit text) ↔
      front <+: fitting (min limit other) text := by
    intro front
    rw [prefix_fitting_iff, prefix_fitting_iff, prefix_fitting_iff, and_assoc, Nat.le_min]
  have hleft := (hsame _).1 (List.prefix_refl _)
  exact hleft.eq_of_length_le ((hsame _).2 (List.prefix_refl _)).length_le

end TermStore.Text
