import TermStore.Proofs.JsonTexts

/-!
# Printed JSON

What is printed is a text of the grammar: an escaped character spells that character, a text is
spelled by its escaped characters, and lists and objects are spelled by what they hold, with line
breaks for blanks.
-/

namespace TermStore.Json

/-! ### Printed texts -/

theorem blank_lineBreak (level : Nat) : Blank (lineBreak level) := by
  intro c hc
  rcases List.mem_cons.1 hc with rfl | hc
  · exact Or.inr (Or.inr (Or.inl rfl))
  · exact Or.inl (List.eq_of_mem_replicate hc)

theorem isHex_hexDigit {n : Nat} (h : n < 16) : IsHex (hexDigit n) n := by
  have hall : ∀ n < 16, "0123456789abcdef".toList[n]? = some (hexDigit n) := by decide +kernel
  exact Or.inl (hall n h)

/-- The escape of a character spells it. -/
theorem SpellsText.escapeChar {text chars : List Char} (h : SpellsText text chars) (c : Char) :
    SpellsText (c :: text) (escapeChar c ++ chars) := by
  unfold Json.escapeChar
  split_ifs with hquote hbackslash hb ht hn hf hr hcontrol
  · subst hquote
    exact .letter (by decide) h
  · subst hbackslash
    exact .letter (by decide) h
  · subst hb
    exact .letter (by decide) h
  · subst ht
    exact .letter (by decide) h
  · subst hn
    exact .letter (by decide) h
  · subst hf
    exact .letter (by decide) h
  · subst hr
    exact .letter (by decide) h
  · have hzero : IsHex '0' 0 := Or.inl rfl
    have hunit := SpellsUnit.mk hzero hzero (isHex_hexDigit (show c.toNat / 16 < 16 by omega))
      (isHex_hexDigit (show c.toNat % 16 < 16 by omega))
    rw [show ((0 * 16 + 0) * 16 + c.toNat / 16) * 16 + c.toNat % 16 = c.toNat by omega] at hunit
    exact .unit hunit h
  · exact .plain hquote hbackslash (Nat.not_lt.1 hcontrol) h

theorem spellsText_escape (text : List Char) : SpellsText text (escape text) := by
  induction text with
  | nil => exact .nil
  | cons c rest ih => exact ih.escapeChar c

/-! ### Printed values -/

/-- A value whose layout is one of its texts. -/
def Value.PrintsWell (value : Value) : Prop := ∀ level, Spells value (value.print level)

theorem printsWell_text (text : String) : (Value.text text).PrintsWell := by
  intro level
  rw [Value.print]
  exact .text (spellsText_escape text.toList)

theorem follows_printItems {items : List Value} (h : ∀ item ∈ items, item.PrintsWell) (level : Nat)
    {behind : List Char} (hbehind : Blank behind) :
    Follows Spells items (printItems level items ++ behind) := by
  induction items with
  | nil => exact .nil hbehind
  | cons item rest ih =>
      have hrest := ih fun other hmem => h other (List.mem_cons_of_mem item hmem)
      rw [printItems]
      simp only [List.cons_append, List.append_assoc]
      exact .cons blank_nil (blank_lineBreak level) (h item List.mem_cons_self level) hrest

theorem printsWell_list {items : List Value} (h : ∀ item ∈ items, item.PrintsWell) :
    (Value.list items).PrintsWell := by
  intro level
  cases items with
  | nil =>
      rw [Value.print]
      exact .list (.nil blank_nil)
  | cons item rest =>
      have hrest := follows_printItems (fun other hmem => h other (List.mem_cons_of_mem item hmem))
        (level + 1) (blank_lineBreak level)
      have hlisted := Listed.cons (blank_lineBreak (level + 1))
        (h item List.mem_cons_self (level + 1)) hrest
      rw [Value.print]
      simpa only [List.append_assoc] using Spells.list hlisted

theorem spellsMember_print (key : String) {value : Value} (h : value.PrintsWell) (level : Nat) :
    SpellsMember Spells (key, value) (printText key ++ ':' :: ' ' :: value.print level) := by
  have hmember := SpellsMember.mk (spellsText_escape key.toList) blank_nil
    (show Blank [' '] by simp [Blank]) (h level)
  simpa [printText] using hmember

theorem follows_printMembers {members : List (String × Value)}
    (h : ∀ m ∈ members, m.2.PrintsWell) (level : Nat) {behind : List Char}
    (hbehind : Blank behind) :
    Follows (SpellsMember Spells) members (printMembers level members ++ behind) := by
  induction members with
  | nil => exact .nil hbehind
  | cons m rest ih =>
      have hrest := ih fun other hmem => h other (List.mem_cons_of_mem m hmem)
      have hmember := spellsMember_print m.1 (h m List.mem_cons_self) level
      rw [printMembers]
      simpa using Follows.cons blank_nil (blank_lineBreak level) hmember hrest

theorem printsWell_object {members : List (String × Value)}
    (h : ∀ m ∈ members, m.2.PrintsWell) : (Value.object members).PrintsWell := by
  intro level
  cases members with
  | nil =>
      rw [Value.print]
      exact .object (.nil blank_nil)
  | cons m rest =>
      have hrest := follows_printMembers
        (fun other hmem => h other (List.mem_cons_of_mem m hmem)) (level + 1)
        (blank_lineBreak level)
      have hmember := spellsMember_print m.1 (h m List.mem_cons_self) (level + 1)
      have hlisted := Listed.cons (blank_lineBreak (level + 1)) hmember hrest
      rw [Value.print]
      simpa using Spells.object hlisted

/-- A value that prints well is the value of its layout. -/
theorem isText_pretty {value : Value} (h : value.PrintsWell) :
    IsText value value.pretty.toList := by
  refine ⟨[], value.print 0, [], blank_nil, h 0, blank_nil, ?_⟩
  rw [Value.pretty, String.toList_ofList, List.append_nil, List.nil_append]

end TermStore.Json
