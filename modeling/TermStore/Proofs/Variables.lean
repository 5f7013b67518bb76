import TermStore.Project.VariableFile

/-!
# Variables without NUL

No variable of an environment can hold a NUL, so a file of variables that gives one such a value
ends the program. A file can do that only by a NUL of its own: reading a value puts together
characters of the file, line breaks and values of variables, and of those none is a NUL where the
file has none. So a file without a NUL is loaded, and what it leaves is an environment that the
next file can be loaded into.
-/

namespace TermStore

open Files (Path Tree)

/-- No character of the text is a NUL. This holds of the parts of such a text and of such texts put
together, and more than that reading does not do to them. -/
def NulFree (text : List Char) : Prop := ∀ c ∈ text, c.toNat ≠ 0

namespace NulFree

variable {text rest : List Char} {c : Char}

theorem nil : NulFree [] := fun _ hc => absurd hc List.not_mem_nil

theorem of_subset (h : NulFree rest) (hsub : text ⊆ rest) : NulFree text :=
  fun c hc => h c (hsub hc)

theorem head (h : NulFree (c :: rest)) : c.toNat ≠ 0 := h c List.mem_cons_self

theorem tail (h : NulFree (c :: rest)) : NulFree rest := h.of_subset (List.subset_cons_self _ _)

theorem cons (hc : c.toNat ≠ 0) (h : NulFree rest) : NulFree (c :: rest) :=
  List.forall_mem_cons.2 ⟨hc, h⟩

theorem append (h : NulFree text) (hrest : NulFree rest) : NulFree (text ++ rest) :=
  List.forall_mem_append.2 ⟨h, hrest⟩

end NulFree

/-! ### Reading bytes -/

namespace Text.Utf8

/-- A character read in front of others. -/
theorem nulFree_of_map {read : Except Fault (List Char)} {c : Char} {text : List Char}
    (hread : ∀ rest, read = .ok rest → NulFree rest) (hc : c.toNat ≠ 0)
    (h : read.map (c :: ·) = .ok text) : NulFree text := by
  cases read with
  | error fault => cases h
  | ok rest =>
      cases h
      exact (hread rest rfl).cons hc

/-- A number of a character other than NUL. -/
def IsCode (n : Nat) : Prop := n.isValidChar ∧ n ≠ 0

theorem IsCode.toNat_ne_zero {n : Nat} (h : IsCode n) : (Char.ofNat n).toNat ≠ 0 := by
  unfold Char.ofNat
  rw [dif_pos h.1]
  exact h.2

/-- A byte below `0x80` stands for itself, so the only NUL among these is the byte zero. The longer
sequences are another matter: their bytes are never zero, and what is to be seen of them is that the
number they are put together to is not zero, and is one of a character. -/
theorem isCode_one {a : UInt8} (ha : a < 0x80) (hne : a ≠ 0) : IsCode a.toNat := by
  have hne : a.toNat ≠ 0 := fun h => hne (UInt8.toNat_inj.1 h)
  have ha : a.toNat < 0x80 := UInt8.lt_iff_toNat_lt.1 ha
  unfold IsCode Nat.isValidChar
  omega

theorem within_iff {low high a : UInt8} :
    (low ≤ a && a ≤ high) = true ↔ low.toNat ≤ a.toNat ∧ a.toNat ≤ high.toNat := by
  simp [UInt8.le_iff_toNat_le]

theorem isTail_bounds {b : UInt8} (h : isTail b = true) : 0x80 ≤ b.toNat ∧ b.toNat ≤ 0xBF :=
  within_iff.1 h

/-- The bounds of a second byte, which are narrower behind two of the first bytes. -/
theorem second_bounds {a b first last low high : UInt8} (hne : first.toNat ≠ last.toNat)
    (hlow : 0x80 ≤ low.toNat) (hhigh : high.toNat ≤ 0xBF)
    (h : (if a == first then low ≤ b && b ≤ 0xBF
      else if a == last then 0x80 ≤ b && b ≤ high else isTail b) = true) :
    0x80 ≤ b.toNat ∧ b.toNat ≤ 0xBF ∧ (a.toNat = first.toNat → low.toNat ≤ b.toNat) ∧
      (a.toNat = last.toNat → b.toNat ≤ high.toNat) := by
  simp only [beq_iff_eq, ← UInt8.toNat_inj] at h
  split at h
  · have hb : low.toNat ≤ b.toNat ∧ b.toNat ≤ 0xBF := within_iff.1 h
    omega
  · split at h
    · have hb : 0x80 ≤ b.toNat ∧ b.toNat ≤ high.toNat := within_iff.1 h
      omega
    · have hb := isTail_bounds h
      omega

/-- Behind `0xE0` a second byte below `0xA0` would spell a number that two bytes are enough for, and
behind `0xED` one above `0x9F` would spell a surrogate. -/
theorem startsThree_bounds {a b : UInt8} (h : startsThree a b = true) :
    0x80 ≤ b.toNat ∧ b.toNat ≤ 0xBF ∧ (a.toNat = 0xE0 → 0xA0 ≤ b.toNat) ∧
      (a.toNat = 0xED → b.toNat ≤ 0x9F) :=
  second_bounds (by decide) (by decide) (by decide) h

/-- Behind `0xF0` a second byte below `0x90` would spell a number that three bytes are enough for,
and behind `0xF4` one above `0x8F` would spell a number beyond the last character. -/
theorem startsFour_bounds {a b : UInt8} (h : startsFour a b = true) :
    0x80 ≤ b.toNat ∧ b.toNat ≤ 0xBF ∧ (a.toNat = 0xF0 → 0x90 ≤ b.toNat) ∧
      (a.toNat = 0xF4 → b.toNat ≤ 0x8F) :=
  second_bounds (by decide) (by decide) (by decide) h

/-- The first byte is at least `0xC2`, so the number is at least `0x80`. -/
theorem isCode_two {a b : UInt8} (ha : (0xC2 ≤ a && a ≤ 0xDF) = true) (hb : isTail b = true) :
    IsCode (a.toNat % 0x20 * 0x40 + payload b) := by
  have ha : 0xC2 ≤ a.toNat ∧ a.toNat ≤ 0xDF := within_iff.1 ha
  have hb := isTail_bounds hb
  unfold IsCode Nat.isValidChar payload
  omega

/-- With the bounds of the second byte the number is at least `0x800`, and outside of the range of
the surrogates. -/
theorem isCode_three {a b c : UInt8} (ha : (0xE0 ≤ a && a ≤ 0xEF) = true)
    (hb : startsThree a b = true) (hc : isTail c = true) :
    IsCode ((a.toNat % 0x10 * 0x40 + payload b) * 0x40 + payload c) := by
  have ha : 0xE0 ≤ a.toNat ∧ a.toNat ≤ 0xEF := within_iff.1 ha
  have hb := startsThree_bounds hb
  have hc := isTail_bounds hc
  unfold IsCode Nat.isValidChar payload
  omega

/-- With the bounds of the second byte the number is at least `0x10000`, and at most that of the
last character. -/
theorem isCode_four {a b c d : UInt8} (ha : (0xF0 ≤ a && a ≤ 0xF4) = true)
    (hb : startsFour a b = true) (hc : isTail c = true) (hd : isTail d = true) :
    IsCode (((a.toNat % 0x08 * 0x40 + payload b) * 0x40 + payload c) * 0x40 + payload d) := by
  have ha : 0xF0 ≤ a.toNat ∧ a.toNat ≤ 0xF4 := within_iff.1 ha
  have hb := startsFour_bounds hb
  have hc := isTail_bounds hc
  have hd := isTail_bounds hd
  unfold IsCode Nat.isValidChar payload
  omega

/-- Bytes that are no NUL spell no NUL. -/
theorem decodeFrom_nulFree {index : Nat} {bytes : List UInt8} {text : List Char}
    (hbytes : 0 ∉ bytes) (h : decodeFrom index bytes = .ok text) : NulFree text := by
  -- one case for each length of a sequence; in all the others the bytes are not read
  fun_induction decodeFrom index bytes generalizing text with
  | case1 =>
      cases h
      exact NulFree.nil
  | case2 index a rest ha ih =>
      simp only [List.mem_cons, not_or] at hbytes
      exact nulFree_of_map (fun rest => ih hbytes.2)
        (isCode_one ha (Ne.symm hbytes.1)).toNat_ne_zero h
  | case4 index a _ ha b rest hb ih =>
      simp only [List.mem_cons, not_or] at hbytes
      exact nulFree_of_map (fun rest => ih hbytes.2.2) (isCode_two ha hb).toNat_ne_zero h
  | case8 index a _ _ ha b hb c rest hc ih =>
      simp only [List.mem_cons, not_or] at hbytes
      exact nulFree_of_map (fun rest => ih hbytes.2.2.2) (isCode_three ha hb hc).toNat_ne_zero h
  | case14 index a _ _ _ ha b hb c hc d rest hd ih =>
      simp only [List.mem_cons, not_or] at hbytes
      exact nulFree_of_map (fun rest => ih hbytes.2.2.2.2)
        (isCode_four ha hb hc hd).toNat_ne_zero h
  | _ => cases h

/-- The same for a line that is read as a whole. -/
theorem decode_nulFree {bytes : List UInt8} {text : String} (hbytes : 0 ∉ bytes)
    (h : (decode bytes).toOption = some text) : NulFree text.toList := by
  unfold decode at h
  cases hread : decodeFrom 0 bytes with
  | error fault =>
      rw [hread] at h
      cases h
  | ok read =>
      rw [hread] at h
      cases h
      rw [String.toList_ofList]
      exact decodeFrom_nulFree hbytes hread

end Text.Utf8

namespace Project

/-- No variable holds a NUL. -/
def Environment.NulFree (environment : Environment) : Prop :=
  ∀ name value, environment.get? name = some value → TermStore.NulFree value.toList

namespace VariableFile

variable {environment said : Environment} {meaning : String → String}

/-! ### Lines -/

/-- The bytes of the lines are bytes of the file. -/
theorem mem_of_mem_splitLines {bytes line : List UInt8} (h : line ∈ splitLines bytes) :
    line ⊆ bytes := by
  induction bytes generalizing line with
  | nil => cases h
  | cons byte rest ih =>
      unfold splitLines at h
      split at h
      · rcases List.mem_cons.1 h with rfl | h
        · exact List.cons_subset_cons _ (List.nil_subset _)
        · exact List.subset_cons_of_subset _ (ih h)
      · split at h
        · obtain rfl := List.mem_singleton.1 h
          exact List.cons_subset_cons _ (List.nil_subset _)
        · next first lines hlines =>
          rw [hlines] at ih
          rcases List.mem_cons.1 h with rfl | h
          · exact List.cons_subset_cons _ (ih List.mem_cons_self)
          · exact List.subset_cons_of_subset _ (ih (List.mem_cons_of_mem _ h))

/-- What a line keeps in front of a comment is made of its characters. -/
theorem scan_subset (state : Scan) (line : List Char) : (scan state line).2 ⊆ line := by
  induction line generalizing state with
  | nil => exact List.nil_subset _
  | cons c rest ih =>
      unfold scan
      split
      · exact List.nil_subset _
      · exact List.cons_subset_cons _ (ih _)

/-- Without the break at its end a line has fewer characters, and no other ones. -/
theorem dropBreak_subset (line : List Char) : dropBreak line ⊆ line := by
  intro c hc
  unfold dropBreak at hc
  split at hc
  · next before hline =>
    rw [← List.mem_reverse, hline]
    simp_all
  · next before hline =>
    rw [← List.mem_reverse, hline]
    simp_all
  · exact hc

/-- Putting lines together adds no character. -/
theorem joinLines_nulFree {held : List Char} {state : Scan} {lines : List (Option (List Char))}
    (hheld : TermStore.NulFree held) (hlines : ∀ line, some line ∈ lines → TermStore.NulFree line)
    {joined : List Char} (h : some joined ∈ joinLines held state lines) :
    TermStore.NulFree joined := by
  -- on the lines, for any text that is held back: a quote holds a line back until it is closed
  induction lines generalizing held state with
  | nil =>
      unfold joinLines at h
      split at h <;> simp at h
  | cons first rest ih =>
      have hrest : ∀ line, some line ∈ rest → TermStore.NulFree line :=
        fun line hline => hlines line (List.mem_cons_of_mem _ hline)
      cases first with
      | none => simp [joinLines] at h
      | some line =>
          have htext := hheld.append (hlines line List.mem_cons_self)
          simp only [joinLines] at h
          split at h
          -- a line of nothing but a comment counts as an empty one
          · rcases List.mem_cons.1 h with h | h
            · cases h
              exact NulFree.nil
            · exact ih NulFree.nil hrest h
          · split at h
            -- a comment ends the line, and with it the quotes
            · next kept hscan =>
              rcases List.mem_cons.1 h with h | h
              · cases h
                have hkept : kept ⊆ line := by
                  have := scan_subset state line
                  rwa [hscan] at this
                exact hheld.append ((hlines line List.mem_cons_self).of_subset hkept)
              · exact ih NulFree.nil hrest h
            -- the quotes are closed, so the line is whole
            · rcases List.mem_cons.1 h with h | h
              · cases h
                exact htext.of_subset (dropBreak_subset _)
              · exact ih NulFree.nil hrest h
            -- a quote is open at the end of the line, and the line is held back
            · exact ih htext hrest h

/-- The lines of a file without a NUL have none. A byte order mark that leads is dropped before the
file is cut into lines, which takes bytes away only. -/
theorem lines_nulFree {bytes : List UInt8} (hbytes : 0 ∉ bytes) {line : List Char}
    (h : some line ∈ lines bytes) : TermStore.NulFree line := by
  unfold lines at h
  refine joinLines_nulFree NulFree.nil ?_ h
  intro text htext
  obtain ⟨cut, hcut, hread⟩ := List.mem_map.1 htext
  obtain ⟨read, hdecode, rfl⟩ := Option.map_eq_some_iff.1 hread
  refine Text.Utf8.decode_nulFree (fun hzero => hbytes ?_) hdecode
  have hmem := mem_of_mem_splitLines hcut hzero
  split at hmem
  · exact List.mem_cons_of_mem _ (List.mem_cons_of_mem _ (List.mem_cons_of_mem _ hmem))
  · exact hmem

/-! ### Values -/

/-- A character that is no NUL is added to a value without one. -/
theorem Draft.push_nulFree {draft : Draft} {c : Char}
    (hdraft : TermStore.NulFree draft.value.toList) (hc : c.toNat ≠ 0) :
    TermStore.NulFree (draft.push c).value.toList := by
  unfold Draft.push
  rw [String.toList_push]
  exact hdraft.append (NulFree.nil.cons hc)

/-- A value holds characters of its line, line breaks and values of variables. -/
theorem readValue_nulFree (hmeaning : ∀ name, TermStore.NulFree (meaning name).toList)
    {draft : Draft} {text : List Char} (hdraft : TermStore.NulFree draft.value.toList)
    (htext : TermStore.NulFree text) {value : String}
    (h : readValue meaning draft text = some value) : TermStore.NulFree value.toList := by
  have hexpand : ∀ {draft : Draft} name, TermStore.NulFree draft.value.toList →
      TermStore.NulFree (draft.value ++ meaning name).toList := by
    intro draft name hdraft
    rw [String.toList_append]
    exact hdraft.append (hmeaning name)
  fun_induction readValue meaning draft text with
  | case1 | case4 | case7 | case10 => cases h
  | case3 | case6 =>
      cases h
      exact hdraft
  | case2 =>
      cases h
      exact hexpand _ hdraft
  -- a character is added
  | case8 | case18 | case22 | case28 =>
      rename_i ih
      exact ih (Draft.push_nulFree hdraft htext.head) htext.tail h
  | case9 =>
      rename_i ih
      exact ih (Draft.push_nulFree hdraft (by decide)) htext.tail h
  -- the value of a variable is added
  | case13 | case15 =>
      rename_i ih
      exact ih (hexpand _ hdraft) htext.tail h
  | case14 =>
      rename_i ih
      exact ih (Draft.push_nulFree (hexpand _ hdraft) htext.head) htext.tail h
  -- nothing is added
  | _ =>
      rename_i ih
      exact ih hdraft htext.tail h

/-! ### Loading -/

theorem skipBlank_subset (text : List Char) : skipBlank text ⊆ text :=
  List.dropWhile_subset _

/-- Behind a name there is a part of the text that it was read from. -/
theorem readName_subset {text rest : List Char} {name : String}
    (h : readName text = some (name, rest)) : rest ⊆ text := by
  cases text with
  | nil => cases h
  | cons c text =>
      simp only [readName] at h
      split at h
      · cases h
        exact List.Subset.trans (skipBlank_subset _) (List.drop_subset _ _)
      · cases h

/-- The same behind the sign of equality, whether the word `export` leads or not. -/
theorem readTarget_subset {text rest : List Char} {name : String}
    (h : readTarget text = some (name, rest)) : rest ⊆ text := by
  unfold readTarget at h
  split at h
  · cases h
  · next hread =>
    cases h
    exact List.Subset.trans (List.subset_cons_self _ _) (readName_subset hread)
  · next hread =>
    split at h
    · split at h
      · next hagain =>
        cases h
        exact List.Subset.trans (List.Subset.trans (List.subset_cons_self _ _)
          (readName_subset hagain)) (readName_subset hread)
      · cases h
    · cases h

/-- A line without a NUL assigns none. -/
theorem readLine_nulFree (hmeaning : ∀ name, TermStore.NulFree (meaning name).toList)
    {line : List Char} (hline : TermStore.NulFree line) {name value : String}
    (h : readLine meaning line = .assignment name value) : TermStore.NulFree value.toList := by
  have htrimmed : TermStore.NulFree
      (skipBlank (line.reverse.dropWhile Text.isBlank).reverse) := by
    refine hline.of_subset (List.Subset.trans (skipBlank_subset _) ?_)
    intro c hc
    exact List.mem_reverse.1 (List.dropWhile_subset _ (List.mem_reverse.1 hc))
  unfold readLine at h
  split at h
  · cases h
  · cases h
  · split at h
    · cases h
    · next target rest htarget =>
      split at h
      · cases h
        exact NulFree.nil
      · cases h
        exact NulFree.nil
      · split at h
        · cases h
        · next read hread =>
          cases h
          refine readValue_nulFree hmeaning ?_ ?_ hread
          · exact NulFree.nil
          · exact htrimmed.of_subset (List.Subset.trans (skipBlank_subset _)
              (readTarget_subset htarget))

/-- Loading lines fails by nothing but a variable with a NUL. -/
theorem loadLines_fault {replacing : Bool} {lines : List (Option (List Char))} {fault : Fault}
    (h : loadLines replacing environment said lines = .error fault) :
    ∃ name, fault = .unfitVariable name := by
  induction lines generalizing environment said with
  | nil => cases h
  | cons first rest ih =>
      cases first with
      | none => cases h
      | some line =>
          simp only [loadLines] at h
          split at h
          · exact ih h
          · cases h
          · next name value hread =>
            split at h
            · exact ih h
            · split at h
              · cases h
                exact ⟨name, rfl⟩
              · exact ih h

/-- Where there is no file nothing can fail, and where there is one its lines are loaded. -/
theorem loadIfAny_fault {replacing : Bool} {bytes : Option (List UInt8)} {fault : Fault}
    (h : loadIfAny replacing bytes environment = .error fault) :
    ∃ name, fault = .unfitVariable name := by
  cases bytes with
  | none => cases h
  | some file => exact loadLines_fault h

/-- A name stands for a value of the environment, for one that the file gave before, or for nothing;
and none of these has a NUL. -/
theorem meaning_nulFree (henvironment : environment.NulFree) (hsaid : said.NulFree)
    (name : String) : TermStore.NulFree (VariableFile.meaning environment said name).toList := by
  unfold VariableFile.meaning
  cases hget : environment.get? name with
  | some value => exact henvironment name value hget
  | none =>
      cases hget' : said.get? name with
      | some value => exact hsaid name value hget'
      | none => exact NulFree.nil

/-- An environment without a NUL takes another value without one. -/
theorem put_nulFree (h : environment.NulFree) {name value : String}
    (hvalue : TermStore.NulFree value.toList) :
    Environment.NulFree (environment.put name value) := by
  intro other found hget
  by_cases hother : other = name
  · rw [hother, SortedMap.get?_put_self] at hget
    exact Option.some.inj hget ▸ hvalue
  · rw [SortedMap.get?_put_of_ne _ hother] at hget
    exact h other found hget

/-- Lines without a NUL are loaded. -/
theorem loadLines_nulFree (replacing : Bool) {lines : List (Option (List Char))}
    (henvironment : environment.NulFree) (hsaid : said.NulFree)
    (hlines : ∀ line, some line ∈ lines → TermStore.NulFree line) :
    ∃ loaded, loadLines replacing environment said lines = .ok loaded ∧ loaded.NulFree := by
  -- on the lines; both environments stay without a NUL, so the values of the next line have none
  induction lines generalizing environment said with
  | nil => exact ⟨environment, rfl, henvironment⟩
  | cons first rest ih =>
      have hrest : ∀ line, some line ∈ rest → TermStore.NulFree line :=
        fun line hline => hlines line (List.mem_cons_of_mem _ hline)
      cases first with
      | none => exact ⟨environment, rfl, henvironment⟩
      | some line =>
          simp only [loadLines]
          cases hread : readLine (VariableFile.meaning environment said) line with
          | nothing => exact ih henvironment hsaid hrest
          | unreadable => exact ⟨environment, rfl, henvironment⟩
          | assignment name value =>
              have hvalue := readLine_nulFree (meaning_nulFree henvironment hsaid)
                (hlines line List.mem_cons_self) hread
              dsimp only
              split
              · exact ih henvironment (put_nulFree hsaid hvalue) hrest
              · have hfit : ¬ (value.toList.any fun c => c.toNat = 0) = true := by
                  intro hany
                  obtain ⟨c, hc, hzero⟩ := List.any_eq_true.1 hany
                  exact hvalue c hc (of_decide_eq_true hzero)
                rw [if_neg hfit]
                exact ih (put_nulFree henvironment hvalue) (put_nulFree hsaid hvalue) hrest

/-- A file without a NUL is loaded, and what it leaves is an environment that the next file can be
loaded into. The bytes of the file are all that is asked for: nothing is said of how they read. -/
theorem loadIfAny_nulFree (replacing : Bool) {bytes : Option (List UInt8)}
    (henvironment : environment.NulFree) (hbytes : ∀ file, bytes = some file → 0 ∉ file) :
    ∃ loaded, loadIfAny replacing bytes environment = .ok loaded ∧ loaded.NulFree := by
  cases bytes with
  | none => exact ⟨environment, rfl, henvironment⟩
  | some file =>
      exact loadLines_nulFree replacing henvironment (fun name value hget => nomatch hget)
        fun line => lines_nulFree (hbytes file rfl)

end VariableFile

end Project

end TermStore
