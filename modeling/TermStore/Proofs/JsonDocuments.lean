import TermStore.Failure
import TermStore.Proofs.JsonPrinting
import TermStore.Proofs.Documents
import TermStore.Proofs.ByteOrder

/-!
# Documents as JSON texts

Which JSON values are documents is said here on the values (`IsDocument`), and what a document
makes of one likewise (`Document.ofValue?`): of members with one key the last counts. Reading a
text comes to the same, however the text is spelled and spaced, because each of the readers for
texts, languages and kinds settles what its value is worth, and the readers of lists and maps
settle what their items do. Numbers are never looked at: a value that is no text, list or object is
told by its first character.

The layout that a document is printed in is one of the texts of its value, so what is printed is
read back.
-/

namespace TermStore

open Json

/-! ### What values are worth -/

namespace Texts

/-- A text, or a list of texts. -/
def IsTexts (value : Value) : Prop :=
  (∃ text, value = .text text) ∨ ∃ texts : List String, value = .list (texts.map .text)

theorem mapM_text?_map (texts : List String) :
    (texts.map Value.text).mapM Value.text? = some texts :=
  mapM_eq_some_iff.2 (List.forall₂_map_left_iff.2 (List.forall₂_same.2 fun _ _ => rfl))

theorem eq_map_of_mapM_text? {items : List Value} {texts : List String}
    (h : items.mapM Value.text? = some texts) : items = texts.map .text := by
  have hitems := mapM_eq_some_iff.1 h
  clear h
  induction hitems with
  | nil => rfl
  | @cons item text items texts hitem _ ih =>
      have hhead : item = .text text := by
        cases item <;> cases hitem
        rfl
      rw [hhead, ih, List.map_cons]

@[simp] theorem ofValue?_toValue (texts : Texts) : ofValue? texts.toValue = some texts := by
  cases texts with
  | single text => rfl
  | several texts => rw [toValue, ofValue?, mapM_text?_map, Option.map_some]

/-- Only the value of some texts stands for them. -/
theorem eq_toValue_of_ofValue? {value : Value} {texts : Texts} (h : ofValue? value = some texts) :
    value = texts.toValue := by
  cases value with
  | text text =>
      cases h
      rfl
  | list items =>
      obtain ⟨found, hfound, htexts⟩ := Option.map_eq_some_iff.1 h
      rw [← htexts, eq_map_of_mapM_text? hfound]
      rfl
  | _ => cases h

theorem exists_ofValue?_iff {value : Value} :
    (∃ texts, ofValue? value = some texts) ↔ IsTexts value := by
  constructor
  · intro ⟨texts, h⟩
    have hvalue := eq_toValue_of_ofValue? h
    cases texts with
    | single text => exact Or.inl ⟨text, hvalue⟩
    | several texts => exact Or.inr ⟨texts, hvalue⟩
  · intro h
    rcases h with ⟨text, rfl⟩ | ⟨texts, rfl⟩
    · exact ⟨_, ofValue?_toValue (.single text)⟩
    · exact ⟨_, ofValue?_toValue (.several texts)⟩

end Texts

/-- The texts of each language that an object lists. -/
def LanguageMap.ofValue? (value : Value) : Option LanguageMap :=
  (value.wantMembers some Texts.ofValue?).map .ofList

namespace Document

/-- The document of some kinds and their texts; of two with one kind the later one counts. -/
def ofMembers (members : List (TermKind × LanguageMap)) : Document :=
  members.foldl (fun d member => d.setTexts member.1 member.2) .empty

/-- The document that an object of kinds, objects and texts is. -/
def ofValue? (value : Value) : Option Document :=
  (value.wantMembers TermKind.ofName? LanguageMap.ofValue?).map ofMembers

end Document

/-! ### Readers settle what values are worth -/

namespace Texts

theorem mapM_text?_map_text (items : List Value) :
    items.mapM (fun item => item.text?.map Value.text) =
      (items.mapM Value.text?).map (List.map Value.text) := by
  induction items with
  | nil => rfl
  | cons item rest ih =>
      rw [List.mapM_cons, List.mapM_cons, ih]
      cases item.text? with
      | none => rfl
      | some text => cases rest.mapM Value.text? <;> rfl

end Texts

section Readers

variable {value : Value} {chars before : List Char} (h : Spells value chars)
  (hbefore : Blank before) (room : Nat) (rest : List Char)

include h hbefore

/-- What is no text is read, if at all, as no text, and only a list is read as a list. -/
theorem found_of_readValue (htext : ¬ ∃ text, value = .text text) {found : Value}
    {left : List Char} (hread : readValue room (before ++ (chars ++ rest)) = .ok (found, left)) :
    found.IsScalar ∨ ((∃ items, value = .list items) ∧ ∃ items, found = .list items) ∨
      ∃ members, found = .object members := by
  obtain ⟨c, tail, rfl, hopens⟩ := h.exists_head
  have hquote : c ≠ '"' := by
    intro hc
    subst hc
    exact htext hopens.exists_text
  rcases not_text_of_readValue hbefore hopens.isSpace_eq hquote hread with
    hscalar | ⟨rfl, hlist⟩ | hobject
  · exact Or.inl hscalar
  · exact Or.inr (Or.inl ⟨hopens.exists_list, hlist⟩)
  · exact Or.inr (Or.inr hobject)

/-- A text is read as itself, and what is no text as no text. -/
theorem settles_readValue_text :
    Settles (fun found => found.text? = none) (value.text?.map .text) rest
      (readValue room (before ++ (chars ++ rest))) := by
  by_cases htext : ∃ text, value = .text text
  · obtain ⟨text, rfl⟩ := htext
    cases h with
    | text hspelled => exact readValue_text hbefore hspelled room rest
  · have hnone : value.text? = none := by
      cases value with
      | text text => exact absurd ⟨text, rfl⟩ htext
      | _ => rfl
    rw [hnone]
    intro found left hread
    rcases found_of_readValue h hbefore room rest htext hread with
      hscalar | ⟨-, items, rfl⟩ | ⟨members, rfl⟩
    · cases found <;> first | rfl | exact hscalar.elim
    · rfl
    · rfl

/-- A value that some texts stand for is read as itself, and others, if at all, as values that no
texts stand for. -/
theorem settles_readValue_texts :
    Settles (fun found => Texts.ofValue? found = none) ((Texts.ofValue? value).map Texts.toValue)
      rest (readValue (room + 1) (before ++ (chars ++ rest))) := by
  by_cases hlist : ∃ items, value = .list items
  · obtain ⟨items, rfl⟩ := hlist
    cases h with
    | @list _ inner hitems =>
        have hitem : ∀ item chars, Spells item chars → ∀ rest,
            Settles (fun found => found.text? = none) (item.text?.map .text) rest
              (readValue room (chars ++ rest)) :=
          fun item chars hitem rest => settles_readValue_text hitem blank_nil room rest
        have hhead : ∀ item chars, Spells item chars →
            ∃ c tail, chars = c :: tail ∧ isSpace c = false ∧ c ≠ ']' := by
          intro item chars hitem
          obtain ⟨c, tail, hchars, hopens⟩ := hitem.exists_head
          exact ⟨c, tail, hchars, hopens.isSpace_eq, hopens.ne_bracket⟩
        have hsettles := settles_readList hitem hhead hitems rest
        rw [Texts.mapM_text?_map_text] at hsettles
        simp only [List.cons_append, List.append_assoc, List.nil_append]
        rw [readValue_list hbefore, Texts.ofValue?]
        cases htexts : items.mapM Value.text? with
        | some texts =>
            rw [htexts] at hsettles
            have hread : readList (readValue room) (inner ++ ']' :: rest) =
                .ok (texts.map .text, rest) := hsettles
            rw [hread]
            rfl
        | none =>
            rw [htexts] at hsettles
            intro found left hread
            cases hlist : readList (readValue room) (inner ++ ']' :: rest) with
            | error fault =>
                rw [hlist] at hread
                cases hread
            | ok read =>
                rw [hlist] at hread
                cases hread
                have hnone := mapM_eq_none_iff.2 (hsettles read.1 read.2 hlist)
                rw [Texts.ofValue?, hnone]
                rfl
  · by_cases htext : ∃ text, value = .text text
    · obtain ⟨text, rfl⟩ := htext
      exact settles_readValue_text h hbefore (room + 1) rest
    · have hnone : Texts.ofValue? value = none := by
        cases value with
        | text text => exact absurd ⟨text, rfl⟩ htext
        | list items => exact absurd ⟨items, rfl⟩ hlist
        | _ => rfl
      rw [hnone]
      intro found left hread
      rcases found_of_readValue h hbefore (room + 1) rest htext hread with
        hscalar | ⟨hitems, -⟩ | ⟨members, rfl⟩
      · cases found <;> first | rfl | exact hscalar.elim
      · exact absurd hitems hlist
      · rfl

/-- The texts of a slot are read for what their value is worth. -/
theorem settles_readTexts :
    Settles (fun _ => False) (Texts.ofValue? value) rest
      (Document.readTexts (room + 1) (before ++ (chars ++ rest))) := by
  have hsettles := settles_readValue_texts h hbefore room rest
  cases htexts : Texts.ofValue? value with
  | some texts =>
      rw [htexts] at hsettles
      have hread : readValue (room + 1) (before ++ (chars ++ rest)) = .ok (texts.toValue, rest) :=
        hsettles
      show Document.readTexts (room + 1) (before ++ (chars ++ rest)) = .ok (texts, rest)
      simp [Document.readTexts, hread, bind, Except.bind, pure, Except.pure]
  | none =>
      rw [htexts] at hsettles
      intro texts left hread
      obtain ⟨⟨found, behind⟩, hfound, hread⟩ := bind_eq_ok_iff.1 hread
      have hnone : Texts.ofValue? found = none := hsettles found behind hfound
      simp only [hnone] at hread
      cases hread

/-- The texts of a kind are read for what their value is worth. -/
theorem settles_readLanguages :
    Settles (fun _ => False) (LanguageMap.ofValue? value) rest
      (Document.readLanguages (room + 2) (before ++ (chars ++ rest))) := by
  have hvalue : ∀ v chars, Spells v chars → ∀ before, Blank before → ∀ rest,
      Settles (fun _ => False) (Texts.ofValue? v) rest
        (Document.readTexts (room + 1) (before ++ (chars ++ rest))) :=
    fun v chars hv before hbefore rest => settles_readTexts hv hbefore room rest
  exact (settles_readWantedMap hvalue h hbefore rest).map SortedMap.ofList

/-- A document is read for what its value is worth. -/
theorem settles_readKinds :
    Settles (fun _ => False) (Document.ofValue? value) rest
      (Document.readKinds (room + 3) (before ++ (chars ++ rest))) := by
  have hvalue : ∀ v chars, Spells v chars → ∀ before, Blank before → ∀ rest,
      Settles (fun _ => False) (LanguageMap.ofValue? v) rest
        (Document.readLanguages (room + 2) (before ++ (chars ++ rest))) :=
    fun v chars hv before hbefore rest => settles_readLanguages hv hbefore room rest
  exact (settles_readWantedMap hvalue h hbefore rest).map Document.ofMembers

end Readers

namespace Document

variable {value : Value} {text : String} {d : Document}

/-- A text holds the document that its value is, and none where its value is none. -/
theorem ofText_eq_ok_iff (h : IsText value text.toList) :
    ofText text = .ok d ↔ ofValue? value = some d := by
  obtain ⟨before, chars, behind, hbefore, hspelled, hbehind, htext⟩ := h
  have hsettles := settles_readKinds hspelled hbefore 124 behind
  rw [← htext] at hsettles
  cases hvalue : ofValue? value with
  | some found =>
      rw [hvalue] at hsettles
      have hread : readKinds nestingRoom text.toList = .ok (found, behind) := hsettles
      have hwhole : ofJson text = .ok found := by
        simp [ofJson, readWhole, hread, skipSpace_blank hbehind, bind, Except.bind, pure,
          Except.pure]
      rw [ofText, hwhole]
      simp
  | none =>
      rw [hvalue] at hsettles
      have hread : ∀ found left, readKinds nestingRoom text.toList ≠ .ok (found, left) := hsettles
      have hwhole : ∀ found, ofJson text ≠ .ok found := by
        intro found hfound
        obtain ⟨⟨found', left⟩, hfound', -⟩ := bind_eq_ok_iff.1 hfound
        exact hread found' left hfound'
      rw [ofText]
      cases hjson : ofJson text with
      | ok found => exact absurd hjson (hwhole found)
      | error fault => simp

theorem ofText_eq_ok_or (text : String) :
    (∃ d, ofText text = .ok d) ∨ ∃ detail, ofText text = .error (.malformedDocument detail) := by
  unfold ofText
  cases ofJson text with
  | ok d => exact Or.inl ⟨d, rfl⟩
  | error fault => exact Or.inr ⟨_, rfl⟩

/-! ### Documents and their values -/

theorem texts?_ofMembers (members : List (TermKind × LanguageMap)) (kind : TermKind) :
    (ofMembers members).texts? kind = last? kind members := by
  have hfold : ∀ d : Document,
      (members.foldl (fun d member => d.setTexts member.1 member.2) d).texts? kind =
        (last? kind members).or (d.texts? kind) := by
    induction members with
    | nil => intro d; rfl
    | cons member rest ih =>
        intro d
        rw [List.foldl_cons, ih, last?, Option.or_assoc]
        by_cases hkind : member.1 = kind
        · simp [← hkind]
        · simp [hkind, texts?_setTexts_of_ne d (Ne.symm hkind)]
  rw [ofMembers, hfold]
  cases kind <;> exact Option.or_none

end Document

/-! ### Which values are documents -/

section Members

variable {κ γ : Type} {key : String → Option κ} {want : Value → Option γ} {value : Value}

theorem wantMember_eq_some_iff {m : String × Value} {found : κ × γ} :
    wantMember key want m = some found ↔ key m.1 = some found.1 ∧ want m.2 = some found.2 := by
  obtain ⟨k, v⟩ := found
  simp only [wantMember, Option.bind_eq_bind, Option.bind_eq_some_iff, Option.pure_def,
    Option.some.injEq, Prod.mk.injEq]
  constructor
  · intro hfound
    obtain ⟨k', hk, v', hv, rfl, rfl⟩ := hfound
    exact ⟨hk, hv⟩
  · intro hfound
    exact ⟨k, hfound.1, v, hfound.2, rfl, rfl⟩

theorem wantMembers_eq_some_iff {found : List (κ × γ)} :
    value.wantMembers key want = some found ↔ ∃ members, value = .object members ∧
      List.Forall₂ (fun m f => key m.1 = some f.1 ∧ want m.2 = some f.2) members found := by
  cases value with
  | object members => simp [Value.wantMembers, mapM_eq_some_iff, wantMember_eq_some_iff]
  | _ => simp [Value.wantMembers]

/-- What is wanted of an object's members is there when it is there for each of them. -/
theorem exists_wantMembers_iff :
    (∃ found, value.wantMembers key want = some found) ↔ ∃ members, value = .object members ∧
      ∀ m ∈ members, (∃ k, key m.1 = some k) ∧ ∃ v, want m.2 = some v := by
  have hmember : ∀ m : String × Value, wantMember key want m ≠ none ↔
      (∃ k, key m.1 = some k) ∧ ∃ v, want m.2 = some v := by
    intro m
    rw [Option.ne_none_iff_exists']
    simp only [wantMember_eq_some_iff, Prod.exists, exists_and_left, exists_and_right]
  cases value with
  | object members =>
      have hmembers : (∃ found, members.mapM (wantMember key want) = some found) ↔
          ∀ m ∈ members, (∃ k, key m.1 = some k) ∧ ∃ v, want m.2 = some v := by
        rw [← Option.ne_none_iff_exists', Ne, mapM_eq_none_iff]
        simp only [not_exists, not_and]
        exact forall₂_congr fun m _ => hmember m
      simp only [Value.wantMembers, hmembers, Value.object.injEq, exists_eq_left']
  | _ => simp [Value.wantMembers]

end Members

/-- An object that gives each of its languages a text or a list of texts. -/
def IsLanguages (value : Value) : Prop :=
  ∃ slots, value = .object slots ∧ ∀ slot ∈ slots, Texts.IsTexts slot.2

/-- An object of the three kinds, with an object of languages for each of its members. -/
def IsDocument (value : Value) : Prop :=
  ∃ members, value = .object members ∧
    ∀ m ∈ members, m.1 ∈ ["label", "description", "alias"] ∧ IsLanguages m.2

namespace LanguageMap

variable {value : Value} {texts : LanguageMap}

theorem exists_ofValue?_iff : (∃ texts, ofValue? value = some texts) ↔ IsLanguages value := by
  have hmap : (∃ texts, ofValue? value = some texts) ↔
      ∃ found, value.wantMembers some Texts.ofValue? = some found := by
    unfold ofValue?
    cases value.wantMembers some Texts.ofValue? <;> simp
  rw [hmap, exists_wantMembers_iff]
  simp [IsLanguages, Texts.exists_ofValue?_iff]

/-- Each language has the texts of the last member that names it. -/
theorem get?_of_ofValue? (h : ofValue? value = some texts) :
    ∃ slots, value = .object slots ∧
      ∀ language, (texts.get? language).map Texts.toValue = last? language slots := by
  obtain ⟨found, hfound, rfl⟩ := Option.map_eq_some_iff.1 h
  obtain ⟨slots, rfl, hslots⟩ := wantMembers_eq_some_iff.1 hfound
  refine ⟨slots, rfl, fun language => ?_⟩
  have hlast : Option.Rel (fun content texts => content = Texts.toValue texts)
      (last? language slots) (last? language found) := by
    refine rel_last? (hslots.imp fun slot f hslot => ?_)
    obtain ⟨hname, htexts⟩ := hslot
    exact ⟨by rw [Option.some.inj hname], Texts.eq_toValue_of_ofValue? htexts⟩
  rw [SortedMap.get?_ofList]
  generalize last? language slots = content at hlast ⊢
  generalize last? language found = texts at hlast ⊢
  cases hlast with
  | some hcontent => exact congrArg some hcontent.symm
  | none => rfl

end LanguageMap

namespace TermKind

theorem ofName?_eq_some_iff {name : String} {kind : TermKind} :
    ofName? name = some kind ↔ name = kind.name := by
  constructor
  · intro h
    have hname : (kind.name == name) = true :=
      List.find?_some (p := fun kind : TermKind => kind.name == name) h
    exact (beq_iff_eq.1 hname).symm
  · intro h
    rw [h, ofName?_name]

theorem exists_ofName?_iff {name : String} :
    (∃ kind, ofName? name = some kind) ↔ name ∈ ["label", "description", "alias"] := by
  simp only [ofName?_eq_some_iff]
  constructor
  · intro ⟨kind, hkind⟩
    subst hkind
    cases kind <;> decide
  · intro hname
    simp only [List.mem_cons, List.not_mem_nil, or_false] at hname
    rcases hname with rfl | rfl | rfl
    · exact ⟨.label, rfl⟩
    · exact ⟨.description, rfl⟩
    · exact ⟨.aliases, rfl⟩

end TermKind

/-- The order of kinds, and of languages by their bytes within a kind. -/
def Term.BytesBefore (first second : Term) : Prop :=
  first.kind.rank < second.kind.rank ∨
    first.kind = second.kind ∧
      (Text.Utf8.encode first.language < Text.Utf8.encode second.language ∨
        first.language = second.language)

namespace Document

variable {value : Value} {text : String} {d : Document}

theorem exists_ofValue?_iff : (∃ d, ofValue? value = some d) ↔ IsDocument value := by
  have hmap : (∃ d, ofValue? value = some d) ↔
      ∃ found, value.wantMembers TermKind.ofName? LanguageMap.ofValue? = some found := by
    unfold ofValue?
    cases value.wantMembers TermKind.ofName? LanguageMap.ofValue? <;> simp
  rw [hmap, exists_wantMembers_iff]
  simp only [IsDocument, TermKind.exists_ofName?_iff, LanguageMap.exists_ofValue?_iff]

/-- The document holds what the last members of an object say: for each kind the texts of its last
member, and in these for each language the text or list of its last member. -/
def Holds (d : Document) (value : Value) : Prop :=
  ∃ members, value = .object members ∧ ∀ kind : TermKind,
    Option.Rel
      (fun content texts => ∃ slots, content = .object slots ∧
        ∀ language, (texts.get? language).map Texts.toValue = last? language slots)
      (last? kind.name members) (d.texts? kind)

theorem holds_of_ofValue? (h : ofValue? value = some d) : d.Holds value := by
  obtain ⟨found, hfound, rfl⟩ := Option.map_eq_some_iff.1 h
  obtain ⟨members, rfl, hmembers⟩ := wantMembers_eq_some_iff.1 hfound
  refine ⟨members, rfl, fun kind => ?_⟩
  rw [texts?_ofMembers]
  refine rel_last? (hmembers.imp fun m f hm => ?_)
  obtain ⟨hkind, htexts⟩ := hm
  rw [TermKind.ofName?_eq_some_iff] at hkind
  refine ⟨?_, LanguageMap.get?_of_ofValue? htexts⟩
  rw [hkind]
  constructor
  · intro hname
    have hsome := congrArg TermKind.ofName? hname
    simpa using hsome
  · intro hsame
    rw [hsame]

/-- Terms come by kind, then by the bytes of their language. -/
theorem pairwise_bytesBefore (d : Document) : d.terms.Pairwise Term.BytesBefore := by
  refine d.pairwise_terms.imp fun {first second} hbefore => ?_
  rcases hbefore with hkind | ⟨hkind, hlanguage | hlanguage⟩
  · exact Or.inl hkind
  · exact Or.inr ⟨hkind, Or.inl (Text.Utf8.encode_lt_encode hlanguage)⟩
  · exact Or.inr ⟨hkind, Or.inr hlanguage⟩

/-- A text is accepted exactly when its value is an object of the three kinds, each an object of
texts and lists of texts; any other is a malformed document. The document holds what the last
members say, and its terms come by kind, then by the bytes of their language, then as their slot
lists them. -/
theorem ofText_accepts_documents (h : IsText value text.toList) :
    ((∃ d, ofText text = .ok d) ↔ IsDocument value) ∧
    (¬ IsDocument value → ∃ detail, ofText text = .error (.malformedDocument detail)) ∧
    ∀ d, ofText text = .ok d → d.Holds value ∧ d.terms.Pairwise Term.BytesBefore ∧
      ∀ kind language,
        (d.terms.filter (Term.isOf kind language)).map Term.text = d.textsAt kind language := by
  have haccepts : (∃ d, ofText text = .ok d) ↔ IsDocument value := by
    rw [← exists_ofValue?_iff]
    exact exists_congr fun d => ofText_eq_ok_iff h
  refine ⟨haccepts, fun hnot => ?_, fun d hd => ?_⟩
  · rcases ofText_eq_ok_or text with hok | herror
    · exact absurd (haccepts.1 hok) hnot
    · exact herror
  · exact ⟨holds_of_ofValue? ((ofText_eq_ok_iff h).1 hd), d.pairwise_bytesBefore, d.filter_terms⟩

/-- An object with two members for one language. -/
def twiceEnglish : Value :=
  .object [("alias", .object [("en", .text "x"), ("en", .list [.text "y"])])]

/-- One of its texts, with an escape. -/
def twiceEnglishText : String := "\x7b\"alias\": \x7b\"en\": \"x\", \"en\":[\"\\u0079\"]\x7d\x7d"

/-- The text is accepted, and what it holds for the language is the list. -/
theorem ofText_accepts_twiceEnglish :
    IsText twiceEnglish twiceEnglishText.toList ∧ IsDocument twiceEnglish ∧
      ∃ d, ofText twiceEnglishText = .ok d ∧ d.Holds twiceEnglish := by
  have hspace : Blank [' '] := by simp [Blank]
  have hhex : IsHex '0' 0 ∧ IsHex '7' 7 ∧ IsHex '9' 9 := ⟨Or.inl rfl, Or.inl rfl, Or.inl rfl⟩
  have hunit : SpellsUnit 'y'.toNat ['0', '0', '7', '9'] :=
    .mk hhex.1 hhex.1 hhex.2.1 hhex.2.2
  have hescaped : SpellsText "y".toList ['\\', 'u', '0', '0', '7', '9'] := .unit hunit .nil
  have hslots : Spells (.object [("en", .text "x"), ("en", .list [.text "y"])])
      "\x7b\"en\": \"x\", \"en\":[\"\\u0079\"]\x7d".toList :=
    .object (.cons blank_nil
      (.mk (spellsText_escape _) blank_nil hspace (.text (spellsText_escape _)))
      (.cons blank_nil hspace
        (.mk (spellsText_escape _) blank_nil blank_nil
          (.list (.cons blank_nil (.text hescaped) (.nil blank_nil))))
        (.nil blank_nil)))
  have htext : IsText twiceEnglish twiceEnglishText.toList :=
    ⟨[], _, [], blank_nil, .object (.cons blank_nil
      (.mk (spellsText_escape _) blank_nil hspace hslots) (.nil blank_nil)), blank_nil, by decide⟩
  have hdocument : IsDocument twiceEnglish := by
    refine ⟨_, rfl, fun m hm => ?_⟩
    rw [List.mem_singleton.1 hm]
    refine ⟨by decide, _, rfl, fun slot hslot => ?_⟩
    simp only [List.mem_cons, List.not_mem_nil, or_false] at hslot
    rcases hslot with rfl | rfl
    · exact Or.inl ⟨"x", rfl⟩
    · exact Or.inr ⟨["y"], rfl⟩
  obtain ⟨haccepts, -, hholds⟩ := ofText_accepts_documents htext
  obtain ⟨d, hd⟩ := haccepts.2 hdocument
  exact ⟨htext, hdocument, d, hd, (hholds d hd).1⟩

end Document

/-! ### Printed documents -/

theorem Texts.printsWell_toValue (texts : Texts) : texts.toValue.PrintsWell := by
  cases texts with
  | single text => exact printsWell_text text
  | several texts =>
      refine printsWell_list fun item hmem => ?_
      obtain ⟨text, -, rfl⟩ := List.mem_map.1 hmem
      exact printsWell_text text

/-- The map of a map's own entries is that map. -/
theorem ofList_entries (texts : LanguageMap) : SortedMap.ofList texts.entries = texts := by
  refine SortedMap.ext_get? fun language => Option.ext fun content => ?_
  exact SortedMap.get?_ofList_iff SortedMap.mem_entries_iff fun h h' =>
    Option.some.inj (h.symm.trans h')

/-- The object of the texts of each language. -/
def LanguageMap.toValue (texts : LanguageMap) : Value :=
  .object (texts.entries.map fun slot => (slot.1, slot.2.toValue))

namespace LanguageMap

theorem ofValue?_toValue (texts : LanguageMap) : ofValue? (toValue texts) = some texts := by
  have hslots : (toValue texts).wantMembers some Texts.ofValue? = some texts.entries := by
    refine wantMembers_eq_some_iff.2 ⟨_, rfl, List.forall₂_map_left_iff.2 ?_⟩
    exact List.forall₂_same.2 fun slot _ => ⟨rfl, Texts.ofValue?_toValue slot.2⟩
  rw [ofValue?, hslots, Option.map_some, ofList_entries]

theorem printsWell_toValue (texts : LanguageMap) : (toValue texts).PrintsWell := by
  refine printsWell_object fun m hmem => ?_
  obtain ⟨slot, -, rfl⟩ := List.mem_map.1 hmem
  exact slot.2.printsWell_toValue

end LanguageMap

namespace Document

/-- The kinds that a document mentions, with their texts. -/
def members (d : Document) : List (TermKind × LanguageMap) :=
  TermKind.all.filterMap fun kind => (d.texts? kind).map fun texts => (kind, texts)

theorem toValue_eq (d : Document) :
    d.toValue = .object (d.members.map fun m => (m.1.name, LanguageMap.toValue m.2)) := by
  rw [toValue, members, List.map_filterMap]
  simp only [Option.map_map]
  rfl

theorem ofMembers_members (d : Document) : ofMembers d.members = d := by
  refine ext_texts fun kind => ?_
  rw [texts?_ofMembers]
  obtain ⟨label, description, aliases⟩ := d
  cases label <;> cases description <;> cases aliases <;> cases kind <;> rfl

theorem ofValue?_toValue (d : Document) : ofValue? d.toValue = some d := by
  have hmembers : d.toValue.wantMembers TermKind.ofName? LanguageMap.ofValue? = some d.members := by
    refine wantMembers_eq_some_iff.2 ⟨_, d.toValue_eq, List.forall₂_map_left_iff.2 ?_⟩
    exact List.forall₂_same.2 fun m _ =>
      ⟨TermKind.ofName?_name m.1, LanguageMap.ofValue?_toValue m.2⟩
  rw [ofValue?, hmembers, Option.map_some, ofMembers_members]

theorem isText_toJson (d : Document) : IsText d.toValue d.toJson.toList := by
  refine isText_pretty (d.toValue_eq ▸ printsWell_object fun m hmem => ?_)
  obtain ⟨member, -, rfl⟩ := List.mem_map.1 hmem
  exact LanguageMap.printsWell_toValue member.2

/-- A document that is printed is read back. -/
theorem ofText_toJson (d : Document) : ofText d.toJson = .ok d :=
  (ofText_eq_ok_iff d.isText_toJson).2 d.ofValue?_toValue

end Document

end TermStore
