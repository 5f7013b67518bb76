import TermStore.Files.Path
import Mathlib.Logic.Relation

/-!
# Paths and what stands above them

A path is taken against a base: an absolute path stays what it is, and a relative one goes on from
the base by its own steps. What stands above a path is found by taking parents (`Path.Above`), and
the list of its ancestors is all of that in order: a parent has fewer pieces than the path, unless
it has no parent itself, so the bound of the list is never reached.
-/

namespace TermStore.Files.Path

variable {base path parent outer : Path} {name inner : String}

/-! ### Taking a path against a base -/

/-- An absolute path begins with a slash, that is with an empty piece and further ones. -/
theorem isAbsolute_iff :
    path.isAbsolute = true ↔ ∃ rest, path.pieces = "" :: rest ∧ rest ≠ [] := by
  unfold isAbsolute
  constructor
  · intro h
    split at h
    · next second rest hpieces => exact ⟨second :: rest, hpieces, List.cons_ne_nil _ _⟩
    · cases h
  · intro ⟨rest, hpieces, hrest⟩
    obtain ⟨second, rest, rfl⟩ := List.exists_cons_of_ne_nil hrest
    simp [hpieces]

theorem steps_of_pieces {rest : List String} (hpieces : path.pieces = "" :: rest)
    (hrest : rest ≠ []) : path.steps = "/" :: rest.filter isStep := by
  simp [steps, hpieces, hrest]

theorem join_of_isAbsolute (h : path.isAbsolute = true) (base : Path) : base.join path = path := by
  simp [join, h]

/-- The pieces of a base that others go on from: an empty one at the end, which stands for a slash,
is dropped. -/
def stem (base : Path) : List String :=
  if base.pieces.getLast? = some "" then base.pieces.dropLast else base.pieces

/-- A relative path goes on from the pieces of the base, with one slash in between. -/
theorem pieces_join (h : path.isAbsolute = false) (base : Path) :
    (base.join path).pieces = base.stem ++ path.pieces := by
  unfold join stem
  rw [if_neg (by simp [h])]
  split
  · rfl
  · rfl

/-- Nothing but a piece that is no step is dropped. -/
theorem exists_stem (hbase : base.isAbsolute = true) :
    ∃ rest, base.stem = "" :: rest ∧ base.steps = "/" :: rest.filter isStep := by
  obtain ⟨rest, hpieces, hrest⟩ := isAbsolute_iff.1 hbase
  rw [steps_of_pieces hpieces hrest, stem, hpieces]
  split
  · next hslash =>
    obtain ⟨front, hfront⟩ : ∃ front, rest = front ++ [""] := by
      refine ⟨rest.dropLast, ?_⟩
      have hlast := List.dropLast_concat_getLast hrest
      rw [List.getLast?_cons_of_ne_nil hrest, List.getLast?_eq_some_getLast hrest] at hslash
      rw [← Option.some.inj hslash, hlast]
    refine ⟨front, ?_, ?_⟩
    · rw [hfront, ← List.cons_append, List.dropLast_concat]
    · simp [hfront, isStep]
  · exact ⟨rest, rfl, rfl⟩

theorem isAbsolute_join (hbase : base.isAbsolute = true) (path : Path) :
    (base.join path).isAbsolute = true := by
  by_cases h : path.isAbsolute = true
  · rw [join_of_isAbsolute h]
    exact h
  · obtain ⟨rest, hstem, -⟩ := exists_stem hbase
    refine isAbsolute_iff.2 ⟨rest ++ path.pieces, ?_, by simp [path.pieces_ne_nil]⟩
    rw [pieces_join (Bool.eq_false_iff.2 h), hstem, List.cons_append]

/-- What a relative path adds are its own steps, and only those: dots and slashes are none. -/
theorem steps_join (hbase : base.isAbsolute = true) (h : path.isAbsolute = false) :
    (base.join path).steps = base.steps ++ path.pieces.filter isStep := by
  obtain ⟨rest, hstem, hsteps⟩ := exists_stem hbase
  have hjoin : (base.join path).pieces = "" :: (rest ++ path.pieces) := by
    rw [pieces_join h, hstem, List.cons_append]
  rw [steps_of_pieces hjoin (by simp [path.pieces_ne_nil]), hsteps, List.filter_append,
    List.cons_append]

/-- A path that others are taken against: absolute ones stay what they are, and relative ones go on
from it by their own steps and become absolute. -/
structure IsBase (base : Path) : Prop where
  absolute : base.isAbsolute = true
  join_absolute : ∀ path : Path, path.isAbsolute = true → base.join path = path
  join_relative : ∀ path : Path, path.isAbsolute = false →
    (base.join path).isAbsolute = true ∧
      (base.join path).steps = base.steps ++ path.pieces.filter isStep

theorem isBase_of_isAbsolute (h : base.isAbsolute = true) : base.IsBase where
  absolute := h
  join_absolute _ hpath := join_of_isAbsolute hpath base
  join_relative path hpath := ⟨isAbsolute_join h path, steps_join h hpath⟩

/-! ### Parents -/

/-- Settling drops pieces at the end of a path, from which it is read here. -/
theorem settle_suffix (pieces : List String) : settle pieces <:+ pieces := by
  fun_induction settle pieces with
  | case1 => exact List.suffix_refl []
  | case2 first => exact List.suffix_refl [first]
  | case3 last before hbefore hstep => exact List.suffix_refl _
  | case4 last before hbefore hstep ih => exact ih.trans (List.suffix_cons last before)

/-- A parent is one of the two paths that have none, or it has the first pieces of the path. -/
theorem parent?_cases (h : path.parent? = some parent) :
    (parent.pieces = [""] ∧ path.isAbsolute = false) ∨ parent.pieces = ["", ""] ∨
      (parent.pieces <+: path.pieces ∧ parent.pieces.length < path.pieces.length ∧
        parent.pieces ≠ [""]) := by
  have hsettled := settle_suffix path.pieces.reverse
  unfold parent? at h
  split at h
  · cases h
  · next first hfirst =>
    split at h
    · cases h
    · next hne =>
      obtain rfl := Option.some.inj h
      refine Or.inl ⟨rfl, Bool.eq_false_iff.2 fun habsolute => hne ?_⟩
      -- the piece that is left is the first one of the path
      rw [hfirst] at hsettled
      obtain ⟨rest, hpieces, -⟩ := isAbsolute_iff.1 habsolute
      rw [hpieces, List.reverse_cons] at hsettled
      obtain ⟨front, hfront⟩ := hsettled
      exact (List.append_inj' hfront rfl).2 |> List.singleton_inj.1
  · next last before hmore hbefore =>
    rw [hbefore] at hsettled
    split at h
    · cases h
    · obtain rfl := Option.some.inj h
      exact Or.inr (Or.inl rfl)
    · next last' before' hroot hbefore' =>
      obtain rfl := Option.some.inj h
      have hinner : last' :: before' <:+ before := hbefore' ▸ settle_suffix before
      have hproper := hinner.trans (List.suffix_cons last before)
      refine Or.inr (Or.inr ⟨?_, ?_, fun hempty => ?_⟩)
      · exact List.reverse_suffix.1 (by simpa using hproper.trans hsettled)
      · have hlength := hsettled.length_le
        rw [List.length_cons, List.length_reverse] at hlength
        rw [List.length_reverse]
        exact Nat.lt_of_lt_of_le (Nat.lt_succ_of_le hinner.length_le) hlength
      · have hlast := congrArg List.reverse hempty
        rw [List.reverse_reverse] at hlast
        cases hlast
        exact hroot rfl rfl

/-- Nothing stands above the root, nor above the empty path. -/
theorem parent?_eq_none_of_top (h : path.pieces = [""] ∨ path.pieces = ["", ""]) :
    path.parent? = none := by
  unfold parent?
  rcases h with h | h
  · simp [h, settle]
  · simp [h, settle, isStep]

theorem isAbsolute_parent (hpath : path.isAbsolute = true) (h : path.parent? = some parent) :
    parent.isAbsolute = true := by
  rcases parent?_cases h with ⟨-, hrelative⟩ | hroot | ⟨hfront, -, hne⟩
  · rw [hpath] at hrelative
    cases hrelative
  · exact isAbsolute_iff.2 ⟨_, hroot, List.cons_ne_nil _ _⟩
  · obtain ⟨rest, hpieces, -⟩ := isAbsolute_iff.1 hpath
    obtain ⟨first, behind, hparent⟩ := List.exists_cons_of_ne_nil parent.pieces_ne_nil
    rw [hparent, hpieces, List.cons_prefix_cons] at hfront
    rw [hfront.1] at hparent
    refine isAbsolute_iff.2 ⟨behind, hparent, fun hbehind => hne ?_⟩
    rw [hparent, hbehind]

/-! ### Entries -/

theorem eq_of_pieces {other : Path} (h : path.pieces = other.pieces) : path = other := by
  cases path
  cases other
  cases h
  rfl

theorem pieces_entry (path : Path) (name : String) :
    (path.entry name).pieces = path.stem ++ [name] := by
  refine pieces_join ?_ path
  unfold isAbsolute
  split
  · next h => cases h
  · rfl

theorem isEmpty_entry (h : name ≠ "") (path : Path) : (path.entry name).isEmpty = false := by
  have hne : (path.entry name).pieces ≠ [""] := by
    intro hempty
    have hlast := congrArg List.getLast? hempty
    rw [pieces_entry, List.getLast?_concat, List.getLast?_singleton] at hlast
    exact h (Option.some.inj hlast)
  simpa [isEmpty] using hne

/-- An entry of an entry goes on from the pieces of that. -/
theorem pieces_entry_entry (h : inner ≠ "") :
    ((path.entry inner).entry name).pieces = (path.entry inner).pieces ++ [name] := by
  rw [pieces_entry, stem, if_neg]
  rw [pieces_entry, List.getLast?_concat]
  exact fun hlast => h (Option.some.inj hlast)

theorem parent?_entry_entry (hinner : isStep inner = true) (hname : isStep name = true) :
    ((path.entry inner).entry name).parent? = some (path.entry inner) := by
  have hfull : inner ≠ "" := by
    intro hempty
    rw [hempty] at hinner
    cases hinner
  have hsettle : ∀ name before, isStep name = true →
      settle (name :: before) = name :: before := by
    intro name before hname
    cases before with
    | nil => rfl
    | cons last before => simp [settle, hname]
  have hpieces : (path.entry inner).pieces.reverse = inner :: path.stem.reverse := by
    simp [pieces_entry]
  have houter : ((path.entry inner).entry name).pieces.reverse =
      name :: inner :: path.stem.reverse := by
    simp [pieces_entry_entry hfull, hpieces]
  unfold parent?
  rw [houter, hsettle name _ hname]
  dsimp only
  rw [hsettle inner _ hinner]
  split
  · next hnil => cases hnil
  · next hroot => exact absurd (List.cons.inj hroot).1 hfull
  · next hlast =>
    exact congrArg some (eq_of_pieces (List.reverse_eq_iff.2 (hpieces.trans hlast).symm))

/-! ### Ancestors -/

/-- The second path is the first one or stands above it. -/
def Above : (path outer : Path) → Prop :=
  Relation.ReflTransGen fun inner outer => inner.parent? = some outer

/-- A bound that the list of a path's ancestors does not reach. -/
def WithinBound (bound : Nat) (path : Path) : Prop :=
  path.pieces.length < bound ∨ 0 < bound ∧ path.parent? = none

/-- A parent is within the bound that its path leaves, as it has fewer pieces or no parent. -/
theorem withinBound_parent {bound : Nat} (hparent : path.parent? = some parent)
    (h : path.pieces.length ≤ bound) : WithinBound bound parent := by
  have hpieces := List.length_pos_iff.2 path.pieces_ne_nil
  rcases parent?_cases hparent with ⟨hempty, -⟩ | hroot | ⟨-, hlength, -⟩
  · exact Or.inr ⟨by omega, parent?_eq_none_of_top (Or.inl hempty)⟩
  · exact Or.inr ⟨by omega, parent?_eq_none_of_top (Or.inr hroot)⟩
  · exact Or.inl (by omega)

/-- Any bound that is not reached gives the same list. -/
theorem ancestorsWithin_congr {bound other : Nat} (h : WithinBound bound path)
    (hother : WithinBound other path) :
    ancestorsWithin bound path = ancestorsWithin other path := by
  induction bound generalizing path other with
  | zero =>
      rcases h with h | h
      · exact absurd h (Nat.not_lt_zero _)
      · exact absurd h.1 (Nat.lt_irrefl 0)
  | succ bound ih =>
      cases other with
      | zero =>
          rcases hother with h | h
          · exact absurd h (Nat.not_lt_zero _)
          · exact absurd h.1 (Nat.lt_irrefl 0)
      | succ other =>
          rw [ancestorsWithin, ancestorsWithin]
          cases hparent : path.parent? with
          | none => rfl
          | some parent =>
              have hlength : ∀ {bound}, WithinBound (bound + 1) path →
                  path.pieces.length ≤ bound := by
                intro bound h
                rcases h with h | h
                · exact Nat.le_of_lt_succ h
                · rw [hparent] at h
                  cases h.2
              have hsame := ih (withinBound_parent hparent (hlength h))
                (withinBound_parent hparent (hlength hother))
              dsimp only
              rw [hsame]

/-- The ancestors of a path are the path and those of its parent. -/
theorem ancestors_eq (path : Path) :
    path.ancestors = path :: (path.parent?.map ancestors).getD [] := by
  rw [ancestors, ancestorsWithin]
  cases hparent : path.parent? with
  | none => rfl
  | some parent =>
      have hbound := withinBound_parent hparent (Nat.le_refl _)
      have hsame := ancestorsWithin_congr hbound (Or.inl (Nat.lt_succ_self _))
      exact congrArg (path :: ·) hsame

/-- The list holds the path and all that stands above it. -/
theorem mem_ancestors_iff : outer ∈ path.ancestors ↔ path.Above outer := by
  constructor
  · intro hmem
    -- within any bound, since the bound of the list is that of the path and not of its parents
    have hwithin : ∀ bound (path : Path), outer ∈ ancestorsWithin bound path →
        path.Above outer := by
      intro bound
      induction bound with
      | zero => exact fun path hmem => absurd hmem List.not_mem_nil
      | succ bound ih =>
          intro path hmem
          rw [ancestorsWithin] at hmem
          split at hmem
          · rw [List.mem_singleton.1 hmem]
            exact Relation.ReflTransGen.refl
          · next parent hparent =>
            rcases List.mem_cons.1 hmem with rfl | hmem
            · exact Relation.ReflTransGen.refl
            · exact Relation.ReflTransGen.head hparent (ih parent hmem)
    exact hwithin _ path hmem
  · intro habove
    induction habove using Relation.ReflTransGen.head_induction_on with
    | refl =>
        rw [ancestors_eq]
        exact List.mem_cons_self
    | head hparent _ ih =>
        rw [ancestors_eq, hparent]
        exact List.mem_cons_of_mem _ ih

theorem isAbsolute_of_above (hpath : path.isAbsolute = true) (h : path.Above outer) :
    outer.isAbsolute = true := by
  induction h with
  | refl => exact hpath
  | tail _ hparent ih => exact isAbsolute_parent ih hparent

/-- What stands above a path has its first pieces, or it is one of the two paths that have no
parent. -/
theorem pieces_of_above (h : path.Above outer) :
    outer.pieces <+: path.pieces ∨ outer.pieces = [""] ∨ outer.pieces = ["", ""] := by
  induction h with
  | refl => exact Or.inl (List.prefix_refl _)
  | tail _ hparent ih =>
      rcases parent?_cases hparent with ⟨htop, -⟩ | htop | ⟨hfront, -, -⟩
      · exact Or.inr (Or.inl htop)
      · exact Or.inr (Or.inr htop)
      · rcases ih with hinner | htop
        · exact Or.inl (hfront.trans hinner)
        · rw [parent?_eq_none_of_top htop] at hparent
          cases hparent

/-- A step up on the way to an entry of what stands above a path is one of the path. -/
theorem exists_up_of_above {before after : List String} (h : path.Above outer)
    (hname : name ≠ "..") (hpieces : (outer.entry name).pieces = before ++ ".." :: after) :
    ∃ rest, path.pieces = before ++ ".." :: rest := by
  rw [pieces_entry] at hpieces
  -- the step up is not the name of the entry, so it is one of what it is an entry of
  have hstem : ∃ rest, outer.stem = before ++ ".." :: rest := by
    rcases List.eq_nil_or_concat after with rfl | ⟨front, last, rfl⟩
    · exact absurd (List.singleton_inj.1 (List.append_inj' hpieces rfl).2) hname
    · rw [List.concat_eq_append, ← List.cons_append, ← List.append_assoc] at hpieces
      exact ⟨front, (List.append_inj' hpieces rfl).1⟩
  have houter : ∃ rest, outer.pieces = before ++ ".." :: rest := by
    obtain ⟨rest, hrest⟩ := hstem
    unfold stem at hrest
    split at hrest
    · obtain ⟨last, hlast⟩ := List.dropLast_prefix outer.pieces
      rw [hrest, List.append_assoc, List.cons_append] at hlast
      exact ⟨rest ++ last, hlast.symm⟩
    · exact ⟨rest, hrest⟩
  obtain ⟨rest, hrest⟩ := houter
  rcases pieces_of_above h with ⟨last, hlast⟩ | htop | htop
  · rw [hrest, List.append_assoc, List.cons_append] at hlast
    exact ⟨rest ++ last, hlast.symm⟩
  · have hup : ".." ∈ outer.pieces := by simp [hrest]
    simp [htop] at hup
  · have hup : ".." ∈ outer.pieces := by simp [hrest]
    simp [htop] at hup

/-- From an ancestor on, the list is that of its own ancestors. -/
theorem ancestors_of_append {before after : List Path}
    (h : path.ancestors = before ++ outer :: after) : outer :: after = outer.ancestors := by
  induction before generalizing path with
  | nil =>
      have hhead := h
      rw [ancestors_eq] at hhead
      rw [(List.cons.inj hhead).1] at h
      exact h.symm
  | cons inner before ih =>
      rw [ancestors_eq, List.cons_append] at h
      cases hparent : path.parent? with
      | none =>
          rw [hparent] at h
          exact absurd (List.cons.inj h).2.symm (by simp)
      | some parent =>
          rw [hparent] at h
          exact ih (List.cons.inj h).2

/-- The first ancestor that satisfies a condition is the nearest one: all others that satisfy it
stand above it. -/
theorem find?_ancestors {condition : Path → Bool}
    (h : path.ancestors.find? condition = some outer) :
    path.Above outer ∧ condition outer = true ∧
      ∀ other, path.Above other → condition other = true → outer.Above other := by
  obtain ⟨hcondition, before, after, hancestors, hbefore⟩ := List.find?_eq_some_iff_append.1 h
  refine ⟨mem_ancestors_iff.1 (hancestors ▸ List.mem_append_right before List.mem_cons_self),
    hcondition, fun other hother hholds => ?_⟩
  have hmem := mem_ancestors_iff.2 hother
  rw [hancestors, List.mem_append] at hmem
  rcases hmem with hmem | hmem
  · have hnot := hbefore other hmem
    rw [hholds] at hnot
    cases hnot
  · rw [ancestors_of_append hancestors] at hmem
    exact mem_ancestors_iff.1 hmem

end TermStore.Files.Path
