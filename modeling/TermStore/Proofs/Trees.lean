import TermStore.Proofs.Layouts
import TermStore.Proofs.Paths
import Mathlib.Data.List.TakeWhile

/-!
# File trees that grow

Making directories and writing files never takes anything away: what was there is still there, and
directories stay directories (`Tree.Extends`). So a path that leads somewhere still leads to the
same place, and what was made can be found under the path that it was made with.

The other way round a new directory can make a path lead somewhere that led nowhere before. In a
tree whose entries all stand in directories (`Tree.Grounded`) such a path ends in that directory,
unless it goes up from it again (`Tree.GoesUpFrom`).
-/

namespace TermStore.Files.Tree

variable {tree later last : Tree} {here there place : Place} {pieces : List String} {path : Path}
  {piece name : String} {node : Node}

/-! ### Nodes -/

theorem node?_put_of_ne (h : there ≠ place) (node : Node) :
    (tree.put place node).node? there = tree.node? there := by
  unfold node? put
  rw [SortedMap.get?_put_of_ne _ h]

theorem node?_put_self (h : place ≠ []) (node : Node) :
    (tree.put place node).node? place = some node := by
  simp [node?, put, h]

theorem ne_nil_of_node? (h : tree.node? place ≠ some .directory) : place ≠ [] := by
  intro hnil
  exact h (by simp [node?, hnil])

/-- The second tree has all that the first one has, and its directories. -/
structure Extends (tree later : Tree) : Prop where
  node : ∀ place, tree.node? place ≠ none → later.node? place ≠ none
  directory : ∀ place, tree.node? place = some .directory → later.node? place = some .directory

theorem Extends.refl (tree : Tree) : tree.Extends tree := ⟨fun _ h => h, fun _ h => h⟩

theorem Extends.trans (h : tree.Extends later) (hlast : later.Extends last) : tree.Extends last :=
  ⟨fun place hplace => hlast.node place (h.node place hplace),
    fun place hplace => hlast.directory place (h.directory place hplace)⟩

/-- Something is put where no directory is. -/
theorem extends_put (h : tree.node? place ≠ some .directory) (node : Node) :
    tree.Extends (tree.put place node) := by
  constructor
  · intro there hthere
    by_cases hsame : there = place
    · rw [hsame, node?_put_self (ne_nil_of_node? h)]
      exact Option.some_ne_none node
    · rwa [node?_put_of_ne hsame]
  · intro there hthere
    have hne : there ≠ place := fun hsame => h (hsame ▸ hthere)
    rwa [node?_put_of_ne hne]

/-! ### Following pieces -/

/-- A piece that leads to an entry of the directory that it is followed from. -/
def IsEntry (piece : String) : Prop := piece ≠ "" ∧ piece ≠ "." ∧ piece ≠ ".."

instance (piece : String) : Decidable (IsEntry piece) := inferInstanceAs (Decidable (_ ∧ _))

/-- One piece of a path, followed from a directory: an empty one and a dot stay, two dots go up, and
any other name goes on to an entry that has to be there. All that follows about paths splits on
these three cases. -/
theorem follow_cons_eq_ok_iff {rest : List String} :
    tree.follow here (piece :: rest) = .ok there ↔ tree.node? here = some .directory ∧
      ((piece = "" ∨ piece = ".") ∧ tree.follow here rest = .ok there ∨
        piece = ".." ∧ tree.follow here.dropLast rest = .ok there ∨
        IsEntry piece ∧ tree.node? (here ++ [piece]) ≠ none ∧
          tree.follow (here ++ [piece]) rest = .ok there) := by
  rw [follow]
  unfold IsEntry
  by_cases hempty : piece = ""
  · subst hempty
    cases tree.node? here with
    | none => simp
    | some node => cases node <;> simp
  by_cases hdot : piece = "."
  · subst hdot
    cases tree.node? here with
    | none => simp
    | some node => cases node <;> simp
  by_cases hup : piece = ".."
  · subst hup
    cases tree.node? here with
    | none => simp
    | some node => cases node <;> simp
  -- a name is followed only from a directory, and only to what is there
  · cases tree.node? here with
    | none => simp
    | some node =>
        cases node with
        | directory => cases tree.node? (here ++ [piece]) <;> simp [hempty, hdot, hup]
        | file bytes => simp
        | database database => simp

/-- A path is followed piece by piece, so it can be cut anywhere. -/
theorem follow_append_eq_ok_iff {before after : List String} :
    tree.follow here (before ++ after) = .ok there ↔
      ∃ middle, tree.follow here before = .ok middle ∧ tree.follow middle after = .ok there := by
  -- on the first part, from any place: the second part is followed from where it ends
  induction before generalizing here with
  | nil => simp [follow]
  | cons piece rest ih =>
      rw [List.cons_append, follow_cons_eq_ok_iff]
      simp only [follow_cons_eq_ok_iff, ih]
      constructor
      · intro ⟨hhere, hnext⟩
        rcases hnext with ⟨hpiece, middle, hrest, hafter⟩ | ⟨hpiece, middle, hrest, hafter⟩ |
          ⟨hpiece, hnode, middle, hrest, hafter⟩
        · exact ⟨middle, ⟨hhere, Or.inl ⟨hpiece, hrest⟩⟩, hafter⟩
        · exact ⟨middle, ⟨hhere, Or.inr (Or.inl ⟨hpiece, hrest⟩)⟩, hafter⟩
        · exact ⟨middle, ⟨hhere, Or.inr (Or.inr ⟨hpiece, hnode, hrest⟩)⟩, hafter⟩
      · intro ⟨middle, ⟨hhere, hnext⟩, hafter⟩
        refine ⟨hhere, ?_⟩
        rcases hnext with ⟨hpiece, hrest⟩ | ⟨hpiece, hrest⟩ | ⟨hpiece, hnode, hrest⟩
        · exact Or.inl ⟨hpiece, middle, hrest, hafter⟩
        · exact Or.inr (Or.inl ⟨hpiece, middle, hrest, hafter⟩)
        · exact Or.inr (Or.inr ⟨hpiece, hnode, middle, hrest, hafter⟩)

/-- An entry is reached through the directory that it stands in. -/
theorem follow_entry_eq_ok_iff {before : List String} (hname : IsEntry name) :
    tree.follow here (before ++ [name]) = .ok there ↔
      ∃ directory, tree.follow here before = .ok directory ∧
        tree.node? directory = some .directory ∧ tree.node? (directory ++ [name]) ≠ none ∧
          there = directory ++ [name] := by
  rw [follow_append_eq_ok_iff]
  refine exists_congr fun directory => and_congr_right fun _ => ?_
  rw [follow_cons_eq_ok_iff]
  constructor
  · intro ⟨hdirectory, hnext⟩
    rcases hnext with ⟨hpiece, -⟩ | ⟨hpiece, -⟩ | ⟨-, hnode, hthere⟩
    · exact absurd hpiece (not_or.2 ⟨hname.1, hname.2.1⟩)
    · exact absurd hpiece hname.2.2
    · exact ⟨hdirectory, hnode, (Except.ok.inj hthere).symm⟩
  · intro ⟨hdirectory, hnode, hthere⟩
    exact ⟨hdirectory, Or.inr (Or.inr ⟨hname, hnode, congrArg Except.ok hthere.symm⟩)⟩

/-- Slashes at the end of a path lead on from a directory to itself. -/
theorem follow_slashes (h : tree.node? here = some .directory)
    (hpieces : ∀ piece ∈ pieces, piece = "") : tree.follow here pieces = .ok here := by
  induction pieces with
  | nil => rfl
  | cons piece rest ih =>
      obtain ⟨hpiece, hrest⟩ := List.forall_mem_cons.1 hpieces
      exact follow_cons_eq_ok_iff.2 ⟨h, Or.inl ⟨Or.inl hpiece, ih hrest⟩⟩

/-- Where a path led it still leads, to the same place. -/
theorem Extends.follow (h : tree.Extends later) (hfollow : tree.follow here pieces = .ok there) :
    later.follow here pieces = .ok there := by
  induction pieces generalizing here with
  | nil => exact hfollow
  | cons piece rest ih =>
      rw [follow_cons_eq_ok_iff] at hfollow ⊢
      obtain ⟨hhere, hnext⟩ := hfollow
      refine ⟨h.directory here hhere, ?_⟩
      rcases hnext with ⟨hpiece, hrest⟩ | ⟨hpiece, hrest⟩ | ⟨hpiece, hnode, hrest⟩
      · exact Or.inl ⟨hpiece, ih hrest⟩
      · exact Or.inr (Or.inl ⟨hpiece, ih hrest⟩)
      · exact Or.inr (Or.inr ⟨hpiece, h.node _ hnode, ih hrest⟩)

/-- What a whole path leads to is where its pieces lead from the root, if it is followed at all. -/
theorem locate_eq_ok_iff : tree.locate path = .ok place ↔
    isFollowed path = true ∧ path.pieces ≠ [""] ∧ tree.follow [] path.pieces = .ok place := by
  unfold locate locatePieces
  by_cases hfollowed : isFollowed path = true
  · by_cases hempty : path.pieces = [""]
    · simp [hfollowed, hempty]
    · simp [hfollowed, hempty]
  · simp [hfollowed]

/-- Something is there under a path when the path leads to a place that is taken. -/
theorem contains_iff :
    tree.contains path = true ↔
      ∃ place, tree.locate path = .ok place ∧ tree.node? place ≠ none := by
  unfold contains find?
  cases tree.locate path with
  | error obstacle => simp
  | ok place => simp [Option.isSome_iff_ne_none]

theorem Extends.locate (h : tree.Extends later) (hlocate : tree.locate path = .ok place) :
    later.locate path = .ok place := by
  obtain ⟨hfollowed, hempty, hfollow⟩ := locate_eq_ok_iff.1 hlocate
  exact locate_eq_ok_iff.2 ⟨hfollowed, hempty, h.follow hfollow⟩

theorem Extends.contains (h : tree.Extends later) (hpath : tree.contains path = true) :
    later.contains path = true := by
  obtain ⟨place, hlocate, hnode⟩ := contains_iff.1 hpath
  exact contains_iff.2 ⟨place, h.locate hlocate, h.node place hnode⟩

theorem Extends.isDirectory (h : tree.Extends later) (hpath : tree.isDirectory path = true) :
    later.isDirectory path = true := by
  obtain ⟨place, hlocate, hnode⟩ := isDirectory_iff.1 hpath
  exact isDirectory_iff.2 ⟨place, h.locate hlocate, h.directory place hnode⟩

theorem contains_of_isDirectory (h : tree.isDirectory path = true) : tree.contains path = true := by
  obtain ⟨place, hlocate, hnode⟩ := isDirectory_iff.1 h
  exact contains_iff.2 ⟨place, hlocate, hnode ▸ Option.some_ne_none _⟩

/-- The place of an entry ends in its name. -/
theorem getLast?_of_locate_entry (hname : IsEntry name)
    (h : tree.locate (path.entry name) = .ok place) : place.getLast? = some name := by
  have hfollow := (locate_eq_ok_iff.1 h).2.2
  rw [Path.pieces_entry, follow_entry_eq_ok_iff hname] at hfollow
  obtain ⟨directory, -, -, -, rfl⟩ := hfollow
  exact List.getLast?_concat

/-- What has an entry is a directory. -/
theorem isDirectory_of_contains_entry {inner : String} (hinner : inner ≠ "") (hentry : IsEntry name)
    (hpath : tree.contains (path.entry inner) = true)
    (h : tree.contains ((path.entry inner).entry name) = true) :
    tree.isDirectory (path.entry inner) = true := by
  obtain ⟨place, hlocate, -⟩ := contains_iff.1 hpath
  obtain ⟨there, hthere, -⟩ := contains_iff.1 h
  have hfollow := (locate_eq_ok_iff.1 hthere).2.2
  rw [Path.pieces_entry_entry hinner, follow_entry_eq_ok_iff hentry,
    (locate_eq_ok_iff.1 hlocate).2.2] at hfollow
  obtain ⟨directory, hsame, hdirectory, -⟩ := hfollow
  rw [← Except.ok.inj hsame] at hdirectory
  exact isDirectory_iff.2 ⟨place, hlocate, hdirectory⟩

/-! ### Making directories -/

/-- A new entry stands in a directory that its path leads to. -/
theorem newPlace_eq_ok_iff : tree.newPlace pieces = .ok place ↔
    ∃ name before directory, pieces = name :: before ∧ IsEntry name ∧
      tree.follow [] before.reverse = .ok directory ∧
        tree.node? directory = some .directory ∧ isName name = true ∧
          place = directory ++ [name] := by
  cases pieces with
  | nil => simp [newPlace]
  | cons name before =>
      simp only [List.cons.injEq, exists_and_left, ↓existsAndEq, true_and]
      rw [newPlace]
      by_cases hentry : IsEntry name
      · have hnot : ¬ (name = "" || name = "." || name = "..") = true := by
          simp [hentry.1, hentry.2.1, hentry.2.2]
        rw [if_neg hnot]
        cases tree.follow [] before.reverse with
        | error obstacle => simp
        | ok directory =>
            cases hnode : tree.node? directory with
            | none => simp [hnode]
            | some node =>
                cases node with
                | directory =>
                    by_cases hname : isName name = true
                    · simp [hnode, hentry, hname, eq_comm]
                    · simp [hnode, hname]
                | file bytes => simp [hnode]
                | database database => simp [hnode]
      · have hnot : (name = "" || name = "." || name = "..") = true := by
          by_contra hfalse
          simp only [Bool.or_eq_true, decide_eq_true_eq, not_or] at hfalse
          exact hentry ⟨hfalse.1.1, hfalse.1.2, hfalse.2⟩
        rw [if_pos hnot]
        cases tree.locatePieces (name :: before).reverse <;> simp [hentry]

/-- Nothing is missing on the way to what pieces lead to. -/
theorem newPlace_ne_missing (hhead : pieces.head? ≠ some "")
    (h : tree.follow [] pieces.reverse = .ok there) :
    tree.newPlace pieces ≠ .error .missing := by
  cases pieces with
  | nil => simp [newPlace]
  | cons name before =>
      rw [newPlace]
      split
      · have hnot : (name :: before).reverse ≠ [""] := by
          intro hslash
          rw [List.reverse_eq_iff] at hslash
          exact hhead (by rw [hslash]; rfl)
        rw [locatePieces, if_neg hnot, h]
        exact fun hmissing => nomatch Except.error.inj hmissing
      · rw [List.reverse_cons, follow_append_eq_ok_iff] at h
        obtain ⟨directory, hdirectory, -⟩ := h
        rw [hdirectory]
        dsimp only
        split
        · split <;> simp
        · simp

/-- A path is what is left of it without the slashes at its end, and these slashes. -/
theorem pieces_eq_append_slashes (path : Path) :
    ∃ slashes : List String, (∀ piece ∈ slashes, piece = "") ∧
      path.pieces = (path.pieces.reverse.dropWhile (· = "")).reverse ++ slashes := by
  refine ⟨(path.pieces.reverse.takeWhile (· = "")).reverse, fun piece hpiece => ?_, ?_⟩
  · have hslash := List.mem_takeWhile_imp (List.mem_reverse.1 hpiece)
    exact of_decide_eq_true hslash
  · rw [← List.reverse_append, List.takeWhile_append_dropWhile, List.reverse_reverse]

/-- A directory that is made is there, where nothing was before. -/
theorem makeDirectory_eq_ok (h : tree.makeDirectory path = .ok later) :
    ∃ place, tree.node? place = none ∧ later = tree.put place .directory ∧
      later.locate path = .ok place ∧ later.node? place = some .directory := by
  unfold makeDirectory at h
  split at h
  · cases h
  · next hfollowed =>
    split at h
    · cases h
    · next place hplace =>
      split at h
      · cases h
      · next hnone =>
        obtain rfl := Except.ok.inj h
        obtain ⟨name, before, directory, hpieces, hentry, hfollow, hdirectory, -, rfl⟩ :=
          newPlace_eq_ok_iff.1 hplace
        have hnew : tree.node? (directory ++ [name]) ≠ some .directory := by simp [hnone]
        have hextends := extends_put hnew .directory
        have hmade : (tree.put (directory ++ [name]) .directory).node? (directory ++ [name]) =
            some .directory := node?_put_self (ne_nil_of_node? hnew) _
        refine ⟨directory ++ [name], hnone, rfl, locate_eq_ok_iff.2 ⟨?_, ?_, ?_⟩, hmade⟩
        · simpa using hfollowed
        · intro hempty
          rw [hempty] at hpieces
          cases hpieces
        -- slashes at the end are dropped when a directory is made, and followed when it is found
        -- again
        · obtain ⟨slashes, hslashes, hpath⟩ := pieces_eq_append_slashes path
          rw [hpath, hpieces, List.reverse_cons, follow_append_eq_ok_iff]
          refine ⟨directory ++ [name], (follow_entry_eq_ok_iff hentry).2
            ⟨directory, hextends.follow hfollow, hextends.directory _ hdirectory, ?_, rfl⟩,
            follow_slashes hmade hslashes⟩
          rw [hmade]
          exact Option.some_ne_none _

/-- What was made is found as a directory under its path. -/
theorem isDirectory_of_makeDirectory (h : tree.makeDirectory path = .ok later) :
    later.isDirectory path = true := by
  obtain ⟨place, -, -, hlocate, hnode⟩ := makeDirectory_eq_ok h
  exact isDirectory_iff.2 ⟨place, hlocate, hnode⟩

/-- A directory is made where nothing is, so nothing else changes. -/
theorem extends_of_makeDirectory (h : tree.makeDirectory path = .ok later) :
    tree.Extends later := by
  obtain ⟨place, hnone, rfl, -⟩ := makeDirectory_eq_ok h
  exact extends_put (by simp [hnone]) .directory

/-- What leads to a directory cannot be made, for what is there. -/
theorem makeDirectory_of_isDirectory (h : tree.isDirectory path = true) :
    tree.makeDirectory path = .error .blocked := by
  obtain ⟨place, hlocate, hdirectory⟩ := isDirectory_iff.1 h
  obtain ⟨hfollowed, -, hfollow⟩ := locate_eq_ok_iff.1 hlocate
  cases hmake : tree.makeDirectory path with
  | ok later =>
      obtain ⟨place', hnone, -, hlocate', -⟩ := makeDirectory_eq_ok hmake
      have hsame := (extends_of_makeDirectory hmake).locate hlocate
      rw [hlocate'] at hsame
      rw [Except.ok.inj hsame, hdirectory] at hnone
      cases hnone
  | error obstacle =>
      cases obstacle with
      | blocked => rfl
      | missing =>
          -- the path leads to a directory, so nothing can be missing on the way to it
          exfalso
          obtain ⟨slashes, -, hpath⟩ := pieces_eq_append_slashes path
          rw [hpath, follow_append_eq_ok_iff] at hfollow
          obtain ⟨middle, hmiddle, -⟩ := hfollow
          unfold makeDirectory at hmake
          rw [if_neg (by simp [hfollowed])] at hmake
          have hhead : (path.pieces.reverse.dropWhile (· = "")).head? ≠ some "" := by
            have hnot := List.head?_dropWhile_not (fun piece => decide (piece = ""))
              path.pieces.reverse
            intro hsome
            rw [hsome] at hnot
            simp at hnot
          cases hplace : tree.newPlace (path.pieces.reverse.dropWhile (· = "")) with
          | error obstacle =>
              rw [hplace] at hmake
              rw [Except.error.inj hmake] at hplace
              exact newPlace_ne_missing hhead hmiddle hplace
          | ok place =>
              rw [hplace] at hmake
              cases hnode : tree.node? place <;> simp [hnode] at hmake

/-- Making directories in each other keeps what is there, and the first of them is there at the end
if that is what is told. -/
theorem makeChain_spec (tree : Tree) (paths : List Path) :
    tree.Extends (tree.makeChain paths).2 ∧
      ((tree.makeChain paths).1 = true → ∀ path outer, paths = path :: outer →
        path.isEmpty = false → (tree.makeChain paths).2.isDirectory path = true) := by
  -- on the directories from the innermost one outwards: what is missing is made above it first
  induction paths with
  | nil => exact ⟨Extends.refl tree, fun h => nomatch h⟩
  | cons path outer ih =>
      rw [makeChain]
      split
      · next hempty =>
        refine ⟨Extends.refl tree, fun _ first rest hfirst hnot => ?_⟩
        obtain ⟨rfl, -⟩ := List.cons.inj hfirst
        rw [hempty] at hnot
        cases hnot
      · cases hmake : tree.makeDirectory path with
        | ok later =>
            refine ⟨extends_of_makeDirectory hmake, fun _ first rest hfirst _ => ?_⟩
            obtain ⟨rfl, -⟩ := List.cons.inj hfirst
            exact isDirectory_of_makeDirectory hmake
        | error obstacle =>
            cases obstacle with
            | blocked =>
                refine ⟨Extends.refl tree, fun hmade first rest hfirst _ => ?_⟩
                obtain ⟨rfl, -⟩ := List.cons.inj hfirst
                exact hmade
            | missing =>
                obtain ⟨hextends, -⟩ := ih
                dsimp only
                split
                · next middle hchain =>
                  rw [hchain] at hextends
                  exact ⟨hextends, fun hmade => nomatch hmade⟩
                · next middle hchain =>
                  rw [hchain] at hextends
                  cases hagain : middle.makeDirectory path with
                  | ok later =>
                      refine ⟨hextends.trans (extends_of_makeDirectory hagain),
                        fun _ first rest hfirst _ => ?_⟩
                      obtain ⟨rfl, -⟩ := List.cons.inj hfirst
                      exact isDirectory_of_makeDirectory hagain
                  | error obstacle =>
                      refine ⟨hextends, fun hmade first rest hfirst _ => ?_⟩
                      obtain ⟨rfl, -⟩ := List.cons.inj hfirst
                      exact hmade

/-- Making a directory with all above it keeps what is there, also where it fails half way and some
of the directories have been made. -/
theorem extends_makeDirectories (tree : Tree) (path : Path) :
    tree.Extends (tree.makeDirectories path).2 := (makeChain_spec tree path.ancestors).1

/-- If it succeeds the directory is there, whether it was made now or was there before. -/
theorem isDirectory_of_makeDirectories (hpath : path.isEmpty = false)
    (h : (tree.makeDirectories path).1 = true) :
    (tree.makeDirectories path).2.isDirectory path = true :=
  (makeChain_spec tree path.ancestors).2 h path _ (Path.ancestors_eq path) hpath

/-- Where the directory is there nothing is made, and that counts as success. -/
theorem makeDirectories_of_isDirectory (h : tree.isDirectory path = true) :
    tree.makeDirectories path = (true, tree) := by
  rw [makeDirectories, Path.ancestors_eq, makeChain, makeDirectory_of_isDirectory h, h]
  split <;> rfl

/-- For an entry of a directory that is there no other directory is made. -/
theorem makeDirectory_of_makeDirectories {inner : String} (hinner : inner ≠ "")
    (hentry : IsEntry name) (hname : isName name = true)
    (hdirectory : tree.isDirectory (path.entry inner) = true)
    (hnot : tree.isDirectory ((path.entry inner).entry name) = false)
    (h : tree.makeDirectories ((path.entry inner).entry name) = (true, later)) :
    tree.makeDirectory ((path.entry inner).entry name) = .ok later := by
  obtain ⟨place, hlocate, hnode⟩ := isDirectory_iff.1 hdirectory
  have hplace : tree.newPlace (((path.entry inner).entry name).pieces.reverse.dropWhile (· = "")) =
      .ok (place ++ [name]) := by
    refine newPlace_eq_ok_iff.2 ⟨name, (path.entry inner).pieces.reverse, place, ?_, hentry, ?_,
      hnode, hname, rfl⟩
    · rw [Path.pieces_entry_entry hinner, List.reverse_append]
      simp [hentry.1]
    · rw [List.reverse_reverse]
      exact (locate_eq_ok_iff.1 hlocate).2.2
  rw [makeDirectories, Path.ancestors_eq, makeChain,
    if_neg (by simp [Path.isEmpty_entry hentry.1])] at h
  unfold makeDirectory at h ⊢
  rw [hplace] at h ⊢
  by_cases hfollowed : isFollowed ((path.entry inner).entry name) = true
  · rw [if_neg (by simp [hfollowed])] at h ⊢
    cases hnone : tree.node? (place ++ [name]) with
    | none => simpa [hnone] using h
    | some node => simp [hnone, hnot] at h
  · rw [if_pos (by simp [hfollowed])] at h
    simp [hnot] at h

/-! ### Writing files -/

/-- A file is written as an entry of a directory, where no directory is. -/
theorem write_eq_some_iff {bytes : List UInt8} : tree.write path bytes = some later ↔
    isFollowed path = true ∧ ∃ place, tree.newPlace path.pieces.reverse = .ok place ∧
      tree.node? place ≠ some .directory ∧ later = tree.put place (.file bytes) := by
  unfold write
  by_cases hfollowed : isFollowed path = true
  · rw [if_neg (by simp [hfollowed])]
    cases hplace : tree.newPlace path.pieces.reverse with
    | error obstacle => simp
    | ok place =>
        cases hnode : tree.node? place with
        | none => simp [hfollowed, hnode, eq_comm]
        | some node => cases node <;> simp [hfollowed, hnode, eq_comm]
  · simp [hfollowed]

/-- A file is put where there is none or another file, so all directories stay. -/
theorem extends_of_write {bytes : List UInt8} (h : tree.write path bytes = some later) :
    tree.Extends later := by
  obtain ⟨-, place, -, hnode, rfl⟩ := write_eq_some_iff.1 h
  exact extends_put hnode _

/-- Writing a file makes no directory and takes none away. -/
theorem isDirectory_of_write {bytes : List UInt8} (h : tree.write path bytes = some later)
    (other : Path) : later.isDirectory other = tree.isDirectory other := by
  obtain ⟨-, place, hplace, hnode, rfl⟩ := write_eq_some_iff.1 h
  have hfile : (tree.put place (.file bytes)).node? place ≠ some .directory := by
    rw [node?_put_self (ne_nil_of_node? hnode)]
    exact fun hdirectory => nomatch hdirectory
  have hagree : tree.AgreeBut (tree.put place (.file bytes)) place :=
    ⟨fun there hthere => (node?_put_of_ne hthere _).symm, hnode, hfile⟩
  exact (hagree.isDirectory_eq other).symm

/-- What was written is there, and can be written over. -/
theorem written {bytes : List UInt8} (h : tree.write path bytes = some later) :
    later.find? path = some (.file bytes) ∧
      ∀ other, ∃ edited, later.write path other = some edited := by
  have hextends := extends_of_write h
  obtain ⟨hfollowed, place, hplace, hnode, rfl⟩ := write_eq_some_iff.1 h
  obtain ⟨name, before, directory, hpieces, hentry, hfollow, hdirectory, hname, rfl⟩ :=
    newPlace_eq_ok_iff.1 hplace
  have hwritten : (tree.put (directory ++ [name]) (.file bytes)).node? (directory ++ [name]) =
      some (.file bytes) := node?_put_self (ne_nil_of_node? hnode) _
  have hfollow' := hextends.follow hfollow
  have hdirectory' := hextends.directory _ hdirectory
  constructor
  · have hpath : path.pieces = before.reverse ++ [name] := by
      rw [← List.reverse_reverse path.pieces, hpieces, List.reverse_cons]
    have hlocate : (tree.put (directory ++ [name]) (.file bytes)).locate path =
        .ok (directory ++ [name]) := by
      refine locate_eq_ok_iff.2 ⟨hfollowed, ?_, ?_⟩
      · intro hempty
        rw [hempty] at hpieces
        exact hentry.1 (List.cons.inj hpieces).1.symm
      · rw [hpath, follow_entry_eq_ok_iff hentry]
        refine ⟨directory, hfollow', hdirectory', ?_, rfl⟩
        rw [hwritten]
        exact Option.some_ne_none _
    rw [find?, hlocate]
    exact hwritten
  · intro other
    refine ⟨_, write_eq_some_iff.2 ⟨hfollowed, directory ++ [name],
      newPlace_eq_ok_iff.2 ⟨name, before, directory, hpieces, hentry, hfollow', hdirectory', hname,
        rfl⟩, ?_, rfl⟩⟩
    rw [hwritten]
    exact fun hfile => nomatch hfile

/-! ### Following paths through a new directory -/

/-- What is in the tree stands in directories. -/
def Grounded (tree : Tree) : Prop :=
  ∀ place name, tree.node? (place ++ [name]) ≠ none → tree.node? place = some .directory

/-- A step up of the first path goes up from what the second one leads to. -/
def GoesUpFrom (tree : Tree) (path other : Path) : Prop :=
  ∃ before after place, path.pieces = before ++ ".." :: after ∧
    tree.follow [] before = .ok place ∧ tree.locate other = .ok place

section NewDirectory

variable (hgrounded : tree.Grounded) (hnone : tree.node? place = none)

include hgrounded hnone

/-- A new directory is empty, so only a step up leads out of it. -/
theorem eq_of_follow_new (hup : ∀ before after, pieces = before ++ ".." :: after →
      (tree.put place .directory).follow place before ≠ .ok place)
    (h : (tree.put place .directory).follow place pieces = .ok there) : there = place := by
  induction pieces with
  | nil => exact (Except.ok.inj h).symm
  | cons piece rest ih =>
      obtain ⟨hplace, hnext⟩ := follow_cons_eq_ok_iff.1 h
      rcases hnext with ⟨hpiece, hrest⟩ | ⟨rfl, -⟩ | ⟨hpiece, hnode, -⟩
      · refine ih (fun before after hsplit hbefore => ?_) hrest
        refine hup (piece :: before) after (by rw [hsplit, List.cons_append]) ?_
        exact follow_cons_eq_ok_iff.2 ⟨hplace, Or.inl ⟨hpiece, hbefore⟩⟩
      · exact absurd rfl (hup [] rest rfl)
      · rw [node?_put_of_ne (by simp)] at hnode
        rw [hgrounded place piece hnode] at hnone
        cases hnone

/-- What leads somewhere when a directory is new led there before, or it leads to that directory, or
it goes up from it. -/
theorem follow_of_new (hhere : here ≠ place) (hup : ∀ before after,
      pieces = before ++ ".." :: after →
        (tree.put place .directory).follow here before ≠ .ok place)
    (h : (tree.put place .directory).follow here pieces = .ok there) :
    there = place ∨ tree.follow here pieces = .ok there := by
  induction pieces generalizing here with
  | nil => exact Or.inr h
  | cons piece rest ih =>
      have hplace : (tree.put place .directory).node? here = some .directory :=
        (follow_cons_eq_ok_iff.1 h).1
      have hdirectory : tree.node? here = some .directory := by
        rwa [node?_put_of_ne hhere] at hplace
      -- the rest of the path goes on from where the first piece leads
      have hrest : ∀ next, next ≠ place → (∀ before,
          (tree.put place .directory).follow next before = .ok place →
            (tree.put place .directory).follow here (piece :: before) = .ok place) →
          (tree.put place .directory).follow next rest = .ok there →
            there = place ∨ tree.follow next rest = .ok there := by
        intro next hnext hstep
        refine ih hnext fun before after hsplit hbefore => ?_
        exact hup (piece :: before) after (by rw [hsplit, List.cons_append]) (hstep before hbefore)
      rw [follow_cons_eq_ok_iff]
      rcases (follow_cons_eq_ok_iff.1 h).2 with ⟨hpiece, hfollow⟩ | ⟨hpiece, hfollow⟩ |
        ⟨hpiece, hnode, hfollow⟩
      · have hstep := hrest here hhere (fun before hbefore =>
          follow_cons_eq_ok_iff.2 ⟨hplace, Or.inl ⟨hpiece, hbefore⟩⟩) hfollow
        exact hstep.imp_right fun hlater => ⟨hdirectory, Or.inl ⟨hpiece, hlater⟩⟩
      -- the new directory is not above a place that was there before, as nothing stood in it
      · have hne : here.dropLast ≠ place := by
          intro hsame
          rcases List.eq_nil_or_concat here with rfl | ⟨front, name, rfl⟩
          · exact hhere hsame
          · rw [List.concat_eq_append, List.dropLast_concat] at hsame
            rw [List.concat_eq_append, hsame] at hdirectory
            have hground := hgrounded place name (hdirectory ▸ Option.some_ne_none _)
            rw [hnone] at hground
            cases hground
        have hstep := hrest here.dropLast hne (fun before hbefore =>
          follow_cons_eq_ok_iff.2 ⟨hplace, Or.inr (Or.inl ⟨hpiece, hbefore⟩)⟩) hfollow
        exact hstep.imp_right fun hlater => ⟨hdirectory, Or.inr (Or.inl ⟨hpiece, hlater⟩)⟩
      · have hinto : ∀ before, (tree.put place .directory).follow (here ++ [piece]) before =
            .ok place → (tree.put place .directory).follow here (piece :: before) = .ok place :=
          fun before hbefore =>
            follow_cons_eq_ok_iff.2 ⟨hplace, Or.inr (Or.inr ⟨hpiece, hnode, hbefore⟩)⟩
        -- either the path goes into the new directory and stays there, or it goes on as it did
        -- before
        by_cases hsame : here ++ [piece] = place
        · rw [hsame] at hfollow hinto
          refine Or.inl (eq_of_follow_new hgrounded hnone (fun before after hsplit hbefore => ?_)
            hfollow)
          exact hup (piece :: before) after (by rw [hsplit, List.cons_append])
            (hinto before hbefore)
        · rw [node?_put_of_ne hsame] at hnode
          have hstep := hrest _ hsame hinto hfollow
          exact hstep.imp_right fun hlater =>
            ⟨hdirectory, Or.inr (Or.inr ⟨hpiece, hnode, hlater⟩)⟩

end NewDirectory

/-- A path that led somewhere before a directory was made does not go up from that directory. -/
theorem not_goesUpFrom {other : Path} (hpath : tree.locate path = .ok there)
    (h : tree.Extends later) (hother : later.locate other = .ok place)
    (hnone : tree.node? place = none) : ¬ later.GoesUpFrom path other := by
  intro ⟨before, after, place', hpieces, hbefore, hplace⟩
  obtain ⟨-, -, hfollow⟩ := locate_eq_ok_iff.1 hpath
  rw [hpieces, follow_append_eq_ok_iff] at hfollow
  obtain ⟨middle, hmiddle, hup⟩ := hfollow
  rw [h.follow hmiddle] at hbefore
  rw [hother, ← Except.ok.inj hbefore] at hplace
  rw [Except.ok.inj hplace, (follow_cons_eq_ok_iff.1 hup).1] at hnone
  cases hnone

/-- A tree in which something is put into a directory still has all it holds in directories. -/
theorem grounded_put (directory : Place) (name : String) (h : tree.Grounded)
    (hdirectory : tree.node? directory = some .directory)
    (hplace : tree.node? (directory ++ [name]) ≠ some .directory) (node : Node) :
    (tree.put (directory ++ [name]) node).Grounded := by
  intro place piece hpiece
  have hextends := extends_put hplace node
  by_cases hsame : place ++ [piece] = directory ++ [name]
  · rw [(List.append_inj' hsame rfl).1]
    exact hextends.directory _ hdirectory
  · rw [node?_put_of_ne hsame] at hpiece
    exact hextends.directory _ (h place piece hpiece)

theorem grounded_empty : empty.Grounded := by
  intro place name hnode
  exact absurd (by simp [node?, empty]) hnode

end TermStore.Files.Tree
