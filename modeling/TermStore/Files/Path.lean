/-!
# Paths

A path is its text cut at the slashes, so it is printed as it was put together: doubled slashes
and single dots stay in it. Two paths count as the same when their steps are: empty pieces and
single dots are no steps, but for a dot at the start of a relative path.
-/

namespace TermStore.Files

/-- A path, as the pieces between the slashes of its text. A text without a slash is one piece. -/
structure Path where
  pieces : List String
  pieces_ne_nil : pieces ≠ [] := by simp
  deriving DecidableEq

namespace Path

/-- Cuts a text at its slashes. -/
def cut : List Char → List (List Char)
  | [] => [[]]
  | c :: rest =>
    if c = '/' then [] :: cut rest
    else
      match cut rest with
      | [] => [[c]]
      | piece :: pieces => (c :: piece) :: pieces

theorem cut_ne_nil (text : List Char) : cut text ≠ [] := by
  cases text with
  | nil => simp [cut]
  | cons c rest =>
    unfold cut
    split
    · simp
    · split <;> simp

/-- The path of a text. -/
def ofText (text : String) : Path where
  pieces := (cut text.toList).map String.ofList
  pieces_ne_nil := by simp [cut_ne_nil]

instance : Repr Path := ⟨fun path => reprPrec ("/".intercalate path.pieces)⟩

/-- The text of a path. -/
def text (path : Path) : String := "/".intercalate path.pieces

/-- The text of a path with slashes for backslashes. -/
def display (path : Path) : String :=
  path.text.map fun c => if c = '\\' then '/' else c

/-- Does the path start at the root? -/
def isAbsolute (path : Path) : Bool :=
  match path.pieces with
  | "" :: _ :: _ => true
  | _ => false

/-- Has the path no text? -/
def isEmpty (path : Path) : Bool := path.pieces == [""]

/-- The path that a second path leads to from the first one. -/
def join (base path : Path) : Path :=
  if path.isAbsolute then path
  else if base.pieces.getLast? = some "" then
    ⟨base.pieces.dropLast ++ path.pieces, by simp [path.pieces_ne_nil]⟩
  else ⟨base.pieces ++ path.pieces, by simp [path.pieces_ne_nil]⟩

/-- The path of an entry of a directory. -/
def entry (directory : Path) (name : String) : Path := directory.join { pieces := [name] }

/-! ### Steps -/

/-- Is the piece a step wherever it stands? -/
def isStep (piece : String) : Bool := piece ≠ "" && piece ≠ "."

/-- The steps of a path; the root is written as a slash. -/
def steps (path : Path) : List String :=
  match path.pieces with
  | [] => []
  | first :: rest =>
    (if first ≠ "" then [first] else if rest.isEmpty then [] else ["/"]) ++ rest.filter isStep

/-- Do two paths have the same steps? -/
def sameAs (path other : Path) : Bool := path.steps == other.steps

/-- Drops pieces that are no steps from the end of a path whose pieces are given last first. The
first piece of the path stays. -/
def settle : List String → List String
  | [] => []
  | [first] => [first]
  | last :: before => if isStep last then last :: before else settle before

/-- The path without its last step, if it has one. -/
def parent? (path : Path) : Option Path :=
  match settle path.pieces.reverse with
  | [] => none
  | [first] => if first = "" then none else some { pieces := [""] }
  | _ :: before =>
    match settle before with
    | [] => none
    | [""] => some { pieces := ["", ""] }
    | last :: before => some { pieces := (last :: before).reverse }

/-- The path, its parent, the parent of that, and so on, at most `bound` of them. -/
def ancestorsWithin : (bound : Nat) → Path → List Path
  | 0, _ => []
  | bound + 1, path =>
    match path.parent? with
    | none => [path]
    | some parent => path :: ancestorsWithin bound parent

/-- The path and all the paths above it, from the inside out. Each has a step less than the one
before it. -/
def ancestors (path : Path) : List Path := ancestorsWithin (path.pieces.length + 1) path

end Path

end TermStore.Files
