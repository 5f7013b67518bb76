/-!
# Maps kept in the order of their keys

A finite map as the list of its entries in ascending order of keys. The order is part of the type,
so two maps with the same entries are equal, and whatever walks over a map meets the keys in
order. Putting replaces the value of a key that is there; the look-up lemmas need no assumption
on the order.
-/

namespace TermStore

/-- A finite map whose entries ascend by key. -/
structure SortedMap (κ α : Type) [LT κ] where
  entries : List (κ × α)
  ascending : entries.Pairwise fun a b => a.1 < b.1

namespace SortedMap

/-- The value of a key in a list of entries. -/
def find? {κ α : Type} [DecidableEq κ] (key : κ) : List (κ × α) → Option α
  | [] => none
  | (k, v) :: rest => if key = k then some v else find? key rest

/-- The entries with a value put under a key. -/
def insertEntry {κ α : Type} [LT κ] [DecidableLT κ] [DecidableEq κ] (key : κ) (value : α) :
    List (κ × α) → List (κ × α)
  | [] => [(key, value)]
  | (k, v) :: rest =>
    if key < k then (key, value) :: (k, v) :: rest
    else if key = k then (key, value) :: rest
    else (k, v) :: insertEntry key value rest

/-- Two maps with the same entries are equal. -/
@[ext] theorem ext_entries {κ α : Type} [LT κ] {m n : SortedMap κ α}
    (h : m.entries = n.entries) : m = n := by
  cases m; cases n; cases h; rfl

/-! ### Entries -/

section Entries

variable {κ α : Type} [LT κ] [DecidableLT κ] [DecidableEq κ]

theorem mem_insertEntry {key : κ} {value : α} {entry : κ × α} {entries : List (κ × α)}
    (h : entry ∈ insertEntry key value entries) : entry = (key, value) ∨ entry ∈ entries := by
  induction entries with
  | nil => exact Or.inl (List.mem_singleton.1 h)
  | cons head rest ih =>
    unfold insertEntry at h
    split at h
    · exact List.mem_cons.1 h
    · split at h
      · rcases List.mem_cons.1 h with h | h
        · exact Or.inl h
        · exact Or.inr (List.mem_cons_of_mem _ h)
      · rcases List.mem_cons.1 h with h | h
        · exact Or.inr (h ▸ List.mem_cons_self)
        · exact (ih h).imp_right (List.mem_cons_of_mem _)

theorem find?_insertEntry_self (key : κ) (value : α) (entries : List (κ × α)) :
    find? key (insertEntry key value entries) = some value := by
  induction entries with
  | nil => simp [insertEntry, find?]
  | cons head rest ih =>
    unfold insertEntry
    split
    · simp [find?]
    · split
      · simp [find?]
      · next h => simp [find?, h, ih]

theorem find?_insertEntry_of_ne {key other : κ} (h : other ≠ key) (value : α)
    (entries : List (κ × α)) :
    find? other (insertEntry key value entries) = find? other entries := by
  induction entries with
  | nil => simp [insertEntry, find?, h]
  | cons head rest ih =>
    unfold insertEntry
    split
    · simp [find?, h]
    · split
      · next heq => simp [find?, h, ← heq]
      · by_cases hk : other = head.1 <;> simp [find?, hk, ih]

variable [LE κ] [Std.IsLinearOrder κ] [Std.LawfulOrderLT κ]

theorem insertEntry_ascending (key : κ) (value : α) {entries : List (κ × α)}
    (h : entries.Pairwise fun a b => a.1 < b.1) :
    (insertEntry key value entries).Pairwise fun a b => a.1 < b.1 := by
  induction entries with
  | nil => simp [insertEntry]
  | cons head rest ih =>
    have hrest := (List.pairwise_cons.1 h).1
    unfold insertEntry
    split
    · next hlt =>
      refine List.pairwise_cons.2 ⟨fun entry hmem => ?_, h⟩
      rcases List.mem_cons.1 hmem with rfl | hmem
      · exact hlt
      · exact Std.lt_trans hlt (hrest entry hmem)
    · split
      · next heq =>
        exact List.pairwise_cons.2 ⟨fun entry hmem => heq ▸ hrest entry hmem,
          (List.pairwise_cons.1 h).2⟩
      · next hlt hne =>
        refine List.pairwise_cons.2 ⟨fun entry hmem => ?_, ih (List.pairwise_cons.1 h).2⟩
        rcases mem_insertEntry hmem with rfl | hmem
        · exact Std.lt_of_le_of_ne (Std.not_lt.1 hlt) (Ne.symm hne)
        · exact hrest entry hmem

end Entries

/-! ### Maps -/

section Maps

variable {κ α : Type} [LE κ] [LT κ] [DecidableLT κ] [DecidableEq κ] [Std.IsLinearOrder κ]
  [Std.LawfulOrderLT κ]

/-- The map without entries. -/
def empty : SortedMap κ α := ⟨[], List.Pairwise.nil⟩

instance : EmptyCollection (SortedMap κ α) := ⟨empty⟩

instance : Inhabited (SortedMap κ α) := ⟨empty⟩

/-- The value of a key. -/
def get? (m : SortedMap κ α) (key : κ) : Option α := find? key m.entries

/-- Does the key have a value? -/
def contains (m : SortedMap κ α) (key : κ) : Bool := (m.get? key).isSome

/-- The map with a value put under a key, in place of an older one. -/
def put (m : SortedMap κ α) (key : κ) (value : α) : SortedMap κ α :=
  ⟨insertEntry key value m.entries, insertEntry_ascending key value m.ascending⟩

/-- The map of some entries; of two with one key the later one counts. -/
def ofList (entries : List (κ × α)) : SortedMap κ α :=
  entries.foldl (fun m entry => m.put entry.1 entry.2) empty

/-- The first map with the entries of the second put over it. -/
def union (m n : SortedMap κ α) : SortedMap κ α :=
  n.entries.foldl (fun m entry => m.put entry.1 entry.2) m

/-- The map without a key. -/
def erase (m : SortedMap κ α) (key : κ) : SortedMap κ α :=
  ⟨m.entries.filter fun entry => entry.1 ≠ key, m.ascending.filter _⟩

/-- The map with only the entries that satisfy a condition. -/
def filter (m : SortedMap κ α) (keep : κ × α → Bool) : SortedMap κ α :=
  ⟨m.entries.filter keep, m.ascending.filter _⟩

/-- The keys, ascending. -/
def keys (m : SortedMap κ α) : List κ := m.entries.map Prod.fst

/-- The values in the order of their keys. -/
def values (m : SortedMap κ α) : List α := m.entries.map Prod.snd

instance [DecidableEq α] : DecidableEq (SortedMap κ α) := fun m n =>
  if h : m.entries = n.entries then .isTrue (ext_entries h)
  else .isFalse fun heq => h (congrArg SortedMap.entries heq)

@[simp] theorem get?_put_self (m : SortedMap κ α) (key : κ) (value : α) :
    (m.put key value).get? key = some value :=
  find?_insertEntry_self key value m.entries

theorem get?_put_of_ne (m : SortedMap κ α) {key other : κ} (h : other ≠ key) (value : α) :
    (m.put key value).get? other = m.get? other :=
  find?_insertEntry_of_ne h value m.entries

end Maps

end SortedMap

end TermStore
