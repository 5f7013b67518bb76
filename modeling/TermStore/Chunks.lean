/-!
# Lists in chunks

A statement takes a bounded number of values, so long lists are sent in chunks. Chunking loses
nothing and keeps the order, and no chunk is empty.
-/

namespace TermStore

/-- Cuts a list into chunks of `size`, at most `bound` of them. -/
def chunksWithin {α : Type} (size : Nat) : (bound : Nat) → List α → List (List α)
  | _, [] => []
  | 0, _ => []
  | bound + 1, x :: rest =>
    (x :: rest).take size :: chunksWithin size bound ((x :: rest).drop size)

/-- Cuts a list into chunks of `size`; the last one may be shorter. -/
def chunks {α : Type} (size : Nat) (items : List α) : List (List α) :=
  chunksWithin size items.length items

theorem flatten_chunksWithin {α : Type} {size : Nat} (hsize : 0 < size) (bound : Nat)
    (items : List α) (h : items.length ≤ bound) :
    (chunksWithin size bound items).flatten = items := by
  induction bound generalizing items with
  | zero => cases items with
    | nil => rfl
    | cons x rest => simp at h
  | succ bound ih => cases items with
    | nil => rfl
    | cons x rest =>
      have hdrop : ((x :: rest).drop size).length ≤ bound := by
        simp only [List.length_drop, List.length_cons] at h ⊢
        omega
      simp only [chunksWithin, List.flatten_cons]
      rw [ih _ hdrop, List.take_append_drop]

/-- The chunks together are the list. -/
theorem flatten_chunks {α : Type} {size : Nat} (hsize : 0 < size) (items : List α) :
    (chunks size items).flatten = items :=
  flatten_chunksWithin hsize _ items (Nat.le_refl _)

end TermStore
