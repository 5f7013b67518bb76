import TermStore.SortedMap
import TermStore.Chunks
import Mathlib.Data.List.Forall2
import Mathlib.Data.List.Sort

/-!
# Facts about maps, chunks and checked lists

What the stores are proved with: the entries of a `SortedMap` are exactly its look-ups, a map made
from a list of entries holds one of the entries of each key, and a list that is mapped under checks
goes through exactly when each of its elements does.
-/

namespace TermStore

namespace SortedMap

variable {κ α : Type} [LT κ]

/-! ### Entries and look-ups -/

section LookUps

variable [DecidableEq κ]

@[simp] theorem get?_empty (key : κ) : (empty : SortedMap κ α).get? key = none := rfl

theorem contains_iff {m : SortedMap κ α} {key : κ} :
    m.contains key = true ↔ ∃ value, m.get? key = some value :=
  Option.isSome_iff_exists

theorem contains_eq_false_iff {m : SortedMap κ α} {key : κ} :
    m.contains key = false ↔ m.get? key = none := by
  simp [contains]

variable [LE κ] [Std.LawfulOrderLT κ]

/-- In ascending entries the look-up of a key finds exactly its entry. -/
theorem find?_eq_some_iff {key : κ} {value : α} {entries : List (κ × α)}
    (h : entries.Pairwise fun a b => a.1 < b.1) :
    find? key entries = some value ↔ (key, value) ∈ entries := by
  induction entries with
  | nil => simp [find?]
  | cons head rest ih =>
      obtain ⟨hhead, hrest⟩ := List.pairwise_cons.1 h
      rw [find?, List.mem_cons]
      by_cases hk : key = head.1
      · rw [if_pos hk]
        constructor
        · intro heq
          exact Or.inl (Prod.ext hk (Option.some.inj heq).symm)
        · rintro (heq | hmem)
          · exact congrArg some (congrArg Prod.snd heq).symm
          · exact absurd (hk ▸ hhead _ hmem : head.1 < head.1) (Std.lt_irrefl)
      · rw [if_neg hk, ih hrest]
        constructor
        · exact Or.inr
        · rintro (heq | hmem)
          · exact absurd (congrArg Prod.fst heq) hk
          · exact hmem

/-- The entries of a map are its look-ups, so either can stand for the other. -/
theorem mem_entries_iff {m : SortedMap κ α} {key : κ} {value : α} :
    (key, value) ∈ m.entries ↔ m.get? key = some value :=
  (find?_eq_some_iff m.ascending).symm

theorem mem_keys_iff {m : SortedMap κ α} {key : κ} :
    key ∈ m.keys ↔ ∃ value, m.get? key = some value := by
  simp [keys, mem_entries_iff]

theorem mem_values_iff {m : SortedMap κ α} {value : α} :
    value ∈ m.values ↔ ∃ key, m.get? key = some value := by
  simp [values, mem_entries_iff]

theorem mem_map_swap_iff {m : SortedMap κ α} {key : κ} {value : α} :
    (value, key) ∈ m.entries.map (fun entry => (entry.2, entry.1)) ↔ m.get? key = some value := by
  simp [mem_entries_iff]

/-- A filtered map holds the entries that satisfy the condition. -/
theorem get?_filter_eq_some {m : SortedMap κ α} {keep : κ × α → Bool} {key : κ} {value : α} :
    (m.filter keep).get? key = some value ↔
      m.get? key = some value ∧ keep (key, value) = true := by
  rw [← mem_entries_iff, ← mem_entries_iff]
  exact List.mem_filter

/-- Maps with the same look-ups are the same. -/
theorem ext_get? {m n : SortedMap κ α} (h : ∀ key, m.get? key = n.get? key) : m = n := by
  have hirrefl : Std.Irrefl fun a b : κ × α => a.1 < b.1 := ⟨fun _ => Std.lt_irrefl⟩
  have hantisymm : Std.Antisymm fun a b : κ × α => a.1 < b.1 :=
    ⟨fun _ _ hlt hgt => absurd hgt (Std.not_gt_of_lt hlt)⟩
  refine ext_entries (m.ascending.eq_of_mem_iff n.ascending fun entry => ?_)
  rw [mem_entries_iff, mem_entries_iff, h]

end LookUps

/-- The last key is the largest. -/
theorem le_of_getLast?_keys [LE κ] [Std.IsLinearOrder κ] [Std.LawfulOrderLT κ]
    {m : SortedMap κ α} {key last : κ} (hmem : key ∈ m.keys)
    (hlast : m.keys.getLast? = some last) : key ≤ last := by
  obtain ⟨front, hfront⟩ := List.getLast?_eq_some_iff.1 hlast
  have hsorted : m.keys.Pairwise (· < ·) := List.pairwise_map.2 m.ascending
  rw [hfront] at hmem hsorted
  rcases List.mem_append.1 hmem with hmem | hmem
  · exact Std.le_of_lt ((List.pairwise_append.1 hsorted).2.2 key hmem last
      (List.mem_singleton_self last))
  · rw [List.mem_singleton.1 hmem]
    exact Std.le_refl last

/-! ### Maps made from entries -/

variable [LE κ] [DecidableLT κ] [DecidableEq κ] [Std.IsLinearOrder κ] [Std.LawfulOrderLT κ]

theorem get?_put (m : SortedMap κ α) (key other : κ) (value : α) :
    (m.put key value).get? other = if other = key then some value else m.get? other := by
  by_cases h : other = key
  · rw [if_pos h, h, get?_put_self]
  · rw [if_neg h, get?_put_of_ne m h]

/-- Putting entries one after the other leaves one of the entries of a key, or what was there. -/
theorem get?_foldl_put {entries : List (κ × α)} {m : SortedMap κ α} {key : κ} {value : α}
    (h : (entries.foldl (fun m entry => m.put entry.1 entry.2) m).get? key = some value) :
    (key, value) ∈ entries ∨ m.get? key = some value := by
  -- on the entries, for any map that they are put into
  induction entries generalizing m with
  | nil => exact Or.inr h
  | cons head rest ih =>
      rcases ih h with hmem | hput
      · exact Or.inl (List.mem_cons_of_mem _ hmem)
      · rw [get?_put] at hput
        by_cases hk : key = head.1
        · rw [if_pos hk] at hput
          exact Or.inl (List.mem_cons.2 (Or.inl (Prod.ext hk (Option.some.inj hput).symm)))
        · rw [if_neg hk] at hput
          exact Or.inr hput

/-- A key whose entries, the old one included, all have one value gets that value. -/
theorem get?_foldl_put_of_forall {entries : List (κ × α)} {m : SortedMap κ α} {key : κ}
    {value : α} (hall : ∀ other, (key, other) ∈ entries → other = value)
    (h : (key, value) ∈ entries ∨ m.get? key = some value) :
    (entries.foldl (fun m entry => m.put entry.1 entry.2) m).get? key = some value := by
  induction entries generalizing m with
  | nil => exact h.resolve_left List.not_mem_nil
  | cons head rest ih =>
      refine ih (fun other hmem => hall other (List.mem_cons_of_mem _ hmem)) ?_
      -- the head may replace the old entry, but with the same value
      rw [get?_put]
      by_cases hk : key = head.1
      · rw [if_pos hk, hall head.2 (List.mem_cons.2 (Or.inl (Prod.ext hk rfl)))]
        exact Or.inr rfl
      · rw [if_neg hk]
        rcases h with hmem | hget
        · rcases List.mem_cons.1 hmem with heq | hmem
          · exact absurd (congrArg Prod.fst heq) hk
          · exact Or.inl hmem
        · exact Or.inr hget

theorem mem_of_get?_ofList {entries : List (κ × α)} {key : κ} {value : α}
    (h : (ofList entries).get? key = some value) : (key, value) ∈ entries :=
  (get?_foldl_put h).resolve_right (by simp)

/-- A map made from entries holds the entry of a key that has no other one. -/
theorem get?_ofList_of_forall {entries : List (κ × α)} {key : κ} {value : α}
    (hmem : (key, value) ∈ entries) (hall : ∀ other, (key, other) ∈ entries → other = value) :
    (ofList entries).get? key = some value :=
  get?_foldl_put_of_forall hall (Or.inl hmem)

/-- A map made from entries that agree on a key holds the entry of that key. -/
theorem get?_ofList_iff {entries : List (κ × α)} {key : κ} {holds : α → Prop}
    (hmem : ∀ {value}, (key, value) ∈ entries ↔ holds value)
    (hfunctional : ∀ {value other}, holds value → holds other → value = other) {value : α} :
    (ofList entries).get? key = some value ↔ holds value := by
  constructor
  · intro hget
    exact hmem.1 (mem_of_get?_ofList hget)
  · intro hvalue
    exact get?_ofList_of_forall (hmem.2 hvalue) fun other hother =>
      hfunctional (hmem.1 hother) hvalue

/-- Of the entries put one after the other, and of what was there, only those of a key matter to
it. -/
theorem get?_foldl_put_congr {entries : List (κ × α)} {m n : SortedMap κ α} {key : κ}
    (h : m.get? key = n.get? key) :
    (entries.foldl (fun m entry => m.put entry.1 entry.2) m).get? key =
      ((entries.filter fun entry => entry.1 = key).foldl (fun m entry => m.put entry.1 entry.2)
        n).get? key := by
  induction entries generalizing m n with
  | nil => exact h
  | cons head rest ih =>
      rw [List.foldl_cons, List.filter_cons]
      by_cases hk : head.1 = key
      · rw [if_pos (decide_eq_true hk), List.foldl_cons]
        exact ih (by rw [get?_put, get?_put, h])
      · rw [if_neg fun hdecide => hk (of_decide_eq_true hdecide)]
        exact ih (by rw [get?_put, if_neg (Ne.symm hk), h])

/-- Maps made from the same entries of a key give it the same value. -/
theorem get?_ofList_congr {entries others : List (κ × α)} {key : κ}
    (h : entries.filter (fun entry => entry.1 = key) = others.filter fun entry => entry.1 = key) :
    (ofList entries).get? key = (ofList others).get? key := by
  unfold ofList
  rw [get?_foldl_put_congr (n := .empty) rfl, h]
  exact (get?_foldl_put_congr rfl).symm

/-- The keys of a map made from entries are those of the entries. -/
theorem mem_keys_ofList_unit {keys : List κ} {key : κ} :
    key ∈ (ofList (keys.map fun k => (k, ()))).keys ↔ key ∈ keys := by
  rw [mem_keys_iff]
  constructor
  · rintro ⟨value, hget⟩
    obtain ⟨k, hk, heq⟩ := List.mem_map.1 (mem_of_get?_ofList hget)
    rw [← show k = key from congrArg Prod.fst heq]
    exact hk
  · intro hmem
    exact ⟨(), get?_ofList_of_forall (List.mem_map.2 ⟨key, hmem, rfl⟩) fun _ _ => rfl⟩

/-- Of two maps put together, the second one's value of a key counts where it has one. -/
theorem get?_union (m n : SortedMap κ α) (key : κ) :
    (m.union n).get? key = (n.get? key).or (m.get? key) := by
  have hfunctional : ∀ value other, n.get? key = some value → (key, other) ∈ n.entries →
      other = value := fun value other hget hmem =>
    Option.some.inj ((mem_entries_iff.1 hmem).symm.trans hget)
  cases hn : n.get? key with
  | some value =>
      exact get?_foldl_put_of_forall (fun other => hfunctional value other hn)
        (Or.inl (mem_entries_iff.2 hn))
  | none =>
      have habsent : ∀ value, (key, value) ∉ n.entries := fun value hmem => by
        rw [mem_entries_iff.1 hmem] at hn
        exact absurd hn (by simp)
      rw [Option.none_or]
      cases hm : m.get? key with
      | some value =>
          exact get?_foldl_put_of_forall (fun other hmem => absurd hmem (habsent other))
            (Or.inr hm)
      | none =>
          refine Option.eq_none_iff_forall_ne_some.2 fun value hget => ?_
          rcases get?_foldl_put hget with hmem | hget
          · exact habsent value hmem
          · exact absurd (hm.symm.trans hget) (by simp)

end SortedMap

/-! ### Checks and lists mapped under them -/

/-- What follows a check goes through exactly when both do. -/
theorem bind_eq_ok_iff {α β ε : Type} {x : Except ε α} {f : α → Except ε β} {result : β} :
    x >>= f = .ok result ↔ ∃ middle, x = .ok middle ∧ f middle = .ok result := by
  cases x with
  | error fault => simp [bind, Except.bind]
  | ok middle => simp [bind, Except.bind]

/-- Telling faults in another way does not change results. -/
theorem mapError_eq_ok_iff {ε ε' α : Type} {x : Except ε α} {f : ε → ε'} {result : α} :
    x.mapError f = .ok result ↔ x = .ok result := by
  cases x with
  | error fault => exact ⟨nofun, nofun⟩
  | ok value => exact ⟨fun h => congrArg Except.ok (Except.ok.inj h),
      fun h => congrArg Except.ok (Except.ok.inj h)⟩

/-- A list is mapped without a fault exactly when each element is, one after the other. -/
theorem mapM_eq_ok_iff {α β ε : Type} {f : α → Except ε β} {items : List α} {results : List β} :
    items.mapM f = .ok results ↔ List.Forall₂ (fun x y => f x = .ok y) items results := by
  induction items generalizing results with
  | nil =>
      rw [List.mapM_nil, List.forall₂_nil_left_iff]
      exact ⟨fun h => (Except.ok.inj h).symm, fun h => h ▸ rfl⟩
  | cons x rest ih =>
      rw [List.mapM_cons, List.forall₂_cons_left_iff]
      cases hx : f x with
      | error fault => simp [bind, Except.bind]
      | ok y =>
          cases hrest : rest.mapM f with
          | error fault =>
              simp only [bind, Except.bind, reduceCtorEq, false_iff]
              rintro ⟨y', results', hy', hforall, rfl⟩
              rw [ih.2 hforall] at hrest
              exact absurd hrest (by simp)
          | ok results' =>
              simp only [bind, Except.bind, pure, Except.pure, Except.ok.injEq]
              constructor
              · rintro rfl
                exact ⟨y, results', rfl, ih.1 hrest, rfl⟩
              · rintro ⟨y', results'', rfl, hforall, rfl⟩
                rw [Except.ok.inj (hrest.symm.trans (ih.2 hforall))]

theorem mem_of_mapM_eq_ok {α β ε : Type} {f : α → Except ε β} {items : List α}
    {results : List β} (h : items.mapM f = .ok results) {y : β} (hmem : y ∈ results) :
    ∃ x ∈ items, f x = .ok y := by
  have hforall := mapM_eq_ok_iff.1 h
  clear h
  induction hforall with
  | nil => cases hmem
  | cons hxy _ ih =>
      rcases List.mem_cons.1 hmem with rfl | hmem
      · exact ⟨_, List.mem_cons_self, hxy⟩
      · obtain ⟨x, hx, hxy⟩ := ih hmem
        exact ⟨x, List.mem_cons_of_mem _ hx, hxy⟩

theorem exists_of_mapM_eq_ok {α β ε : Type} {f : α → Except ε β} {items : List α}
    {results : List β} (h : items.mapM f = .ok results) {x : α} (hmem : x ∈ items) :
    ∃ y ∈ results, f x = .ok y := by
  have hforall := mapM_eq_ok_iff.1 h
  clear h
  induction hforall with
  | nil => cases hmem
  | cons hxy _ ih =>
      rcases List.mem_cons.1 hmem with rfl | hmem
      · exact ⟨_, List.mem_cons_self, hxy⟩
      · obtain ⟨y, hy, hxy⟩ := ih hmem
        exact ⟨y, List.mem_cons_of_mem _ hy, hxy⟩

/-- A list fails under a check with the fault of one of its elements. -/
theorem exists_of_mapM_eq_error {α β ε : Type} {f : α → Except ε β} {items : List α} {fault : ε}
    (h : items.mapM f = .error fault) : ∃ x ∈ items, f x = .error fault := by
  induction items with
  | nil => cases h
  | cons x rest ih =>
      rw [List.mapM_cons] at h
      cases hx : f x with
      | error fault' =>
          rw [hx] at h
          cases h
          exact ⟨x, List.mem_cons_self, hx⟩
      | ok y =>
          cases hrest : rest.mapM f with
          | ok results => rw [hx, hrest] at h; cases h
          | error fault' =>
              rw [hx, hrest] at h
              cases h
              obtain ⟨x', hmem, hx'⟩ := ih hrest
              exact ⟨x', List.mem_cons_of_mem _ hmem, hx'⟩

theorem exists_mapM_eq_ok {α β ε : Type} {f : α → Except ε β} {items : List α}
    (h : ∀ x ∈ items, ∃ y, f x = .ok y) : ∃ results, items.mapM f = .ok results := by
  induction items with
  | nil => exact ⟨[], rfl⟩
  | cons x rest ih =>
      obtain ⟨y, hy⟩ := h x List.mem_cons_self
      obtain ⟨results, hresults⟩ := ih fun x hmem => h x (List.mem_cons_of_mem _ hmem)
      refine ⟨y :: results, mapM_eq_ok_iff.2 (List.Forall₂.cons hy (mapM_eq_ok_iff.1 hresults))⟩

/-- A list is mapped to parts that are all there exactly when each element has its part. -/
theorem mapM_eq_some_iff {α β : Type} {f : α → Option β} {items : List α} {results : List β} :
    items.mapM f = some results ↔ List.Forall₂ (fun x y => f x = some y) items results := by
  induction items generalizing results with
  | nil => simp [eq_comm]
  | cons x rest ih =>
      rw [List.mapM_cons, List.forall₂_cons_left_iff]
      simp only [Option.bind_eq_bind, Option.bind_eq_some_iff, Option.pure_def, Option.some.injEq,
        ih]
      constructor
      · rintro ⟨y, hy, ys, hys, rfl⟩
        exact ⟨y, ys, hy, hys, rfl⟩
      · rintro ⟨y, ys, hy, hys, rfl⟩
        exact ⟨y, hy, ys, hys, rfl⟩

theorem mapM_eq_none_iff {α β : Type} {f : α → Option β} {items : List α} :
    items.mapM f = none ↔ ∃ x ∈ items, f x = none := by
  induction items with
  | nil => simp
  | cons x rest ih =>
      cases hx : f x with
      | none => simp [hx]
      | some y =>
          have hcons : (x :: rest).mapM f = none ↔ rest.mapM f = none := by
            rw [List.mapM_cons, hx]
            cases rest.mapM f <;> simp
          rw [hcons, ih]
          simp [hx]

/-! ### The last entry of a key -/

/-- The value of the last entry of a key. -/
def last? {κ α : Type} [DecidableEq κ] (key : κ) : List (κ × α) → Option α
  | [] => none
  | entry :: rest => (last? key rest).or (if entry.1 = key then some entry.2 else none)

/-- Entries that are related one by one have related last entries. -/
theorem rel_last? {κ κ' α β : Type} [DecidableEq κ] [DecidableEq κ'] {key : κ} {key' : κ'}
    {R : α → β → Prop} {entries : List (κ × α)} {others : List (κ' × β)}
    (h : List.Forall₂ (fun x y => (x.1 = key ↔ y.1 = key') ∧ R x.2 y.2) entries others) :
    Option.Rel R (last? key entries) (last? key' others) := by
  induction h with
  | nil => exact Option.Rel.none
  | @cons x y rest rest' hentry _ ih =>
      obtain ⟨hkey, hvalue⟩ := hentry
      rw [last?, last?]
      generalize last? key rest = last at ih
      generalize last? key' rest' = last' at ih
      -- a last entry in the rest counts; without one the first entry decides
      cases ih with
      | some hlast => exact Option.Rel.some hlast
      | none =>
          by_cases hx : x.1 = key
          · rw [if_pos hx, if_pos (hkey.1 hx)]
            exact Option.Rel.some hvalue
          · rw [if_neg hx, if_neg fun hy => hx (hkey.2 hy)]
            exact Option.Rel.none

namespace SortedMap

/-- A map made from entries holds the last entry of each key. -/
theorem get?_ofList {κ α : Type} [LE κ] [LT κ] [DecidableLT κ] [DecidableEq κ]
    [Std.IsLinearOrder κ] [Std.LawfulOrderLT κ] (entries : List (κ × α)) (key : κ) :
    (ofList entries).get? key = last? key entries := by
  have hfold : ∀ m : SortedMap κ α,
      (entries.foldl (fun m entry => m.put entry.1 entry.2) m).get? key =
        (last? key entries).or (m.get? key) := by
    induction entries with
    | nil => intro m; rfl
    | cons entry rest ih =>
        intro m
        rw [List.foldl_cons, ih, get?_put, last?, Option.or_assoc]
        by_cases hkey : key = entry.1
        · simp [hkey]
        · simp [hkey, Ne.symm hkey]
  rw [ofList, hfold, get?_empty, Option.or_none]

end SortedMap

/-! ### Maps whose values are mapped -/

namespace SortedMap

variable {κ α β ε : Type} [LE κ] [LT κ] [DecidableEq κ] [Std.LawfulOrderLT κ]

/-- Maps that have values of the same keys have the same keys. -/
theorem keys_congr [Std.IsLinearOrder κ] {m : SortedMap κ α} {n : SortedMap κ β}
    (h : ∀ key, (∃ value, m.get? key = some value) ↔ ∃ value, n.get? key = some value) :
    m.keys = n.keys := by
  have hirrefl : Std.Irrefl fun a b : κ => a < b := ⟨fun _ => Std.lt_irrefl⟩
  have hantisymm : Std.Antisymm fun a b : κ => a < b :=
    ⟨fun _ _ hlt hgt => absurd hgt (Std.not_gt_of_lt hlt)⟩
  have hm : m.keys.Pairwise (· < ·) := List.pairwise_map.2 m.ascending
  have hn : n.keys.Pairwise (· < ·) := List.pairwise_map.2 n.ascending
  refine hm.eq_of_mem_iff hn fun key => ?_
  rw [mem_keys_iff, mem_keys_iff, h]

variable [DecidableLT κ] [Std.IsLinearOrder κ] {m : SortedMap κ α} {f : α → Except ε β}
  {results : List (κ × β)}

/-- A map whose values are mapped under a check has for each key what its value is mapped to. -/
theorem get?_ofList_of_mapM
    (h : (m.entries.mapM fun entry => do return (entry.1, ← f entry.2)) = .ok results) {key : κ}
    {value : β} :
    (ofList results).get? key = some value ↔ ∃ old, m.get? key = some old ∧ f old = .ok value := by
  have hmem : ∀ {value}, (key, value) ∈ results ↔
      ∃ old, m.get? key = some old ∧ f old = .ok value := by
    intro value
    constructor
    · intro hmem
      obtain ⟨⟨own, old⟩, hentry, hmapped⟩ := mem_of_mapM_eq_ok h hmem
      obtain ⟨new, hnew, heq⟩ := bind_eq_ok_iff.1 hmapped
      cases heq
      exact ⟨old, mem_entries_iff.1 hentry, hnew⟩
    · rintro ⟨old, hget, hold⟩
      obtain ⟨entry, hentry, hmapped⟩ := exists_of_mapM_eq_ok h (mem_entries_iff.2 hget)
      obtain ⟨new, hnew, heq⟩ := bind_eq_ok_iff.1 hmapped
      cases heq
      cases hold.symm.trans hnew
      exact hentry
  refine get?_ofList_iff hmem fun hvalue hother => ?_
  obtain ⟨old, hget, hold⟩ := hvalue
  obtain ⟨old', hget', hold'⟩ := hother
  cases hget.symm.trans hget'
  exact Except.ok.inj (hold.symm.trans hold')

end SortedMap

/-! ### Chunks -/

/-- The bound of chunks is the number of elements, so it does not cut them short: each chunk takes
at least one element off. -/
theorem chunksWithin_flatten {α : Type} {size : Nat} (hsize : 0 < size) {bound : Nat}
    {lists : List (List α)} (hlists : ∀ items ∈ lists, items.length = size)
    (hbound : lists.flatten.length ≤ bound) : chunksWithin size bound lists.flatten = lists := by
  induction lists generalizing bound with
  | nil => cases bound <;> rfl
  | cons items rest ih =>
      have hitems := hlists items List.mem_cons_self
      have hlength : (items ++ rest.flatten).length ≤ bound := hbound
      obtain ⟨x, tail, rfl⟩ : ∃ x tail, items = x :: tail := by
        cases items with
        | nil => exact absurd hitems (Nat.ne_of_lt hsize)
        | cons x tail => exact ⟨x, tail, rfl⟩
      cases bound with
      | zero => simp at hlength
      | succ bound =>
          have htake : ((x :: tail) ++ rest.flatten).take size = x :: tail := by
            rw [← hitems, List.take_left]
          have hdrop : ((x :: tail) ++ rest.flatten).drop size = rest.flatten := by
            rw [← hitems, List.drop_left]
          have hrest : rest.flatten.length ≤ bound := by
            simp only [List.length_append, List.length_cons] at hlength
            omega
          show ((x :: tail) ++ rest.flatten).take size ::
            chunksWithin size bound (((x :: tail) ++ rest.flatten).drop size) = _
          rw [htake, hdrop, ih (fun items hmem => hlists items (List.mem_cons_of_mem _ hmem)) hrest]

/-- Lists of one length, put one behind the other, are its chunks of that length. -/
theorem chunks_flatten {α : Type} {size : Nat} (hsize : 0 < size) {lists : List (List α)}
    (hlists : ∀ items ∈ lists, items.length = size) : chunks size lists.flatten = lists :=
  chunksWithin_flatten hsize hlists (Nat.le_refl _)

theorem mem_of_mem_chunks {α : Type} {size : Nat} (hsize : 0 < size) {items chunk : List α}
    (hchunk : chunk ∈ chunks size items) {x : α} (hmem : x ∈ chunk) : x ∈ items := by
  rw [← flatten_chunks hsize items]
  exact List.mem_flatten.2 ⟨chunk, hchunk, hmem⟩

theorem exists_mem_chunks {α : Type} {size : Nat} (hsize : 0 < size) {items : List α} {x : α}
    (hmem : x ∈ items) : ∃ chunk ∈ chunks size items, x ∈ chunk := by
  rw [← flatten_chunks hsize items] at hmem
  exact List.mem_flatten.1 hmem

/-! ### Lists without repetition -/

theorem eq_nil_of_isEmpty_eraseDups {α : Type} [BEq α] [LawfulBEq α] {items : List α}
    (h : items.eraseDups.isEmpty = true) : items = [] := by
  refine List.eq_nil_iff_forall_not_mem.2 fun x hx => ?_
  have hmem := List.mem_eraseDups.2 hx
  rw [List.isEmpty_iff.1 h] at hmem
  cases hmem

theorem eraseDups_of_length_le_one {α : Type} [BEq α] {items : List α} (h : items.length ≤ 1) :
    items.eraseDups = items := by
  cases items with
  | nil => rfl
  | cons x rest =>
      rw [List.length_cons] at h
      obtain rfl := List.eq_nil_of_length_eq_zero (show rest.length = 0 by omega)
      rfl

/-- Dropping elements commutes with dropping repetitions. -/
theorem filter_eraseDups {α : Type} [BEq α] [LawfulBEq α] (keep : α → Bool) (items : List α) :
    items.eraseDups.filter keep = (items.filter keep).eraseDups := by
  -- on the length, as the repetitions of the head are dropped from the whole tail
  induction hlength : items.length using Nat.strongRecOn generalizing items with
  | ind length ih =>
      cases items with
      | nil => rfl
      | cons x rest =>
          have hshorter : (rest.filter fun y => !y == x).length < length := by
            have := List.length_filter_le (fun y => !y == x) rest
            simp only [List.length_cons] at hlength
            omega
          have hrest := ih _ hshorter _ rfl
          rw [List.eraseDups_cons, List.filter_cons, List.filter_cons]
          by_cases hx : keep x = true
          · rw [if_pos hx, if_pos hx, hrest, List.eraseDups_cons, List.filter_filter,
              List.filter_filter]
            congr 2
            exact List.filter_congr fun y _ => Bool.and_comm _ _
          · rw [if_neg hx, if_neg hx, hrest, List.filter_filter]
            congr 1
            refine List.filter_congr fun y _ => ?_
            by_cases hy : y = x
            · simp [hy, hx]
            · simp [hy]

/-- Mapping elements that stay different commutes with dropping repetitions. -/
theorem map_eraseDups {α β : Type} [BEq α] [LawfulBEq α] [BEq β] [LawfulBEq β] {f : α → β}
    {items : List α} (h : ∀ x ∈ items, ∀ y ∈ items, f x = f y → x = y) :
    items.eraseDups.map f = (items.map f).eraseDups := by
  -- on the length, as for filters
  induction hlength : items.length using Nat.strongRecOn generalizing items with
  | ind length ih =>
      cases items with
      | nil => rfl
      | cons x rest =>
          have hshorter : (rest.filter fun y => !y == x).length < length := by
            have := List.length_filter_le (fun y => !y == x) rest
            simp only [List.length_cons] at hlength
            omega
          have hkept : ∀ y ∈ rest.filter fun y => !y == x, y ∈ x :: rest := fun y hy =>
            List.mem_cons_of_mem x (List.mem_filter.1 hy).1
          have hrest := ih _ hshorter
            (fun y hy z hz => h y (hkept y hy) z (hkept z hz)) rfl
          rw [List.eraseDups_cons, List.map_cons, List.map_cons, List.eraseDups_cons, hrest,
            List.filter_map]
          congr 3
          refine List.filter_congr fun y hy => ?_
          by_cases hyx : y = x
          · rw [hyx, Function.comp_apply, beq_self_eq_true, beq_self_eq_true]
          · have hne : f y ≠ f x := fun heq =>
              hyx (h y (List.mem_cons_of_mem x hy) x List.mem_cons_self heq)
            rw [Function.comp_apply, beq_eq_false_iff_ne.2 hyx, beq_eq_false_iff_ne.2 hne]

end TermStore
