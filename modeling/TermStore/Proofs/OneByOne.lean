import TermStore.Proofs.Maps

/-!
# Look-ups that read ids one by one

A look-up of many ids reads each of them as if it were alone: it goes through exactly when each of
the ids can be read, and finds for each what it reads as, whatever others are looked up with it
(`ReadsEach`). A look-up that is sent in chunks does so if its statements do (`readsEach_chunked`),
and so does a look-up in one place that goes on to another place for what is missing
(`ReadsEach.further`).
-/

namespace TermStore

variable {α ε : Type} {look look' : List Int → Except ε (SortedMap Int α)}
  {readable readable' : Int → Prop} {reads reads' : Int → α → Prop} {ids : List Int}
  {found : SortedMap Int α} {id : Int} {value other : α}

/-- A look-up goes through if each of its ids can be read, and finds what each of them reads as. -/
structure ReadsEach (look : List Int → Except ε (SortedMap Int α)) (readable : Int → Prop)
    (reads : Int → α → Prop) : Prop where
  ok_iff : ∀ ids, (∃ found, look ids = .ok found) ↔ ∀ id ∈ ids, readable id
  get?_iff : ∀ {ids found}, look ids = .ok found →
    ∀ id value, found.get? id = some value ↔ id ∈ ids ∧ reads id value

/-- What is found of an id that is looked up alone. -/
def lookAlone (look : List Int → Except ε (SortedMap Int α)) (id : Int) : Option α :=
  (look [id]).toOption.bind fun found => found.get? id

theorem lookAlone_eq_some_iff :
    lookAlone look id = some value ↔
      ∃ found, look [id] = .ok found ∧ found.get? id = some value := by
  unfold lookAlone
  cases look [id] with
  | error fault => exact ⟨nofun, fun ⟨_, hfound, _⟩ => nomatch hfound⟩
  | ok found => exact ⟨fun h => ⟨found, rfl, h⟩, fun ⟨_, hsame, h⟩ => Except.ok.inj hsame ▸ h⟩

namespace ReadsEach

/-- What can be read reads as one thing. -/
theorem functional (h : ReadsEach look readable reads) (hid : readable id) (hvalue : reads id value)
    (hother : reads id other) : value = other := by
  obtain ⟨found, hfound⟩ := (h.ok_iff [id]).2 fun _ hmem => List.mem_singleton.1 hmem ▸ hid
  have hget : ∀ {v}, reads id v → found.get? id = some v := fun hv =>
    (h.get?_iff hfound id _).2 ⟨List.mem_singleton_self id, hv⟩
  exact Option.some.inj ((hget hvalue).symm.trans (hget hother))

/-- A look-up reads ids one by one if each of them is found as it is found alone. -/
theorem of_alone (hok : ∀ ids, (∃ found, look ids = .ok found) ↔ ∀ id ∈ ids, readable id)
    (hmem : ∀ {ids found}, look ids = .ok found → ∀ {id value}, found.get? id = some value →
      id ∈ ids)
    (hsame : ∀ {ids found}, look ids = .ok found → ∀ {id alone}, look [id] = .ok alone →
      id ∈ ids → found.get? id = alone.get? id) :
    ReadsEach look readable fun id value => lookAlone look id = some value where
  ok_iff := hok
  get?_iff {ids found} hfound id value := by
    by_cases hid : id ∈ ids
    · obtain ⟨alone, halone⟩ := (hok [id]).2 fun _ hone =>
        List.mem_singleton.1 hone ▸ (hok ids).1 ⟨found, hfound⟩ id hid
      rw [hsame hfound halone hid, lookAlone, halone]
      exact (and_iff_right hid).symm
    · exact ⟨fun hget => absurd (hmem hfound hget) hid, fun h => absurd h.1 hid⟩

/-- What is found of an id when it is looked up with others is what is found of it alone. -/
theorem get?_eq (h : ReadsEach look readable reads) (hfound : look ids = .ok found) (id : Int) :
    found.get? id = if id ∈ ids then lookAlone look id else none := by
  by_cases hid : id ∈ ids
  · obtain ⟨alone, halone⟩ := (h.ok_iff [id]).2 fun _ hmem =>
      List.mem_singleton.1 hmem ▸ (h.ok_iff ids).1 ⟨found, hfound⟩ id hid
    rw [if_pos hid, lookAlone, halone]
    show _ = alone.get? id
    ext value
    rw [h.get?_iff hfound, h.get?_iff halone, List.mem_singleton]
    exact ⟨fun hvalue => ⟨rfl, hvalue.2⟩, fun hvalue => ⟨hid, hvalue.2⟩⟩
  · rw [if_neg hid, Option.eq_none_iff_forall_ne_some]
    exact fun value hget => hid ((h.get?_iff hfound id value).1 hget).1

theorem congr (h : ReadsEach look readable reads) (hreadable : ∀ id, readable id ↔ readable' id)
    (hreads : ∀ id value, reads id value ↔ reads' id value) : ReadsEach look readable' reads' := by
  obtain rfl : readable = readable' := funext fun id => propext (hreadable id)
  obtain rfl : reads = reads' := funext₂ fun id value => propext (hreads id value)
  exact h

/-- Only which ids are looked up matters, not their order. -/
theorem ordered (h : ReadsEach look readable reads) {order : List Int → List Int}
    (horder : ∀ ids id, id ∈ order ids ↔ id ∈ ids) :
    ReadsEach (fun ids => look (order ids)) readable reads where
  ok_iff ids := by
    rw [h.ok_iff]
    exact forall_congr' fun id => by rw [horder]
  get?_iff hfound id value := by
    rw [h.get?_iff hfound, horder]

end ReadsEach

/-! ### Statements of some ids each -/

section Chunked

variable {statement : List Int → Except ε (List (Int × α))} {size : Nat}

/-- A look-up in chunks, of which each statement goes through if its ids can be read, and then finds
what they read as. -/
theorem readsEach_chunked (hsize : 0 < size)
    (hok : ∀ ids, (∃ rows, statement ids = .ok rows) ↔ ∀ id ∈ ids, readable id)
    (hmem : ∀ {ids rows}, statement ids = .ok rows →
      ∀ id value, (id, value) ∈ rows ↔ id ∈ ids ∧ reads id value)
    (hfunctional : ∀ {id value other}, reads id value → reads id other → value = other) :
    ReadsEach (fun ids => do
      let found ← (chunks size ids).mapM statement
      return .ofList found.flatten) readable reads where
  ok_iff ids := by
    constructor
    · rintro ⟨found, hfound⟩ id hid
      obtain ⟨rows, hrows, -⟩ := bind_eq_ok_iff.1 hfound
      obtain ⟨chunk, hchunk, hid⟩ := exists_mem_chunks hsize hid
      obtain ⟨chunkRows, -, hchunkRows⟩ := exists_of_mapM_eq_ok hrows hchunk
      exact (hok chunk).1 ⟨chunkRows, hchunkRows⟩ id hid
    · intro hreadable
      obtain ⟨rows, hrows⟩ := exists_mapM_eq_ok fun chunk hchunk =>
        (hok chunk).2 fun id hid => hreadable id (mem_of_mem_chunks hsize hchunk hid)
      exact ⟨_, bind_eq_ok_iff.2 ⟨rows, hrows, rfl⟩⟩
  get?_iff {ids found} hfound id value := by
    obtain ⟨rows, hrows, hfound⟩ := bind_eq_ok_iff.1 hfound
    obtain rfl := Except.ok.inj hfound
    have hsound : ∀ {id value}, (id, value) ∈ rows.flatten → id ∈ ids ∧ reads id value := by
      intro id value hentry
      obtain ⟨chunkRows, hchunkRows, hentry⟩ := List.mem_flatten.1 hentry
      obtain ⟨chunk, hchunk, hstatement⟩ := mem_of_mapM_eq_ok hrows hchunkRows
      obtain ⟨hid, hreads⟩ := (hmem hstatement id value).1 hentry
      exact ⟨mem_of_mem_chunks hsize hchunk hid, hreads⟩
    refine ⟨fun hget => hsound (SortedMap.mem_of_get?_ofList hget), fun ⟨hid, hreads⟩ => ?_⟩
    obtain ⟨chunk, hchunk, hid⟩ := exists_mem_chunks hsize hid
    obtain ⟨chunkRows, hchunkRows, hstatement⟩ := exists_of_mapM_eq_ok hrows hchunk
    have hentry : (id, value) ∈ rows.flatten :=
      List.mem_flatten.2 ⟨chunkRows, hchunkRows, (hmem hstatement id value).2 ⟨hid, hreads⟩⟩
    exact SortedMap.get?_ofList_of_forall hentry fun other hother =>
      hfunctional (hsound hother).2 hreads

end Chunked

/-! ### Looking further -/

/-- What a first look-up finds of some ids, and the rest by a second one. -/
def lookFurther (look look' : List Int → Except ε (SortedMap Int α)) (wanted : List Int) :
    Except ε (SortedMap Int α) := do
  let found ← look wanted
  let missing := wanted.filter fun id => !found.contains id
  if missing.isEmpty then return found
  else return found.union (← look' missing)

theorem mem_missing_iff {wanted : List Int} :
    id ∈ wanted.filter (fun id => !found.contains id) ↔ id ∈ wanted ∧ found.get? id = none := by
  rw [List.mem_filter, Bool.not_eq_true', SortedMap.contains_eq_false_iff]

theorem exists_lookFurther {wanted : List Int} {rest : SortedMap Int α}
    (hfound : look wanted = .ok found)
    (hrest : look' (wanted.filter fun id => !found.contains id) = .ok rest) :
    ∃ result, lookFurther look look' wanted = .ok result := by
  unfold lookFurther
  rw [hfound]
  show ∃ result, ite (_ = true) _ _ = _
  split
  · exact ⟨found, rfl⟩
  · rw [hrest]
    exact ⟨found.union rest, rfl⟩

/-- Looking further is both look-ups; where nothing is missing, the second one finds nothing. -/
theorem exists_of_lookFurther (h : ReadsEach look' readable' reads') {wanted : List Int}
    {result : SortedMap Int α} (hresult : lookFurther look look' wanted = .ok result) :
    ∃ found rest, look wanted = .ok found ∧
      look' (wanted.filter fun id => !found.contains id) = .ok rest ∧
      ∀ id, result.get? id = (rest.get? id).or (found.get? id) := by
  obtain ⟨found, hfound, hfurther⟩ := bind_eq_ok_iff.1 hresult
  by_cases hempty : (wanted.filter fun id => !found.contains id).isEmpty = true
  · rw [if_pos hempty] at hfurther
    obtain rfl := Except.ok.inj hfurther
    obtain ⟨rest, hrest⟩ := (h.ok_iff []).2 fun _ hmem => absurd hmem List.not_mem_nil
    refine ⟨found, rest, hfound, List.isEmpty_iff.1 hempty ▸ hrest, fun id => ?_⟩
    cases hget : rest.get? id with
    | none => rfl
    | some value => exact absurd ((h.get?_iff hrest id value).1 hget).1 List.not_mem_nil
  · rw [if_neg hempty] at hfurther
    obtain ⟨rest, hrest, hunion⟩ := bind_eq_ok_iff.1 hfurther
    obtain rfl := Except.ok.inj hunion
    exact ⟨found, rest, hfound, hrest, fun id => SortedMap.get?_union found rest id⟩

/-- What the first place tells of an id counts, and what the second one tells where the first one
has nothing. -/
theorem ReadsEach.further (h : ReadsEach look readable reads)
    (h' : ReadsEach look' readable' reads') :
    ReadsEach (lookFurther look look')
      (fun id => readable id ∧ ((∀ value, ¬ reads id value) → readable' id))
      (fun id value => reads id value ∨ (∀ other, ¬ reads id other) ∧ reads' id value) := by
  have hmissing : ∀ {wanted found}, look wanted = .ok found → ∀ id,
      id ∈ wanted.filter (fun id => !found.contains id) ↔
        id ∈ wanted ∧ ∀ value, ¬ reads id value := by
    intro wanted found hfound id
    rw [mem_missing_iff, Option.eq_none_iff_forall_ne_some]
    refine and_congr_right fun hid => forall_congr' fun value => not_congr ?_
    rw [h.get?_iff hfound]
    exact and_iff_right hid
  refine ⟨fun wanted => ⟨?_, fun hreadable => ?_⟩, fun {wanted result} hresult id value => ?_⟩
  · rintro ⟨result, hresult⟩ id hid
    obtain ⟨found, rest, hfound, hrest, -⟩ := exists_of_lookFurther h' hresult
    exact ⟨(h.ok_iff wanted).1 ⟨found, hfound⟩ id hid, fun hnone =>
      (h'.ok_iff _).1 ⟨rest, hrest⟩ id ((hmissing hfound id).2 ⟨hid, hnone⟩)⟩
  · obtain ⟨found, hfound⟩ := (h.ok_iff wanted).2 fun id hid => (hreadable id hid).1
    obtain ⟨rest, hrest⟩ := (h'.ok_iff _).2 fun id hid => by
      obtain ⟨hid, hnone⟩ := (hmissing hfound id).1 hid
      exact (hreadable id hid).2 hnone
    exact exists_lookFurther hfound hrest
  · obtain ⟨found, rest, hfound, hrest, hget⟩ := exists_of_lookFurther h' hresult
    rw [hget, Option.or_eq_some_iff, h.get?_iff hfound, h'.get?_iff hrest, hmissing hfound,
      Option.eq_none_iff_forall_ne_some]
    simp only [ne_eq, h'.get?_iff hrest, hmissing hfound]
    constructor
    · rintro (⟨⟨hid, hnone⟩, hreads⟩ | ⟨-, hid, hreads⟩)
      · exact ⟨hid, Or.inr ⟨hnone, hreads⟩⟩
      · exact ⟨hid, Or.inl hreads⟩
    · rintro ⟨hid, hreads | ⟨hnone, hreads⟩⟩
      · exact Or.inr ⟨fun _ hrest => hrest.1.2 value hreads, hid, hreads⟩
      · exact Or.inl ⟨⟨hid, hnone⟩, hreads⟩

end TermStore
