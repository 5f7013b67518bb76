import TermStore.Proofs.Levels

/-!
# The first phase taken up again

Broken off at any request and begun again, the first phase gives the same batch and leaves the same
databases. Its levels repeat; what is to be seen here is that the kinds do as well: an id that was
made or learned for a kind is remembered, and a kind whose id is remembered is asked for no more.

The kinds differ from the levels in that they leave something behind outside of the databases. A
store that is broken off between acquiring and learning has made rows it does not know of. Begun
again it looks for the same kinds, and finds these rows; that is why it does not matter where it was
broken off.
-/

namespace TermStore

open Storage (TableSpec Record Database)

/-! ### Ids that are remembered -/

namespace KindIds

variable {ids : KindIds} {kinds : List TermKind}

/-- Does each of some kinds have an id? -/
def Know (ids : KindIds) (kinds : List TermKind) : Prop :=
  ∀ kind ∈ kinds, (ids.get? kind).isSome = true

/-- Remembering an id for one kind forgets none of another. -/
theorem isSome_get?_put (ids : KindIds) (kind other : TermKind) (id : Int)
    (h : (ids.get? other).isSome = true) : ((ids.put kind id).get? other).isSome = true := by
  by_cases hother : other = kind
  · rw [hother, get?_put_self]
    rfl
  · rw [get?_put_of_ne ids hother]
    exact h

/-- Kinds that have an id are not numbered again. -/
theorem number_of_know (h : ids.Know kinds) : ids.number kinds = ids := by
  unfold number
  induction kinds with
  | nil => rfl
  | cons kind rest ih =>
      obtain ⟨id, hid⟩ := Option.isSome_iff_exists.1 (h kind List.mem_cons_self)
      rw [List.foldl_cons, hid]
      exact ih fun other hother => h other (List.mem_cons_of_mem kind hother)

/-- Numbering kinds keeps the ids that were there. -/
theorem isSome_get?_number {other : TermKind} (h : (ids.get? other).isSome = true) :
    ((ids.number kinds).get? other).isSome = true := by
  unfold number
  induction kinds generalizing ids with
  | nil => exact h
  | cons kind rest ih =>
      rw [List.foldl_cons]
      split
      · exact ih h
      · exact ih (isSome_get?_put ids kind other _ h)

/-- After numbering, each of the kinds has an id, whether it had one before or was given one. -/
theorem know_number (ids : KindIds) (kinds : List TermKind) : (ids.number kinds).Know kinds := by
  induction kinds generalizing ids with
  | nil => exact fun _ hmem => absurd hmem List.not_mem_nil
  | cons kind rest ih =>
      intro other hother
      -- the kind numbered now keeps its id while the rest are numbered
      rcases List.mem_cons.1 hother with rfl | hother
      · unfold number
        rw [List.foldl_cons]
        cases hget : ids.get? other with
        | some id => exact isSome_get?_number (by rw [hget]; rfl)
        | none => exact isSome_get?_number (by rw [get?_put_self]; rfl)
      · exact ih _ other hother

end KindIds

namespace KindStore

variable {ids ids' : KindIds} {kinds : List TermKind}

/-- The name that a kind is stored under is read as the kind again. -/
theorem kindOf_recordOf (kind : TermKind) : kindOf (recordOf kind) = .ok kind := by
  cases kind <;> rfl

/-- No kinds are unknown if all have an id. -/
theorem isEmpty_unknownKinds_iff : (unknownKinds ids kinds).isEmpty = true ↔ ids.Know kinds := by
  unfold unknownKinds
  constructor
  · intro hempty kind hkind
    have hnone := eq_nil_of_isEmpty_eraseDups hempty
    have hsome := List.filter_eq_nil_iff.1 hnone kind hkind
    rw [← Option.not_isSome, Bool.not_eq_true', Bool.not_eq_false] at hsome
    exact hsome
  · intro h
    have hnone : (kinds.filter fun kind => (ids.get? kind).isNone) = [] := by
      refine List.filter_eq_nil_iff.2 fun kind hkind => ?_
      rw [← Option.not_isSome, h kind hkind]
      decide
    rw [hnone]
    rfl

/-- A kind has an id after learning if it had one before, or if its record is among those that were
learned. That it is the same id is not said, and is not needed here. -/
theorem isSome_get?_learned {entries : List (Record × Int)}
    (h : learned ids entries = (ids', .ok ())) {kind : TermKind}
    (hkind : (ids.get? kind).isSome = true ∨ recordOf kind ∈ entries.map Prod.fst) :
    (ids'.get? kind).isSome = true := by
  induction entries generalizing ids with
  | nil =>
      cases h
      rcases hkind with hkind | hmem
      · exact hkind
      · cases hmem
  | cons entry rest ih =>
      obtain ⟨record, id⟩ := entry
      rw [learned] at h
      -- the first entry is learned, or its name is that of no kind and learning ends with a failure
      cases hrecord : kindOf record with
      | error failure =>
          simp only [hrecord, Prod.mk.injEq, reduceCtorEq, and_false] at h
      | ok learnedKind =>
          simp only [hrecord] at h
          refine ih h ?_
          rcases hkind with hkind | hmem
          · exact Or.inl (KindIds.isSome_get?_put ids learnedKind kind id hkind)
          · rcases List.mem_cons.1 hmem with rfl | hmem
            · obtain rfl := Except.ok.inj ((kindOf_recordOf kind).symm.trans hrecord)
              exact Or.inl (by rw [KindIds.get?_put_self]; rfl)
            · exact Or.inr hmem

/-- Kinds whose records were learned are known. -/
theorem know_learned {entries : List (Record × Int)}
    (hentries : entries.map Prod.fst = (unknownKinds ids kinds).map recordOf)
    (h : learned ids entries = (ids', .ok ())) : ids'.Know kinds := by
  intro kind hkind
  refine isSome_get?_learned h ?_
  by_cases hknown : (ids.get? kind).isSome = true
  · exact Or.inl hknown
  · rw [hentries]
    refine Or.inr (List.mem_map_of_mem (List.mem_eraseDups.2 (List.mem_filter.2 ⟨hkind, ?_⟩)))
    simpa using hknown

/-! ### Kinds taken up again -/

open Acquisition

variable {before after : Databases} {result : KindIds}

/-- In memory there is one step: the unknown kinds are numbered, and the answer is read off the
numbers. -/
theorem run_inMemory (kinds : List TermKind) (before : Databases) :
    (inMemory.acquire kinds).run Databases.handler before =
      (.ok ((before.kindIds.number kinds).select kinds),
        { before with kindIds := before.kindIds.number kinds }) := rfl

/-- An in-memory store repeats. Broken off before it remembers its numbers it begins from what it
began with, and numbers alike; after that all kinds are known, and it numbers none. -/
theorem repeats_inMemory (hsound : before.primary.Sound)
    (hrun : (inMemory.acquire kinds).run Databases.handler before = (.ok result, after)) :
    (inMemory.acquire kinds).Repeats before result after := by
  obtain ⟨hresult, rfl⟩ := Prod.mk.inj (hrun.symm.trans (run_inMemory kinds before))
  obtain rfl := Except.ok.inj hresult
  -- two requests, what is known and what to remember: only the second changes anything
  refine Dialog.repeats_of_settled hrun hsound (fun met hmet => ?_) fun later _ hlater => ?_
  · rcases hmet with hsame | hknown | ⟨known, state, hknown, hlater⟩
    · exact Or.inl hsame
    · exact Or.inl hknown
    · cases hknown
      rcases hlater with hsame | hremembered | ⟨_, state, hremembered, hlater⟩
      · exact Or.inl hsame
      · exact Or.inr hremembered
      · cases hremembered
        exact Or.inr hlater
  · have hkindIds : later.kindIds = before.kindIds.number kinds := hlater
    have hnumber : later.kindIds.number kinds = later.kindIds := by
      rw [hkindIds]
      exact KindIds.number_of_know (KindIds.know_number before.kindIds kinds)
    rw [run_inMemory, hnumber, ← hkindIds]

section InTable

variable {read : Side}

/-- The ids of the kinds without one are looked up or made in the table, and learned. -/
theorem inTable_acquire_eq (read : Side) (kinds : List TermKind) :
    (inTable read .primary).acquire kinds =
      .ask .known fun ids =>
        if (unknownKinds ids kinds).isEmpty then .done (ids.select kinds)
        else
          (acquireIds (.replicaFirst read .primary) .kinds
            ((unknownKinds ids kinds).map recordOf)).bind fun acquired =>
          (learn acquired).bind fun ids => .done (ids.select kinds) := rfl

/-- With all kinds known the table is not asked, and nothing changes, neither a row nor an id that
is remembered. -/
theorem run_inTable_of_know {state : Databases} (h : state.kindIds.Know kinds) :
    ((inTable read .primary).acquire kinds).run Databases.handler state =
      (.ok (state.kindIds.select kinds), state) := by
  rw [inTable_acquire_eq]
  show Dialog.run _ (ite _ _ _) _ = _
  rw [if_pos (isEmpty_unknownKinds_iff.2 h)]
  rfl

/-- Otherwise the ids of the unknown kinds are acquired, as those of any records are, and then
learned. -/
theorem run_inTable_of_not_know {state : Databases} (h : ¬ state.kindIds.Know kinds) :
    ((inTable read .primary).acquire kinds).run Databases.handler state =
      ((acquireIds (.replicaFirst read .primary) .kinds
        ((unknownKinds state.kindIds kinds).map recordOf)).bind fun acquired =>
        (learn acquired).bind fun ids => .done (ids.select kinds)).run Databases.handler state := by
  rw [inTable_acquire_eq]
  show Dialog.run _ (ite _ _ _) _ = _
  rw [if_neg fun hempty => h (isEmpty_unknownKinds_iff.1 hempty)]

/-- What is remembered is asked for first, which changes nothing; from there on the states are those
of acquiring and learning. -/
theorem passes_inTable {met : Databases}
    (h : ((inTable read .primary).acquire kinds).Passes before met) :
    met = before ∨ (¬ before.kindIds.Know kinds ∧
      ((acquireIds (.replicaFirst read .primary) .kinds
        ((unknownKinds before.kindIds kinds).map recordOf)).bind fun acquired =>
        (learn acquired).bind fun ids => .done (ids.select kinds)).Passes before met) := by
  rw [inTable_acquire_eq] at h
  rcases h with hsame | hknown | ⟨ids, state, hknown, hlater⟩
  · exact Or.inl hsame
  · exact Or.inl hknown
  · cases hknown
    replace hlater : Dialog.Passes (ite _ _ _) before met := hlater
    by_cases hempty : (unknownKinds before.kindIds kinds).isEmpty = true
    · rw [if_pos hempty] at hlater
      exact Or.inl hlater
    · rw [if_neg hempty] at hlater
      exact Or.inr ⟨fun hknow => hempty (isEmpty_unknownKinds_iff.2 hknow), hlater⟩

/-- Learning asks what is known, remembers what it makes of that, and only then fails, if one of the
names is not that of a kind. So the ids before the bad name are remembered all the same. -/
theorem learn_eq (entries : List (Record × Int)) :
    learn entries = .ask .known fun known =>
      .ask (.remember (learned known entries).1) fun _ =>
        (Dialog.ofExcept (learned known entries).2).bind fun _ =>
          .done (learned known entries).1 := rfl

/-- What is learned is remembered, and nothing else changes. -/
theorem run_learn {entries : List (Record × Int)} {state last : Databases} {ids : KindIds}
    (h : (learn entries).run Databases.handler state = (.ok ids, last)) :
    learned state.kindIds entries = (ids, .ok ()) ∧ last = { state with kindIds := ids } ∧
      ∀ met, (learn entries).Passes state met → met = state ∨ met = last := by
  rw [learn_eq] at h ⊢
  replace h : (Dialog.bind (.ofExcept (learned state.kindIds entries).2) fun _ =>
      .done (learned state.kindIds entries).1).run Databases.handler
        { state with kindIds := (learned state.kindIds entries).1 } = (.ok ids, last) := h
  rcases hlearned : learned state.kindIds entries with ⟨ids', outcome⟩
  rw [hlearned] at h
  cases outcome with
  | error failure => cases h
  | ok =>
      cases h
      refine ⟨rfl, rfl, fun met hmet => ?_⟩
      -- the first reply tells what is known, and only the second one changes that
      rcases hmet with hsame | hknown | ⟨known, state', hknown, hlater⟩
      · exact Or.inl hsame
      · exact Or.inl hknown
      · cases hknown
        replace hlater : Dialog.Passes (.ask (.remember (learned state.kindIds entries).1) fun _ =>
          (Dialog.ofExcept (learned state.kindIds entries).2).bind fun _ =>
            .done (learned state.kindIds entries).1) state met := hlater
        rw [hlearned] at hlater
        rcases hlater with hsame | hremembered | ⟨_, state', hremembered, hlater⟩
        · exact Or.inl hsame
        · exact Or.inr hremembered
        · cases hremembered
          exact Or.inr hlater

/-- A store over the table of type names repeats. Until something is learned it knows the kinds that
it knew when it began, looks for the same ones again, and finds the rows that were made for them;
once it has learned them, it answers from what it remembers. -/
theorem repeats_inTable (hsound : before.primary.Sound)
    (hrun : ((inTable read .primary).acquire kinds).run Databases.handler before =
      (.ok result, after)) :
    ((inTable read .primary).acquire kinds).Repeats before result after := by
  by_cases hknow : before.kindIds.Know kinds
  · have hstart := hrun
    rw [run_inTable_of_know hknow] at hstart
    cases hstart
    refine Dialog.repeats_of_settled hrun hsound (fun met hmet => ?_) fun later _ hlater => ?_
    · rcases passes_inTable hmet with hsame | ⟨hnot, -⟩
      · exact Or.inl hsame
      · exact absurd hknow hnot
    · rw [← hlater] at hknow ⊢
      exact run_inTable_of_know hknow
  · have hstart := hrun
    rw [run_inTable_of_not_know hknow] at hstart
    obtain ⟨acquired, middle, hacquired, hrest⟩ := Dialog.run_bind_eq_ok_iff.1 hstart
    obtain ⟨ids, last, hlearn, hlast⟩ := Dialog.run_bind_eq_ok_iff.1 hrest
    obtain ⟨hresult, rfl⟩ := Prod.mk.inj hlast
    obtain rfl := Except.ok.inj hresult
    have htakes := takes_recordOf (unknownKinds before.kindIds kinds)
    have hasks : (acquireIds (.replicaFirst read .primary) .kinds
        ((unknownKinds before.kindIds kinds).map recordOf)).Asks Request.ProperCall :=
      asks_acquireIds (permits_properCall rfl _ TableSpec.mem_all_kinds) htakes
    have hmiddle := hasks.proper.onward_of_run hsound hacquired
    have hrepeats := repeats_acquireIds rfl (show 1 ≤ Seeker.defaultAttempts by decide)
      TableSpec.mem_all_kinds htakes hsound hacquired
    have hmiddleIds := hasks.kindIds_of_run hacquired
    obtain ⟨hlearned, hlast, hpasses⟩ := run_learn hlearn
    have hids : last.kindIds = ids := by rw [hlast]
    -- acquiring remembers nothing, so what was learned was learned on top of what was known at
    -- first
    have hlastKnow : last.kindIds.Know kinds := by
      rw [hmiddleIds] at hlearned
      rw [hids]
      exact know_learned ((yields_acquireIds _ _ _).run hacquired) hlearned
    have hsettled : ∀ later, later.kindIds = last.kindIds →
        ((inTable read .primary).acquire kinds).run Databases.handler later =
          (.ok (ids.select kinds), later) := by
      intro later hlater
      rw [run_inTable_of_know (by rw [hlater]; exact hlastKnow), hlater, hids]
    -- as long as nothing is learned, the same kinds are looked for again
    have hagain : ∀ met, (acquireIds (.replicaFirst read .primary) .kinds
        ((unknownKinds before.kindIds kinds).map recordOf)).Passes before met →
        ((inTable read .primary).acquire kinds).run Databases.handler met =
          (.ok (ids.select kinds), last) := by
      intro met hmet
      have hmetIds := hmet.kindIds hasks
      rw [run_inTable_of_not_know (by rw [hmetIds]; exact hknow), hmetIds]
      exact Dialog.run_bind_eq_ok_iff.2
        ⟨acquired, middle, hrepeats.resumed met hmet, hrest⟩
    -- three stretches: before the ids are acquired, while they are learned, and when that is done
    refine ⟨fun met hmet => ?_, fun later _ hlater => hsettled later hlater⟩
    rcases passes_inTable hmet with rfl | ⟨-, hlater⟩
    · exact hrun
    rcases hlater.of_bind_of_run hacquired with hfirst | hsecond
    · exact hagain met hfirst
    rcases hsecond.of_bind_of_run hlearn with hlearning | hdone
    · rcases hpasses met hlearning with rfl | rfl
      · exact hagain met (Dialog.passes_end hacquired)
      · exact hsettled met rfl
    · rw [show met = last from hdone]
      exact hsettled last rfl

/-- Both standard stores repeat, each for its own reason. -/
theorem Standard.repeats_acquire {store : KindStore} (h : store.Standard)
    (hsound : before.primary.Sound)
    (hrun : (store.acquire kinds).run Databases.handler before = (.ok result, after)) :
    (store.acquire kinds).Repeats before result after := by
  cases h with
  | inMemory => exact repeats_inMemory hsound hrun
  | inTable read => exact repeats_inTable hsound hrun

end InTable

end KindStore

/-! ### The first phase -/

namespace Acquisition

variable {kinds : KindStore} {read : Side} {limits : Limits} {document : Document}
  {before after : Databases} {batch : Batch}

/-- The kinds that some terms are of. -/
def usedKinds (terms : List Term) : List TermKind :=
  TermKind.all.filter fun kind => terms.any fun term => term.kind == kind

/-- A kind is used exactly when some term is of it. -/
theorem mem_usedKinds {terms : List Term} {kind : TermKind} :
    kind ∈ usedKinds terms ↔ ∃ term ∈ terms, term.kind = kind := by
  unfold usedKinds
  rw [List.mem_filter, List.any_eq_true]
  constructor
  · rintro ⟨-, term, hmem, hkind⟩
    exact ⟨term, hmem, beq_iff_eq.1 hkind⟩
  · rintro ⟨term, hmem, rfl⟩
    exact ⟨by cases term.kind <;> decide, term, hmem, beq_self_eq_true _⟩

/-- A term gets the id of its kind, and fails without one. -/
theorem withKindId_eq_ok_iff {ids : KindIds} {term : Term} {t : Term × Int} :
    withKindId ids term = .ok t ↔ t.1 = term ∧ ids.get? term.kind = some t.2 := by
  unfold withKindId
  cases ids.get? term.kind with
  | none => simp
  | some id =>
      constructor
      · intro h
        cases h
        exact ⟨rfl, rfl⟩
      · rintro ⟨rfl, hid⟩
        cases hid
        rfl

/-- A document without terms asks for nothing. -/
theorem acquire_nil (hterms : document.truncatedTerms limits.textBytes = []) :
    acquire read .primary kinds limits document = .done [] := by
  unfold acquire
  rw [hterms]
  rfl

/-- The first phase acquires the ids of the kinds, and then those of the terms. -/
theorem acquire_eq (hterms : document.truncatedTerms limits.textBytes ≠ []) :
    acquire read .primary kinds limits document =
      (kinds.acquire (usedKinds (document.truncatedTerms limits.textBytes))).bind fun kindIds =>
      (Dialog.ofExcept ((document.truncatedTerms limits.textBytes).mapM
        (withKindId kindIds))).bind fun typed =>
      (acquireTermIds ((Seeker.replicaFirst read .primary).withAttempts limits.attempts)
        typed).bind fun ids =>
      .note (.acquired typed.length (idSet ids).length)
        (.done ((typed.zip ids).map fun entry => ⟨entry.1.1, entry.1.2, entry.2⟩)) := by
  have hempty : ¬ (document.truncatedTerms limits.textBytes).isEmpty = true := by simpa using hterms
  exact if_neg hempty

/-- The first phase goes through exactly when its two parts do, one in the databases that the other
leaves: the kinds get their ids, and then the terms get theirs. -/
theorem run_acquire_iff (hterms : document.truncatedTerms limits.textBytes ≠ []) :
    (acquire read .primary kinds limits document).run Databases.handler before =
        (.ok batch, after) ↔
      ∃ kindIds middle typed ids,
        (kinds.acquire (usedKinds (document.truncatedTerms limits.textBytes))).run
          Databases.handler before = (.ok kindIds, middle) ∧
        (document.truncatedTerms limits.textBytes).mapM (withKindId kindIds) = .ok typed ∧
        (acquireTermIds ((Seeker.replicaFirst read .primary).withAttempts limits.attempts)
          typed).run Databases.handler middle = (.ok ids, after) ∧
        batch = (typed.zip ids).map fun entry => ⟨entry.1.1, entry.1.2, entry.2⟩ := by
  rw [acquire_eq hterms]
  constructor
  · intro hrun
    obtain ⟨kindIds, middle, hkindIds, hrun⟩ := Dialog.run_bind_eq_ok_iff.1 hrun
    cases htyped : (document.truncatedTerms limits.textBytes).mapM (withKindId kindIds) with
    | error failure =>
        rw [htyped] at hrun
        cases hrun
    | ok typed =>
        rw [htyped] at hrun
        replace hrun : Dialog.run Databases.handler (Dialog.bind (acquireTermIds _ typed) _)
          middle = (.ok batch, after) := hrun
        obtain ⟨ids, last, hids, hlast⟩ := Dialog.run_bind_eq_ok_iff.1 hrun
        cases hlast
        exact ⟨kindIds, middle, typed, ids, hkindIds, htyped, hids, rfl⟩
  · rintro ⟨kindIds, middle, typed, ids, hkindIds, htyped, hids, rfl⟩
    refine Dialog.run_bind_eq_ok_iff.2 ⟨kindIds, middle, hkindIds, ?_⟩
    rw [htyped]
    show Dialog.run _ (Dialog.bind (acquireTermIds _ typed) _) middle = _
    exact Dialog.run_bind_eq_ok_iff.2 ⟨ids, after, hids, rfl⟩

/-- The first phase repeats. -/
theorem repeats_acquire (hkinds : kinds.Standard) (read : Side) (limits : Limits)
    (document : Document) (hsound : before.primary.Sound)
    (hrun : (acquire read .primary kinds limits document).run Databases.handler before =
      (.ok batch, after)) :
    (acquire read .primary kinds limits document).Repeats before batch after := by
  by_cases hterms : document.truncatedTerms limits.textBytes = []
  · rw [acquire_nil hterms] at hrun ⊢
    cases hrun
    exact Dialog.repeats_done [] before
  obtain ⟨kindIds, middle, typed, ids, hkindIds, htyped, hids, rfl⟩ :=
    (run_acquire_iff hterms).1 hrun
  have hmiddle := (hkinds.asks_acquire _).onward_of_run hsound hkindIds
  have hasks := fun typed : List (Term × Int) => asks_acquireTermIds
    (s := (Seeker.replicaFirst read .primary).withAttempts limits.attempts)
    (permits_properCall rfl) typed
  rw [acquire_eq hterms]
  -- a sequence repeats if its parts do, as long as what stands in between leaves a sound primary
  -- behind
  refine (hkinds.repeats_acquire hsound hkindIds).bind
    ((Dialog.asks_ofExcept _).bind fun typed => (hasks typed).bind fun _ => trivial)
    hmiddle.sound ?_
  rw [htyped]
  refine (repeats_acquireTermIds rfl (Nat.le_max_left 1 _) hmiddle.sound hids).bind trivial
    ((hasks typed).proper.onward_of_run hmiddle.sound hids).sound ?_
  exact ⟨fun met hmet => (Dialog.repeats_done _ after).resumed met hmet,
    fun later hlater hkindIds => (Dialog.repeats_done _ after).settled later hlater hkindIds⟩

end Acquisition

end TermStore
