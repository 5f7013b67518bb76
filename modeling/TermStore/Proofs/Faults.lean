import TermStore.Proofs.Requests

/-!
# Calls that fail

A call on a store may fail although nothing is wrong with the databases: a connection breaks, before
the call has had its effect or after. `Databases.failing` answers like the databases until one call
does so. Whichever call it is, the databases are left in a state that an undisturbed run passes
through (`Dialog.Passes`), so much that is to be said of failures is said of undisturbed runs only.

A dialog *repeats* if it has the same result, and in the end makes the same of the databases, from
each of these states, and if it asks for no more changes once it is through. Of two dialogs that
repeat so does the one that they make together.
-/

namespace TermStore

open Storage (TableSpec Database)

/-- Is a store called? -/
def Request.isCall : Request → Bool
  | .find .. => true
  | .findIds .. => true
  | .insert .. => true
  | .chains .. => true
  | .callerSection .. => false
  | .known => false
  | .remember .. => false

/-- An insert is proper, and nothing but the stores is asked. -/
def Request.ProperCall (r : Request) : Prop := r.Proper ∧ r.isCall = true

/-! ### Later states -/

namespace Databases

/-- A later state: the rows of the primary are still there, and the replica is as it was. -/
structure Onward (before after : Databases) : Prop where
  sound : after.primary.Sound
  grows : before.primary.Grows after.primary
  replica : after.replica = before.replica

variable {before middle after : Databases} {r : Request}

theorem Onward.refl (hsound : before.primary.Sound) : before.Onward before :=
  ⟨hsound, hsound.grows_refl, rfl⟩

theorem Onward.trans (h : before.Onward middle) (h' : middle.Onward after) : before.Onward after :=
  ⟨h'.sound, h.grows.trans h'.grows, h'.replica.trans h.replica⟩

/-- A store is either a replica that stays as it is, or in each later state the primary. -/
theorem database_onward (before : Databases) (side : Side) :
    (∀ after, before.Onward after → after.database side = before.database side) ∨
      ∀ after : Databases, after.replica = before.replica →
        after.database side = after.primary := by
  cases side with
  | primary => exact Or.inr fun _ _ => rfl
  | replica =>
      cases hreplica : before.replica with
      | none =>
          refine Or.inr fun after hafter => ?_
          unfold database
          rw [hafter]
          rfl
      | some replica =>
          refine Or.inl fun after hafter => ?_
          unfold database
          rw [hafter.replica, hreplica]
          rfl

/-- The reply to a proper request takes nothing away, whether the request has an effect or none. -/
theorem onward_reply (hr : r.Proper) (hsound : before.primary.Sound) :
    before.Onward (reply r before).2 := by
  obtain ⟨hreplica, hsame | ⟨spec, hspec, records, -, hgains⟩⟩ := reply_cases hr hsound
  · refine ⟨?_, ?_, hreplica⟩
    · rw [hsame]
      exact hsound
    · rw [hsame]
      exact hsound.grows_refl
  · exact ⟨hgains.sound hsound hspec, hgains.grows hsound hspec, hreplica⟩

/-- A call leaves what is remembered of the kinds. -/
theorem kindIds_reply (hr : r.isCall = true) : (reply r before).2.kindIds = before.kindIds := by
  cases r with
  | find side spec records => simp
  | findIds side spec ids => simp
  | chains side ids => simp
  | insert side spec records =>
      cases hinsert : (before.database side).insertIgnoring spec records with
      | error fault => simp only [reply, hinsert]
      | ok result =>
          simp only [reply, hinsert, setDatabase]
          split <;> rfl
  | callerSection ids => cases hr
  | known => cases hr
  | remember ids => cases hr

/-- Answers like the databases as long as calls go through, of which there is a number; the next one
fails, with its effect or without. -/
def failing (effect : Bool) (failure : Failure) : Handler (Databases × Nat) where
  reply r world :=
    if r.isCall then
      match world.2 with
      | 0 => (.error failure, (if effect then (reply r world.1).2 else world.1, 0))
      | count + 1 => ((reply r world.1).1, ((reply r world.1).2, count))
    else ((reply r world.1).1, ((reply r world.1).2, world.2))
  note _ world := world

/-- A request is answered as without failures, or it fails before its effect or after. -/
theorem reply_failing (effect : Bool) (failure : Failure) (r : Request) (before : Databases)
    (count : Nat) :
    (∃ left, (failing effect failure).reply r (before, count) =
      ((reply r before).1, ((reply r before).2, left))) ∨
    ∃ met left, (failing effect failure).reply r (before, count) = (.error failure, (met, left)) ∧
      (met = before ∨ met = (reply r before).2) := by
  simp only [failing]
  by_cases hcall : r.isCall = true
  · rw [if_pos hcall]
    cases count with
    | zero =>
        cases effect with
        | true => exact Or.inr ⟨_, 0, rfl, Or.inr rfl⟩
        | false => exact Or.inr ⟨_, 0, rfl, Or.inl rfl⟩
    | succ count => exact Or.inl ⟨count, rfl⟩
  · rw [if_neg hcall]
    exact Or.inl ⟨count, rfl⟩

end Databases

namespace Dialog

variable {α β : Type} {d : Dialog α} {next : α → Dialog β} {before met after : Databases}

/-- Two dialogs in a row have a result if both have. -/
theorem run_bind_eq_ok_iff {World : Type} {handler : Handler World} {before after : World}
    {result : β} : (d.bind next).run handler before = (.ok result, after) ↔
      ∃ first middle, d.run handler before = (.ok first, middle) ∧
        (next first).run handler middle = (.ok result, after) := by
  rw [run_bind]
  constructor
  · intro h
    rcases hfirst : d.run handler before with ⟨outcome, middle⟩
    rw [hfirst] at h
    cases outcome with
    | ok first => exact ⟨first, middle, rfl, h⟩
    | error failure => cases h
  · rintro ⟨first, middle, hfirst, hsecond⟩
    rw [hfirst]
    exact hsecond

/-! ### States that a run passes through -/

/-- Carried on with the databases, a dialog meets a state of them, before its first request or after
one. -/
def Passes : Dialog α → Databases → Databases → Prop
  | .done _, before, met => met = before
  | .fail _, before, met => met = before
  | .note _ next, before, met => next.Passes before met
  | .ask r next, before, met => met = before ∨ met = (Databases.reply r before).2 ∨
      ∃ reply after, Databases.reply r before = (.ok reply, after) ∧ (next reply).Passes after met

/-- A dialog passes through its beginning, also where it is done at once. -/
theorem passes_self (d : Dialog α) (before : Databases) : d.Passes before before := by
  induction d with
  | done => rfl
  | fail => rfl
  | note event rest ih => exact ih
  | ask r rest ih => exact Or.inl rfl

/-- It passes through its end, also where it fails. -/
theorem passes_end {outcome : Except Failure α}
    (hrun : d.run Databases.handler before = (outcome, after)) : d.Passes before after := by
  induction d generalizing before with
  | done => exact (Prod.mk.inj hrun).2.symm
  | fail => exact (Prod.mk.inj hrun).2.symm
  | note event rest ih => exact ih hrun
  | ask r rest ih =>
      simp only [run, Databases.handler] at hrun
      rcases hreply : Databases.reply r before with ⟨answer, state⟩
      rw [hreply] at hrun
      cases answer with
      | ok reply => exact Or.inr (Or.inr ⟨reply, state, hreply, ih reply hrun⟩)
      | error failure =>
          cases hrun
          exact Or.inr (Or.inl (by rw [hreply]))

/-- What a dialog with a continuation passes through, one of the two passes through. -/
theorem Passes.of_bind (h : (d.bind next).Passes before met) :
    d.Passes before met ∨ ∃ result after, d.run Databases.handler before = (.ok result, after) ∧
      (next result).Passes after met := by
  induction d generalizing before with
  | done result => exact Or.inr ⟨result, before, rfl, h⟩
  | fail => exact Or.inl h
  | note event rest ih => exact ih h
  | ask r rest ih =>
      rcases h with hsame | hafter | ⟨reply, after, hreply, hlater⟩
      · exact Or.inl (Or.inl hsame)
      · exact Or.inl (Or.inr (Or.inl hafter))
      · rcases ih reply hlater with hfirst | hsecond
        · exact Or.inl (Or.inr (Or.inr ⟨reply, after, hreply, hfirst⟩))
        · simp only [run, Databases.handler, hreply]
          exact Or.inr hsecond

/-- Where the first of two dialogs goes through, the two of them pass through what it passes
through, and then through what the second one does from where it ended. -/
theorem Passes.of_bind_of_run {result : α} (h : (d.bind next).Passes before met)
    (hrun : d.run Databases.handler before = (.ok result, after)) :
    d.Passes before met ∨ (next result).Passes after met := by
  refine h.of_bind.imp_right ?_
  rintro ⟨other, state, hother, hlater⟩
  obtain ⟨hresult, rfl⟩ := Prod.mk.inj (hrun.symm.trans hother)
  obtain rfl := Except.ok.inj hresult
  exact hlater

/-- A failed call leaves the databases in a state that the undisturbed run passes through. -/
theorem passes_failing (effect : Bool) (failure : Failure) (d : Dialog α) (before : Databases)
    (count : Nat) :
    d.Passes before (d.run (Databases.failing effect failure) (before, count)).2.1 := by
  induction d generalizing before count with
  | done => rfl
  | fail => rfl
  | note event rest ih => exact ih before count
  | ask r rest ih =>
      rcases Databases.reply_failing effect failure r before count with
        ⟨left, hanswered⟩ | ⟨met, left, hfailed, hmet⟩
      · simp only [run, hanswered]
        rcases hreply : Databases.reply r before with ⟨outcome, after⟩
        cases outcome with
        | ok reply => exact Or.inr (Or.inr ⟨reply, after, hreply, ih reply after left⟩)
        | error failure => exact Or.inr (Or.inl (by rw [hreply]))
      · simp only [run, hfailed]
        exact hmet.imp_right Or.inl

/-- So a whole dialog of proper requests takes nothing away either. -/
theorem onward_run (hd : d.Asks Request.Proper) (hsound : before.primary.Sound) :
    before.Onward (d.run Databases.handler before).2 := by
  refine Asks.run_induction (I := fun now : Databases => before.Onward now) (fun _ _ h => h) ?_ hd
    (Databases.Onward.refl hsound)
  intro r now hr hnow
  exact hnow.trans (Databases.onward_reply hr hnow.sound)

theorem Asks.onward_of_run (hd : d.Asks Request.Proper) (hsound : before.primary.Sound)
    {outcome : Except Failure α} (hrun : d.run Databases.handler before = (outcome, after)) :
    before.Onward after := by
  have h := onward_run hd hsound
  rw [hrun] at h
  exact h

/-- Calls on the stores leave alone what the process remembers of kinds. -/
theorem kindIds_run (hd : d.Asks Request.ProperCall) :
    (d.run Databases.handler before).2.kindIds = before.kindIds := by
  refine Asks.run_induction (I := fun now : Databases => now.kindIds = before.kindIds)
    (fun _ _ h => h) ?_ hd rfl
  intro r now hr hnow
  exact (Databases.kindIds_reply hr.2).trans hnow

theorem Asks.kindIds_of_run (hd : d.Asks Request.ProperCall) {outcome : Except Failure α}
    (hrun : d.run Databases.handler before = (outcome, after)) :
    after.kindIds = before.kindIds := by
  have h : (d.run Databases.handler before).2.kindIds = before.kindIds := kindIds_run hd
  rw [hrun] at h
  exact h

theorem Asks.mono {P Q : Request → Prop} (hd : d.Asks P) (h : ∀ r, P r → Q r) : d.Asks Q := by
  induction d with
  | done => exact trivial
  | fail => exact trivial
  | note event rest ih => exact ih hd
  | ask r rest ih => exact ⟨h r hd.1, fun reply => ih reply (hd.2 reply)⟩

theorem Asks.proper (hd : d.Asks Request.ProperCall) : d.Asks Request.Proper :=
  hd.mono fun _ hr => hr.1

/-- What a run passes through lies between its beginning and its end. -/
theorem Passes.onward (hd : d.Asks Request.Proper) (hsound : before.primary.Sound)
    (h : d.Passes before met) :
    before.Onward met ∧ met.Onward (d.run Databases.handler before).2 := by
  induction d generalizing before with
  | done =>
      obtain rfl : met = before := h
      exact ⟨.refl hsound, .refl hsound⟩
  | fail =>
      obtain rfl : met = before := h
      exact ⟨.refl hsound, .refl hsound⟩
  | note event rest ih => exact ih hd hsound h
  | ask r rest ih =>
      have hafter := Databases.onward_reply hd.1 hsound
      -- also where the reply is a failure, and the run is over with it
      have hend : (Databases.reply r before).2.Onward
          ((ask r rest).run Databases.handler before).2 := by
        have hsound' := hafter.sound
        simp only [run, Databases.handler]
        rcases hreply : Databases.reply r before with ⟨outcome, after⟩
        rw [hreply] at hsound'
        cases outcome with
        | ok reply => exact onward_run (hd.2 reply) hsound'
        | error failure => exact .refl hsound'
      rcases h with rfl | rfl | ⟨reply, after, hreply, hlater⟩
      · exact ⟨.refl hsound, hafter.trans hend⟩
      · exact ⟨hafter, hend⟩
      · rw [hreply] at hafter
        have hsound' : after.primary.Sound := hafter.sound
        obtain ⟨hbefore, hrest⟩ := ih reply (hd.2 reply) hsound' hlater
        simp only [run, Databases.handler, hreply]
        exact ⟨hafter.trans hbefore, hrest⟩

/-- Calls alone do not change what is remembered of the kinds. -/
theorem Passes.kindIds (hd : d.Asks Request.ProperCall) (h : d.Passes before met) :
    met.kindIds = before.kindIds := by
  induction d generalizing before with
  | done => rw [show met = before from h]
  | fail => rw [show met = before from h]
  | note event rest ih => exact ih hd h
  | ask r rest ih =>
      have hafter : (Databases.reply r before).2.kindIds = before.kindIds :=
        Databases.kindIds_reply hd.1.2
      rcases h with rfl | rfl | ⟨reply, after, hreply, hlater⟩
      · rfl
      · exact hafter
      · rw [hreply] at hafter
        exact (ih reply (hd.2 reply) hlater).trans hafter

/-! ### States that single calls pass through -/

/-- A request that only reads is answered, and changes nothing. -/
theorem Passes.of_readOnly {r : Request} {outcome : Except Storage.Fault (Reply r)}
    {next : Reply r → Dialog α} (h : (ask r next).Passes before met)
    (hreply : Databases.reply r before = before.readOnly outcome) :
    met = before ∨ ∃ reply, outcome = .ok reply ∧ (next reply).Passes before met := by
  cases outcome with
  | ok reply =>
      rcases h with hsame | hafter | ⟨other, after, hother, hlater⟩
      · exact Or.inl hsame
      · rw [hreply] at hafter
        exact Or.inl hafter
      · -- the dialog goes on with the reply that it would have got anyway
        obtain ⟨hvalue, rfl⟩ := Prod.mk.inj (hreply.symm.trans hother)
        obtain rfl := Except.ok.inj hvalue
        exact Or.inr ⟨reply, rfl, hlater⟩
  | error fault =>
      rcases h with hsame | hafter | ⟨other, after, hother, -⟩
      · exact Or.inl hsame
      · rw [hreply] at hafter
        exact Or.inl hafter
      · cases hreply.symm.trans hother

/-- A look-up changes nothing, so a dialog that begins with one passes through its beginning and
what comes after the look-up. -/
theorem Passes.of_find {side : Side} {spec : TableSpec} {records : List Storage.Record}
    {next : Storage.RecordIds → Dialog α}
    (h : ((find side spec records).bind next).Passes before met) :
    met = before ∨ ∃ found, (before.database side).find spec records = .ok found ∧
      (next found).Passes before met :=
  Passes.of_readOnly h rfl

theorem Passes.of_findIds {side : Side} {spec : TableSpec} {ids : List Int}
    {next : SortedMap Int Storage.Record → Dialog α}
    (h : ((findIds side spec ids).bind next).Passes before met) :
    met = before ∨ ∃ found, (before.database side).findIds spec ids = .ok found ∧
      (next found).Passes before met :=
  Passes.of_readOnly h rfl

/-- An insert makes one step: before it, and after it with all that it has inserted. -/
theorem Passes.of_insert {spec : TableSpec} {records : List Storage.Record}
    {next : Nat → Dialog α} (h : ((insert .primary spec records).bind next).Passes before met) :
    met = before ∨ ∃ count db, before.primary.insertIgnoring spec records = .ok (count, db) ∧
      (next count).Passes { before with primary := db } met := by
  cases hinsert : before.primary.insertIgnoring spec records with
  | ok result =>
      obtain ⟨count, db⟩ := result
      have hreply : Databases.reply (.insert .primary spec records) before =
          (.ok count, { before with primary := db }) := by
        simp only [Databases.reply, Databases.database, hinsert, Databases.setDatabase]
      rcases h with hsame | hafter | ⟨other, after, hother, hlater⟩
      · exact Or.inl hsame
      · rw [hreply] at hafter
        exact Or.inr ⟨count, db, rfl, hafter ▸ passes_self _ _⟩
      · obtain ⟨hcount, rfl⟩ := Prod.mk.inj (hreply.symm.trans hother)
        obtain rfl := Except.ok.inj hcount
        exact Or.inr ⟨count, db, rfl, hlater⟩
  | error fault =>
      have hreply : Databases.reply (.insert .primary spec records) before =
          (.error (.storage fault), before) := by
        simp only [Databases.reply, Databases.database, hinsert]
      rcases h with hsame | hafter | ⟨other, after, hother, -⟩
      · exact Or.inl hsame
      · rw [hreply] at hafter
        exact Or.inl hafter
      · cases hreply.symm.trans hother

/-! ### Dialogs that repeat -/

/-- From each state that a run passes through it has the same result, and makes the same of the
databases; and once it is through, it changes nothing any more. -/
structure Repeats (d : Dialog α) (before : Databases) (result : α) (after : Databases) : Prop where
  resumed : ∀ met, d.Passes before met → d.run Databases.handler met = (.ok result, after)
  settled : ∀ later, after.Onward later → later.kindIds = after.kindIds →
    d.run Databases.handler later = (.ok result, later)

theorem repeats_done (result : α) (before : Databases) :
    (done result).Repeats before result before where
  resumed met h := by rw [show met = before from h]; rfl
  settled later _ _ := rfl

theorem Repeats.run {result : α} (h : d.Repeats before result after) :
    d.run Databases.handler before = (.ok result, after) :=
  h.resumed before (passes_self d before)

/-- A dialog repeats if it passes through its beginning and its end only. -/
theorem repeats_of_settled {result : α}
    (hrun : d.run Databases.handler before = (.ok result, after)) (hsound : after.primary.Sound)
    (hpasses : ∀ met, d.Passes before met → met = before ∨ met = after)
    (hsettled : ∀ later, after.Onward later → later.kindIds = after.kindIds →
      d.run Databases.handler later = (.ok result, later)) :
    d.Repeats before result after where
  resumed met hmet := by
    rcases hpasses met hmet with rfl | rfl
    · exact hrun
    · exact hsettled met (.refl hsound) rfl
  settled := hsettled

/-- A dialog that repeats, and a continuation of it that calls the stores only and repeats. -/
theorem Repeats.bind {middle : Databases} {first : α} {second : β}
    (h : d.Repeats before first middle) (hnext : (next first).Asks Request.ProperCall)
    (hsound : middle.primary.Sound) (h' : (next first).Repeats middle second after) :
    (d.bind next).Repeats before second after where
  resumed met hmet := by
    rw [run_bind]
    rcases hmet.of_bind_of_run h.run with hfirst | hsecond
    · simp only [h.resumed met hfirst]
      exact h'.run
    · have honward := (hsecond.onward hnext.proper hsound).1
      simp only [h.settled met honward (hsecond.kindIds hnext)]
      exact h'.resumed met hsecond
  settled later hlater hkinds := by
    have hmiddle := hnext.proper.onward_of_run hsound h'.run
    have hkindIds := hnext.kindIds_of_run h'.run
    rw [run_bind]
    simp only [h.settled later (hmiddle.trans hlater) (hkinds.trans hkindIds)]
    exact h'.settled later hlater hkinds

end Dialog

theorem Acquisition.permits_properCall {s : Seeker} (hs : s.primary = .primary) :
    ∀ spec ∈ TableSpec.all, Permits Request.ProperCall s spec :=
  fun _ hspec => ⟨fun _ _ _ => ⟨trivial, rfl⟩, fun _ => ⟨trivial, rfl⟩,
    fun _ htakes => ⟨⟨hs, hspec, htakes⟩, rfl⟩⟩

end TermStore
