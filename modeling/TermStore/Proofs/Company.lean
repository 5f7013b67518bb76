import TermStore.Proofs.Requests

/-!
# Dialogs in company

While a dialog waits for a reply, others may insert rows, but nobody removes any. What a dialog
assures under these circumstances is said by recursion on it (`Dialog.Assures`): before each
request the databases may have moved on to any that hold the old rows on the primary, and any
part of the primary's rows on the replica. Along with the result it is counted into which tables
the dialog inserts: those of a list, and into each as often as it is listed.
-/

namespace TermStore

open Storage (TableSpec Table Record RecordIds Cell Database)

/-! ### Databases that others insert into -/

/-- What others may have done to the databases meanwhile. -/
structure Databases.Meanwhile (before after : Databases) : Prop where
  sound : after.primary.Sound
  grows : before.primary.Grows after.primary
  /-- The replica has no rows but the primary's. -/
  lags : ∀ replica ∈ after.replica, replica.Grows after.primary
  kindIds : after.kindIds = before.kindIds

namespace Databases.Meanwhile

variable {before middle after : Databases}

theorem trans (h : before.Meanwhile middle) (h' : middle.Meanwhile after) :
    before.Meanwhile after :=
  ⟨h'.sound, h.grows.trans h'.grows, h'.lags, h'.kindIds.trans h.kindIds⟩

/-- The rows of either store are on the primary. -/
theorem database_grows (h : before.Meanwhile after) (side : Side) :
    (after.database side).Grows after.primary := by
  cases side with
  | primary => exact h.sound.grows_refl
  | replica =>
      unfold Databases.database
      cases hreplica : after.replica with
      | none => exact h.sound.grows_refl
      | some replica => exact h.lags replica hreplica

theorem database_sound (h : before.Meanwhile after) (side : Side) : (after.database side).Sound :=
  h.sound.of_grows (h.database_grows side)

end Databases.Meanwhile

/-! ### Inserts that are allowed -/

/-- Is the request no insert, or one into a table of the list? -/
def Request.Within (allowed : List TableSpec) : Request → Prop
  | .insert _ spec _ => spec ∈ allowed
  | _ => True

/-- The tables into which inserts are still allowed after a request. -/
def Request.spend (allowed : List TableSpec) : Request → List TableSpec
  | .insert _ spec _ => allowed.erase spec
  | _ => allowed

/-! ### What a dialog assures -/

namespace Dialog

variable {α β : Type} {failed : Failure → Prop}
  {post : α → List TableSpec → Databases → Prop}

/-- In company, a dialog inserts only into allowed tables, fails only in given ways, and has only
results that satisfy a condition on what is still allowed and on the databases. -/
def Assures (failed : Failure → Prop) (post : α → List TableSpec → Databases → Prop) :
    Dialog α → List TableSpec → Databases → Prop
  | .done result, allowed, databases => post result allowed databases
  | .fail failure, _, _ => failed failure
  | .note _ next, allowed, databases => next.Assures failed post allowed databases
  | .ask request next, allowed, databases =>
    -- the reply comes from what the databases are by then
    request.Within allowed ∧ ∀ now, databases.Meanwhile now →
      match Databases.reply request now with
      | (.ok reply, after) => (next reply).Assures failed post (request.spend allowed) after
      | (.error failure, _) => failed failure

theorem Assures.mono {other : α → List TableSpec → Databases → Prop} {d : Dialog α}
    {allowed : List TableSpec} {databases : Databases} (h : d.Assures failed post allowed databases)
    (hpost : ∀ result allowed databases, post result allowed databases →
      other result allowed databases) : d.Assures failed other allowed databases := by
  induction d generalizing allowed databases with
  | done result => exact hpost result allowed databases h
  | fail => exact h
  | note event rest ih => exact ih h
  | ask r rest ih =>
      refine ⟨h.1, fun now hnow => ?_⟩
      have hreply := h.2 now hnow
      rcases hresult : Databases.reply r now with ⟨outcome, after⟩
      rw [hresult] at hreply
      cases outcome with
      | ok reply => exact ih reply hreply
      | error failure => exact hreply

/-- Conditions on results alone need no look at the databases. -/
theorem Assures.and_yields {Q : α → Prop} {d : Dialog α} (hyields : d.Yields Q)
    {allowed : List TableSpec} {databases : Databases}
    (h : d.Assures failed post allowed databases) :
    d.Assures failed (fun result allowed now => post result allowed now ∧ Q result)
      allowed databases := by
  induction d generalizing allowed databases with
  | done result => exact ⟨h, hyields⟩
  | fail => exact h
  | note event rest ih => exact ih hyields h
  | ask r rest ih =>
      refine ⟨h.1, fun now hnow => ?_⟩
      have hreply := h.2 now hnow
      rcases hresult : Databases.reply r now with ⟨outcome, after⟩
      rw [hresult] at hreply
      cases outcome with
      | ok reply => exact ih reply (hyields reply) hreply
      | error failure => exact hreply

/-- What a dialog assures it still assures when others have inserted something first. -/
theorem Assures.later
    (hpost : ∀ result allowed before after, post result allowed before →
      Databases.Meanwhile before after → post result allowed after)
    {d : Dialog α} {allowed : List TableSpec} {before after : Databases}
    (h : d.Assures failed post allowed before) (hafter : before.Meanwhile after) :
    d.Assures failed post allowed after := by
  induction d with
  | done result => exact hpost result allowed before after h hafter
  | fail => exact h
  | note event rest ih => exact ih h
  | ask r rest ih => exact ⟨h.1, fun now hnow => h.2 now (hafter.trans hnow)⟩

/-- Behind a dialog of proper requests the primary is sound and has its old rows. -/
theorem Assures.frame {d : Dialog α} (hd : d.Asks Request.Proper) {allowed : List TableSpec}
    {base : Database} {databases : Databases} (hsound : databases.primary.Sound)
    (hbase : base.Grows databases.primary) (h : d.Assures failed post allowed databases) :
    d.Assures failed (fun result allowed after =>
      post result allowed after ∧ after.primary.Sound ∧ base.Grows after.primary)
      allowed databases := by
  induction d generalizing allowed databases with
  | done result => exact ⟨h, hsound, hbase⟩
  | fail => exact h
  | note event rest ih => exact ih hd hsound hbase h
  | ask r rest ih =>
      refine ⟨h.1, fun now hnow => ?_⟩
      have hreply := h.2 now hnow
      have hcases := (Databases.reply_cases hd.1 hnow.sound).2
      rcases hresult : Databases.reply r now with ⟨outcome, after⟩
      rw [hresult] at hreply hcases
      cases outcome with
      | error failure => exact hreply
      | ok reply =>
          have hgrows := hbase.trans hnow.grows
          rcases hcases with hsame | ⟨spec, hspec, records, -, hgains⟩
          · exact ih reply (hd.2 reply) (hsame ▸ hnow.sound) (hsame ▸ hgrows) hreply
          · exact ih reply (hd.2 reply) (hgains.sound hnow.sound hspec)
              (hgrows.trans (hgains.grows hnow.sound hspec)) hreply

/-- A dialog behind another one meets what that one leaves. -/
theorem Assures.bind {mid : α → List TableSpec → Databases → Prop}
    {post : β → List TableSpec → Databases → Prop} {d : Dialog α} {next : α → Dialog β}
    (hd : d.Asks Request.Proper) {allowed : List TableSpec} {databases : Databases}
    (hsound : databases.primary.Sound) (h : d.Assures failed mid allowed databases)
    (hnext : ∀ result allowed after, mid result allowed after → after.primary.Sound →
      databases.primary.Grows after.primary → (next result).Assures failed post allowed after) :
    (d.bind next).Assures failed post allowed databases := by
  have hframe := h.frame hd hsound hsound.grows_refl
  -- the induction moves the databases on, but not the primary that has grown since
  clear h
  generalize databases.primary = base at hframe hnext
  clear hsound
  induction d generalizing allowed databases with
  | done result =>
      obtain ⟨hmid, hsound, hgrows⟩ := hframe
      exact hnext result allowed databases hmid hsound hgrows
  | fail => exact hframe
  | note event rest ih => exact ih hd hframe
  | ask r rest ih =>
      refine ⟨hframe.1, fun now hnow => ?_⟩
      have hreply := hframe.2 now hnow
      rcases hresult : Databases.reply r now with ⟨outcome, after⟩
      rw [hresult] at hreply
      cases outcome with
      | ok reply => exact ih reply (hd.2 reply) hreply
      | error failure => exact hreply

/-- A dialog that is carried on alone is in the company of nobody. -/
theorem Assures.run {d : Dialog α} (hd : d.Asks Request.Proper) {allowed : List TableSpec}
    {databases : Databases} (hsound : databases.primary.Sound)
    (hlags : ∀ replica ∈ databases.replica, replica.Grows databases.primary)
    (h : d.Assures failed post allowed databases) :
    match d.run Databases.handler databases with
    | (.ok result, after) => ∃ allowed, post result allowed after
    | (.error failure, _) => failed failure := by
  induction d generalizing allowed databases with
  | done result => exact ⟨allowed, h⟩
  | fail => exact h
  | note event rest ih => exact ih hd hsound hlags h
  | ask r rest ih =>
      have hreply := h.2 databases ⟨hsound, hsound.grows_refl, hlags, rfl⟩
      obtain ⟨hreplica, hcases⟩ := Databases.reply_cases hd.1 hsound
      simp only [Dialog.run, Databases.handler]
      rcases hresult : Databases.reply r databases with ⟨outcome, after⟩
      rw [hresult] at hreply hreplica hcases
      cases outcome with
      | error failure => exact hreply
      | ok reply =>
          rcases hcases with hsame | ⟨spec, hspec, records, -, hgains⟩
          · exact ih reply (hd.2 reply) (hsame ▸ hsound) (by rw [hreplica, hsame]; exact hlags)
              hreply
          · refine ih reply (hd.2 reply) (hgains.sound hsound hspec) (fun replica hmem => ?_) hreply
            rw [hreplica] at hmem
            exact (hlags replica hmem).trans (hgains.grows hsound hspec)

/-! ### Single requests -/

section Requests

variable {allowed : List TableSpec} {databases : Databases}
  (hstorage : ∀ fault, failed (.storage fault))

include hstorage

theorem assures_find {side : Side} {spec : TableSpec} {records : List Record}
    {next : RecordIds → Dialog α}
    (h : ∀ now, databases.Meanwhile now → ∀ found,
      (now.database side).find spec records = .ok found →
      (next found).Assures failed post allowed now) :
    ((find side spec records).bind next).Assures failed post allowed databases := by
  refine ⟨trivial, fun now hnow => ?_⟩
  cases hfind : (now.database side).find spec records with
  | ok found =>
      simp only [Databases.reply, hfind, Databases.readOnly]
      exact h now hnow found hfind
  | error fault =>
      simp only [Databases.reply, hfind, Databases.readOnly]
      exact hstorage fault

theorem assures_insert {spec : TableSpec} {records : List Record} {next : Nat → Dialog α}
    (hallowed : spec ∈ allowed) (hspec : spec ∈ TableSpec.all)
    (htakes : ∀ record ∈ records, spec.Takes record)
    (h : ∀ added after, after.primary.Sound → databases.primary.Grows after.primary →
      (∀ record ∈ records, after.primary.Matches spec record) →
      (next added).Assures failed post (allowed.erase spec) after) :
    ((insert .primary spec records).bind next).Assures failed post allowed databases := by
  refine ⟨hallowed, fun now hnow => ?_⟩
  cases hinsert : now.primary.insertIgnoring spec records with
  | ok result =>
      obtain ⟨added, db⟩ := result
      simp only [Databases.reply, Databases.database, hinsert, Databases.setDatabase]
      have hgains := hnow.sound.gains hspec htakes hinsert
      exact h added _ (hgains.sound hnow.sound hspec)
        (hnow.grows.trans (hgains.grows hnow.sound hspec)) fun record => hgains.matched
  | error fault =>
      simp only [Databases.reply, Databases.database, hinsert]
      exact hstorage fault

end Requests

/-- A look-up of ids whose rows hold records goes through. -/
theorem assures_findIds {allowed : List TableSpec} {databases : Databases} {spec : TableSpec}
    {ids : List Int} {next : SortedMap Int Record → Dialog α} (hspec : spec ∈ TableSpec.all)
    (hhas : ∀ id ∈ ids, ∃ record, databases.primary.Has spec id record)
    (h : ∀ now, databases.Meanwhile now → ∀ found,
      now.primary.findIds spec ids = .ok found → (next found).Assures failed post allowed now) :
    ((findIds .primary spec ids).bind next).Assures failed post allowed databases := by
  refine ⟨trivial, fun now hnow => ?_⟩
  obtain ⟨found, hfind⟩ := hnow.sound.exists_findIds_of_has hspec fun id hid => by
    obtain ⟨record, hhas⟩ := hhas id hid
    exact ⟨record, hnow.grows.has hspec hhas⟩
  simp only [Databases.reply, Databases.database, hfind, Databases.readOnly]
  exact h now hnow found hfind

end Dialog

end TermStore
