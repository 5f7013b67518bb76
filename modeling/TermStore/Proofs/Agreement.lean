import TermStore.Proofs.Recovery
import Mathlib.Logic.Function.Basic

/-!
# Agreement of clients

Any number of clients work on one primary, each of them through both phases on a document of its
own. Their requests are answered one at a time, in any order, and the replica answers with any part
of the rows that the primary has at that moment; nobody removes rows.

What each client assures in company makes up an invariant of the whole system, from which follows
that the clients agree: at all times and among all clients, equal terms have equal ids and different
terms different ones.
-/

namespace TermStore

open Storage (TableSpec Table Record RecordIds Cell Database)

/-! ### Single steps of dialogs -/

namespace Dialog

variable {α : Type}

/-- A dialog after one step: it has told an event, or has got the reply to its request. -/
def next (databases : Databases) : Dialog α → Dialog α × Databases
  | .done result => (.done result, databases)
  | .fail failure => (.fail failure, databases)
  | .note _ rest => (rest, databases)
  | .ask request rest =>
    match Databases.reply request databases with
    | (.ok reply, after) => (rest reply, after)
    | (.error failure, after) => (.fail failure, after)

/-- The table that a dialog's next step inserts into. -/
def inserting : Dialog α → List TableSpec
  | .ask (.insert _ spec _) _ => [spec]
  | _ => []

end Dialog

/-! ### Clients -/

/-- How far a client has come. -/
inductive Stage
  /-- In the first phase. -/
  | acquiring (rest : Dialog Batch)
  /-- In the second phase, with what the first one gave. -/
  | finalizing (batch : Batch) (rest : Dialog (List Int))

/-- What a client gets ids for, and how. -/
structure Task where
  document : Document
  limits : Limits
  kinds : KindStore
  read : Side

/-- The first phase of a task. -/
def Task.acquire (task : Task) : Dialog Batch :=
  Acquisition.acquire task.read .primary task.kinds task.limits task.document

/-- The second phase of a task. -/
def Task.finalize (task : Task) (batch : Batch) : Dialog (List Int) :=
  Acquisition.finalize .primary task.limits batch

/-- A client at work. -/
structure Client where
  task : Task
  kindIds : KindIds
  stage : Stage
  /-- The tables that it inserted into in the phase in which it is. -/
  inserted : List TableSpec

/-- The ids that a client has. -/
def Client.batch (client : Client) : Batch :=
  match client.stage with
  | .acquiring _ => []
  | .finalizing batch _ => batch

/-- A step of a client, with the primary and what the replica is at that moment. -/
def Client.step (primary : Database) (replica : Option Database) (client : Client) :
    Client × Database :=
  let databases : Databases := ⟨primary, replica, client.kindIds⟩
  match client.stage with
  | .acquiring (.done batch) =>
    ({ client with stage := .finalizing batch (client.task.finalize batch), inserted := [] },
      primary)
  | .acquiring rest =>
    ({ client with
        stage := .acquiring (rest.next databases).1,
        kindIds := (rest.next databases).2.kindIds,
        inserted := client.inserted ++ rest.inserting },
      (rest.next databases).2.primary)
  | .finalizing batch rest =>
    ({ client with
        stage := .finalizing batch (rest.next databases).1,
        kindIds := (rest.next databases).2.kindIds,
        inserted := client.inserted ++ rest.inserting },
      (rest.next databases).2.primary)

/-! ### What clients keep up -/

namespace Client

/-- What a client in the first phase assures of its result. -/
def Assured (task : Task) (batch : Batch) (primary : Database) : Prop :=
  batch.Leads primary ∧
    batch.map AcquiredTerm.term = task.document.truncatedTerms task.limits.textBytes

/-- What is true of a client at all times, beside a primary. -/
def Fine (primary : Database) (client : Client) : Prop :=
  match client.stage with
  | .acquiring rest =>
    rest.Asks Request.Proper ∧
    ∃ allowed, (client.inserted ++ allowed).Perm TableSpec.all ∧
      rest.Assures Failure.NotExhausted (fun batch _ now => Assured client.task batch now.primary)
        allowed ⟨primary, none, client.kindIds⟩
  | .finalizing batch rest =>
    rest.Asks Request.Proper ∧ client.inserted = [] ∧
      Assured client.task batch primary ∧
      rest.Assures (fun _ => False) (fun ids _ _ => ids = batch.ids) []
        ⟨primary, none, client.kindIds⟩

theorem Assured.grows {task : Task} {batch : Batch} {db db' : Database}
    (h : Assured task batch db) (hgrows : db.Grows db') : Assured task batch db' :=
  ⟨h.1.grows hgrows, h.2⟩

variable {primary primary' : Database} {client : Client}

/-- What others insert does a client no harm. -/
theorem Fine.grows (h : client.Fine primary) (hsound : primary'.Sound)
    (hgrows : primary.Grows primary') : client.Fine primary' := by
  have hmeanwhile : ∀ kindIds, Databases.Meanwhile ⟨primary, none, kindIds⟩
      ⟨primary', none, kindIds⟩ := fun _ => ⟨hsound, hgrows, fun _ hmem => (nomatch hmem), rfl⟩
  unfold Fine at h ⊢
  split at h
  · obtain ⟨hasks, allowed, hperm, hassures⟩ := h
    exact ⟨hasks, allowed, hperm,
      hassures.later (fun _ _ _ _ hassured hlater => hassured.grows hlater.grows) (hmeanwhile _)⟩
  · obtain ⟨hasks, hinserted, hassured, hassures⟩ := h
    exact ⟨hasks, hinserted, hassured.grows hgrows,
      hassures.later (fun _ _ _ _ h _ => h) (hmeanwhile _)⟩

end Client

/-- What a dialog assured before a step it assures after it, of the inserts that are left. -/
theorem Dialog.Assures.next {α : Type} {failed : Failure → Prop}
    {post : α → List TableSpec → Databases → Prop}
    (hpost : ∀ result allowed before after, post result allowed before →
      Databases.Meanwhile before after → post result allowed after)
    {d : Dialog α} (hd : d.Asks Request.Proper) {allowed : List TableSpec} {primary : Database}
    {kindIds : KindIds} (h : d.Assures failed post allowed ⟨primary, none, kindIds⟩)
    (hsound : primary.Sound) {replica : Option Database}
    (hlags : ∀ db ∈ replica, db.Grows primary) :
    (d.next ⟨primary, replica, kindIds⟩).1.Asks Request.Proper ∧
    (d.next ⟨primary, replica, kindIds⟩).2.primary.Sound ∧
    primary.Grows (d.next ⟨primary, replica, kindIds⟩).2.primary ∧
    ∃ left, (d.inserting ++ left).Perm allowed ∧
      (d.next ⟨primary, replica, kindIds⟩).1.Assures failed post left
        ⟨(d.next ⟨primary, replica, kindIds⟩).2.primary, none,
          (d.next ⟨primary, replica, kindIds⟩).2.kindIds⟩ := by
  cases d with
  | done result => exact ⟨hd, hsound, hsound.grows_refl, allowed, List.Perm.refl _, h⟩
  | fail failure => exact ⟨hd, hsound, hsound.grows_refl, allowed, List.Perm.refl _, h⟩
  | note event rest => exact ⟨hd, hsound, hsound.grows_refl, allowed, List.Perm.refl _, h⟩
  | ask r rest =>
      have hreply := h.2 ⟨primary, replica, kindIds⟩ ⟨hsound, hsound.grows_refl, hlags, rfl⟩
      have hcases : (Databases.reply r ⟨primary, replica, kindIds⟩).2.primary = primary ∨ _ :=
        (Databases.reply_cases hd.1 hsound).2
      -- an insert uses its table up, any other request nothing
      have hspend : (Dialog.inserting (.ask r rest) ++ r.spend allowed).Perm allowed := by
        cases r with
        | insert side spec records => exact (List.perm_cons_erase h.1).symm
        | _ => exact List.Perm.refl _
      simp only [Dialog.next]
      rcases hresult : Databases.reply r ⟨primary, replica, kindIds⟩ with ⟨outcome, after⟩
      rw [hresult] at hreply hcases
      have hafter : after.primary.Sound ∧ primary.Grows after.primary := by
        rcases hcases with hsame | ⟨spec, hspec, records, -, hgains⟩
        · rw [hsame]
          exact ⟨hsound, hsound.grows_refl⟩
        · exact ⟨hgains.sound hsound hspec, hgains.grows hsound hspec⟩
      cases outcome with
      | ok reply =>
          refine ⟨hd.2 reply, hafter.1, hafter.2, _, hspend, hreply.later hpost ?_⟩
          exact ⟨hafter.1, hafter.1.grows_refl, fun _ hmem => (nomatch hmem), rfl⟩
      | error failure => exact ⟨trivial, hafter.1, hafter.2, _, hspend, hreply⟩

namespace Client

variable {primary : Database} {client : Client} {replica : Option Database}

/-- A client begins in the right way. -/
theorem fine_of_begin (hsound : primary.Sound) (hkinds : client.task.kinds.Standard)
    (hstage : client.stage = .acquiring client.task.acquire) (hinserted : client.inserted = []) :
    client.Fine primary := by
  unfold Fine
  rw [hstage, hinserted]
  exact ⟨Acquisition.asks_acquire hkinds _ _ _, TableSpec.all, List.Perm.refl _,
    Acquisition.assures_acquire hkinds _ _ _ hsound⟩

/-- A step of a client keeps it in order, and the primary too. -/
theorem Fine.step (h : client.Fine primary) (hsound : primary.Sound)
    (hlags : ∀ db ∈ replica, db.Grows primary) :
    (client.step primary replica).1.Fine (client.step primary replica).2 ∧
      (client.step primary replica).2.Sound ∧ primary.Grows (client.step primary replica).2 := by
  unfold Fine at h
  unfold Client.step
  cases hstage : client.stage with
  | acquiring rest =>
      rw [hstage] at h
      obtain ⟨hasks, allowed, hperm, hassures⟩ := h
      cases rest with
      | done batch =>
          -- the second phase begins, with ids that all lead to their terms
          refine ⟨⟨?_, rfl, hassures, ?_⟩, hsound, hsound.grows_refl⟩
          · exact Acquisition.asks_finalize_proper _ _
          · exact Acquisition.assures_finalize _ hassures.1
      | _ =>
          obtain ⟨hasks', hsound', hgrows, left, hleft, hassures'⟩ :=
            hassures.next (fun _ _ _ _ hassured hlater => hassured.grows hlater.grows) hasks hsound
              hlags
          refine ⟨⟨hasks', left, ?_, hassures'⟩, hsound', hgrows⟩
          rw [List.append_assoc]
          exact (hleft.append_left _).trans hperm
  | finalizing batch rest =>
      rw [hstage] at h
      obtain ⟨hasks, hinserted, hassured, hassures⟩ := h
      obtain ⟨hasks', hsound', hgrows, left, hleft, hassures'⟩ :=
        hassures.next (fun _ _ _ _ h _ => h) hasks hsound hlags
      obtain ⟨hnone, rfl⟩ := List.append_eq_nil_iff.1 (List.perm_nil.1 hleft)
      refine ⟨⟨hasks', ?_, hassured.grows hgrows, hassures'⟩, hsound', hgrows⟩
      show client.inserted ++ rest.inserting = []
      rw [hinserted, hnone]
      rfl

theorem step_task : (client.step primary replica).1.task = client.task := by
  unfold Client.step
  split <;> rfl

end Client

/-! ### Systems -/

/-- Clients at work on one primary. -/
structure System (ι : Type) where
  primary : Database
  clients : ι → Client

namespace System

variable {ι : Type} {start s : System ι}

/-- All clients are about to begin, on a primary with the tables of a term store. -/
structure Ready (s : System ι) : Prop where
  sound : s.primary.Sound
  standard : ∀ i, (s.clients i).task.kinds.Standard
  stage : ∀ i, (s.clients i).stage = .acquiring (s.clients i).task.acquire
  inserted : ∀ i, (s.clients i).inserted = []

/-- The primary is sound and all clients are in order. -/
def Fine (s : System ι) : Prop := s.primary.Sound ∧ ∀ i, (s.clients i).Fine s.primary

theorem Ready.fine (h : start.Ready) : start.Fine :=
  ⟨h.sound, fun i => Client.fine_of_begin h.sound (h.standard i) (h.stage i) (h.inserted i)⟩

/-- All ids in a client's batch lead to their terms. -/
theorem Fine.leads (h : s.Fine) (i : ι) : (s.clients i).batch.Leads s.primary := by
  have hclient := h.2 i
  unfold Client.Fine at hclient
  unfold Client.batch
  cases hstage : (s.clients i).stage with
  | acquiring rest => exact fun _ hmem => absurd hmem List.not_mem_nil
  | finalizing batch rest =>
      rw [hstage] at hclient
      exact hclient.2.2.1.1

theorem Fine.inserted_nodup (h : s.Fine) (i : ι) : (s.clients i).inserted.Nodup := by
  have hclient := h.2 i
  unfold Client.Fine at hclient
  split at hclient
  · obtain ⟨-, allowed, hperm, -⟩ := hclient
    have hnodup : ((s.clients i).inserted ++ allowed).Nodup := hperm.nodup_iff.2 (by decide)
    exact (List.nodup_append.1 hnodup).1
  · rw [hclient.2.1]
    exact List.nodup_nil

/-! ### Steps of systems -/

variable [DecidableEq ι]

/-- The system after a step of one client. -/
def step (s : System ι) (turn : ι × Option Database) : System ι where
  primary := ((s.clients turn.1).step s.primary turn.2).2
  clients := Function.update s.clients turn.1 ((s.clients turn.1).step s.primary turn.2).1

/-- The system after some steps. At each turn it is said whose it is and what the replica is. -/
def after (s : System ι) (turns : Nat → ι × Option Database) : Nat → System ι
  | 0 => s
  | n + 1 => (s.after turns n).step (turns n)

/-- The replica has, at each turn, some of the primary's rows. -/
def Lagging (s : System ι) (turns : Nat → ι × Option Database) : Prop :=
  ∀ n, ∀ replica ∈ (turns n).2, replica.Grows (s.after turns n).primary

variable {turn : ι × Option Database} {turns : Nat → ι × Option Database}

theorem after_succ (n : Nat) : s.after turns (n + 1) = (s.after turns n).step (turns n) := rfl

theorem clients_step_self :
    (s.step turn).clients turn.1 = ((s.clients turn.1).step s.primary turn.2).1 :=
  Function.update_self _ _ _

theorem clients_step_of_ne {i : ι} (h : i ≠ turn.1) : (s.step turn).clients i = s.clients i :=
  Function.update_of_ne h _ _

theorem Fine.step (h : s.Fine) (hlags : ∀ db ∈ turn.2, db.Grows s.primary) :
    (s.step turn).Fine ∧ s.primary.Grows (s.step turn).primary := by
  obtain ⟨hclient, hsound, hgrows⟩ := (h.2 turn.1).step h.1 hlags
  refine ⟨⟨hsound, fun i => ?_⟩, hgrows⟩
  by_cases hi : i = turn.1
  · subst hi
    rw [clients_step_self]
    exact hclient
  · rw [clients_step_of_ne hi]
    exact (h.2 i).grows hsound hgrows

theorem fine_after (hready : start.Ready) (hlagging : start.Lagging turns) (n : Nat) :
    (start.after turns n).Fine := by
  induction n with
  | zero => exact hready.fine
  | succ n ih => exact (ih.step (hlagging n)).1

/-- The primary only gains rows. -/
theorem grows_after (hready : start.Ready) (hlagging : start.Lagging turns) {n m : Nat}
    (h : n ≤ m) : (start.after turns n).primary.Grows (start.after turns m).primary := by
  induction h with
  | refl => exact (fine_after hready hlagging n).1.grows_refl
  | step _ ih => exact ih.trans ((fine_after hready hlagging _).step (hlagging _)).2

theorem task_after (i : ι) (n : Nat) :
    ((start.after turns n).clients i).task = (start.clients i).task := by
  induction n with
  | zero => rfl
  | succ n ih =>
      rw [after_succ]
      by_cases hi : i = (turns n).1
      · subst hi
        rw [clients_step_self, Client.step_task, ih]
      · rw [clients_step_of_ne hi, ih]

/-! ### Clients that get their turns -/

section Turns

variable {i : ι} (hfair : ∀ n, ∃ k ≥ n, (turns k).1 = i)

include hfair

/-- A client is at its next turn what it was before. -/
theorem exists_turn (start : System ι) (n : Nat) : ∃ k ≥ n, (turns k).1 = i ∧
    (start.after turns k).clients i = (start.after turns n).clients i := by
  obtain ⟨k, hk, hturn⟩ := hfair n
  obtain ⟨gap, rfl⟩ := Nat.exists_eq_add_of_le hk
  clear hk
  induction gap generalizing n with
  | zero => exact ⟨n, Nat.le_refl n, hturn, rfl⟩
  | succ gap ih =>
      by_cases hnow : (turns n).1 = i
      · exact ⟨n, Nat.le_refl n, hnow, rfl⟩
      · have hlater : (turns (n + 1 + gap)).1 = i := by
          rwa [show n + (gap + 1) = n + 1 + gap by omega] at hturn
        obtain ⟨k, hk, hkturn, hsame⟩ := ih (n + 1) hlater
        refine ⟨k, Nat.le_of_succ_le hk, hkturn, hsame.trans ?_⟩
        exact clients_step_of_ne (Ne.symm hnow)

/-- A client takes another step. -/
theorem exists_step (start : System ι) (n : Nat) : ∃ k, ∃ primary replica,
    (start.after turns k).clients i =
      (((start.after turns n).clients i).step primary replica).1 := by
  obtain ⟨k, -, rfl, hsame⟩ := exists_turn hfair start n
  refine ⟨k + 1, (start.after turns k).primary, (turns k).2, ?_⟩
  rw [after_succ, clients_step_self, hsame]

/-- The first phase of a client comes to its end. -/
theorem exists_acquired {n : Nat} {rest : Dialog Batch}
    (hstage : ((start.after turns n).clients i).stage = .acquiring rest) :
    ∃ m, (∃ failure, ((start.after turns m).clients i).stage = .acquiring (.fail failure)) ∨
      ∃ batch rest, ((start.after turns m).clients i).stage = .finalizing batch rest := by
  induction rest generalizing n with
  | done batch =>
      obtain ⟨k, primary, replica, hclient⟩ := exists_step hfair start n
      refine ⟨k, Or.inr ⟨batch, ((start.after turns n).clients i).task.finalize batch, ?_⟩⟩
      rw [hclient, Client.step, hstage]
  | fail failure => exact ⟨n, Or.inl ⟨failure, hstage⟩⟩
  | note event rest ih =>
      obtain ⟨k, primary, replica, hclient⟩ := exists_step hfair start n
      rw [Client.step, hstage] at hclient
      exact ih (congrArg Client.stage hclient)
  | ask r rest ih =>
      obtain ⟨k, primary, replica, hclient⟩ := exists_step hfair start n
      rw [Client.step, hstage] at hclient
      have hnext := congrArg Client.stage hclient
      simp only [Dialog.next] at hnext
      rcases hresult : Databases.reply r ⟨primary, replica,
        ((start.after turns n).clients i).kindIds⟩ with ⟨outcome, after⟩
      rw [hresult] at hnext
      cases outcome with
      | ok reply => exact ih reply hnext
      | error failure => exact ⟨k, Or.inl ⟨failure, hnext⟩⟩

variable (hready : start.Ready) (hlagging : start.Lagging turns)

include hready hlagging

/-- The second phase of a client comes to its end. -/
theorem exists_finalized {n : Nat} {batch : Batch} {rest : Dialog (List Int)}
    (hstage : ((start.after turns n).clients i).stage = .finalizing batch rest) :
    ∃ m, ((start.after turns m).clients i).stage = .finalizing batch (.done batch.ids) := by
  have hassures : ∀ {n : Nat} {rest : Dialog (List Int)},
      ((start.after turns n).clients i).stage = .finalizing batch rest →
      ∃ databases, rest.Assures (fun _ => False) (fun ids _ _ => ids = batch.ids) [] databases := by
    intro n rest hstage
    have hfine := (fine_after hready hlagging n).2 i
    unfold Client.Fine at hfine
    rw [hstage] at hfine
    exact ⟨_, hfine.2.2.2⟩
  have hstep : ∀ {n : Nat} {rest : Dialog (List Int)},
      ((start.after turns n).clients i).stage = .finalizing batch rest →
      ∃ k databases, ((start.after turns k).clients i).stage =
        .finalizing batch (rest.next databases).1 := by
    intro n rest hstage
    obtain ⟨k, primary, replica, hclient⟩ := exists_step hfair start n
    refine ⟨k, ⟨primary, replica, ((start.after turns n).clients i).kindIds⟩, ?_⟩
    rw [hclient, Client.step, hstage]
  -- each turn of the client takes its dialog one step down, and no step can fail
  induction rest generalizing n with
  | done ids =>
      obtain ⟨databases, hids⟩ := hassures hstage
      obtain rfl : ids = batch.ids := hids
      exact ⟨n, hstage⟩
  | fail failure =>
      obtain ⟨databases, hfailed⟩ := hassures hstage
      exact hfailed.elim
  | note event rest ih =>
      obtain ⟨k, databases, hnext⟩ := hstep hstage
      exact ih hnext
  | ask r rest ih =>
      obtain ⟨k, databases, hnext⟩ := hstep hstage
      simp only [Dialog.next] at hnext
      rcases hresult : Databases.reply r databases with ⟨outcome, after⟩
      rw [hresult] at hnext
      cases outcome with
      | ok reply => exact ih reply hnext
      | error failure =>
          obtain ⟨databases, hfailed⟩ := hassures hnext
          exact hfailed.elim

end Turns

end System

/-! ### The agreement -/

/-- Clients work on one primary, in any order of steps and with a replica that may lag behind. At no
time has a record two rows. No client runs out of attempts or inserts into a table twice, and in
the second phase none fails or inserts at all; what it then returns are the ids of its batch, which
are of its document's terms. Among all clients, and over time, two ids are equal exactly when the
terms are. A client that gets its turns comes to its end. -/
theorem clients_agree {ι : Type} [DecidableEq ι] {start : System ι}
    {turns : Nat → ι × Option Database} (hready : start.Ready) (hlagging : start.Lagging turns) :
    (∀ n, ∀ spec ∈ TableSpec.all, ∀ record id id',
      (start.after turns n).primary.Has spec id record →
      (start.after turns n).primary.Has spec id' record → id = id') ∧
    (∀ n i failure, ((start.after turns n).clients i).stage = .acquiring (.fail failure) →
      failure.NotExhausted) ∧
    (∀ n i, ((start.after turns n).clients i).inserted.Nodup) ∧
    (∀ n i batch rest, ((start.after turns n).clients i).stage = .finalizing batch rest →
      ((start.after turns n).clients i).inserted = [] ∧
      (∀ failure, rest ≠ .fail failure) ∧ (∀ ids, rest = .done ids → ids = batch.ids) ∧
      batch.map AcquiredTerm.term = (start.clients i).task.document.truncatedTerms
        (start.clients i).task.limits.textBytes) ∧
    (∀ n m i j, ∀ a ∈ ((start.after turns n).clients i).batch,
      ∀ b ∈ ((start.after turns m).clients j).batch, a.id = b.id ↔ a.Same b) ∧
    ∀ i, (∀ n, ∃ k ≥ n, (turns k).1 = i) → ∃ n,
      (∃ failure, ((start.after turns n).clients i).stage = .acquiring (.fail failure)) ∨
      ∃ batch, ((start.after turns n).clients i).stage = .finalizing batch (.done batch.ids) := by
  have hfine := System.fine_after hready hlagging
  refine ⟨fun n spec hspec record id id' => (hfine n).1.has_unique hspec, ?_,
    fun n i => (hfine n).inserted_nodup i, ?_, ?_, ?_⟩
  · intro n i failure hstage
    have hclient := (hfine n).2 i
    unfold Client.Fine at hclient
    rw [hstage] at hclient
    obtain ⟨-, allowed, -, hfailed⟩ := hclient
    exact hfailed
  · intro n i batch rest hstage
    have hclient := (hfine n).2 i
    unfold Client.Fine at hclient
    rw [hstage] at hclient
    obtain ⟨-, hinserted, hassured, hassures⟩ := hclient
    refine ⟨hinserted, ?_, ?_, ?_⟩
    · rintro failure rfl
      exact hassures
    · rintro ids rfl
      exact hassures
    · rw [← System.task_after i n]
      exact hassured.2
  · intro n m i j a ha b hb
    -- rows stay, so the ids of both times lead to their terms at the later one
    have hleadsA := ((hfine n).leads i a ha)
    have hleadsB := ((hfine m).leads j b hb)
    have hlateA := (System.grows_after hready hlagging (Nat.le_max_left n m)).leadsTo hleadsA
    have hlateB := (System.grows_after hready hlagging (Nat.le_max_right n m)).leadsTo hleadsB
    constructor
    · intro hid
      rw [hid] at hlateA
      exact hlateA.functional hlateB
    · rintro ⟨hkind, hlanguage, htext⟩
      rw [hkind, hlanguage, htext] at hlateA
      exact (hfine (max n m)).1.leadsTo_unique hlateA hlateB
  · intro i hfair
    obtain ⟨m, hfailed | ⟨batch, rest, hstage⟩⟩ :=
      System.exists_acquired hfair (n := 0) (hready.stage i)
    · exact ⟨m, Or.inl hfailed⟩
    · obtain ⟨m', hdone⟩ := System.exists_finalized hfair hready hlagging hstage
      exact ⟨m', Or.inr ⟨batch, hdone⟩⟩

/-- Two clients with one and the same label, about to begin on migrated tables. -/
def twoClients : System Bool where
  primary := Database.empty.migrate.database
  clients _ :=
    let task : Task := ⟨Document.empty.withLabel "en" "Berlin", .default, .inMemory, .replica⟩
    ⟨task, .none, .acquiring task.acquire, []⟩

/-- They take turns, with the primary as its own replica. -/
def takingTurns (n : Nat) : Bool × Option Database := (n % 2 == 0, none)

theorem two_clients_agree :
    (∀ first, ((twoClients.after takingTurns 60).clients first).batch =
      [⟨⟨.label, "en", "Berlin"⟩, 1, 1⟩]) ∧
    (∀ i, ∃ n,
      (∃ failure, ((twoClients.after takingTurns n).clients i).stage =
        .acquiring (.fail failure)) ∨
      ∃ batch, ((twoClients.after takingTurns n).clients i).stage =
        .finalizing batch (.done batch.ids)) ∧
    ∀ n m i j, ∀ a ∈ ((twoClients.after takingTurns n).clients i).batch,
      ∀ b ∈ ((twoClients.after takingTurns m).clients j).batch, a.id = b.id ↔ a.Same b := by
  have hready : twoClients.Ready := by
    unfold twoClients
    rw [Database.migrate_empty]
    exact ⟨Database.fresh_migrated.sound, fun _ => .inMemory, fun _ => rfl, fun _ => rfl⟩
  have hlagging : twoClients.Lagging takingTurns := fun _ _ hmem => (nomatch hmem)
  obtain ⟨-, -, -, -, hagree, hends⟩ := clients_agree hready hlagging
  refine ⟨?_, fun i => hends i fun n => ?_, hagree⟩
  · unfold twoClients
    rw [Database.migrate_empty]
    decide +kernel
  cases i with
  | false => exact ⟨2 * n + 1, by omega, by simp [takingTurns]⟩
  | true => exact ⟨2 * n, by omega, by simp [takingTurns]⟩

end TermStore
