import TermStore.Failure
import TermStore.Event
import TermStore.Storage.Chain
import TermStore.Storage.Migration

/-!
# Dialogs with the stores

The work on terms is a conversation: it asks the stores for something, sees the reply, and goes
on. A `Dialog` is such a conversation as a value, so that one and the same text of it can be
carried on with a database, with a store that answers as it likes, or step by step beside others.
It ends with a result or with a failure; a request that fails ends it as well.

`Dialog.run` carries a dialog on with a `Handler`, which says for each request what the reply is
and how the world changes.
-/

namespace TermStore

open Storage (TableSpec Record RecordIds)
open Storage.Database (Chain)

/-- The two stores: a replica that is only read, and the primary. -/
inductive Side
  | replica
  | primary
  deriving DecidableEq, Repr

/-- The name of a store. -/
def Side.name : Side → String
  | .replica => "replica"
  | .primary => "primary"

/-- The ids that are known for the kinds of term. -/
structure KindIds where
  label : Option Int
  description : Option Int
  aliases : Option Int
  deriving DecidableEq, Repr

/-- What a dialog can ask for. -/
inductive Request
  /-- The ids of those records that have a row. -/
  | find (side : Side) (spec : TableSpec) (records : List Record)
  /-- The records of those ids that have a row. -/
  | findIds (side : Side) (spec : TableSpec) (ids : List Int)
  /-- To insert the records that have no row; the reply counts them. -/
  | insert (side : Side) (spec : TableSpec) (records : List Record)
  /-- The terms of those ids whose three rows are there. -/
  | chains (side : Side) (ids : List Int)
  /-- To let the caller write its references to the ids. -/
  | callerSection (ids : List Int)
  /-- The kinds' ids known so far. -/
  | known
  /-- To keep the kinds' ids. -/
  | remember (ids : KindIds)
  deriving DecidableEq

/-- The type of the reply to a request. -/
def Reply : Request → Type
  | .find .. => RecordIds
  | .findIds .. => SortedMap Int Record
  | .insert .. => Nat
  | .chains .. => SortedMap Int Chain
  | .callerSection .. => Unit
  | .known => KindIds
  | .remember .. => Unit

/-- A conversation with the stores. -/
inductive Dialog (α : Type) : Type
  | done (result : α)
  | fail (failure : Failure)
  | note (event : Event) (next : Dialog α)
  | ask (request : Request) (next : Reply request → Dialog α)

namespace Dialog

/-- Goes on with another dialog after the result of a first one. -/
def bind {α β : Type} : Dialog α → (α → Dialog β) → Dialog β
  | done result, next => next result
  | fail failure, _ => fail failure
  | note event rest, next => note event (rest.bind next)
  | ask request rest, next => ask request fun reply => (rest reply).bind next

instance : Monad Dialog where
  pure := done
  bind := bind

/-- A dialog of one request. -/
def request (r : Request) : Dialog (Reply r) := ask r done

/-- A dialog that only tells an event. -/
def tell (event : Event) : Dialog Unit := note event (done ())

/-- A dialog that asks nothing and has a known outcome. -/
def ofExcept {α : Type} : Except Failure α → Dialog α
  | .ok result => done result
  | .error failure => fail failure

/-- The ids of those records that have a row on a store. -/
def find (side : Side) (spec : TableSpec) (records : List Record) : Dialog RecordIds :=
  request (.find side spec records)

/-- The records of those ids that have a row on a store. -/
def findIds (side : Side) (spec : TableSpec) (ids : List Int) : Dialog (SortedMap Int Record) :=
  request (.findIds side spec ids)

/-- Inserts the records that have no row on a store, and counts them. -/
def insert (side : Side) (spec : TableSpec) (records : List Record) : Dialog Nat :=
  request (.insert side spec records)

/-- The terms of those ids whose three rows are on a store. -/
def chains (side : Side) (ids : List Int) : Dialog (SortedMap Int Chain) :=
  request (.chains side ids)

/-- Lets the caller write its references to the ids. -/
def callerSection (ids : List Int) : Dialog Unit := request (.callerSection ids)

/-- The kinds' ids known so far. -/
def known : Dialog KindIds := request .known

/-- Keeps the kinds' ids. -/
def remember (ids : KindIds) : Dialog Unit := request (.remember ids)

@[simp] theorem pure_eq_done {α : Type} (result : α) : (pure result : Dialog α) = done result := rfl

@[simp] theorem bind_eq {α β : Type} (d : Dialog α) (next : α → Dialog β) :
    (d >>= next) = d.bind next := rfl

@[simp] theorem done_bind {α β : Type} (result : α) (next : α → Dialog β) :
    (done result).bind next = next result := rfl

@[simp] theorem fail_bind {α β : Type} (failure : Failure) (next : α → Dialog β) :
    (fail failure : Dialog α).bind next = fail failure := rfl

@[simp] theorem note_bind {α β : Type} (event : Event) (rest : Dialog α) (next : α → Dialog β) :
    (note event rest).bind next = note event (rest.bind next) := rfl

@[simp] theorem ask_bind {α β : Type} (r : Request) (rest : Reply r → Dialog α)
    (next : α → Dialog β) :
    (ask r rest).bind next = ask r fun reply => (rest reply).bind next := rfl

@[simp] theorem bind_done {α : Type} (d : Dialog α) : d.bind done = d := by
  induction d with
  | done => rfl
  | fail => rfl
  | note event rest ih => simp [bind, ih]
  | ask r rest ih => simp [bind, ih]

theorem bind_assoc {α β γ : Type} (d : Dialog α) (f : α → Dialog β) (g : β → Dialog γ) :
    (d.bind f).bind g = d.bind fun result => (f result).bind g := by
  induction d with
  | done => rfl
  | fail => rfl
  | note event rest ih => simp [bind, ih]
  | ask r rest ih => simp [bind, ih]

end Dialog

/-! ### Carrying dialogs on -/

/-- How a world answers: the reply to each request, and what telling an event does. -/
structure Handler (World : Type) where
  reply : (request : Request) → World → Except Failure (Reply request) × World
  note : Event → World → World

/-- Carries a dialog on to its end. -/
def Dialog.run {World α : Type} (handler : Handler World) :
    Dialog α → World → Except Failure α × World
  | .done result, world => (.ok result, world)
  | .fail failure, world => (.error failure, world)
  | .note event next, world => next.run handler (handler.note event world)
  | .ask request next, world =>
    match handler.reply request world with
    | (.ok reply, world) => (next reply).run handler world
    | (.error failure, world) => (.error failure, world)

/-- A dialog of one request ends with its reply. -/
theorem Dialog.run_request {World : Type} (handler : Handler World) (r : Request) (world : World) :
    (Dialog.request r).run handler world = handler.reply r world := by
  simp only [Dialog.request, Dialog.run]
  rcases handler.reply r world with ⟨outcome, after⟩
  cases outcome with
  | ok reply => rfl
  | error => rfl

/-- A dialog that follows another one starts in the world that the first one leaves. -/
theorem Dialog.run_bind {World α β : Type} (handler : Handler World) (d : Dialog α)
    (next : α → Dialog β) (world : World) :
    (d.bind next).run handler world =
      match d.run handler world with
      | (.ok result, world) => (next result).run handler world
      | (.error failure, world) => (.error failure, world) := by
  induction d generalizing world with
  | done => rfl
  | fail => rfl
  | note event rest ih => exact ih _
  | ask r rest ih =>
    simp only [Dialog.ask_bind, Dialog.run]
    rcases handler.reply r world with ⟨result, world⟩
    cases result with
    | ok reply => exact ih reply world
    | error => rfl

end TermStore
