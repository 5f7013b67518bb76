import TermStore.Session.Action

/-!
# Hooks on calls

A hook waits for calls on a store and does something around them: it carries actions out before
or after the call, makes the call fail, or keeps it from reaching the store. Every hook counts
the calls it waits for, also when it does not act on them.
-/

namespace TermStore.Session

/-- The calls that a hook can wait for. -/
inductive Call
  | find
  | findIds
  | insert
  deriving DecidableEq, Repr

/-- The name of a call in logs. -/
def Call.name : Call → String
  | .find => "find_records"
  | .findIds => "find_records_by_ids"
  | .insert => "insert"

/-- A hook. -/
structure Hook where
  side : Side
  call : Call
  /-- The table whose calls it waits for; every table, if there is none. -/
  table : Option String
  /-- Which of the calls it acts on, counted from one; all of them, if there is none. -/
  nth : Option Nat
  before : List Action
  after : List Action
  failure : Option Failure
  /-- Whether the call is kept from the store. -/
  pretends : Bool
  /-- The number of calls seen. -/
  seen : Nat

namespace Hook

/-- Does the hook wait for such a call? -/
def awaits (hook : Hook) (side : Side) (call : Call) (table : String) : Bool :=
  hook.side == side && hook.call == call && (hook.table.map (· == table)).getD true

/-- The hooks after a call. -/
def counted (hooks : List Hook) (side : Side) (call : Call) (table : String) : List Hook :=
  hooks.map fun hook =>
    if hook.awaits side call table then { hook with seen := hook.seen + 1 } else hook

/-- The hooks that act on a call, which they have counted already. -/
def acting (hooks : List Hook) (side : Side) (call : Call) (table : String) : List Hook :=
  hooks.filter fun hook =>
    hook.awaits side call table && (hook.nth.map (· == hook.seen)).getD true

/-- What the hooks do before a call: their actions, and the first failure. -/
def enter (stores : Stores) : List Hook → Except Failure Unit × Stores
  | [] => (.ok (), stores)
  | hook :: hooks =>
    match Action.performAll stores hook.before with
    | (.error fault, stores) => (.error (.storage fault), stores)
    | (.ok _, stores) =>
      match hook.failure with
      | some failure => (.error failure, stores)
      | none => enter stores hooks

/-- What the hooks do after a call. -/
def leave (stores : Stores) : List Hook → Except Failure Unit × Stores
  | [] => (.ok (), stores)
  | hook :: hooks =>
    match Action.performAll stores hook.after with
    | (.error fault, stores) => (.error (.storage fault), stores)
    | (.ok _, stores) => leave stores hooks

end Hook

end TermStore.Session
