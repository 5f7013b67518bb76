import TermStore.Proofs.Requests

/-!
# What a search asks, whatever it is told

A store that others work on may answer as it likes: rows come and vanish between two calls, and a
reply may tell of records that nobody has asked for. `Handler.recording` takes down what is asked of
a store and what it replies. From this transcript alone it can be said what the search for the ids
of some records asks next: always for the distinct records that no reply has told of so far
(`outstanding`), first the replica, and then in turn the primary to find them and to insert them.
`Transcript` puts that together with the end of the search. The invariant of the loop ties its
state, the records still needed and the ids found, to the transcript (`Tracks`).
-/

namespace TermStore

open Storage (TableSpec Record RecordIds)

variable {World : Type}

/-! ### Transcripts -/

/-- A request with what came of it. -/
structure Exchange where
  request : Request
  reply : Except Failure (Reply request)

/-- The ids that a reply tells of. -/
def Exchange.found : Exchange → RecordIds
  | ⟨.find _ _ _, .ok ids⟩ => ids
  | _ => .empty

/-- Answers as another handler does, and takes each exchange down. -/
def Handler.recording (handler : Handler World) : Handler (World × List Exchange) where
  reply r state :=
    ((handler.reply r state.1).1,
      ((handler.reply r state.1).2, state.2 ++ [⟨r, (handler.reply r state.1).1⟩]))
  note event state := (handler.note event state.1, state.2)

/-- The requests that are made in a search for ids. -/
def Request.Seeks : Request → Prop
  | .find _ _ _ => True
  | .insert _ _ _ => True
  | _ => False

/-- Look-ups of records and inserts never fail, whatever the replies are. -/
def Handler.Answers (handler : Handler World) : Prop :=
  ∀ r, r.Seeks → ∀ world, ∃ reply after, handler.reply r world = (.ok reply, after)

/-- Taking down what is said does not change it. -/
theorem Handler.run_recording {α : Type} (handler : Handler World) (d : Dialog α) (world : World)
    (earlier : List Exchange) :
    ∃ later, d.run handler.recording (world, earlier) =
      ((d.run handler world).1, ((d.run handler world).2, earlier ++ later)) := by
  induction d generalizing world earlier with
  | done => exact ⟨[], by rw [List.append_nil]; rfl⟩
  | fail => exact ⟨[], by rw [List.append_nil]; rfl⟩
  | note event rest ih => exact ih (handler.note event world) earlier
  | ask r rest ih =>
      cases hreply : handler.reply r world with
      | mk outcome after =>
          cases outcome with
          | ok reply =>
              obtain ⟨later, hlater⟩ := ih reply after (earlier ++ [⟨r, .ok reply⟩])
              refine ⟨⟨r, .ok reply⟩ :: later, ?_⟩
              rw [List.append_cons]
              simp only [Dialog.run, recording, hreply]
              exact hlater
          | error failure =>
              exact ⟨[⟨r, .error failure⟩], by simp only [Dialog.run, recording, hreply]⟩

/-- What a request that is answered adds to the transcript. -/
theorem Handler.Answers.run_bind {handler : Handler World} (h : handler.Answers) {r : Request}
    (hr : r.Seeks) (world : World) (history : List Exchange) :
    ∃ reply after, ∀ {α : Type} (next : Reply r → Dialog α),
      ((Dialog.request r).bind next).run handler.recording (world, history) =
        (next reply).run handler.recording (after, history ++ [⟨r, .ok reply⟩]) := by
  obtain ⟨reply, after, hreply⟩ := h r hr world
  refine ⟨reply, after, fun next => ?_⟩
  simp only [Dialog.request, Dialog.ask_bind, Dialog.run, recording, hreply]
  rfl

theorem Handler.run_note_recording {α : Type} (handler : Handler World) (event : Event)
    (d : Dialog α) (world : World) (history : List Exchange) :
    (Dialog.note event d).run handler.recording (world, history) =
      d.run handler.recording (handler.note event world, history) := rfl

/-- The id of a record in the last reply that tells of it. -/
def latest (history : List Exchange) (record : Record) : Option Int :=
  (history.filterMap fun exchange => exchange.found.get? record).getLast?

/-- The distinct records that no reply tells of, in the order of their first occurrence. -/
def outstanding (records : List Record) (history : List Exchange) : List Record :=
  records.eraseDups.filter fun record => (latest history record).isNone

theorem latest_append_singleton (history : List Exchange) (exchange : Exchange) (record : Record) :
    latest (history ++ [exchange]) record =
      (exchange.found.get? record).or (latest history record) := by
  unfold latest
  rw [List.filterMap_append, List.getLast?_append]
  cases hfound : exchange.found.get? record with
  | none => simp [hfound]
  | some id => simp [hfound]

theorem latest_eq_none_iff {history : List Exchange} {record : Record} :
    latest history record = none ↔ ∀ exchange ∈ history, exchange.found.get? record = none := by
  simp [latest]

@[simp] theorem outstanding_nil (records : List Record) :
    outstanding records [] = records.eraseDups :=
  List.filter_eq_self.2 fun _ _ => rfl

theorem mem_outstanding_iff {records : List Record} {history : List Exchange} {record : Record} :
    record ∈ outstanding records history ↔
      record ∈ records ∧ ∀ exchange ∈ history, exchange.found.get? record = none := by
  unfold outstanding
  rw [List.mem_filter, List.mem_eraseDups, Option.isNone_iff_eq_none, latest_eq_none_iff]

namespace Acquisition

/-! ### Whose turn it is -/

section Turns

variable (read write : Side) (spec : TableSpec) (records : List Record)

/-- The request that comes after some exchanges. -/
def turn (earlier : List Exchange) : Request :=
  if earlier.length = 0 then .find read spec (outstanding records earlier)
  else if earlier.length % 2 = 1 then .find write spec (outstanding records earlier)
  else .insert write spec (outstanding records earlier)

/-- Each request is the one whose turn it is, and none is made for no records. -/
def InTurn (history : List Exchange) : Prop :=
  ∀ earlier exchange later, history = earlier ++ exchange :: later →
    exchange.request = turn read write spec records earlier ∧ outstanding records earlier ≠ []

/-- What is asked in a search for the ids of some records that makes a number of inserts at most,
and what comes of it. -/
structure Transcript (attempts : Nat) (history : List Exchange)
    (outcome : Except Failure (List (Record × Int))) : Prop where
  /-- Reads and inserts alternate, and each is for the records that are still outstanding. -/
  inTurn : InTurn read write spec records history
  /-- Without records nothing is asked. -/
  nothing : records = [] → history = []
  /-- If the replica has all records, nothing else is asked. -/
  replica : records ≠ [] → outstanding records (history.take 1) = [] → history.length = 1
  /-- Otherwise there is one more look at the primary than there are inserts. -/
  primary : records ≠ [] → outstanding records (history.take 1) ≠ [] →
    ∃ inserts ≤ attempts, history.length = 1 + (inserts + (inserts + 1))
  /-- There is one id for each record, in order. -/
  found : outstanding records history = [] → ∃ ids, outcome = .ok ids ∧
    List.Forall₂ (fun record entry => entry.1 = record ∧ latest history record = some entry.2)
      records ids
  /-- A search ends without an id for each record only if it has made all its inserts. -/
  exhausted : outstanding records history ≠ [] →
    history.length = 1 + (attempts + (attempts + 1)) ∧
    outcome = .error (.exhausted spec.name (outstanding records history).length attempts)

variable {read write spec records} {history : List Exchange} {exchange : Exchange}

theorem inTurn_nil : InTurn read write spec records [] := fun _ _ _ h => by simp at h

theorem InTurn.append_singleton (h : InTurn read write spec records history)
    (hrequest : exchange.request = turn read write spec records history)
    (hnonempty : outstanding records history ≠ []) :
    InTurn read write spec records (history ++ [exchange]) := by
  intro earlier other later hsplit
  rcases List.eq_nil_or_concat later with rfl | ⟨rest, last, rfl⟩
  · obtain ⟨rfl, hother⟩ := List.append_inj' hsplit rfl
    cases hother
    exact ⟨hrequest, hnonempty⟩
  · rw [List.concat_eq_append, ← List.cons_append, ← List.append_assoc] at hsplit
    obtain ⟨hhistory, -⟩ := List.append_inj' hsplit rfl
    exact h earlier other rest hhistory

end Turns

/-! ### The loop on the primary -/

section Loop

variable {read write : Side} {spec : TableSpec} {records : List Record} {history : List Exchange}
  {needed : List Record} {found : RecordIds}

/-- The state of a search is what its transcript tells, and all requests were in turn. -/
structure Tracks (read write : Side) (spec : TableSpec) (records : List Record)
    (history : List Exchange) (needed : List Record) (found : RecordIds) : Prop where
  inTurn : InTurn read write spec records history
  needed : needed = outstanding records history
  found : ∀ record, found.get? record = latest history record

/-- What a look-up has replied is no longer needed. -/
theorem missing_outstanding (exchange : Exchange) :
    missing (outstanding records history) exchange.found =
      outstanding records (history ++ [exchange]) := by
  unfold missing outstanding
  rw [List.filter_filter]
  refine List.filter_congr fun record _ => ?_
  rw [latest_append_singleton]
  unfold SortedMap.contains
  cases exchange.found.get? record with
  | none => simp
  | some id => simp

/-- The reply of the primary is added to what was found before, and wins over it. -/
theorem Tracks.find (h : Tracks read write spec records history needed found) {made : Nat}
    (hlength : history.length = 1 + 2 * made) (hneeded : needed ≠ []) (present : RecordIds) :
    Tracks read write spec records (history ++ [⟨.find write spec needed, .ok present⟩])
      (missing needed present) (found.union present) where
  inTurn := by
    refine h.inTurn.append_singleton ?_ (h.needed ▸ hneeded)
    unfold turn
    rw [if_neg (by omega), if_pos (by omega), h.needed]
  needed := by
    rw [h.needed]
    exact missing_outstanding ⟨.find write spec _, .ok present⟩
  found record := by
    rw [latest_append_singleton, SortedMap.get?_union, h.found]
    rfl

/-- The reply to an insert tells of no ids. -/
theorem Tracks.insert (h : Tracks read write spec records history needed found) {made : Nat}
    (hlength : history.length = 1 + (made + (made + 1))) (hneeded : needed ≠ [])
    (added : Nat) :
    Tracks read write spec records (history ++ [⟨.insert write spec needed, .ok added⟩])
      needed found where
  inTurn := by
    refine h.inTurn.append_singleton ?_ (h.needed ▸ hneeded)
    unfold turn
    rw [if_neg (by omega), if_neg (by omega), h.needed]
  needed := by
    rw [← missing_outstanding, ← h.needed]
    exact (List.filter_eq_self.2 fun _ _ => rfl).symm
  found record := by
    rw [latest_append_singleton, h.found]
    rfl

/-- The end of the loop on the primary that has made some inserts before and has some left. -/
structure Ends (read write : Side) (spec : TableSpec) (records : List Record) (made left : Nat)
    (before history : List Exchange) (outcome : Except Failure RecordIds) : Prop where
  inTurn : InTurn read write spec records history
  settled : outstanding records before = [] → history = before
  inserts : outstanding records before ≠ [] →
    ∃ inserts, made ≤ inserts ∧ inserts ≤ made + left ∧
      history.length = 1 + (inserts + (inserts + 1))
  found : outstanding records history = [] →
    ∃ ids, outcome = .ok ids ∧ ∀ record, ids.get? record = latest history record
  exhausted : outstanding records history ≠ [] →
    history.length = 1 + (made + left + (made + left + 1)) ∧
    outcome = .error (.exhausted spec.name (outstanding records history).length (made + left))

/-- The dialog of one turn of the loop. -/
theorem seekOnPrimary_eq (hneeded : needed ≠ []) (left made : Nat) :
    seekOnPrimary write spec left made needed found =
      (Dialog.request (.find write spec needed)).bind fun present =>
        .note (.primaryRead spec.name (SortedMap.entries present).length
          (missing needed present).length)
          (if (missing needed present).isEmpty then .done (found.union present)
          else
            match left with
            | 0 => .fail (.exhausted spec.name (missing needed present).length made)
            | left + 1 =>
              (Dialog.request (.insert write spec (missing needed present))).bind fun added =>
                .note (.inserted spec.name added (missing needed present).length (made + 1))
                  (seekOnPrimary write spec left (made + 1) (missing needed present)
                    (found.union present))) := by
  have hempty : ¬ needed.isEmpty = true := by simpa using hneeded
  cases left <;>
  · conv_lhs => unfold seekOnPrimary
    rw [if_neg hempty]
    rfl

/-- On the primary the loop goes on in turn until nothing is outstanding, or no insert is left. Each
turn of it adds a look-up to the transcript, and an insert if it goes on with one insert less. -/
theorem ends_seekOnPrimary {handler : Handler World} (hanswers : handler.Answers)
    (left made : Nat) (world : World) {history : List Exchange} {needed : List Record}
    {found : RecordIds} (hlength : history.length = 1 + 2 * made)
    (htracks : Tracks read write spec records history needed found) :
    ∃ outcome after later, (seekOnPrimary write spec left made needed found).run handler.recording
        (world, history) = (outcome, (after, later)) ∧
      Ends read write spec records made left history later outcome := by
  by_cases hneeded : needed = []
  · have hsettled : outstanding records history = [] := htracks.needed.symm.trans hneeded
    refine ⟨.ok found, world, history, ?_, htracks.inTurn, fun _ => rfl, fun h => absurd hsettled h,
      fun _ => ⟨found, rfl, htracks.found⟩, fun h => absurd hsettled h⟩
    rw [hneeded]
    unfold seekOnPrimary
    rfl
  have hbefore : outstanding records history ≠ [] := htracks.needed ▸ hneeded
  obtain ⟨present, world', hfind⟩ :=
    hanswers.run_bind (r := .find write spec needed) trivial world history
  have hlooked := htracks.find hlength hneeded present
  have hlength' : (history ++ [(⟨.find write spec needed, .ok present⟩ : Exchange)]).length =
      1 + (made + (made + 1)) := by
    rw [List.length_append, hlength, List.length_singleton]
    omega
  rw [seekOnPrimary_eq hneeded, hfind]
  generalize history ++ [⟨.find write spec needed, .ok present⟩] = looked at *
  by_cases hmissing : missing needed present = []
  · have hsettled : outstanding records looked = [] := hlooked.needed.symm.trans hmissing
    rw [hmissing]
    exact ⟨.ok (found.union present), _, looked, rfl, hlooked.inTurn, fun h => absurd h hbefore,
      fun _ => ⟨made, Nat.le_refl _, Nat.le_add_right made left, hlength'⟩,
      fun _ => ⟨_, rfl, hlooked.found⟩, fun h => absurd hsettled h⟩
  have houtstanding : outstanding records looked ≠ [] := hlooked.needed ▸ hmissing
  have hempty : ¬ (missing needed present).isEmpty = true := by simpa using hmissing
  rw [Handler.run_note_recording, if_neg hempty]
  generalize handler.note _ world' = world'
  cases left with
  | zero =>
      refine ⟨_, _, looked, rfl, hlooked.inTurn, fun h => absurd h hbefore,
        fun _ => ⟨made, Nat.le_refl _, Nat.le_refl _, hlength'⟩, fun h => absurd h houtstanding,
        fun _ => ⟨hlength', ?_⟩⟩
      rw [← hlooked.needed]
      rfl
  | succ left =>
      obtain ⟨added, world'', hinsert⟩ :=
        hanswers.run_bind (r := .insert write spec (missing needed present)) trivial world' looked
      have hinserted := hlooked.insert hlength' hmissing added
      have hlength'' : (looked ++ [(⟨.insert write spec (missing needed present), .ok added⟩ :
          Exchange)]).length = 1 + 2 * (made + 1) := by
        rw [List.length_append, hlength', List.length_singleton]
        omega
      simp only [hinsert, Handler.run_note_recording]
      obtain ⟨outcome, after, later, hrun, hends⟩ := ends_seekOnPrimary hanswers left (made + 1)
        (handler.note (.inserted spec.name added (missing needed present).length (made + 1))
          world'') hlength'' hinserted
      have hsame : made + 1 + left = made + (left + 1) := by omega
      rw [hinserted.needed] at hmissing
      obtain ⟨inserts, hfrom, hto, hcount⟩ := hends.inserts hmissing
      exact ⟨outcome, after, later, hrun, hends.inTurn, fun h => absurd h hbefore,
        fun _ => ⟨inserts, by omega, by omega, hcount⟩, hends.found, hsame ▸ hends.exhausted⟩

end Loop

/-! ### Whole searches -/

section Whole

variable {read write : Side} {spec : TableSpec} {records : List Record}

/-- The search for the ids of some records, after the look at the replica. -/
theorem acquireIds_replicaFirst (hrecords : records ≠ []) (attempts : Nat) :
    acquireIds ((Seeker.replicaFirst read write).withAttempts attempts) spec records =
      (Dialog.request (.find read spec records.eraseDups)).bind fun found =>
        .note (.replicaRead spec.name records.eraseDups.length (SortedMap.entries found).length)
          ((seekOnPrimary write spec (max 1 attempts) 0 (missing records.eraseDups found)
            found).bind fun found => .ofExcept (assemble spec found records)) := by
  have hempty : ¬ records.eraseDups.isEmpty = true :=
    fun h => hrecords (eq_nil_of_isEmpty_eraseDups h)
  unfold acquireIds
  show ite _ _ _ = _
  rw [if_neg hempty]
  rfl

/-- For no records nothing is asked. -/
theorem transcript_nil (attempts : Nat) :
    Transcript read write spec [] attempts [] (.ok []) where
  inTurn := inTurn_nil
  nothing _ := rfl
  replica h := absurd rfl h
  primary h := absurd rfl h
  found _ := ⟨[], rfl, .nil⟩
  exhausted h := absurd rfl h

/-- The look at the replica comes first. -/
theorem tracks_replica (hrecords : records ≠ []) (found : RecordIds) :
    Tracks read write spec records [⟨.find read spec records.eraseDups, .ok found⟩]
      (missing records.eraseDups found) found where
  inTurn := by
    refine inTurn_nil.append_singleton (by rw [turn, outstanding_nil]; rfl) ?_
    rw [outstanding_nil]
    exact fun h => hrecords (eq_nil_of_isEmpty_eraseDups (List.isEmpty_iff.2 h))
  needed := by
    rw [← outstanding_nil records]
    exact missing_outstanding ⟨.find read spec _, .ok found⟩
  found record := by
    show _ = latest ([] ++ [_]) record
    rw [latest_append_singleton]
    exact (Option.or_none).symm

/-- What the loop on the primary tells of the whole search. -/
theorem Ends.transcript {attempts : Nat} {first : Exchange} {rest : List Exchange}
    {outcome : Except Failure RecordIds}
    (h : Ends read write spec records 0 attempts [first] (first :: rest) outcome)
    (hrecords : records ≠ []) :
    Transcript read write spec records attempts (first :: rest)
      (outcome.bind fun found => assemble spec found records) where
  inTurn := h.inTurn
  nothing hnil := absurd hnil hrecords
  replica _ hsettled := by
    rw [h.settled hsettled]
    rfl
  primary _ houtstanding := by
    obtain ⟨inserts, -, hmost, hlength⟩ := h.inserts houtstanding
    exact ⟨inserts, by omega, hlength⟩
  found hsettled := by
    obtain ⟨found, rfl, hfound⟩ := h.found hsettled
    -- a record without an id would be outstanding
    have hall : ∀ record ∈ records, ∃ id, found.get? record = some id := by
      intro record hrecord
      rw [hfound, ← Option.isSome_iff_exists, Option.isSome_iff_ne_none]
      intro hnone
      have hmem := mem_outstanding_iff.2 ⟨hrecord, latest_eq_none_iff.1 hnone⟩
      rw [hsettled] at hmem
      cases hmem
    obtain ⟨ids, hids, hforall⟩ := exists_assemble spec hall
    exact ⟨ids, hids, hforall.imp fun record entry hentry => hfound record ▸ hentry⟩
  exhausted houtstanding := by
    obtain ⟨hlength, houtcome⟩ := h.exhausted houtstanding
    rw [Nat.zero_add] at hlength houtcome
    rw [houtcome]
    exact ⟨hlength, rfl⟩

/-- With stores that answer each request, in whatever way, the search for the ids of some records
asks for what is outstanding, in turn, and ends as its transcript tells. -/
theorem transcript_acquireIds {handler : Handler World} (hanswers : handler.Answers)
    (read write : Side) (attempts : Nat) (spec : TableSpec) (records : List Record)
    (world : World) :
    ∃ outcome after history,
      (acquireIds ((Seeker.replicaFirst read write).withAttempts attempts) spec records).run
        handler world = (outcome, after) ∧
      (acquireIds ((Seeker.replicaFirst read write).withAttempts attempts) spec records).run
        handler.recording (world, []) = (outcome, (after, history)) ∧
      Transcript read write spec records (max 1 attempts) history outcome := by
  suffices h : ∃ outcome after history,
      (acquireIds ((Seeker.replicaFirst read write).withAttempts attempts) spec records).run
        handler.recording (world, []) = (outcome, (after, history)) ∧
      Transcript read write spec records (max 1 attempts) history outcome by
    obtain ⟨outcome, after, history, hrun, htranscript⟩ := h
    obtain ⟨later, hsame⟩ := handler.run_recording
      (acquireIds ((Seeker.replicaFirst read write).withAttempts attempts) spec records) world []
    rw [hrun] at hsame
    simp only [Prod.mk.injEq] at hsame
    exact ⟨outcome, after, history, Prod.ext hsame.1.symm hsame.2.1.symm, hrun, htranscript⟩
  by_cases hrecords : records = []
  · subst hrecords
    exact ⟨.ok [], world, [], rfl, transcript_nil _⟩
  obtain ⟨found, world', hfind⟩ :=
    hanswers.run_bind (r := .find read spec records.eraseDups) trivial world []
  have htracks : Tracks read write spec records _ _ found := tracks_replica hrecords found
  rw [acquireIds_replicaFirst hrecords, hfind, Handler.run_note_recording, Dialog.run_bind,
    List.nil_append]
  generalize handler.note _ world' = world'
  obtain ⟨outcome, after, later, hseek, hends⟩ :=
    ends_seekOnPrimary hanswers (max 1 attempts) 0 world' rfl htracks
  obtain ⟨rest, hrest⟩ := handler.run_recording (seekOnPrimary write spec (max 1 attempts) 0
    (missing records.eraseDups found) found) world' [⟨.find read spec records.eraseDups, .ok found⟩]
  obtain rfl : later = _ :: rest := congrArg (fun result => result.2.2) (hseek.symm.trans hrest)
  refine ⟨outcome.bind fun found => assemble spec found records, after, _, ?_,
    hends.transcript hrecords⟩
  rw [hseek]
  cases outcome with
  | error failure => rfl
  | ok found =>
      show (Dialog.ofExcept (assemble spec found records)).run _ _ =
        (assemble spec found records, _)
      cases assemble spec found records <;> rfl

/-- A store that tells of no rows for some time, and after that of one row for all records. -/
def sluggish (silent : Nat) : Handler Nat where
  reply
    | .find _ _ records, count =>
      (.ok (if count < silent then .empty else .ofList (records.map fun record => (record, count))),
        count + 1)
    | .findIds _ _ _, count => (.ok .empty, count + 1)
    | .insert _ _ records, count => (.ok records.length, count + 1)
    | .chains _ _, count => (.ok .empty, count + 1)
    | .callerSection _, count => (.ok (), count)
    | .known, count => (.ok ⟨none, none, none⟩, count)
    | .remember _, count => (.ok (), count)
  note _ count := count

theorem answers_sluggish (silent : Nat) : (sluggish silent).Answers := by
  intro r hr count
  cases r with
  | find => exact ⟨_, _, rfl⟩
  | insert => exact ⟨_, _, rfl⟩
  | _ => exact hr.elim

/-- Two distinct texts, one of them twice. -/
def twoTexts : List Record := [[.text "Berlin"], [.text "Hamburg"], [.text "Berlin"]]

/-- The third look at the primary, after two inserts, tells of both texts; with one insert fewer
the search gives up. -/
theorem transcript_sluggish :
    (sluggish 4).Answers ∧
    ((acquireIds ((Seeker.replicaFirst .replica .primary).withAttempts 2) .texts twoTexts).run
        (sluggish 4) 0).1 =
      .ok [([.text "Berlin"], 5), ([.text "Hamburg"], 5), ([.text "Berlin"], 5)] ∧
    ∃ after history,
      (acquireIds ((Seeker.replicaFirst .replica .primary).withAttempts 1) .texts twoTexts).run
        (sluggish 4).recording (0, []) =
          (.error (.exhausted "wbt_text" 2 1), (after, history)) ∧
      Transcript .replica .primary .texts twoTexts 1 history
        (.error (.exhausted "wbt_text" 2 1)) := by
  refine ⟨answers_sluggish 4, by decide +kernel, ?_⟩
  obtain ⟨outcome, after, history, hrun, hrecorded, htranscript⟩ :=
    transcript_acquireIds (answers_sluggish 4) .replica .primary 1 .texts twoTexts 0
  obtain rfl : outcome = .error (.exhausted "wbt_text" 2 1) :=
    (congrArg Prod.fst hrun).symm.trans (by decide +kernel)
  exact ⟨after, history, hrecorded, htranscript⟩

end Whole

end Acquisition

end TermStore
