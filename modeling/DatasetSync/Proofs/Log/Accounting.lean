import DatasetSync.Proofs.Log.Forwarding

/-!
# What becomes of every record

A sink may fail on any record it is handed.  Still no record goes astray: each one was dropped from
the queue of those held back, waits there, was turned away by a filter, or was handed to the sink.
The number of records forwarded is the number of times the sink agreed.
-/

namespace DatasetSync.Log

/-! ## What a sink answers -/

section Answers

variable {S : Type} [Sink S]

/-- What a sink answers when it is handed records in order. -/
def answers (sink : S) : List Record → List (Except Error Unit)
  | [] => []
  | record :: rest => (Sink.forward sink record).2 :: answers (Sink.forward sink record).1 rest

def successes (replies : List (Except Error Unit)) : Nat :=
  replies.countP Except.isOk

def failure? : Except Error Unit → Option Error
  | .ok _ => none
  | .error error => some error

def firstFailure (replies : List (Except Error Unit)) : Option Error :=
  replies.findSome? failure?

theorem answers_append (sink : S) (first second : List Record) :
    answers sink (first ++ second) =
      answers sink first ++ answers (Distributor.handAll sink first) second := by
  induction first generalizing sink with
  | nil => rfl
  | cons record rest ih => exact congrArg (_ :: ·) (ih _)

theorem length_answers (sink : S) (records : List Record) :
    (answers sink records).length = records.length := by
  induction records generalizing sink with
  | nil => rfl
  | cons record rest ih => exact congrArg (· + 1) (ih _)

theorem answers_watched (watched : Watched S) (records : List Record) :
    answers watched records = answers watched.inner records := by
  induction records generalizing watched with
  | nil => rfl
  | cons record rest ih => exact congrArg (_ :: ·) (ih _)

theorem successes_append (first second : List (Except Error Unit)) :
    successes (first ++ second) = successes first + successes second :=
  List.countP_append

/-- If nothing failed, everything succeeded. -/
theorem successes_of_no_failure {replies : List (Except Error Unit)}
    (none : firstFailure replies = .none) : successes replies = replies.length := by
  refine List.countP_eq_length.mpr fun reply inside => ?_
  have fine : failure? reply = .none := List.findSome?_eq_none_iff.mp none reply inside
  cases reply with
  | ok done => rfl
  | error error => cases fine

end Answers

namespace Distributor

variable {S : Type} [Sink S]

/-! ## Offering records -/

def echoes (filter : Filter) (records : List Record) : List Note :=
  if filter.echo then records.map Record.echo else []

theorem echoes_append (filter : Filter) (first second : List Record) :
    echoes filter (first ++ second) = echoes filter first ++ echoes filter second := by
  unfold echoes
  split
  · exact List.map_append
  · rfl

/-- The disposition of a record from the answers to handing it over, if it was handed over. -/
def disposition (replies : List (Except Error Unit)) : Except Error Disposition :=
  match replies with
  | [] => .ok .filtered
  | reply :: _ => reply.map fun _ => .forwarded

/-- What offering one record comes to, in terms of the calls that are made. -/
theorem offer_eq (distributor : Distributor) (sink : S) (filter : Filter) (record : Record) :
    let calls := [record].filter filter.passes
    distributor.offer sink filter record =
      ⟨({ distributor with
            forwarded := distributor.forwarded + successes (answers sink calls) },
          handAll sink calls, disposition (answers sink calls)),
        (echoes filter calls).map .note⟩ := by
  intro calls
  unfold offer
  by_cases passes : filter.passes record = true
  · have one : calls = [record] := List.filter_cons_of_pos passes
    rw [if_pos passes, one]
    have handed : distributor.forward sink record =
        ({ distributor with
            forwarded := distributor.forwarded + successes (answers sink [record]) },
          handAll sink [record], disposition (answers sink [record])) := by
      unfold forward handAll answers
      rcases given : Sink.forward sink record with ⟨after, error | taken⟩
      · simp [given, successes, disposition, answers, Except.isOk, Except.toBool, Except.map]
      · simp [given, successes, disposition, answers, Except.isOk, Except.toBool, Except.map]
    rw [handed]
    unfold echoes
    cases filter.echo <;> rfl
  · have none : calls = [] := List.filter_cons_of_neg passes
    rw [if_neg passes, none]
    unfold echoes
    cases filter.echo <;> rfl

/-- One record more, handed over or not, in front of the others. -/
theorem after_disposition {replies : List (Except Error Unit)} (one : replies.length ≤ 1)
    (later : List (Except Error Unit)) :
    (Flush.mk (successes later) (firstFailure later)).after (disposition replies) =
      ⟨successes (replies ++ later), firstFailure (replies ++ later)⟩ := by
  rcases replies with _ | ⟨reply, _ | ⟨other, others⟩⟩
  · rfl
  · rw [successes_append, Nat.add_comm]
    cases reply <;> rfl
  · simp at one

/-- What sending the records held back on comes to: those that pass are handed over in order, and
neither the filter nor the queue is looked at again. -/
theorem offerAll_eq (distributor : Distributor) (sink : S) (filter : Filter)
    (records : List Record) :
    let calls := records.filter filter.passes
    distributor.offerAll sink filter records =
      ⟨({ distributor with
            forwarded := distributor.forwarded + successes (answers sink calls) },
          handAll sink calls,
          ⟨successes (answers sink calls), firstFailure (answers sink calls)⟩),
        (echoes filter calls).map .note⟩ := by
  induction records generalizing distributor sink with
  | nil =>
      unfold echoes
      cases filter.echo <;> rfl
  | cons record rest ih =>
      intro calls
      have parts : calls = [record].filter filter.passes ++ rest.filter filter.passes := by
        rw [← List.filter_append, List.singleton_append]
      have one : (answers sink ([record].filter filter.passes)).length ≤ 1 := by
        rw [length_answers]
        exact List.length_filter_le ..
      simp only [offerAll, bind, offer_eq, ih, after_disposition one]
      rw [parts, answers_append, successes_append, echoes_append, List.map_append, handAll_append,
        Nat.add_assoc, Trail.value_pure, Trail.marks_pure, List.append_nil]

/-! ## Taking filters in -/

/-- What a valid filter comes to. -/
theorem apply_eq (distributor : Distributor) (sink : S) {filter : Filter} (valid : filter.Valid) :
    let calls := distributor.pending.filter filter.passes
    let replies := answers sink calls
    distributor.apply sink filter =
      ⟨({ distributor with
            filter := some filter, pending := []
            forwarded := distributor.forwarded + successes replies },
          handAll sink calls, (firstFailure replies).elim (.ok calls.length) .error),
        (distributor.filterNote filter :: echoes filter calls).map .note ++
          [.applied filter]⟩ := by
  intro calls replies
  have answered : (Flush.mk (successes replies) (firstFailure replies)).answer =
      (firstFailure replies).elim (.ok calls.length) .error := by
    unfold Flush.answer
    cases failed : firstFailure replies with
    | none => exact congrArg Except.ok ((successes_of_no_failure failed).trans (length_answers ..))
    | some error => rfl
  unfold apply
  rw [Filter.validate_eq_ok.mpr valid, ← answered]
  simp only [bind, offerAll_eq]
  rfl

/-- What a message comes to once there is a filter. -/
theorem emit_eq {distributor : Distributor} {filter : Filter}
    (current : distributor.filter = some filter) (sink : S) (record : Record) :
    distributor.emit sink record = distributor.offer sink filter record := by
  unfold emit
  rw [current]

/-- A record that was offered is not held back. -/
theorem disposition_ne_buffered (replies : List (Except Error Unit)) :
    disposition replies ≠ .ok .buffered := by
  rcases replies with _ | ⟨_ | _, _⟩ <;> nofun

theorem emit_ne_buffered {distributor : Distributor} (ready : distributor.isReady = true)
    (sink : S) (record : Record) :
    (distributor.emit sink record).value.2.2 ≠ .ok .buffered := by
  obtain ⟨filter, current⟩ := Option.isSome_iff_exists.mp ready
  rw [emit_eq current, offer_eq]
  exact disposition_ne_buffered _

end Distributor

/-! ## What filters decide -/

def letOut (decisions : List (Filter × Record)) : List Record :=
  (decisions.filter fun decision => decision.1.Wants decision.2).map Prod.snd

def turnedAway (decisions : List (Filter × Record)) : List Record :=
  (decisions.filter fun decision => ¬ decision.1.Wants decision.2).map Prod.snd

theorem letOut_append (first second : List (Filter × Record)) :
    letOut (first ++ second) = letOut first ++ letOut second := by
  unfold letOut
  rw [List.filter_append, List.map_append]

/-- One filter lets out what passes it. -/
theorem letOut_map (filter : Filter) (records : List Record) :
    letOut (records.map (filter, ·)) = records.filter filter.passes := by
  rw [Filter.passes_eq]
  unfold letOut
  rw [List.filter_map, List.map_map]
  exact List.map_id _

/-- There is no third way. -/
theorem length_letOut_turnedAway (decisions : List (Filter × Record)) :
    (turnedAway decisions).length + (letOut decisions).length = decisions.length := by
  unfold turnedAway letOut
  induction decisions with
  | nil => rfl
  | cons decision rest ih =>
      by_cases wanted : decision.1.Wants decision.2
      · simp [wanted] at ih ⊢
        omega
      · simp [wanted] at ih ⊢
        omega

namespace Occasion

def record? (moduleName : String) : Occasion → Option Record
  | .emit level mask message time => some (Record.new moduleName level mask message time)
  | .apply _ => none

def records (moduleName : String) (occasions : List Occasion) : List Record :=
  occasions.filterMap (record? moduleName)

end Occasion

namespace Detached

variable {S : Type} [Sink S]

/-- The decisions that are due: a message is decided on by the filter in force, and records held
back are by the filter that comes in. -/
def decides (detached : Detached S) : Occasion → List (Filter × Record)
  | .emit level mask message time =>
      detached.distributor.filter.toList.map
        (·, Record.new detached.distributor.moduleName level mask message time)
  | .apply filter =>
      if filter.Valid then detached.distributor.pending.map (filter, ·) else []

def decided (detached : Detached S) : List Occasion → List (Filter × Record)
  | [] => []
  | occasion :: rest => detached.decides occasion ++ (detached.step occasion).value.decided rest

/-- Records are decided on by a filter, which is in force from then on with nothing held back. -/
def decide (detached : Detached S) (filter : Filter) (records : List Record) (clock : Timestamp) :
    Detached S where
  distributor :=
    { detached.distributor with
      filter := some filter, pending := []
      forwarded := detached.distributor.forwarded +
        successes (answers detached.sink (records.filter filter.passes)) }
  sink := Distributor.handAll detached.sink (records.filter filter.passes)
  clock := clock

theorem step_emit_eq {detached : Detached S} {filter : Filter}
    (current : detached.distributor.filter = some filter)
    (flushed : detached.distributor.pending = []) (level : Level) (mask : Mask) (message : String)
    (time : Timestamp) :
    (detached.step (.emit level mask message time)).value =
      detached.decide filter
        [Record.new detached.distributor.moduleName level mask message time] time := by
  have offered : ∀ record, (detached.distributor.emit detached.sink record).value.1 =
      (detached.decide filter [record] time).distributor ∧
      (detached.distributor.emit detached.sink record).value.2.1 =
        (detached.decide filter [record] time).sink := by
    intro record
    rw [Distributor.emit_eq current, Distributor.offer_eq, decide, current.symm, flushed.symm]
    exact ⟨rfl, rfl⟩
  obtain ⟨distributor, sink⟩ :=
    offered (Record.new detached.distributor.moduleName level mask message time)
  exact congr (congrArg (fun distributor sink => (⟨distributor, sink, time⟩ : Detached S))
    distributor) sink

theorem apply_eq (detached : Detached S) {filter : Filter} (valid : filter.Valid) :
    let calls := detached.distributor.pending.filter filter.passes
    detached.apply filter =
      ⟨(detached.decide filter detached.distributor.pending detached.clock,
          (firstFailure (answers detached.sink calls)).elim (.ok calls.length) .error),
        (detached.distributor.filterNote filter :: Distributor.echoes filter calls).map .note ++
          [.applied filter]⟩ := by
  intro calls
  unfold apply
  rw [detached.distributor.apply_eq detached.sink valid]
  simp only [bind, Trail.marks_pure, List.append_nil]
  rfl

/-! ## The books -/

/-- The books of a distributor are in order, after these records were sent to it and these decisions
made.  The oldest records were dropped, then come those that were decided on, then those that
wait. -/
structure Accounts (origin : S) (moduleName : String) (sent : List Record)
    (decisions : List (Filter × Record)) (detached : Detached (Watched S)) : Prop where
  named : detached.distributor.moduleName = moduleName
  kept : sent.drop detached.distributor.dropped =
    decisions.map Prod.snd ++ detached.distributor.pending
  within : detached.distributor.dropped ≤ sent.length
  few : detached.distributor.pending.length ≤ 100
  undecided : detached.distributor.filter = none → decisions = []
  flushed : ∀ filter, detached.distributor.filter = some filter →
    detached.distributor.pending = []
  handed : detached.sink.handed = letOut decisions
  inner : detached.sink.inner = Distributor.handAll origin detached.sink.handed
  forwarded : detached.distributor.forwarded = successes (answers origin detached.sink.handed)

namespace Accounts

variable {origin : S} {moduleName : String} {sent : List Record}
  {decisions : List (Filter × Record)} {detached : Detached (Watched S)}

/-- A filter decides on all that is left. -/
theorem decide (accounts : Accounts origin moduleName sent decisions detached) (filter : Filter)
    {records all : List Record}
    (kept : all.drop detached.distributor.dropped = decisions.map Prod.snd ++ records)
    (within : detached.distributor.dropped ≤ all.length) (clock : Timestamp) :
    Accounts origin moduleName all (decisions ++ records.map (filter, ·))
      (detached.decide filter records clock) := by
  unfold Detached.decide
  rw [Distributor.handAll_watched, answers_watched]
  refine ⟨accounts.named, ?_, within, Nat.zero_le _, nofun, fun _ _ => rfl, ?_, ?_, ?_⟩
  · rw [kept, List.map_append, List.map_map, List.append_nil]
    exact congrArg (decisions.map Prod.snd ++ ·) (List.map_id records).symm
  · rw [letOut_append, letOut_map, accounts.handed]
  · rw [Distributor.handAll_append, ← accounts.inner]
  · rw [answers_append, successes_append, ← accounts.inner, ← accounts.forwarded]

/-- A record is held back, and the oldest makes room for it if it must. -/
theorem hold (accounts : Accounts origin moduleName sent decisions detached)
    (none : detached.distributor.filter = .none) (record : Record) (clock : Timestamp) :
    Accounts origin moduleName (sent ++ [record]) decisions
      ⟨detached.distributor.hold record, detached.sink, clock⟩ := by
  have empty := accounts.undecided none
  have waiting : sent.drop detached.distributor.dropped = detached.distributor.pending := by
    rw [accounts.kept, empty]
    rfl
  have count := congrArg List.length waiting
  rw [List.length_drop] at count
  unfold Distributor.hold pendingCapacity
  by_cases room : detached.distributor.pending.length < 100
  · rw [if_pos room]
    refine ⟨accounts.named, ?_, ?_, ?_, accounts.undecided, ?_, accounts.handed, accounts.inner,
      accounts.forwarded⟩
    · rw [List.drop_append_of_le_length accounts.within, waiting, empty]
      rfl
    · exact accounts.within.trans (List.length_append ▸ Nat.le_add_right ..)
    · simp only [List.length_append, List.length_singleton]
      omega
    · intro filter current
      cases none.symm.trans current
  · rw [if_neg room]
    have short := accounts.few
    have some : detached.distributor.dropped + 1 ≤ sent.length := by omega
    refine ⟨accounts.named, ?_, ?_, ?_, accounts.undecided, ?_, accounts.handed, accounts.inner,
      accounts.forwarded⟩
    · rw [List.drop_append_of_le_length some, ← List.drop_drop, waiting, empty]
      rfl
    · exact some.trans (List.length_append ▸ Nat.le_add_right ..)
    · simp only [List.length_append, List.length_drop, List.length_singleton]
      omega
    · intro filter current
      cases none.symm.trans current

/-- The books stay in order on every occasion. -/
theorem step (accounts : Accounts origin moduleName sent decisions detached) (occasion : Occasion) :
    Accounts origin moduleName (sent ++ (occasion.record? moduleName).toList)
      (decisions ++ detached.decides occasion) (detached.step occasion).value := by
  cases occasion with
  | emit level mask message time =>
      rw [Occasion.record?, Option.toList_some, ← accounts.named]
      generalize fresh : Record.new detached.distributor.moduleName level mask message time = record
      cases current : detached.distributor.filter with
      | none =>
          rw [step_emit_unfiltered current, decides, current, fresh, accounts.named]
          exact (List.append_nil decisions).symm ▸ accounts.hold current record time
      | some filter =>
          have flushed := accounts.flushed filter current
          rw [step_emit_eq current flushed, decides, current, fresh]
          have kept : (sent ++ [record]).drop detached.distributor.dropped =
              decisions.map Prod.snd ++ [record] := by
            rw [List.drop_append_of_le_length accounts.within, accounts.kept, flushed,
              List.append_nil]
          rw [accounts.named]
          exact accounts.decide filter kept
            (accounts.within.trans (List.length_append ▸ Nat.le_add_right ..)) time
  | apply filter =>
      rw [Occasion.record?, Option.toList_none, List.append_nil, decides]
      by_cases valid : filter.Valid
      · rw [if_pos valid]
        have applied : (detached.step (.apply filter)).value =
            detached.decide filter detached.distributor.pending detached.clock :=
          congrArg (·.value.1) (detached.apply_eq valid)
        rw [applied]
        exact accounts.decide filter accounts.kept accounts.within detached.clock
      · rw [if_neg valid, List.append_nil, detached.step_apply_invalid valid]
        exact accounts

/-- The books stay in order through every run. -/
theorem run (accounts : Accounts origin moduleName sent decisions detached)
    (occasions : List Occasion) :
    Accounts origin moduleName (sent ++ Occasion.records moduleName occasions)
      (decisions ++ detached.decided occasions) (detached.run occasions).value := by
  induction occasions generalizing sent decisions detached with
  | nil =>
      rw [decided, Occasion.records, List.filterMap_nil, List.append_nil, List.append_nil]
      exact accounts
  | cons occasion rest ih =>
      have first : Occasion.records moduleName (occasion :: rest) =
          (occasion.record? moduleName).toList ++ Occasion.records moduleName rest := by
        unfold Occasion.records
        cases recorded : occasion.record? moduleName with
        | none => exact List.filterMap_cons_none recorded
        | some record => exact List.filterMap_cons_some recorded
      rw [first, decided, ← List.append_assoc, ← List.append_assoc]
      exact ih (accounts.step occasion)

/-- Nothing is left out of the count, and nothing is counted twice. -/
theorem balance (accounts : Accounts origin moduleName sent decisions detached) :
    sent.length = detached.distributor.dropped + detached.distributor.pending.length +
      (turnedAway decisions).length + detached.sink.handed.length := by
  have kept := congrArg List.length accounts.kept
  rw [List.length_drop, List.length_append, List.length_map, ← length_letOut_turnedAway,
    ← accounts.handed] at kept
  have within := accounts.within
  omega

end Accounts

/-! ## After the first filter -/

/-- There is a filter, and nothing is held back. -/
def Settled (detached : Detached S) : Prop :=
  detached.distributor.isReady = true ∧ detached.distributor.pending = []

theorem Settled.step {detached : Detached S} (settled : detached.Settled) (occasion : Occasion) :
    (detached.step occasion).value.Settled := by
  obtain ⟨ready, flushed⟩ := settled
  cases occasion with
  | emit level mask message time =>
      obtain ⟨filter, current⟩ := Option.isSome_iff_exists.mp ready
      rw [step_emit_eq current flushed]
      exact ⟨rfl, rfl⟩
  | apply filter =>
      by_cases valid : filter.Valid
      · obtain ⟨forwarded, stepped⟩ := detached.step_apply_valid valid
        rw [stepped]
        exact ⟨rfl, rfl⟩
      · rw [detached.step_apply_invalid valid]
        exact ⟨ready, flushed⟩

theorem Settled.run {detached : Detached S} (settled : detached.Settled)
    (occasions : List Occasion) : (detached.run occasions).value.Settled := by
  induction occasions generalizing detached with
  | nil => exact settled
  | cons occasion rest ih => exact ih (settled.step occasion)

/-- Whatever the sink answers, every record that was sent was dropped, waits, was turned away or was
handed to the sink: the oldest were dropped, and of the others those that a filter has decided on
come before those that wait.  Once there is a filter nothing waits ever again.  A valid filter is in
force at once and leaves nothing waiting; whoever waits for it hears of it once, at the end; and the
answer is the first failure of the sink, or the number of records that it took. -/
theorem every_record_is_accounted_for {moduleName : String} {distributor : Distributor}
    (made : Distributor.new moduleName = .ok distributor) (inbox : Option (List Filter)) (sink : S)
    (clock : Timestamp) (occasions : List Occasion) :
    let start : Detached S := ⟨{ distributor with inbox }, sink, clock⟩
    let watching : Detached (Watched S) := ⟨{ distributor with inbox }, ⟨sink, []⟩, clock⟩
    let after := (start.run occasions).value
    let sent := Occasion.records moduleName occasions
    let decisions := watching.decided occasions
    let calls := (watching.run occasions).value.sink.handed
    (watching.run occasions).value.plain = after ∧
      (after.distributor.isReady = true → ∀ more : List Occasion,
        (after.run more).value.distributor.isReady = true ∧
          (after.run more).value.distributor.pending = [] ∧
          ∀ level mask message,
            ((after.run more).value.emit level mask message).value.2 ≠ .ok .buffered) ∧
      sent.drop after.distributor.dropped =
        decisions.map Prod.snd ++ after.distributor.pending ∧
      calls = letOut decisions ∧
      sent.length = after.distributor.dropped + after.distributor.pending.length +
        (turnedAway decisions).length + calls.length ∧
      after.distributor.pending.length ≤ 100 ∧
      after.distributor.forwarded = successes (answers sink calls) ∧
      ∀ filter : Filter, filter.Valid →
        let tried := after.distributor.pending.filter fun record => filter.Wants record
        let replies := answers after.sink tried
        after.apply filter =
          ⟨(⟨{ after.distributor with
                filter := some filter, pending := []
                forwarded := after.distributor.forwarded + successes replies },
              Distributor.handAll after.sink tried, after.clock⟩,
              (firstFailure replies).elim (.ok tried.length) .error),
            (after.distributor.filterNote filter :: Distributor.echoes filter tried).map .note ++
              [.applied filter]⟩ := by
  intro start watching after sent decisions calls
  have plain : (watching.run occasions).value.plain = after := watching.run_plain occasions
  have same : (watching.run occasions).value.distributor = after.distributor :=
    congrArg Detached.distributor plain
  have accounts : Accounts sink moduleName sent decisions (watching.run occasions).value := by
    cases Distributor.new_eq made
    have opened : Accounts sink moduleName [] [] watching :=
      ⟨rfl, rfl, Nat.le_refl _, Nat.zero_le _, fun _ => rfl, fun _ _ => rfl, rfl, rfl, rfl⟩
    exact opened.run occasions
  have kept := accounts.kept
  have balance := accounts.balance
  have few := accounts.few
  have flushed := accounts.flushed
  have forwarded := accounts.forwarded
  rw [same] at kept balance few flushed forwarded
  refine ⟨plain, fun ready more => ?_, kept, accounts.handed, balance, few, forwarded, ?_⟩
  · obtain ⟨filter, current⟩ := Option.isSome_iff_exists.mp ready
    have settled : (after.run more).value.Settled :=
      Settled.run ⟨ready, flushed filter current⟩ more
    exact ⟨settled.1, settled.2, fun level mask message =>
      Distributor.emit_ne_buffered settled.1 (after.run more).value.sink _⟩
  · intro filter valid
    have applied := after.apply_eq valid
    unfold decide at applied
    rw [Filter.passes_eq] at applied
    exact applied

/-- Of the messages of a busy day one is dropped, and a sink that refuses every other record takes
half of those that are let out. -/
theorem busy_day_is_accounted_for :
    let start : Detached Fickle := ⟨⟨"pump", none, [], 0, 0, none⟩, ⟨true⟩, ⟨0, 0⟩⟩
    let watching : Detached (Watched Fickle) :=
      ⟨⟨"pump", none, [], 0, 0, none⟩, ⟨⟨true⟩, []⟩, ⟨0, 0⟩⟩
    Distributor.new "pump" = .ok ⟨"pump", none, [], 0, 0, none⟩ ∧
      (Occasion.records "pump" busyDay).length = 103 ∧
      (start.run busyDay).value.distributor.isReady = true ∧
      (start.run busyDay).value.distributor.dropped = 1 ∧
      (start.run busyDay).value.distributor.pending = [] ∧
      (turnedAway (watching.decided busyDay)).length = 68 ∧
      (watching.run busyDay).value.sink.handed.length = 34 ∧
      (start.run busyDay).value.distributor.forwarded = 17 ∧
      ((start.run busyDay).value.apply ⟨.debug, .user, false, []⟩).value.2 = .ok 0 := by
  intro start watching
  have made : Distributor.new "pump" = .ok ⟨"pump", none, [], 0, 0, none⟩ := rfl
  have told := every_record_is_accounted_for made none (Fickle.mk true) ⟨0, 0⟩
  have balance (occasions : List Occasion) : (Occasion.records "pump" occasions).length =
      (start.run occasions).value.distributor.dropped +
        (start.run occasions).value.distributor.pending.length +
        (turnedAway (watching.decided occasions)).length +
        (watching.run occasions).value.sink.handed.length :=
    (told occasions).2.2.2.2.1
  have flushed (occasions : List Occasion)
      (ready : (start.run occasions).value.distributor.isReady = true) :
      (start.run occasions).value.distributor.pending = [] :=
    ((told occasions).2.1 ready []).2.1
  have received (occasions : List Occasion)
      (flushed : (start.run occasions).value.distributor.pending = []) :
      ((start.run occasions).value.apply ⟨.debug, .user, false, []⟩).value.2 = .ok 0 := by
    rw [(told occasions).2.2.2.2.2.2.2 _ (by decide), flushed]
    rfl
  have emitted : (Occasion.records "pump" busyDay).length = 103 := by decide +kernel
  have ready : (start.run busyDay).value.distributor.isReady = true := by decide +kernel
  have dropped : (start.run busyDay).value.distributor.dropped = 1 := by decide +kernel
  have filtered : (turnedAway (watching.decided busyDay)).length = 68 := by decide +kernel
  have empty := flushed busyDay ready
  have count := balance busyDay
  rw [emitted, dropped, empty, filtered, List.length_nil] at count
  exact ⟨made, emitted, ready, dropped, empty, filtered, by omega, by decide +kernel,
    received busyDay empty⟩

end Detached

end DatasetSync.Log
