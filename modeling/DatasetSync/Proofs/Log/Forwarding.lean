import DatasetSync.Log.Logger
import DatasetSync.Proofs.Log.Distributor

/-!
# Which records reach the sink

A distributor with a sink of its own is sent messages and given filters, in any order.  What its
sink is handed can be told from these alone: the last hundred messages before the first valid filter
as far as that one wants them, and after it each message that the filter in force wants.  The
answers of the sink have no part in it.
-/

namespace DatasetSync.Log

/-- What happens to a distributor with a sink of its own. -/
inductive Occasion where
  | emit (level : Level) (mask : Mask) (message : String) (time : Timestamp)
  | apply (filter : Filter)

namespace Occasion

/-- The records that are to be handed over once a filter is in force. -/
def wanted (moduleName : String) (filter : Filter) : List Occasion → List Record
  | [] => []
  | .emit level mask message time :: rest =>
      let record := Record.new moduleName level mask message time
      if filter.Wants record then record :: wanted moduleName filter rest
      else wanted moduleName filter rest
  | .apply other :: rest => wanted moduleName (if other.Valid then other else filter) rest

/-- The records that are to be handed over, if there was no filter so far and these records were
sent before. -/
def due (moduleName : String) (sent : List Record) : List Occasion → List Record
  | [] => []
  | .emit level mask message time :: rest =>
      due moduleName (sent ++ [Record.new moduleName level mask message time]) rest
  | .apply filter :: rest =>
      if filter.Valid then
        (sent.rtake 100).filter (filter.Wants ·) ++ wanted moduleName filter rest
      else due moduleName sent rest

end Occasion

/-! ## Watching a sink -/

/-- A sink, and every record it was handed, taken or not. -/
structure Watched (S : Type) where
  inner : S
  handed : List Record

section Watching

variable {S α : Type} [Sink S]

instance : Sink (Watched S) where
  forward watched record :=
    (⟨(Sink.forward watched.inner record).1, watched.handed ++ [record]⟩,
      (Sink.forward watched.inner record).2)

def unwatched (outcome : Distributor × Watched S × α) : Distributor × S × α :=
  (outcome.1, outcome.2.1.inner, outcome.2.2)

namespace Distributor

theorem handAll_watched (watched : Watched S) (records : List Record) :
    handAll watched records = ⟨handAll watched.inner records, watched.handed ++ records⟩ := by
  induction records generalizing watched with
  | nil => rw [List.append_nil]; rfl
  | cons record rest ih =>
      refine (ih (Sink.forward watched record).1).trans ?_
      rw [List.append_cons]
      rfl

theorem forward_unwatched (distributor : Distributor) (watched : Watched S) (record : Record) :
    unwatched (distributor.forward watched record) =
      distributor.forward watched.inner record := by
  have same : Sink.forward watched record =
    (⟨(Sink.forward watched.inner record).1, watched.handed ++ [record]⟩,
      (Sink.forward watched.inner record).2) := rfl
  unfold forward
  rw [same]
  rcases Sink.forward watched.inner record with ⟨after, fault | taken⟩ <;> rfl

theorem offer_unwatched (distributor : Distributor) (watched : Watched S) (filter : Filter)
    (record : Record) :
    unwatched (distributor.offer watched filter record).value =
      (distributor.offer watched.inner filter record).value := by
  unfold offer
  split
  · cases filter.echo <;> exact distributor.forward_unwatched watched record
  · rfl

theorem offerAll_unwatched (distributor : Distributor) (watched : Watched S) (filter : Filter)
    (records : List Record) :
    unwatched (distributor.offerAll watched filter records).value =
      (distributor.offerAll watched.inner filter records).value := by
  induction records generalizing distributor watched with
  | nil => rfl
  | cons record rest ih =>
      have first := distributor.offer_unwatched watched filter record
      have later := ih (distributor.offer watched filter record).value.1
        (distributor.offer watched filter record).value.2.1
      simp only [offerAll, Trail.value_bind, Trail.value_pure]
      rw [← first]
      exact congrArg (fun outcome : Distributor × S × Flush => (outcome.1, outcome.2.1,
        outcome.2.2.after (distributor.offer watched filter record).value.2.2)) later

theorem emit_unwatched (distributor : Distributor) (watched : Watched S) (record : Record) :
    unwatched (distributor.emit watched record).value =
      (distributor.emit watched.inner record).value := by
  unfold emit
  cases distributor.filter with
  | none => rfl
  | some filter => exact distributor.offer_unwatched watched filter record

theorem apply_unwatched (distributor : Distributor) (watched : Watched S) (filter : Filter) :
    unwatched (distributor.apply watched filter).value =
      (distributor.apply watched.inner filter).value := by
  unfold apply
  cases filter.validate with
  | error error => rfl
  | ok done =>
      have flushed := offerAll_unwatched { distributor with filter := some filter, pending := [] }
        watched filter distributor.pending
      exact congrArg (fun outcome : Distributor × S × Flush => (outcome.1, outcome.2.1,
        outcome.2.2.answer)) flushed

end Distributor

end Watching

/-! ## Runs -/

namespace Detached

variable {S : Type} [Sink S]

def step (detached : Detached S) : Occasion → Trail Effect (Detached S)
  | .emit level mask message time => do
      let (after, _) ← { detached with clock := time }.emit level mask message
      return after
  | .apply filter => do
      let (after, _) ← detached.apply filter
      return after

def run (detached : Detached S) : List Occasion → Trail Effect (Detached S)
  | [] => return detached
  | occasion :: rest => do
      let after ← detached.step occasion
      after.run rest

def plain (detached : Detached (Watched S)) : Detached S :=
  ⟨detached.distributor, detached.sink.inner, detached.clock⟩

theorem step_plain (detached : Detached (Watched S)) (occasion : Occasion) :
    (detached.step occasion).value.plain = (detached.plain.step occasion).value := by
  cases occasion with
  | emit level mask message time =>
      exact congrArg (fun outcome => (⟨outcome.1, outcome.2.1, time⟩ : Detached S))
        (detached.distributor.emit_unwatched detached.sink
          (Record.new detached.distributor.moduleName level mask message time))
  | apply filter =>
      exact congrArg (fun outcome => (⟨outcome.1, outcome.2.1, detached.clock⟩ : Detached S))
        (detached.distributor.apply_unwatched detached.sink filter)

theorem run_plain (detached : Detached (Watched S)) (occasions : List Occasion) :
    (detached.run occasions).value.plain = (detached.plain.run occasions).value := by
  induction occasions generalizing detached with
  | nil => rfl
  | cons occasion rest ih =>
      refine (ih (detached.step occasion).value).trans ?_
      rw [step_plain]
      rfl

/-! ## What an occasion does -/

theorem step_emit_filtered {detached : Detached S} {filter : Filter}
    (current : detached.distributor.filter = some filter) (level : Level) (mask : Mask)
    (message : String) (time : Timestamp) :
    ∃ forwarded, (detached.step (.emit level mask message time)).value =
      ⟨{ detached.distributor with forwarded }, Distributor.handAll detached.sink
        ([Record.new detached.distributor.moduleName level mask message time].filter
          filter.passes), time⟩ := by
  obtain ⟨forwarded, value, handed⟩ := Distributor.emit_filtered current detached.sink
    (Record.new detached.distributor.moduleName level mask message time)
  refine ⟨forwarded, ?_⟩
  rw [← value, ← handed]
  rfl

theorem step_emit_unfiltered {detached : Detached S} (none : detached.distributor.filter = .none)
    (level : Level) (mask : Mask) (message : String) (time : Timestamp) :
    (detached.step (.emit level mask message time)).value =
      ⟨detached.distributor.hold
        (Record.new detached.distributor.moduleName level mask message time), detached.sink,
        time⟩ := by
  have held := Distributor.emit_unfiltered none detached.sink
    (Record.new detached.distributor.moduleName level mask message time)
  exact congrArg (fun trail => (⟨trail.value.1, trail.value.2.1, time⟩ : Detached S)) held

theorem step_apply_valid (detached : Detached S) {filter : Filter} (valid : filter.Valid) :
    ∃ forwarded, (detached.step (.apply filter)).value =
      ⟨{ detached.distributor with filter := some filter, pending := [], forwarded },
        Distributor.handAll detached.sink (detached.distributor.pending.filter filter.passes),
        detached.clock⟩ := by
  obtain ⟨forwarded, value, handed, _⟩ :=
    detached.distributor.apply_valid detached.sink valid
  refine ⟨forwarded, ?_⟩
  rw [← value, ← handed]
  rfl

/-- A filter that is not valid is refused, and nothing happens. -/
theorem apply_invalid (detached : Detached S) {filter : Filter} (invalid : ¬ filter.Valid) :
    ∃ error, detached.apply filter = pure (detached, .error error) := by
  obtain ⟨error, refused⟩ := detached.distributor.apply_invalid detached.sink invalid
  refine ⟨error, ?_⟩
  unfold apply
  rw [refused]
  rfl

theorem step_apply_invalid (detached : Detached S) {filter : Filter} (invalid : ¬ filter.Valid) :
    (detached.step (.apply filter)).value = detached := by
  obtain ⟨error, refused⟩ := detached.apply_invalid invalid
  rw [step, refused]
  rfl

/-! ## What a run hands over -/

/-- Under a filter, each record is handed over that the filter in force wants. -/
theorem run_filtered {detached : Detached S} (filter : Filter)
    (current : detached.distributor.filter = some filter)
    (flushed : detached.distributor.pending = []) (occasions : List Occasion) :
    (detached.run occasions).value.sink =
      Distributor.handAll detached.sink
        (Occasion.wanted detached.distributor.moduleName filter occasions) := by
  induction occasions generalizing detached filter with
  | nil => rfl
  | cons occasion rest ih =>
      rw [run, Trail.value_bind]
      cases occasion with
      | emit level mask message time =>
          obtain ⟨forwarded, stepped⟩ := step_emit_filtered current level mask message time
          rw [stepped]
          refine (ih filter ?_ ?_).trans ?_
          · exact current
          · exact flushed
          · rw [← Distributor.handAll_append, Occasion.wanted]
            split
            · rename_i wants
              rw [List.filter_cons_of_pos (Filter.passes_iff.mpr wants)]
              rfl
            · rename_i unwanted
              rw [List.filter_cons_of_neg (fun passes => unwanted (Filter.passes_iff.mp passes))]
              rfl
      | apply other =>
          rw [Occasion.wanted]
          by_cases valid : other.Valid
          · obtain ⟨forwarded, stepped⟩ := detached.step_apply_valid valid
            rw [stepped, if_pos valid]
            refine (ih other rfl rfl).trans ?_
            rw [flushed]
            rfl
          · rw [detached.step_apply_invalid valid, ih filter current flushed, if_neg valid]

/-- Without a filter the records wait for the first one that is valid. -/
theorem run_unfiltered {detached : Detached S} (sent : List Record)
    (none : detached.distributor.filter = .none)
    (held : detached.distributor.pending = sent.rtake 100) (occasions : List Occasion) :
    (detached.run occasions).value.sink =
      Distributor.handAll detached.sink
        (Occasion.due detached.distributor.moduleName sent occasions) := by
  induction occasions generalizing detached sent with
  | nil => rfl
  | cons occasion rest ih =>
      rw [run, Trail.value_bind]
      cases occasion with
      | emit level mask message time =>
          have waits := Distributor.hold_pending held
            (Record.new detached.distributor.moduleName level mask message time)
          obtain ⟨pending, dropped, same⟩ := detached.distributor.hold_spec
            (Record.new detached.distributor.moduleName level mask message time)
          rw [step_emit_unfiltered none]
          rw [same] at waits ⊢
          exact ih _ none waits
      | apply filter =>
          rw [Occasion.due]
          by_cases valid : filter.Valid
          · -- From here on there is a filter, and nothing is held back any more.
            obtain ⟨forwarded, stepped⟩ := detached.step_apply_valid valid
            rw [stepped, if_pos valid]
            refine (run_filtered filter rfl rfl rest).trans ?_
            rw [held, ← Distributor.handAll_append, Filter.passes_eq]
          · rw [detached.step_apply_invalid valid, ih sent none held, if_neg valid]

/-- The sink is handed exactly what the messages and filters call for, whatever it answers; a filter
that is not valid changes nothing. -/
theorem sink_gets_what_is_due {moduleName : String} {distributor : Distributor}
    (made : Distributor.new moduleName = .ok distributor) (inbox : Option (List Filter)) (sink : S)
    (clock : Timestamp) (occasions : List Occasion) :
    let start : Detached S := ⟨{ distributor with inbox }, sink, clock⟩
    let watching : Detached (Watched S) := ⟨{ distributor with inbox }, ⟨sink, []⟩, clock⟩
    (watching.run occasions).value.plain = (start.run occasions).value ∧
      (watching.run occasions).value.sink.handed = Occasion.due moduleName [] occasions ∧
      ∀ filter : Filter, ¬ filter.Valid → ∃ error,
        (start.run occasions).value.apply filter =
          pure ((start.run occasions).value, .error error) := by
  intro start watching
  cases Distributor.new_eq made
  refine ⟨watching.run_plain occasions, ?_, fun filter => apply_invalid _⟩
  have handed : (watching.run occasions).value.sink =
      Distributor.handAll watching.sink (Occasion.due moduleName [] occasions) :=
    run_unfiltered [] rfl rfl occasions
  rw [handed, Distributor.handAll_watched]
  rfl

/-- A sink that refuses every other record. -/
structure Fickle where
  refuses : Bool

instance : Sink Fickle where
  forward sink _ := (⟨!sink.refuses⟩, if sink.refuses then .error (.channel "full") else .ok ())

/-- A hundred and one messages, every third of them an error; a filter with too many names and one
for errors; and two messages more. -/
def busyDay : List Occasion :=
  (List.range 101).map (fun n =>
    .emit (if n % 3 = 0 then .error else .info) .user "again" ⟨0, n⟩) ++
  [.apply ⟨.debug, .user, false, List.replicate 21 "pump"⟩, .apply ⟨.error, .user, false, []⟩,
    .emit .error .always "late" ⟨0, 101⟩, .emit .info .user "later" ⟨0, 102⟩]

/-- The first message of all is an error, but a hundred came after it. -/
theorem oldest_error_of_a_busy_day_is_lost :
    let start : Detached (Watched Fickle) :=
      ⟨⟨"pump", none, [], 0, 0, none⟩, ⟨⟨true⟩, []⟩, ⟨0, 0⟩⟩
    Distributor.new "pump" = .ok ⟨"pump", none, [], 0, 0, none⟩ ∧
      (start.run busyDay).value.sink.handed.map (·.time.nanos) =
        (List.range 33).map (fun n => 3 * n + 3) ++ [101] := by
  intro start
  have made : Distributor.new "pump" = .ok ⟨"pump", none, [], 0, 0, none⟩ := rfl
  have handed (occasions : List Occasion) :
      (start.run occasions).value.sink.handed = Occasion.due "pump" [] occasions :=
    (sink_gets_what_is_due made none (Fickle.mk true) ⟨0, 0⟩ occasions).2.1
  refine ⟨made, ?_⟩
  rw [handed]
  decide +kernel

end Detached

end DatasetSync.Log
