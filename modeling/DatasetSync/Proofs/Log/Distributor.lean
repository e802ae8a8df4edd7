import DatasetSync.Log.Distributor
import Mathlib.Data.List.DropRight

/-!
# What a distributor does with records and filters

A filter is taken in if it is valid, and then the records held back go to the sink as far as it
wants them.  Which records the sink is handed never depends on what it answers.
-/

namespace DatasetSync.Log

/-! ## Filters -/

def NameFits (name : String) : Prop :=
  1 ≤ name.length ∧ name.length ≤ 35

instance (name : String) : Decidable (NameFits name) :=
  inferInstanceAs (Decidable (_ ∧ _))

theorem validateModuleName_eq_ok {name : String} :
    validateModuleName name = .ok () ↔ NameFits name := by
  unfold validateModuleName maxModuleName NameFits
  by_cases unnamed : name = ""
  · simp [unnamed]
  · have named : 1 ≤ name.length := by
      rw [Nat.one_le_iff_ne_zero]
      exact fun zero => unnamed (String.length_eq_zero_iff.mp zero)
    rw [if_neg unnamed]
    by_cases long : 35 < name.length
    · simp [long]
    · simp only [if_neg long, true_iff]
      omega

namespace Filter

/-- At most twenty modules are silenced, all of them under names that modules can have. -/
def Valid (filter : Filter) : Prop :=
  filter.excluded.length ≤ 20 ∧ ∀ name ∈ filter.excluded, NameFits name

instance (filter : Filter) : Decidable filter.Valid :=
  inferInstanceAs (Decidable (_ ∧ _))

/-- A record is important enough, of a kind that is wanted, and of a module that is heard. -/
def Wants (filter : Filter) (record : Record) : Prop :=
  record.level.rank ≤ filter.level.rank ∧
    (record.mask.bits = 0 ∨ record.mask.bits &&& filter.mask.bits ≠ 0) ∧
    record.moduleName ∉ filter.excluded

instance (filter : Filter) (record : Record) : Decidable (filter.Wants record) :=
  inferInstanceAs (Decidable (_ ∧ _ ∧ _))

theorem validateNames_eq_ok {names : List String} :
    validateNames names = .ok () ↔ ∀ name ∈ names, NameFits name := by
  induction names with
  | nil => simp [validateNames]
  | cons name rest ih =>
      rw [List.forall_mem_cons, ← ih, ← validateModuleName_eq_ok, validateNames]
      cases validateModuleName name <;> simp [bind, Except.bind]

theorem validate_eq_ok {filter : Filter} : filter.validate = .ok () ↔ filter.Valid := by
  unfold validate Valid maxExcluded
  by_cases crowded : 20 < filter.excluded.length
  · rw [if_pos crowded]
    exact ⟨nofun, fun valid => by omega⟩
  · rw [if_neg crowded, validateNames_eq_ok]
    exact ⟨fun names => ⟨by omega, names⟩, fun valid => valid.2⟩

theorem validate_eq_error {filter : Filter} (invalid : ¬ filter.Valid) :
    ∃ error, filter.validate = .error error := by
  cases answer : filter.validate with
  | error error => exact ⟨error, rfl⟩
  | ok done => exact absurd (validate_eq_ok.mp answer) invalid

theorem passes_iff {filter : Filter} {record : Record} :
    filter.passes record = true ↔ filter.Wants record := by
  simp [passes, allows, Wants, Mask.isAlways, Mask.intersects, isExcluded, and_assoc]

theorem passes_eq (filter : Filter) :
    filter.passes = fun record => decide (filter.Wants record) := by
  funext record
  rw [Bool.eq_iff_iff, passes_iff, decide_eq_true_iff]

end Filter

namespace Distributor

variable {S : Type} [Sink S]

theorem new_eq {moduleName : String} {distributor : Distributor}
    (made : new moduleName = .ok distributor) :
    distributor = ⟨moduleName, none, [], 0, 0, none⟩ := by
  unfold new at made
  cases valid : validateModuleName moduleName with
  | error error =>
      rw [valid] at made
      cases made
  | ok done =>
      rw [valid] at made
      cases made
      rfl

/-! ## Handing records over -/

def handAll (sink : S) (records : List Record) : S :=
  records.foldl (fun sink record => (Sink.forward sink record).1) sink

theorem handAll_append (sink : S) (first second : List Record) :
    handAll sink (first ++ second) = handAll (handAll sink first) second :=
  List.foldl_append

theorem forward_spec (distributor : Distributor) (sink : S) (record : Record) :
    ∃ forwarded, (distributor.forward sink record).1 = { distributor with forwarded } ∧
      (distributor.forward sink record).2.1 = handAll sink [record] := by
  unfold forward handAll
  rcases given : Sink.forward sink record with ⟨after, fault | taken⟩
  · exact ⟨distributor.forwarded, rfl, (congrArg Prod.fst given).symm⟩
  · exact ⟨distributor.forwarded + 1, rfl, (congrArg Prod.fst given).symm⟩

/-- Whatever the sink answers, it was handed the record if that passes, and nothing changed but the
number of records it took. -/
theorem offer_spec (distributor : Distributor) (sink : S) (filter : Filter) (record : Record) :
    ∃ forwarded, (distributor.offer sink filter record).value.1 = { distributor with forwarded } ∧
      (distributor.offer sink filter record).value.2.1 =
        handAll sink ([record].filter filter.passes) ∧
      (distributor.offer sink filter record).marks.filterMap Effect.applied? = [] := by
  unfold offer
  by_cases passes : filter.passes record = true
  · rw [if_pos passes, List.filter_cons_of_pos passes]
    obtain ⟨forwarded, value, handed⟩ := distributor.forward_spec sink record
    cases filter.echo <;> exact ⟨forwarded, value, handed, rfl⟩
  · rw [if_neg passes, List.filter_cons_of_neg passes]
    exact ⟨distributor.forwarded, rfl, rfl, rfl⟩

theorem offerAll_spec (distributor : Distributor) (sink : S) (filter : Filter)
    (records : List Record) :
    ∃ forwarded,
      (distributor.offerAll sink filter records).value.1 = { distributor with forwarded } ∧
      (distributor.offerAll sink filter records).value.2.1 =
        handAll sink (records.filter filter.passes) ∧
      (distributor.offerAll sink filter records).marks.filterMap Effect.applied? = [] := by
  induction records generalizing distributor sink with
  | nil => exact ⟨distributor.forwarded, rfl, rfl, rfl⟩
  | cons record rest ih =>
      obtain ⟨one, first, handed, quiet⟩ := distributor.offer_spec sink filter record
      obtain ⟨all, later, others, still⟩ := ih (distributor.offer sink filter record).value.1
        (distributor.offer sink filter record).value.2.1
      refine ⟨all, ?_, ?_, ?_⟩
      · refine later.trans ?_
        rw [first]
      · rw [← List.singleton_append, List.filter_append, handAll_append, ← handed]
        exact others
      · rw [offerAll, Trail.marks_bind, Trail.marks_bind, List.filterMap_append,
          List.filterMap_append, quiet, still]
        rfl

/-! ## Taking filters in -/

/-- A filter that is not valid is refused, and nothing happens. -/
theorem apply_invalid (distributor : Distributor) (sink : S) {filter : Filter}
    (invalid : ¬ filter.Valid) :
    ∃ error, distributor.apply sink filter = pure (distributor, sink, .error error) := by
  obtain ⟨error, refused⟩ := Filter.validate_eq_error invalid
  refine ⟨error, ?_⟩
  unfold apply
  rw [refused]

/-- A valid filter is in force at once, the sink is handed what it wants of the records held back,
and whoever waits for it hears of it once. -/
theorem apply_valid (distributor : Distributor) (sink : S) {filter : Filter}
    (valid : filter.Valid) :
    ∃ forwarded, (distributor.apply sink filter).value.1 =
        { distributor with filter := some filter, pending := [], forwarded } ∧
      (distributor.apply sink filter).value.2.1 =
        handAll sink (distributor.pending.filter filter.passes) ∧
      (distributor.apply sink filter).marks.filterMap Effect.applied? = [filter] := by
  obtain ⟨forwarded, value, handed, quiet⟩ :=
    offerAll_spec { distributor with filter := some filter, pending := [] } sink filter
      distributor.pending
  unfold apply
  rw [Filter.validate_eq_ok.mpr valid]
  refine ⟨forwarded, value, handed, ?_⟩
  simp only [Trail.marks_bind, Trail.marks_mark, Trail.marks_pure, List.filterMap_append, quiet]
  rfl

/-! ## Sending records -/

theorem hold_spec (distributor : Distributor) (record : Record) :
    ∃ pending dropped, distributor.hold record = { distributor with pending, dropped } := by
  unfold hold
  split
  · exact ⟨_, distributor.dropped, rfl⟩
  · exact ⟨_, _, rfl⟩

/-- As long as there is no filter the most recent records are held back. -/
theorem hold_pending {distributor : Distributor} {sent : List Record}
    (held : distributor.pending = sent.rtake 100) (record : Record) :
    (distributor.hold record).pending = (sent ++ [record]).rtake 100 := by
  rw [List.rtake_concat_succ]
  unfold hold pendingCapacity
  rw [held]
  have length : (sent.rtake 100).length = min 100 sent.length := by
    rw [List.rtake, List.length_drop]
    omega
  by_cases room : (sent.rtake 100).length < 100
  · rw [if_pos room]
    have few : sent.length ≤ 99 := by omega
    simp only [List.rtake, (by omega : sent.length - 100 = 0), (by omega : sent.length - 99 = 0)]
  · rw [if_neg room]
    have many : 100 ≤ sent.length := by omega
    simp only [List.rtake, List.drop_drop]
    rw [(by omega : sent.length - 100 + 1 = sent.length - 99)]

theorem emit_unfiltered {distributor : Distributor} (none : distributor.filter = .none) (sink : S)
    (record : Record) :
    distributor.emit sink record = pure (distributor.hold record, sink, .ok .buffered) := by
  unfold emit
  rw [none]

theorem emit_filtered {distributor : Distributor} {filter : Filter}
    (current : distributor.filter = some filter) (sink : S) (record : Record) :
    ∃ forwarded, (distributor.emit sink record).value.1 = { distributor with forwarded } ∧
      (distributor.emit sink record).value.2.1 =
        handAll sink ([record].filter filter.passes) := by
  have offered : distributor.emit sink record = distributor.offer sink filter record := by
    unfold emit
    rw [current]
  obtain ⟨forwarded, value, handed, _⟩ := distributor.offer_spec sink filter record
  rw [offered]
  exact ⟨forwarded, value, handed⟩

/-- Sending a record leaves the filter and what came from the server alone. -/
theorem emit_keeps (distributor : Distributor) (sink : S) (record : Record) :
    (distributor.emit sink record).value.1.filter = distributor.filter ∧
      (distributor.emit sink record).value.1.inbox = distributor.inbox := by
  cases current : distributor.filter with
  | none =>
      obtain ⟨pending, dropped, held⟩ := distributor.hold_spec record
      rw [emit_unfiltered current, Trail.value_pure, held]
      exact ⟨current, rfl⟩
  | some filter =>
      obtain ⟨forwarded, value, _⟩ := emit_filtered current sink record
      rw [value]
      exact ⟨current, rfl⟩

/-! ## A queue that is read -/

theorem offer_open (distributor : Distributor) (records : List Record) (filter : Filter)
    (record : Record) :
    (distributor.offer (⟨records, true⟩ : Queue) filter record).value =
      if filter.passes record then
        ({ distributor with forwarded := distributor.forwarded + 1 }, ⟨records ++ [record], true⟩,
          .ok .forwarded)
      else (distributor, ⟨records, true⟩, .ok .filtered) := by
  unfold offer
  split
  · cases filter.echo <;> rfl
  · rfl

/-- A queue that is read takes every record that passes. -/
theorem offerAll_open (distributor : Distributor) (records : List Record) (filter : Filter)
    (held : List Record) :
    (distributor.offerAll (⟨records, true⟩ : Queue) filter held).value =
      ({ distributor with
          forwarded := distributor.forwarded + (held.filter filter.passes).length },
        ⟨records ++ held.filter filter.passes, true⟩,
        ⟨(held.filter filter.passes).length, none⟩) := by
  induction held generalizing distributor records with
  | nil => simp [offerAll]
  | cons record rest ih =>
      rw [offerAll]
      simp only [Trail.value_bind, Trail.value_pure, offer_open]
      by_cases passes : filter.passes record = true
      · simp only [if_pos passes, ih, List.filter_cons_of_pos passes, Flush.after,
          List.length_cons, List.append_assoc, List.singleton_append]
        congr 2
        omega
      · simp only [if_neg passes, ih, List.filter_cons_of_neg passes, Flush.after]

/-- The records held back that go out when these filters are taken in: the first one decides. -/
def released (distributor : Distributor) : List Filter → List Record
  | [] => []
  | filter :: _ => distributor.pending.filter fun record => filter.Wants record

def taken (distributor : Distributor) (filter : Filter) : Distributor :=
  { distributor with
    filter := some filter, pending := []
    forwarded := distributor.forwarded + (distributor.released [filter]).length }

theorem apply_open (distributor : Distributor) (records : List Record) {filter : Filter}
    (valid : filter.Valid) :
    (distributor.apply (⟨records, true⟩ : Queue) filter).value =
      (distributor.taken filter, ⟨records ++ distributor.released [filter], true⟩,
        .ok (distributor.released [filter]).length) := by
  unfold apply taken released
  rw [Filter.validate_eq_ok.mpr valid]
  simp only [Trail.value_bind, Trail.value_pure, offerAll_open, Filter.passes_eq]
  rfl

/-- What is held back goes out under the first filter, so those behind it find nothing. -/
theorem released_taken (distributor : Distributor) (filter : Filter) (filters : List Filter) :
    (distributor.taken filter).released filters = [] := by
  cases filters <;> rfl

/-- The distributor once these filters were taken in, with nothing left to wait for. -/
def informed (distributor : Distributor) (filters : List Filter) : Distributor :=
  { distributor with
    filter := filters.getLast?.or distributor.filter
    pending := if filters.isEmpty then distributor.pending else []
    forwarded := distributor.forwarded + (distributor.released filters).length
    inbox := some [] }

theorem informed_taken (distributor : Distributor) (filter : Filter) (rest : List Filter) :
    (distributor.taken filter).informed rest = distributor.informed (filter :: rest) := by
  have last : (filter :: rest).getLast?.or distributor.filter = rest.getLast?.or (some filter) := by
    rw [List.getLast?_cons]
    cases rest.getLast? <;> rfl
  unfold informed
  rw [last, released_taken]
  cases rest <;> rfl

/-- The record itself, if there is a filter that wants it. -/
def sends (distributor : Distributor) (record : Record) : List Record :=
  match distributor.filter with
  | none => []
  | some filter => [record].filter fun record => filter.Wants record

def fate (distributor : Distributor) (record : Record) : Disposition :=
  match distributor.filter with
  | none => .buffered
  | some filter => if filter.Wants record then .forwarded else .filtered

theorem fate_eq_forwarded {distributor : Distributor} {record : Record} :
    distributor.fate record = .forwarded ↔ distributor.sends record ≠ [] := by
  unfold fate sends
  cases distributor.filter with
  | none => simp
  | some filter => by_cases wanted : filter.Wants record <;> simp [wanted]

def emitted (distributor : Distributor) (record : Record) : Distributor :=
  match distributor.filter with
  | none => distributor.hold record
  | some _ =>
      { distributor with
        forwarded := distributor.forwarded + (distributor.sends record).length }

/-- With a queue that is read, sending a record never fails. -/
theorem emit_open (distributor : Distributor) (records : List Record) (record : Record) :
    (distributor.emit (⟨records, true⟩ : Queue) record).value =
      (distributor.emitted record, ⟨records ++ distributor.sends record, true⟩,
        .ok (distributor.fate record)) := by
  obtain ⟨moduleName, current, pending, dropped, forwarded, inbox⟩ := distributor
  cases current with
  | none => simp [emit, emitted, sends, fate]
  | some filter =>
      by_cases wanted : filter.Wants record <;>
        simp [emit, emitted, sends, fate, offer_open, Filter.passes_eq, wanted]

end Distributor

end DatasetSync.Log
