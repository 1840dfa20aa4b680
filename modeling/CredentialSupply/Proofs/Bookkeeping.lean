import CredentialSupply.Metrics.Meter
import CredentialSupply.Proofs.Association
import Mathlib.Data.List.Induction
import Mathlib.Data.List.Nodup

set_option autoImplicit false

/-!
# The two books of a chain

Every event of a chain is booked twice: in the counts that the chain keeps for itself, and under the
chain's name in the series of the registry, some events in two of them. `countingSeries` is the
table of the series that count, with what each has to show. An event adds to the table what it
records in the series (`Tally.exported_record`), and an event of another chain touches none of them,
so the books of a chain agree after any bookings (`Booked.recordAll`). With less than `2 ^ 64`
events nothing is lost in a snapshot, and the registry shows what the snapshot shows
(`snapshot_agrees_with_registry`).
-/

namespace CredentialSupply

/-! ## Recordings in a registry -/

/-- The content of a series after one more recording, which may be the first one. -/
def Measure.after (measure : Option Measure) (mark : Mark) : Measure :=
  (measure.map (·.record mark)).getD mark.first

namespace Registry

open Association (lookup_cons_eq_ite)

theorem lookup_markAll (key other : SeriesKey) (mark : Mark)
    (series : List (SeriesKey × Measure)) :
    (markAll key mark series).lookup other =
      if other = key then some (Measure.after (series.lookup key) mark)
      else series.lookup other := by
  induction series with
  | nil => rw [markAll, lookup_cons_eq_ite, List.lookup_nil, List.lookup_nil, Measure.after,
      Option.map_none, Option.getD_none]
  | cons entry rest ih =>
    obtain ⟨head, measure⟩ := entry
    rw [markAll, lookup_cons_eq_ite key, lookup_cons_eq_ite other]
    split
    next found =>
      subst found
      rw [lookup_cons_eq_ite, if_pos rfl, Measure.after, Option.map_some, Option.getD_some]
      by_cases same : other = head <;> simp [same]
    next missed =>
      rw [lookup_cons_eq_ite, ih, if_neg (Ne.symm missed)]
      by_cases first : other = head
      · subst first
        rw [if_pos rfl, if_neg missed, if_pos rfl]
      · rw [if_neg first, if_neg first]

theorem get?_mark (r : Registry) (key other : SeriesKey) (mark : Mark) :
    (r.mark key mark).get? other =
      if other = key then some (Measure.after (r.get? key) mark) else r.get? other :=
  lookup_markAll key other mark r.series

/-- The registry after a list of recordings. -/
def markEach (r : Registry) (marks : List (SeriesKey × Mark)) : Registry :=
  marks.foldl (fun r (key, mark) => r.mark key mark) r

theorem record_eq (r : Registry) (chain : String) (event : Event) :
    r.record chain event = r.markEach (marksOf chain event) := rfl

theorem markEach_cons (r : Registry) (key : SeriesKey) (mark : Mark)
    (rest : List (SeriesKey × Mark)) :
    r.markEach ((key, mark) :: rest) = (r.mark key mark).markEach rest := rfl

/-- What is recorded elsewhere leaves a series as it is. -/
theorem get?_markEach_of_ne {marks : List (SeriesKey × Mark)} {key : SeriesKey}
    (elsewhere : ∀ entry ∈ marks, entry.1 ≠ key) (r : Registry) :
    (r.markEach marks).get? key = r.get? key := by
  induction marks generalizing r with
  | nil => rfl
  | cons entry rest ih =>
    obtain ⟨first, mark⟩ := entry
    have other : key ≠ first := Ne.symm (elsewhere (first, mark) List.mem_cons_self)
    rw [markEach_cons, ih fun entry mem => elsewhere entry (List.mem_cons_of_mem _ mem), get?_mark,
      if_neg other]

/-- A series with a running total, which exists once something was counted. -/
def counter? (total : Nat) : Option Measure := if total = 0 then none else some (.counter total)

/-- A series of samples, which exists once there is one. -/
def histogram? (samples : List Rat) : Option Measure :=
  if samples = [] then none else some (.histogram samples)

theorem after_counter? (total : Nat) :
    some (Measure.after (counter? total) .increment) = counter? (total + 1) := by
  unfold counter?
  split
  next none =>
    subst none
    rfl
  next => rfl

theorem after_histogram? (samples : List Rat) (x : Rat) :
    some (Measure.after (histogram? samples) (.sample x)) = histogram? (samples ++ [x]) := by
  unfold histogram?
  split
  next none =>
    subst none
    rfl
  next => simp [Measure.after, Measure.record]

/-- How often something is recorded in a series. -/
def recordings (key : SeriesKey) (marks : List (SeriesKey × Mark)) : Nat :=
  marks.countP fun entry => entry.1 = key

/-- A series in which everything counts one shows how often something was recorded in it. -/
theorem get?_markEach_counter {marks : List (SeriesKey × Mark)} {key : SeriesKey} {r : Registry}
    {total : Nat} (counts : ∀ mark, (key, mark) ∈ marks → mark = .increment)
    (shown : r.get? key = counter? total) :
    (r.markEach marks).get? key = counter? (total + recordings key marks) := by
  induction marks generalizing r total with
  | nil => exact shown
  | cons entry rest ih =>
    obtain ⟨first, mark⟩ := entry
    have later : ∀ mark, (key, mark) ∈ rest → mark = .increment := by
      intro mark mem
      exact counts mark (List.mem_cons_of_mem _ mem)
    rw [markEach_cons]
    by_cases here : key = first
    · subst here
      obtain rfl : mark = .increment := counts mark List.mem_cons_self
      have raised : (r.mark key .increment).get? key = counter? (total + 1) := by
        rw [get?_mark, if_pos rfl, shown, after_counter?]
      rw [ih later raised, recordings, recordings, List.countP_cons_of_pos (by simp)]
      congr 1
      omega
    · have kept : (r.mark first mark).get? key = counter? total := by
        rw [get?_mark, if_neg here, shown]
      rw [ih later kept, recordings, recordings, List.countP_cons_of_neg]
      simpa using Ne.symm here

/-! ## The series of a chain -/

theorem seriesOf_inj {chain name name' : String} :
    seriesOf chain name = seriesOf chain name' ↔ name = name' := by
  simp [seriesOf]

theorem refreshSeries_inj {chain status status' : String} :
    refreshSeries chain status = refreshSeries chain status' ↔ status = status' := by
  simp [refreshSeries]

theorem seriesOf_ne_refreshSeries {chain name status : String} :
    seriesOf chain name ≠ refreshSeries chain status := by
  simp [seriesOf, refreshSeries]

/-- The series of the times that the refreshes of a chain took. -/
def durationsOf (chain : String) : SeriesKey :=
  seriesOf chain "credential_cache_refresh_duration_seconds"

/-- All that an event records is labelled with its chain, and with no other. -/
theorem label_of_mem_marksOf {chain other : String} {event : Event} {entry : SeriesKey × Mark}
    (mem : entry ∈ marksOf chain event) :
    ("chain", other) ∈ entry.1.labels ↔ other = chain := by
  cases event with
  | hit | miss | refreshed took | refreshFailed =>
    simp only [marksOf, List.mem_cons, List.not_mem_nil, or_false] at mem
    rcases mem with rfl | rfl <;> simp [seriesOf, refreshSeries]
  | outageServed | rateLimited | retried =>
    obtain rfl := List.mem_singleton.1 mem
    simp [seriesOf]

/-- An event of one chain leaves the series of another as they are. -/
theorem get?_record_of_label {chain other : String} {key : SeriesKey}
    (label : ("chain", other) ∈ key.labels) (different : other ≠ chain) (r : Registry)
    (event : Event) : (r.record chain event).get? key = r.get? key := by
  rw [record_eq]
  apply get?_markEach_of_ne
  intro entry mem same
  apply different
  rw [← label_of_mem_marksOf mem, same]
  exact label

end Registry

open Registry (seriesOf refreshSeries durationsOf marksOf counter? histogram? recordings)

/-- The series of a chain that count, each with what it has to show, given the counts of the
chain. -/
def countingSeries {α : Type} [Sub α] (chain : String)
    (requests hits refreshes refreshErrors outageServes rateLimited retries : α) :
    List (SeriesKey × α) :=
  [(seriesOf chain "credential_cache_requests_total", requests),
   (seriesOf chain "credential_cache_hits_total", hits),
   (seriesOf chain "credential_cache_misses_total", requests - hits),
   (refreshSeries chain "success", refreshes),
   (refreshSeries chain "error", refreshErrors),
   (seriesOf chain "credential_cache_refresh_errors_total", refreshErrors),
   (seriesOf chain "credential_cache_outage_serves_total", outageServes),
   (seriesOf chain "credential_cache_rate_limited_total", rateLimited),
   (seriesOf chain "credential_cache_retries_total", retries)]

/-- What the series that count have to show for the counts of a chain. -/
def Tally.exported (chain : String) (t : Tally) : List (SeriesKey × Nat) :=
  countingSeries chain t.requests t.hits t.refreshes t.refreshErrors t.outageServes t.rateLimited
    t.retries

/-- What the series that count have to show for a snapshot. -/
def Snapshot.exported (chain : String) (s : Snapshot) : List (SeriesKey × UInt64) :=
  countingSeries chain s.totalRequests s.cacheHits s.refreshSuccesses s.refreshErrors
    s.outageServes s.rateLimited s.retries

/-- The sample that an event adds to the durations. -/
def Event.sample? : Event → Option Rat
  | .refreshed took => some (floatSeconds took)
  | _ => none

/-- The counts after a list of events. -/
def Tally.of (events : List Event) : Tally := events.foldl Tally.record Tally.empty

namespace Tally

variable {chain : String} {t : Tally} {key : SeriesKey} {total : Nat}

/-- An event adds to the table what it records in the series. -/
theorem exported_record (h : t.hits ≤ t.requests) (event : Event) :
    (t.record event).exported chain =
      (t.exported chain).map fun entry =>
        (entry.1, entry.2 + recordings entry.1 (marksOf chain event)) := by
  have missed : t.requests + 1 - t.hits = t.requests - t.hits + 1 := by omega
  cases event <;>
    simp [exported, countingSeries, record, recordings, marksOf, Registry.seriesOf_inj,
      Registry.refreshSeries_inj, Registry.seriesOf_ne_refreshSeries,
      Ne.symm Registry.seriesOf_ne_refreshSeries, missed]

/-- The series of the table only count. -/
theorem increment_of_exported (mem : (key, total) ∈ t.exported chain) {event : Event} {mark : Mark}
    (marked : (key, mark) ∈ marksOf chain event) : mark = .increment := by
  cases event with
  | refreshed took =>
    simp only [marksOf, List.mem_cons, Prod.mk.injEq, List.not_mem_nil, or_false] at marked
    rcases marked with ⟨-, rfl⟩ | ⟨rfl, -⟩
    · rfl
    · -- the series of the durations is not in the table
      simp [exported, countingSeries, Registry.seriesOf_inj,
        Registry.seriesOf_ne_refreshSeries] at mem
  | hit | miss | refreshFailed =>
    simp only [marksOf, List.mem_cons, Prod.mk.injEq, List.not_mem_nil, or_false] at marked
    rcases marked with ⟨-, rfl⟩ | ⟨-, rfl⟩ <;> rfl
  | outageServed | rateLimited | retried =>
    exact (Prod.mk.inj (List.mem_singleton.1 marked)).2

/-- There is no hit without a request. -/
theorem hits_le_record (h : t.hits ≤ t.requests) (event : Event) :
    (t.record event).hits ≤ (t.record event).requests := by
  cases event <;> simp only [record] <;> omega

theorem of_append (events : List Event) (event : Event) :
    of (events ++ [event]) = (of events).record event := by
  simp [of]

theorem hits_le_of (events : List Event) : (of events).hits ≤ (of events).requests := by
  induction events using List.reverseRecOn with
  | nil => exact Nat.le_refl 0
  | append_singleton events event ih =>
    rw [of_append]
    exact hits_le_record ih event

/-- There is one sample for each refresh. -/
theorem refreshes_of (events : List Event) :
    (of events).refreshes = (events.filterMap Event.sample?).length := by
  induction events using List.reverseRecOn with
  | nil => rfl
  | append_singleton events event ih =>
    rw [of_append, List.filterMap_append, List.length_append, ← ih]
    cases event <;> rfl

/-- An event is recorded at most once in a series. -/
theorem recordings_le_one (key : SeriesKey) (chain : String) (event : Event) :
    recordings key (marksOf chain event) ≤ 1 := by
  have distinct : ((marksOf chain event).map Prod.fst).Nodup := by
    cases event <;>
      simp [marksOf, Registry.seriesOf_inj, Ne.symm Registry.seriesOf_ne_refreshSeries]
  have count := List.nodup_iff_count_le_one.mp distinct key
  rw [List.count, List.countP_map] at count
  exact count

/-- No series counts more than there were events. -/
theorem exported_of_le (events : List Event) {entry : SeriesKey × Nat}
    (mem : entry ∈ (of events).exported chain) : entry.2 ≤ events.length := by
  induction events using List.reverseRecOn generalizing entry with
  | nil =>
    simp only [exported, countingSeries, of, empty, List.foldl_nil, List.mem_cons,
      List.not_mem_nil, or_false] at mem
    rcases mem with rfl | rfl | rfl | rfl | rfl | rfl | rfl | rfl | rfl <;> exact Nat.le_refl 0
  | append_singleton events event ih =>
    rw [of_append, exported_record (hits_le_of events)] at mem
    obtain ⟨before, found, rfl⟩ := List.mem_map.1 mem
    have once := recordings_le_one before.1 chain event
    have less := ih found
    rw [List.length_append, List.length_singleton]
    simp only
    omega

theorem toNat_toUInt64 {n : Nat} (fits : n < UInt64.size) : n.toUInt64.toNat = n :=
  UInt64.toNat_ofNat_of_lt' fits

/-- A snapshot shows the table as it is while every count fits. -/
theorem exported_snapshot (h : t.hits ≤ t.requests)
    (fits : ∀ entry ∈ t.exported chain, entry.2 < UInt64.size) :
    (t.snapshot.exported chain).map (fun entry => (entry.1, entry.2.toNat)) =
      t.exported chain := by
  simp only [exported, countingSeries, List.forall_mem_cons] at fits
  obtain ⟨requests, hits, -, refreshes, errors, -, serves, limited, retries, -⟩ := fits
  have missed : (t.requests.toUInt64 - t.hits.toUInt64).toNat = t.requests - t.hits := by
    rw [UInt64.toNat_sub_of_le, toNat_toUInt64 requests, toNat_toUInt64 hits]
    rw [UInt64.le_iff_toNat_le, toNat_toUInt64 requests, toNat_toUInt64 hits]
    exact h
  simp only [exported, Snapshot.exported, countingSeries, snapshot, List.map_cons, List.map_nil,
    missed, toNat_toUInt64 requests, toNat_toUInt64 hits, toNat_toUInt64 refreshes,
    toNat_toUInt64 errors, toNat_toUInt64 serves, toNat_toUInt64 limited, toNat_toUInt64 retries]

end Tally

/-! ## Agreement -/

/-- The registry shows the events of a chain: the table of its counts, the samples of its refreshes,
and nothing else under its name. -/
structure Booked (chain : String) (events : List Event) (r : Registry) : Prop where
  counters : ∀ entry ∈ (Tally.of events).exported chain, r.get? entry.1 = counter? entry.2
  durations : r.get? (durationsOf chain) = histogram? (events.filterMap Event.sample?)
  only : ∀ key, ("chain", chain) ∈ key.labels →
    key ∉ durationsOf chain :: ((Tally.of events).exported chain).map Prod.fst → r.get? key = none

namespace Booked

variable {chain : String} {events : List Event} {r : Registry}

/-- Nothing is booked yet. -/
theorem empty (chain : String) : Booked chain [] Registry.empty where
  counters := by
    intro entry mem
    have zero : entry.2 = 0 := by
      simp only [Tally.exported, countingSeries, Tally.of, Tally.empty, List.foldl_nil,
        List.mem_cons, List.not_mem_nil, or_false] at mem
      rcases mem with rfl | rfl | rfl | rfl | rfl | rfl | rfl | rfl | rfl <;> rfl
    rw [zero]
    rfl
  durations := rfl
  only := fun _ _ _ => rfl

/-- The series of the table and that of the durations are those of the chain, whatever was
counted. -/
theorem keys_eq (t t' : Tally) :
    (t.exported chain).map Prod.fst = (t'.exported chain).map Prod.fst := rfl

/-- What an event records is recorded in these series. -/
theorem mem_keys_of_mem_marksOf (t : Tally) {event : Event} {entry : SeriesKey × Mark}
    (mem : entry ∈ marksOf chain event) :
    entry.1 ∈ durationsOf chain :: (t.exported chain).map Prod.fst := by
  cases event with
  | hit | miss | refreshed took | refreshFailed =>
    simp only [marksOf, List.mem_cons, List.not_mem_nil, or_false] at mem
    rcases mem with rfl | rfl <;> simp [Tally.exported, countingSeries, durationsOf]
  | outageServed | rateLimited | retried =>
    obtain rfl := List.mem_singleton.1 mem
    simp [Tally.exported, countingSeries]

/-- An event adds its sample to the durations, if it has one. -/
theorem durations_record (shown : r.get? (durationsOf chain) =
      histogram? (events.filterMap Event.sample?)) (event : Event) :
    (r.record chain event).get? (durationsOf chain) =
      histogram? ((events ++ [event]).filterMap Event.sample?) := by
  cases event with
  | refreshed took =>
    have first : durationsOf chain ≠ refreshSeries chain "success" :=
      Registry.seriesOf_ne_refreshSeries
    have marked : (r.record chain (.refreshed took)).get? (durationsOf chain) =
        some (Measure.after (r.get? (durationsOf chain)) (.sample (floatSeconds took))) := by
      rw [Registry.record_eq, marksOf, Registry.markEach_cons, Registry.markEach_cons,
        Registry.markEach, List.foldl_nil, ← durationsOf, Registry.get?_mark, if_pos rfl,
        Registry.get?_mark, if_neg first]
    rw [marked, shown, Registry.after_histogram?, List.filterMap_append]
    rfl
  | hit | miss | refreshFailed | outageServed | rateLimited | retried =>
    rw [Registry.record_eq, Registry.get?_markEach_of_ne ?_ r, shown]
    · simp [List.filterMap_cons, Event.sample?]
    · simp [marksOf, durationsOf, Registry.seriesOf_inj,
        Ne.symm Registry.seriesOf_ne_refreshSeries]

/-- An event of the chain is booked in both books. -/
theorem own (h : Booked chain events r) (event : Event) :
    Booked chain (events ++ [event]) (r.record chain event) where
  counters := by
    rw [Tally.of_append, Tally.exported_record (Tally.hits_le_of events)]
    intro entry mem
    obtain ⟨⟨key, total⟩, before, rfl⟩ := List.mem_map.1 mem
    rw [Registry.record_eq]
    apply Registry.get?_markEach_counter
    · intro mark marked
      exact Tally.increment_of_exported before marked
    · exact h.counters _ before
  durations := durations_record h.durations event
  only := by
    intro key label outside
    rw [keys_eq _ (Tally.of events)] at outside
    rw [Registry.record_eq, Registry.get?_markEach_of_ne ?_ r]
    · exact h.only key label outside
    · intro entry mem same
      exact outside (same ▸ mem_keys_of_mem_marksOf _ mem)

/-- An event of another chain touches nothing of this one. -/
theorem foreign (h : Booked chain events r) {other : String} (different : chain ≠ other)
    (event : Event) : Booked chain events (r.record other event) where
  counters := by
    intro entry mem
    rw [Registry.get?_record_of_label ?_ different]
    · exact h.counters entry mem
    · simp only [Tally.exported, countingSeries, List.mem_cons, List.not_mem_nil, or_false] at mem
      rcases mem with rfl | rfl | rfl | rfl | rfl | rfl | rfl | rfl | rfl <;>
        simp [seriesOf, refreshSeries]
  durations := by
    rw [Registry.get?_record_of_label ?_ different]
    · exact h.durations
    · simp [durationsOf, seriesOf]
  only := by
    intro key label outside
    rw [Registry.get?_record_of_label label different]
    exact h.only key label outside

end Booked

namespace Meters

variable {m : Meters} {position : Nat} {event : Event}

/-- The meters after a list of bookings, each an event for the meter at a position. -/
def recordAll (m : Meters) (bookings : List (Nat × Event)) : Meters :=
  bookings.foldl (fun m (position, event) => m.record position event) m

/-- The events that are booked in the meter at a position. -/
def eventsAt (position : Nat) (bookings : List (Nat × Event)) : List Event :=
  (bookings.filter (·.1 = position)).map Prod.snd

@[simp] theorem name_record (m : Meters) (position other : Nat) (event : Event) :
    (m.record position event).name other = m.name other := by
  simp only [name, record, List.getElem?_modify]
  cases m.meters[other]? with
  | none => rfl
  | some meter =>
    by_cases here : position = other <;> simp [here]

theorem tally_record (metered : position < m.meters.length) (event : Event) :
    (m.record position event).tally position = (m.tally position).record event := by
  simp [tally, record, List.getElem?_eq_getElem metered]

theorem tally_record_of_ne {other : Nat} (different : position ≠ other) (event : Event) :
    (m.record position event).tally other = m.tally other := by
  simp [tally, record, different]

@[simp] theorem length_record (m : Meters) (position : Nat) (event : Event) :
    (m.record position event).meters.length = m.meters.length := by
  simp [record]

theorem recordAll_append (m : Meters) (bookings : List (Nat × Event)) (booking : Nat × Event) :
    m.recordAll (bookings ++ [booking]) = (m.recordAll bookings).record booking.1 booking.2 := by
  simp [recordAll]

theorem eventsAt_append_self (bookings : List (Nat × Event)) :
    eventsAt position (bookings ++ [(position, event)]) =
      eventsAt position bookings ++ [event] := by
  simp [eventsAt]

theorem eventsAt_append_of_ne {other : Nat} (bookings : List (Nat × Event))
    (different : other ≠ position) :
    eventsAt position (bookings ++ [(other, event)]) = eventsAt position bookings := by
  simp [eventsAt, different]

@[simp] theorem name_recordAll (m : Meters) (bookings : List (Nat × Event)) (other : Nat) :
    (m.recordAll bookings).name other = m.name other := by
  induction bookings using List.reverseRecOn with
  | nil => rfl
  | append_singleton bookings booking ih => rw [recordAll_append, name_record, ih]

@[simp] theorem length_recordAll (m : Meters) (bookings : List (Nat × Event)) :
    (m.recordAll bookings).meters.length = m.meters.length := by
  induction bookings using List.reverseRecOn with
  | nil => rfl
  | append_singleton bookings booking ih => rw [recordAll_append, length_record, ih]

section Run

variable {names : List String} {bookings : List (Nat × Event)}

/-- The counts of a chain are those of its events. -/
theorem tally_recordAll (metered : position < names.length) (bookings : List (Nat × Event)) :
    ((named names).recordAll bookings).tally position = Tally.of (eventsAt position bookings) := by
  induction bookings using List.reverseRecOn with
  | nil => simp [recordAll, eventsAt, tally, named, metered, Tally.of]
  | append_singleton bookings booking ih =>
    obtain ⟨other, event⟩ := booking
    rw [recordAll_append]
    by_cases here : other = position
    · subst here
      rw [tally_record (by simpa [named] using metered), ih, eventsAt_append_self, Tally.of_append]
    · rw [tally_record_of_ne here, ih, eventsAt_append_of_ne _ here]

/-- The registry shows the events of a chain after any bookings of it and of chains with other
names. -/
theorem booked_recordAll (alone : ∀ booking ∈ bookings, booking.1 ≠ position →
      (named names).name booking.1 ≠ (named names).name position) :
    Booked ((named names).name position) (eventsAt position bookings)
      ((named names).recordAll bookings).registry := by
  induction bookings using List.reverseRecOn with
  | nil => exact Booked.empty _
  | append_singleton bookings booking ih =>
    obtain ⟨other, event⟩ := booking
    have booked := ih fun booking mem => alone booking (List.mem_append_left _ mem)
    rw [recordAll_append, record, name_recordAll]
    by_cases here : other = position
    · subst here
      rw [eventsAt_append_self]
      exact booked.own event
    · rw [eventsAt_append_of_ne _ here]
      have different := alone (other, event) (by simp) here
      exact booked.foreign (Ne.symm different) event

/-- **What a chain reports of itself and what the registry shows of it agree**, whatever was booked,
also in chains with other names: each series that counts shows what the snapshot has for it, and
exists just if that is not zero; the durations have a sample for each refresh; nothing else is
recorded under the name of the chain; and an event of the chain changes no series of another. -/
theorem snapshot_agrees_with_registry (metered : position < names.length)
    (alone : ∀ booking ∈ bookings, booking.1 ≠ position →
      (named names).name booking.1 ≠ (named names).name position)
    (few : (eventsAt position bookings).length < UInt64.size) :
    let m := (named names).recordAll bookings
    let chain := m.name position
    let s := (m.tally position).snapshot
    let samples := (eventsAt position bookings).filterMap Event.sample?
    (∀ entry ∈ s.exported chain, m.registry.get? entry.1 = counter? entry.2.toNat) ∧
      m.registry.get? (durationsOf chain) = histogram? samples ∧
      samples.length = s.refreshSuccesses.toNat ∧
      (∀ key, ("chain", chain) ∈ key.labels →
        key ∉ durationsOf chain :: (s.exported chain).map Prod.fst → m.registry.get? key = none) ∧
      ∀ event other key, ("chain", other) ∈ key.labels → other ≠ chain →
        (m.record position event).registry.get? key = m.registry.get? key := by
  intro m chain s samples
  have name : chain = (named names).name position := name_recordAll _ _ _
  have counts : m.tally position = Tally.of (eventsAt position bookings) :=
    tally_recordAll metered bookings
  have booked : Booked chain (eventsAt position bookings) m.registry := by
    rw [name]
    exact booked_recordAll alone
  have hits := Tally.hits_le_of (eventsAt position bookings)
  have fits : ∀ entry ∈ (Tally.of (eventsAt position bookings)).exported chain,
      entry.2 < UInt64.size := by
    intro entry mem
    exact Nat.lt_of_le_of_lt (Tally.exported_of_le _ mem) few
  have table := Tally.exported_snapshot hits fits
  rw [← counts] at table
  refine ⟨?_, booked.durations, ?_, ?_, ?_⟩
  · intro entry mem
    apply booked.counters (entry.1, entry.2.toNat)
    rw [← counts, ← table]
    exact List.mem_map_of_mem mem
  · have kept := List.length_filterMap_le Event.sample? (eventsAt position bookings)
    show samples.length = ((m.tally position).refreshes.toUInt64).toNat
    rw [counts, Tally.refreshes_of, Tally.toNat_toUInt64 (by omega)]
  · intro key label outside
    exact booked.only key label outside
  · intro event other key label different
    exact Registry.get?_record_of_label label different m.registry event

/-- Bookings of two chains in turn. -/
def mixedBookings : List (Nat × Event) :=
  [(0, .miss), (1, .hit), (0, .refreshed 1500000000), (1, .refreshFailed), (0, .hit),
   (1, .retried), (0, .refreshed 0)]

/-- The first of them has two requests, one of them a miss, and two refreshes. -/
theorem mixed_bookings_agree :
    let m := (named ["jwks", "token"]).recordAll mixedBookings
    let s := (m.tally 0).snapshot
    s.totalRequests = 2 ∧ s.cacheHits = 1 ∧ s.refreshSuccesses = 2 ∧ s.retries = 0 ∧
      m.registry.get? (seriesOf "jwks" "credential_cache_misses_total") = some (.counter 1) ∧
      m.registry.get? (refreshSeries "jwks" "success") = some (.counter 2) ∧
      m.registry.get? (seriesOf "jwks" "credential_cache_retries_total") = none ∧
      m.registry.get? (durationsOf "jwks") = some (.histogram [3 / 2, 0]) := by
  intro m s
  have alone : ∀ booking ∈ mixedBookings, booking.1 ≠ 0 →
      (named ["jwks", "token"]).name booking.1 ≠ (named ["jwks", "token"]).name 0 := by
    decide
  have metered : 0 < ["jwks", "token"].length := by decide
  obtain ⟨counters, durations, -⟩ :=
    snapshot_agrees_with_registry metered alone (by decide)
  have took : floatSeconds 1500000000 = 3 / 2 ∧ floatSeconds 0 = 0 := by decide +kernel
  have samples : (eventsAt 0 mixedBookings).filterMap Event.sample? = [3 / 2, 0] := by
    rw [← took.1, ← took.2]
    rfl
  rw [samples] at durations
  refine ⟨rfl, rfl, rfl, rfl, ?_, ?_, ?_, durations⟩
  · exact counters (_, 1) (by decide)
  · exact counters (_, 2) (by decide)
  · exact counters (_, 0) (by decide)

end Run

end Meters

end CredentialSupply
