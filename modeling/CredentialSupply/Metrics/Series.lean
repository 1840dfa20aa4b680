import CredentialSupply.Metrics.Event
import CredentialSupply.Time.FloatSeconds

set_option autoImplicit false

/-!
# Exported series

Besides the counts that a chain keeps for itself, every event goes to a registry of named and
labelled series that all chains share. A series exists once something was recorded in it.
-/

namespace CredentialSupply

/-- Name and labels of a series. -/
structure SeriesKey where
  name : String
  labels : List (String × String)
  deriving DecidableEq

/-- What a series holds: a running total, or the samples in the order of recording. -/
inductive Measure where
  | counter (total : Nat)
  | histogram (samples : List Rat)

/-- What is recorded at once in one series: one more, or one sample. -/
inductive Mark where
  | increment
  | sample (x : Rat)

/-- The first content of a series. -/
def Mark.first : Mark → Measure
  | .increment => .counter 1
  | .sample x => .histogram [x]

/-- The content of a series after one more recording. -/
def Measure.record : Measure → Mark → Measure
  | .counter total, .increment => .counter (total + 1)
  | .histogram samples, .sample x => .histogram (samples ++ [x])
  | measure, _ => measure

/-- All series, in the order in which they came to exist. -/
structure Registry where
  series : List (SeriesKey × Measure)

namespace Registry

/-- No series. -/
def empty : Registry := ⟨[]⟩

/-- The content of a series. -/
def get? (r : Registry) (key : SeriesKey) : Option Measure := r.series.lookup key

/-- Series with one more recording under `key`. -/
def markAll (key : SeriesKey) (mark : Mark) :
    List (SeriesKey × Measure) → List (SeriesKey × Measure)
  | [] => [(key, mark.first)]
  | (other, measure) :: rest =>
      if other = key then (other, measure.record mark) :: rest
      else (other, measure) :: markAll key mark rest

/-- The registry after one recording. -/
def mark (r : Registry) (key : SeriesKey) (mark : Mark) : Registry :=
  ⟨markAll key mark r.series⟩

/-- The series of a chain. -/
def seriesOf (chain name : String) : SeriesKey := ⟨name, [("chain", chain)]⟩

/-- The series of a chain's refreshes with one result. -/
def refreshSeries (chain status : String) : SeriesKey :=
  ⟨"credential_cache_refresh_total", [("chain", chain), ("status", status)]⟩

/-- The series in which an event of a chain is recorded, and what is recorded there. -/
def marksOf (chain : String) : Event → List (SeriesKey × Mark)
  | .hit =>
      [(seriesOf chain "credential_cache_requests_total", .increment),
       (seriesOf chain "credential_cache_hits_total", .increment)]
  | .miss =>
      [(seriesOf chain "credential_cache_requests_total", .increment),
       (seriesOf chain "credential_cache_misses_total", .increment)]
  | .refreshed took =>
      [(refreshSeries chain "success", .increment),
       (seriesOf chain "credential_cache_refresh_duration_seconds", .sample (floatSeconds took))]
  | .refreshFailed =>
      [(refreshSeries chain "error", .increment),
       (seriesOf chain "credential_cache_refresh_errors_total", .increment)]
  | .outageServed => [(seriesOf chain "credential_cache_outage_serves_total", .increment)]
  | .rateLimited => [(seriesOf chain "credential_cache_rate_limited_total", .increment)]
  | .retried => [(seriesOf chain "credential_cache_retries_total", .increment)]

/-- The registry after an event of a chain. -/
def record (r : Registry) (chain : String) (event : Event) : Registry :=
  (marksOf chain event).foldl (fun r (key, m) => r.mark key m) r

end Registry

end CredentialSupply
