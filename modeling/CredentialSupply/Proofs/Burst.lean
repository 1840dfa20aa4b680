import CredentialSupply.Proofs.History

set_option autoImplicit false

/-!
# Bursts of callers

Callers who come to a cache without a valid entry stand in line for its lock. `Burst` tells step
by step what becomes of them. The first one in line makes an inner call. If no entry comes of
it, the caller goes with the outcome of its own call, and the next one is the first. If an entry
comes of it, all who stand in line go with that entry, one after the other. `Burst.facts` says
what a whole burst amounts to, and the theorems after it say the same caller by caller.
-/

namespace CredentialSupply

variable {V : Type}

/-- The end of a fetch at a cache: the task that made it, its outcome, and the instant. -/
structure Return (V : Type) where
  task : TaskId
  outcome : Outcome V
  instant : Instant

/-- What becomes of the outcome of an inner call that installs no entry. A value whose stamp the
clock does not represent crashes the caller. -/
def Outcome.lost : Outcome V → Outcome V
  | .value _ => .crashed
  | outcome => outcome

namespace InnerEnd

/-- The entry that is installed when an inner call has ended. -/
def entry? [Perishable V] (l : Lifetime) (x : InnerEnd V) : Option (Entry V) :=
  match x.outcome with
  | .value v => l.entry? v x.instant
  | _ => none

/-- How the caller returns when no entry is installed: with the failure of its own call. -/
def own (x : InnerEnd V) : Return V := ⟨x.task, x.outcome.lost, x.instant⟩

theorem map_task_own (xs : List (InnerEnd V)) :
    (xs.map own).map Return.task = xs.map task := by
  rw [List.map_map]
  rfl

theorem installedAt_of_entry? [Perishable V] {l : Lifetime} {x : InnerEnd V} {e : Entry V}
    (h : x.entry? l = some e) : e.installedAt = x.instant := by
  unfold entry? at h
  split at h
  · exact Lifetime.installedAt_of_entry? h
  · cases h

end InnerEnd

/-- What has happened at a cache: the tasks that came and those that began an inner call, the ends
of the inner calls, and the ends of the fetches. -/
structure Log (V : Type) where
  came : List TaskId
  called : List TaskId
  ended : List (InnerEnd V)
  returned : List (Return V)

/-- Nothing has happened. -/
def Log.blank : Log V := ⟨[], [], [], []⟩

/-- The course of a burst, with what has happened, the callers who stand in line, the one who is
in its inner call, and the entry that was installed. `prompt` says that no time passes while
somebody could go on. -/
inductive Burst [Perishable V] (l : Lifetime) (prompt : Prop) :
    Log V → List TaskId → Option TaskId → Option (Entry V) → Prop where
  | start : Burst l prompt .blank [] none none
  /-- Somebody comes. -/
  | come {log : Log V} {line : List TaskId} {calling : Option TaskId} (id : TaskId) :
      Burst l prompt log line calling none →
      Burst l prompt { log with came := log.came ++ [id] } (line ++ [id]) calling none
  /-- The first one in line begins an inner call. -/
  | call {log : Log V} {id : TaskId} {line : List TaskId} :
      Burst l prompt log (id :: line) none none →
      Burst l prompt { log with called := log.called ++ [id] } (id :: line) (some id) none
  /-- No entry comes of the inner call. -/
  | fail {log : Log V} {line : List TaskId} (x : InnerEnd V) (lost : x.entry? l = none) :
      Burst l prompt log (x.task :: line) (some x.task) none →
      Burst l prompt { log with ended := log.ended ++ [x], returned := log.returned ++ [x.own] }
        line none none
  /-- An entry comes of the inner call. -/
  | succeed {log : Log V} {line : List TaskId} {e : Entry V} (x : InnerEnd V)
      (installed : x.entry? l = some e) :
      Burst l prompt log (x.task :: line) (some x.task) none →
      Burst l prompt
        { log with
          ended := log.ended ++ [x]
          returned := log.returned ++ [⟨x.task, e.outcome x.instant, x.instant⟩] }
        line none (some e)
  /-- The first one in line takes the entry over. -/
  | share {log : Log V} {id : TaskId} {line : List TaskId} {e : Entry V} (now : Instant)
      (soon : prompt → now = e.installedAt) :
      Burst l prompt log (id :: line) none (some e) →
      Burst l prompt { log with returned := log.returned ++ [⟨id, e.outcome now, now⟩] }
        line none (some e)

namespace Burst

variable [Perishable V] {l : Lifetime} {prompt : Prop} {log : Log V} {line : List TaskId}
  {calling : Option TaskId} {installed : Option (Entry V)}

/-- The ends of inner calls and of fetches in a burst in which the entry `e` was installed: some
inner calls failed, the last one succeeded, and its caller and those after it returned with
the entry. -/
structure Served (l : Lifetime) (prompt : Prop) (log : Log V) (e : Entry V)
    (failed : List (InnerEnd V)) (last : InnerEnd V) (shares : List (Return V)) : Prop where
  ended : log.ended = failed ++ [last]
  lost : ∀ x ∈ failed, x.entry? l = none
  installed : last.entry? l = some e
  returned : log.returned =
    failed.map InnerEnd.own ++ ⟨last.task, e.outcome last.instant, last.instant⟩ :: shares
  shared : ∀ s ∈ shares, s.outcome = e.outcome s.instant ∧ (prompt → s.instant = last.instant)

/-- What a burst amounts to. -/
structure Facts (l : Lifetime) (prompt : Prop) (log : Log V) (line : List TaskId)
    (calling : Option TaskId) (installed : Option (Entry V)) : Prop where
  /-- Those who came have returned or stand in line, in the order in which they came. -/
  order : log.came = log.returned.map Return.task ++ line
  /-- An inner call has ended before the next one begins. -/
  calls : log.called = log.ended.map InnerEnd.task ++ calling.toList
  first : ∀ id, calling = some id → line.head? = some id
  failing : installed = none →
    (∀ x ∈ log.ended, x.entry? l = none) ∧ log.returned = log.ended.map InnerEnd.own
  served : ∀ e, installed = some e →
    calling = none ∧ ∃ failed last shares, Served l prompt log e failed last shares

theorem Facts.start : Facts l prompt (.blank : Log V) [] none none := by
  refine ⟨rfl, rfl, ?_, ?_, ?_⟩
  · intro id hid
    cases hid
  · intro _
    constructor
    · intro x hx
      cases hx
    · rfl
  · intro e he
    cases he

theorem Facts.come (h : Facts l prompt log line calling none) (id : TaskId) :
    Facts l prompt { log with came := log.came ++ [id] } (line ++ [id]) calling none := by
  refine ⟨?_, h.calls, ?_, h.failing, ?_⟩
  · show log.came ++ [id] = _
    rw [h.order, List.append_assoc]
  · -- whoever comes stands behind the one who is in its inner call
    intro i hi
    have hhead := h.first i hi
    cases line with
    | nil => cases hhead
    | cons first rest => exact hhead
  · intro e he
    cases he

theorem Facts.call {id : TaskId} (h : Facts l prompt log (id :: line) none none) :
    Facts l prompt { log with called := log.called ++ [id] } (id :: line) (some id) none := by
  refine ⟨h.order, ?_, ?_, h.failing, ?_⟩
  · show log.called ++ [id] = _
    rw [h.calls]
    simp
  · intro i hi
    cases hi
    rfl
  · intro e he
    cases he

theorem Facts.fail {x : InnerEnd V} (lost : x.entry? l = none)
    (h : Facts l prompt log (x.task :: line) (some x.task) none) :
    Facts l prompt { log with ended := log.ended ++ [x], returned := log.returned ++ [x.own] }
      line none none := by
  obtain ⟨hlost, hreturned⟩ := h.failing rfl
  refine ⟨?_, ?_, ?_, ?_, ?_⟩
  · rw [h.order]
    simp [InnerEnd.own]
  · rw [h.calls]
    simp
  · intro i hi
    cases hi
  · intro _
    constructor
    · intro y hy
      rcases List.mem_append.1 hy with hy | hy
      · exact hlost y hy
      · rw [List.mem_singleton.1 hy]
        exact lost
    · show log.returned ++ [x.own] = _
      rw [hreturned, List.map_append]
      rfl
  · intro e he
    cases he

theorem Facts.succeed {x : InnerEnd V} {e : Entry V} (entry : x.entry? l = some e)
    (h : Facts l prompt log (x.task :: line) (some x.task) none) :
    Facts l prompt
      { log with
        ended := log.ended ++ [x]
        returned := log.returned ++ [⟨x.task, e.outcome x.instant, x.instant⟩] }
      line none (some e) := by
  obtain ⟨hlost, hreturned⟩ := h.failing rfl
  refine ⟨?_, ?_, ?_, ?_, ?_⟩
  · rw [h.order]
    simp
  · rw [h.calls]
    simp
  · intro i hi
    cases hi
  · intro he
    cases he
  · intro e' he
    cases he
    refine ⟨rfl, log.ended, x, [], rfl, hlost, entry, ?_, ?_⟩
    · show log.returned ++ _ = _
      rw [hreturned]
    · intro s hs
      cases hs

theorem Facts.share {id : TaskId} {e : Entry V} {now : Instant}
    (soon : prompt → now = e.installedAt) (h : Facts l prompt log (id :: line) none (some e)) :
    Facts l prompt { log with returned := log.returned ++ [⟨id, e.outcome now, now⟩] }
      line none (some e) := by
  obtain ⟨-, failed, last, shares, served⟩ := h.served e rfl
  refine ⟨?_, h.calls, ?_, ?_, ?_⟩
  · rw [h.order]
    simp
  · intro i hi
    cases hi
  · intro he
    cases he
  · intro e' he
    cases he
    refine ⟨rfl, failed, last, shares ++ [⟨id, e.outcome now, now⟩], served.ended, served.lost,
      served.installed, ?_, ?_⟩
    · show log.returned ++ _ = _
      rw [served.returned, List.append_assoc]
      rfl
    · intro s hs
      rcases List.mem_append.1 hs with hs | hs
      · exact served.shared s hs
      · rw [List.mem_singleton.1 hs]
        refine ⟨rfl, fun hprompt => ?_⟩
        exact (soon hprompt).trans (InnerEnd.installedAt_of_entry? served.installed)

theorem facts (h : Burst l prompt log line calling installed) :
    Facts l prompt log line calling installed := by
  induction h with
  | start => exact .start
  | come id _ ih => exact ih.come id
  | call _ ih => exact ih.call
  | fail x lost _ ih => exact ih.fail lost
  | succeed x entry _ ih => exact ih.succeed entry
  | share now soon _ ih => exact ih.share soon

/-! ## Caller by caller -/

/-- Callers return in the order in which they came. -/
theorem returned_prefix (h : Burst l prompt log line calling installed) :
    log.returned.map Return.task <+: log.came :=
  ⟨line, h.facts.order.symm⟩

/-- Inner calls run one after the other. -/
theorem ended_prefix (h : Burst l prompt log line calling installed) :
    log.ended.map InnerEnd.task <+: log.called ∧ log.called.length ≤ log.ended.length + 1 := by
  have hcalls := h.facts.calls
  refine ⟨⟨calling.toList, hcalls.symm⟩, ?_⟩
  rw [hcalls, List.length_append, List.length_map]
  cases calling with
  | none => exact Nat.le_succ _
  | some id => exact Nat.le_refl _

/-- Inner calls are made in the order in which the callers came. -/
theorem called_prefix (h : Burst l prompt log line calling installed) :
    log.called <+: log.came := by
  obtain ⟨order, calls, first, failing, served⟩ := h.facts
  rw [calls, order]
  cases installed with
  | none =>
      -- each caller so far has made a call of its own
      rw [(failing rfl).2, InnerEnd.map_task_own]
      apply (List.prefix_append_right_inj _).2
      cases calling with
      | none => exact List.nil_prefix
      | some id =>
          obtain ⟨rest, hline⟩ := List.head?_eq_some_iff.1 (first id rfl)
          rw [hline]
          exact ⟨rest, rfl⟩
  | some e =>
      obtain ⟨hnone, failed, last, shares, h⟩ := served e rfl
      rw [hnone, h.ended, h.returned, List.map_append, List.map_append,
        InnerEnd.map_task_own]
      simp only [List.map_cons, List.map_nil, Option.toList_none, List.append_nil,
        List.append_assoc]
      exact (List.prefix_append_right_inj _).2 ⟨shares.map Return.task ++ line, rfl⟩

/-- While no inner call has led to an entry, each caller returns with the outcome of its own
call. -/
theorem own_returned (h : Burst l prompt log line calling installed) {i : Nat} {x : InnerEnd V}
    (ended : log.ended[i]? = some x)
    (lost : ∀ (k : Nat) (y : InnerEnd V), k ≤ i → log.ended[k]? = some y → y.entry? l = none) :
    log.returned[i]? = some x.own := by
  obtain ⟨-, -, -, failing, served⟩ := h.facts
  cases installed with
  | none =>
      rw [(failing rfl).2, List.getElem?_map, ended]
      rfl
  | some e =>
      obtain ⟨-, failed, last, shares, h⟩ := served e rfl
      have hlt : i < failed.length := by
        apply Nat.lt_of_not_le
        intro hle
        -- the inner call that led to the entry is among the first ones
        have hlast : log.ended[failed.length]? = some last := by
          rw [h.ended]
          simp
        have hnone := lost _ last hle hlast
        rw [h.installed] at hnone
        cases hnone
      rw [h.ended, List.getElem?_append_left hlt] at ended
      rw [h.returned, List.getElem?_append_left (by rw [List.length_map]; exact hlt),
        List.getElem?_map, ended]
      rfl

/-- The inner call that leads to an entry is the last one, and its caller and all after it return
with the entry. -/
theorem shared_returned (h : Burst l prompt log line calling installed) {j : Nat}
    {x : InnerEnd V} {e : Entry V} (ended : log.ended[j]? = some x)
    (entry : x.entry? l = some e) :
    log.called.length = j + 1 ∧
      ∀ i s, j ≤ i → log.returned[i]? = some s →
        s.outcome = e.outcome s.instant ∧ (prompt → s.instant = x.instant) := by
  obtain ⟨-, calls, -, failing, served⟩ := h.facts
  cases installed with
  | none =>
      have hnone := (failing rfl).1 x (List.mem_of_getElem? ended)
      rw [entry] at hnone
      cases hnone
  | some e' =>
      obtain ⟨hcalling, failed, last, shares, h⟩ := served e' rfl
      rw [h.ended] at ended
      have hj : j = failed.length ∧ x = last := by
        rcases getElem?_snoc ended with ended | hlast
        · have hnone := h.lost x (List.mem_of_getElem? ended)
          rw [entry] at hnone
          cases hnone
        · exact hlast
      obtain ⟨rfl, rfl⟩ := hj
      have he : e' = e := by
        rw [h.installed] at entry
        exact Option.some.inj entry
      subst he
      constructor
      · rw [calls, hcalling, h.ended]
        simp
      · intro i s hle hs
        rw [h.returned, List.getElem?_append_right (by rw [List.length_map]; exact hle),
          List.length_map, List.getElem?_cons] at hs
        split at hs
        next =>
          cases hs
          exact ⟨rfl, fun _ => rfl⟩
        next => exact h.shared s (List.mem_of_getElem? hs)

/-- When nobody stands in line, everybody has returned, and the inner calls are as many as the
callers up to the one whose call led to an entry. -/
theorem complete (h : Burst l prompt log [] calling installed) :
    log.returned.length = log.came.length ∧
      ∀ j, (∀ i x, log.ended[i]? = some x → ((x.entry? l).isSome = true ↔ i = j)) →
        log.called.length = min (j + 1) log.came.length := by
  obtain ⟨order, calls, first, failing, served⟩ := h.facts
  rw [List.append_nil] at order
  have hlength : log.returned.length = log.came.length := by
    rw [order, List.length_map]
  refine ⟨hlength, ?_⟩
  intro j hj
  have hnone : calling = none := by
    cases calling with
    | none => rfl
    | some id => cases first id rfl
  have hcalled : log.called.length = log.ended.length := by
    rw [calls, hnone]
    simp
  cases installed with
  | none =>
      obtain ⟨hlost, hreturned⟩ := failing rfl
      -- every call failed, so there is none at the position of the first success
      have hle : log.ended.length ≤ j := by
        apply Nat.le_of_not_lt
        intro hlt
        have hsome := (hj j _ (List.getElem?_eq_getElem hlt)).2 rfl
        rw [hlost _ (List.getElem_mem hlt)] at hsome
        cases hsome
      have hsame : log.returned.length = log.ended.length := by
        rw [hreturned, List.length_map]
      omega
  | some e =>
      obtain ⟨-, failed, last, shares, h⟩ := served e rfl
      have hlast : log.ended[failed.length]? = some last := by
        rw [h.ended]
        simp
      -- the call that led to the entry is the last one, and it is the one at `j`
      have hposition : failed.length = j := by
        apply (hj _ last hlast).1
        rw [h.installed]
        rfl
      have hended : log.ended.length = failed.length + 1 := by
        rw [h.ended]
        simp
      have hreturned : log.returned.length = failed.length + (shares.length + 1) := by
        rw [h.returned]
        simp
      omega

end Burst

/-- What the callers of a burst see, in terms of what has happened. `prompt` says that no time
passes while somebody could go on, and `done` that nobody is left in line. -/
structure Log.Coalesced [Perishable V] (l : Lifetime) (prompt done : Prop) (log : Log V) :
    Prop where
  /-- An inner call has ended before the next one begins. -/
  sequential : log.ended.map InnerEnd.task <+: log.called ∧
    log.called.length ≤ log.ended.length + 1
  /-- Inner calls are made in the order in which the callers came. -/
  called : log.called <+: log.came
  /-- Callers return in the order in which they came. -/
  returned : log.returned.map Return.task <+: log.came
  /-- A caller returns with the outcome of its own inner call if that one and all before it led to
  no entry. -/
  own : ∀ (i : Nat) (x : InnerEnd V), log.ended[i]? = some x →
    (∀ (k : Nat) (y : InnerEnd V), k ≤ i → log.ended[k]? = some y → y.entry? l = none) →
      log.returned[i]? = some x.own
  /-- An inner call that leads to an entry is the last one, and its caller and all after it return
  with the value of that entry, if it is valid when they return. -/
  shared : ∀ (j : Nat) (x : InnerEnd V) (v : V) (e : Entry V), log.ended[j]? = some x →
    x.outcome = .value v → l.entry? v x.instant = some e → log.called.length = j + 1 ∧
      ∀ (i : Nat) (s : Return V), j ≤ i → log.returned[i]? = some s →
        s.outcome = (if e.isValid s.instant then .value v else .failed .refreshFailed) ∧
          (prompt → s.instant = x.instant)
  /-- In the end everybody has returned, and the inner calls are as many as the callers up to the
  one whose call led to an entry, if any did. -/
  complete : done → log.returned.length = log.came.length ∧
    ∀ j : Nat, (∀ (i : Nat) (x : InnerEnd V), log.ended[i]? = some x →
      ((x.entry? l).isSome = true ↔ i = j)) → log.called.length = min (j + 1) log.came.length

theorem Burst.coalesced [Perishable V] {l : Lifetime} {prompt done : Prop} {log : Log V}
    {line : List TaskId} {calling : Option TaskId} {installed : Option (Entry V)}
    (h : Burst l prompt log line calling installed) (empty : done → line = []) :
    log.Coalesced l prompt done where
  sequential := h.ended_prefix
  called := h.called_prefix
  returned := h.returned_prefix
  own _ _ ended lost := h.own_returned ended lost
  shared j x v e ended value entry := by
    have hentry : x.entry? l = some e := by
      simp only [InnerEnd.entry?, value]
      exact entry
    have hvalue := Lifetime.value_of_entry? entry
    subst hvalue
    exact h.shared_returned ended hentry
  complete hdone := by
    have hline := empty hdone
    subst hline
    exact h.complete

end CredentialSupply
