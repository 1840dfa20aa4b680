import CredentialSupply.Proofs.Bookkeeping
import CredentialSupply.Proofs.Sheltered

set_option autoImplicit false

/-!
# The balance of the counters

The layers count what they do, each on its own. That the counts fit together is a balance over the
whole stack: what a task in the middle of a fetch has yet to do, or to count, is its share
(`Account`). A step may change the books only by what it changes in the share of its task, so books
and shares keep their sum over a run (`Balanced.move`). When no call is in progress no task has a
share, and the books balance (`counters_balance`).
-/

namespace CredentialSupply

variable {V σ C : Type}

/-! ## Counts -/

/-- The counts of the first meter. -/
def Content.tally (k : Content V) : Tally := k.meters.tally 0

theorem Content.tally_count {k x : Content V} (metered : 0 < k.meters.meters.length)
    (same : x.meters = k.meters) (event : Event) :
    (x.count 0 event).tally = k.tally.record event := by
  rw [tally, tally, ← same]
  exact Meters.tally_record (by rw [same]; exact metered) event

/-- Inner calls of a cache that were refused, less all that have ended and all retries. -/
def Tally.spared (t : Tally) : Int := t.rateLimited - t.refreshes - t.refreshErrors - t.retries

/-- What an event adds to that. -/
def Event.spared : Event → Int
  | .rateLimited => 1
  | .refreshed _ | .refreshFailed | .retried => -1
  | .hit | .miss | .outageServed => 0

theorem Tally.spared_record (t : Tally) (event : Event) :
    (t.record event).spared = t.spared + event.spared := by
  cases event <;> simp only [record, spared, Event.spared] <;> omega

/-- All that a chain counts goes to its meter. -/
theorem Capped.meter {k : Content V} {top : Nat} (capped : Capped k.kinds top) (i : Nat) :
    k.meter i = 0 := by
  rw [Content.meter]
  cases hl : k.layers[i]? with
  | none => rfl
  | some l =>
      cases l with
      | cache c => exact (capped.eq_top hl).2
      | retry | outage _ _ | rateLimit _ | health _ => rfl

/-! ## Accounts -/

/-- Whether a task with this control will call the source, or be refused, before its inner call of
the cache ends. -/
def Control.isBelow (top : Nat) : Control V C → Bool
  | .enter level _ => level ≤ top
  | .call none _ => true
  | _ => false

/-- Whether a fetch with this control is about to enter at a level. -/
def Control.isAt (level : Nat) : Control V C → Bool
  | .enter l _ => l = level
  | _ => false

/-- Whether a task with this control has not run yet. -/
def Control.isBegin : Control V C → Bool
  | .begin => true
  | _ => false

theorem Control.outside_of_isIdle {x : Control V C} (h : x.isIdle = true) (top : Nat) :
    x.isBelow top = false ∧ x.isAt (top + 1) = false ∧ ∀ v, x ≠ .deliver (.value v) := by
  cases x <;> first | (cases h; done) | exact ⟨rfl, rfl, by simp⟩

theorem Control.outside_of_isParked {x : Control V C} (h : x.isParked = true) (top : Nat) :
    x.isBelow top = false ∧ x.isAt (top + 1) = false ∧ ∀ v, x ≠ .deliver (.value v) := by
  cases x <;> first | (cases h; done) | exact ⟨rfl, rfl, by simp⟩

/-- Whether the event is a lookup. -/
def Event.isLookUp : Event → Bool
  | .hit | .miss => true
  | _ => false

/-- Whether the event is that a value is served in an outage. -/
def Event.isServe : Event → Bool
  | .outageServed => true
  | _ => false

/-- Counts, and the share of a task in them. -/
structure Account (V C : Type) where
  books : Content V → Int
  share : Task V C → Int

/-- What is in the books, with the share of one task. -/
def Account.sum (a : Account V C) (k : Content V) (t : Task V C) : Int := a.books k + a.share t

/-- What comes into the books was the share of the task. -/
theorem Account.sum_eq {a : Account V C} {k k' : Content V} {t t' : Task V C} (d : Int)
    (books : a.books k' = a.books k + d) (share : a.share t' + d = a.share t) :
    a.sum k' t' = a.sum k t := by
  rw [sum, sum]
  omega

/-- Calls of the source against what the inner calls of the cache tell of them. A task owes a call
while it is on its way to the source, and its inner call has not been counted yet. -/
def callAccount (top : Nat) : Account V C where
  books k := k.calls.length + k.tally.spared
  share t := (if t.control.isBelow top then 1 else 0) - (if t.isLoading top then 1 else 0)

/-- Requests that have been counted, and those that are about to be. -/
def requestAccount (top : Nat) : Account V C where
  books k := k.tally.requests
  share t := if t.control.isAt (top + 1) then 1 else 0

/-- Refreshes against values that were served in an outage. A value on its way to the cache will be
counted as a refresh. -/
def serveAccount (top : Nat) : Account V C where
  books k := k.tally.refreshes - k.tally.outageServes
  share t := match t.control with
    | .deliver (.value _) => if t.isLoading top then 1 else 0
    | _ => 0

theorem callAccount_books_count {top : Nat} {k x : Content V}
    (metered : 0 < k.meters.meters.length)
    (meters : x.meters = k.meters) (calls : x.calls = k.calls) (event : Event) :
    (callAccount (C := C) top).books (x.count 0 event) =
      (callAccount (C := C) top).books k + event.spared := by
  simp only [callAccount, Content.tally_count metered meters, Tally.spared_record,
    Content.calls_count, calls]
  omega

/-- When the inner call of the cache ends, it is counted. -/
theorem callAccount_share_pass {top layer : Nat} {t : Task V C} {startedAt : Instant}
    {frames : List Frame} {outcome : Outcome V} (shaped : t.Shaped) (sheltered : t.Sheltered top)
    (control : t.control = .deliver outcome) (head : t.frames = .load layer startedAt :: frames)
    (outcome' : Outcome V) :
    (callAccount top).share (Task.pass { t with frames } outcome') + -1 =
      (callAccount top).share t := by
  obtain ⟨rfl, hbefore, hafter⟩ := sheltered.load_ends shaped control head
  have hafter : Task.isLoading layer (Task.pass { t with frames } outcome') = false := hafter
  simp only [callAccount, hafter, hbefore]
  simp [Task.pass, Task.goto, control, Control.isBelow]

/-- A task has no share if it has no value for the cache. -/
theorem serveAccount_share_eq_zero {top : Nat} {t : Task V C}
    (h : (∀ v, t.control ≠ .deliver (.value v)) ∨ t.isLoading top = false) :
    (serveAccount top).share t = 0 := by
  simp only [serveAccount]
  split
  next v control =>
    rcases h with h | h
    · exact absurd control (h v)
    · simp [h]
  next => rfl

theorem serveAccount_share_bounds (top : Nat) (t : Task V C) :
    0 ≤ (serveAccount top).share t ∧ (serveAccount top).share t ≤ 1 := by
  simp only [serveAccount]
  split
  · split <;> omega
  · omega

/-- With the step from `t` to `t'` a fetch starts at a level. -/
def Task.starts (level : Nat) (t t' : Task V C) : Bool := t.control.isBegin && t'.control.isAt level

/-- A task that is in no call has no share in any account. -/
theorem no_share_of_isIdle {t : Task V C} (shaped : t.Shaped) (idle : t.control.isIdle = true)
    (top : Nat) : (callAccount top).share t = 0 ∧ (requestAccount top).share t = 0 ∧
      (serveAccount top).share t = 0 := by
  obtain ⟨hbelow, hat, hvalue⟩ := Control.outside_of_isIdle idle top
  have hloading : t.isLoading top = false := by
    rw [Task.isLoading, shaped.frames_of_isIdle idle]
    rfl
  exact ⟨by simp [callAccount, hbelow, hloading], by simp [requestAccount, hat],
    serveAccount_share_eq_zero (Or.inl hvalue)⟩

/-! ## Books and shares in a step -/

section Sums

variable {top : Nat} {t t' : Task V C} {k k' : Content V}

/-- A task that stands where it stood owes what it owed. -/
theorem callAccount_sum_eq (books : (callAccount (C := C) top).books k' =
      (callAccount (C := C) top).books k)
    (below : t'.control.isBelow top = t.control.isBelow top)
    (loading : t'.isLoading top = t.isLoading top) :
    (callAccount top).sum k' t' = (callAccount top).sum k t := by
  refine Account.sum_eq 0 (by rw [books, Int.add_zero]) ?_
  simp only [callAccount, below, loading, Int.add_zero]

/-- Events other than lookups leave the count of requests. -/
theorem Content.requests_count (metered : 0 < k.meters.meters.length) {x : Content V}
    {event : Event} (meters : x.meters = k.meters) (other : event.isLookUp = false) :
    (x.count 0 event).tally.requests = k.tally.requests := by
  rw [Content.tally_count metered meters]
  cases event <;> first | rfl | cases other

/-- Nothing is requested, and the task is not at the top. -/
theorem requestAccount_sum_eq (requests : k'.tally.requests = k.tally.requests)
    (after : t'.control.isAt (top + 1) = false) (before : t.control.isAt (top + 1) = false) :
    (requestAccount top).sum k' t' =
      (requestAccount top).sum k t + (if t.starts (top + 1) t' then 1 else 0) := by
  simp [Account.sum, requestAccount, Task.starts, requests, after, before]

/-- A fetch that starts is about to be counted. -/
theorem requestAccount_sum_start (control : t.control = .begin)
    (after : t'.control.isAt (top + 1) = true) :
    (requestAccount top).sum k t' =
      (requestAccount top).sum k t + (if t.starts (top + 1) t' then 1 else 0) := by
  have before : t.control.isAt (top + 1) = false ∧ t.control.isBegin = true := by
    rw [control]
    exact ⟨rfl, rfl⟩
  simp [Account.sum, requestAccount, Task.starts, after, before]

/-- A lookup is counted. -/
theorem requestAccount_sum_lookUp (capped : Capped k.kinds top)
    (metered : 0 < k.meters.meters.length) {layer : Nat} {force : Bool} {c : Cache V}
    {event : Event} (control : t.control = .enter (layer + 1) force)
    (here : k.layers[layer]? = some (.cache c))
    (requests : (k.tally.record event).requests = k.tally.requests + 1)
    (after : t'.control.isAt (top + 1) = false) :
    (requestAccount top).sum (k.count c.meter event) t' =
      (requestAccount top).sum k t + (if t.starts (top + 1) t' then 1 else 0) := by
  obtain ⟨rfl, hmeter⟩ := capped.eq_top here
  have before : t.control.isAt (layer + 1) = true := by simp [control, Control.isAt]
  simp [Account.sum, requestAccount, Task.starts, hmeter, Content.tally_count metered rfl, requests,
    after, before]

/-- A fetch that goes through another layer than the cache is not at the top. -/
theorem Task.Sheltered.not_isAt (sheltered : t.Sheltered top) (capped : Capped k.kinds top)
    {layer : Nat} {force : Bool} {l : Layer V} (control : t.control = .enter (layer + 1) force)
    (here : k.layers[layer]? = some l) (other : ∀ c, l ≠ .cache c) :
    t.control.isAt (top + 1) = false ∧
      (Control.enter layer force : Control V C).isAt (top + 1) = false := by
  have hlt := (sheltered.below capped control here other).1
  rw [control]
  simp only [Control.isAt, decide_eq_false_iff_not]
  omega

/-- A task without a share can only get one. -/
theorem serveAccount_sum_le (books : (serveAccount (C := C) top).books k ≤
      (serveAccount (C := C) top).books k')
    (before : (∀ v, t.control ≠ .deliver (.value v)) ∨ t.isLoading top = false) :
    (serveAccount top).sum k t ≤ (serveAccount top).sum k' t' := by
  have := serveAccount_share_eq_zero before
  have := (serveAccount_share_bounds top t').1
  simp only [Account.sum]
  omega

/-- So it is when the step counts something else than that a value is served in an outage. -/
theorem serveAccount_sum_count (metered : 0 < k.meters.meters.length) {x : Content V}
    {event : Event} (meters : x.meters = k.meters) (other : event.isServe = false)
    (before : (∀ v, t.control ≠ .deliver (.value v)) ∨ t.isLoading top = false) :
    (serveAccount top).sum k t ≤ (serveAccount top).sum (x.count 0 event) t' := by
  refine serveAccount_sum_le ?_ before
  simp only [serveAccount, Content.tally_count metered meters]
  cases event <;> simp only [Tally.record] <;> first | omega | cases other

/-- A value that is passed on stays on its way. -/
theorem serveAccount_sum_pass {outcome : Outcome V} {f : Frame} {frames : List Frame}
    (control : t.control = .deliver outcome) (head : t.frames = f :: frames)
    (other : f.isLoad top = false) (meters : k'.meters = k.meters) :
    (serveAccount top).sum k t ≤
      (serveAccount top).sum k' (Task.pass { t with frames } outcome) := by
  have hloading := Task.isLoading_pop (C := C) head other (.deliver outcome)
  refine Int.le_of_eq ?_
  simp only [Account.sum, serveAccount, Content.tally, meters, control, Task.pass, Task.goto,
    hloading]

end Sums

section Stride

variable [Perishable V] {top : Nat} {t t' : Task V C} {k k' : Content V}

/-- What a step counts, it counts in the first meter. -/
theorem Stride.tally_cases (capped : Capped k.kinds top) (metered : 0 < k.meters.meters.length)
    (h : Stride t k t' k') :
    0 < k'.meters.meters.length ∧
      (k'.tally = k.tally ∨ ∃ event, k'.tally = k.tally.record event) := by
  have hcount : ∀ {x : Content V} {meter : Nat} {event : Event}, x.meters = k.meters → meter = 0 →
      0 < (x.count meter event).meters.meters.length ∧
        ((x.count meter event).tally = k.tally ∨
          ∃ event', (x.count meter event).tally = k.tally.record event') := by
    rintro x - event hx rfl
    refine ⟨?_, Or.inr ⟨event, Content.tally_count metered hx event⟩⟩
    simpa [Content.count, Meters.record, hx] using metered
  cases h with
  | reject | retry | serve => exact hcount rfl rfl
  | hit control here => exact hcount rfl (capped.eq_top here).2
  | miss control here => exact hcount rfl (capped.eq_top here).2
  | install control head here => exact hcount rfl (capped.eq_top here).2
  | fail => exact hcount rfl (capped.meter _)
  | _ => exact ⟨metered, Or.inl rfl⟩

/-- A call of the source is made, or refused, for each inner call of the cache and each retry. -/
theorem Stride.keeps_calls (shaped : t.Shaped) (capped : Capped k.kinds top)
    (sheltered : t.Sheltered top) (metered : 0 < k.meters.meters.length) (h : Stride t k t' k')
    (goes : t'.control ≠ .deliver .crashed)
    (kept : t'.hasEnded = true → t.control.isParked = true → t.frames = []) :
    (callAccount top).sum k' t' = (callAccount top).sum k t := by
  cases h with
  | stay => rfl
  | rest idle idle' answer =>
      refine callAccount_sum_eq rfl ?_ rfl
      exact (Control.outside_of_isIdle idle' top).1.trans
        (Control.outside_of_isIdle idle top).1.symm
  | start control request =>
      have hlength := capped.length
      rw [Content.length_kinds] at hlength
      exact callAccount_sum_eq rfl (by simp [Task.goto, Control.isBelow, control, hlength]) rfl
  | query control request here =>
      rw [capped.aim here]
      exact callAccount_sum_eq rfl (by simp [Task.push, Control.isBelow, control]) rfl
  | bottom control =>
      exact callAccount_sum_eq rfl (by simp [Task.goto, Control.isBelow, control]) rfl
  | skip control missing =>
      exact absurd missing (sheltered.not_missing capped control)
  | @wrap layer force l f control here frame =>
      have hlt := (sheltered.below capped control here (Layer.ne_cache_of_frame? frame)).1
      refine callAccount_sum_eq rfl ?_ ?_
      · simp only [Task.push, control, Control.isBelow, decide_eq_decide]
        omega
      · cases l <;> cases frame <;> rfl
  | @grant layer force b b' control here =>
      have hlt := (sheltered.below capped control here (by simp)).1
      refine callAccount_sum_eq rfl ?_ rfl
      simp only [Task.goto, control, Control.isBelow, decide_eq_decide]
      omega
  | @reject layer force b b' f control here =>
      -- the call that the task owes is refused, and the refusal is counted in its place
      have hle : layer + 1 ≤ top := (sheltered.below capped control here (by simp)).1
      refine Account.sum_eq 1 (callAccount_books_count metered rfl rfl _) ?_
      simp [callAccount, Task.pass, Task.goto, Task.isLoading, control, Control.isBelow, hle]
      omega
  | hit control here valid =>
      obtain ⟨rfl, hmeter⟩ := capped.eq_top here
      rw [hmeter]
      refine callAccount_sum_eq ?_ (by simp [Task.pass, Task.goto, Control.isBelow, control]) rfl
      exact (callAccount_books_count metered rfl rfl _).trans (Int.add_zero _)
  | miss control here =>
      obtain ⟨rfl, hmeter⟩ := capped.eq_top here
      rw [hmeter]
      refine callAccount_sum_eq ?_ (by simp [Task.goto, Control.isBelow, control]) rfl
      exact (callAccount_books_count metered rfl rfl _).trans (Int.add_zero _)
  | @call source force progress control =>
      have hloading := t.isLoading_await top source progress
      have hafter : (t.await source progress).control.isBelow top = false := by
        cases progress <;> rfl
      cases source with
      | some index => exact callAccount_sum_eq rfl (by rw [hafter, control]; rfl) hloading
      | none =>
          -- the call that the task owes is made
          refine Account.sum_eq 1 ?_ ?_
          · simp only [callAccount, Content.tally, Option.isNone_none, if_true, List.length_append,
              List.length_singleton]
            omega
          · simp only [callAccount, hafter, hloading]
            simp only [control, Control.isBelow, if_true, if_false, Bool.false_eq_true]
            omega
  | @resume source due call progress control =>
      refine callAccount_sum_eq rfl ?_ (t.isLoading_await top source progress)
      rw [control]
      cases progress <;> rfl
  | lost control =>
      refine callAccount_sum_eq rfl ?_ rfl
      rcases control with ⟨force, control⟩ | ⟨due, call, control⟩ <;> (rw [control]; rfl)
  | ask control here control' =>
      refine callAccount_sum_eq rfl ?_ rfl
      rcases control with control | ⟨deadline, control⟩ <;>
        rcases control' with rfl | ⟨deadline, rfl⟩ <;> (rw [control]; rfl)
  | giveUp control | adopt control | answer control =>
      exact callAccount_sum_eq rfl (by rw [control]; rfl) rfl
  | @load layer seen force control =>
      have htop := sheltered.2
      rw [control] at htop
      obtain rfl : layer = top := htop
      have hbefore : t.isLoading layer = false := (shaped.of_locked control).not_isLoad (by omega)
      -- the call that it owes now is for an inner call that is yet to be counted
      refine Account.sum_eq 0 (Int.add_zero _).symm ?_
      simp only [callAccount, hbefore, control]
      simp [Task.push, Control.isBelow, Task.isLoading, Frame.isLoad]
  | @retry layer force frames f control head =>
      have hframes := sheltered.1
      rw [head] at hframes
      have hle : layer ≤ top := Nat.le_of_lt hframes.1
      -- the second attempt owes a call of its own
      refine Account.sum_eq (-1) (callAccount_books_count metered rfl rfl _) ?_
      simp [callAccount, Task.goto, control, Control.isBelow, hle, Task.isLoading, head,
        Frame.isLoad]
      omega
  | store control head | observe control head | report control head =>
      exact callAccount_sum_eq rfl (by rw [control]; rfl) (Task.isLoading_pop head rfl _)
  | serve control head here valid =>
      refine callAccount_sum_eq ?_ (by rw [control]; rfl) (Task.isLoading_pop head rfl _)
      exact (callAccount_books_count metered rfl rfl _).trans (Int.add_zero _)
  | pass control head layer =>
      exact callAccount_sum_eq rfl (by rw [control]; rfl)
        (Task.isLoading_pop head (Frame.isLoad_of_isLayer layer) _)
  | install control head here entry =>
      obtain ⟨rfl, hmeter⟩ := capped.eq_top here
      rw [hmeter]
      exact Account.sum_eq (-1) (callAccount_books_count metered rfl rfl _)
        (callAccount_share_pass shaped sheltered control head _)
  | @fail layer startedAt frames f control head =>
      rw [capped.meter layer]
      exact Account.sum_eq (-1) (callAccount_books_count metered rfl rfl _)
        (callAccount_share_pass shaped sheltered control head _)
  | crash control' frames' => exact absurd control' goes
  | undertake idle request frames duty =>
      refine callAccount_sum_eq rfl (Control.outside_of_isIdle idle top).1.symm ?_
      simp [Task.isLoading, Task.push, frames, Frame.isLoad_of_isDuty duty]
  | conclude control head duty idle' answer =>
      refine callAccount_sum_eq rfl ?_ (Task.isLoading_pop head (Frame.isLoad_of_isDuty duty) _)
      exact (Control.outside_of_isIdle idle' top).1.trans (by rw [control]; rfl)
  | abandon parked =>
      refine callAccount_sum_eq rfl (Control.outside_of_isParked parked top).1.symm ?_
      simp [Task.isLoading, Task.goto, kept rfl parked]

/-- Each fetch that starts at the top is counted as a request. -/
theorem Stride.keeps_requests (capped : Capped k.kinds top) (sheltered : t.Sheltered top)
    (metered : 0 < k.meters.meters.length) (h : Stride t k t' k')
    (goes : t'.control ≠ .deliver .crashed) :
    (requestAccount top).sum k' t' =
      (requestAccount top).sum k t + (if t.starts (top + 1) t' then 1 else 0) := by
  cases h with
  | stay =>
      cases hcontrol : t.control <;>
        simp [Task.starts, hcontrol, Control.isBegin, Control.isAt]
  | rest idle idle' answer =>
      exact requestAccount_sum_eq rfl (Control.outside_of_isIdle idle' top).2.1
        (Control.outside_of_isIdle idle top).2.1
  | start control request =>
      -- from here on the lookup to come is the share of the task, until it is counted
      have hlength := capped.length
      rw [Content.length_kinds] at hlength
      exact requestAccount_sum_start control (by simp [Task.goto, Control.isAt, hlength])
  | query control request here =>
      rw [capped.aim here]
      exact requestAccount_sum_start control (by simp [Task.push, Control.isAt])
  | bottom control => exact requestAccount_sum_eq rfl rfl (by rw [control]; rfl)
  | skip control missing =>
      exact absurd missing (sheltered.not_missing capped control)
  | @wrap layer force l f control here frame =>
      obtain ⟨hbefore, hafter⟩ :=
        sheltered.not_isAt capped control here (Layer.ne_cache_of_frame? frame)
      exact requestAccount_sum_eq rfl hafter hbefore
  | grant control here =>
      obtain ⟨hbefore, hafter⟩ := sheltered.not_isAt capped control here (by simp)
      exact requestAccount_sum_eq rfl hafter hbefore
  | reject control here =>
      exact requestAccount_sum_eq (Content.requests_count metered rfl rfl) rfl
        (sheltered.not_isAt capped control here (by simp)).1
  | hit control here valid => exact requestAccount_sum_lookUp capped metered control here rfl rfl
  | miss control here => exact requestAccount_sum_lookUp capped metered control here rfl rfl
  | @call source force progress control =>
      exact requestAccount_sum_eq rfl (by cases progress <;> rfl) (by rw [control]; rfl)
  | @resume source due call progress control =>
      exact requestAccount_sum_eq rfl (by cases progress <;> rfl) (by rw [control]; rfl)
  | lost control =>
      refine requestAccount_sum_eq rfl rfl ?_
      rcases control with ⟨force, control⟩ | ⟨due, call, control⟩ <;> (rw [control]; rfl)
  | ask control here control' =>
      refine requestAccount_sum_eq rfl ?_ ?_
      · rcases control' with rfl | ⟨deadline, rfl⟩ <;> rfl
      · rcases control with control | ⟨deadline, control⟩ <;> (rw [control]; rfl)
  | giveUp control | adopt control | answer control | store control | observe control
  | pass control | report control => exact requestAccount_sum_eq rfl rfl (by rw [control]; rfl)
  | @load layer seen force control =>
      have htop := sheltered.2
      rw [control] at htop
      obtain rfl : layer = top := htop
      exact requestAccount_sum_eq rfl (by simp [Task.push, Control.isAt]) (by rw [control]; rfl)
  | @retry layer force frames f control head =>
      -- a layer that retries stands below the cache, so the lookup is not made again
      have hframes := sheltered.1
      rw [head] at hframes
      have hlt := hframes.1
      refine requestAccount_sum_eq (Content.requests_count metered rfl rfl) ?_
        (by rw [control]; rfl)
      simp only [Task.goto, Control.isAt, decide_eq_false_iff_not]
      omega
  | serve control =>
      exact requestAccount_sum_eq (Content.requests_count metered rfl rfl) rfl
        (by rw [control]; rfl)
  | install control head here entry =>
      rw [(capped.eq_top here).2]
      exact requestAccount_sum_eq (Content.requests_count metered rfl rfl) rfl
        (by rw [control]; rfl)
  | @fail layer startedAt frames f control head =>
      rw [capped.meter layer]
      exact requestAccount_sum_eq (Content.requests_count metered rfl rfl) rfl
        (by rw [control]; rfl)
  | crash control' frames' => exact absurd control' goes
  | undertake idle request frames duty =>
      exact requestAccount_sum_eq rfl rfl (Control.outside_of_isIdle idle top).2.1
  | conclude control head duty idle' answer =>
      exact requestAccount_sum_eq rfl (Control.outside_of_isIdle idle' top).2.1
        (by rw [control]; rfl)
  | abandon parked =>
      exact requestAccount_sum_eq rfl rfl (Control.outside_of_isParked parked top).2.1

/-- A value that is served in an outage is on its way to the cache, which counts a refresh. -/
theorem Stride.keeps_serves (shaped : t.Shaped) (capped : Capped k.kinds top)
    (sheltered : t.Sheltered top) (metered : 0 < k.meters.meters.length) (h : Stride t k t' k')
    (goes : t'.control ≠ .deliver .crashed) :
    (serveAccount top).sum k t ≤ (serveAccount top).sum k' t' := by
  cases h with
  | stay => exact Int.le_refl _
  | rest idle | undertake idle =>
      exact serveAccount_sum_le (Int.le_refl _) (Or.inl (Control.outside_of_isIdle idle top).2.2)
  | start control | query control | bottom control | skip control | wrap control | grant control
  | call control | resume control | giveUp control | adopt control | load control =>
      exact serveAccount_sum_le (Int.le_refl _) (Or.inl (by rw [control]; simp))
  | lost control =>
      refine serveAccount_sum_le (Int.le_refl _) (Or.inl ?_)
      rcases control with ⟨force, control⟩ | ⟨due, call, control⟩ <;> (rw [control]; simp)
  | ask control =>
      refine serveAccount_sum_le (Int.le_refl _) (Or.inl ?_)
      rcases control with control | ⟨deadline, control⟩ <;> (rw [control]; simp)
  | reject control | retry control =>
      exact serveAccount_sum_count metered rfl rfl (Or.inl (by rw [control]; simp))
  | hit control here valid =>
      rw [(capped.eq_top here).2]
      exact serveAccount_sum_count metered rfl rfl (Or.inl (by rw [control]; simp))
  | miss control here =>
      rw [(capped.eq_top here).2]
      exact serveAccount_sum_count metered rfl rfl (Or.inl (by rw [control]; simp))
  | @fail layer startedAt frames f control head =>
      rw [capped.meter layer]
      exact serveAccount_sum_count metered rfl rfl (Or.inl (by rw [control]; simp))
  | answer control head =>
      exact serveAccount_sum_le (Int.le_refl _) (Or.inr (by rw [Task.isLoading, head]; rfl))
  | store control head => exact serveAccount_sum_pass control head rfl rfl
  | observe control head => exact serveAccount_sum_pass control head rfl rfl
  | pass control head layer =>
      exact serveAccount_sum_pass control head (Frame.isLoad_of_isLayer layer) rfl
  | @serve layer frames f timeToLive e control head here valid =>
      have hframes := sheltered.1
      rw [head] at hframes
      have hloading : Task.isLoading top (Task.pass { t with frames } (.value e.value)) = true :=
        hframes.2.1
      have hbefore : (serveAccount (V := V) top).share t = 0 :=
        serveAccount_share_eq_zero (Or.inl (by rw [control]; simp))
      have hafter :
          (serveAccount (V := V) top).share (Task.pass { t with frames } (.value e.value)) = 1 :=
        if_pos hloading
      have hbooks : (serveAccount (C := C) top).books (k.count 0 .outageServed) =
          (serveAccount (C := C) top).books k - 1 := by
        simp only [serveAccount, Content.tally_count metered rfl, Tally.record]
        omega
      simp only [Account.sum]
      omega
  | @install layer startedAt frames v c e control head here entry =>
      rw [(capped.eq_top here).2]
      have hbefore := (serveAccount_share_bounds top t).2
      have hafter :=
        (serveAccount_share_bounds top (Task.pass { t with frames } (e.outcome k.now))).1
      -- what leaves the share of the task comes into the books
      have htally : ((k.setLayer layer (.cache (c.install e))).count 0
          (.refreshed (k.now.since startedAt))).tally =
            k.tally.record (.refreshed (k.now.since startedAt)) :=
        Content.tally_count metered rfl _
      have hbooks : (serveAccount (C := C) top).books
          ((k.setLayer layer (.cache (c.install e))).count 0
            (.refreshed (k.now.since startedAt))) = (serveAccount (C := C) top).books k + 1 := by
        simp only [serveAccount, htally, Tally.record]
        omega
      simp only [Account.sum]
      omega
  | crash control' frames' => exact absurd control' goes
  | @report layer seen frames outcome status control head =>
      obtain ⟨depth, hn⟩ := shaped.of_deliver control head
      refine serveAccount_sum_le (Int.le_refl _) (Or.inr ?_)
      rw [Task.isLoading, head, hn.2]
      rfl
  | conclude control head duty idle' answer =>
      refine serveAccount_sum_le (Int.le_refl _) (Or.inr ?_)
      simp [Task.isLoading, head, Frame.isLoad_of_isDuty duty]
  | abandon parked =>
      exact serveAccount_sum_le (Int.le_refl _)
        (Or.inl (Control.outside_of_isParked parked top).2.2)

end Stride

namespace Machine

/-! ## Runs -/

/-- The task has crashed. -/
def crashed (t : Task V C) : Bool :=
  match t.control with
  | .deliver .crashed => true
  | _ => false

/-- With the move from `m` to `n` a task is ended while it waits in the middle of a fetch. -/
def cancels (m n : Machine V σ C) : Bool :=
  (m.tasks.zip n.tasks).any fun (t, t') => t'.hasEnded && t.control.isParked && !t.frames.isEmpty

/-- No task is cancelled, and no instant is out of the range of the clock. -/
def undisturbed (moves : List (Machine V σ C × Machine V σ C)) : Bool :=
  moves.all fun (m, n) => !cancels m n && !n.tasks.any crashed

/-- No call is in progress. -/
def isQuiet (m : Machine V σ C) : Bool := m.tasks.all fun t => t.control.isIdle

/-- With the move from `m` to `n` a fetch starts at a level. -/
def startsAt (level : Nat) (m n : Machine V σ C) : Bool :=
  m.running.any fun id => (m.tasks[id]?).any fun t => (n.tasks[id]?).any fun t' => t.starts level t'

/-- How many fetches start at a level. -/
def starts (level : Nat) (moves : List (Machine V σ C × Machine V σ C)) : Nat :=
  moves.countP fun (m, n) => startsAt level m n

/-- The shares of all tasks. -/
def shares (a : Account V C) : List (Task V C) → Int
  | [] => 0
  | t :: tasks => a.share t + shares a tasks

/-- What is in the books, with the shares of all tasks. -/
def total (a : Account V C) (m : Machine V σ C) : Int :=
  a.books m.world.content + shares a m.tasks

section Total

variable {a : Account V C} {m n : Machine V σ C}

theorem shares_set {tasks : List (Task V C)} {i : Nat} {t : Task V C} (t' : Task V C)
    (h : tasks[i]? = some t) :
    shares a (tasks.set i t') + a.share t = shares a tasks + a.share t' := by
  induction tasks generalizing i with
  | nil => cases h
  | cons x tasks ih =>
      cases i with
      | zero =>
          cases h
          simp only [List.set_cons_zero, shares]
          omega
      | succ i =>
          have hrest := ih h
          simp only [List.set_cons_succ, shares]
          omega

theorem shares_append (tasks later : List (Task V C)) :
    shares a (tasks ++ later) = shares a tasks + shares a later := by
  induction tasks with
  | nil => exact (Int.zero_add _).symm
  | cons t tasks ih =>
      rw [List.cons_append, shares, shares, ih]
      omega

theorem shares_eq_zero {tasks : List (Task V C)} (h : ∀ t ∈ tasks, a.share t = 0) :
    shares a tasks = 0 := by
  induction tasks with
  | nil => rfl
  | cons t tasks ih =>
      have hrest := ih fun x hx => h x (List.mem_cons_of_mem _ hx)
      rw [shares, h t List.mem_cons_self, hrest]
      exact Int.zero_add 0

/-- Only the running task changes its share. -/
theorem total_turn {id : TaskId} {t t' : Task V C} (task : m.tasks[id]? = some t)
    (tasks : n.tasks = m.tasks.set id t') :
    total a n + a.sum m.world.content t = total a m + a.sum n.world.content t' := by
  have hset := shares_set (a := a) t' task
  rw [total, total, tasks, Account.sum, Account.sum]
  omega

/-- A task that has not run has no share. -/
theorem total_arrive {t : Task V C} (share : a.share t = 0) (tasks : n.tasks = m.tasks ++ [t])
    (books : a.books n.world.content = a.books m.world.content) : total a n = total a m := by
  rw [total, total, tasks, books, shares_append]
  simp [shares, share]

theorem total_rest (tasks : n.tasks = m.tasks)
    (books : a.books n.world.content = a.books m.world.content) : total a n = total a m := by
  rw [total, total, tasks, books]

theorem total_of_no_share (h : ∀ t ∈ m.tasks, a.share t = 0) :
    total a m = a.books m.world.content := by
  rw [total, shares_eq_zero h]
  exact Int.add_zero _

end Total

section Moves

variable {top : Nat} {m n : Machine V σ C} {moves : List (Machine V σ C × Machine V σ C)}

theorem undisturbed_snoc (h : undisturbed (moves ++ [(m, n)]) = true) :
    undisturbed moves = true ∧ cancels m n = false ∧ ∀ t ∈ n.tasks, crashed t = false := by
  simp only [undisturbed, List.all_append, List.all_cons, List.all_nil, Bool.and_true,
    Bool.and_eq_true, Bool.not_eq_true', List.any_eq_false, Bool.not_eq_true] at h
  exact ⟨h.1, h.2⟩

theorem starts_snoc (level : Nat) (moves : List (Machine V σ C × Machine V σ C)) :
    starts level (moves ++ [(m, n)]) =
      starts level moves + if startsAt level m n then 1 else 0 := by
  simp [starts, List.countP_append, List.countP_singleton]

theorem startsAt_of_rest (level : Nat) (active : m.active? = none) :
    startsAt level m n = false := by
  cases hrunning : m.running with
  | none => simp [startsAt, hrunning]
  | some id =>
      rw [active?, hrunning, Option.bind_some] at active
      simp [startsAt, hrunning, active]

theorem startsAt_of_turn {id : TaskId} {t t' : Task V C} (level : Nat)
    (running : m.running = some id) (task : m.tasks[id]? = some t)
    (task' : n.tasks[id]? = some t') : startsAt level m n = t.starts level t' := by
  simp [startsAt, running, task, task']

/-- A task that is ended while it waits has been in no call. -/
theorem frames_of_not_cancels {id : TaskId} {t t' : Task V C} (kept : cancels m n = false)
    (task : m.tasks[id]? = some t) (task' : n.tasks[id]? = some t') (ended : t'.hasEnded = true)
    (parked : t.control.isParked = true) : t.frames = [] := by
  simp only [cancels, List.any_eq_false] at kept
  have hzip : (t, t') ∈ m.tasks.zip n.tasks := by
    apply List.mem_of_getElem? (i := id)
    simp [List.getElem?_zip_eq_some, task, task']
  have hnot := kept _ hzip
  simpa [ended, parked] using hnot

/-- The books of a chain with a cache at the top. -/
structure Balanced (top : Nat) (moves : List (Machine V σ C × Machine V σ C)) (m : Machine V σ C) :
    Prop where
  metered : 0 < m.world.content.meters.meters.length
  calls : total (callAccount top) m = 0
  requests : total (requestAccount top) m = starts (top + 1) moves
  hits : m.world.content.tally.hits ≤ m.world.content.tally.requests
  serves : 0 ≤ total (serveAccount top) m

/-- A move without a step changes no account. -/
theorem Balanced.quiet (h : Balanced top moves m) (active : m.active? = none)
    (meters : n.world.content.meters = m.world.content.meters)
    (totals : ∀ a : Account V C,
      a = callAccount top ∨ a = requestAccount top ∨ a = serveAccount top → total a n = total a m) :
    Balanced top (moves ++ [(m, n)]) n := by
  refine ⟨?_, ?_, ?_, ?_, ?_⟩
  · rw [meters]
    exact h.metered
  · rw [totals _ (Or.inl rfl)]
    exact h.calls
  · rw [totals _ (Or.inr (Or.inl rfl)), starts_snoc, startsAt_of_rest _ active]
    simpa using h.requests
  · rw [Content.tally, meters]
    exact h.hits
  · rw [totals _ (Or.inr (Or.inr rfl))]
    exact h.serves

/-- A step that disturbs no task keeps the books. -/
theorem Balanced.step [Perishable V] {id : TaskId} {t t' : Task V C} (h : Balanced top moves m)
    (capped : Capped m.world.content.kinds top) (shaped : t.Shaped) (sheltered : t.Sheltered top)
    (running : m.running = some id) (task : m.tasks[id]? = some t)
    (stride : Stride t m.world.content t' n.world.content) (tasks : n.tasks = m.tasks.set id t')
    (kept : cancels m n = false) (goes : t'.control ≠ .deliver .crashed) :
    Balanced top (moves ++ [(m, n)]) n := by
  have task' : n.tasks[id]? = some t' := by
    rw [tasks]
    exact getElem?_set_some t' task
  obtain ⟨metered, htally⟩ := stride.tally_cases capped h.metered
  have hcalls := stride.keeps_calls shaped capped sheltered h.metered goes
    (frames_of_not_cancels kept task task')
  have hrequests := stride.keeps_requests capped sheltered h.metered goes
  have hserves := stride.keeps_serves shaped capped sheltered h.metered goes
  have hturn : ∀ a : Account V C,
      total a n + a.sum m.world.content t = total a m + a.sum n.world.content t' := fun a =>
    total_turn task tasks
  refine ⟨metered, ?_, ?_, ?_, ?_⟩
  · have := hturn (callAccount top)
    have := h.calls
    omega
  · have hsum := hturn (requestAccount top)
    have hbefore := h.requests
    rw [starts_snoc, startsAt_of_turn _ running task task']
    cases hstarts : t.starts (top + 1) t' with
    | true =>
        simp only [hstarts, if_true] at hrequests ⊢
        omega
    | false =>
        simp only [hstarts, Bool.false_eq_true, if_false] at hrequests ⊢
        omega
  · rcases htally with heq | ⟨event, heq⟩
    · rw [heq]
      exact h.hits
    · rw [heq]
      exact Tally.hits_le_record h.hits event
  · have := hturn (serveAccount top)
    have := h.serves
    omega

/-- Every move that disturbs no task keeps the books. -/
theorem Balanced.move [Perishable V] (sound : m.Sound) (capped : Capped m.world.content.kinds top)
    (sheltered : ∀ (i : Nat) (t : Task V C), m.tasks[i]? = some t → t.Sheltered top)
    (h : Balanced top moves m) (move : StackMove m n) (kept : cancels m n = false)
    (goes : ∀ t ∈ n.tasks, crashed t = false) : Balanced top (moves ++ [(m, n)]) n := by
  cases move with
  | @turn id t t' running task stride same tasks =>
      refine h.step capped (sound.shaped id t task) (sheltered id t task) running task stride tasks
        kept ?_
      intro control
      have task' : n.tasks[id]? = some t' := by
        rw [tasks]
        exact getElem?_set_some t' task
      have hcrashed := goes t' (List.mem_of_getElem? task')
      simp [crashed, control] at hcrashed
  | arrive idle foreground tasks content =>
      refine h.quiet (active?_of_idle idle) (by rw [content]) ?_
      rintro a ha
      refine total_arrive ?_ tasks (by rw [content])
      rcases ha with rfl | rfl | rfl <;> rfl
  | rest active tasks content now =>
      refine h.quiet active (by rw [content]) ?_
      rintro a ha
      refine total_rest tasks ?_
      rw [content]
      rcases ha with rfl | rfl | rfl <;> rfl

end Moves

section Runs

variable [Source σ V C] [Perishable V] {m₀ m : Machine V σ C} {source : σ}
  {moves : List (Machine V σ C × Machine V σ C)}

/-- Over a run in which no task is disturbed the books are kept. -/
theorem balanced_run {top : Nat} {name : String} (fresh : m₀.Fresh)
    (blank : m₀.world.content.Blank name) (capped : Capped m₀.world.content.kinds top)
    (run : Run m₀ moves m) (calm : undisturbed moves = true) : Balanced top moves m := by
  -- by induction on the run: the books are even at the start, and every move keeps them so
  induction run with
  | start =>
      have hnone : ∀ a : Account V C, a = callAccount top ∨ a = requestAccount top ∨
          a = serveAccount top → total a m₀ = a.books m₀.world.content := by
        intro a ha
        apply total_of_no_share
        intro t ht
        obtain ⟨i, task⟩ := List.getElem?_of_mem ht
        obtain ⟨layer, c, r, rfl, -⟩ := fresh.tasks i t task
        rcases ha with rfl | rfl | rfl <;> rfl
      have htally : m₀.world.content.tally = Tally.empty := by
        rw [Content.tally, blank.meters]
        rfl
      refine ⟨?_, ?_, ?_, ?_, ?_⟩
      · rw [blank.meters]
        exact Nat.zero_lt_one
      · rw [hnone _ (Or.inl rfl)]
        simp only [callAccount, htally, blank.calls]
        rfl
      · rw [hnone _ (Or.inr (Or.inl rfl))]
        simp only [requestAccount, htally]
        rfl
      · rw [htally]
        exact Nat.le_refl _
      · rw [hnone _ (Or.inr (Or.inr rfl))]
        simp only [serveAccount, htally]
        exact Int.le_refl _
  | @move moves m n run step ih =>
      obtain ⟨hcalm, kept, goes⟩ := undisturbed_snoc calm
      have sound : m.Sound := sound_reaches fresh.sound run.reaches
      refine (ih hcalm).move sound ?_ (sheltered_run fresh capped run) (stackMove sound step) kept
        goes
      rw [kinds_run fresh.sound run]
      exact capped

/-- The counters of a chain with a cache balance whenever no call is in progress. -/
theorem counters_balance {c : Config} (built : c.build source = .ok m₀) (cached : c.cached = true)
    (run : Run m₀ moves m) (calm : undisturbed moves = true) (quiet : m.isQuiet = true) :
    let tally := m.world.meters.tally 0
    (m.world.calls.length : Int) =
        tally.refreshes + tally.refreshErrors - tally.rateLimited + tally.retries ∧
      tally.requests = starts c.plans.length moves ∧ tally.hits ≤ tally.requests ∧
      tally.outageServes ≤ tally.refreshes := by
  obtain ⟨fresh, blank, hkinds⟩ := Config.planned_of_build built
  obtain ⟨top, hcapped⟩ := Config.exists_capped cached
  have hlength : c.plans.length = top + 1 := by
    rw [← Config.length_kinds]
    exact hcapped.length
  rw [← hkinds] at hcapped
  have hbalanced := balanced_run fresh blank hcapped run calm
  -- nobody who is in no call has a share
  have hshare : ∀ t ∈ m.tasks, (callAccount top).share t = 0 ∧ (requestAccount top).share t = 0 ∧
      (serveAccount top).share t = 0 := by
    intro t ht
    obtain ⟨i, task⟩ := List.getElem?_of_mem ht
    exact no_share_of_isIdle ((sound_reaches fresh.sound run.reaches).shaped i t task)
      (List.all_eq_true.1 quiet t ht) top
  have hcalls := hbalanced.calls
  have hrequests := hbalanced.requests
  have hserves := hbalanced.serves
  rw [total_of_no_share fun t ht => (hshare t ht).1] at hcalls
  rw [total_of_no_share fun t ht => (hshare t ht).2.1, ← hlength] at hrequests
  rw [total_of_no_share fun t ht => (hshare t ht).2.2] at hserves
  simp only [callAccount, requestAccount, serveAccount, Content.tally, Tally.spared,
    World.meters_content, World.calls_content] at hcalls hrequests hserves
  refine ⟨?_, ?_, hbalanced.hits, ?_⟩ <;> omega

end Runs

/-- Two fetches, two calls: one value was new, and one was served in the outage. -/
theorem counters_balance_in_outage :
    undisturbed bridgedOutage.1 = true ∧ bridgedOutage.2.isQuiet = true ∧
      bridgedOutage.2.world.meters.tally 0 = ⟨2, 0, 2, 0, 1, 0, 0, 1000000⟩ ∧
      bridgedOutage.2.world.calls.length = 2 ∧ starts 2 bridgedOutage.1 = 2 := by
  have calm : undisturbed bridgedOutage.1 = true := rfl
  have quiet : bridgedOutage.2.isQuiet = true := rfl
  have htally : bridgedOutage.2.world.meters.tally 0 = ⟨2, 0, 2, 0, 1, 0, 0, 1000000⟩ := rfl
  obtain ⟨hcalls, hrequests, -⟩ :=
    counters_balance built_bridgedChain rfl run_bridgedOutage calm quiet
  rw [htally] at hcalls hrequests
  refine ⟨calm, quiet, htally, ?_, hrequests.symm⟩
  simp only at hcalls
  omega

end Machine

end CredentialSupply
