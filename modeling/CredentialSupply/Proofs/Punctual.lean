import CredentialSupply.Proofs.Sharing
import CredentialSupply.Proofs.Validity

set_option autoImplicit false

/-!
# Time in whole milliseconds

The clock goes on in whole milliseconds. In a run that is `Punctual` time passes only when nothing
else is left to do, and never beyond an instant at which some task goes on by itself; such are the
runs of the schedule and the arrivals between them (`punctual_scheduled`, `punctual_requested`).
Where all spans are whole milliseconds, so are the expiries of entries
(`Lifetime.isWhole_of_entry?`), and no timer is late.
-/

namespace CredentialSupply

variable {V σ C : Type}

/-- A span of whole milliseconds. -/
def Span.IsWhole (s : Span) : Prop := nanosPerMilli ∣ s.nanos

instance (s : Span) : Decidable s.IsWhole := inferInstanceAs (Decidable (_ ∣ _))

namespace Instant

/-- An instant at a whole millisecond. -/
def IsWhole (t : Instant) : Prop := (nanosPerMilli : Int) ∣ t.nanos

instance (t : Instant) : Decidable t.IsWhole := inferInstanceAs (Decidable (_ ∣ _))

variable {s t : Instant} {span : Span}

theorem isWhole_origin : origin.IsWhole := ⟨0, rfl⟩

theorem isWhole_ceilMilli (t : Instant) : t.ceilMilli.IsWhole :=
  Int.dvd_neg.2 (Int.dvd_mul_left _ _)

/-- Nothing is rounded where nothing has to be. -/
theorem ceilMilli_of_isWhole (h : t.IsWhole) : t.ceilMilli = t := by
  have hpos : 0 ≤ (nanosPerMilli : Int) := by decide
  have hexact : Int.fdiv (-t.nanos) nanosPerMilli * nanosPerMilli = -t.nanos := by
    rw [Int.fdiv_eq_ediv_of_nonneg _ hpos]
    exact Int.ediv_mul_cancel (Int.dvd_neg.2 h)
  rw [ceilMilli, hexact, Int.neg_neg]

theorem isWhole_earliest (hs : s.IsWhole) (ht : t.IsWhole) : (s.earliest t).IsWhole := by
  rw [earliest]
  split
  · exact hs
  · exact ht

theorem isWhole_of_later? (hs : s.IsWhole) (hspan : span.IsWhole) (h : s.later? span = some t) :
    t.IsWhole := by
  rw [IsWhole, later?_eq_some h]
  exact Int.dvd_add hs (Int.ofNat_dvd.2 hspan)

theorem isWhole_of_earlier? (hs : s.IsWhole) (hspan : span.IsWhole)
    (h : s.earlier? span = some t) : t.IsWhole := by
  rw [IsWhole, earlier?_eq_some h]
  exact Int.dvd_sub hs (Int.ofNat_dvd.2 hspan)

theorem le_of_latest_ne (h : s.latest t ≠ s) : s.latest t = t ∧ s ≤ t := by
  rw [latest] at h ⊢
  split at h
  next hle => exact ⟨if_pos hle, hle⟩
  next => exact absurd rfl h

end Instant

/-! ## Entries -/

/-- A lifetime of whole milliseconds. -/
structure Lifetime.IsWhole (l : Lifetime) : Prop where
  timeToLive : l.timeToLive.IsWhole
  buffer : l.buffer.IsWhole

section Entry

variable [Perishable V] {l : Lifetime} {v : V} {now : Instant} {e : Entry V} {window : Span}

theorem Lifetime.isWhole_of_entry? (whole : l.IsWhole) (now' : now.IsWhole)
    (own : ∀ t, Perishable.ownExpiry v = some t → t.IsWhole) (h : l.entry? v now = some e) :
    e.expiresAt.IsWhole := by
  obtain ⟨x, hx, rfl⟩ := Option.map_eq_some_iff.1 h
  obtain ⟨deadline, hd, rfl⟩ := Option.map_eq_some_iff.1 hx
  have hdeadline := Instant.isWhole_of_later? now' whole.timeToLive hd
  cases hown : Perishable.ownExpiry v with
  | none => exact hdeadline
  | some t =>
      refine Instant.isWhole_earliest hdeadline ?_
      rw [Lifetime.buffered]
      cases hb : t.earlier? l.buffer with
      | none => exact own t hown
      | some u => exact Instant.isWhole_of_earlier? (own t hown) whole.buffer hb

/-- The window before the expiry of an entry that outlasts it begins where one expects it. -/
theorem Entry.windowStart_of_entry? (clock : Instant.origin ≤ now) (h : l.entry? v now = some e)
    (outlasts : e.outlasts window = true) :
    e.windowStart window = ⟨e.expiresAt.nanos - window.nanos⟩ := by
  have hbound := (Lifetime.le_of_entry? h).1
  have hinstalled := Lifetime.installedAt_of_entry? h
  rw [Entry.outlasts_iff, hinstalled] at outlasts
  obtain ⟨x, hx, -⟩ := Option.map_eq_some_iff.1 h
  obtain ⟨deadline, hd, -⟩ := Option.map_eq_some_iff.1 hx
  have hroom := (Instant.later?_isSome_iff now l.timeToLive).1 (by rw [hd]; rfl)
  -- the start of the window lies after the installation, and before an end that is represented
  have hrepresentable : Instant.Representable ⟨e.expiresAt.nanos - window.nanos⟩ := by
    obtain ⟨-, hhi⟩ := hroom
    rw [Instant.le_def] at clock
    simp only [Instant.origin, Instant.Representable] at clock hhi ⊢
    constructor <;> omega
  rw [Entry.windowStart, Instant.earlier?, Instant.represented?, if_pos hrepresentable]
  rfl

/-- An entry that is served for longer than the window, which begins at a whole millisecond. -/
structure Entry.Lasts (window : Span) (e : Entry V) : Prop where
  outlasts : e.outlasts window = true
  start : e.windowStart window = ⟨e.expiresAt.nanos - window.nanos⟩
  whole : (e.windowStart window).IsWhole

theorem Lifetime.lasts_of_entry? (whole : l.IsWhole) (window' : window.IsWhole)
    (now' : now.IsWhole) (clock : Instant.origin ≤ now)
    (own : ∀ t, Perishable.ownExpiry v = some t → t.IsWhole) (h : l.entry? v now = some e)
    (outlasts : e.outlasts window = true) : e.Lasts window := by
  have hstart := Entry.windowStart_of_entry? clock h outlasts
  refine ⟨outlasts, hstart, ?_⟩
  rw [hstart]
  exact Int.dvd_sub (Lifetime.isWhole_of_entry? whole now' own h) (Int.ofNat_dvd.2 window')

end Entry

/-! ## Runs -/

namespace Machine

/-- Time passes only when nothing else is left to do, to a whole millisecond, and not beyond an
instant at which some task goes on by itself. -/
def Punctual (moves : List (Machine V σ C × Machine V σ C)) : Prop :=
  ∀ move ∈ moves, move.1.world.now ≠ move.2.world.now →
    move.1.isSettled = true ∧ move.2.world.now.IsWhole ∧
      ∀ due ∈ move.1.dueInstants, move.2.world.now ≤ due

instance (moves : List (Machine V σ C × Machine V σ C)) : Decidable (Punctual moves) :=
  inferInstanceAs (Decidable (∀ move ∈ moves, _))

theorem Punctual.append {moves later : List (Machine V σ C × Machine V σ C)}
    (h : Punctual moves) (h' : Punctual later) : Punctual (moves ++ later) :=
  List.forall_mem_append.2 ⟨h, h'⟩

section Schedule

variable [Source σ V C] [Perishable V] {m n : Machine V σ C}

theorem foldl_earliest_le (dues : List Instant) (due : Instant) :
    dues.foldl Instant.earliest due ≤ due ∧
      ∀ d ∈ dues, dues.foldl Instant.earliest due ≤ d := by
  induction dues generalizing due with
  | nil => exact ⟨Instant.le_refl due, fun d hd => by cases hd⟩
  | cons x dues ih =>
      obtain ⟨hle, hall⟩ := ih (due.earliest x)
      refine ⟨Instant.le_trans hle (Instant.earliest_le_left due x), fun d hd => ?_⟩
      rcases List.mem_cons.1 hd with rfl | hd
      · exact Instant.le_trans hle (Instant.earliest_le_right due d)
      · exact hall d hd

theorem foldl_earliest_mem (dues : List Instant) (due : Instant) :
    dues.foldl Instant.earliest due ∈ due :: dues := by
  induction dues generalizing due with
  | nil => exact List.mem_cons_self
  | cons x dues ih =>
      rcases List.mem_cons.1 (ih (due.earliest x)) with h | h
      · rw [List.foldl_cons, h, Instant.earliest]
        split
        · exact List.mem_cons_self
        · exact List.mem_cons_of_mem due List.mem_cons_self
      · exact List.mem_cons_of_mem due (List.mem_cons_of_mem x h)

/-- The schedule lets time pass up to the first instant at which some task goes on. -/
theorem punctual_of_next? (h : m.next? = some n) (later : m.world.now ≠ n.world.now) :
    m.isSettled = true ∧ n.world.now.IsWhole ∧ ∀ due ∈ m.dueInstants, n.world.now ≤ due := by
  have settled := settled_of_next? h later
  refine ⟨settled, ?_⟩
  -- nothing else is left to do, so that the move goes on to the first due instant
  simp only [isSettled, Bool.and_eq_true, Option.isNone_iff_eq_none, List.isEmpty_iff] at settled
  simp only [next?, settled.1, settled.2, passTime?] at h
  split at h
  next => cases h
  next due dues hdues =>
    cases h
    rw [now_passTo] at later ⊢
    obtain ⟨hnow, -⟩ := Instant.le_of_latest_ne (Ne.symm later)
    rw [hnow]
    obtain ⟨hle, hall⟩ := foldl_earliest_le dues due
    constructor
    · have hmem := foldl_earliest_mem dues due
      rw [← hdues] at hmem
      obtain ⟨t, -, ht⟩ := List.mem_filterMap.1 hmem
      obtain ⟨d, -, hd⟩ := Option.map_eq_some_iff.1 ht
      rw [← hd]
      exact Instant.isWhole_ceilMilli d
    · intro d hd
      rw [hdues] at hd
      rcases List.mem_cons.1 hd with rfl | hd
      · exact hle
      · exact hall d hd

/-- The runs of the schedule are punctual. -/
theorem punctual_scheduled (k : Nat) (m : Machine V σ C) : Punctual (scheduled k m).1 :=
  fun _ hmove => punctual_of_next? (next?_of_mem_scheduled hmove)

theorem punctual_requested (request : Request) (k : Nat) (m : Machine V σ C) :
    Punctual (requested request k m).1 := by
  refine List.forall_mem_cons.2 ⟨fun later => ?_, punctual_scheduled k _⟩
  -- a task arrives in no time
  exact absurd (World.now_wake m.world m.tasks.length).symm later

end Schedule

section Run

variable [Source σ V C] [Perishable V] {m₀ m n : Machine V σ C}
  {moves : List (Machine V σ C × Machine V σ C)}

omit [Source σ V C] [Perishable V] in
theorem Punctual.dropLast (h : Punctual (moves ++ [(m, n)])) : Punctual moves :=
  fun move hmove => h move (List.mem_append_left _ hmove)

/-- A run that begins at a whole millisecond, and is punctual, is at one at any time. -/
theorem isWhole_run (start : m₀.world.now.IsWhole) (run : Run m₀ moves m)
    (punctual : Punctual moves) : m.world.now.IsWhole := by
  induction run with
  | start => exact start
  | @move moves m n run step ih =>
      by_cases hnow : m.world.now = n.world.now
      · rw [← hnow]
        exact ih punctual.dropLast
      · exact (punctual (m, n) (List.mem_append_right _ List.mem_cons_self) hnow).2.1

end Run

end Machine

end CredentialSupply
