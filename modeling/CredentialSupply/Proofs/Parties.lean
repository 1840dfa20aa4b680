import CredentialSupply.Cache.Lock

set_option autoImplicit false

/-!
# The parties of a lock

The holder of a lock and those who wait for it form one queue, its `parties`. Whoever asks
joins the queue at the end (`parties_ask`), and whoever goes, as the holder or as somebody who
gives up waiting, leaves it (`parties_withdraw`); the holder is always the first.
-/

namespace CredentialSupply

namespace Lock

/-- The holder of a lock and then those who wait for it. -/
def parties (l : Lock) : List TaskId := l.holder.toList ++ l.waiting

/-- Nobody waits for a lock that nobody holds. -/
def Proper (l : Lock) : Prop := l.holder = none → l.waiting = []

/-- The lock without a task, which holds it or waits for it. -/
def withdraw (l : Lock) (id : TaskId) : Lock := if l.isHeldBy id then l.release else l.leave id

theorem isHeldBy_iff (l : Lock) (id : TaskId) : l.isHeldBy id = true ↔ l.holder = some id := by
  simp [isHeldBy]

theorem proper_free : free.Proper := fun _ => rfl

theorem proper_ask {l : Lock} (id : TaskId) : (l.ask id).Proper := by
  intro h
  unfold ask at h
  split at h <;> simp_all

theorem proper_release (l : Lock) : l.release.Proper := by
  intro h
  rw [release] at h ⊢
  split at h <;> simp_all [free]

theorem proper_leave {l : Lock} (h : l.Proper) (id : TaskId) : (l.leave id).Proper := by
  intro hnone
  have hw : l.waiting = [] := h hnone
  simp [leave, hw]

theorem proper_withdraw {l : Lock} (h : l.Proper) (id : TaskId) : (l.withdraw id).Proper := by
  rw [withdraw]
  split
  · exact proper_release l
  · exact proper_leave h id

theorem parties_of_holder {l : Lock} {id : TaskId} (h : l.holder = some id) :
    l.parties = id :: l.waiting := by
  simp [parties, h]

theorem holder_eq_head? {l : Lock} (h : l.Proper) : l.holder = l.parties.head? := by
  cases hh : l.holder with
  | none => simp [parties, hh, h hh]
  | some id => simp [parties, hh]

theorem parties_eq_nil_iff {l : Lock} (h : l.Proper) : l.parties = [] ↔ l = free := by
  constructor
  · intro hp
    obtain ⟨holder, waiting⟩ := l
    cases holder with
    | none => simpa [free] using h rfl
    | some id => simp [parties] at hp
  · rintro rfl
    rfl

theorem parties_ask {l : Lock} (h : l.Proper) (id : TaskId) :
    (l.ask id).parties = l.parties ++ [id] := by
  rw [ask]
  split
  next hh => simp [parties, hh, h hh]
  next hh => simp [parties, hh]

theorem parties_release (l : Lock) {id : TaskId} (h : l.holder = some id) :
    l.release.parties = l.parties.tail := by
  rw [parties_of_holder h]
  unfold release
  split
  next hw => simp [parties, free, hw]
  next hw => simp [parties, hw]

theorem parties_withdraw (l : Lock) (id : TaskId) :
    (l.withdraw id).parties = l.parties.erase id := by
  unfold withdraw
  split
  next held =>
    rw [isHeldBy_iff] at held
    rw [parties_release l held, parties_of_holder held]
    simp
  next held =>
    rw [isHeldBy_iff] at held
    unfold parties leave
    cases hh : l.holder with
    | none => simp
    | some other =>
        have hne : other ≠ id := fun e => held (by rw [hh, e])
        simp [hne]

end Lock

end CredentialSupply
