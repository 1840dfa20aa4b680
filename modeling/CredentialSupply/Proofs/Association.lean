import Mathlib.Data.List.Nodup

set_option autoImplicit false

/-!
# Lists of entries with keys

What `List.lookup` finds in a list of pairs, by key: in a longer list, in a part of the list that is
chosen by the keys, and in a list in which all keys are different, where neither the order of the
entries nor the place of one of them matters.
-/

namespace CredentialSupply.Association

variable {α β : Type} [DecidableEq α] {entries : List (α × β)}

theorem lookup_cons_eq_ite (key head : α) (value : β) (rest : List (α × β)) :
    ((head, value) :: rest).lookup key = if key = head then some value else rest.lookup key := by
  by_cases same : key = head
  · simp [same]
  · rw [List.lookup_cons, beq_eq_false_iff_ne.mpr same, if_neg same]

/-- A choice of entries by their keys keeps what a chosen key gives. -/
theorem lookup_filter (chosen : α → Bool) (key : α) (entries : List (α × β)) :
    (entries.filter fun entry => chosen entry.1).lookup key =
      if chosen key then entries.lookup key else none := by
  induction entries with
  | nil => simp
  | cons entry rest ih =>
    obtain ⟨head, value⟩ := entry
    by_cases kept : chosen head = true
    · rw [List.filter_cons_of_pos (by exact kept), lookup_cons_eq_ite, lookup_cons_eq_ite, ih]
      by_cases same : key = head
      · simp [same, kept]
      · simp [same]
    · rw [List.filter_cons_of_neg (by exact kept), lookup_cons_eq_ite, ih]
      by_cases same : key = head
      · simp [same, kept]
      · simp [same]

/-- The order of entries with different keys does not matter. -/
theorem lookup_of_perm {entries others : List (α × β)} (same : entries.Perm others)
    (nodup : (entries.map Prod.fst).Nodup) (key : α) :
    entries.lookup key = others.lookup key := by
  induction same with
  | nil => rfl
  | cons entry _ ih =>
    obtain ⟨head, value⟩ := entry
    rw [List.map_cons, List.nodup_cons] at nodup
    rw [lookup_cons_eq_ite, lookup_cons_eq_ite, ih nodup.2]
  | swap first second rest =>
    obtain ⟨a, x⟩ := first
    obtain ⟨b, y⟩ := second
    have different : b ≠ a := by
      intro equal
      subst equal
      simp at nodup
    simp only [lookup_cons_eq_ite]
    split
    next here => rw [if_neg (by rw [here]; exact different)]
    next => rfl
  | trans left _ ih ih' =>
    have nodup' := (left.map Prod.fst).nodup_iff.mp nodup
    exact (ih nodup).trans (ih' nodup')

/-- An entry is found under its key. -/
theorem lookup_of_mem (nodup : (entries.map Prod.fst).Nodup) {key : α} {value : β}
    (mem : (key, value) ∈ entries) : entries.lookup key = some value := by
  induction entries with
  | nil => simp at mem
  | cons entry rest ih =>
    obtain ⟨head, first⟩ := entry
    rw [List.map_cons, List.nodup_cons] at nodup
    rw [lookup_cons_eq_ite]
    rcases List.mem_cons.mp mem with here | later
    · cases here
      rw [if_pos rfl]
    · have different : key ≠ head := by
        intro equal
        exact nodup.1 (List.mem_map.mpr ⟨(key, value), later, equal⟩)
      rw [if_neg different, ih nodup.2 later]

end CredentialSupply.Association
