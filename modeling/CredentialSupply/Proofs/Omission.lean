import CredentialSupply.Config.Codec
import CredentialSupply.Proofs.Association
import Mathlib.Data.List.Count

set_option autoImplicit false

/-!
# Options that a document leaves out

A document may leave out any options, give the others in any order and have members of other names.
What it says of an option is then the value under its name, or nothing (`Json.slots?_of_known`), and
what is read is the configuration that was written with the standard value for each option that is
left out (`Config.reset`). A document that gives an option twice is refused. The main statement is
`Config.read_with_options_left_out`.
-/

namespace CredentialSupply

namespace Json

open Association (lookup_cons_eq_ite lookup_filter lookup_of_perm lookup_of_mem)

/-! ## Slots of a record -/

theorem member?_record (name : String) (members : List (String × Json)) :
    member? (members.map fun (name, value) => (some name, value)) name = members.lookup name := by
  rw [member?]
  induction members with
  | nil => rfl
  | cons member rest ih =>
    obtain ⟨head, value⟩ := member
    rw [List.map_cons, lookup_cons_eq_ite, List.lookup_cons, ih]
    by_cases same : name = head
    · simp [same]
    · have other : (some name == some head) = false := by simpa using same
      simp only [other, if_neg same]

theorem isSingle_iff (members : List (Option String × Json)) (name : String) :
    isSingle members name = true ↔ (members.map Prod.fst).count (some name) ≤ 1 := by
  rw [isSingle, decide_eq_true_iff, List.count, List.countP_map, ← List.countP_eq_length_filter]
  exact Iff.rfl

/-- An object that gives a known name twice has no slots. -/
theorem slots?_of_repeated {names : List String} {members : List (Option String × Json)}
    {name : String} (known : name ∈ names)
    (twice : 2 ≤ (members.map Prod.fst).count (some name)) :
    (object members).slots? names = none := by
  rw [slots?, memberSlots?, if_neg]
  intro checked
  have singles := (Bool.and_eq_true_iff.mp checked).2
  have single := (isSingle_iff members name).mp (List.all_eq_true.mp singles name known)
  omega

/-- An object whose names of a list are all different has the slots that it gives. -/
theorem slots?_record {names : List String} {members : List (String × Json)}
    (single : ∀ name ∈ names, (members.map Prod.fst).count name ≤ 1) :
    (record members).slots? names =
      some (names.map fun name => ((members.lookup name).map Slot.given).getD .leftOut) := by
  rw [record, slots?, memberSlots?, if_pos]
  · simp only [member?_record]
  · rw [Bool.and_eq_true_iff]
    constructor
    · simp
    · rw [List.all_eq_true]
      intro name known
      rw [isSingle_iff]
      have names_eq : ((members.map fun (name, value) => (some name, value)).map Prod.fst) =
          (members.map Prod.fst).map some := by
        simp [Function.comp_def]
      rw [names_eq, List.count_map_of_injective _ _ fun _ _ => Option.some.inj]
      exact single name known

/-- What a document says of an option that may be left out. -/
def Slot.unless (leftOut : Bool) (value : Json) : Slot :=
  if leftOut then .leftOut else .given value

theorem Slot.orDefault?_unless {α : Type} (standard : α) {x : α} {decode : Json → Option α}
    {value : Json} (read : decode value = some x) (leftOut : Bool) :
    (Slot.unless leftOut value).orDefault? standard decode =
      some (if leftOut then standard else x) := by
  cases leftOut with
  | false => exact read
  | true => rfl

/-- The slots of a record that was written in full, and of which some members are left out, the
others given in any order, and members of unknown names added. -/
theorem slots?_of_known {written members : List (String × Json)} (leftOut : String → Bool)
    (nodup : (written.map Prod.fst).Nodup)
    (known : (members.filter fun member => (written.map Prod.fst).contains member.1).Perm
      (written.filter fun member => !leftOut member.1)) :
    (record members).slots? (written.map Prod.fst) =
      some (written.map fun member => Slot.unless (leftOut member.1) member.2) := by
  have nodupKept : ((written.filter fun member => !leftOut member.1).map Prod.fst).Nodup :=
    nodup.sublist (List.filter_sublist.map Prod.fst)
  have nodupKnown := (known.map Prod.fst).nodup_iff.mpr nodupKept
  rw [slots?_record]
  · rw [List.map_map]
    congr 1
    apply List.map_congr_left
    rintro ⟨name, value⟩ mem
    have isKnown : (written.map Prod.fst).contains name = true := by
      rw [List.contains_iff_mem]
      exact List.mem_map_of_mem (f := Prod.fst) mem
    -- the known members of the document say the same as those that were kept
    have found := lookup_of_perm known nodupKnown name
    rw [lookup_filter (written.map Prod.fst).contains, if_pos isKnown,
      lookup_filter (fun name => !leftOut name), lookup_of_mem nodup mem] at found
    simp only [Function.comp_apply, found, Slot.unless]
    cases leftOut name <;> rfl
  · intro name mem
    have isKnown : (written.map Prod.fst).contains name = true := List.contains_iff_mem.mpr mem
    have once := List.nodup_iff_count_le_one.mp nodupKnown name
    rw [List.count, List.countP_map, List.countP_filter] at once
    rw [List.count, List.countP_map]
    refine Nat.le_trans (List.countP_mono_left ?_) once
    intro member _ same
    have equal : member.1 = name := by simpa using same
    rw [Bool.and_eq_true]
    exact ⟨same, equal ▸ isKnown⟩

end Json

namespace Config

open Json (Slot)

variable {c : Config} {leftOut : String → Bool}

/-- The members of a configuration in a document. -/
def members (c : Config) : List (String × Json) := memberNames.zip c.memberValues

/-- The configuration with the standard value for each option whose name is left out. -/
def reset (c : Config) (leftOut : String → Bool) : Config where
  name := if leftOut "name" then standard.name else c.name
  cached := if leftOut "cached" then standard.cached else c.cached
  timeToLive := if leftOut "time_to_live" then standard.timeToLive else c.timeToLive
  buffer := if leftOut "min_time_to_live" then standard.buffer else c.buffer
  refreshTimeout := if leftOut "refresh_timeout" then standard.refreshTimeout else c.refreshTimeout
  preemptive := if leftOut "preemptive_refresh" then standard.preemptive else c.preemptive
  window := if leftOut "preemptive_window" then standard.window else c.window
  mode := if leftOut "refresh_mode" then standard.mode else c.mode
  rateLimited := if leftOut "rate_limited" then standard.rateLimited else c.rateLimited
  bucketSize := if leftOut "bucket_size" then standard.bucketSize else c.bucketSize
  refillTokens := if leftOut "refill_tokens" then standard.refillTokens else c.refillTokens
  refillPeriod := if leftOut "refill_period" then standard.refillPeriod else c.refillPeriod
  retrying := if leftOut "retrying" then standard.retrying else c.retrying
  outageCached := if leftOut "outage_cached" then standard.outageCached else c.outageCached
  outageTimeToLive :=
    if leftOut "outage_time_to_live" then standard.outageTimeToLive else c.outageTimeToLive
  health := if leftOut "health" then standard.health else c.health

theorem reset_none (c : Config) : c.reset (fun _ => false) = c := rfl

theorem reset_all (c : Config) : c.reset (fun _ => true) = standard := rfl

/-- What is read for an option that is not given is its standard value. -/
theorem unset_eq_standard : unset = standard := rfl

theorem map_fst_members (c : Config) : c.members.map Prod.fst = memberNames := rfl

/-- Each option is read from its own slot, and from there as it was written. -/
theorem ofSlots?_unless (c : Config) (leftOut : String → Bool) :
    ofSlots? (c.members.map fun member => Slot.unless (leftOut member.1) member.2) =
      some (c.reset leftOut) := by
  have texts (standard text : String) (out : Bool) :=
    Slot.orDefault?_unless standard (show Json.text? (.text text) = some text from rfl) out
  have truths (standard b : Bool) (out : Bool) :=
    Slot.orDefault?_unless standard (show Json.bool? (.bool b) = some b from rfl) out
  have spans (standard span : Span) (out : Bool) :=
    Slot.orDefault?_unless standard (Json.span?_ofSpan span) out
  have numbers (standard n : UInt32) (out : Bool) :=
    Slot.orDefault?_unless standard (Json.uint32?_nat n) out
  have modes (standard mode : RefreshMode) (out : Bool) :=
    Slot.orDefault?_unless standard
      (show RefreshMode.ofJson? (.text mode.name) = some mode from mode.ofName?_name) out
  simp only [members, memberNames, memberValues, List.zip_cons_cons, List.zip_nil_right,
    List.map_cons, List.map_nil, ofSlots?, texts, truths, spans, numbers, modes, unset_eq_standard]
  rfl

/-- A document for a configuration without the options that are left out: the known members are the
others, each as it was written, in any order. -/
def IsWrittenWithout (c : Config) (leftOut : String → Bool) (document : List (String × Json)) :
    Prop :=
  (document.filter fun member => memberNames.contains member.1).Perm
    (c.members.filter fun member => !leftOut member.1)

theorem ofJson?_of_isWrittenWithout {document : List (String × Json)}
    (written : c.IsWrittenWithout leftOut document) :
    ofJson? (.record document) = some (c.reset leftOut) := by
  have nodup : (c.members.map Prod.fst).Nodup := by
    rw [map_fst_members]
    decide
  have slots := Json.slots?_of_known leftOut nodup written
  rw [map_fst_members] at slots
  rw [ofJson?, slots, Option.bind_some, ofSlots?_unless]

theorem ofJson?_of_repeated {document : List (Option String × Json)} {name : String}
    (known : name ∈ memberNames) (twice : 2 ≤ (document.map Prod.fst).count (some name)) :
    ofJson? (.object document) = none := by
  rw [ofJson?, Json.slots?_of_repeated known twice, Option.bind_none]

theorem read_of_ofJson? {text : String} {document : Json}
    (parsed : Json.read text = some document) :
    read text = (ofJson? document).elim (.error .malformed) .ok := by
  rw [read, parsed, Option.bind_some]
  cases ofJson? document <;> rfl

/-- **A configuration survives being written and read, whichever options are left out**: from a
document with the other options in any order, and with any members of other names, everything is
read as it was written, and the standard value for what is left out. So what is written in full is
read back, and a document without options gives the standard configuration. A document that gives
an option twice is refused, whatever else it has. -/
theorem read_with_options_left_out (c : Config) (leftOut : String → Bool) :
    (∀ document, c.IsWrittenWithout leftOut document →
      ofJson? (.record document) = some (c.reset leftOut) ∧
      ∀ text, Json.read text = some (.record document) → read text = .ok (c.reset leftOut)) ∧
    (∀ document name, name ∈ memberNames → 2 ≤ (document.map Prod.fst).count (some name) →
      ofJson? (.object document) = none ∧
      ∀ text, Json.read text = some (.object document) → read text = .error .malformed) ∧
    ofJson? c.toJson = some c ∧
    ∀ document, (∀ member ∈ document, member.1 ∉ memberNames) →
      ofJson? (.record document) = some standard := by
  refine ⟨?_, ?_, ?_, ?_⟩
  · intro document written
    have decoded := ofJson?_of_isWrittenWithout written
    refine ⟨decoded, ?_⟩
    intro text parsed
    rw [read_of_ofJson? parsed, decoded]
    rfl
  · intro document name known twice
    have refused := ofJson?_of_repeated known twice
    refine ⟨refused, ?_⟩
    intro text parsed
    rw [read_of_ofJson? parsed, refused]
    rfl
  · have all : c.IsWrittenWithout (fun _ => false) c.members := by
      rw [IsWrittenWithout, Bool.not_false, List.filter_true, List.filter_eq_self.mpr]
      intro member mem
      rw [List.contains_iff_mem, ← map_fst_members c]
      exact List.mem_map_of_mem mem
    have decoded := ofJson?_of_isWrittenWithout all
    rw [reset_none] at decoded
    exact decoded
  · intro document unknown
    have nothing : standard.IsWrittenWithout (fun _ => true) document := by
      rw [IsWrittenWithout, List.filter_eq_nil_iff.mpr, List.filter_eq_nil_iff.mpr]
      · intro _ _
        decide
      · intro member mem known
        exact unknown member mem (List.contains_iff_mem.mp known)
    rw [ofJson?_of_isWrittenWithout nothing, reset_all]

/-- A configuration with a name outside ASCII. -/
def keyChain : Config :=
  { standard with name := "clé 鍵", timeToLive := Span.ofSeconds 90, mode := .eager, health := true }

/-- Three of its options in another order, and a member that is no option. -/
def keyChainDocument : List (String × Json) :=
  [("refresh_mode", .text "eager"), ("comment", .null),
   ("time_to_live", .ofSpan (Span.ofSeconds 90)), ("name", .text "clé 鍵")]

/-- The document as a text. -/
def keyChainText : String :=
  "\x7b\"refresh_mode\": \"eager\", \"comment\": null, " ++
  "\"time_to_live\": \x7b\"secs\": 90, \"nanos\": 0\x7d, \"name\": \"cl\\u00e9 鍵\"\x7d"

/-- What is read has the three options, and lost the one that was left out; with one of them a
second time the document is refused. -/
theorem key_chain_loses_health :
    read keyChainText = .ok { keyChain with health := false } ∧
      ofJson? (.record (("name", .null) :: keyChainDocument)) = none := by
  have law := read_with_options_left_out keyChain
    fun name => !(["name", "time_to_live", "refresh_mode"].contains name)
  constructor
  · have reversed : keyChainDocument.filter (memberNames.contains ·.1) =
        (keyChain.members.filter
          fun member => ["name", "time_to_live", "refresh_mode"].contains member.1).reverse := rfl
    refine (law.1 keyChainDocument ?_).2 keyChainText rfl
    rw [IsWrittenWithout, reversed]
    simp only [Bool.not_not]
    exact List.reverse_perm _
  · exact (law.2.1 _ "name" (by decide) (by decide)).1

end Config

end CredentialSupply
