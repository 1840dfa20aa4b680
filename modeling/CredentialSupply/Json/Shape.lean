import CredentialSupply.Json.Value
import CredentialSupply.Time.Span

set_option autoImplicit false

/-!
# Values in JSON documents

Readers for the types of this library. A record is written as an object, whose unknown
members are ignored and whose known members may stand once, or as an array of its fields in
order. `Slot` says what a document gives for a field, and a field is required, optional or
has a default.
-/

namespace CredentialSupply.Json

/-! ## Plain values -/

/-- A truth value. -/
def bool? : Json → Option Bool
  | .bool b => some b
  | _ => none

/-- A text. -/
def text? : Json → Option String
  | .string text => text
  | _ => none

/-- A natural number below `limit`. -/
def below? (limit : Nat) : Json → Option Nat
  | .number n => n.nat?.filter (· < limit)
  | _ => none

/-- The number of values of 64 bits. -/
def limit64 : Nat := Nat.pow 2 64

/-- The number of values of 32 bits. -/
def limit32 : Nat := Nat.pow 2 32

/-- A number of 64 bits. -/
def uint64? (j : Json) : Option UInt64 := (j.below? limit64).map Nat.toUInt64

/-- A number of 32 bits. -/
def uint32? (j : Json) : Option UInt32 := (j.below? limit32).map Nat.toUInt32

theorem below?_nat {limit n : Nat} (h : n < limit) : below? limit (nat n) = some n := by
  simp [below?, nat, Numeral.nat?_ofNat, Option.filter_some, h]

theorem uint32?_nat (n : UInt32) : uint32? (nat n.toNat) = some n := by
  simp [uint32?, below?_nat (show n.toNat < limit32 from n.toNat_lt)]

/-- The elements of an array. -/
def items? : Json → Option (List Json)
  | .array items => some items
  | _ => none

/-- The name of a case without contents: a text, or an object whose only member is the name
with the value `null`. -/
def caseName? : Json → Option String
  | .string text => text
  | .object [(name, .null)] => name
  | _ => none

/-! ## Records -/

/-- What a document gives for a field. -/
inductive Slot where
  | given (value : Json)
  | leftOut
  | cutOff

/-- The member of the given name. -/
def member? (members : List (Option String × Json)) (name : String) : Option Json :=
  members.lookup (some name)

/-- Whether the given name occurs at most once. -/
def isSingle (members : List (Option String × Json)) (name : String) : Bool :=
  (members.filter (·.1 == some name)).length ≤ 1

/-- The slots of a list of members: none if a name is no text or a known one is repeated. -/
def memberSlots? (names : List String) (members : List (Option String × Json)) :
    Option (List Slot) :=
  if members.all (·.1.isSome) && names.all (isSingle members) then
    some (names.map fun name => ((member? members name).map Slot.given).getD .leftOut)
  else none

/-- The slots of a list of values, one for each name; none if there are more values. -/
def itemSlots? : List String → List Json → Option (List Slot)
  | [], [] => some []
  | [], _ :: _ => none
  | _ :: names, [] => (itemSlots? names []).map (.cutOff :: ·)
  | _ :: names, item :: items => (itemSlots? names items).map (.given item :: ·)

/-- The slots of a record with the given fields. -/
def slots? (names : List String) : Json → Option (List Slot)
  | .object members => memberSlots? names members
  | .array items => itemSlots? names items
  | _ => none

namespace Slot

variable {α : Type}

/-- A field that has to be given. -/
def required? (decode : Json → Option α) : Slot → Option α
  | .given value => decode value
  | _ => none

/-- A field that has a default. -/
def orDefault? (standard : α) (decode : Json → Option α) : Slot → Option α
  | .given value => decode value
  | _ => some standard

/-- A field that may be `null`. -/
def nullable (decode : Json → Option α) : Json → Option (Option α)
  | .null => some none
  | value => (decode value).map some

/-- A field that may be left out of an object or be `null`, but not be cut off an array. -/
def optional? (decode : Json → Option α) : Slot → Option (Option α)
  | .given value => nullable decode value
  | .leftOut => some none
  | .cutOff => none

end Slot

/-! ## Spans -/

/-- The names of the parts of a span. -/
def spanNames : List String := ["secs", "nanos"]

/-- Whether every member of an object has one of the given names. -/
def hasOnly (names : List String) : Json → Bool
  | .object members => members.all fun (name, _) => name.any names.contains
  | _ => true

/-- The span given by the slots of its seconds and its nanoseconds. -/
def slotsSpan? : List Slot → Option Span
  | [seconds, nanos] =>
      (seconds.required? (below? limit64)).bind fun s =>
        (nanos.required? (below? limit32)).bind fun n => Span.ofParts? s n
  | _ => none

/-- A span by seconds and nanoseconds, both required and nothing else allowed. -/
def span? (j : Json) : Option Span :=
  if hasOnly spanNames j then (j.slots? spanNames).bind slotsSpan? else none

/-- A span as an object. -/
def ofSpan (s : Span) : Json := record [("secs", nat s.seconds), ("nanos", nat s.subsecond)]

theorem slots?_ofSpan (s : Span) :
    (ofSpan s).slots? spanNames = some [.given (nat s.seconds), .given (nat s.subsecond)] := by
  simp [ofSpan, record, spanNames, slots?, memberSlots?, isSingle, member?, List.lookup_cons]

theorem hasOnly_ofSpan (s : Span) : hasOnly spanNames (ofSpan s) = true := by
  simp [hasOnly, ofSpan, record, spanNames]

theorem slotsSpan?_parts {seconds nanos : Nat} (hs : seconds < limit64) (hn : nanos < limit32) :
    slotsSpan? [.given (nat seconds), .given (nat nanos)] = Span.ofParts? seconds nanos := by
  rw [slotsSpan?, Slot.required?, Slot.required?, below?_nat hs, below?_nat hn, Option.bind_some,
    Option.bind_some]

theorem span?_ofSpan (s : Span) : span? (ofSpan s) = some s := by
  rw [span?, if_pos (hasOnly_ofSpan s), slots?_ofSpan, Option.bind_some,
    slotsSpan?_parts s.seconds_lt (Nat.lt_trans s.subsecond_lt (by decide)),
    s.ofParts?_seconds_subsecond]

end CredentialSupply.Json
