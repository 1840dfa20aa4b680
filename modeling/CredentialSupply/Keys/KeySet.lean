import CredentialSupply.Cache.Entry
import CredentialSupply.Failure
import CredentialSupply.Json.Magnitude
import CredentialSupply.Json.Reader
import CredentialSupply.Json.Shape

set_option autoImplicit false

/-!
# Key sets

A JSON Web Key Set is a list of public keys. A key has parameters that every key may have and
the material of one family of algorithms. `KeySet.find?` gives the first key with an
identifier. A set never expires by itself.
-/

namespace CredentialSupply

/-- The numbers of a key, by family, in their written form. -/
inductive KeyMaterial where
  | elliptic (curve x y : String)
  | rsa (modulus exponent : String)
  | octets (value : String)
  | octetPair (curve x : String)
  deriving DecidableEq

/-- A key. -/
structure Key where
  use : Option String
  operations : Option (List String)
  algorithm : Option String
  id : Option String
  certificateUrl : Option String
  certificateChain : Option (List String)
  thumbprint : Option String
  thumbprint256 : Option String
  material : KeyMaterial
  deriving DecidableEq

/-- A set of keys. -/
structure KeySet where
  keys : List Key
  deriving DecidableEq

namespace KeySet

instance : Perishable KeySet := ⟨fun _ => none⟩

/-- The first key with the given identifier. -/
def find? (s : KeySet) (kid : String) : Option Key := s.keys.find? fun key => key.id = some kid

end KeySet

/-! ## Writing -/

namespace Key

/-- A list of texts. -/
def textList (texts : List String) : Json := .array (texts.map Json.text)

/-- The members of the material. -/
def materialMembers : KeyMaterial → List (String × Json)
  | .elliptic curve x y =>
      [("kty", .text "EC"), ("crv", .text curve), ("x", .text x), ("y", .text y)]
  | .rsa modulus exponent => [("kty", .text "RSA"), ("n", .text modulus), ("e", .text exponent)]
  | .octets value => [("kty", .text "oct"), ("k", .text value)]
  | .octetPair curve x => [("kty", .text "OKP"), ("crv", .text curve), ("x", .text x)]

/-- The key as an object; what it does not have is left out. -/
def toJson (k : Key) : Json :=
  let one (name : String) (value : Option Json) : List (String × Json) :=
    match value with
    | none => []
    | some v => [(name, v)]
  .record
    (one "use" (k.use.map .text) ++ one "key_ops" (k.operations.map textList) ++
      one "alg" (k.algorithm.map .text) ++ one "kid" (k.id.map .text) ++
      one "x5u" (k.certificateUrl.map .text) ++ one "x5c" (k.certificateChain.map textList) ++
      one "x5t" (k.thumbprint.map .text) ++ one "x5t#S256" (k.thumbprint256.map .text) ++
      materialMembers k.material)

/-! ## Reading -/

/-- Whether a document nests at most `depth` arrays and objects and can be kept: all its strings
are text and all its numbers are finite. -/
def isKeepable : Nat → Json → Bool
  | _, .null => true
  | _, .bool _ => true
  | _, .number n => n.isFinite
  | _, .string text => text.isSome
  | 0, .array _ => false
  | 0, .object _ => false
  | depth + 1, .array items => items.all (isKeepable depth)
  | depth + 1, .object members =>
      members.all fun (name, value) => name.isSome && isKeepable depth value

/-- Levels left for the members of a key below the set, its list and the key itself. -/
def memberDepth : Nat := 124

/-- The algorithms with a name of their own. -/
def algorithms : List String :=
  ["HS256", "HS384", "HS512", "ES256", "ES384", "RS256", "RS384", "RS512", "PS256", "PS384",
   "PS512", "EdDSA", "RSA1_5", "RSA-OAEP", "RSA-OAEP-256"]

/-- An algorithm by name; all names that are not known become one. -/
def algorithm? (j : Json) : Option String :=
  let name := match j with
    | .object [(name, .object [])] => name
    | other => other.caseName?
  name.map fun text => if algorithms.contains text then text else "UNKNOWN_ALGORITHM"

/-- The curves of elliptic keys and octet pairs. -/
def curves : List String := ["P-256", "P-384", "P-521", "Ed25519"]

/-- A curve by name. -/
def curve? (j : Json) : Option String := j.caseName?.filter curves.contains

/-- A list of texts. -/
def texts? (j : Json) : Option (List String) := j.items?.bind fun items => items.mapM Json.text?

/-- The parameters that every key may have. -/
def commonNames : List String :=
  ["use", "key_ops", "alg", "kid", "x5u", "x5c", "x5t", "x5t#S256"]

/-- The slots of the named members of a key, if none is repeated. -/
def pick? (names : List String) (members : List (Option String × Json)) : Option (List Json.Slot) :=
  Json.memberSlots? names members

/-- The member that names the family, if it is the given one. -/
def family? (name : String) (j : Json) : Option Unit :=
  if j.caseName? = some name then some () else none

/-- The material of an elliptic key. -/
def elliptic? (members : List (Option String × Json)) : Option KeyMaterial := do
  match ← pick? ["kty", "crv", "x", "y"] members with
  | [family, curve, x, y] =>
      family.required? (family? "EC")
      return .elliptic (← curve.required? curve?) (← x.required? Json.text?)
        (← y.required? Json.text?)
  | _ => none

/-- The material of an RSA key. -/
def rsa? (members : List (Option String × Json)) : Option KeyMaterial := do
  match ← pick? ["kty", "n", "e"] members with
  | [family, modulus, exponent] =>
      family.required? (family? "RSA")
      return .rsa (← modulus.required? Json.text?) (← exponent.required? Json.text?)
  | _ => none

/-- The material of a symmetric key. -/
def octets? (members : List (Option String × Json)) : Option KeyMaterial := do
  match ← pick? ["kty", "k"] members with
  | [family, value] =>
      family.required? (family? "oct")
      return .octets (← value.required? Json.text?)
  | _ => none

/-- The material of an octet pair. -/
def octetPair? (members : List (Option String × Json)) : Option KeyMaterial := do
  match ← pick? ["kty", "crv", "x"] members with
  | [family, curve, x] =>
      family.required? (family? "OKP")
      return .octetPair (← curve.required? curve?) (← x.required? Json.text?)
  | _ => none

/-- The material of the first family that fits. -/
def material? (members : List (Option String × Json)) : Option KeyMaterial :=
  (elliptic? members).or ((rsa? members).or ((octets? members).or (octetPair? members)))

/-- The key in a document; members that are not known are dropped. -/
def ofJson? : Json → Option Key
  | .object members => do
      if members.all fun (name, value) => name.isSome && isKeepable memberDepth value then
        match ← pick? commonNames members with
        | [use, operations, algorithm, id, certificateUrl, certificateChain, thumbprint,
            thumbprint256] =>
            let optional {α : Type} (decode : Json → Option α) (slot : Json.Slot) :
                Option (Option α) :=
              slot.orDefault? none (Json.Slot.nullable decode)
            return {
              use := ← optional Json.text? use
              operations := ← optional texts? operations
              algorithm := ← optional algorithm? algorithm
              id := ← optional Json.text? id
              certificateUrl := ← optional Json.text? certificateUrl
              certificateChain := ← optional texts? certificateChain
              thumbprint := ← optional Json.text? thumbprint
              thumbprint256 := ← optional Json.text? thumbprint256
              material := ← material? members }
        | _ => none
      else none
  | _ => none

end Key

namespace KeySet

/-- The set as an object. -/
def toJson (s : KeySet) : Json := .record [("keys", .array (s.keys.map Key.toJson))]

/-- The set in a document. -/
def ofJson? (j : Json) : Option KeySet := do
  match ← j.slots? ["keys"] with
  | [keys] => do
      let items ← keys.required? Json.items?
      return ⟨← items.mapM Key.ofJson?⟩
  | _ => none

/-- The set in a text. -/
def read (text : String) : Except Failure KeySet :=
  match (Json.read text).bind ofJson? with
  | some s => .ok s
  | none => .error .malformed

end KeySet

end CredentialSupply
