import CredentialSupply.Url.File

set_option autoImplicit false

/-!
# Reading addresses

`Url.read` reads an absolute address as browsers do: surrounding spaces and all tabs and
line breaks are dropped, the scheme is compared in lower case, dot segments are resolved,
and what a part must not hold is percent-encoded.
-/

namespace CredentialSupply.Url

/-- Whether `c` is a control character or a space. -/
def isPadding (c : Char) : Bool := c.toNat ≤ 0x20

/-- The text without surrounding padding. -/
def trimmed (text : String) : List Char :=
  ((text.toList.dropWhile isPadding).reverse.dropWhile isPadding).reverse

/-- Whether `c` may stand in a scheme after its first letter. -/
def inScheme (c : Char) : Bool :=
  Text.isLetter c || Text.isDigit c || c == '+' || c == '-' || c == '.'

/-- The scheme in lower case, and what follows its colon. -/
def readScheme (cs : List Char) : Option (String × List Char) :=
  let lead := cs.takeWhile inScheme
  match lead, cs.drop lead.length with
  | first :: _, ':' :: rest =>
      if Text.isLetter first then some (String.ofList (lead.map Text.asciiLower), rest) else none
  | _, _ => none

/-! ## Authority -/

/-- Whether `c` ends the authority. -/
def endsAuthority (special : Bool) (c : Char) : Bool :=
  c == '/' || c == '?' || c == '#' || (special && c == '\\')

/-- The text before the last at sign, if there is one, and the text after it. -/
def splitLastAt (cs : List Char) : Option (List Char × List Char) :=
  if cs.contains '@' then
    let host := (cs.reverse.takeWhile (· != '@')).reverse
    some (cs.take (cs.length - host.length - 1), host)
  else none

/-- User name and password, percent-encoded. -/
def userInfo (cs : List Char) : String × String :=
  let user := cs.takeWhile (· != ':')
  (Percent.encode Percent.inUserInfo user,
    Percent.encode Percent.inUserInfo (cs.drop (user.length + 1)))

/-- The text before the first colon outside square brackets, and what follows from there. -/
def splitPort (bracketed : Bool) : List Char → List Char × List Char
  | [] => ([], [])
  | c :: rest =>
      if c == ':' && !bracketed then ([], c :: rest)
      else
        let (host, port) := splitPort (c == '[' || (bracketed && c != ']')) rest
        (c :: host, port)

/-- The port after a colon; a text without digits gives none. What follows the digits has to
start the path, and only a backslash can stand there, which starts it too. -/
def readPort (scheme : String) (cs : List Char) : Except Flaw (Option Nat × List Char) :=
  let digits := cs.takeWhile Text.isDigit
  let rest := cs.drop digits.length
  let n := Text.ofDigits digits
  if n > 65535 then .error .port
  else if !rest.isEmpty && rest.head? != some '\\' then .error .port
  else .ok (if digits.isEmpty || some n = defaultPort scheme then none else some n, rest)

/-- The authority, and the part of its text that turns out to belong to the path. `followed`
says whether anything stands behind the authority: there an at sign without a user needs a
host. -/
def readAuthority (scheme : String) (followed : Bool) (cs : List Char) :
    Except Flaw (Authority × List Char) := do
  let special := isSpecial scheme
  let ((user, password), hostText) ←
    match splitLastAt cs with
    | none => pure (("", ""), cs)
    | some (info, host) =>
        if info.isEmpty && host.isEmpty && followed then .error .emptyHost
        else pure (userInfo info, host)
  let (host, portText) := splitPort false hostText
  if special && host.isEmpty then .error .emptyHost
  else
    let host ← if special then Host.ofSpecial host else Host.ofOther host
    match portText with
    | [] =>
        if host.isEmpty && !(user.isEmpty && password.isEmpty) then .error .emptyHost
        else pure (⟨user, password, host, none⟩, [])
    | _ :: digits =>
        if host.isEmpty then .error .emptyHost
        else
          let (port, rest) ← readPort scheme digits
          pure (⟨user, password, host, port⟩, rest)

/-! ## Tails -/

/-- Path, query and fragment texts: what precedes the first question mark and the first
number sign, what lies between them, and what follows the number sign. -/
def splitTail (cs : List Char) : List Char × Option (List Char) × Option (List Char) :=
  let beforeFragment := cs.takeWhile (· != '#')
  let fragment := match cs.drop beforeFragment.length with
    | _ :: rest => some rest
    | [] => none
  let path := beforeFragment.takeWhile (· != '?')
  let query := match beforeFragment.drop path.length with
    | _ :: rest => some rest
    | [] => none
  (path, query, fragment)

/-- The address with the given scheme, authority and path, and the texts of its tail. -/
def assemble (scheme : String) (authority : Option Authority) (path : Path)
    (query fragment : Option (List Char)) : Url :=
  let avoid := if isSpecial scheme then Percent.inSpecialQuery else Percent.inQuery
  ⟨scheme, authority, path, query.map (Percent.encode avoid),
    fragment.map (Percent.encode Percent.inFragment)⟩

/-! ## Whole addresses -/

/-- What follows the scheme of an address up to the query, tabs and line breaks included. -/
def bodyText (cs : List Char) : List Char := (splitTail ((cs.dropWhile (· != ':')).drop 1)).1

/-- The address written by `text`. -/
def read (text : String) : Except Flaw Url :=
  match readScheme (withoutBreaks (trimmed text)) with
  | none => .error .relative
  | some (scheme, rest) => do
      let (body, query, fragment) := splitTail rest
      let special := isSpecial scheme
      if scheme = "file" then
        let (authority, path) ← readFile (bodyText (trimmed text))
        pure (assemble scheme (some authority) path query fragment)
      else
        let slashed := "//".toList.isPrefixOf body
        if special || slashed then
          let opened :=
            if special then body.dropWhile (fun c => c == '/' || c == '\\') else body.drop 2
          let authorityText := opened.takeWhile (!endsAuthority special ·)
          let below := opened.drop authorityText.length
          let followed := !below.isEmpty || query.isSome || fragment.isSome
          let (authority, extra) ← readAuthority scheme followed authorityText
          let path := extra ++ below
          pure (assemble scheme (some authority) (readPath special path) query fragment)
        else if body.head? = some '/' then
          pure (assemble scheme none (readPath special body) query fragment)
        else
          let path : Path := .plain (Percent.encode Percent.isControl body)
          pure (assemble scheme none path query fragment)

end CredentialSupply.Url
