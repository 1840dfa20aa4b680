import CredentialSupply.Url.Host

set_option autoImplicit false

/-!
# Addresses

An address has a scheme, an optional authority (user, host and port), a path, and an
optional query and fragment, all in the form in which they are written. `Url.text` writes
it, and `Url.isHttps` says whether its scheme is `https`.
-/

namespace CredentialSupply

namespace Url

/-- Who is asked: user name, password, host, and the port when it is not the scheme's own. -/
structure Authority where
  user : String
  password : String
  host : Host
  port : Option Nat
  deriving DecidableEq

/-- The path of an address: segments that follow a slash each, or one text without
structure. -/
inductive Path where
  | segments (parts : List String)
  | plain (text : String)
  deriving DecidableEq

end Url

/-- An address. -/
structure Url where
  scheme : String
  authority : Option Url.Authority
  path : Url.Path
  query : Option String
  fragment : Option String
  deriving DecidableEq

namespace Url

/-- The port that a scheme uses when none is given. -/
def defaultPort (scheme : String) : Option Nat :=
  if scheme = "http" || scheme = "ws" then some 80
  else if scheme = "https" || scheme = "wss" then some 443
  else if scheme = "ftp" then some 21
  else none

/-- Whether the scheme is a file or one with a default port; such addresses always have an
authority, and a backslash in them counts as a slash. -/
def isSpecial (scheme : String) : Bool := scheme = "file" || (defaultPort scheme).isSome

/-- The authority as it stands in an address. -/
def Authority.text (a : Authority) : String :=
  let user :=
    if a.user.isEmpty && a.password.isEmpty then ""
    else if a.password.isEmpty then a.user ++ "@"
    else a.user ++ ":" ++ a.password ++ "@"
  let port := match a.port with
    | none => ""
    | some n => ":" ++ Text.decimal n
  user ++ a.host.text ++ port

/-- The path as it stands in an address. -/
def Path.text : Path → String
  | .segments parts => String.join (parts.map ("/" ++ ·))
  | .plain text => text

/-- The path after what precedes it: without an authority, a path that starts with two
slashes gets a dot segment in front, or its first segment would read as a host. -/
def pathText (u : Url) : String :=
  match u.authority, u.path with
  | none, .segments ("" :: next :: rest) => "/." ++ (Path.segments ("" :: next :: rest)).text
  | _, path => path.text

/-- The address without its fragment, as it is asked for. -/
def textWithoutFragment (u : Url) : String :=
  let authority := match u.authority with
    | none => ""
    | some a => "//" ++ a.text
  let query := match u.query with
    | none => ""
    | some q => "?" ++ q
  u.scheme ++ ":" ++ authority ++ u.pathText ++ query

/-- The address in writing. -/
def text (u : Url) : String :=
  match u.fragment with
  | none => u.textWithoutFragment
  | some f => u.textWithoutFragment ++ "#" ++ f

/-- Whether the scheme is `https`. -/
def isHttps (u : Url) : Bool := u.scheme = "https"

end Url

end CredentialSupply
