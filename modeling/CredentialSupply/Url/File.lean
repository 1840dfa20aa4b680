import CredentialSupply.Url.Segment

set_option autoImplicit false

/-!
# Addresses of files

The address of a file may have a host but needs none. A path may start with a drive letter,
which is then written with a colon; a file on a drive is on no host. Tabs and line breaks are
still in the texts read here, because one behind a drive letter ends its segment.
-/

namespace CredentialSupply.Url

/-- The host of a file, where `localhost` counts as none. -/
def readFileHost (cs : List Char) : Except Flaw Host :=
  if cs.isEmpty then .ok (.name "")
  else (Host.ofSpecial cs).map fun host => if host = .name "localhost" then .name "" else host

/-- The path of a file: empty segments at the start are left out. -/
def filePath (segments : List String) : Path :=
  match segments.dropWhile String.isEmpty with
  | [] => .segments [""]
  | kept => .segments kept

/-- The authority and the path of a file on `host`, whose path has the text `cs`. A file on a
drive is on no host. -/
def fileOn (host : Host) (cs : List Char) : Authority × Path :=
  let trail := resolve true (Text.splitBy (isSlash true) cs) Trail.start
  (⟨"", "", if trail.onDrive then .name "" else host, none⟩, filePath trail.segments)

/-- The authority and the path of a file. Behind two slashes stands a host, unless it would be a
drive letter. Behind an empty host the path keeps the slash in front of it, so that a drive
letter is not its first segment. -/
def readFile (cs : List Char) : Except Flaw (Authority × Path) :=
  match (afterSlash? true cs).bind (afterSlash? true) with
  | none => .ok (fileOn (.name "") (dropSlash true cs))
  | some rest => do
      let hostText := rest.takeWhile (!isSlash true ·)
      let hostName := withoutBreaks hostText
      if isDriveLetter hostName then pure (fileOn (.name "") rest)
      else
        let host ← readFileHost hostName
        let below := rest.drop hostText.length
        pure (fileOn host (if host.isEmpty then below else dropSlash true below))

end CredentialSupply.Url
