import CredentialSupply.Url.Basic

set_option autoImplicit false

/-!
# Segments of paths

`resolve` takes the segments of a path as they are written and gives those that it leads
through: a single dot leads nowhere, and two dots lead one segment up, but not above a drive.
Only the path of a file can start on a drive. Tabs and line breaks are left out of a segment.
-/

namespace CredentialSupply.Url

/-- Whether `c` is a tab or a line break, which an address may hold anywhere. -/
def isBreak (c : Char) : Bool := c == '\t' || c == '\n' || c == '\r'

/-- The text without tabs and line breaks. -/
def withoutBreaks (cs : List Char) : List Char := cs.filter (!isBreak ·)

/-- Whether a segment stands for the current directory. -/
def isSingleDot (segment : List Char) : Bool :=
  let lower := segment.map Text.asciiLower
  lower == ".".toList || lower == "%2e".toList

/-- Whether a segment stands for the parent directory. -/
def isDoubleDot (segment : List Char) : Bool :=
  let lower := segment.map Text.asciiLower
  lower == "..".toList || lower == ".%2e".toList || lower == "%2e.".toList ||
    lower == "%2e%2e".toList

/-- Whether a segment is a drive letter: a letter and a colon or a bar. -/
def isDriveLetter : List Char → Bool
  | [letter, mark] => Text.isLetter letter && (mark == ':' || mark == '|')
  | _ => false

/-- Whether a segment names a drive: a drive letter alone or in front of a backslash. -/
def isDrive (segment : List Char) : Bool :=
  isDriveLetter (segment.take 2) && (segment.drop 2).head?.all (· == '\\')

/-- The segments above the last one; a drive has nothing above it. -/
def parent (done : List String) : List String :=
  if done.getLast?.any (isDrive ·.toList) then done else done.dropLast

/-- A drive letter with a colon, and what a tab or a line break parts from it. -/
def parted? (segment : List Char) : Option (List Char × List Char) :=
  let lead := segment.takeWhile (· != ':')
  match withoutBreaks lead, segment.drop (lead.length + 1) with
  | [letter], mark :: rest =>
      let below := withoutBreaks rest
      if Text.isLetter letter && isBreak mark && !below.isEmpty then some ([letter, ':'], below)
      else none
  | _, _ => none

/-- The way that a path has led so far, and whether it started on a drive. -/
structure Trail where
  segments : List String
  onDrive : Bool
  deriving DecidableEq

/-- Nothing of a path read yet. -/
def Trail.start : Trail := ⟨[], false⟩

/-- One segment further. -/
def Trail.enter (trail : Trail) (segment : List Char) : Trail :=
  { trail with segments := trail.segments ++ [Percent.encode Percent.inPath segment] }

/-- The way behind a dot segment: where it ends the path, it leaves an empty segment. -/
def Trail.pass (trail : Trail) (last : Bool) : Trail := if last then trail.enter [] else trail

/-- Follows the segments of a path. A drive letter at the start of a file's path is written with
a colon; what a break parts from it is a segment of its own, of any form. -/
def resolve (file : Bool) : List (List Char) → Trail → Trail
  | [], trail => trail
  | text :: rest, trail =>
      let segment := withoutBreaks text
      let first := file && trail.segments.isEmpty
      if isDoubleDot segment then
        let above := { trail with segments := parent trail.segments }
        resolve file rest (above.pass rest.isEmpty)
      else if isSingleDot segment then resolve file rest (trail.pass rest.isEmpty)
      else if first && isDriveLetter segment then
        let drive := trail.enter (segment.take 1 ++ [':'])
        resolve file rest { drive with onDrive := true }
      else
        match if first then parted? text else none with
        | some (drive, below) => resolve file rest ((trail.enter drive).enter below)
        | none => resolve file rest (trail.enter segment)

/-- Whether `c` separates segments. -/
def isSlash (special : Bool) (c : Char) : Bool := c == '/' || (special && c == '\\')

/-- What follows a slash at the start of a text. -/
def afterSlash? (special : Bool) (cs : List Char) : Option (List Char) :=
  match cs.dropWhile isBreak with
  | c :: rest => if isSlash special c then some rest else none
  | [] => none

/-- The text without the slash at its start, if there is one. -/
def dropSlash (special : Bool) (cs : List Char) : List Char := (afterSlash? special cs).getD cs

/-- The path of an address with an authority, or of one that starts with a slash. -/
def readPath (special : Bool) (cs : List Char) : Path :=
  if cs.isEmpty && !special then .segments []
  else
    let parts := Text.splitBy (isSlash special) (dropSlash special cs)
    .segments (resolve false parts Trail.start).segments

end CredentialSupply.Url
