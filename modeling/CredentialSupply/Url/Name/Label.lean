import CredentialSupply.Text.Direction
import CredentialSupply.Text.Joining
import CredentialSupply.Url.Name.Mapping
import CredentialSupply.Url.Punycode

set_option autoImplicit false

/-!
# Labels of names

A label is a part of a name between full stops. In ASCII a label outside ASCII is written in
punycode behind `xn--`; `meaning?` undoes that. `isSound` holds of labels that can be told
apart from others: they do not start with a mark, and joiners stand only where they change the
look of a word. `isDirected` holds of labels that keep their order among others when some of
them run from right to left.
-/

namespace CredentialSupply.Url.Name

/-- Whether all characters are in ASCII. -/
def isAscii (label : List Char) : Bool := label.all (·.toNat < 0x80)

/-- What stands in front of punycode. -/
def mark : List Char := "xn--".toList

/-- Greatest length of a label outside ASCII. -/
def longestLabel : Nat := 1000

/-- Greatest length of punycode. -/
def longestPunycode : Nat := 2000

/-- The label in ASCII. -/
def asciiLabel (label : List Char) : List Char :=
  if isAscii label then label else mark ++ Punycode.encode label

/-- What a label in plain form means: itself, or the text behind its punycode, which has to be
in plain form too. -/
def meaning? (label : List Char) : Option (List Char) :=
  if mark.isPrefixOf label then
    let form := label.drop mark.length
    if label.getLast? = some '-' || form.length > longestPunycode then none
    else do
      let text ← Punycode.decode? form
      if plain? text = some text then some text else none
  else some label

/-! ## Joiners -/

/-- The joiner that keeps two letters from forming a ligature. -/
def nonJoiner : Char := Char.ofNat 0x200C

/-- The joiner that asks for a joined form. -/
def joiner : Char := Char.ofNat 0x200D

/-- Whether a joiner may stand behind `before`, whose nearest character comes first, and in
front of `after`: it changes a consonant without a vowel, and a non-joiner also parts two
letters that would join. -/
def joinerFits (c : Char) (before after : List Char) : Bool :=
  match before with
  | [] => false
  | previous :: _ =>
      Text.combiningClass previous == Text.virama ||
        (c == nonJoiner && (before.find? (!Text.isTransparent ·)).any Text.joinsAfter &&
          (after.find? (!Text.isTransparent ·)).any Text.joinsBefore)

/-- Whether all joiners of a text fit behind `before` and between their neighbours. -/
def joinersFit (before : List Char) : List Char → Bool
  | [] => true
  | c :: rest =>
      ((c != nonJoiner && c != joiner) || joinerFits c before rest) && joinersFit (c :: before) rest

/-- Whether a label can be told apart from others. -/
def isSound (label : List Char) : Bool :=
  isAscii label ||
    (!label.head?.any Text.isMark && joinersFit [] label && label.length ≤ longestLabel)

/-! ## Direction -/

/-- Whether a character makes a name one that runs in both directions. -/
def runsLeft (c : Char) : Bool :=
  match Text.Direction.ofChar c with
  | .rightToLeft => true
  | .arabicNumber => true
  | _ => false

/-- Whether a label keeps its order among labels of any direction: it starts with a letter, and
but for marks ends with a letter or a digit of the same direction, and between them stands none
of the other direction. Numbers of a label from right to left are of one kind. -/
def isDirected (label : List Char) : Bool :=
  let directions := label.map Text.Direction.ofChar
  let last := (directions.reverse.dropWhile (· == .nonspacing)).head?
  match directions.head? with
  | none => true
  | some .leftToRight =>
      (last == some .leftToRight || last == some .europeanNumber) &&
        !directions.contains .rightToLeft && !directions.contains .arabicNumber
  | some .rightToLeft =>
      (last == some .rightToLeft || last == some .europeanNumber ||
        last == some .arabicNumber) && !directions.contains .leftToRight &&
        !(directions.contains .europeanNumber && directions.contains .arabicNumber)
  | some _ => false

end CredentialSupply.Url.Name
