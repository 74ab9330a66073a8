import Rollout.Text.Composed
import Rollout.Text.Direction
import Rollout.Text.Joining
import Rollout.Text.Mark
import Rollout.Text.Split
import Rollout.Url.Domain.Mapping
import Rollout.Url.Punycode

/-!
# Domain names

`Domain.toAscii?` gives the form in which a domain name is looked up. Its characters are read as `Domain.reading` says
and composed; then each label that is not ASCII is written in Punycode behind `xn--`. A label that is given so is
decoded, and has to be one that would be written so. A name is refused if a character may not stand in it, if a label
starts with a mark, if an invisible joiner stands where it joins nothing, or if letters of both directions of writing
are mixed in a way that cannot be told from another.
-/

namespace Rollout.Url.Domain

open Text

/-- What stands in front of a label in Punycode. -/
def codeMark : List Char := ['x', 'n', '-', '-']

/-- The longest label that is encoded, and the longest code that is decoded. -/
def longestLabel : Nat := 1000

def longestCode : Nat := 2000

/-! ## Characters -/

def readCharacter? (c : Char) : Option (List Char) :=
  match reading c with
  | .itself => some [c]
  | .characters ds => some ds
  | .nothing => some []
  | .refused => none

/-- The characters of a whole name as they are read. -/
def readCharacters? (cs : List Char) : Option (List Char) :=
  (cs.mapM readCharacter?).map fun parts => composed parts.flatten

def isAscii (cs : List Char) : Bool := cs.all (·.toNat < 0x80)

/-- The ASCII characters that separate parts of an address or have no shape. -/
def isDenied (c : Char) : Bool :=
  c.toNat ≤ 0x20 || c.toNat = 0x7f ||
    ['%', '#', '/', ':', '<', '>', '?', '@', '[', '\\', ']', '^', '|'].contains c

/-! ## Labels -/

/-- A label as it is looked up, and the characters it stands for. -/
structure Label where
  ascii : List Char
  characters : List Char

/-- The label whose code stands behind `codeMark`. Its characters have to be as they are read, and cannot start with
`codeMark` themselves. -/
def Label.ofCode? (code : List Char) : Option Label :=
  if code.length > longestCode ∨ code.getLast? = some '-' ∨ code.isEmpty ∨ isAscii code = false then none
  else
    match Punycode.decode? code with
    | none => none
    | some cs =>
      if cs.all (reading · = .itself) ∧ composed cs = cs ∧ cs.take 4 ≠ codeMark then some ⟨codeMark ++ code, cs⟩
      else none

def Label.ofCharacters? (cs : List Char) : Option Label :=
  if cs.take 4 = codeMark then Label.ofCode? (cs.drop 4)
  else if isAscii cs then some ⟨cs, cs⟩
  else if cs.length > longestLabel then none
  else some ⟨codeMark ++ Punycode.encode cs, cs⟩

/-! ## Joiners -/

/-- Whether the first character that takes part in joining has one of the given types. -/
def meets (types : List Joining) (cs : List Char) : Bool :=
  match cs.find? fun c => joining c ≠ .transparent with
  | some c => types.contains (joining c)
  | none => false

/-- Whether the joiner `c` may stand behind `before`, the nearest character first, and in front of `after`: behind a
virama, and one that parts letters also between two letters that would join. -/
def joinerFits (before : List Char) (c : Char) (after : List Char) : Bool :=
  before.head?.any isVirama || (c = '\u200c' && meets [.left, .dual] before && meets [.right, .dual] after)

def joinersFit (before : List Char) : List Char → Bool
  | [] => true
  | c :: after => (!isJoiner c || joinerFits before c after) && joinersFit (c :: before) after

def Label.fits (l : Label) : Bool := !l.characters.head?.any isMark && joinersFit [] l.characters

/-! ## Directions -/

/-- Whether a character of this class makes a name one that is partly written from right to left. -/
def isBackward (d : Direction) : Bool := d = .rightToLeft || d = .arabicLetter || d = .arabicNumber

/-- What may stand in a label of either direction. -/
def isNeutral (d : Direction) : Bool :=
  [Direction.europeanNumber, .europeanSeparator, .commonSeparator, .europeanTerminator, .otherNeutral, .boundaryNeutral,
    .nonspacingMark].contains d

/-- Whether a label starts with a letter, stays in its direction, and ends in a letter or digit of it. -/
def directionsFit (ds : List Direction) : Bool :=
  let last := ds.reverse.find? (· ≠ .nonspacingMark)
  match ds.head? with
  | none => true
  | some .leftToRight =>
    ds.all (fun d => d = .leftToRight || isNeutral d) && last.any fun d => d = .leftToRight || d = .europeanNumber
  | some first =>
    (first = .rightToLeft || first = .arabicLetter) &&
      ds.all (fun d => isBackward d || isNeutral d) &&
      last.any (fun d => isBackward d || d = .europeanNumber) &&
      !(ds.contains .europeanNumber && ds.contains .arabicNumber)

def directed (labels : List Label) : Bool :=
  let directions := labels.map fun l => l.characters.map direction
  !directions.any (·.any isBackward) || directions.all directionsFit

/-! ## Names -/

/-- The form in which a name is looked up. -/
def toAscii? (cs : List Char) : Option (List Char) :=
  match (readCharacters? cs).bind fun cs => (splitOn '.' cs).mapM Label.ofCharacters? with
  | none => none
  | some labels =>
    let ascii := ['.'].intercalate (labels.map Label.ascii)
    if labels.all Label.fits ∧ directed labels ∧ ascii.any isDenied = false then some ascii else none

end Rollout.Url.Domain
