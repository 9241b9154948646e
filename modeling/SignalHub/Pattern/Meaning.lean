import SignalHub.Pattern.Complaint
import SignalHub.Pattern.Expression
import SignalHub.Pattern.Tree

/-!
# The meaning of patterns

Trees become expressions.  Flags hold from where they are set to the end of the
group around them.  Nothing is known of characters beyond the first 128 but
their numbers: classes of words and properties are complained about, and so are
both cases of a letter.
-/

namespace SignalHub.Pattern

open Text

/-- The flags that are in force. -/
structure Settings where
  caseless : Bool
  manyLines : Bool
  dotMatchesLineEnd : Bool
  unicode : Bool
  anyLineEnd : Bool
deriving DecidableEq, Repr

namespace Settings

def standard : Settings := ⟨false, false, false, true, false⟩

def change (settings : Settings) (changes : FlagChanges) : Settings :=
  { caseless := (changes.state? .caseless).getD settings.caseless
    manyLines := (changes.state? .manyLines).getD settings.manyLines
    dotMatchesLineEnd :=
      (changes.state? .dotMatchesLineEnd).getD settings.dotMatchesLineEnd
    unicode := (changes.state? .unicode).getD settings.unicode
    anyLineEnd := (changes.state? .anyLineEnd).getD settings.anyLineEnd }

end Settings

/-! ## Sets -/

/-- The characters of a named class. -/
def AsciiKind.members : AsciiKind → CharacterSet
  | .alnum => [(0x30, 0x39), (0x41, 0x5A), (0x61, 0x7A)]
  | .alpha => [(0x41, 0x5A), (0x61, 0x7A)]
  | .ascii => [(0x00, 0x7F)]
  | .blank => [(0x09, 0x09), (0x20, 0x20)]
  | .cntrl => [(0x00, 0x1F), (0x7F, 0x7F)]
  | .digit => [(0x30, 0x39)]
  | .graph => [(0x21, 0x7E)]
  | .lower => [(0x61, 0x7A)]
  | .print => [(0x20, 0x7E)]
  | .punct => [(0x21, 0x2F), (0x3A, 0x40), (0x5B, 0x60), (0x7B, 0x7E)]
  | .space => [(0x09, 0x0D), (0x20, 0x20)]
  | .upper => [(0x41, 0x5A)]
  | .word => [(0x30, 0x39), (0x41, 0x5A), (0x5F, 0x5F), (0x61, 0x7A)]
  | .xdigit => [(0x30, 0x39), (0x41, 0x46), (0x61, 0x66)]

/-- The characters of a class by its letter. -/
def Kind.members : Kind → CharacterSet
  | .digit => AsciiKind.members .digit
  | .blank => AsciiKind.members .space
  | .word => AsciiKind.members .word

/-- A set with both cases of its letters where that is asked for, which can be
told for the first 128 characters only. -/
def foldSet (settings : Settings) (span : Span) (set : CharacterSet) :
    Except Complaint CharacterSet :=
  if !settings.caseless then .ok set
  else if !settings.unicode then .ok (set.fold)
  else if set.isEmpty then .ok set
  else .error (.of .foldingMissing span)

/-- A set in both cases, or what is not in it.  Single bytes beyond the first
128 are no characters. -/
def finishSet (settings : Settings) (span : Span) (negated : Bool)
    (set : CharacterSet) : Except Complaint CharacterSet := do
  let folded ← foldSet settings span set
  let page :=
    if settings.unicode then CharacterSet.scalars
    else CharacterSet.firstPage
  let finished := if negated then page.subtract folded else folded
  if !settings.unicode && !finished.isAscii then
    .error (.of .brokenText span)
  else return finished

/-- A class by its letter. -/
def kindSet (settings : Settings) (span : Span) (negated : Bool)
    (kind : Kind) : Except Complaint CharacterSet :=
  if settings.unicode then .error (.of .wordClassMissing span)
  else if negated then .error (.of .brokenText span)
  else .ok kind.members

/-- How names of properties are compared: without case, blanks, hyphens and
lines below, and without a leading "is". -/
def propertyKey (name : String) : List Char :=
  let characters := name.toList
  let bare :=
    if (characters.take 2).map Char.toLower = ['i', 's'] then
      characters.drop 2
    else characters
  let key :=
    (bare.filter fun character =>
      character.toNat < 0x80 && !(" _-".toList.contains character)).map
      Char.toLower
  if bare.length < characters.length && key = ['c'] then ['i', 's', 'c']
  else key

/-- Names that may be values of a property as well as properties. -/
def isAmbiguous (name : String) : Bool :=
  ["cf".toList, "sc".toList, "lc".toList].contains (propertyKey name)

/-- A class by a property.  None is known. -/
def propertySet (settings : Settings) (span : Span) (name : Option String) :
    Except Complaint CharacterSet :=
  if !settings.unicode then .error (.of .beyondBytes span)
  else if name.any isAmbiguous then .error (.of .propertyValueMissing span)
  else .error (.of .propertyMissing span)

/-- A character as it stands.  A byte is a character only if it is one of the
first 128. -/
def letterOf (settings : Settings) (letter : Letter) :
    Except Complaint Char :=
  if !settings.unicode && letter.isByte && 0x80 ≤ letter.character.toNat then
    .error (.of .brokenText letter.span)
  else .ok letter.character

/-- A character in a class. -/
def memberOf (settings : Settings) (letter : Letter) :
    Except Complaint Char := do
  let character ← letterOf settings letter
  if !settings.unicode && 0x80 ≤ character.toNat then
    .error (.of .beyondBytes letter.span)
  else return character

def Operator.apply : Operator → CharacterSet → CharacterSet → CharacterSet
  | .intersection, left, right => left.intersect right
  | .difference, left, right => left.subtract right
  | .symmetricDifference, left, right => left.symmetricDifference right

mutual

/-- The set of what is inside of brackets. -/
def Members.meaning (settings : Settings) :
    Members → Except Complaint CharacterSet
  | .none _ => .ok []
  | .letter single => do
      let character ← memberOf settings single
      return CharacterSet.ofRange character character
  | .range _ first last => do
      let low ← memberOf settings first
      let high ← memberOf settings last
      return CharacterSet.ofRange low high
  | .ascii span negated named => finishSet settings span negated named.members
  | .kind span negated lettered => kindSet settings span negated lettered
  | .property span name => propertySet settings span name
  | .brackets span negated members => do
      finishSet settings span negated (← members.meaning settings)
  | .union _ parts => Members.meanings settings parts
  | .operation _ operator left right => do
      let first ← left.meaning settings
      let second ← right.meaning settings
      let rightSet ← foldSet settings right.span second
      let leftSet ← foldSet settings left.span first
      return operator.apply leftSet rightSet

def Members.meanings (settings : Settings) :
    List Members → Except Complaint CharacterSet
  | [] => .ok []
  | part :: rest => do
      return (← part.meaning settings) ++ (← Members.meanings settings rest)

end

/-! ## Trees -/

/-- A character of a pattern. -/
def letterMeaning (settings : Settings) (letter : Letter) :
    Except Complaint Expression := do
  let character ← letterOf settings letter
  let single := CharacterSet.ofRange character character
  return .set (← foldSet settings letter.span single)

/-- Any character but those that end lines. -/
def dotMeaning (settings : Settings) (span : Span) :
    Except Complaint Expression :=
  if !settings.unicode then .error (.of .brokenText span)
  else
    let lineEnds : CharacterSet :=
      if settings.dotMatchesLineEnd then []
      else if settings.anyLineEnd then [(0x0A, 0x0A), (0x0D, 0x0D)]
      else [(0x0A, 0x0A)]
    .ok (.set (CharacterSet.scalars.subtract lineEnds))

def Assertion.meaning (settings : Settings) : Assertion → Look
  | .lineStart =>
      if !settings.manyLines then .textStart
      else if settings.anyLineEnd then .anyLineStart
      else .lineStart
  | .lineEnd =>
      if !settings.manyLines then .textEnd
      else if settings.anyLineEnd then .anyLineEnd
      else .lineEnd
  | .textStart => .textStart
  | .textEnd => .textEnd
  | .boundary => if settings.unicode then .wideBoundary else .boundary
  | .noBoundary => if settings.unicode then .wideBoundary else .noBoundary
  | .wordStart => if settings.unicode then .wideBoundary else .wordStart
  | .wordEnd => if settings.unicode then .wideBoundary else .wordEnd
  | .wordStartHalf =>
      if settings.unicode then .wideBoundary else .wordStartHalf
  | .wordEndHalf => if settings.unicode then .wideBoundary else .wordEndHalf

mutual

/-- The meaning of a tree, and the settings that hold behind it. -/
def Tree.meaning (settings : Settings) :
    Tree → Except Complaint (Expression × Settings)
  | .empty _ => .ok (.empty, settings)
  | .flags _ changes => .ok (.empty, settings.change changes)
  | .letter single => do return (← letterMeaning settings single, settings)
  | .dot span => do return (← dotMeaning settings span, settings)
  | .assertion _ condition =>
      .ok (.look (condition.meaning settings), settings)
  | .kind span negated lettered => do
      return (.set (← kindSet settings span negated lettered), settings)
  | .property span name => do
      return (.set (← propertySet settings span name), settings)
  | .brackets span negated members => do
      let set ←
        finishSet settings span negated (← members.meaning settings)
      return (.set set, settings)
  | .repeated _ tree least most => do
      let (body, after) ← tree.meaning settings
      return (.repeating body least most, after)
  | .group _ grouping tree => do
      let (inner, _) ← tree.meaning (settings.change grouping.changes)
      return (if grouping.captures then .captured inner else inner, settings)
  | .choice _ trees => do
      let (ways, after) ← Tree.meanings settings trees
      return (.choice ways, after)
  | .sequence _ trees => do
      let (parts, after) ← Tree.meanings settings trees
      return (.sequence parts, after)

def Tree.meanings (settings : Settings) :
    List Tree → Except Complaint (List Expression × Settings)
  | [] => .ok ([], settings)
  | tree :: rest => do
      let (first, after) ← tree.meaning settings
      let (others, last) ← Tree.meanings after rest
      return (first :: others, last)

end

end SignalHub.Pattern
