import SignalHub.Text.Columns

/-!
# Display width

How many columns a text takes on a terminal.  Neighbours may be drawn as one:
pictures joined to a single picture, two indicators as a flag, letters as a
ligature.  A text is therefore read from its end, and what has been read so far
is remembered as far as the character before it can join with it.

A blank joins with nothing, so widths add up across blanks.

The measure is that of the library which draws the tables.  It is outside of the
program and spelled out here; of a terminal it is only assumed that it shows a text
in so many columns.
-/

namespace SignalHub.Text

/-- What a variation selector asks of the character before it. -/
inductive Selector
  | none
  | text
  | picture
  | wideQuote
deriving DecidableEq, Repr

/-- What a text begins with, as far as a character before it can join. -/
inductive Opening
  /-- Nothing that joins. -/
  | plain
  | lineFeed
  /-- A skin tone. -/
  | skinTone
  | indicator
  | indicators
  | picture
  /-- A joiner before a picture. -/
  | joined
  /-- A keycap before a joined picture. -/
  | joinedKeycap
  /-- One, an even or an odd number of indicators before a joined picture. -/
  | joinedIndicator
  | joinedPair
  | joinedOdd
  /-- The end of a tag sequence before a joined picture, and its letters and
  digits. -/
  | tagEnd
  | tagLetters (count : Nat)
  | tagDigits (count : Nat)
  | alef
  | lamed (joined : Bool)
  | ya (joined : Bool)
  | signAndYa
  | tifinagh (joined : Bool)
  | tifinaghJoiner
  | toneLetter
  | orkhonI (joined : Bool)
  | khmerLetter
  | vowelE
  | vowelAi
deriving DecidableEq, Repr

namespace Opening

/-- Whether it is the last part of a ligature of letters. -/
def isLetter : Opening → Bool
  | alef | lamed _ | ya _ | signAndYa | tifinagh _ | tifinaghJoiner
  | toneLetter | orkhonI _ | khmerLetter => true
  | _ => false

/-- A joiner before a picture, with or without a keycap. -/
def isJoined : Opening → Bool
  | joined | joinedKeycap => true
  | _ => false

/-- The columns that are not counted yet, because a character before it may
still take them. -/
def held : Opening → Nat
  | joinedIndicator | joinedOdd | tifinaghJoiner | khmerLetter => 1
  | _ => 0

/-- After a joiner was put before it. -/
def withJoiner : Opening → Opening
  | lamed _ => lamed true
  | ya _ => ya true
  | tifinagh _ => tifinagh true
  | orkhonI _ => orkhonI true
  | other => other

/-- Letters with the form of an Alef. -/
def isAlef (character : Char) : Bool :=
  within character 0x622 0x623 || within character 0x671 0x673 ||
    within character 0x773 0x774 || within character 0x870 0x882 ||
    [0x625, 0x627, 0x675].contains character.toNat

def isTifinaghConsonant (character : Char) : Bool :=
  within character 0x2D31 0x2D65 || character.toNat == 0x2D6F

/-- Khmer letters that have a form below the line. -/
def isKhmerLetter (character : Char) : Bool :=
  within character 0x1780 0x1782 || within character 0x1784 0x1787 ||
    within character 0x1789 0x178C || within character 0x178E 0x1793 ||
    within character 0x1795 0x1798 || within character 0x179B 0x179D ||
    within character 0x17AB 0x17AC ||
    [0x17A0, 0x17A2, 0x17A7, 0x17AF].contains character.toNat

/-- What a character is to the one before it. -/
def ofChar (character : Char) : Opening :=
  match character.toNat with
  | 0x5DC => lamed false
  | 0x1A10 => ya false
  | 0xA4FC | 0xA4FD => toneLetter
  | 0x10C03 => orkhonI false
  | 0x16D67 => vowelE
  | 0x16D68 => vowelAi
  | _ =>
      if isAlef character then alef
      else if isTifinaghConsonant character then tifinagh false
      else if isKhmerLetter character then khmerLetter
      else if isIndicator character then indicator
      else if isSkinTone character then skinTone
      else if isPicture character then picture
      else plain

end Opening

/-- A text that has been read: what it begins with, and the selector in
front. -/
structure Following where
  opening : Opening
  selector : Selector
deriving DecidableEq, Repr

namespace Following

/-- Nothing that a character could join. -/
def plain : Following := ⟨.plain, .none⟩

/-- What a character meets that does not obey the selector.  A selector for
pictures keeps all but letters apart from it. -/
def unselected (following : Following) : Opening :=
  if following.selector = .picture && !following.opening.isLetter then
    .plain
  else following.opening

/-- The columns that nothing takes any more, once the selector is dropped. -/
def apart (following : Following) : Nat :=
  following.opening.held - following.unselected.held

theorem apart_add_held (following : Following) :
    following.apart + following.unselected.held = following.opening.held := by
  unfold apart unselected
  split <;> simp [Opening.held]

end Following

/-- Quotes whose width can be selected. -/
def isCurvedQuote (character : Char) : Bool :=
  within character 0x2018 0x2019 || within character 0x201C 0x201D

/-- Characters without a column that do interrupt the joining of Arabic
letters. -/
def joinBreakRanges : Ranges :=
  [(0x605, 0x605), (0x890, 0x891), (0x8E2, 0x8E2), (0x9BE, 0x9BE), (0x9D7, 0x9D7), (0xB3E, 0xB3E),
    (0xB57, 0xB57), (0xBBE, 0xBBE), (0xBD7, 0xBD7), (0xCC0, 0xCC0), (0xCC2, 0xCC2),
    (0xCC7, 0xCC8), (0xCCA, 0xCCB), (0xCD5, 0xCD6), (0xD3E, 0xD3E), (0xD4E, 0xD4E),
    (0xD57, 0xD57), (0xDCF, 0xDCF), (0xDDF, 0xDDF), (0x1160, 0x11FF), (0x1715, 0x1715),
    (0x1734, 0x1734), (0x180E, 0x180E), (0x1B35, 0x1B35), (0x1B3B, 0x1B3B), (0x1B3D, 0x1B3D),
    (0x1B43, 0x1B44), (0x1BAA, 0x1BAA), (0x1BF2, 0x1BF3), (0x200C, 0x200D), (0x2065, 0x2069),
    (0x302E, 0x302F), (0x3164, 0x3164), (0xA8FA, 0xA8FA), (0xA953, 0xA953), (0xA9C0, 0xA9C0),
    (0xD7B0, 0xD7C6), (0xD7CB, 0xD7FB), (0xFFA0, 0xFFA0), (0xFFF0, 0xFFF8), (0x111C0, 0x111C0),
    (0x111C2, 0x111C3), (0x11235, 0x11235), (0x1133E, 0x1133E), (0x1134D, 0x1134D),
    (0x11357, 0x11357), (0x113B8, 0x113B8), (0x113C2, 0x113C2), (0x113C5, 0x113C5),
    (0x113C7, 0x113C9), (0x113CF, 0x113CF), (0x113D1, 0x113D1), (0x114B0, 0x114B0),
    (0x114BD, 0x114BD), (0x115AF, 0x115AF), (0x116B6, 0x116B6), (0x11930, 0x11930),
    (0x1193D, 0x1193D), (0x1193F, 0x1193F), (0x11941, 0x11941), (0x11A84, 0x11A89),
    (0x11D46, 0x11D46), (0x11F02, 0x11F02), (0x11F41, 0x11F41), (0x16FF0, 0x16FF1),
    (0x1D165, 0x1D166), (0x1D16D, 0x1D172), (0xE0000, 0xE0000), (0xE0002, 0xE001F),
    (0xE0080, 0xE00FF), (0xE01F0, 0xE0FFF)]

/-- Characters without a column that Arabic letters join across. -/
def joinsAcross (character : Char) : Bool :=
  columns character == 0 && !joinBreakRanges.holds character

/-- Marks that may stand inside of any other ligature. -/
def insideLigature (character : Char) : Bool :=
  within character 0x17B4 0x17B5 || within character 0x180B 0x180D ||
    within character 0xFE00 0xFE0F || within character 0xE0100 0xE01EF ||
    [0x34F, 0x180F].contains character.toNat

/-- Letters with the form of a Lam. -/
def isLam (character : Char) : Bool :=
  within character 0x6B5 0x6B8 ||
    [0x644, 0x76A, 0x8A6, 0x8C7].contains character.toNat

/-- The ligatures of letters: the columns that are now certain, and what the
text begins with. -/
def joinLetters (opening : Opening) (character : Char) :
    Option (Nat × Opening) :=
  let consonant := Opening.ofChar character = .tifinagh false
  match opening, character.toNat with
  | .alef, _ =>
      if isLam character then some (0, .plain)
      else if joinsAcross character then some (0, .alef)
      else none
  | .lamed true, 0x5D0 => some (0, .plain)
  | .khmerLetter, 0x17D2 => some (0, .plain)
  | .ya true, 0x1A17 => some (0, .signAndYa)
  | .signAndYa, 0x1A15 => some (0, .plain)
  | .tifinagh _, 0x2D7F => some (0, .tifinaghJoiner)
  | .tifinagh true, _ => if consonant then some (0, .plain) else none
  | .tifinaghJoiner, _ => if consonant then some (0, .plain) else none
  | .toneLetter, _ =>
      if within character 0xA4F8 0xA4FB then some (0, .plain) else none
  | .orkhonI true, 0x10C32 => some (0, .plain)
  | .vowelE, 0x16D63 => some (0, .plain)
  | .vowelE, 0x16D67 => some (0, .vowelAi)
  | .vowelE, 0x16D68 => some (1, .vowelE)
  | .vowelE, 0x16D69 => some (0, .plain)
  | .vowelAi, 0x16D63 => some (0, .plain)
  | _, _ => none

/-- Tags spell a region: three to six letters, or up to three digits, before
the black flag. -/
def joinTags (opening : Opening) (character : Char) :
    Option (Nat × Opening) :=
  let letter := within character 0xE0061 0xE007A
  let digit := within character 0xE0030 0xE0039
  let flag := character.toNat == 0x1F3F4
  match opening with
  | .tagEnd =>
      if letter then some (0, .tagLetters 1)
      else if digit then some (0, .tagDigits 1)
      else none
  | .tagLetters count =>
      if letter && count < 6 then some (0, .tagLetters (count + 1))
      else if digit && count < 5 then some (0, .tagDigits 1)
      else if flag && 3 ≤ count then some (0, .picture)
      else none
  | .tagDigits count =>
      if digit && count < 3 then some (0, .tagDigits (count + 1))
      else if flag && count == 3 then some (0, .picture)
      else none
  | _ => none

/-- Flags, skin tones and pictures that are joined to one. -/
def joinPictures (opening : Opening) (character : Char) :
    Option (Nat × Opening) :=
  if character.toNat == 0x200D then
    match opening with
    | .picture | .indicators | .joinedPair | .joinedOdd | .skinTone =>
        some (opening.held, .joined)
    | _ => none
  else if isIndicator character then
    match opening with
    | .indicator | .indicators => some (1, .indicators)
    | .joined => some (0, .joinedIndicator)
    | .joinedIndicator | .joinedOdd => some (0, .joinedPair)
    | .joinedPair => some (2, .joinedOdd)
    | _ => none
  else
    match opening with
    | .skinTone =>
        if takesSkinTone character then some (0, .picture) else none
    | .joined =>
        if character.toNat == 0x20E3 then some (0, .joinedKeycap)
        else if character.toNat == 0xE007F then some (0, .tagEnd)
        else if isSkinTone character then some (0, .skinTone)
        else if isPicture character then some (0, .picture)
        else none
    | _ => none

/-- A character that joins with nothing behind it. -/
def standAlone (opening : Opening) (character : Char) : Nat × Following :=
  let alone := Opening.ofChar character
  (opening.held + columns character - alone.held, ⟨alone, .none⟩)

/-- Ligatures, tags and pictures, or else a character of its own. -/
def join (opening : Opening) (character : Char) : Nat × Following :=
  let joined :=
    joinLetters opening character <|> joinTags opening character <|>
      joinPictures opening character
  match joined with
  | some (certain, now) => (certain, ⟨now, .none⟩)
  | none => standAlone opening character

/-- A selector in front of a text.  It is remembered beside a ligature of
letters, and a selector for pictures beside a joined picture.  All else is
forgotten. -/
def select (opening : Opening) (selector : Selector) : Nat × Following :=
  let stays :=
    opening.isLetter || (selector = .picture && opening.isJoined)
  if stays then (0, ⟨opening, selector⟩)
  else (opening.held, ⟨.plain, selector⟩)

/-- What a character obeys: the columns that are now certain, and what the text
begins with. -/
def Following.obey (following : Following) (character : Char) :
    Option (Nat × Following) :=
  let held := following.opening.held
  match following.selector with
  | .picture =>
      let size := if following.opening.isJoined then 0 else 2
      if isSelectable character then
        some (held + size, ⟨.picture, .none⟩)
      else none
  | .text =>
      if turnsNarrow character then some (held + 1, .plain) else none
  | .wideQuote =>
      if isCurvedQuote character then some (held + 2, .plain) else none
  | .none => none

/-- Controls and the characters of the narrow alphabets.  A line feed takes a
carriage return along. -/
def narrow (opening : Opening) (character : Char) : Nat × Following :=
  if character = '
' && opening = .lineFeed then (0, .plain)
  else
    (opening.held + 1,
      if character = '
' then ⟨.lineFeed, .none⟩ else .plain)

/-- A character with no selector behind it. -/
def joinFree (opening : Opening) (character : Char) : Nat × Following :=
  if character.toNat ≤ 0xA0 then narrow opening character
  else if character.toNat = 0xFE0F then select opening .picture
  else if character.toNat = 0xFE0E then select opening .text
  else if character.toNat = 0xFE01 then select opening .wideQuote
  else if opening.isLetter && opening != .alef then
    if character.toNat = 0x200D then (0, ⟨opening.withJoiner, .none⟩)
    else if insideLigature character then (0, ⟨opening, .none⟩)
    else join opening character
  else join opening character

/-- A character in front of what has been read: the columns that are now
certain, and what the text begins with. -/
def Following.advance (following : Following) (character : Char) : Nat × Following :=
  match following.obey character with
  | some answer => answer
  | none =>
      let (certain, now) := joinFree following.unselected character
      (following.apart + certain, now)

/-- Reading a text from its end, before something that was read already: the
columns that are certain, and what the text begins with. -/
def measure (start : Nat × Following) (line : List Char) : Nat × Following :=
  line.foldr
    (fun character read =>
      let (certain, now) := read.2.advance character
      (read.1 + certain, now))
    start

/-- The columns of a text that has been read. -/
def readColumns (read : Nat × Following) : Nat :=
  read.1 + read.2.opening.held

/-- The columns that a line takes. -/
def width (line : List Char) : Nat :=
  readColumns (measure (0, .plain) line)

@[simp]
theorem width_nil : width [] = 0 := rfl

/-- A blank joins with nothing. -/
theorem Following.advance_blank (following : Following) :
    following.advance ' ' = (following.opening.held + 1, .plain) := by
  have selectable : isSelectable ' ' = false := by decide
  have narrowed : turnsNarrow ' ' = false := by decide
  have quote : isCurvedQuote ' ' = false := by decide
  have free : joinFree following.unselected ' ' =
      (following.unselected.held + 1, .plain) := by
    simp [joinFree, narrow]
  have disobeyed : following.obey ' ' = none := by
    unfold Following.obey
    split <;> simp [selectable, narrowed, quote]
  simp only [Following.advance, disobeyed, free, Prod.mk.injEq, and_true]
  have total := following.apart_add_held
  omega

theorem measure_append (start : Nat × Following) (left right : List Char) :
    measure start (left ++ right) = measure (measure start right) left := by
  simp [measure]

theorem measure_add (start : Nat × Following) (more : Nat)
    (line : List Char) :
    measure (start.1 + more, start.2) line =
      ((measure start line).1 + more, (measure start line).2) := by
  induction line with
  | nil => rfl
  | cons character rest ih =>
      simp only [measure, List.foldr_cons] at ih ⊢
      rw [ih]
      simp only [Prod.mk.injEq, and_true]
      omega

/-- Widths add up across a blank. -/
theorem width_append_blank (left right : List Char) :
    width (left ++ ' ' :: right) = width left + 1 + width right := by
  have blank : measure (0, .plain) (' ' :: right) =
      (0 + (width right + 1), .plain) := by
    simp only [measure, List.foldr_cons, width, readColumns, Prod.mk.injEq]
    rw [Following.advance_blank]
    simp only [and_true]
    omega
  have shifted := measure_add (0, .plain) (width right + 1) left
  simp only [width, measure_append, readColumns] at blank shifted ⊢
  rw [blank, shifted]
  simp only
  omega

theorem width_append_blanks (line : List Char) (count : Nat) :
    width (line ++ List.replicate count ' ') = width line + count := by
  induction count generalizing line with
  | zero => simp
  | succ count ih =>
      have again : line ++ List.replicate (count + 1) ' ' =
          (line ++ [' ']) ++ List.replicate count ' ' := by
        simp [List.replicate_succ]
      rw [again, ih, width_append_blank, width_nil]
      omega

end SignalHub.Text
