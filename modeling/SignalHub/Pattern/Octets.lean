import SignalHub.Pattern.CharacterSet

/-!
# Sets in octets

The UTF-8 forms of a set of characters, as sequences of ranges of octets.  A
sequence stands for every choice of one octet from each of its ranges.
-/

namespace SignalHub.Pattern

/-- Ranges of octets, one behind the other. -/
abbrev OctetRanges := List (Nat × Nat)

/-- First digits up to a limit, each with any digits behind it. -/
def fullRanges (digits first limit : Nat) : List OctetRanges :=
  if first < limit then [(first, limit - 1) :: List.replicate digits (0, 63)]
  else []

/-- Numbers of so many digits to the base 64 after the first, as sequences of
ranges of digits that hold the numbers from one to another. -/
def digitRanges : Nat → Nat → Nat → List OctetRanges
  | 0, low, high => [[(low, high)]]
  | digits + 1, low, high =>
      let unit := Nat.pow 64 (digits + 1)
      let first := low / unit
      let last := high / unit
      let inside digit lowRest highRest :=
        (digitRanges digits lowRest highRest).map ((digit, digit) :: ·)
      if first = last then inside first (low % unit) (high % unit)
      else
        (if low % unit = 0 then [] else inside first (low % unit) (unit - 1)) ++
          fullRanges (digits + 1)
            (if low % unit = 0 then first else first + 1)
            (if high % unit = unit - 1 then last + 1 else last) ++
          if high % unit = unit - 1 then [] else inside last 0 (high % unit)

/-- The forms of characters by their length: how many octets follow the first,
the mark of the first, and the numbers of the characters. -/
def forms : List (Nat × Nat × (Nat × Nat)) :=
  [(0, 0x00, (0x00, 0x7F)), (1, 0xC0, (0x80, 0x7FF)),
    (2, 0xE0, (0x800, 0xD7FF)), (2, 0xE0, (0xE000, 0xFFFF)),
    (3, 0xF0, (0x10000, 0x10FFFF))]

/-- Digits as octets: the first has the mark of the form. -/
def markOctets (mark : Nat) : OctetRanges → OctetRanges
  | [] => []
  | first :: rest =>
      (first.1 + mark, first.2 + mark) ::
        rest.map fun range => (range.1 + 0x80, range.2 + 0x80)

namespace CharacterSet

/-- The ranges of a set in order, without those that meet another. -/
def canonical (set : CharacterSet) : CharacterSet :=
  ((set.mergeSort fun left right => left.1 ≤ right.1).foldl
    (fun (done : CharacterSet) range =>
      match done with
      | [] => [range]
      | last :: earlier =>
          if range.1 ≤ last.2 + 1 then
            (last.1, max last.2 range.2) :: earlier
          else range :: last :: earlier)
    []).reverse

/-- The UTF-8 forms of the members. -/
def octets (set : CharacterSet) : List OctetRanges :=
  set.canonical.flatMap fun range =>
    forms.flatMap fun (following, mark, numbers) =>
      match meet range numbers with
      | none => []
      | some (low, high) =>
          (digitRanges following low high).map (markOctets mark)

/-- The only member of a set, if it has one member. -/
def single? (set : CharacterSet) : Option Nat :=
  match set.canonical with
  | [(low, high)] => if low = high then some low else none
  | _ => none

end CharacterSet

end SignalHub.Pattern
