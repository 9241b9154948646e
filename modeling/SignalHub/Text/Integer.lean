/-!
# Integers of sixty-four bits

Reading a signed decimal number from the left.  The first position at which
the text cannot go on as a number, or the number leaves its range, decides the
fault.
-/

namespace SignalHub.Text

inductive IntegerFault where
  | empty
  | notDigit
  | tooLarge
  | tooSmall
deriving DecidableEq, Repr

def IntegerFault.text : IntegerFault → String
  | .empty => "cannot parse integer from empty string"
  | .notDigit => "invalid digit found in string"
  | .tooLarge => "number too large to fit in target type"
  | .tooSmall => "number too small to fit in target type"

def greatestInteger : Int := 9223372036854775807

def leastInteger : Int := -9223372036854775808

/-- The value of one of the ten decimal digits. -/
def digit? (character : Char) : Option Nat :=
  if character.isDigit then some (character.toNat - '0'.toNat) else none

/-- A number within its range, or the side on which it lies outside. -/
def inRange (value : Int) : Except IntegerFault Int :=
  if greatestInteger < value then .error .tooLarge
  else if value < leastInteger then .error .tooSmall
  else .ok value

/-- Appends digits to a number, away from zero on the side of its sign. -/
def readDigits (negative : Bool) : Int → List Char → Except IntegerFault Int
  | value, [] => .ok value
  | value, character :: rest =>
      match digit? character with
      | none => .error .notDigit
      | some digit =>
          let grown :=
            value * 10 + if negative then -(digit : Int) else digit
          match inRange grown with
          | .error fault => .error fault
          | .ok next => readDigits negative next rest

/-- A sign may precede the digits; alone it is no number. -/
def readInteger : List Char → Except IntegerFault Int
  | [] => .error .empty
  | ['+'] | ['-'] => .error .notDigit
  | '+' :: digits => readDigits false 0 digits
  | '-' :: digits => readDigits true 0 digits
  | digits => readDigits false 0 digits

/-- Both ends of the range can be read. -/
example : (readInteger "-9223372036854775808".toList).toOption =
    some leastInteger := by
  decide +kernel

/-- The first position that leaves the range is the fault. -/
example : readInteger "9223372036854775808x".toList = .error .tooLarge := by
  rfl

end SignalHub.Text
