import SignalHub.CommandLine.Taken

/-!
# Reading arguments

Arguments are read from the left, first those before the command and then
those of the command.  A value is held back until the next one or the end is
reached, so that its own faults show only then.  After a lone double dash
everything is a value.
-/

namespace SignalHub.CommandLine

open Text

/-- What may stand on one side of the command. -/
structure Grammar where
  switches : List Switch
  named : List Parameter
  placed : List Parameter
  commands : List CommandName
deriving DecidableEq, Repr

namespace Grammar

/-- Before the command. -/
def general : Grammar :=
  ⟨[.all, .forward, .help], [.enable, .output], [], CommandName.all⟩

/-- After a command. -/
def ofCommand : CommandName → Grammar
  | .version => ⟨[.verbose, .report, .help], [], [], []⟩
  | .log => ⟨[.help], [], [.category, .message], []⟩
  | .severity => ⟨[.help], [], [.level, .message], []⟩
  | .printf => ⟨[.help], [], [.message], []⟩
  | .crashDump => ⟨[.help], [], [.directory], []⟩
  | .fatal => ⟨[.help], [], [.message], []⟩
  | .help => ⟨[], [], [], []⟩

/-- The switch of a name, if it may stand here. -/
def switch? (grammar : Grammar) (name : Bytes) : Option Switch :=
  grammar.switches.find? fun switch => bytes switch.name == name

/-- The named parameter of a name, if it may stand here. -/
def parameter? (grammar : Grammar) (name : Bytes) : Option Parameter :=
  grammar.named.find? fun parameter => parameter.name?.map bytes == some name

/-- The command that an argument names, if one may stand here. -/
def command? (grammar : Grammar) (argument : Bytes) : Option CommandName :=
  match CommandName.ofArgument? argument with
  | some name => if grammar.commands.contains name then some name else none
  | none => none

end Grammar

/-! ## Shapes of arguments -/

def equalsSign : UInt8 := 61

inductive Shape where
  | doubleDash
  | long (name : Bytes) (attached : Option Bytes)
  | short (cluster : Bytes)
  | value
deriving DecidableEq, Repr

/-- A long name ends at the first equals sign. -/
def Shape.ofLong (argument : Bytes) : Shape :=
  let name := argument.takeWhile (· != equalsSign)
  match argument.drop name.length with
  | [] => .long name none
  | _ :: attached => .long name (some attached)

/-- The shape of an argument; a single dash is a value. -/
def Shape.ofArgument (argument : Bytes) : Shape :=
  match argument with
  | [45, 45] => .doubleDash
  | 45 :: 45 :: rest => .ofLong rest
  | [45] => .value
  | 45 :: rest => .short rest
  | _ => .value

/-- The rest of a number: digits, a point before any exponent, and an exponent
of one digit at least. -/
def numberTail (pointed raised : Bool) : List Char → Bool
  | [] => true
  | character :: rest =>
      if character.isDigit then numberTail pointed raised rest
      else if character = '.' then
        !pointed && !raised && numberTail true raised rest
      else if character = 'e' then
        !raised && !rest.isEmpty && numberTail pointed true rest
      else false

/-- Whether a text looks like a number without a sign. -/
def isNumber : List Char → Bool
  | [] => true
  | character :: rest => character.isDigit && numberTail false false rest

/-- What is shown of a cluster of short names: the first one, or everything if
it does not begin with a character. -/
def firstShort (cluster : Bytes) : String :=
  match decodeChars cluster with
  | [] => ""
  | character :: _ =>
      if (encode [character]).isPrefixOf cluster then
        String.singleton character
      else decode cluster

/-! ## The state of reading -/

/-- What was taken, the values that may still come by their place, and the
parameter at hand with its value, if that was reached. -/
structure Reading where
  taken : Taken
  places : List Parameter
  pending : Option (Parameter × Option Bytes)
  trailing : Bool
deriving DecidableEq, Repr

namespace Reading

def start (grammar : Grammar) : Reading :=
  ⟨Taken.nothing, grammar.placed, none, false⟩

/-- The parameter whose value must be next. -/
def awaited? (reading : Reading) : Option Parameter :=
  match reading.pending with
  | some (parameter, none) =>
      if reading.trailing then none else some parameter
  | _ => none

/-- Puts what is pending. -/
def settle (reading : Reading) : Except UsageFault Reading :=
  match reading.pending with
  | none => .ok reading
  | some (parameter, none) => .error (.missingValue parameter)
  | some (parameter, some value) => do
      let taken ← reading.taken.put parameter value
      .ok { reading with taken, pending := none }

/-- A switch. -/
def takeSwitch (reading : Reading) (switch : Switch) :
    Except Stop Reading := do
  let settled ← reading.settle.mapError .fault
  match switch with
  | .help => .error .guideWanted
  | _ =>
      let taken ← (settled.taken.putSwitch switch).mapError .fault
      .ok { settled with taken }

/-- A named parameter: its value is attached, or comes next. -/
def takeNamed (reading : Reading) (parameter : Parameter)
    (attached : Option Bytes) : Except UsageFault Reading := do
  let settled ← reading.settle
  match attached with
  | some value =>
      let taken ← settled.taken.put parameter value
      .ok { settled with taken }
  | none => .ok { settled with pending := some (parameter, none) }

def takeLong (reading : Reading) (grammar : Grammar) (name : Bytes)
    (attached : Option Bytes) : Except Stop Reading :=
  match grammar.switch? name, grammar.parameter? name with
  | some switch, _ =>
      match attached with
      | some value => .error (.fault (.surplusValue (decode value) switch))
      | none => reading.takeSwitch switch
  | none, some parameter =>
      (reading.takeNamed parameter attached).mapError .fault
  | none, none =>
      .error (.fault (.unexpectedArgument (longForm (decode name))))

/-- A value that has no place. -/
def surplus (reading : Reading) (grammar : Grammar) (argument : Bytes) :
    UsageFault :=
  if grammar.commands.isEmpty then .unexpectedArgument (decode argument)
  else if reading.trailing && (grammar.command? argument).isSome then
    .unexpectedArgument (decode argument)
  else .unknownCommand (decode argument)

/-- A value: the awaited one, or the next one by place. -/
def takeValue (reading : Reading) (grammar : Grammar) (argument : Bytes) :
    Except UsageFault Reading :=
  match reading.awaited?, reading.places with
  | some parameter, _ =>
      .ok { reading with pending := some (parameter, some argument) }
  | none, parameter :: places => do
      let settled ← reading.settle
      .ok { settled with places, pending := some (parameter, some argument) }
  | none, [] => .error (reading.surplus grammar argument)

/-- A cluster of short names.  Only `h` is one; a negative number may stand
where a level is next. -/
def takeShort (reading : Reading) (grammar : Grammar)
    (argument cluster : Bytes) : Except Stop Reading :=
  if reading.places.head? == some .level &&
      isNumber (decodeChars cluster) then
    (reading.takeValue grammar argument).mapError .fault
  else if firstShort cluster == "h" && grammar.switches.contains .help then
    reading.takeSwitch .help
  else .error (.fault (.unexpectedArgument ("-" ++ firstShort cluster)))

/-- Reads one argument. -/
def take (reading : Reading) (grammar : Grammar) (argument : Bytes) :
    Except Stop Reading :=
  if reading.trailing then
    (reading.takeValue grammar argument).mapError .fault
  else
    match Shape.ofArgument argument with
    | .doubleDash => .ok { reading with trailing := true }
    | .long name attached => reading.takeLong grammar name attached
    | .short cluster => reading.takeShort grammar argument cluster
    | .value => (reading.takeValue grammar argument).mapError .fault

/-- The command that an argument starts.  Neither an awaited value nor what
follows a double dash starts one. -/
def startsCommand? (reading : Reading) (grammar : Grammar)
    (argument : Bytes) : Option CommandName :=
  if reading.trailing || reading.awaited?.isSome then none
  else grammar.command? argument

/-- Reads arguments up to a command, which is given back with what follows
it. -/
def takeAll (grammar : Grammar) (reading : Reading) :
    List Bytes →
      Except Stop (Reading × Option (CommandName × List Bytes))
  | [] => .ok (reading, none)
  | argument :: rest =>
      match reading.startsCommand? grammar argument with
      | some name => .ok (reading, some (name, rest))
      | none =>
          match reading.take grammar argument with
          | .error stop => .error stop
          | .ok next => takeAll grammar next rest

end Reading

/-! ## Whole command lines -/

/-- What the help command answers: the guide, unless it is asked about a
command that does not exist. -/
def helpFor : List Bytes → Stop
  | [] => .guideWanted
  | name :: rest =>
      match CommandName.ofArgument? name, rest with
      | some _, [] => .guideWanted
      | some _, other :: _ => .fault (.unknownCommand (decode other))
      | none, _ => .fault (.unknownCommand (decode name))

/-- Reads the arguments of a command. -/
def readCommand (name : CommandName) (arguments : List Bytes) :
    Except Stop Command := do
  let grammar := Grammar.ofCommand name
  let (reading, _) ← Reading.takeAll grammar (Reading.start grammar) arguments
  let settled ← reading.settle.mapError .fault
  match settled.taken.command? name with
  | some command => .ok command
  | none => .error (.fault .missingArguments)

/-- Reads a whole command line.  Faults of the command's own arguments come
before faults of what was left pending in front of it. -/
def readRequest (arguments : List Bytes) : Except Stop Request := do
  let grammar := Grammar.general
  let (reading, found) ←
    Reading.takeAll grammar (Reading.start grammar) arguments
  match found with
  | some (.help, rest) => .error (helpFor rest)
  | some (name, rest) =>
      let command ← readCommand name rest
      let settled ← reading.settle.mapError .fault
      .ok ⟨settled.taken.options, command⟩
  | none =>
      let settled ← reading.settle.mapError .fault
      if settled.taken.isNothing then .error .guideNeeded
      else .error (.fault .missingCommand)

end SignalHub.CommandLine
