/-!
# Formatting programs

What is formatted is not a text but a program that offers pieces of text one
by one to a buffer.  The buffer answers whether it took the piece, the program
may look at the answer, and in the end it succeeds or fails.
-/

namespace SignalHub

inductive Formatter where
  | finish (succeeded : Bool)
  | write (piece : String) (next : Bool → Formatter)

/-- How a formatting program ended: the buffer, how many pieces it took, and
the program's own verdict. -/
structure Formatted (Buffer : Type) where
  buffer : Buffer
  taken : Nat
  succeeded : Bool
deriving Repr

namespace Formatter

/-- Runs the program against a buffer. -/
def run {Buffer : Type} (put : Buffer → String → Buffer × Bool) :
    Formatter → Buffer → Formatted Buffer
  | .finish succeeded, buffer => ⟨buffer, 0, succeeded⟩
  | .write piece next, buffer =>
      let (after, took) := put buffer piece
      let result := (next took).run put after
      { result with taken := result.taken + if took then 1 else 0 }

/-- Offers one text and ends as the buffer answers. -/
def text (content : String) : Formatter :=
  .write content .finish

/-- Offers pieces in order.  At the first refusal a careful program gives up,
a careless one goes on; `fails` makes it fail in the end anyway. -/
def ofPieces (careless fails : Bool) : List String → Formatter
  | [] => .finish (!fails)
  | piece :: rest =>
      .write piece fun took =>
        if took || careless then ofPieces careless fails rest
        else .finish false

/-- One program after the other; the second does not start if the first
fails. -/
def followedBy : Formatter → Formatter → Formatter
  | .finish true, second => second
  | .finish false, _ => .finish false
  | .write piece next, second =>
      .write piece fun took => (next took).followedBy second

/-- Runs the program against a buffer without bound: every piece is taken. -/
def collect (program : Formatter) : Formatted String :=
  program.run (fun buffer piece => (buffer ++ piece, true)) ""

end Formatter

/-- What a caller asks to have formatted.  Formatting an `announced` message
is an event of its own. -/
structure Message where
  program : Formatter
  announced : Bool

namespace Message

/-- A text, formatted silently. -/
def text (content : String) : Message :=
  ⟨Formatter.text content, false⟩

/-- Pieces whose formatting is announced. -/
def pieces (parts : List String) (careless fails : Bool) : Message :=
  ⟨Formatter.ofPieces careless fails parts, true⟩

end Message

end SignalHub
