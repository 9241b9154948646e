/-!
# Styled text

Terminal styles.  A styled text opens with the style's sequence and ends with
the reset sequence; a reset inside of it is followed by the style again, so
that the rest of the text keeps it.
-/

namespace SignalHub.Text

def escape : Char := '\x1B'

/-- Ends every style. -/
def reset : List Char :=
  [escape, '[', '0', 'm']

structure Style where
  codes : String
deriving DecidableEq, Repr

namespace Style

def faint : Style := ⟨"90"⟩

def faintBold : Style := ⟨"1;90"⟩

def heading : Style := ⟨"1;32"⟩

def bold : Style := ⟨"1"⟩

def red : Style := ⟨"31"⟩

def green : Style := ⟨"32"⟩

def yellow : Style := ⟨"33"⟩

def blue : Style := ⟨"34"⟩

def cyan : Style := ⟨"36"⟩

def gray : Style := ⟨"38;5;8"⟩

def start (style : Style) : List Char :=
  escape :: '[' :: style.codes.toList ++ ['m']

/-- Opens the style again after every reset. -/
def reopen (style : Style) : List Char → List Char
  | '\x1B' :: '[' :: '0' :: 'm' :: rest =>
      reset ++ style.start ++ style.reopen rest
  | character :: rest => character :: style.reopen rest
  | [] => []

/-- The text in this style, if styles are wanted. -/
def apply (style : Style) (wanted : Bool) (text : String) : String :=
  if wanted then
    String.ofList (style.start ++ style.reopen text.toList ++ reset)
  else text

/-- A text after the sequences of several styles.  Without a style it stays as
it is. -/
def opening (styles : List Style) (text : String) : String :=
  if styles.isEmpty then text
  else
    String.ofList
      (styles.flatMap Style.start ++ text.toList ++ Text.reset)

/-- A text in several styles and none that was begun before, if styles are
wanted. -/
def fresh (wanted : Bool) (styles : List Style) (text : String) : String :=
  if wanted then String.ofList Text.reset ++ opening styles text else text

end Style

end SignalHub.Text
