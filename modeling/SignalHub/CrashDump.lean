import SignalHub.Text.Terminated

/-!
# Crash dumps

The name of the file that a crash dump is written to, after a directory.
-/

namespace SignalHub.CrashDump

open Text

def fileName : String := "crash.dmp"

/-- Appends the name to a path that already ends as it should. -/
def append (path : String) : String :=
  path ++ fileName

/-- Appends the name a number of times. -/
def appendTimes : Nat → String → String
  | 0, path => path
  | count + 1, path => appendTimes count (append path)

def separator : UInt8 := 47

/-- The file in a directory, a separator being added where one is missing. -/
def inDirectory (directory : Bytes) : Bytes :=
  if directory.isEmpty || directory.getLast? == some separator then
    directory ++ bytes fileName
  else directory ++ separator :: bytes fileName

/-- Writes the name and its terminator over the terminator of a string in a
buffer.  What does not fit is not written. -/
def appendInto (buffer : Bytes) : Bytes :=
  let start := (untilTerminator buffer).length
  let name := bytes fileName ++ [0]
  buffer.take start ++ name.take (buffer.length - start) ++
    buffer.drop (start + name.length)

end SignalHub.CrashDump
