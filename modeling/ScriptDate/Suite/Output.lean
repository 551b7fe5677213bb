import ScriptDate.Journal
import ScriptDate.Text.Digits
import ScriptDate.Text.Quoted

/-!
# Output streams

The stream that a script prints to. What is written stays in order; a stream that is a buffer
gives it back, and one on the standard output does not.
-/

namespace ScriptDate.Suite

open Text

/-- A stream and all that was written to it. -/
structure Output where
  isBuffer : Bool
  written : List Char

/-- The bytes of a text in UTF-8. -/
def byteLength (cs : List Char) : Nat := cs.foldl (fun n c => n + c.utf8Size) 0

namespace Output

def stdout : Output := ⟨false, []⟩

def buffer : Output := ⟨true, []⟩

/-- What a buffer holds. -/
def captured (out : Output) : Option (List Char) :=
  if out.isBuffer then some out.written else none

/-- What the log says of a length that is not that of the text. -/
def mismatchRecord (text : List Char) (length : Nat) : LogRecord :=
  ⟨.warn, "write: length ".toList ++ digits length ++ " does not match ".toList ++
    digits (byteLength text) ++ " bytes of ".toList ++ quoted text⟩

/-- What the log says of a write. -/
def writeRecord (text : List Char) : LogRecord :=
  ⟨.trace, "write fd=stdout data_len=".toList ++ digits (byteLength text)⟩

/-- Writes the whole text, whatever length the caller gives for it. -/
def write (out : Output) (text : List Char) (length : Nat) : Logged Output :=
  ⟨{ out with written := out.written ++ text },
    (if length = byteLength text then [] else [mismatchRecord text length]) ++
      [writeRecord text]⟩

/-- The text of a line with its end. -/
def line (text : List Char) : List Char := text ++ ['\n']

def writeLine (out : Output) (text : List Char) : Logged Output :=
  out.write (line text) (byteLength (line text))

end Output

end ScriptDate.Suite
