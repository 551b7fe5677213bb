import ScriptDate.Text.CharTable

/-!
# Printable characters

A character is printable when it shows by itself: it is assigned, is not concealed, does not extend
the character before it, and is no filler.
-/

namespace ScriptDate.Text

/-- Whether a table of ranges holds a character. -/
def inTable (table : List (Nat × Nat)) (c : Char) : Bool :=
  table.any fun (first, last) => first ≤ c.toNat && c.toNat ≤ last

/-- The Hangul fillers, letters that hold the place of a missing one and show nothing. -/
def fillers : List (Nat × Nat) :=
  [(0x115f, 0x1160), (0x3164, 0x3164), (0xffa0, 0xffa0)]

/-- A character that can be shown as it is. -/
def isPrintable (c : Char) : Bool :=
  [concealed, extending, fillers, unassigned].all fun table => !inTable table c

end ScriptDate.Text
