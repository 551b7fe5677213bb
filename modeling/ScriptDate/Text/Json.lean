import ScriptDate.Text.Digits

/-!
# JSON text

The values that reports are made of, and their two layouts: without a space, and with a member or
an item on a line, indented by two spaces a level.
-/

namespace ScriptDate.Text

/-- A JSON value. -/
inductive Json where
  | number (n : Nat)
  | text (cs : List Char)
  | array (items : List Json)
  | object (members : List (String × Json))

namespace Json

/-- A character of a JSON string. -/
def stringChar (c : Char) : List Char :=
  if c = '"' then ['\\', '"']
  else if c = '\\' then ['\\', '\\']
  else if c = '\x08' then ['\\', 'b']
  else if c = '\x0c' then ['\\', 'f']
  else if c = '\n' then ['\\', 'n']
  else if c = '\r' then ['\\', 'r']
  else if c = '\t' then ['\\', 't']
  else if c.toNat < 32 then "\\u".toList ++ padLeft '0' 4 (Nat.toDigits 16 c.toNat)
  else [c]

/-- A JSON string. -/
def string (cs : List Char) : List Char := '"' :: cs.flatMap stringChar ++ ['"']

mutual

/-- The layout without spaces. -/
def compact : Json → List Char
  | .number n => digits n
  | .text cs => string cs
  | .array items => '[' :: compactItems items ++ [']']
  | .object members => '\x7b' :: compactMembers members ++ ['\x7d']

def compactItems : List Json → List Char
  | [] => []
  | [item] => compact item
  | item :: rest => compact item ++ ',' :: compactItems rest

def compactMembers : List (String × Json) → List Char
  | [] => []
  | [(key, item)] => string key.toList ++ ':' :: compact item
  | (key, item) :: rest => string key.toList ++ ':' :: compact item ++ ',' :: compactMembers rest

end

/-- The start of a line at a level. -/
def indent (level : Nat) : List Char := '\n' :: List.replicate (2 * level) ' '

mutual

/-- The layout in lines, inside a value of some level. -/
def pretty (level : Nat) : Json → List Char
  | .number n => digits n
  | .text cs => string cs
  | .array [] => "[]".toList
  | .array items => '[' :: prettyItems (level + 1) items ++ indent level ++ [']']
  | .object [] => "\x7b\x7d".toList
  | .object members =>
    '\x7b' :: prettyMembers (level + 1) members ++ indent level ++ ['\x7d']

def prettyItems (level : Nat) : List Json → List Char
  | [] => []
  | [item] => indent level ++ pretty level item
  | item :: rest => indent level ++ pretty level item ++ ',' :: prettyItems level rest

def prettyMembers (level : Nat) : List (String × Json) → List Char
  | [] => []
  | [(key, item)] => indent level ++ string key.toList ++ ": ".toList ++ pretty level item
  | (key, item) :: rest =>
    indent level ++ string key.toList ++ ": ".toList ++ pretty level item ++
      ',' :: prettyMembers level rest

end

end Json

end ScriptDate.Text
