import ScriptDate.Zone.Name

/-!
# Command lines

The arguments of the suite runner: flags, a zone, and the cases to run, in any order. Arguments
are taken one by one, and the first that cannot be taken rejects the command line.
-/

namespace ScriptDate.CommandLine

/-- An argument by its looks. -/
inductive Argument where
  | word (text : String)
  /-- Two hyphens alone: only words follow. -/
  | endOfOptions
  /-- A name after two hyphens, with the value after an equals sign. -/
  | long (name : String) (value : Option String)
  /-- Letters after one hyphen. -/
  | short (letters : List Char)

/-- How an argument looks; a hyphen alone is a word. -/
def Argument.ofText (text : String) : Argument :=
  match text.toList with
  | ['-', '-'] => .endOfOptions
  | '-' :: '-' :: rest =>
    let name := String.ofList (rest.takeWhile (· != '='))
    match rest.dropWhile (· != '=') with
    | [] => .long name none
    | _ :: value => .long name (some (String.ofList value))
  | '-' :: letter :: rest => .short (letter :: rest)
  | _ => .word text

/-- The options of a run. -/
structure Options where
  list : Bool := false
  json : Bool := false
  zone : Option Zone := none
  cases : List String := []

/-- What a command line asks for. -/
inductive Request where
  | version
  | run (options : Options)

/-- What taking an argument comes to: options so far, or a request for the version, which ends
the command line. -/
inductive Step where
  | options (o : Options)
  | version

namespace Options

/-- Sets a flag, which may be given once. -/
def setList? (o : Options) : Option Options :=
  if o.list then none else some { o with list := true }

/-- Sets a flag, which may be given once. -/
def setJson? (o : Options) : Option Options :=
  if o.json then none else some { o with json := true }

/-- Sets the zone, which may be given once, by its name. -/
def setZone? (o : Options) (host : Zone.Rules) (name : String) : Option Options :=
  match o.zone, Zone.ofText host name with
  | none, .ok zone => some { o with zone := some zone }
  | _, _ => none

/-- Takes letters after one hyphen. -/
def takeLetters? (o : Options) : List Char → Option Step
  | [] => some (.options o)
  | 'V' :: _ => some .version
  | 'l' :: rest => do (← o.setList?).takeLetters? rest
  | _ => none

/-- Takes a flag by its long name. -/
def takeFlag? (o : Options) (name : String) : Option Step :=
  if name = "version" then some .version
  else if name = "list" then o.setList?.map .options
  else if name = "json" then o.setJson?.map .options
  else none

/-- Takes the arguments that are left. The name of a zone follows its option or an equals sign,
and after the option it must not look like an option itself. -/
def take? (o : Options) (host : Zone.Rules) : List String → Option Request
  | [] => some (.run o)
  | arg :: rest =>
    match Argument.ofText arg with
    | .word text => take? { o with cases := o.cases ++ [text] } host rest
    | .endOfOptions => some (.run { o with cases := o.cases ++ rest })
    | .short letters =>
      match o.takeLetters? letters with
      | some (.options o) => take? o host rest
      | some .version => some .version
      | none => none
    | .long "tz" (some name) =>
      match o.setZone? host name with
      | some o => take? o host rest
      | none => none
    | .long "tz" none =>
      match rest with
      | [] => none
      | value :: rest =>
        match Argument.ofText value with
        | .word name =>
          match o.setZone? host name with
          | some o => take? o host rest
          | none => none
        | _ => none
    | .long name none =>
      match o.takeFlag? name with
      | some (.options o) => take? o host rest
      | some .version => some .version
      | none => none
    | .long _ (some _) => none

end Options

/-- What the arguments of a command line ask for, if they are accepted. -/
def Request.ofArguments? (host : Zone.Rules) (args : List String) : Option Request :=
  ({} : Options).take? host args

end ScriptDate.CommandLine
