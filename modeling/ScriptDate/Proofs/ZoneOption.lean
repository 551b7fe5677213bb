import ScriptDate.Proofs.Arguments
import ScriptDate.Proofs.ZoneNames

/-!
# The zone of a command line

A zone can be named after an equals sign whatever its name, and as an argument of its own unless
the name begins with a hyphen (`run_zone_option`). Names of zones west of UTC begin with one, when
no blank comes first.
-/

namespace ScriptDate.CommandLine

open Suite Text

variable {host : Zone.Rules} {o : Options} {arg name id : String} {ids : List String} {zone : Zone}

/-! ## The looks of an argument -/

/-- A hyphen comes first. -/
def Hyphenated (arg : String) : Prop := arg.toList.head? = some '-'

instance (arg : String) : Decidable (Hyphenated arg) :=
  inferInstanceAs (Decidable (arg.toList.head? = some '-'))

theorem Argument.ofText_of_not_hyphenated (h : ¬ Hyphenated arg) :
    Argument.ofText arg = .word arg := by
  unfold Hyphenated at h
  unfold Argument.ofText
  split
  · rename_i harg
    simp [harg] at h
  · rename_i harg
    simp [harg] at h
  · rename_i harg
    simp [harg] at h
  · rfl

/-- Of the texts with a hyphen first only the hyphen alone is a word. -/
theorem Argument.ofText_ne_word (h : Hyphenated arg) (halone : arg.toList ≠ ['-'])
    (text : String) : Argument.ofText arg ≠ .word text := by
  unfold Hyphenated at h
  obtain ⟨rest, harg⟩ := List.head?_eq_some_iff.mp h
  rw [harg, ne_eq, List.cons_inj_right] at halone
  obtain ⟨c, rest, rfl⟩ := List.exists_cons_of_ne_nil halone
  unfold Argument.ofText
  rw [harg]
  split
  · simp
  · dsimp only
    split <;> simp
  · simp
  · rename_i hshort
    exact absurd rfl (hshort c rest)

theorem Argument.ofText_tz (name : String) :
    Argument.ofText ("--tz=" ++ name) = .long "tz" (some name) := by
  have htext : ("--tz=" ++ name).toList = '-' :: '-' :: 't' :: 'z' :: '=' :: name.toList := by
    rw [String.toList_append]
    rfl
  unfold Argument.ofText
  rw [htext]
  simp

theorem ne_hyphen_of_zone (h : Zone.ofText host name = .ok zone) : name.toList ≠ ['-'] := by
  intro hname
  rw [Zone.ofText_eq_ok, hname] at h
  cases h

/-! ## Taking the arguments -/

namespace Options

theorem take?_words : ∀ {ids : List String} (o : Options), (∀ id ∈ ids, ¬ Hyphenated id) →
    o.take? host ids = some (.run { o with cases := o.cases ++ ids })
  | [], o, _ => by simp [take?]
  | id :: ids, o, h => by
    have hword := Argument.ofText_of_not_hyphenated (h id List.mem_cons_self)
    have ih := take?_words { o with cases := o.cases ++ [id] } fun id' hid' =>
      h id' (List.mem_cons_of_mem id hid')
    rw [← List.singleton_append, (turns_word hword o).take, ih]
    simp

theorem setZone?_of_ok (h : Zone.ofText host name = .ok zone) (ho : o.zone = none) :
    o.setZone? host name = some { o with zone := some zone } := by
  simp [setZone?, h, ho]

/-- After the option itself a name with a hyphen first is no name. -/
theorem take?_tz_hyphenated (h : Hyphenated name) (halone : name.toList ≠ ['-']) (o : Options)
    (rest : List String) : o.take? host ("--tz" :: name :: rest) = none := by
  have harg : Argument.ofText "--tz" = .long "tz" none := rfl
  -- What looks like an option is not read as a name.
  have hvalue := Argument.ofText_ne_word h halone
  rw [take?.eq_def]
  simp only [harg]

end Options

/-! ## Runs in a zone -/

/-- What a caller sees of an outcome: the status and the standard output. -/
def Outcome.shown (outcome : Outcome) : Nat × List Char := (outcome.exit, outcome.stdout)

/-- What cases show when they are run in a zone and a summary in lines follows them. -/
def shownIn (zone : Zone) (ids : List String) : Nat × List Char :=
  match ((Session.new zone .stdout).run ids).value with
  | (.error _, s) => (1, s.out.written)
  | (.ok report, s) => (if report.allPassed then 0 else 1, s.out.written ++ summary false report)

/-- A command line is accepted and shows what the cases show in the zone. -/
structure RunsIn (host : Zone.Rules) (zone : Zone) (ids args : List String) : Prop where
  accepted : Request.ofArguments? host args = some (.run { zone := some zone, cases := ids })
  shown : (run host args).shown = shownIn zone ids

theorem runsIn_of_accepted {args : List String}
    (h : Request.ofArguments? host args = some (.run { zone := some zone, cases := ids })) :
    RunsIn host zone ids args := by
  refine ⟨h, ?_⟩
  rw [run, h, shownIn]
  rcases hrun : ((Session.new zone .stdout).run ids).value with ⟨e | report, s⟩
  · simp [Options.run, hrun, Outcome.shown]
  · simp [Options.run, hrun, Outcome.shown]

/-- The cases run in the zone that is named after an equals sign, and in the zone that an argument
of its own names, unless that begins with a hyphen: then the command line is rejected. -/
theorem run_zone_option (host : Zone.Rules) {name : String} {zone : Zone}
    (hzone : Zone.ofText host name = .ok zone) {ids : List String}
    (hids : ∀ id ∈ ids, ¬ Hyphenated id) :
    RunsIn host zone ids (("--tz=" ++ name) :: ids)
    ∧ (¬ Hyphenated name → RunsIn host zone ids ("--tz" :: name :: ids))
    ∧ (Hyphenated name → run host ("--tz" :: name :: ids) = ⟨2, [], usageText⟩) := by
  have hset : ({} : Options).setZone? host name = some { zone := some zone } :=
    Options.setZone?_of_ok hzone rfl
  have hwords : ({ zone := some zone } : Options).take? host ids
      = some (.run { zone := some zone, cases := ids }) := Options.take?_words _ hids
  refine ⟨runsIn_of_accepted ?_, fun hname => runsIn_of_accepted ?_, fun hname => ?_⟩
  · exact ((Options.turns_zone (Argument.ofText_tz name) hset).take ids).trans hwords
  · have hvalue := Argument.ofText_of_not_hyphenated hname
    exact ((Options.turns_zone_value rfl hvalue hset).take ids).trans hwords
  · have halone := ne_hyphen_of_zone hzone
    rw [run, Request.ofArguments?, Options.take?_tz_hyphenated hname halone]

/-- A zone west of UTC after an equals sign, and after the option with a blank before its name. -/
theorem run_zone_option_west_of_utc :
    Zone.ofText ⟨0, none⟩ "-05:30" = .ok (.fixed ⟨-19800, by decide⟩)
    ∧ RunsIn ⟨0, none⟩ (.fixed ⟨-19800, by decide⟩) ["1030"] ["--tz=-05:30", "1030"]
    ∧ RunsIn ⟨0, none⟩ (.fixed ⟨-19800, by decide⟩) ["1030"] ["--tz", " -05:30", "1030"]
    ∧ (shownIn (.fixed ⟨-19800, by decide⟩) ["1030"]).1 = 0 := by
  have hids : ∀ id ∈ ["1030"], ¬ Hyphenated id := by decide
  have hzone : Zone.ofText ⟨0, none⟩ "-05:30" = .ok (.fixed ⟨-19800, by decide⟩) := by decide
  have hblank : Zone.ofText ⟨0, none⟩ " -05:30" = .ok (.fixed ⟨-19800, by decide⟩) := by decide
  exact ⟨hzone, (run_zone_option ⟨0, none⟩ hzone hids).1,
    (run_zone_option ⟨0, none⟩ hblank hids).2.1 (by decide), by decide +kernel⟩

/-- Five hours west of UTC is accepted after an equals sign, with every check right, and rejected
as an argument of its own. -/
theorem run_zone_option_rejected :
    Zone.ofText ⟨0, none⟩ "-05:00" = .ok (.fixed ⟨-18000, by decide⟩)
    ∧ (run ⟨0, none⟩ ["--tz=-05:00"]).exit = 0
    ∧ run ⟨0, none⟩ ["--tz", "-05:00"] = ⟨2, [], usageText⟩ := by
  exact ⟨by decide, by decide +kernel, by decide⟩

end ScriptDate.CommandLine
