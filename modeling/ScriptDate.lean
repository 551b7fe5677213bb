import ScriptDate.Date.Parse
import ScriptDate.Main
import ScriptDate.Number.Bits
import ScriptDate.Proofs.Rounding
import ScriptDate.Proofs.WholeNumbers
import ScriptDate.Proofs.YearSearch
import ScriptDate.Proofs.SearchRounds
import ScriptDate.Proofs.Combining
import ScriptDate.Proofs.CivilFields
import ScriptDate.Proofs.Gregorian
import ScriptDate.Proofs.LocalInstant
import ScriptDate.Proofs.LocalTime
import ScriptDate.Proofs.Runs
import ScriptDate.Proofs.Components
import ScriptDate.Proofs.GivenFields
import ScriptDate.Proofs.FieldMoves
import ScriptDate.Proofs.OwnFields
import ScriptDate.Proofs.WrittenNumbers
import ScriptDate.Proofs.Patterns
import ScriptDate.Proofs.FirstCharacters
import ScriptDate.Proofs.Forms
import ScriptDate.Proofs.Spellings
import ScriptDate.Proofs.IsoText
import ScriptDate.Proofs.WithoutTime
import ScriptDate.Proofs.AnyZone
import ScriptDate.Proofs.CaseRuns
import ScriptDate.Proofs.Markers
import ScriptDate.Proofs.Arguments
import ScriptDate.Proofs.JsonText
import ScriptDate.Proofs.Summaries
import ScriptDate.Proofs.Outcomes
import ScriptDate.Proofs.ZoneNames
import ScriptDate.Proofs.NumericTexts
import ScriptDate.Proofs.SlashedDates
import ScriptDate.Proofs.ZoneOption
import ScriptDate.Proofs.UtcText
import ScriptDate.Proofs.Designator
import ScriptDate.Proofs.MonthFolding
import ScriptDate.Proofs.IsoOrder
import ScriptDate.Proofs.LocalText
import ScriptDate.Proofs.FixedZones
import ScriptDate.Proofs.PassingCases
