import PageGraft.Record

/-!
# Reports

What a run has found in the component and done to the page.
-/

namespace PageGraft.Sync

/-- The counts of a run that has come to its end. The integers are as they are given: a report can also
be made by hand. -/
structure Report where
  source : String
  target : String
  functions : Int
  state : Int
  effects : Int
  updated : Int
  skipped : Int
  warnings : List String := []
  targetChanged : Bool := false
deriving Repr, DecidableEq

/-- Whether everything that was found is in the page. -/
def Report.isClean (report : Report) : Bool :=
  report.skipped = 0 && report.warnings.isEmpty

/-- The report of a run from what it found and what the patch did. -/
def Report.of (source target : String) (extraction : Extraction) (outcome : PatchOutcome)
    (targetChanged : Bool) : Report where
  source
  target
  functions := extraction.functions.length
  state := extraction.state.length
  effects := extraction.effects.length
  updated := outcome.updated
  skipped := outcome.skipped
  warnings := extraction.warnings ++ outcome.warnings
  targetChanged

end PageGraft.Sync
