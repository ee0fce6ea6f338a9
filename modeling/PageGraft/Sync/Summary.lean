import PageGraft.Console.Picture
import PageGraft.Console.Table
import PageGraft.Log.Entry
import PageGraft.Sync.Report

/-!
# Summaries

What a user is told about a run: a table of counts, the warnings, and whether all went well.
-/

namespace PageGraft.Sync

open PageGraft.Console

namespace Report

def successMessage : String := "Sync completed successfully!"

def issuesMessage : String := "Sync completed with some issues. Check warnings above."

/-- The counts that are shown. -/
def table (report : Report) : Table where
  title := "📊 Sync Results".toList
  rows :=
    [("Functions extracted", report.functions), ("State variables extracted", report.state),
      ("Updates applied", report.updated), ("Items skipped", report.skipped)].map
      fun (label, count) => (label.toList, (toString count).toList)

/-- A text that is shown as it is, on as many lines as it needs. -/
def paragraph (width : Nat) (text : String) : List (List Char) :=
  wrap .ragged .fold width text.toList

/-- Lines as one text. -/
def textOf (lines : List (List Char)) : String :=
  String.ofList (lines.flatMap (· ++ ['\n']))

/-- The table, and the heading of the warnings if there are any. -/
def opening (report : Report) (width : Nat) : String :=
  let heading := if report.warnings.isEmpty then [] else paragraph width "\n⚠️  Warnings:"
  textOf ([[]] ++ report.table.lines width ++ heading)

/-- One warning. Pictures stand for their names. -/
def warningText (width : Nat) (warning : String) : String :=
  textOf (wrap .ragged .fold width (showPictures s!"  - {warning}".toList))

/-- The last line, which tells whether all went well. -/
def closing (report : Report) (width : Nat) : String :=
  textOf (paragraph width
    (if report.isClean then s!"\n✅ {successMessage}" else s!"\n⚡ {issuesMessage}"))

/-- A warning of a report is also logged. -/
def warningEntry (warning : String) : Log.Entry :=
  ⟨.warning, .reporting, warning⟩

/-- The summary of a report on a console of some width. -/
def summary (report : Report) (width : Nat) : String :=
  report.opening width ++ String.join (report.warnings.map (warningText width)) ++
    report.closing width

/-- What is logged while the summary is shown. -/
def log (report : Report) : List Log.Entry :=
  report.warnings.map warningEntry

end Report

end PageGraft.Sync
