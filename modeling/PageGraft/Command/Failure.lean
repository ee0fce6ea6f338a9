import PageGraft.Console.Markup
import PageGraft.Console.Panel
import PageGraft.Log.Entry

/-!
# Failures of commands

A command that fails says what went wrong, and what can be done about it if that is known. The words
go to the log and, in a panel, to the user.
-/

namespace PageGraft.Command

open PageGraft.Console

/-- What went wrong in a command. `command` and `hint` are empty if there is nothing to say. -/
structure Failure where
  message : String
  command : String := ""
  hint : String := ""
deriving Repr, DecidableEq

namespace Failure

/-- The words for a failure: the command, the message, and the hint on a line of its own. -/
def render (failure : Failure) : String :=
  let label := if failure.command = "" then "" else s!"{failure.command}: "
  let hint := if failure.hint = "" then "" else s!"\n{failure.hint}"
  String.ofList (stripControls (label ++ failure.message ++ hint).toList)

/-- What is logged about a failure. -/
def entry (failure : Failure) (title : String) : Log.Entry :=
  ⟨.error, .commandErrors, s!"{title}: {failure.render}"⟩

/-- The panel with a title that is shown on a console of some width. -/
def titledPanel (failure : Failure) (title : List Char) (width : Nat) : String :=
  let panel : Panel := { title, body := failure.render.toList }
  String.ofList ((panel.lines width).flatMap (· ++ ['\n']))

/-- The panel under a title without markup. -/
def panel (failure : Failure) (title : String) (width : Nat) : String :=
  failure.titledPanel ("❌ " ++ title).toList width

/-- The panel under a title with markup. -/
def markedPanel (failure : Failure) (title : String) (width : Nat) :
    Except MarkupFault String := do
  return failure.titledPanel (← plainText ("❌ " ++ title).toList) width

end Failure

end PageGraft.Command
