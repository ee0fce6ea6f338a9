/-!
# States of a run

A run checks the two files, extracts, patches, writes and reports. Before it has written the page it
can fail.
-/

namespace PageGraft.Sync

inductive State where
  | idle
  | validatingPaths
  | extracting
  | patching
  | reporting
  | done
  | failed
deriving Repr, DecidableEq

/-- The word that stands for a state. -/
def State.word : State → String
  | .idle => "idle"
  | .validatingPaths => "validating_paths"
  | .extracting => "extracting"
  | .patching => "patching"
  | .reporting => "reporting"
  | .done => "done"
  | .failed => "failed"

end PageGraft.Sync
