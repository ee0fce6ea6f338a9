import PageGraft.Component.Extraction
import PageGraft.File.Store
import PageGraft.Page.Patch
import PageGraft.Sync.Report
import PageGraft.Sync.State

/-!
# Runs

One run brings a page up to date with a component. Both files have to be there; the component is read
and extracted, the page is read and patched in memory, and then the page is written once. A run that
fails writes nothing.
-/

namespace PageGraft.Sync

open PageGraft.File PageGraft.Settings PageGraft.Syntax PageGraft.Text

/-! ## Failures -/

/-- Why a run fails. The file system can refuse to look for a file and to give the octets of the page
(`unreachable`); when it refuses those of the component, this is one of the reasons why the component has
no text. -/
inductive Failure where
  | sourceMissing (path : String)
  | targetMissing (path : String)
  | unreachable (obstacle : Obstacle) (path : String)
  | sourceUndecodable (error : TextError)
  | sourceUnparsable (error : ParseError)
  | targetUndecodable (error : DecodeError)
deriving Repr, DecidableEq

def Failure.message : Failure → String
  | .sourceMissing path => s!"React file not found: {path}"
  | .targetMissing path => s!"HTML file not found: {path}"
  | .unreachable obstacle path => obstacle.message path
  | .sourceUndecodable error => s!"Failed to extract from React file: {error.message}"
  | .sourceUnparsable error => s!"Failed to parse React file: {error.message}"
  | .targetUndecodable error => error.message

/-- The faults in the source that a failure comes from. -/
def Failure.diagnostics : Failure → List String
  | .sourceUnparsable error => error.diagnostics
  | _ => []

/-! ## Progress -/

/-- The state of a run, the states it has entered, and its log. -/
structure Progress where
  state : State := .idle
  entered : List State := []
  log : List Log.Entry := []
deriving Repr, DecidableEq

namespace Progress

def note (progress : Progress) (level : Log.Level) (message : String) : Progress :=
  { progress with log := progress.log ++ [⟨level, .orchestrator, message⟩] }

/-- Adds what another part of the program has logged. -/
def append (progress : Progress) (log : List Log.Entry) : Progress :=
  { progress with log := progress.log ++ log }

def enter (progress : Progress) (state : State) : Progress :=
  { progress.note .debug s!"Sync state: {progress.state.word} -> {state.word}" with
    state
    entered := progress.entered ++ [state] }

/-- Logs the confirmations of events. -/
def confirm (progress : Progress) (events : List Event) : Progress :=
  (EventLog.drain ⟨events⟩).1.foldl (fun progress message => progress.note .info message) progress

/-- Logs the faults of a source. -/
def complain (progress : Progress) (source : String) (diagnostics : List String) : Progress :=
  diagnostics.foldl
    (fun progress diagnostic => progress.note .error s!"{source}: {diagnostic}") progress

end Progress

/-! ## Outcomes -/

/-- The end of a run: a report or a failure, the way there, and the files. -/
structure Outcome where
  result : Except Failure Report
  progress : Progress
  store : Store

namespace Outcome

def state (outcome : Outcome) : State := outcome.progress.state

def log (outcome : Outcome) : List Log.Entry := outcome.progress.log

/-- The end of a run that fails; the files are as they were. -/
def failed (store : Store) (progress : Progress) (failure : Failure) : Outcome where
  result := .error failure
  progress := progress.enter .failed
  store

end Outcome

/-! ## Steps -/

/-- Looks for a file. -/
def findFile (store : Store) (path : String) (missing : Failure) : Except Failure Unit :=
  match store.find (.ofText path) with
  | .ok _ => .ok ()
  | .error obstacle => .error (if obstacle.isRaised then .unreachable obstacle path else missing)

/-- Looks for both files, the source first. -/
def findFiles (store : Store) (source target : String) : Except Failure Unit := do
  findFile store source (.sourceMissing source)
  findFile store target (.targetMissing target)

/-- What is found in the octets of a component. -/
def extractComponent (parser : Parser) (settings : SyncSettings) (octets : List UInt8) :
    Except Failure Component.Findings := do
  let text ← (decode octets).mapError fun error => .sourceUndecodable (.undecodable error)
  (Component.extractWith parser settings.extractor settings.transform
    (Source.ofText (universalNewlines text))).mapError .sourceUnparsable

/-- Reads the component, which was found before, and extracts it. -/
def readComponent (parser : Parser) (settings : SyncSettings) (store : Store) (source : String) :
    Except Failure Component.Findings :=
  match store.read (.ofText source) with
  | .ok entry => extractComponent parser settings entry.octets
  | .error obstacle => .error (.sourceUndecodable (.unopened (.obstacle obstacle source)))

/-- The text in the octets of a page. -/
def pageText (octets : List UInt8) : Except Failure (List Char) :=
  match decode octets with
  | .ok text => .ok (universalNewlines text)
  | .error error => .error (.targetUndecodable error)

/-- Reads the page, which was found before. -/
def readPage (store : Store) (target : String) : Except Failure (List Char) :=
  match store.read (.ofText target) with
  | .ok entry => pageText entry.octets
  | .error obstacle => .error (.unreachable obstacle target)

/-! ## The run -/

/-- The end of a run after its extraction. -/
def finish (settings : SyncSettings) (store : Store) (source target : String)
    (progress : Progress) (findings : Component.Findings) : Outcome :=
  let progress := (progress.append findings.log).confirm findings.events
  match readPage store target with
  | .error failure => .failed store progress failure
  | .ok text =>
    let progress := (progress.enter .patching).note .info s!"Updating HTML file: {target}"
    let patch := Page.patch settings.patcher text findings.extraction
    let progress := ((progress.append patch.log).confirm patch.events).enter .reporting
    { result := .ok (.of source target findings.extraction patch.outcome (patch.text ≠ text))
      progress := progress.enter .done
      store := store.write (.ofText target) (encode patch.text) none }

/-- Runs once, after an earlier run that ended in some state. A parser makes the trees of sources. -/
def runWith (parser : Parser) (settings : SyncSettings) (earlier : State) (store : Store)
    (source target : String) : Outcome :=
  let begun := ({ state := earlier } : Progress).enter .idle
  let progress := (begun.note .info "Starting React -> HTML sync").enter .validatingPaths
  match findFiles store source target with
  | .error failure => .failed store progress failure
  | .ok () =>
    let progress := (progress.enter .extracting).note .info s!"Parsing React file: {source}"
    match readComponent parser settings store source with
    | .error failure =>
      .failed store (progress.complain source failure.diagnostics) failure
    | .ok findings => finish settings store source target progress findings

/-- Runs once, after an earlier run that ended in some state. -/
def run (settings : SyncSettings) (earlier : State) (store : Store) (source target : String) :
    Outcome :=
  runWith parse settings earlier store source target

end PageGraft.Sync
