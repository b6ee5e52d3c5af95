import SheetExport.Auth.Provider
import SheetExport.Failure
import SheetExport.Settings.File
import SheetExport.Sheets.Client
import SheetExport.Tab
import SheetExport.World

/-!
# Exports

What is exported, the run of an export over any service, and the export that the
settings ask for.
-/

/-!
## What is exported

The options of an export: where to, which range of which tabs, in what form.
Without a choice of tabs all are exported.
-/

namespace SheetExport.Export

/-- The options of an export. -/
structure Options where
  outputDir : String
  range : A1.Range
  tabs : List String := []
  csv : Csv := {}

namespace Options

/-- The columns A to Z. -/
def allLetters : A1.Range := ⟨⟨0, none⟩, some ⟨25, none⟩⟩

/-- The options that settings ask for, if they can work. -/
def ofSettings (s : Settings) : Except Failure Options := do
  if let some words := s.problem? then throw (.config words)
  let range ← (A1.Range.parse s.range).mapError Failure.ofInvalidRange
  return { outputDir := s.outputDir, range, tabs := s.tabs }

def selected (o : Options) (names : List String) : List String :=
  if o.tabs = [] then names else names.filter fun n => o.tabs.contains n

/-- The tabs asked for that are not there, in the order asked for. -/
def missing (o : Options) (names : List String) : List String :=
  o.tabs.filter fun n => !names.contains n

def path (o : Options) (name : String) : String :=
  FileTree.within o.outputDir (Tab.fileName name)

/-- The text a grid is saved as, if there is any. -/
def textOf (o : Options) (g : Grid) : Option String := (o.csv.grid g).filter (· ≠ "")

end Options

end SheetExport.Export

/-!
## Runs of an export

An export asks a service for the names of the tabs and then, tab by tab, for the
values in the range, which it saves. The first failure ends it; what was created
and saved before stays. A `Session` holds what a run acts on: the service, the
files, the events told and the calls made.
-/

namespace SheetExport.Export

open Sheets (Service)

/-- A call to the service. -/
inductive Call where
  | tabNames (id : String)
  | values (id range : String)
  deriving DecidableEq, Repr

/-- What a run acts on. -/
structure Session (σ : Type) where
  service : σ
  files : FileTree
  events : List Event := []
  calls : List Call := []

/-- What a run did: the tabs there were, the files written, the tabs without
data and the tabs asked for that were not there. -/
structure Report where
  tabNames : List String := []
  written : List String := []
  skipped : List String := []
  missing : List String := []
  deriving DecidableEq, Repr

abbrev Step (σ α : Type) := ExceptT Failure (StateM (Session σ)) α

variable {σ : Type}

def tell (e : Event) : Step σ Unit := modify fun s => { s with events := s.events ++ [e] }

def call {α : Type} (c : Call) (f : σ → Except Failure α × σ) : Step σ α := do
  let s ← get
  let (r, service) := f s.service
  set { s with service, calls := s.calls ++ [c] }
  match r with
  | .ok a => return a
  | .error e => throw e

/-- Changes the files, or leaves them as they are and fails. -/
def changeFiles (op : FileTree → Except FileFault FileTree) : Step σ Unit := do
  let s ← get
  match op s.files with
  | .ok files => set { s with files }
  | .error e => throw (.io e)

/-- Changes the files as far as an operation goes. What was changed before a
fault stays. -/
def alterFiles (op : FileTree → Except FileFault Unit × FileTree) : Step σ Unit := do
  let s ← get
  set { s with files := (op s.files).2 }
  match (op s.files).1 with
  | .ok () => return
  | .error e => throw (.io e)

def exportTab (a : Service σ) (o : Options) (id : String) (r : Report) (name : String) :
    Step σ Report := do
  tell (.tabStarted name)
  let range := o.range.forTab name
  let grid ← call (.values id range) (a.values id range)
  match o.textOf grid with
  | none =>
    tell (.tabSkipped name)
    return { r with skipped := r.skipped ++ [name] }
  | some text =>
    changeFiles fun t => t.write (o.path name) text
    tell (.tabSaved name (o.path name))
    return { r with written := r.written ++ [o.path name] }

/-- Exports the tabs of a spreadsheet. -/
def run (a : Service σ) (o : Options) (id : String) : Step σ Report := do
  let names ← call (.tabNames id) (a.tabNames id)
  tell (.tabsFound names)
  let missing := o.missing names
  if missing ≠ [] then tell (.tabsMissing missing)
  alterFiles fun t => t.createDirs o.outputDir
  (o.selected names).foldlM (exportTab a o id) { tabNames := names, missing }

end SheetExport.Export

/-!
## Exporting as the settings say

The settings are checked, credentials are provided, and the spreadsheet is
exported from the service on the network.
-/

namespace SheetExport.Export

/-- Exports from the service on the network. -/
def runClient (c : Sheets.Client) (o : Options) (id : String) : Action Report := fun w =>
  let (r, s) := (run c.service o id).run { service := w.network, files := w.files }
  (r.mapError Stop.failure,
    { w with network := s.service, files := s.files, events := w.events ++ s.events })

/-- Exports the spreadsheet that settings name. -/
def exportSpreadsheet (s : Settings) : Action Report := do
  match s.effectiveId? with
  | none => .fail (.config "no spreadsheet ID configured")
  | some id =>
    let o ← Action.ofResult (Options.ofSettings s)
    let provider ← Auth.Provider.start s
    let c ← provider.credentials
    let client ← Action.ofResult (Sheets.Client.ofBase s.apiBaseUrl c.accessToken s.valueRender)
    runClient client o id

end SheetExport.Export
