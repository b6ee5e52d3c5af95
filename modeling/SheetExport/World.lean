import SheetExport.Auth.Grant
import SheetExport.Failure
import SheetExport.Http

/-!
# The world

What the program acts on: the clock, the files, the network, a browser, random
bytes, what is printed, the events of exports and the credentials kept in memory.
An `Action` acts on the world and ends with a value or a `Stop`; what was done
before a stop stays done.
-/

/-!
## Events of an export

What an export tells while it goes on, and the line that shows it.
-/

namespace SheetExport.Export

/-- Something that happened. -/
inductive Event where
  | tabsFound (names : List String)
  | tabsMissing (names : List String)
  | tabStarted (name : String)
  | tabSkipped (name : String)
  | tabSaved (name path : String)
  deriving DecidableEq, Repr

namespace Event

def shown (names : List String) : String := String.intercalate ", " names

def line : Event → String
  | .tabsFound names =>
    "Info: Found " ++ toString names.length ++ " sheets: " ++ shown names
  | .tabsMissing names => "Warning: Requested sheets not found: " ++ shown names
  | .tabStarted name => "Exporting sheet: " ++ name
  | .tabSkipped name => "Skip: No data found in sheet: " ++ name
  | .tabSaved _ path => "Saved: " ++ path

end Event

end SheetExport.Export

/-! ## Actions -/

namespace SheetExport

/-- What the program acts on. Shown an address, the browser sends the pieces of
a request to the loopback port. -/
structure World where
  clock : Time.Instant
  files : FileTree := {}
  network : Http.Network := {}
  browser : String → List (List UInt8) := fun _ => []
  port : Nat := 0
  random : Nat → UInt8 := fun _ => 0
  printed : List String := []
  pages : List String := []
  events : List Export.Event := []
  memory : Option Auth.Credentials := none

/-- The world as a run finds it: nothing is in memory. -/
def World.fresh (w : World) : World := { w with memory := none }

/-- Something done to the world. -/
abbrev Action (α : Type) := ExceptT Stop (StateM World) α

namespace Action

variable {α : Type}

def fail (f : Failure) : Action α := throw (.failure f)

def ofResult : Except Failure α → Action α
  | .ok a => pure a
  | .error f => fail f

def ofOutcome : Except Stop α → Action α
  | .ok a => pure a
  | .error e => throw e

def changeFiles (op : FileTree → Except FileFault FileTree) : Action Unit := do
  let w ← get
  match op w.files with
  | .ok t => set { w with files := t }
  | .error e => fail (.io e)

/-- Changes the files as far as an operation goes. What was changed before a
fault stays. -/
def alterFiles (op : FileTree → Except FileFault Unit × FileTree) : Action Unit := do
  let w ← get
  set { w with files := (op w.files).2 }
  match (op w.files).1 with
  | .ok () => pure ()
  | .error e => fail (.io e)

/-- Sends a request: the status and body of the answer. -/
def send (d : Http.Draft) : Action (Nat × String) := do
  let w ← get
  let (r, n) := w.network.send d
  set { w with network := n }
  match r with
  | .ok answer => pure answer
  | .error e => fail (.http e.message)

def draw (n : Nat) : Action (List UInt8) := do
  let w ← get
  set { w with random := fun i => w.random (i + n) }
  return (List.range n).map w.random

def print (line : String) : Action Unit :=
  modify fun w => { w with printed := w.printed ++ [line] }

/-- Shows the browser an address and answers what it sends with a page. -/
def browse (address : String) (respond : List (List UInt8) → α × String) : Action α := do
  let w ← get
  let (a, page) := respond (w.browser address)
  set { w with pages := w.pages ++ [page] }
  return a

end Action

end SheetExport
