import SheetExport.CommandLine.Run
import Std.Time.DateTime.Timestamp

/-!
# The program

The files that a run reads are loaded, the run is computed, what it printed is
shown and the files it changed are stored. The network of the program answers
nothing.
-/

open SheetExport

def presentMoment : IO Time.Instant := do
  let t ← Std.Time.Timestamp.now
  return ⟨t.val.second.val, t.val.nano.val.toNat⟩

def environment : IO (List (String × String)) := do
  let names := ["TABDUMP_SPREADSHEET_ID", "TABDUMP_CLIENT_ID", "TABDUMP_CLIENT_SECRET",
    "TABDUMP_REFRESH_TOKEN"]
  let found ← names.mapM fun n => return (← IO.getEnv n).map fun v => (n, v)
  return found.filterMap id

/-- A tree with the directory where relative paths begin. -/
def emptyTree : IO FileTree := do
  let home := (← IO.currentDir).toString
  match ({} : FileTree).makeDirs home with
  | .ok t => return { t with home := (FileTree.Path.ofString home).names }
  | .error _ => return {}

/-- A tree with a file loaded into it, if it is there. -/
def loadInto (t : FileTree) (path : String) : IO FileTree := do
  try
    let text ← IO.FS.readFile path
    match t.makeParent path with
    | .ok u => return (u.write path text).toOption.getD t
    | .error _ => return t
  catch _ => return t

def storeEntry (place : Place) (e : Entry) : IO Unit := do
  let path := "/" ++ String.intercalate "/" place
  match e with
  | .dir => IO.FS.createDirAll path
  | .file text _ => IO.FS.writeFile path text

def storeChanges (before after : FileTree) : IO Unit :=
  after.entries.forM fun e => do
    if before.at? e.1 ≠ some e.2 then storeEntry e.1 e.2

def filesRead (s : Settings) : List String :=
  s.tokenCache.toList ++
    match s.auth with
    | .interactive path => [path]
    | .serviceAccount path => [path]
    | .refreshToken _ _ _ _ => []

def loadFiles (words : List String) (env : List (String × String)) : IO FileTree := do
  let t ← emptyTree
  match CommandLine.Arguments.parse words env with
  | .error _ => return t
  | .ok a => do
    let t ← a.config.toList.foldlM loadInto t
    match a.settings t with
    | .error _ => return t
    | .ok s => (filesRead s).foldlM loadInto t

def main (words : List String) : IO UInt32 := do
  let env ← environment
  let files ← loadFiles words env
  let random ← IO.getRandomBytes 64
  let world : World :=
    { clock := ← presentMoment, files, random := fun i => random.toList.getD i 0 }
  let (ending, after) := CommandLine.run words env world
  after.printed.forM fun line => IO.println line
  storeChanges files after.files
  if let some c := ending.complaint then IO.eprint c.text
  if ending.code = 2 then IO.eprintln CommandLine.usageLine
  return ending.code.toUInt32
