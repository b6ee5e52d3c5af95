import SheetExport.Export.Run
import SheetExport.Settings.File

/-!
# The command line

Reading the words of a command line, what they make of the settings, and the run.
-/

/-!
## Arguments

The words of a command line are options with and without a value and at most one
spreadsheet. An option has a long name, after two dashes, and perhaps a letter,
after one; letters may share a dash. `Arguments.parse` reads the words one after
the other and `Arguments.withEnvironment` fills in what the environment gives.
-/

namespace SheetExport.CommandLine

/-- Options with a value. -/
inductive Valued where
  | outputDir
  | range
  | tab
  | config
  | auth
  | clientSecrets
  | serviceAccountKey
  | clientId
  | clientSecret
  | refreshToken
  | tokenCache
  | valueRender
  deriving DecidableEq, Repr

/-- Options without a value. -/
inductive Flag where
  | noCache
  | verbose
  | help
  | version
  deriving DecidableEq, Repr

/-- The strategies that can be named. -/
inductive StrategyName where
  | interactive
  | refreshToken
  | serviceAccount
  deriving DecidableEq, Repr

/-- What a command line gives. -/
structure Arguments where
  spreadsheet : Option String := none
  outputDir : Option String := none
  range : Option String := none
  tabs : List String := []
  config : Option String := none
  auth : Option StrategyName := none
  clientSecrets : Option String := none
  serviceAccountKey : Option String := none
  clientId : Option String := none
  clientSecret : Option String := none
  refreshToken : Option String := none
  tokenCache : Option String := none
  noCache : Bool := false
  valueRender : Option ValueRender := none
  verbose : Bool := false
  deriving DecidableEq

/-- Why a command line asks for no export: it is not understood, or it asks
about the program. -/
inductive Usage where
  | wrong
  | help
  | version
  deriving DecidableEq, Repr

/-- An option. -/
inductive Opt where
  | valued (o : Valued)
  | flag (f : Flag)
  deriving DecidableEq, Repr

def longNames : List (String × Opt) :=
  [("output-dir", .valued .outputDir), ("range", .valued .range), ("tab", .valued .tab),
    ("config", .valued .config), ("auth", .valued .auth),
    ("client-secrets", .valued .clientSecrets),
    ("service-account-key", .valued .serviceAccountKey), ("client-id", .valued .clientId),
    ("client-secret", .valued .clientSecret), ("refresh-token", .valued .refreshToken),
    ("token-cache", .valued .tokenCache), ("value-render", .valued .valueRender),
    ("no-cache", .flag .noCache), ("verbose", .flag .verbose), ("help", .flag .help),
    ("version", .flag .version)]

def letters : List (Char × Opt) :=
  [('o', .valued .outputDir), ('r', .valued .range), ('t', .valued .tab), ('c', .valued .config),
    ('v', .flag .verbose), ('h', .flag .help), ('V', .flag .version)]

def strategyNames : List (String × StrategyName) :=
  [("interactive", .interactive), ("refresh-token", .refreshToken),
    ("service-account", .serviceAccount)]

namespace Arguments

def once {α : Type} (old : Option α) (new : α) : Except Usage (Option α) :=
  if old.isSome then .error .wrong else .ok (some new)

/-- A file or directory, which has a name. -/
def file (s : String) : Except Usage String := if s = "" then .error .wrong else .ok s

def named {α : Type} (names : List (String × α)) (s : String) : Except Usage α :=
  match names.lookup s with
  | some a => .ok a
  | none => .error .wrong

def addValue (a : Arguments) (o : Valued) (s : String) : Except Usage Arguments := do
  match o with
  | .outputDir => return { a with outputDir := ← once a.outputDir (← file s) }
  | .range => return { a with range := ← once a.range s }
  | .tab => return { a with tabs := a.tabs ++ [s] }
  | .config => return { a with config := ← once a.config (← file s) }
  | .auth => return { a with auth := ← once a.auth (← named strategyNames s) }
  | .clientSecrets => return { a with clientSecrets := ← once a.clientSecrets (← file s) }
  | .serviceAccountKey =>
    return { a with serviceAccountKey := ← once a.serviceAccountKey (← file s) }
  | .clientId => return { a with clientId := ← once a.clientId s }
  | .clientSecret => return { a with clientSecret := ← once a.clientSecret s }
  | .refreshToken => return { a with refreshToken := ← once a.refreshToken s }
  | .tokenCache => return { a with tokenCache := ← once a.tokenCache (← file s) }
  | .valueRender =>
    let v ← named (ValueRender.all.map fun v => (v.name, v)) s
    return { a with valueRender := ← once a.valueRender v }

def addFlag (a : Arguments) (f : Flag) : Except Usage Arguments :=
  match f with
  | .noCache => if a.noCache then .error .wrong else .ok { a with noCache := true }
  | .verbose => if a.verbose then .error .wrong else .ok { a with verbose := true }
  | .help => .error .help
  | .version => .error .version

def addSpreadsheet (a : Arguments) (s : String) : Except Usage Arguments := do
  return { a with spreadsheet := ← once a.spreadsheet s }

/-- What a word is: the end of the options, an option with or without a value of
its own, letters, or a value. -/
inductive Word where
  | endOfOptions
  | long (name : String) (value : Option String)
  | short (cs : List Char)
  | value (s : String)

def Word.ofString (s : String) : Word :=
  match s.toList with
  | ['-', '-'] => .endOfOptions
  | '-' :: '-' :: cs =>
    .long (String.ofList (cs.takeWhile (· ≠ '='))) <|
      match cs.dropWhile (· ≠ '=') with
      | [] => none
      | _ :: v => some (String.ofList v)
  | '-' :: c :: cs => .short (c :: cs)
  | _ => .value s

/-- The arguments with the options that letters stand for, and the option that
still lacks its value. -/
def addLetters : Arguments → List Char → Except Usage (Arguments × Option Valued)
  | a, [] => .ok (a, none)
  | a, c :: cs =>
    match letters.lookup c with
    | none => .error .wrong
    | some (.flag f) => do addLetters (← a.addFlag f) cs
    | some (.valued o) =>
      match cs with
      | [] => .ok (a, some o)
      | '=' :: v => do return (← a.addValue o (String.ofList v), none)
      | v => do return (← a.addValue o (String.ofList v), none)

/-- Reads words; an option may still lack its value. -/
def read : Arguments → Option Valued → List String → Except Usage Arguments
  | a, none, [] => .ok a
  | _, some _, [] => .error .wrong
  | a, waiting, w :: ws =>
    match Word.ofString w, waiting with
    | .value s, some o => do read (← a.addValue o s) none ws
    | .value s, none => do read (← a.addSpreadsheet s) none ws
    | _, some _ => .error .wrong
    | .endOfOptions, none => ws.foldlM addSpreadsheet a
    | .long name value, none =>
      match longNames.lookup name, value with
      | some (.flag f), none => do read (← a.addFlag f) none ws
      | some (.valued o), some v => do read (← a.addValue o v) none ws
      | some (.valued o), none => read a (some o) ws
      | _, _ => .error .wrong
    | .short cs, none => do
      let (a, waiting) ← a.addLetters cs
      read a waiting ws

/-- What the environment gives where the words do not. -/
def withEnvironment (a : Arguments) (env : List (String × String)) : Arguments :=
  { a with
    spreadsheet := a.spreadsheet <|> env.lookup "TABDUMP_SPREADSHEET_ID"
    clientId := a.clientId <|> env.lookup "TABDUMP_CLIENT_ID"
    clientSecret := a.clientSecret <|> env.lookup "TABDUMP_CLIENT_SECRET"
    refreshToken := a.refreshToken <|> env.lookup "TABDUMP_REFRESH_TOKEN" }

/-- The arguments that words and environment give. A cache and no cache exclude
each other. -/
def parse (words : List String) (env : List (String × String)) : Except Usage Arguments := do
  let a ← read {} none words
  if a.noCache && a.tokenCache.isSome then throw .wrong
  return a.withEnvironment env

end Arguments

end SheetExport.CommandLine

/-!
## Settings from the command line

What the command line gives goes before what the settings file gives. A
`Complaint` is what the user is told when a run fails: the words and the causes.
-/

namespace SheetExport.CommandLine

/-- What the user is told when a run fails. -/
structure Complaint where
  words : String
  causes : List String := []
  deriving DecidableEq, Repr

namespace Complaint

def ofFailure (words : String) (f : Failure) : Complaint := ⟨words, f.message :: f.cause?.toList⟩

def causeText (number : Option Nat) (words : String) : String :=
  let lines := (Text.pieces (· == '\n') words.toList).map String.ofList
  match number with
  | some n =>
    let shown := toString n
    String.ofList (List.replicate (5 - shown.length) ' ') ++ shown ++ ": " ++
      String.intercalate "\n       " lines
  | none => "    " ++ String.intercalate "\n    " lines

def text (c : Complaint) : String :=
  "Error: " ++ c.words ++
    match c.causes with
    | [] => "\n"
    | [cause] => "\n\nCaused by:\n" ++ causeText none cause ++ "\n"
    | causes =>
      "\n\nCaused by:\n" ++
        String.intercalate "\n" (causes.zipIdx.map fun p => causeText (some p.2) p.1) ++ "\n"

end Complaint

namespace Arguments

def strategyName? (a : Arguments) : Option StrategyName :=
  a.auth <|>
    if a.serviceAccountKey.isSome then some .serviceAccount
    else if a.clientSecrets.isSome then some .interactive
    else if a.clientId.isSome && a.clientSecret.isSome && a.refreshToken.isSome then
      some .refreshToken
    else none

/-- The strategy of a name, if all it needs is given. -/
def strategy (a : Arguments) : StrategyName → Except Complaint AuthStrategy
  | .interactive => .ok (.interactive (a.clientSecrets.getD AuthStrategy.defaultClientSecrets))
  | .refreshToken =>
    match a.clientId, a.clientSecret, a.refreshToken with
    | some id, some secret, some token => .ok (.refreshToken id secret token none)
    | _, _, _ =>
      .error ⟨"--auth refresh-token needs TABDUMP_CLIENT_ID, TABDUMP_CLIENT_SECRET and " ++
        "TABDUMP_REFRESH_TOKEN", []⟩
  | .serviceAccount =>
    match a.serviceAccountKey with
    | some path => .ok (.serviceAccount path)
    | none => .error ⟨"--auth service-account needs --service-account-key <FILE>", []⟩

/-- The settings in the file that is named, or the standard ones. -/
def fileSettings (a : Arguments) (t : FileTree) : Except Complaint Settings :=
  match a.config with
  | none => .ok Settings.standard
  | some path => (Settings.ofFile t path).mapError (.ofFailure ("Failed to load config: " ++ path))

/-- Settings with what the command line gives, the strategy aside. -/
def override (a : Arguments) (s : Settings) : Settings :=
  { s with
    spreadsheetId := (a.spreadsheet <|> s.spreadsheetId).map SpreadsheetId.extract
    outputDir := a.outputDir.getD s.outputDir
    range := a.range.getD s.range
    tabs := if a.tabs = [] then s.tabs else a.tabs
    valueRender := a.valueRender.getD s.valueRender
    tokenCache := if a.noCache then none else a.tokenCache <|> s.tokenCache }

def settings (a : Arguments) (t : FileTree) : Except Complaint Settings := do
  let s := a.override (← a.fileSettings t)
  match a.strategyName? with
  | some name => return { s with auth := ← a.strategy name }
  | none => return s

end Arguments

end SheetExport.CommandLine

/-!
## Runs of the command line

A run exports what its arguments say and shows how it goes on, or says how a
spreadsheet is named if none is. It ends with a code: 0 for success, 1 for a
complaint, 2 for arguments that are not understood, 101 without a date.
-/

namespace SheetExport.CommandLine

/-- How a run ends: its code and what is told besides the printed lines. -/
structure Ending where
  code : Nat
  complaint : Option Complaint := none
  deriving DecidableEq, Repr

def guidance : List String :=
  ["Please set the spreadsheet ID!",
    "  1. Open your Google Sheet",
    "  2. Copy the ID from the URL (between /d/ and /edit)",
    "  3. Run tabdump <SPREADSHEET_ID> (or set TABDUMP_SPREADSHEET_ID)"]

def versionLine : String := "tabdump 0.1.0"

def usageLine : String := "Usage: tabdump [OPTIONS] [SPREADSHEET]"

def doneLine (s : Settings) (r : Export.Report) : String :=
  "\nDone: All sheets exported to directory: " ++ s.outputDir ++ " (" ++
    toString r.written.length ++ " written, " ++ toString r.skipped.length ++ " skipped)"

def withLines (w : World) (lines : List String) : World := { w with printed := w.printed ++ lines }

def runSettings (s : Settings) (w : World) : Ending × World :=
  let (r, after) := (Export.exportSpreadsheet s).run w
  let told := withLines after ((after.events.drop w.events.length).map Export.Event.line)
  match r with
  | .ok report => (⟨0, none⟩, withLines told [doneLine s report])
  | .error (.failure f) => (⟨1, some (.ofFailure "Export failed" f)⟩, told)
  | .error .overflow => (⟨101, none⟩, told)

def runArguments (a : Arguments) (w : World) : Ending × World :=
  match a.settings w.files with
  | .error c => (⟨1, some c⟩, w)
  | .ok s =>
    if s.effectiveId?.isNone then (⟨0, none⟩, withLines w guidance) else runSettings s w

/-- Does what words and environment say. -/
def run (words : List String) (env : List (String × String)) (w : World) : Ending × World :=
  match Arguments.parse words env with
  | .ok a => runArguments a w
  | .error .wrong => (⟨2, none⟩, w)
  | .error .help => (⟨0, none⟩, withLines w [usageLine])
  | .error .version => (⟨0, none⟩, withLines w [versionLine])

end SheetExport.CommandLine
