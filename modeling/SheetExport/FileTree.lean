import SheetExport.Text.Bytes

/-!
# File trees

A file tree maps places, lists of names from the root down, to directories and
text files, and has a working directory. Paths are texts as the operating
system reads them. `read`, `write`, `makeDir` and `createDirs` are the file
operations, each with the fault it meets. A fault leaves the tree as it was, but
for `createDirs`: the directories that were created before it stay.
-/

namespace SheetExport

/-- Why a file operation failed. -/
inductive FileFault where
  | notFound
  | alreadyThere
  | notDirectory
  | isDirectory
  | nameTooLong
  | nulInName
  | noParent
  | other (words : String)
  deriving DecidableEq, Repr

/-- The wording of a fault, with the operating system's number. -/
def FileFault.message : FileFault → String
  | .notFound => "No such file or directory (os error 2)"
  | .alreadyThere => "File exists (os error 17)"
  | .notDirectory => "Not a directory (os error 20)"
  | .isDirectory => "Is a directory (os error 21)"
  | .nameTooLong => "File name too long (os error 36)"
  | .nulInName => "file name contained an unexpected NUL byte"
  | .noParent => "failed to create whole tree"
  | .other words => words

/-- The names from the root down to a file or directory. -/
abbrev Place := List String

/-- What is at a place. Files hold text only. -/
inductive Entry where
  | dir
  | file (text : String) (mode : Nat)
  deriving DecidableEq, Repr

/-- Files and directories, and the directory where relative paths begin. Everything
may be read and written, and there is always room: no operation fails for want of a
permission or of space. -/
structure FileTree where
  entries : List (Place × Entry) := []
  home : Place := []
  deriving DecidableEq, Repr, Inhabited

namespace FileTree

/-! ## Places -/

/-- What is at a place; the root is always a directory. -/
def at? (t : FileTree) (p : Place) : Option Entry :=
  if p = [] then some .dir else t.entries.lookup p

/-- Puts an entry at a place in a list, in the place of one that is there. -/
def putEntry (p : Place) (e : Entry) : List (Place × Entry) → List (Place × Entry)
  | [] => [(p, e)]
  | (q, f) :: es => if p = q then (q, e) :: es else (q, f) :: putEntry p e es

def put (t : FileTree) (p : Place) (e : Entry) : FileTree :=
  { t with entries := putEntry p e t.entries }

theorem lookup_putEntry (p q : Place) (e : Entry) (es : List (Place × Entry)) :
    (putEntry p e es).lookup q = if q = p then some e else es.lookup q := by
  induction es with
  | nil =>
    by_cases h : q = p
    · simp [putEntry, h]
    · have : (q == p) = false := by simp [h]
      simp [putEntry, List.lookup_cons, h, this]
  | cons f es ih =>
    obtain ⟨r, f⟩ := f
    by_cases hp : p = r
    · subst hp
      by_cases h : q = p
      · simp [putEntry, h]
      · have : (q == p) = false := by simp [h]
        simp [putEntry, List.lookup_cons, h, this]
    · by_cases h : q = r
      · subst h
        have : ¬q = p := fun e => hp e.symm
        simp [putEntry, hp, this]
      · have : (q == r) = false := by simp [h]
        simp [putEntry, List.lookup_cons, hp, this, ih]

theorem at?_put {t : FileTree} {p : Place} (hp : p ≠ []) (e : Entry) (q : Place) :
    (t.put p e).at? q = if q = p then some e else t.at? q := by
  by_cases hq : q = []
  · subst hq
    simp [at?, Ne.symm hp]
  · simp [at?, put, hq, lookup_putEntry]

/-! ## Paths -/

def nameLimit : Nat := 255

def pathLimit : Nat := 4096

def parts (s : String) : List String := go [] s.toList
where
  go (acc : List Char) : List Char → List String
    | [] => [String.ofList acc.reverse]
    | c :: cs =>
      if c = '/' then String.ofList acc.reverse :: go [] cs else go (c :: acc) cs

/-- Goes down from a place: every part is a name in a directory, `.` for the
directory itself or `..` for the one above. -/
def walk (t : FileTree) : Place → List String → Except FileFault Place
  | p, [] => .ok p
  | p, c :: cs =>
    match t.at? p with
    | none => .error .notFound
    | some (.file _ _) => .error .notDirectory
    | some .dir =>
      if c = "." then t.walk p cs
      else if c = ".." then t.walk p.dropLast cs
      else if Text.Utf8.size c.toList ≤ nameLimit then t.walk (p ++ [c]) cs
      else .error .nameTooLong

/-- A path: whether it begins at the root, its parts, and whether it ends in a
slash. -/
structure Path where
  rooted : Bool
  names : List String
  slashed : Bool
  deriving DecidableEq, Repr

def Path.ofString (s : String) : Path :=
  ⟨s.toList.head? == some '/', (parts s).filter (· ≠ ""), s.toList.getLast? == some '/'⟩

/-- The place of a path. Nothing is said about what is there. -/
def locate (t : FileTree) (p : Path) : Except FileFault Place :=
  if p.rooted then t.walk [] p.names
  else if p.names = [] then .error .notFound
  else t.walk t.home p.names

def checked (s : String) : Except FileFault Path :=
  if s.toList.contains '\x00' then .error .nulInName
  else if pathLimit ≤ Text.Utf8.size s.toList then .error .nameTooLong
  else .ok (Path.ofString s)

/-! ## Operations -/

def read (t : FileTree) (s : String) : Except FileFault String := do
  let path ← checked s
  match t.at? (← t.locate path) with
  | none => .error .notFound
  | some .dir => .error .isDirectory
  | some (.file text _) => if path.slashed then .error .notDirectory else .ok text

/-- The permissions of a file that is created. -/
def defaultMode : Nat := 0o644

/-- Puts a text into a file, which is created if it is not there. -/
def write (t : FileTree) (s : String) (text : String) : Except FileFault FileTree := do
  let path ← checked s
  let p ← t.locate path
  match t.at? p with
  | some .dir => .error .isDirectory
  | some (.file _ mode) =>
    if path.slashed then .error .notDirectory else .ok (t.put p (.file text mode))
  | none =>
    if path.slashed then .error .isDirectory else .ok (t.put p (.file text defaultMode))

def setMode (t : FileTree) (s : String) (mode : Nat) : Except FileFault FileTree := do
  let p ← t.locate (← checked s)
  match t.at? p with
  | none => .error .notFound
  | some .dir => .ok t
  | some (.file text _) => .ok (t.put p (.file text mode))

def remove (t : FileTree) (s : String) : Except FileFault FileTree := do
  let p ← t.locate (← checked s)
  match t.at? p with
  | none => .error .notFound
  | some .dir => .error .isDirectory
  | some (.file _ _) => .ok { t with entries := t.entries.filter fun e => e.1 ≠ p }

def isDir (t : FileTree) (path : Path) : Bool :=
  match t.locate path with
  | .ok p => t.at? p == some .dir
  | .error _ => false

def makeDir (t : FileTree) (path : Path) : Except FileFault FileTree := do
  let p ← t.locate path
  match t.at? p with
  | none => .ok (t.put p .dir)
  | some _ => .error .alreadyThere

/-- The parts of a path that name directories, the innermost first. -/
def Path.inner (path : Path) : List String :=
  let names := match path.names with
    | [] => []
    | n :: ns => n :: ns.filter (· ≠ ".")
  (if path.rooted then names.filter (· ≠ ".") else names).reverse

/-- The tree after a change that may end early, if it did not. -/
def whole : Except FileFault Unit × FileTree → Except FileFault FileTree
  | (.ok (), t) => .ok t
  | (.error e, _) => .error e

/-- A directory that could not be created may be there. -/
def settle (t : FileTree) (path : Path) (e : FileFault) : Except FileFault Unit × FileTree :=
  (if t.isDir path then .ok () else .error e, t)

/-- Creates a directory, where what it is in is missing after an attempt to create
that. -/
def createAt (t : FileTree) (path : Path) (around : Except FileFault Unit × FileTree) :
    Except FileFault Unit × FileTree :=
  match t.makeDir path with
  | .ok t => (.ok (), t)
  | .error .notFound =>
    match around with
    | (.error e, t) => (.error e, t)
    | (.ok (), t) =>
      match t.makeDir path with
      | .ok t => (.ok (), t)
      | .error e => t.settle path e
  | .error e => t.settle path e

/-- Creates the directory whose parts are given innermost first, and those
around it that are missing. -/
def createDirsFrom (rooted : Bool) (t : FileTree) : List String → Except FileFault Unit × FileTree
  | [] => (.ok (), t)
  | n :: ns => t.createAt ⟨rooted, (n :: ns).reverse, false⟩ (createDirsFrom rooted t ns)

/-- Creates a directory and those around it that are missing. The path is taken as
it is written, so a directory that is missing is not created under a name with a
dot after it. What was created before a fault stays. -/
def createDirs (t : FileTree) (s : String) : Except FileFault Unit × FileTree :=
  if s = "" then (.ok (), t)
  else
    match checked s with
    | .error e => (.error e, t)
    | .ok path => t.createAt path (createDirsFrom path.rooted t path.inner.tail)

/-- The tree with a directory and those around it. -/
def makeDirs (t : FileTree) (s : String) : Except FileFault FileTree := whole (t.createDirs s)

/-- The path of the directory a path is in; a path of one name has the empty
one, and the root and the empty path have none. -/
def Path.parent? (path : Path) : Option Path :=
  match path.inner with
  | [] => none
  | _ :: outer => some ⟨path.rooted, outer.reverse, false⟩

def Path.text (path : Path) : String :=
  (if path.rooted then "/" else "") ++ String.intercalate "/" path.names

/-- Creates the directory that a path is in, if it names one. -/
def createParent (t : FileTree) (s : String) : Except FileFault Unit × FileTree :=
  match (Path.ofString s).parent? with
  | none => (.ok (), t)
  | some p => if p.text = "" then (.ok (), t) else t.createDirs p.text

/-- The tree with the directory that a path is in. -/
def makeParent (t : FileTree) (s : String) : Except FileFault FileTree := whole (t.createParent s)

/-- The path of a file in a directory. -/
def within (dir name : String) : String :=
  if dir = "" || dir.toList.getLast? = some '/' then dir ++ name else dir ++ "/" ++ name

end FileTree

end SheetExport
