import SheetExport.Auth.Provider
import SheetExport.Proofs.Auth.Credentials
import SheetExport.Proofs.FileTree.Parent

/-!
# The token cache

A store gives back what was saved last, in a file as in memory.
-/

/-!
## Saving and loading

What was saved is loaded again, from a file and from memory. `Store.kept` is what
a store keeps in a world; worlds that agree on the file of the store, or on the
memory, keep the same.
-/

namespace SheetExport

open Auth (Credentials)

theorem Action.run_changeFiles (op : FileTree → Except FileFault FileTree) (w : World) :
    Effect.run (Action.changeFiles op) w = match op w.files with
      | .ok t => (.ok ⟨⟩, { w with files := t })
      | .error e => (.error (.failure (.io e)), w) := by
  simp only [Action.changeFiles, Effect.run_bind, Effect.run_get]
  cases op w.files <;> rfl

theorem Action.run_changeFiles_eq_ok {op : FileTree → Except FileFault FileTree} {w w' : World}
    {x : Unit} :
    Effect.run (Action.changeFiles op) w = (.ok x, w') ↔
      ∃ t, op w.files = .ok t ∧ w' = { w with files := t } := by
  rw [run_changeFiles]
  cases op w.files <;> simp [eq_comm]

theorem Action.run_alterFiles (op : FileTree → Except FileFault Unit × FileTree) (w : World) :
    Effect.run (Action.alterFiles op) w =
      ((op w.files).1.mapError fun e => .failure (.io e), { w with files := (op w.files).2 }) := by
  simp only [Action.alterFiles, Effect.run_bind, Effect.run_get, Effect.run_set]
  cases (op w.files).1 <;> rfl

theorem Action.run_alterFiles_eq_ok {op : FileTree → Except FileFault Unit × FileTree}
    {w w' : World} {x : Unit} :
    Effect.run (Action.alterFiles op) w = (.ok x, w') ↔
      ∃ t, FileTree.whole (op w.files) = .ok t ∧ w' = { w with files := t } := by
  rw [run_alterFiles]
  rcases op w.files with ⟨_ | _, t⟩ <;> simp [FileTree.whole, eq_comm]

namespace Auth.Store

variable {s : Store} {w w' : World} {c : Credentials}

/-- What a store keeps. -/
def kept (s : Store) (w : World) : Except Failure (Option Credentials) :=
  match s with
  | .file path => loadFile w.files path
  | .memory => .ok w.memory

theorem run_load (s : Store) (w : World) :
    Effect.run s.load w = ((s.kept w).mapError .failure, w) := by
  cases s with
  | file path =>
    simp only [load, Effect.run_bind, Effect.run_get, kept]
    cases loadFile w.files path <;> rfl
  | memory => rfl

/-- Two worlds have the same cache: the same memory, or the same text in the file. -/
def SameCache (s : Store) (w w' : World) : Prop :=
  match s with
  | .file path => w'.files.read path = w.files.read path
  | .memory => w'.memory = w.memory

theorem kept_eq (h : s.SameCache w w') : s.kept w' = s.kept w := by
  cases s with
  | file path =>
    simp only [SameCache] at h
    simp only [kept, loadFile, h]
  | memory =>
    simp only [SameCache] at h
    simp only [kept, h]

theorem loadFile_eq {t : FileTree} {path : String} (hc : c.Representable)
    (h : t.read path = .ok c.toJson.prettyText) : loadFile t path = .ok (some c) := by
  simp only [loadFile, h, Credentials.parseJson_prettyText hc]

theorem run_save_file_eq_ok {path : String} :
    Effect.run (Store.save (.file path) c) w = (.ok ⟨⟩, w') ↔
      ∃ t t' t'', w.files.makeParent path = .ok t ∧
        t.write path c.toJson.prettyText = .ok t' ∧ t'.setMode path privateMode = .ok t'' ∧
        w' = { w with files := t'' } := by
  simp only [save, Effect.run_bind_eq_ok, Action.run_alterFiles_eq_ok,
    Action.run_changeFiles_eq_ok]
  constructor
  · rintro ⟨-, -, ⟨t, hparent, rfl⟩, -, -, ⟨t', hwrite, rfl⟩, t'', hmode, rfl⟩
    exact ⟨t, t', t'', hparent, hwrite, hmode, rfl⟩
  · rintro ⟨t, t', t'', hparent, hwrite, hmode, rfl⟩
    exact ⟨⟨⟩, _, ⟨t, hparent, rfl⟩, ⟨⟩, _, ⟨t', hwrite, rfl⟩, t'', hmode, rfl⟩

/-- What was saved is kept, and nothing but the cache has changed. -/
theorem run_save_eq_ok (hc : c.Representable) (h : Effect.run (s.save c) w = (.ok ⟨⟩, w')) :
    s.kept w' = .ok (some c) ∧ w'.clock = w.clock ∧ w'.network = w.network := by
  cases s with
  | file path =>
    obtain ⟨t, t', t'', -, hwrite, hmode, rfl⟩ := run_save_file_eq_ok.1 h
    have hread := FileTree.read_setMode hmode (FileTree.read_write hwrite)
    exact ⟨loadFile_eq hc hread, rfl, rfl⟩
  | memory =>
    cases h
    exact ⟨rfl, rfl, rfl⟩

/-! ### Saving that succeeds -/

/-- A file can be saved in a directory that is there or can be created. -/
theorem exists_run_save_file {path text : String} {t u : FileTree}
    (hparent : w.files.makeParent path = .ok t) (hwrite : t.write path text = .ok u)
    (c : Credentials) : ∃ w', Effect.run (Store.save (.file path) c) w = (.ok ⟨⟩, w') := by
  obtain ⟨t', ht'⟩ := FileTree.exists_write_of_write hwrite c.toJson.prettyText
  obtain ⟨t'', ht''⟩ :=
    FileTree.exists_setMode_of_read (FileTree.read_write ht') Store.privateMode
  exact ⟨_, run_save_file_eq_ok.2 ⟨t, t', t'', hparent, ht', ht'', rfl⟩⟩

theorem read_of_loadFile {t : FileTree} {path : String} (h : loadFile t path = .ok (some c)) :
    ∃ text, t.read path = .ok text := by
  unfold loadFile at h
  split at h
  · cases h
  · cases h
  · next text ht => exact ⟨text, ht⟩

theorem run_save_of_loadFile {path : String} {k : Credentials}
    (h : loadFile w.files path = .ok (some k)) (c : Credentials) :
    ∃ p, w.files.Leads path p ∧ Effect.run (Store.save (.file path) c) w =
      (.ok ⟨⟩, { w with files := w.files.put p (.file c.toJson.prettyText privateMode) }) := by
  obtain ⟨text, hread⟩ := read_of_loadFile h
  obtain ⟨p, m, hleads, hp⟩ := FileTree.read_eq_ok.1 hread
  obtain ⟨u, hwrite, hmode⟩ := FileTree.write_setMode hleads hp c.toJson.prettyText privateMode
  exact ⟨p, hleads, run_save_file_eq_ok.2
    ⟨w.files, u, _, FileTree.makeParent_of_read hread, hwrite, hmode, rfl⟩⟩

theorem exists_run_save {k : Credentials} (h : s.kept w = .ok (some k)) (c : Credentials) :
    ∃ w', Effect.run (s.save c) w = (.ok ⟨⟩, w') := by
  cases s with
  | file path =>
    obtain ⟨p, -, hsave⟩ := run_save_of_loadFile h c
    exact ⟨_, hsave⟩
  | memory => exact ⟨_, rfl⟩

end Store

/-! ### A tree with a cache -/

/-- A tree where credentials are kept in a file, with other files. -/
def cachedTree (c : Credentials) (others : List (Place × Entry) := []) : FileTree :=
  { entries := (["token.json"], .file c.toJson.prettyText Store.privateMode) :: others }

theorem loadFile_cachedTree {c : Credentials} (hc : c.Representable)
    (others : List (Place × Entry)) :
    Store.loadFile (cachedTree c others) "token.json" = .ok (some c) := by
  have hread : (cachedTree c others).read "token.json" = .ok c.toJson.prettyText := rfl
  exact Store.loadFile_eq hc hread

end Auth

end SheetExport

/-!
## Operations on a cache

Saving and loading in any order give the answers of a single cell, `replay`: a
load gives what was saved last. A file does so as soon as it can be created, and
memory always does, so nobody can tell a file from memory: `file_answers_memory`.
-/

namespace SheetExport.Auth

/-- An operation on a cache. -/
inductive Operation where
  | save (c : Credentials)
  | load
  deriving DecidableEq

/-- What an operation answers. -/
inductive Answer where
  | saved
  | loaded (o : Option Credentials)
  deriving DecidableEq

/-- What operations answer where credentials are kept in a cell. -/
def replay : Option Credentials → List Operation → List Answer
  | _, [] => []
  | _, .save c :: ops => .saved :: replay (some c) ops
  | o, .load :: ops => .loaded o :: replay o ops

namespace Store

def perform (s : Store) : Operation → Action Answer
  | .save c => do
    s.save c
    return .saved
  | .load => return .loaded (← s.load)

def performAll (s : Store) (ops : List Operation) : Action (List Answer) := ops.mapM s.perform

variable {s : Store} {o : Option Credentials} {w v : World} {path : String}

/-- The store keeps credentials, or none, and others can be saved. -/
structure Ready (s : Store) (w : World) (o : Option Credentials) : Prop where
  kept : s.kept w = .ok o
  save : ∀ c, ∃ w', Effect.run (s.save c) w = (.ok ⟨⟩, w')

theorem Ready.run_save (h : s.Ready w o) {c : Credentials} (hc : c.Representable) :
    ∃ w', Effect.run (s.perform (.save c)) w = (.ok .saved, w') ∧ s.Ready w' (some c) := by
  obtain ⟨w', hsave⟩ := h.save c
  have hkept := (run_save_eq_ok hc hsave).1
  refine ⟨w', ?_, hkept, fun k => exists_run_save hkept k⟩
  rw [perform, Effect.run_bind, hsave]
  rfl

theorem Ready.run_load (h : s.Ready w o) :
    Effect.run (s.perform .load) w = (.ok (.loaded o), w) := by
  rw [perform, Effect.run_bind, Store.run_load, h.kept]
  rfl

/-- A store that is ready answers operations as a cell does. -/
theorem Ready.run_performAll (h : s.Ready w o) {ops : List Operation}
    (hops : ∀ c, .save c ∈ ops → c.Representable) :
    (Effect.run (s.performAll ops) w).1 = .ok (replay o ops) := by
  induction ops generalizing w o with
  | nil => rfl
  | cons op ops ih =>
    have hops' : ∀ c, .save c ∈ ops → c.Representable :=
      fun c hc => hops c (List.mem_cons_of_mem _ hc)
    -- the first operation leads to a store that is ready for the others
    obtain ⟨a, w', o', hop, hready, hreplay⟩ : ∃ a w' o',
        Effect.run (s.perform op) w = (.ok a, w') ∧ s.Ready w' o' ∧
        replay o (op :: ops) = a :: replay o' ops := by
      cases op with
      | save c =>
        obtain ⟨w', hrun, hready⟩ := h.run_save (hops c List.mem_cons_self)
        exact ⟨_, w', _, hrun, hready, rfl⟩
      | load => exact ⟨_, w, o, h.run_load, h, rfl⟩
    have hrest := ih hready hops'
    unfold performAll at hrest ⊢
    rw [List.mapM_cons, Effect.run_bind, hop, hreplay]
    simp only
    rw [Effect.run_bind]
    generalize Effect.run (ops.mapM s.perform) w' = y at hrest ⊢
    obtain ⟨r, u⟩ := y
    obtain rfl : r = .ok (replay o' ops) := hrest
    rfl

/-! ### A file in the place of memory -/

/-- Nothing is at a path yet, what is there on the way are directories, and a
file can be created. -/
structure Vacant (t : FileTree) (path : String) : Prop where
  missing : t.read path = .error .notFound
  creatable : ∃ u v, t.makeParent path = .ok u ∧ u.write path "" = .ok v

theorem Vacant.ready (h : Vacant w.files path) : (Store.file path).Ready w none := by
  obtain ⟨u, v, hparent, hwrite⟩ := h.creatable
  refine ⟨?_, exists_run_save_file hparent hwrite⟩
  simp only [kept, loadFile, h.missing]

theorem ready_memory (h : v.memory = none) : Store.memory.Ready v none :=
  ⟨by rw [kept, h], fun _ => ⟨_, rfl⟩⟩

/-- A file that is yet to be created answers every operation as empty memory
does: there is nothing to load before the first save, and the last one after. -/
theorem file_answers_memory (hw : Vacant w.files path) (hv : v.memory = none)
    {ops : List Operation} (hops : ∀ c, .save c ∈ ops → c.Representable) :
    (Effect.run ((Store.file path).performAll ops) w).1 = .ok (replay none ops) ∧
      (Effect.run (Store.memory.performAll ops) v).1 = .ok (replay none ops) :=
  ⟨hw.ready.run_performAll hops, (ready_memory hv).run_performAll hops⟩

/-- Credentials with an expiry in the year -1 and characters that are escaped. -/
def unusual : Credentials where
  accessToken := "a\"\\\n"
  refreshToken := some ""
  expiresAt := some ⟨-62190000000, 120000000⟩
  scopes := ["", "é"]

def emptyWorld : World where
  clock := ⟨0, 0⟩

theorem file_answers_memory_nested :
    Vacant emptyWorld.files "cache/token.json" ∧ unusual.Representable ∧
      (Effect.run ((Store.file "cache/token.json").performAll [.load, .save unusual, .load])
        emptyWorld).1 = .ok [.loaded none, .saved, .loaded (some unusual)] ∧
      (Effect.run (Store.memory.performAll [.load, .save unusual, .load]) emptyWorld).1 =
        .ok [.loaded none, .saved, .loaded (some unusual)] := by
  have hvacant : Vacant emptyWorld.files "cache/token.json" := ⟨rfl, _, _, rfl, rfl⟩
  have hc : unusual.Representable := by
    intro t ht
    obtain rfl : _ = t := Option.some.inj ht
    decide
  refine ⟨hvacant, hc, file_answers_memory hvacant rfl ?_⟩
  intro c hmem
  obtain rfl : c = unusual := by simpa using hmem
  exact hc

end Store

end SheetExport.Auth
