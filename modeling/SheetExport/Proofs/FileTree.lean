import SheetExport.FileTree
import SheetExport.Proofs.Effect

/-!
# Files that were written

A text written to a path is read back from it, also after other files were
written: `read_write` and `read_write_of_apart`. Writing never turns a directory
into a file, so every path that led somewhere still leads there.
-/

namespace SheetExport.FileTree

variable {t u : FileTree} {p q : Place} {s text : String} {path : Path}

/-! ## Places of paths -/

theorem parts_go_append (acc cs ds : List Char) :
    parts.go acc (cs ++ '/' :: ds) = parts.go acc cs ++ parts.go [] ds := by
  induction cs generalizing acc with
  | nil => simp [parts.go]
  | cons c cs ih =>
    by_cases hc : c = '/'
    · simp [parts.go, hc, ih]
    · simp [parts.go, hc, ih]

theorem parts_go_of_notMem {cs : List Char} (h : '/' ∉ cs) (acc : List Char) :
    parts.go acc cs = [String.ofList (acc.reverse ++ cs)] := by
  induction cs generalizing acc with
  | nil => simp [parts.go]
  | cons c cs ih =>
    simp only [List.mem_cons, not_or] at h
    simp [parts.go, Ne.symm h.1, ih h.2]

theorem names_within {name : String} (h : '/' ∉ name.toList) (hne : name ≠ "") (dir : String) :
    (Path.ofString (within dir name)).names = (Path.ofString dir).names ++ [name] := by
  have hname : (parts.go [] name.toList).filter (· ≠ "") = [name] := by
    simp [parts_go_of_notMem h, hne]
  have hnil : (parts.go [] []).filter (· ≠ "") = [] := by simp [parts.go]
  simp only [Path.ofString, parts]
  unfold within
  split
  · next hd =>
    simp only [Bool.or_eq_true, decide_eq_true_eq] at hd
    rcases hd with rfl | hd
    · rw [String.empty_append, String.toList_empty, hnil, hname, List.nil_append]
    · obtain ⟨ds, hds⟩ := List.getLast?_eq_some_iff.1 hd
      rw [String.toList_append, hds, List.append_assoc, List.singleton_append, parts_go_append,
        parts_go_append, List.filter_append, List.filter_append, hname, hnil, List.append_nil]
  · have he : (dir ++ "/" ++ name).toList = dir.toList ++ '/' :: name.toList := by simp
    rw [he, parts_go_append, List.filter_append, hname]

theorem walk_cons_eq_ok {c : String} {cs : List String} :
    t.walk p (c :: cs) = .ok q ↔ ∃ r, t.walk p [c] = .ok r ∧ t.walk r cs = .ok q := by
  simp only [walk]
  split
  · simp
  · simp
  · split
    · simp
    split
    · simp
    split <;> simp

theorem walk_append_eq_ok {cs ds : List String} :
    t.walk p (cs ++ ds) = .ok q ↔ ∃ r, t.walk p cs = .ok r ∧ t.walk r ds = .ok q := by
  induction cs generalizing p with
  | nil => simp [walk]
  | cons c cs ih =>
    rw [List.cons_append, walk_cons_eq_ok]
    constructor
    · rintro ⟨r, hr, hw⟩
      obtain ⟨r', hr', hw'⟩ := ih.1 hw
      exact ⟨r', walk_cons_eq_ok.2 ⟨r, hr, hr'⟩, hw'⟩
    · rintro ⟨r', hcs, hw⟩
      obtain ⟨r, hr, hr'⟩ := walk_cons_eq_ok.1 hcs
      exact ⟨r, hr, ih.2 ⟨r', hr', hw⟩⟩

theorem dir_of_walk_singleton {c : String} (h : t.walk p [c] = .ok q) : t.at? p = some .dir := by
  simp only [walk] at h
  split at h
  · cases h
  · cases h
  · next hp => exact hp

theorem walk_singleton {c : String} (h1 : c ≠ ".") (h2 : c ≠ "..") (h : t.walk p [c] = .ok q) :
    q = p ++ [c] := by
  simp only [walk, dir_of_walk_singleton h, h1, h2, if_false] at h
  split at h
  · exact (Except.ok.inj h).symm
  · cases h

/-- Where relative paths begin, or the root. -/
def start (t : FileTree) (rooted : Bool) : Place := if rooted then [] else t.home

theorem locate_eq_ok :
    t.locate path = .ok p ↔
      (path.rooted = true ∨ path.names ≠ []) ∧ t.walk (t.start path.rooted) path.names = .ok p := by
  unfold locate start
  by_cases hr : path.rooted = true
  · simp [hr]
  · by_cases hn : path.names = []
    · simp [hr, hn]
    · simp [hr, hn]

/-- What a path leads to is in the directory that the names before its last lead
to, and is called by the last. -/
theorem exists_dir_of_locate {path : Path} {names : List String} {c : String}
    (hn : path.names = names ++ [c]) (h1 : c ≠ ".") (h2 : c ≠ "..")
    (h : t.locate path = .ok p) :
    ∃ d, t.walk (t.start path.rooted) names = .ok d ∧ p = d ++ [c] := by
  have hw := (locate_eq_ok.1 h).2
  rw [hn] at hw
  obtain ⟨d, hd, hlast⟩ := walk_append_eq_ok.1 hw
  exact ⟨d, hd, walk_singleton h1 h2 hlast⟩

/-! ## Directories that stay -/

/-- Every directory of one tree is one of the other, and both begin at home. -/
structure DirsStay (t u : FileTree) : Prop where
  home : u.home = t.home
  dir : ∀ p, t.at? p = some .dir → u.at? p = some .dir

theorem DirsStay.walk (h : DirsStay t u) {cs : List String} (hw : t.walk p cs = .ok q) :
    u.walk p cs = .ok q := by
  induction cs generalizing p with
  | nil => simpa [FileTree.walk] using hw
  | cons c cs ih =>
    obtain ⟨r, hr, hrest⟩ := walk_cons_eq_ok.1 hw
    have hp := dir_of_walk_singleton hr
    refine walk_cons_eq_ok.2 ⟨r, ?_, ih hrest⟩
    simp only [FileTree.walk, hp] at hr
    simp only [FileTree.walk, h.dir p hp]
    exact hr

theorem DirsStay.locate (h : DirsStay t u) {path : Path} (hl : t.locate path = .ok p) :
    u.locate path = .ok p := by
  unfold FileTree.locate at hl ⊢
  split at hl
  · next hr => rw [if_pos hr]; exact h.walk hl
  · next hr =>
    rw [if_neg hr]
    split at hl
    · cases hl
    · next hn => rw [if_neg hn, h.home]; exact h.walk hl

theorem DirsStay.refl (t : FileTree) : DirsStay t t := ⟨rfl, fun _ h => h⟩

theorem DirsStay.trans {v : FileTree} (h : DirsStay t u) (h' : DirsStay u v) : DirsStay t v where
  home := h'.home.trans h.home
  dir p hp := h'.dir p (h.dir p hp)

theorem dirsStay_put {e : Entry} (hp : t.at? p ≠ some .dir) : DirsStay t (t.put p e) := by
  refine ⟨rfl, fun q hq => ?_⟩
  have hne : p ≠ [] := fun e => hp (by simp [e, at?])
  rw [at?_put hne]
  split
  · next e => exact absurd (e ▸ hq) hp
  · exact hq

/-! ## Reading and writing -/

theorem checked_eq_ok (h : checked s = .ok path) : path = Path.ofString s := by
  unfold checked at h
  split at h
  · cases h
  split at h
  · cases h
  · exact (Except.ok.inj h).symm

/-- A text is accepted as the path of a file at a place. -/
def Leads (t : FileTree) (s : String) (p : Place) : Prop :=
  ∃ path, checked s = .ok path ∧ path.slashed = false ∧ t.locate path = .ok p

theorem Leads.mono (hd : DirsStay t u) (h : t.Leads s p) : u.Leads s p := by
  obtain ⟨path, hc, hs, hl⟩ := h
  exact ⟨path, hc, hs, hd.locate hl⟩

theorem read_eq_ok :
    t.read s = .ok text ↔ ∃ p mode, t.Leads s p ∧ t.at? p = some (.file text mode) := by
  unfold read Leads
  simp only [Except.bind_eq_ok]
  constructor
  · rintro ⟨path, hc, p, hl, h⟩
    split at h
    · cases h
    · cases h
    · next x mode ha =>
      split at h
      · cases h
      · next hs =>
        cases h
        exact ⟨p, mode, ⟨path, hc, by simpa using hs, hl⟩, ha⟩
  · rintro ⟨p, mode, ⟨path, hc, hs, hl⟩, ha⟩
    exact ⟨path, hc, p, hl, by simp [ha, hs]⟩

theorem write_ok (h : t.write s text = .ok u) :
    ∃ p mode, t.Leads s p ∧ t.at? p ≠ some .dir ∧ u = t.put p (.file text mode) := by
  unfold write at h
  simp only [Except.bind_eq_ok] at h
  obtain ⟨path, hc, p, hl, h⟩ := h
  split at h
  · cases h
  · next x mode ha =>
    split at h
    · cases h
    · next hs =>
      cases h
      exact ⟨p, mode, ⟨path, hc, by simpa using hs, hl⟩, by simp [ha], rfl⟩
  · next ha =>
    split at h
    · cases h
    · next hs =>
      cases h
      exact ⟨p, defaultMode, ⟨path, hc, by simpa using hs, hl⟩, by simp [ha], rfl⟩

theorem dirsStay_write (h : t.write s text = .ok u) : DirsStay t u := by
  obtain ⟨p, mode, -, hp, rfl⟩ := write_ok h
  exact dirsStay_put hp

/-- A text that was written is read back. -/
theorem read_write (h : t.write s text = .ok u) : u.read s = .ok text := by
  have hd := dirsStay_write h
  obtain ⟨p, mode, hl, hp, rfl⟩ := write_ok h
  have hne : p ≠ [] := fun e => hp (by simp [e, at?])
  exact read_eq_ok.2 ⟨p, mode, hl.mono hd, by rw [at?_put hne, if_pos rfl]⟩

theorem read_setMode {s' x : String} {mode : Nat} (h : t.setMode s mode = .ok u)
    (hr : t.read s' = .ok x) : u.read s' = .ok x := by
  unfold setMode at h
  simp only [Except.bind_eq_ok] at h
  obtain ⟨-, -, p, -, h⟩ := h
  split at h
  · cases h
  · cases h
    exact hr
  · next y m ha =>
    cases h
    have hp : t.at? p ≠ some .dir := by simp [ha]
    have hne : p ≠ [] := fun e => hp (by simp [e, at?])
    obtain ⟨p', m', hl, hf⟩ := read_eq_ok.1 hr
    by_cases hpp : p' = p
    · subst hpp
      obtain ⟨rfl, -⟩ : x = y ∧ m' = m := by simpa [ha] using hf.symm
      exact read_eq_ok.2 ⟨p', mode, hl.mono (dirsStay_put hp), by rw [at?_put hne, if_pos rfl]⟩
    · refine read_eq_ok.2 ⟨p', m', hl.mono (dirsStay_put hp), ?_⟩
      rw [at?_put hne, if_neg hpp, hf]

/-- Two texts never lead to the same place. -/
def Apart (s s' : String) : Prop :=
  ∀ (t : FileTree) (p p' : Place), t.Leads s p → t.Leads s' p' → p ≠ p'

/-- Writing one file leaves another one as it is. -/
theorem read_write_of_apart {s' x : String} (h : t.write s text = .ok u) (ha : Apart s s')
    (hr : t.read s' = .ok x) : u.read s' = .ok x := by
  have hd := dirsStay_write h
  obtain ⟨p, mode, hl, hp, rfl⟩ := write_ok h
  obtain ⟨p', mode', hl', hp'⟩ := read_eq_ok.1 hr
  have hne : p ≠ [] := fun e => hp (by simp [e, at?])
  refine read_eq_ok.2 ⟨p', mode', hl'.mono hd, ?_⟩
  rw [at?_put hne, if_neg (ha t p p' hl hl').symm, hp']

/-! ## Files that are there -/

theorem putEntry_putEntry (p : Place) (e f : Entry) (es : List (Place × Entry)) :
    putEntry p f (putEntry p e es) = putEntry p f es := by
  induction es with
  | nil => simp [putEntry]
  | cons d es ih =>
    obtain ⟨q, d⟩ := d
    by_cases hp : p = q
    · simp [putEntry, hp]
    · simp [putEntry, hp, ih]

theorem put_put (t : FileTree) (p : Place) (e f : Entry) : (t.put p e).put p f = t.put p f := by
  simp only [put, putEntry_putEntry]

/-- Where the names of a path lead says no more of a tree than that there are
directories on the way. -/
theorem walk_unique {cs : List String} {r : Place} (h : t.walk p cs = .ok q)
    (h' : u.walk p cs = .ok r) : r = q := by
  induction cs generalizing p with
  | nil =>
    cases h
    cases h'
    rfl
  | cons c cs ih =>
    obtain ⟨m, hm, hrest⟩ := walk_cons_eq_ok.1 h
    obtain ⟨m', hm', hrest'⟩ := walk_cons_eq_ok.1 h'
    have hstep : u.walk p [c] = t.walk p [c] := by
      simp only [walk, dir_of_walk_singleton hm, dir_of_walk_singleton hm']
    obtain rfl : m' = m := by simpa [hstep, hm] using hm'.symm
    exact ih hrest hrest'

theorem Leads.unique (hhome : u.home = t.home) (h : t.Leads s p) (h' : u.Leads s q) : q = p := by
  obtain ⟨path, hc, -, hl⟩ := h
  obtain ⟨path', hc', -, hl'⟩ := h'
  obtain rfl : path' = path := Except.ok.inj (hc'.symm.trans hc)
  have hw := (locate_eq_ok.1 hl).2
  have hw' := (locate_eq_ok.1 hl').2
  rw [start, hhome] at hw'
  exact walk_unique hw hw'

theorem write_of_file (h : t.Leads s p) {x : String} {m : Nat} (hp : t.at? p = some (.file x m))
    (text : String) : t.write s text = .ok (t.put p (.file text m)) := by
  obtain ⟨path, hc, hs, hl⟩ := h
  simp [write, hc, hl, hp, hs, bind, Except.bind]

theorem write_setMode (h : t.Leads s p) {x : String} {m : Nat} (hp : t.at? p = some (.file x m))
    (text : String) (mode : Nat) :
    ∃ u, t.write s text = .ok u ∧ u.setMode s mode = .ok (t.put p (.file text mode)) := by
  have hdir : t.at? p ≠ some .dir := by simp [hp]
  have hne : p ≠ [] := fun e => hdir (by simp [e, at?])
  refine ⟨t.put p (.file text m), write_of_file h hp text, ?_⟩
  obtain ⟨path, hc, -, hl⟩ := h.mono (dirsStay_put (e := .file text m) hdir)
  simp [setMode, hc, hl, at?_put hne, put_put, bind, Except.bind]

/-! ## Many files -/

def writeAll (t : FileTree) (ws : List (String × String)) : Except FileFault FileTree :=
  ws.foldlM (fun t w => t.write w.1 w.2) t

theorem writeAll_cons {w : String × String} {ws : List (String × String)} :
    t.writeAll (w :: ws) = .ok u ↔ ∃ v, t.write w.1 w.2 = .ok v ∧ v.writeAll ws = .ok u := by
  rw [writeAll, List.foldlM_cons, Except.bind_eq_ok]
  rfl

theorem read_writeAll_of_apart {ws : List (String × String)} {x : String}
    (h : t.writeAll ws = .ok u) (ha : ∀ w ∈ ws, Apart w.1 s) (hr : t.read s = .ok x) :
    u.read s = .ok x := by
  induction ws generalizing t with
  | nil => cases h; exact hr
  | cons w ws ih =>
    obtain ⟨v, hw, h⟩ := writeAll_cons.1 h
    have hv := read_write_of_apart hw (ha w List.mem_cons_self) hr
    exact ih h (fun w' hw' => ha w' (List.mem_cons_of_mem _ hw')) hv

theorem read_writeAll {ws : List (String × String)} (h : t.writeAll ws = .ok u)
    (ha : ∀ w ∈ ws, w.1 ≠ s → Apart w.1 s) (hl : ws.reverse.lookup s = some text) :
    u.read s = .ok text := by
  induction ws generalizing t with
  | nil => simp at hl
  | cons w ws ih =>
    obtain ⟨v, hw, hrest⟩ := writeAll_cons.1 h
    have ha' : ∀ w' ∈ ws, w'.1 ≠ s → Apart w'.1 s :=
      fun w' hw' => ha w' (List.mem_cons_of_mem _ hw')
    rw [List.reverse_cons, List.lookup_append] at hl
    cases hlast : ws.reverse.lookup s with
    | some y => exact ih hrest ha' (by simpa [hlast] using hl)
    | none =>
      -- no later write to this path: the first one stays
      have hne : ∀ w' ∈ ws, w'.1 ≠ s := by
        intro w' hw' e
        have := List.lookup_eq_none_iff.1 hlast w' (List.mem_reverse.2 hw')
        simp [e] at this
      obtain ⟨path, x⟩ := w
      by_cases e : s = path
      · subst e
        obtain rfl : x = text := by simpa [hlast] using hl
        exact read_writeAll_of_apart hrest (fun w' hw' => ha' w' hw' (hne w' hw')) (read_write hw)
      · have : (s == path) = false := by simp [e]
        simp [hlast, List.lookup_cons, this] at hl

end SheetExport.FileTree
