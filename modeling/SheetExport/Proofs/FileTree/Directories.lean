import SheetExport.Proofs.FileTree
import SheetExport.Proofs.FileTree.Parent

/-!
# Trees before and after changes

What creating a directory may change, what trees have in common that differ in some
files, and changes that are made twice.
-/

/-!
## Directories that are created

Creating a directory changes nothing but places where nothing was: the place of
the directory and those of directories around it. `grown_createDirs` says so
whether the directory could be created or not.
-/

namespace SheetExport.FileTree

variable {t u v : FileTree} {p : Place} {s : String} {path : Path} {rooted : Bool}
  {ns ms : List String}

/-! ### Places of parts -/

/-- The parts of a path, innermost first, lead to a place. -/
def Reaches (t : FileTree) (rooted : Bool) (ns : List String) (p : Place) : Prop :=
  t.walk (t.start rooted) ns.reverse = .ok p

theorem Reaches.mono (hd : DirsStay t u) (h : t.Reaches rooted ns p) : u.Reaches rooted ns p := by
  have hstart : u.start rooted = t.start rooted := by simp only [start, hd.home]
  rw [Reaches, hstart]
  exact hd.walk h

theorem ne_nil_of_at? {o : Option Entry} (h : t.at? p = o) (ho : o ≠ some .dir) : p ≠ [] := by
  rintro rfl
  exact ho h.symm

theorem makeDir_eq_ok :
    t.makeDir path = .ok u ↔ ∃ p, t.locate path = .ok p ∧ t.at? p = none ∧ u = t.put p .dir := by
  simp only [makeDir, Except.bind_eq_ok]
  refine exists_congr fun p => and_congr_right fun _ => ?_
  cases t.at? p with
  | none => simp [eq_comm]
  | some e => simp

/-! ### Growth -/

/-- Between two trees only directories were created: the one that parts lead to,
innermost first, and those around it. -/
structure Grown (rooted : Bool) (ns : List String) (t u : FileTree) : Prop where
  stay : DirsStay t u
  created : ∀ p, u.at? p = t.at? p ∨ t.at? p = none ∧ u.at? p = some .dir ∧
    ∃ ms, ms ≠ [] ∧ ms <:+ ns ∧ u.Reaches rooted ms p

theorem Grown.refl (rooted : Bool) (ns : List String) (t : FileTree) : Grown rooted ns t t :=
  ⟨.refl t, fun _ => .inl rfl⟩

theorem Grown.trans (h : Grown rooted ns t u) (h' : Grown rooted ns u v) : Grown rooted ns t v where
  stay := h.stay.trans h'.stay
  created p := by
    obtain hp | ⟨hnone, hdir, ms, hms, hsuffix, hreach⟩ := h.created p
    · rw [← hp]
      exact h'.created p
    · exact .inr ⟨hnone, h'.stay.dir p hdir, ms, hms, hsuffix, hreach.mono h'.stay⟩

theorem Grown.mono (h : Grown rooted ms t u) (hsuffix : ms <:+ ns) : Grown rooted ns t u where
  stay := h.stay
  created p := (h.created p).imp_right fun ⟨hnone, hdir, ks, hks, hk, hreach⟩ =>
    ⟨hnone, hdir, ks, hks, hk.trans hsuffix, hreach⟩

/-- Whatever a path creates is where parts lead, innermost first. -/
def Path.Creates (path : Path) (rooted : Bool) (ns : List String) : Prop :=
  ∀ t p, locate t path = .ok p → at? t p = none → ns ≠ [] ∧ Reaches t rooted ns p

theorem Path.creates_reverse (rooted : Bool) (n : String) (ns : List String) :
    Path.Creates ⟨rooted, (n :: ns).reverse, false⟩ rooted (n :: ns) :=
  fun _ _ hl _ => ⟨by simp, (locate_eq_ok.1 hl).2⟩

theorem Path.creates_inner (path : Path) : path.Creates path.rooted path.inner := by
  intro t p hl hnone
  obtain ⟨hstart, hw⟩ := locate_eq_ok.1 hl
  have hreach : Reaches t path.rooted path.inner p := walk_inner hw
  refine ⟨fun hinner => ?_, hreach⟩
  -- no parts lead to the root, where a directory is, or to no place
  cases hr : path.rooted with
  | true =>
    rw [Reaches, hinner, hr] at hreach
    cases hreach
    cases hnone
  | false =>
    obtain ⟨n, ns, hn⟩ := List.exists_cons_of_ne_nil (hstart.resolve_left (by simp [hr]))
    simp [Path.inner, hn, hr] at hinner

theorem grown_makeDir (hpath : path.Creates rooted ns) (h : t.makeDir path = .ok u) :
    Grown rooted ns t u := by
  obtain ⟨p, hl, hnone, rfl⟩ := makeDir_eq_ok.1 h
  obtain ⟨hns, hreach⟩ := hpath t p hl hnone
  have hp : p ≠ [] := ne_nil_of_at? hnone (by simp)
  have hstay : DirsStay t (t.put p .dir) := dirsStay_put (by simp [hnone])
  refine ⟨hstay, fun q => ?_⟩
  rw [at?_put hp]
  by_cases hq : q = p
  · subst hq
    exact .inr ⟨hnone, if_pos rfl, ns, hns, List.suffix_rfl, hreach.mono hstay⟩
  · exact .inl (if_neg hq)

theorem grown_createAt (hpath : path.Creates rooted ns) {x : Except FileFault Unit × FileTree}
    (hx : Grown rooted ns t x.2) : Grown rooted ns t (t.createAt path x).2 := by
  unfold createAt
  split
  · next u hmake => exact grown_makeDir hpath hmake
  · -- what it is in is missing: that was created first
    obtain ⟨e | ⟨⟩, u⟩ := x
    · exact hx
    · simp only
      split
      · next v hmake => exact hx.trans (grown_makeDir hpath hmake)
      · exact hx
  · exact .refl _ _ _

theorem grown_createDirsFrom (rooted : Bool) (t : FileTree) (ns : List String) :
    Grown rooted ns t (createDirsFrom rooted t ns).2 := by
  induction ns with
  | nil => exact .refl rooted [] t
  | cons n ns ih =>
    exact grown_createAt (Path.creates_reverse rooted n ns) (ih.mono (List.suffix_cons n ns))

/-- Creating a directory creates it and those around it, as far as it goes. -/
theorem grown_createDirs (t : FileTree) (s : String) :
    Grown (Path.ofString s).rooted (Path.ofString s).inner t (t.createDirs s).2 := by
  unfold createDirs
  split
  · exact .refl _ _ _
  split
  · exact .refl _ _ _
  · next path hc =>
    rw [checked_eq_ok hc]
    have haround := grown_createDirsFrom (Path.ofString s).rooted t (Path.ofString s).inner.tail
    exact grown_createAt (Path.creates_inner _) (haround.mono (List.tail_suffix _))

end SheetExport.FileTree

/-!
## Trees that agree but for some files

Trees that differ only in what some files hold are read, written and grown alike:
paths lead to the same places in them, and operations end with the same fault or
with such trees again.
-/

namespace SheetExport.FileTree

variable {P : Place → Prop} {t u : FileTree} {p : Place}

/-- There is a file at a place. -/
def IsFile (t : FileTree) (p : Place) : Prop := ∃ text mode, t.at? p = some (.file text mode)

/-- Two trees agree but for files at some places. -/
structure Alike (P : Place → Prop) (t u : FileTree) : Prop where
  home : u.home = t.home
  entry : ∀ p, u.at? p = t.at? p ∨ P p ∧ t.IsFile p ∧ u.IsFile p

theorem Alike.cases (h : Alike P t u) (p : Place) :
    (t.at? p = none ∧ u.at? p = none) ∨ (t.at? p = some .dir ∧ u.at? p = some .dir) ∨
      ∃ x m y n, t.at? p = some (.file x m) ∧ u.at? p = some (.file y n) ∧ (m = n ∨ P p) := by
  obtain heq | ⟨hP, ⟨x, m, ht⟩, ⟨y, n, hu⟩⟩ := h.entry p
  · rw [heq]
    cases t.at? p with
    | none => exact .inl ⟨rfl, rfl⟩
    | some entry => cases entry with
      | dir => exact .inr (.inl ⟨rfl, rfl⟩)
      | file x m => exact .inr (.inr ⟨x, m, x, m, rfl, rfl, .inl rfl⟩)
  · exact .inr (.inr ⟨x, m, y, n, ht, hu, .inr hP⟩)

/-! ### Paths -/

theorem Alike.walk (h : Alike P t u) (p : Place) (cs : List String) :
    u.walk p cs = t.walk p cs := by
  induction cs generalizing p with
  | nil => rfl
  | cons c cs ih =>
    rw [FileTree.walk, FileTree.walk]
    obtain ⟨ht, hu⟩ | ⟨ht, hu⟩ | ⟨x, m, y, n, ht, hu, -⟩ := h.cases p
    · rw [ht, hu]
    · rw [ht, hu]
      simp only [ih]
    · rw [ht, hu]

theorem Alike.locate (h : Alike P t u) (path : Path) : u.locate path = t.locate path := by
  rw [FileTree.locate, FileTree.locate, h.home, h.walk, h.walk]

/-! ### Operations -/

/-- Two operations end with the same fault, or with trees that agree but for
files at some places. -/
def AlikeResults (P : Place → Prop) : Except FileFault FileTree → Except FileFault FileTree → Prop
  | .ok t, .ok u => Alike P t u
  | .error e, .error f => f = e
  | _, _ => False

theorem AlikeResults.cases {x y : Except FileFault FileTree} (h : AlikeResults P x y) :
    (∃ e, x = .error e ∧ y = .error e) ∨ ∃ t u, x = .ok t ∧ y = .ok u ∧ Alike P t u := by
  cases x with
  | error e =>
    cases y with
    | error f => exact .inl ⟨e, rfl, congrArg _ h⟩
    | ok u => exact h.elim
  | ok t =>
    cases y with
    | error f => exact h.elim
    | ok u => exact .inr ⟨t, u, rfl, rfl, h⟩

theorem Alike.put (h : Alike P t u) (hp : p ≠ []) (e : Entry) :
    Alike P (t.put p e) (u.put p e) := by
  refine ⟨h.home, fun q => ?_⟩
  unfold IsFile
  rw [at?_put hp, at?_put hp]
  by_cases hq : q = p
  · exact .inl (by rw [if_pos hq, if_pos hq])
  · rw [if_neg hq, if_neg hq]
    exact h.entry q

/-- The same text in a file, whose permissions may differ at some places. -/
theorem Alike.put_file (h : Alike P t u) (hp : p ≠ []) {m n : Nat} (hmode : m = n ∨ P p)
    (text : String) : Alike P (t.put p (.file text m)) (u.put p (.file text n)) := by
  obtain rfl | hP := hmode
  · exact h.put hp _
  · refine ⟨h.home, fun q => ?_⟩
    unfold IsFile
    rw [at?_put hp, at?_put hp]
    by_cases hq : q = p
    · rw [if_pos hq, if_pos hq]
      exact .inr ⟨hq ▸ hP, ⟨text, m, rfl⟩, ⟨text, n, rfl⟩⟩
    · rw [if_neg hq, if_neg hq]
      exact h.entry q

theorem Alike.write (h : Alike P t u) (s text : String) :
    AlikeResults P (t.write s text) (u.write s text) := by
  unfold FileTree.write
  cases checked s with
  | error e => rfl
  | ok path =>
    simp only [bind, Except.bind, h.locate]
    cases t.locate path with
    | error e => rfl
    | ok p =>
      simp only
      obtain ⟨ht, hu⟩ | ⟨ht, hu⟩ | ⟨x, m, y, n, ht, hu, hmode⟩ := h.cases p
      · rw [ht, hu]
        cases path.slashed with
        | true => rfl
        | false => exact h.put (ne_nil_of_at? ht (by simp)) _
      · rw [ht, hu]
        rfl
      · rw [ht, hu]
        cases path.slashed with
        | true => rfl
        | false => exact h.put_file (ne_nil_of_at? ht (by simp)) hmode text

theorem Alike.makeDir (h : Alike P t u) (path : Path) :
    AlikeResults P (t.makeDir path) (u.makeDir path) := by
  unfold FileTree.makeDir
  simp only [bind, Except.bind, h.locate]
  cases t.locate path with
  | error e => rfl
  | ok p =>
    simp only
    obtain ⟨ht, hu⟩ | ⟨ht, hu⟩ | ⟨x, m, y, n, ht, hu, -⟩ := h.cases p
    · rw [ht, hu]
      exact h.put (ne_nil_of_at? ht (by simp)) .dir
    · rw [ht, hu]
      rfl
    · rw [ht, hu]
      rfl

theorem Alike.isDir (h : Alike P t u) (path : Path) : u.isDir path = t.isDir path := by
  rw [FileTree.isDir, FileTree.isDir, h.locate]
  cases t.locate path with
  | error e => rfl
  | ok p =>
    simp only
    obtain ⟨ht, hu⟩ | ⟨ht, hu⟩ | ⟨x, m, y, n, ht, hu, -⟩ := h.cases p
    · rw [ht, hu]
    · rw [ht, hu]
    · rw [ht, hu]
      rfl

theorem Alike.settle (h : Alike P t u) (path : Path) (e : FileFault) :
    Effect.Agree (Alike P) (t.settle path e) (u.settle path e) := by
  rw [FileTree.settle, FileTree.settle, h.isDir]
  exact ⟨rfl, h⟩

theorem Alike.createAt (h : Alike P t u) (path : Path)
    {x y : Except FileFault Unit × FileTree} (hxy : Effect.Agree (Alike P) x y) :
    Effect.Agree (Alike P) (t.createAt path x) (u.createAt path y) := by
  unfold FileTree.createAt
  obtain ⟨e, ht, hu⟩ | ⟨t', u', ht, hu, h'⟩ := (h.makeDir path).cases
  · rw [ht, hu]
    cases e with
    | notFound =>
      -- what it is in is missing: that was created first
      obtain ⟨r, t', u', rfl, rfl, h'⟩ := hxy.cases
      cases r with
      | error e => exact ⟨rfl, h'⟩
      | ok _ =>
        simp only
        obtain ⟨e, ht, hu⟩ | ⟨t'', u'', ht, hu, h''⟩ := (h'.makeDir path).cases
        · rw [ht, hu]
          exact h'.settle _ _
        · rw [ht, hu]
          exact ⟨rfl, h''⟩
    | _ => exact h.settle _ _
  · rw [ht, hu]
    exact ⟨rfl, h'⟩

theorem Alike.createDirsFrom (h : Alike P t u) (rooted : Bool) (ns : List String) :
    Effect.Agree (Alike P) (createDirsFrom rooted t ns) (createDirsFrom rooted u ns) := by
  induction ns with
  | nil => exact ⟨rfl, h⟩
  | cons n ns ih => exact h.createAt _ ih

theorem Alike.createDirs (h : Alike P t u) (s : String) :
    Effect.Agree (Alike P) (t.createDirs s) (u.createDirs s) := by
  unfold FileTree.createDirs
  split
  · exact ⟨rfl, h⟩
  · cases checked s with
    | error e => exact ⟨rfl, h⟩
    | ok path => exact h.createAt path (h.createDirsFrom _ _)

end SheetExport.FileTree

/-!
## Changes that are made again

Writes that went well are repeated on the tree that they left without changing
it, whichever of them share a file: `writeAll_again`. A directory that was
created is found by every later attempt to create it: `createDirs_again`.
-/

namespace SheetExport.FileTree

variable {t u v : FileTree} {p q : Place} {e f : Entry} {s text : String} {path : Path}
  {ws : List (String × String)}

/-! ### Entries -/

theorem putEntry_self {es : List (Place × Entry)} (h : es.lookup p = some e) :
    putEntry p e es = es := by
  induction es with
  | nil => cases h
  | cons d es ih =>
    obtain ⟨q, d⟩ := d
    by_cases hq : p = q
    · obtain rfl : d = e := by simpa [hq] using h
      simp [putEntry, hq]
    · have hne : (p == q) = false := by simp [hq]
      simp only [List.lookup_cons, hne] at h
      simp [putEntry, hq, ih h]

/-- Where a place has an entry it does not matter which of two others is put first. -/
theorem putEntry_comm {es : List (Place × Entry)} {d : Entry} (h : es.lookup p = some d)
    (hpq : p ≠ q) :
    putEntry q f (putEntry p e es) = putEntry p e (putEntry q f es) := by
  induction es with
  | nil => cases h
  | cons d' es ih =>
    obtain ⟨r, d'⟩ := d'
    by_cases hp : p = r
    · subst hp
      simp [putEntry, hpq.symm]
    · have hne : (p == r) = false := by simp [hp]
      simp only [List.lookup_cons, hne] at h
      by_cases hq : q = r
      · simp [putEntry, hp, hq]
      · simp [putEntry, hp, hq, ih h]

theorem put_self (hp : p ≠ []) (h : t.at? p = some e) : t.put p e = t := by
  have hlookup : t.entries.lookup p = some e := by simpa [at?, hp] using h
  rw [put, putEntry_self hlookup]

theorem put_comm {d : Entry} (hp : p ≠ []) (h : t.at? p = some d) (hpq : p ≠ q) :
    (t.put p e).put q f = (t.put q f).put p e := by
  have hlookup : t.entries.lookup p = some d := by simpa [at?, hp] using h
  simp only [put, putEntry_comm hlookup hpq]

/-! ### Files that are written again -/

theorem IsFile.put {x : String} {m : Nat} (hp : p ≠ []) (h : t.IsFile q) :
    (t.put p (.file x m)).IsFile q := by
  unfold IsFile
  rw [at?_put hp]
  by_cases hq : q = p
  · exact ⟨x, m, if_pos hq⟩
  · rwa [if_neg hq]

/-- A path leads to a file. -/
def Holds (t : FileTree) (s : String) : Prop := ∃ p, t.Leads s p ∧ t.IsFile p

theorem Holds.put {x : String} {m : Nat} (hp : t.IsFile p) (h : t.Holds s) :
    (t.put p (.file x m)).Holds s := by
  obtain ⟨q, hl, hq⟩ := h
  obtain ⟨y, n, hfile⟩ := hp
  have hne := ne_nil_of_at? hfile (by simp)
  exact ⟨q, hl.mono (dirsStay_put (by simp [hfile])), hq.put hne⟩

theorem stay_writeAll (h : t.writeAll ws = .ok u) :
    DirsStay t u ∧ ∀ p, t.IsFile p → u.IsFile p := by
  induction ws generalizing t with
  | nil =>
    cases h
    exact ⟨.refl _, fun p hp => hp⟩
  | cons w ws ih =>
    obtain ⟨v, hw, hrest⟩ := writeAll_cons.1 h
    obtain ⟨hdirs, hfiles⟩ := ih hrest
    refine ⟨(dirsStay_write hw).trans hdirs, fun p hp => hfiles p ?_⟩
    obtain ⟨q, m, -, hq, rfl⟩ := write_ok hw
    exact hp.put (by rintro rfl; exact hq rfl)

theorem holds_of_writeAll (h : t.writeAll ws = .ok u) : ∀ w ∈ ws, u.Holds w.1 := by
  induction ws generalizing t with
  | nil => exact fun w hw => nomatch hw
  | cons w ws ih =>
    obtain ⟨v, hw, hrest⟩ := writeAll_cons.1 h
    refine List.forall_mem_cons.2 ⟨?_, ih hrest⟩
    obtain ⟨hdirs, hfiles⟩ := stay_writeAll hrest
    obtain ⟨p, m, hl, hp⟩ := read_eq_ok.1 (read_write hw)
    exact ⟨p, hl.mono hdirs, hfiles p ⟨_, m, hp⟩⟩

theorem at?_writeAll (h : t.writeAll ws = .ok u) (hp : ∀ w ∈ ws, ¬u.Leads w.1 p) :
    u.at? p = t.at? p := by
  induction ws generalizing t with
  | nil =>
    cases h
    rfl
  | cons w ws ih =>
    obtain ⟨hw, hws⟩ := List.forall_mem_cons.1 hp
    obtain ⟨v, hwrite, hrest⟩ := writeAll_cons.1 h
    rw [ih hrest hws]
    have hdirs := (dirsStay_write hwrite).trans (stay_writeAll hrest).1
    obtain ⟨q, m, hl, hq, rfl⟩ := write_ok hwrite
    have hpq : p ≠ q := by
      rintro rfl
      exact hw (hl.mono hdirs)
    rw [at?_put (by rintro rfl; exact hq rfl), if_neg hpq]

theorem writeAll_of_write {w : String × String} (h : t.write w.1 w.2 = .ok v) :
    t.writeAll (w :: ws) = v.writeAll ws := by
  rw [writeAll, List.foldlM_cons, h]
  rfl

/-- What a file holds before it is written does not matter, if all paths lead to
files. -/
theorem writeAll_put {x y : String} {m : Nat} (hp : t.at? p = some (.file y m))
    (hws : ∀ w ∈ ws, t.Holds w.1) (hmem : ∃ w ∈ ws, t.Leads w.1 p) :
    (t.put p (.file x m)).writeAll ws = t.writeAll ws := by
  induction ws generalizing t y with
  | nil =>
    obtain ⟨w, hw, -⟩ := hmem
    cases hw
  | cons w ws ih =>
    obtain ⟨⟨q, hl, z, n, hq⟩, hws⟩ := List.forall_mem_cons.1 hws
    have hne : p ≠ [] := ne_nil_of_at? hp (by simp)
    have hl' := hl.mono (dirsStay_put (e := .file x m) (p := p) (by simp [hp]))
    by_cases hqp : q = p
    · subst hqp
      obtain ⟨-, rfl⟩ : z = y ∧ n = m := by simpa [hp] using hq.symm
      have hput := write_of_file hl' ((at?_put hne _ q).trans (if_pos rfl)) w.2
      rw [put_put] at hput
      rw [writeAll_of_write hput, writeAll_of_write (write_of_file hl hq w.2)]
    · -- the write goes elsewhere, so the file is written later
      have hput := write_of_file hl' (((at?_put hne _ q).trans (if_neg hqp)).trans hq) w.2
      rw [put_comm hne hp (Ne.symm hqp)] at hput
      rw [writeAll_of_write hput, writeAll_of_write (write_of_file hl hq w.2)]
      have hqne : q ≠ [] := ne_nil_of_at? hq (by simp)
      have hstay : DirsStay t (t.put q (.file w.2 n)) := dirsStay_put (by simp [hq])
      refine ih (y := y) ?_ (fun w' hw' => (hws w' hw').put ⟨z, n, hq⟩) ?_
      · rw [at?_put hqne, if_neg (Ne.symm hqp), hp]
      · obtain ⟨w', hw', hlater⟩ := hmem
        obtain rfl | hw' := List.mem_cons.1 hw'
        · exact absurd (hlater.unique rfl hl) hqp
        · exact ⟨w', hw', hlater.mono hstay⟩

/-- Writes that went well change nothing when they are made again. -/
theorem writeAll_again (h : t.writeAll ws = .ok u) : u.writeAll ws = .ok u := by
  induction ws generalizing t with
  | nil => rfl
  | cons w ws ih =>
    obtain ⟨v, hw, hrest⟩ := writeAll_cons.1 h
    obtain ⟨⟨p, hl, x, m, hp⟩, hws⟩ := List.forall_mem_cons.1 (holds_of_writeAll h)
    refine writeAll_cons.2 ⟨_, write_of_file hl hp w.2, ?_⟩
    by_cases hmem : ∃ w' ∈ ws, u.Leads w'.1 p
    · -- the file is written once more after that
      rw [writeAll_put hp hws hmem]
      exact ih hrest
    · -- the file has had the text ever since
      have hkept : u.at? p = v.at? p := at?_writeAll hrest (by simpa using hmem)
      obtain ⟨q, n, hq, hv⟩ := read_eq_ok.1 (read_write hw)
      obtain rfl := (hq.mono (stay_writeAll hrest).1).unique rfl hl
      obtain ⟨-, rfl⟩ : x = w.2 ∧ m = n := by simpa [hkept, hv] using hp.symm
      rw [put_self (ne_nil_of_at? hv (by simp)) (hkept.trans hv)]
      exact ih hrest

/-! ### Directories that are there -/

theorem isDir_iff : t.isDir path = true ↔ ∃ p, t.locate path = .ok p ∧ t.at? p = some .dir := by
  unfold isDir
  cases t.locate path <;> simp

theorem isDir_of_makeDir (h : t.makeDir path = .ok u) : u.isDir path = true := by
  obtain ⟨p, hl, hnone, rfl⟩ := makeDir_eq_ok.1 h
  have hp : p ≠ [] := ne_nil_of_at? hnone (by simp)
  have hstay : DirsStay t (t.put p .dir) := dirsStay_put (by simp [hnone])
  exact isDir_iff.2 ⟨p, hstay.locate hl, by rw [at?_put hp, if_pos rfl]⟩

theorem isDir_of_settle {e : FileFault} (h : t.settle path e = (.ok (), u)) :
    u.isDir path = true := by
  simp only [settle, Prod.mk.injEq] at h
  obtain ⟨hdir, rfl⟩ := h
  split at hdir
  · next hd => exact hd
  · cases hdir

theorem isDir_of_createAt {x : Except FileFault Unit × FileTree}
    (h : t.createAt path x = (.ok (), u)) : u.isDir path = true := by
  unfold createAt at h
  split at h
  · next hmake =>
    cases h
    exact isDir_of_makeDir hmake
  · split at h
    · cases h
    · split at h
      · next hmake =>
        cases h
        exact isDir_of_makeDir hmake
      · exact isDir_of_settle h
  · exact isDir_of_settle h

/-- A directory that was created is there to stay. -/
theorem createDirs_again (h : t.createDirs s = (.ok (), u)) (hd : DirsStay u v) :
    v.createDirs s = (.ok (), v) := by
  unfold createDirs at h ⊢
  split at h
  · next hs => exact if_pos hs
  · next hs =>
    rw [if_neg hs]
    split at h
    · cases h
    · obtain ⟨p, hl, hp⟩ := isDir_iff.1 (isDir_of_createAt h)
      exact createAt_of_dir (hd.locate hl) (hd.dir p hp) _

end SheetExport.FileTree
