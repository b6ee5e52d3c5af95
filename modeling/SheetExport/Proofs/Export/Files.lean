import Mathlib.Data.List.Nodup
import SheetExport.Proofs.Export.Run
import SheetExport.Proofs.FileTree.Directories

/-!
# Files of an export

Which files hold the tabs after a run, what else a run may change, and what a second
run does.
-/

/-!
## Tabs and their files

The files a run writes are called by the stems of the tabs' names, in which
separators are replaced, so tabs whose names differ may share a file. Main
statement: a run loses no tab exactly when the stems of the tabs it saves
differ, and a shared file holds the last of its tabs.
-/

namespace SheetExport

/-! ### Names of files -/

namespace Tab

theorem toList_fileName (name : String) :
    (fileName name).toList = (stem name).toList ++ ['.', 'c', 's', 'v'] := by
  simp [fileName]

theorem fileName_inj {n m : String} : fileName n = fileName m ↔ stem n = stem m := by
  rw [← String.toList_inj, toList_fileName, toList_fileName, List.append_left_inj,
    String.toList_inj]

theorem slash_notMem_fileName (name : String) : '/' ∉ (fileName name).toList := by
  rw [toList_fileName]
  simp only [List.mem_append, not_or]
  refine ⟨?_, by decide⟩
  simp only [stem, String.toList_ofList, List.mem_map, not_exists, not_and]
  intro c _
  split
  · decide
  · next hc =>
    rintro rfl
    exact hc rfl

theorem length_fileName (name : String) : 4 ≤ (fileName name).toList.length := by
  rw [toList_fileName, List.length_append]
  simp

theorem fileName_ne {name s : String} (h : s.toList.length < 4) : fileName name ≠ s := by
  intro e
  have := length_fileName name
  rw [e] at this
  omega

end Tab

namespace Export

variable {o : Options}

theorem Options.path_inj {n m : String} : o.path n = o.path m ↔ Tab.stem n = Tab.stem m := by
  rw [← Tab.fileName_inj]
  unfold path FileTree.within
  split <;> simp [← String.toList_inj]

theorem exists_dir_of_leads {t : FileTree} {name : String} {p : Place}
    (h : t.Leads (o.path name) p) : ∃ d, p = d ++ [Tab.fileName name] ∧
      t.walk (t.start (FileTree.Path.ofString (o.path name)).rooted)
        (FileTree.Path.ofString o.outputDir).names = .ok d := by
  obtain ⟨path, hc, -, hl⟩ := h
  obtain rfl := FileTree.checked_eq_ok hc
  have hn := FileTree.names_within (Tab.slash_notMem_fileName name)
    (Tab.fileName_ne (by decide)) o.outputDir
  obtain ⟨d, hd, hp⟩ := FileTree.exists_dir_of_locate hn (Tab.fileName_ne (by decide))
    (Tab.fileName_ne (by decide)) hl
  exact ⟨d, hp, hd⟩

/-- Tabs of different stems never share a file. -/
theorem apart_path {n m : String} (h : Tab.stem n ≠ Tab.stem m) :
    FileTree.Apart (o.path n) (o.path m) := by
  rintro t p p' hp hp' rfl
  obtain ⟨d, rfl, -⟩ := exists_dir_of_leads hp
  obtain ⟨d', hd', -⟩ := exists_dir_of_leads hp'
  have hname : Tab.fileName n = Tab.fileName m := by
    simpa using (List.append_inj' hd' rfl).2
  exact h (Tab.fileName_inj.1 hname)

/-! ### Tabs that are saved -/

theorem Options.saved?_eq_some {t : Tab} {w : String × String} (h : o.saved? t = some w) :
    w.1 = o.path t.name ∧ o.csv.grid t.rows = some w.2 := by
  simp only [saved?, Option.map_eq_some_iff, textOf, Option.filter_eq_some_iff] at h
  obtain ⟨text, ⟨hg, -⟩, rfl⟩ := h
  exact ⟨rfl, hg⟩

def Options.savedTabs (o : Options) (ts : List Tab) : List Tab :=
  ts.filter fun t => (o.saved? t).isSome

theorem Options.map_fst_writes (o : Options) (ts : List Tab) :
    (o.writes ts).map Prod.fst = (o.savedTabs ts).map fun t => o.path t.name := by
  induction ts with
  | nil => rfl
  | cons t ts ih =>
    cases h : o.saved? t with
    | none => simpa [writes, savedTabs, h] using ih
    | some w => simpa [writes, savedTabs, h, (saved?_eq_some h).1] using ih

theorem Options.mem_blanks {ts : List Tab} (hts : (ts.map Tab.name).Nodup) {t : Tab}
    (h : t ∈ ts) : t.name ∈ o.blanks ts ↔ o.saved? t = none := by
  simp only [blanks, List.mem_map, List.mem_filter, Option.isNone_iff_eq_none]
  constructor
  · rintro ⟨t', ⟨ht', hb⟩, hn⟩
    rwa [← List.inj_on_of_nodup_map hts ht' h hn]
  · exact fun hb => ⟨t, ⟨h, hb⟩, rfl⟩

theorem Options.mem_writes {ts : List Tab} {w : String × String} (h : w ∈ o.writes ts) :
    ∃ t ∈ o.savedTabs ts, w.1 = o.path t.name := by
  obtain ⟨t, ht, hw⟩ := List.mem_filterMap.1 h
  exact ⟨t, List.mem_filter.2 ⟨ht, by simp [hw]⟩, (saved?_eq_some hw).1⟩

/-- A file holds the last of the tabs that are saved in it. -/
theorem read_saved {t u : FileTree} {before after : List Tab} {last : Tab} {w : String × String}
    (h : t.writeAll (o.writes (before ++ last :: after)) = .ok u) (hw : o.saved? last = some w)
    (ha : ∀ t' ∈ o.savedTabs after, Tab.stem t'.name ≠ Tab.stem last.name) :
    u.read w.1 = .ok w.2 := by
  have hpath := (Options.saved?_eq_some hw).1
  refine FileTree.read_writeAll h ?_ ?_
  · intro w' hw' hne
    obtain ⟨t', -, ht'⟩ := Options.mem_writes hw'
    rw [ht', hpath] at hne ⊢
    exact apart_path fun e => hne (Options.path_inj.2 e)
  · have hnone : (o.writes after).reverse.lookup w.1 = none := by
      rw [List.lookup_eq_none_iff]
      intro w' hw'
      obtain ⟨t', ht', e⟩ := Options.mem_writes (List.mem_reverse.1 hw')
      rw [e, hpath, bne_iff_ne, ne_eq, Options.path_inj]
      exact fun e => ha t' ht' e.symm
    have hws : o.writes (before ++ last :: after) = o.writes before ++ w :: o.writes after := by
      simp [Options.writes, hw]
    rw [hws, List.reverse_append, List.reverse_cons, List.append_assoc, List.lookup_append, hnone]
    exact List.lookup_cons_self

/-! ### No tab is lost -/

/-- No tab is lost: the files written differ, and each tab that was not skipped
is in its own. -/
def Keeps (o : Options) (ts : List Tab) (r : Report) (t : FileTree) : Prop :=
  r.written.Nodup ∧ ∀ tab ∈ ts, tab.name ∉ r.skipped →
    ∃ text, o.csv.grid tab.rows = some text ∧ t.read (o.path tab.name) = .ok text

theorem exists_last {ts : List Tab} {t : Tab} (h : t ∈ o.savedTabs ts) :
    ∃ before last after, ts = before ++ last :: after ∧ last ∈ o.savedTabs ts ∧
      Tab.stem last.name = Tab.stem t.name ∧
      ∀ t' ∈ o.savedTabs after, Tab.stem t'.name ≠ Tab.stem t.name := by
  let same (t' : Tab) : Bool := (o.saved? t').isSome && Tab.stem t'.name == Tab.stem t.name
  obtain ⟨ht, hs⟩ := List.mem_filter.1 h
  have hfind : (ts.reverse.find? same).isSome :=
    List.find?_isSome.2 ⟨t, List.mem_reverse.2 ht, by simp [same, hs]⟩
  obtain ⟨last, hlast⟩ := Option.isSome_iff_exists.1 hfind
  obtain ⟨hsame, as, bs, hts, has⟩ := List.find?_eq_some_iff_append.1 hlast
  simp only [same, Bool.and_eq_true, beq_iff_eq] at hsame
  have hts : ts = bs.reverse ++ last :: as.reverse := by
    rw [← List.reverse_reverse ts, hts]
    simp
  refine ⟨bs.reverse, last, as.reverse, hts, ?_, hsame.2, ?_⟩
  · exact List.mem_filter.2 ⟨by simp [hts], hsame.1⟩
  · intro t' ht' e
    obtain ⟨hm, hsome⟩ := List.mem_filter.1 ht'
    have := has t' (List.mem_reverse.1 hm)
    simp [same, hsome, e] at this

theorem read_path {t u : FileTree} {ts : List Tab} (h : t.writeAll (o.writes ts) = .ok u)
    {tab : Tab} (htab : tab ∈ o.savedTabs ts) :
    ∃ before last after text, ts = before ++ last :: after ∧ last ∈ o.savedTabs ts ∧
      Tab.stem last.name = Tab.stem tab.name ∧
      (∀ t' ∈ o.savedTabs after, Tab.stem t'.name ≠ Tab.stem tab.name) ∧
      o.csv.grid last.rows = some text ∧ u.read (o.path tab.name) = .ok text := by
  obtain ⟨before, last, after, hts, hlast, hstem, ha⟩ := exists_last htab
  obtain ⟨w, hw⟩ := Option.isSome_iff_exists.1 (List.mem_filter.1 hlast).2
  obtain ⟨hpath, hg⟩ := Options.saved?_eq_some hw
  have hread := read_saved (hts ▸ h) hw (by rwa [hstem])
  rw [hpath, Options.path_inj.2 hstem] at hread
  exact ⟨before, last, after, w.2, hts, hlast, hstem, ha, hg, hread⟩

theorem nodup_selected {names : List String} (h : names.Nodup) : (o.selected names).Nodup := by
  unfold Options.selected
  split
  · exact h
  · exact h.filter _

theorem filter_notMem_blanks {ts : List Tab} (hts : (ts.map Tab.name).Nodup) :
    (ts.filter fun t => t.name ∉ o.blanks ts) = o.savedTabs ts := by
  refine List.filter_congr fun t ht => ?_
  have := Options.mem_blanks (o := o) hts ht
  cases hs : o.saved? t <;> simp_all

theorem nodup_written_iff {ts : List Tab} :
    ((o.writes ts).map Prod.fst).Nodup ↔ ((o.savedTabs ts).map fun t => Tab.stem t.name).Nodup := by
  rw [Options.map_fst_writes]
  unfold List.Nodup
  simp only [List.pairwise_map, ne_eq, Options.path_inj]

theorem keeps_of_nodup {t u : FileTree} {ts : List Tab} (h : t.writeAll (o.writes ts) = .ok u)
    (hn : ((o.savedTabs ts).map fun t => Tab.stem t.name).Nodup) {tab : Tab}
    (htab : tab ∈ o.savedTabs ts) :
    ∃ text, o.csv.grid tab.rows = some text ∧ u.read (o.path tab.name) = .ok text := by
  obtain ⟨-, last, -, text, -, hlast, hstem, -, hg, hread⟩ := read_path h htab
  obtain rfl := List.inj_on_of_nodup_map hn hlast htab hstem
  exact ⟨text, hg, hread⟩

/-- Where the names of tabs differ, a run loses none of them exactly when the
stems of those it saves differ; a file always holds the last of its tabs. -/
theorem run_keeps_iff {σ : Type} {a : Sheets.Service σ} {id : String} {s s' : Session σ}
    {r : Report} (h : Effect.run (run a o id) s = (.ok r, s')) (hn : r.tabNames.Nodup) :
    ∃ v ts, a.tabNames id s.service = (.ok r.tabNames, v) ∧
      ts.map Tab.name = o.selected r.tabNames ∧ Fetched a o id v ts s'.service ∧
      (Keeps o ts r s'.files ↔
        ((ts.filter fun t => t.name ∉ r.skipped).map fun t => Tab.stem t.name).Nodup) ∧
      ∀ tab ∈ ts, tab.name ∉ r.skipped → ∃ before last after text,
        ts = before ++ last :: after ∧ Tab.stem last.name = Tab.stem tab.name ∧
        (∀ t ∈ after, t.name ∉ r.skipped → Tab.stem t.name ≠ Tab.stem tab.name) ∧
        o.csv.grid last.rows = some text ∧ s'.files.read (o.path tab.name) = .ok text := by
  obtain ⟨names, v, t, ts, v', t', hv, -, hts, hf, hw, rfl, rfl⟩ := run_eq_ok.1 h
  have hnodup : (ts.map Tab.name).Nodup := hts ▸ nodup_selected hn
  have hsaved : ∀ tab ∈ ts, tab.name ∉ o.blanks ts → tab ∈ o.savedTabs ts := by
    intro tab htab hs
    rw [← filter_notMem_blanks hnodup]
    exact List.mem_filter.2 ⟨htab, by simpa using hs⟩
  have hskip : (o.addTabs { tabNames := names, missing := o.missing names } ts).skipped =
      o.blanks ts := rfl
  rw [hskip]
  refine ⟨v, ts, hv, hts, hf, ?_, fun tab htab hs => ?_⟩
  · rw [filter_notMem_blanks hnodup]
    constructor
    · exact fun hk => nodup_written_iff.1 hk.1
    · exact fun hd => ⟨nodup_written_iff.2 hd,
        fun tab htab hs => keeps_of_nodup hw hd (hsaved tab htab hs)⟩
  · obtain ⟨before, last, after, text, hsplit, -, hstem, ha, hg, hread⟩ :=
      read_path hw (hsaved tab htab hs)
    refine ⟨before, last, after, text, hsplit, hstem, fun t ht hs => ha t ?_, hg, hread⟩
    have := hsaved t (by simp [hsplit, ht]) hs
    exact List.mem_filter.2 ⟨ht, (List.mem_filter.1 this).2⟩

/-- Two tabs whose names differ in a separator only. -/
def alikeTabs : Session Sheets.Answers where
  service := { names := .ok ["a/b", "a_b"], grids := [.ok [[.text "x"]], .ok [[.text "y"]]] }
  files := {}

def intoOut : Options := { outputDir := "out", range := Options.allLetters }

def alikeReport : Report where
  tabNames := ["a/b", "a_b"]
  written := ["out/a_b.csv", "out/a_b.csv"]

theorem run_alikeTabs :
    ∃ s', Effect.run (run Sheets.prepared intoOut "id") alikeTabs = (.ok alikeReport, s') ∧
      s'.files.read (intoOut.path "a/b") = .ok "y" := ⟨_, rfl, by decide⟩

theorem run_keeps_iff_alikeTabs :
    ∃ s', Effect.run (run Sheets.prepared intoOut "id") alikeTabs = (.ok alikeReport, s') ∧
      alikeReport.tabNames.Nodup ∧ ∃ v ts, ts.map Tab.name = ["a/b", "a_b"] ∧
        Fetched Sheets.prepared intoOut "id" v ts s'.service ∧
        (Keeps intoOut ts alikeReport s'.files ↔
          ((ts.filter fun t => t.name ∉ alikeReport.skipped).map fun t =>
            Tab.stem t.name).Nodup) := by
  obtain ⟨s', hrun, -⟩ := run_alikeTabs
  have hn : alikeReport.tabNames.Nodup := by decide
  obtain ⟨v, ts, -, hts, hf, hk, -⟩ := run_keeps_iff hrun hn
  exact ⟨s', hrun, hn, v, ts, hts, hf, hk⟩

/-- Of two such tabs the first is lost: one file is written twice. -/
theorem run_alikeTabs_loses_first :
    ∃ s', Effect.run (run Sheets.prepared intoOut "id") alikeTabs = (.ok alikeReport, s') ∧
      alikeReport.tabNames.Nodup ∧ ¬alikeReport.written.Nodup ∧
      s'.files.read (intoOut.path "a/b") = .ok "y" ∧
      ¬Keeps intoOut [⟨"a/b", [[.text "x"]]⟩, ⟨"a_b", [[.text "y"]]⟩] alikeReport s'.files := by
  obtain ⟨s', hrun, hread⟩ := run_alikeTabs
  have hw : ¬alikeReport.written.Nodup := by decide
  exact ⟨s', hrun, by decide, hw, hread, fun h => hw h.1⟩

end Export

end SheetExport

/-!
## Exports that stay in their directory

Whatever tabs are called and however a run ends, the places it changes are the
output directory and those around it, where they were missing, and files of
selected tabs right in the output directory: `run_confined`.
-/

namespace SheetExport

/-! ### Names of files -/

/-- A text that is a single part of a path, other than those that lead back. -/
def FileTree.IsName (s : String) : Prop := '/' ∉ s.toList ∧ s ∉ ["", ".", ".."]

theorem Tab.isName_fileName (name : String) : FileTree.IsName (fileName name) := by
  refine ⟨slash_notMem_fileName name, ?_⟩
  simp only [List.mem_cons, List.not_mem_nil, or_false, not_or]
  exact ⟨fileName_ne (by decide), fileName_ne (by decide), fileName_ne (by decide)⟩

example : Tab.fileName "../../etc/passwd" = ".._.._etc_passwd.csv" := by decide

namespace FileTree

theorem rooted_within {name : String} (h : '/' ∉ name.toList) (dir : String) :
    (Path.ofString (within dir name)).rooted = (Path.ofString dir).rooted := by
  have hname : (name.toList.head? == some '/') = false := by
    cases hc : name.toList with
    | nil => rfl
    | cons c cs =>
      have hne : c ≠ '/' := by
        rintro rfl
        exact h (by simp [hc])
      simp [hne]
  have hdir : ∀ cs : List Char, dir.toList ≠ [] →
      (dir.toList ++ cs).head? = dir.toList.head? := by
    intro cs hne
    obtain ⟨c, ds, hc⟩ := List.exists_cons_of_ne_nil hne
    simp [hc]
  simp only [Path.ofString]
  by_cases hempty : dir = ""
  · subst hempty
    simpa [within] using hname
  · have hne : dir.toList ≠ [] := fun e => hempty (String.toList_eq_nil_iff.1 e)
    unfold within
    split
    · rw [String.toList_append, hdir _ hne]
    · rw [String.toList_append, String.toList_append, List.append_assoc, hdir _ hne]

end FileTree

namespace Export

open FileTree (DirsStay)

/-! ### What a run may change -/

def Options.dir (o : Options) : FileTree.Path := .ofString o.outputDir

/-- A place that a run changed for tabs of these names. -/
inductive Touched (o : Options) (names : List String) (t u : FileTree) (p : Place) : Prop where
  /-- It was missing, and is now the output directory or one around it. -/
  | created {ns : List String} : t.at? p = none → u.at? p = some .dir → ns ≠ [] →
      ns <:+ o.dir.inner → u.Reaches o.dir.rooted ns p → Touched o names t u p
  /-- It is the file of a selected tab, right in the output directory. -/
  | saved {name text : String} {d : Place} {mode : Nat} : name ∈ o.selected names →
      FileTree.IsName (Tab.stem name ++ ".csv") → p = d ++ [Tab.stem name ++ ".csv"] →
      u.Reaches o.dir.rooted o.dir.inner d → u.at? p = some (.file text mode) →
      Touched o names t u p

/-- Between two trees every directory stayed, and only places that a run may
change were changed. -/
structure Confined (o : Options) (names : List String) (t u : FileTree) : Prop where
  stay : DirsStay t u
  touched : ∀ p, u.at? p = t.at? p ∨ Touched o names t u p

variable {o : Options} {names : List String} {t u v : FileTree} {p : Place}

theorem Confined.refl (o : Options) (names : List String) (t : FileTree) : Confined o names t t :=
  ⟨.refl t, fun _ => .inl rfl⟩

theorem Touched.trans (h : Touched o names t u p) (h' : Confined o names u v) :
    Touched o names t v p := by
  cases h with
  | created hnone hdir hns hsuffix hreach =>
    exact .created hnone (h'.stay.dir p hdir) hns hsuffix (hreach.mono h'.stay)
  | saved hsel hname hp hreach hfile =>
    obtain heq | hlater := h'.touched p
    · exact .saved hsel hname hp (hreach.mono h'.stay) (heq.trans hfile)
    · -- a file stays one, so it was written again
      cases hlater with
      | created hnone _ _ _ _ =>
        rw [hfile] at hnone
        cases hnone
      | saved hsel' hname' hp' hreach' hfile' => exact .saved hsel' hname' hp' hreach' hfile'

theorem Confined.trans (h : Confined o names t u) (h' : Confined o names u v) :
    Confined o names t v where
  stay := h.stay.trans h'.stay
  touched p := by
    obtain heq | ht := h.touched p
    · obtain heq' | ht' := h'.touched p
      · exact .inl (heq'.trans heq)
      · refine .inr ?_
        cases ht' with
        | created hnone hdir hns hsuffix hreach =>
          exact .created (heq ▸ hnone) hdir hns hsuffix hreach
        | saved hsel hname hp hreach hfile => exact .saved hsel hname hp hreach hfile
    · exact .inr (ht.trans h')

/-! ### Steps -/

theorem confined_createDirs (o : Options) (names : List String) (t : FileTree) :
    Confined o names t (t.createDirs o.outputDir).2 := by
  have h := FileTree.grown_createDirs t o.outputDir
  refine ⟨h.stay, fun p => (h.created p).imp_right ?_⟩
  rintro ⟨hnone, hdir, ns, hns, hsuffix, hreach⟩
  exact .created hnone hdir hns hsuffix hreach

theorem confined_write {name text : String} (hsel : name ∈ o.selected names)
    (h : t.write (o.path name) text = .ok u) : Confined o names t u := by
  have hstay := FileTree.dirsStay_write h
  obtain ⟨p, mode, hl, hp, rfl⟩ := FileTree.write_ok h
  have hne : p ≠ [] := fun e => hp (by simp [e, FileTree.at?])
  obtain ⟨d, hd, hwalk⟩ := exists_dir_of_leads hl
  have hreach : t.Reaches o.dir.rooted o.dir.inner d := by
    rw [Options.path, FileTree.rooted_within (Tab.slash_notMem_fileName name)] at hwalk
    exact FileTree.walk_inner hwalk
  refine ⟨hstay, fun q => ?_⟩
  have hat := FileTree.at?_put (t := t) hne (.file text mode) q
  by_cases hq : q = p
  · subst hq
    rw [if_pos rfl] at hat
    exact .inr (.saved hsel (Tab.isName_fileName name) hd (hreach.mono hstay) hat)
  · exact .inl (by rw [hat, if_neg hq])

variable {σ : Type} {a : Sheets.Service σ} {id : String}

theorem confined_exportTab {name : String} (hsel : name ∈ o.selected names) (r : Report)
    (s : Session σ) :
    Confined o names s.files (Effect.run (exportTab a o id r name) s).2.files := by
  rw [run_exportTab]
  rcases a.values id (o.range.forTab name) s.service with ⟨e | rows, v⟩
  · exact .refl _ _ _
  · simp only [writeAll_writes]
    cases hw : o.saved? ⟨name, rows⟩ with
    | none => exact .refl _ _ _
    | some w =>
      have hpath : w.1 = o.path name := (Options.saved?_eq_some hw).1
      simp only
      cases hwrite : s.files.write w.1 w.2 with
      | error e => exact .refl _ _ _
      | ok t => exact confined_write hsel (hpath ▸ hwrite)

def listed (a : Sheets.Service σ) (id : String) (s : Session σ) : List String :=
  (a.tabNames id s.service).1.toOption.getD []

/-- A run changes the output directory and those around it where they are
missing, and files of selected tabs in it. Every other place stays as it is. -/
theorem run_confined (a : Sheets.Service σ) (o : Options) (id : String) (s : Session σ) :
    Confined o (listed a id s) s.files (Effect.run (run a o id) s).2.files := by
  rw [run_run, listed]
  rcases a.tabNames id s.service with ⟨e | names, v⟩
  · exact .refl _ _ _
  · have hdirs := confined_createDirs o names s.files
    simp only [Except.toOption, Option.getD_some]
    generalize s.files.createDirs o.outputDir = y at hdirs ⊢
    obtain ⟨e | ⟨⟩, t⟩ := y
    · exact hdirs
    · refine hdirs.trans ?_
      let R (s s' : Session σ) : Prop := Confined o names s.files s'.files
      have hstep : ∀ r, ∀ name ∈ o.selected names, ∀ s,
          R s (Effect.run (exportTab a o id r name) s).2 :=
        fun r name hsel s => confined_exportTab hsel r s
      have htabs := Effect.run_foldlM_rel (R := R) (fun s => .refl _ _ _) Confined.trans hstep
      exact htabs _ ⟨v, t, _, _⟩

end Export

end SheetExport

/-!
## Exports that are run again

A run that ended well is repeated on the files that it left: given the same
answers it reports and tells the same, makes the same calls and leaves every
file as it is. Main statement: `run_again`, for any tabs, also such that share a
file, and whatever there was in the directory before.
-/

namespace SheetExport.Export

open Sheets (Service)

variable {σ : Type} {a : Service σ} {o : Options} {id : String} {s s' : Session σ} {r : Report}

/-- A service answers a run: it gives the names of the tabs and the grids of those
that are selected. -/
def Answered (a : Service σ) (o : Options) (id : String) (v : σ) (names : List String)
    (ts : List Tab) (v' : σ) : Prop :=
  ∃ w, a.tabNames id v = (.ok names, w) ∧ ts.map Tab.name = o.selected names ∧
    Fetched a o id w ts v'

/-- Creating the directory and writing the files changes nothing the second time. -/
theorem files_again {t t' u : FileTree} {dir : String} {ws : List (String × String)}
    (hdir : t.createDirs dir = (.ok (), t')) (hw : t'.writeAll ws = .ok u) :
    u.createDirs dir = (.ok (), u) ∧ u.writeAll ws = .ok u :=
  ⟨FileTree.createDirs_again hdir (FileTree.stay_writeAll hw).1, FileTree.writeAll_again hw⟩

/-- A run that ended well ends in the same way when it is run again on the files it
left, by this service or by any other that gives the same answers. -/
theorem run_again (h : Effect.run (run a o id) s = (.ok r, s')) :
    Effect.run (run a o id) { s with files := s'.files } = (.ok r, s') ∧
    ∃ ts es cs, Answered a o id s.service r.tabNames ts s'.service ∧
      s'.events = s.events ++ es ∧ s'.calls = s.calls ++ cs ∧
      ∀ {τ : Type} (b : Service τ) (u : Session τ) (w : τ), u.files = s'.files →
        Answered b o id u.service r.tabNames ts w →
        Effect.run (run b o id) u = (.ok r, ⟨w, s'.files, u.events ++ es, u.calls ++ cs⟩) := by
  obtain ⟨names, v, t, ts, v', t', hn, hdir, hts, hf, hw, rfl, rfl⟩ := run_eq_ok.1 h
  obtain ⟨hdir', hw'⟩ := files_again hdir hw
  refine ⟨run_eq_ok.2 ⟨names, v, t', ts, v', t', hn, hdir', hts, hf, hw', rfl, rfl⟩,
    ts, _, _, ⟨v, hn, hts, hf⟩, List.append_assoc _ _ _, rfl, ?_⟩
  rintro τ b u w hu ⟨x, hnb, -, hfb⟩
  refine run_eq_ok.2 ⟨names, x, t', ts, w, t', hnb, hu ▸ hdir', hts, hfb, hw', rfl, ?_⟩
  simp only [List.append_assoc]

/-- Two tabs that share a file, which is there before the run with other text. -/
def sharedFile : Session Sheets.Answers where
  service := { names := .ok ["a/b", "a_b"], grids := [.ok [[.text "x"]], .ok [[.text "y"]]] }
  files := { entries := [(["out"], .dir), (["out", "a_b.csv"], .file "z" 0o600)] }

theorem run_again_sharedFile :
    ∃ s', Effect.run (run Sheets.prepared intoOut "id") sharedFile = (.ok alikeReport, s') ∧
      s'.files.entries = [(["out"], .dir), (["out", "a_b.csv"], .file "y" 0o600)] ∧
      Effect.run (run Sheets.prepared intoOut "id") { sharedFile with files := s'.files } =
        (.ok alikeReport, s') := by
  obtain ⟨s', hrun, hfiles⟩ : ∃ s', Effect.run (run Sheets.prepared intoOut "id") sharedFile =
      (.ok alikeReport, s') ∧
      s'.files.entries = [(["out"], .dir), (["out", "a_b.csv"], .file "y" 0o600)] :=
    ⟨_, rfl, by decide⟩
  exact ⟨s', hrun, hfiles, (run_again hrun).1⟩

end SheetExport.Export
