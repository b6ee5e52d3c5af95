import SheetExport.Proofs.FileTree
import SheetExport.Proofs.Text

/-!
# Files that can be written again

The directory of a file that can be read is there, under the normal form of its
path too, so nothing is created for it: `makeParent_of_read`. The file can be
written and its permissions set.
-/

namespace SheetExport

/-! ## Joined pieces -/

namespace Text

theorem intercalate_sublist {α : Type} (sep : List α) {xs ys : List (List α)}
    (h : xs.Sublist ys) : (sep.intercalate xs).Sublist (sep.intercalate ys) := by
  induction h with
  | slnil => exact List.Sublist.refl _
  | @cons xs ys y h ih =>
    cases ys with
    | nil =>
      cases h
      simp
    | cons z zs =>
      rw [List.intercalate_cons_cons]
      exact ih.trans (List.sublist_append_right _ _)
  | @cons_cons xs ys y h ih =>
    cases xs with
    | nil =>
      cases ys with
      | nil => exact List.Sublist.refl _
      | cons z zs =>
        rw [List.intercalate_singleton, List.intercalate_cons_cons, List.append_assoc]
        exact List.sublist_append_left _ _
    | cons x xs =>
      obtain ⟨z, zs, rfl⟩ :=
        List.exists_cons_of_ne_nil (List.ne_nil_of_mem (h.mem List.mem_cons_self))
      rw [List.intercalate_cons_cons, List.intercalate_cons_cons]
      exact (List.Sublist.refl _).append ih

namespace Utf8

theorem size_cons (c : Char) (cs : List Char) : size (c :: cs) = c.utf8Size + size cs := by
  have h : ∀ n, cs.foldl (fun n c => n + c.utf8Size) n = n + size cs := by
    unfold size
    induction cs with
    | nil => intro n; rfl
    | cons d cs ih =>
      intro n
      rw [List.foldl_cons, List.foldl_cons, ih, ih (0 + d.utf8Size)]
      omega
  rw [size, List.foldl_cons, h, Nat.zero_add]

theorem size_le_of_sublist {cs ds : List Char} (h : cs.Sublist ds) : size cs ≤ size ds := by
  induction h with
  | slnil => exact Nat.le_refl _
  | cons c _ ih =>
    rw [size_cons]
    omega
  | cons_cons c _ ih =>
    rw [size_cons, size_cons]
    omega

end Utf8

end Text

namespace FileTree

variable {t : FileTree} {p q : Place} {s text : String} {path : Path} {names : List String}

/-! ## Paths and their texts -/

theorem parts_go_eq {acc cs w : List Char} {ws : List (List Char)}
    (h : Text.pieces (· == '/') cs = w :: ws) :
    parts.go acc cs = String.ofList (acc.reverse ++ w) :: ws.map String.ofList := by
  induction cs generalizing acc w ws with
  | nil =>
    cases h
    simp [parts.go]
  | cons c cs ih =>
    obtain ⟨v, vs, hv⟩ := List.exists_cons_of_ne_nil (Text.pieces_ne_nil (· == '/') cs)
    by_cases hc : c = '/'
    · simp only [Text.pieces, hc, beq_self_eq_true, if_true, hv, List.cons.injEq] at h
      obtain ⟨rfl, rfl⟩ := h
      simp [parts.go, hc, ih hv]
    · simp only [Text.pieces, beq_iff_eq, hc, if_false, hv, List.cons.injEq] at h
      obtain ⟨rfl, rfl⟩ := h
      simp [parts.go, hc, ih hv]

theorem parts_eq (s : String) :
    parts s = (Text.pieces (· == '/') s.toList).map String.ofList := by
  obtain ⟨w, ws, h⟩ := List.exists_cons_of_ne_nil (Text.pieces_ne_nil (· == '/') s.toList)
  rw [parts, parts_go_eq h, h]
  rfl

theorem intercalate_parts (s : String) :
    ['/'].intercalate ((parts s).map String.toList) = s.toList := by
  rw [parts_eq, List.map_map]
  simpa [Function.comp_def] using Text.intercalate_pieces '/' s.toList

theorem name_of_mem {n : String} (h : n ∈ (Path.ofString s).names) :
    '/' ∉ n.toList ∧ n ≠ "" := by
  obtain ⟨hn, hne⟩ := List.mem_filter.1 h
  rw [parts_eq] at hn
  obtain ⟨w, hw, rfl⟩ := List.mem_map.1 hn
  refine ⟨fun hc => ?_, by simpa using hne⟩
  have := Text.sep_of_mem_pieces hw (by simpa using hc)
  simp at this

theorem parts_intercalate (hn : ∀ n ∈ names, '/' ∉ n.toList) (hne : names ≠ []) :
    parts (String.intercalate "/" names) = names := by
  rw [parts, String.toList_intercalate]
  induction names with
  | nil => exact absurd rfl hne
  | cons n names ih =>
    have hfirst := parts_go_of_notMem (hn n List.mem_cons_self) []
    cases names with
    | nil => simpa using hfirst
    | cons m names =>
      have hrest := ih (fun m hm => hn m (List.mem_cons_of_mem _ hm)) (by simp)
      have hslash : "/".toList = ['/'] := rfl
      simp only [List.map_cons, hslash] at hrest ⊢
      rw [List.intercalate_cons_cons, List.append_assoc, List.singleton_append, parts_go_append,
        hrest, hfirst]
      simp

/-- The text of a path whose names are some of those of another text is within that text. -/
theorem text_sublist {slashed : Bool} (h : names.Sublist (Path.ofString s).names) :
    (Path.text ⟨(Path.ofString s).rooted, names, slashed⟩).toList.Sublist s.toList := by
  have hslash : "/".toList = ['/'] := rfl
  have hnames : names.Sublist (parts s) := h.trans List.filter_sublist
  by_cases hr : s.toList.head? = some '/'
  · obtain ⟨cs, hcs⟩ : ∃ cs, s.toList = '/' :: cs := List.head?_eq_some_iff.1 hr
    have hparts : parts s = "" :: parts (String.ofList cs) := by
      simp [parts, hcs, parts.go]
    have hrest : names.Sublist (parts (String.ofList cs)) := by
      have hkept : names.Sublist ((parts (String.ofList cs)).filter (· ≠ "")) := by
        simpa [Path.ofString, hparts] using h
      exact hkept.trans List.filter_sublist
    have hjoin := Text.intercalate_sublist ['/'] (hrest.map String.toList)
    rw [intercalate_parts, String.toList_ofList] at hjoin
    simp only [Path.text, Path.ofString, hr, beq_self_eq_true, if_true, String.toList_append,
      String.toList_intercalate, hslash]
    rw [hcs]
    exact hjoin.cons_cons '/'
  · have hjoin := Text.intercalate_sublist ['/'] (hnames.map String.toList)
    rw [intercalate_parts] at hjoin
    simp only [Path.text, Path.ofString, beq_iff_eq, hr, if_false, String.toList_append,
      String.toList_intercalate, hslash]
    exact hjoin

theorem ofString_text (hn : ∀ n ∈ path.names, '/' ∉ n.toList ∧ n ≠ "") (hne : path.text ≠ "") :
    (Path.ofString path.text).rooted = path.rooted ∧
      (Path.ofString path.text).names = path.names := by
  obtain ⟨rooted, names, slashed⟩ := path
  have hslash : ∀ n ∈ names, '/' ∉ n.toList := fun n h => (hn n h).1
  have hfilter : names.filter (· ≠ "") = names := by
    rw [List.filter_eq_self]
    exact fun n h => by simpa using (hn n h).2
  cases rooted with
  | true =>
    refine ⟨by simp [Path.text, Path.ofString], ?_⟩
    have hparts : parts (Path.text ⟨true, names, slashed⟩) =
        "" :: parts (String.intercalate "/" names) := by
      simp [Path.text, parts, parts.go]
    cases names with
    | nil => simp [Path.ofString, Path.text, parts, parts.go]
    | cons n ns =>
      rw [Path.ofString, hparts, parts_intercalate hslash (by simp)]
      simpa using hfilter
  | false =>
    cases names with
    | nil => exact absurd rfl hne
    | cons n ns =>
      have htext : Path.text ⟨false, n :: ns, slashed⟩ = String.intercalate "/" (n :: ns) := by
        simp [Path.text]
      rw [htext, Path.ofString, parts_intercalate hslash (by simp), hfilter]
      refine ⟨?_, rfl⟩
      -- the text begins with the first name, which is not empty and has no slash
      obtain ⟨hs, hempty⟩ := hn n List.mem_cons_self
      obtain ⟨c, cs, hc⟩ := List.exists_cons_of_ne_nil
        (fun h => hempty (String.toList_eq_nil_iff.1 h) : n.toList ≠ [])
      have hhead : (String.intercalate "/" (n :: ns)).toList.head? = some c := by
        rw [String.toList_intercalate, List.map_cons, hc]
        cases ns with
        | nil => simp
        | cons m ns => simp [List.intercalate_cons_cons]
      have hne : c ≠ '/' := by
        rintro rfl
        exact hs (by simp [hc])
      simpa only [hhead, beq_eq_false_iff_ne, ne_eq, Option.some.injEq] using hne

theorem rooted_or_names_of_text (hne : path.text ≠ "") : path.rooted = true ∨ path.names ≠ [] := by
  cases hr : path.rooted with
  | true => exact .inl rfl
  | false => exact .inr fun hn => hne (by simp [Path.text, hr, hn])

theorem checked_of_sublist {u : String} (hc : checked s = .ok path)
    (h : u.toList.Sublist s.toList) : checked u = .ok (Path.ofString u) := by
  unfold checked at hc ⊢
  split at hc
  · cases hc
  · next hnul =>
    split at hc
    · cases hc
    · next hsize =>
      have := Text.Utf8.size_le_of_sublist h
      have hnul' : ¬u.toList.contains '\x00' = true := by
        simp only [List.contains_eq_mem, decide_eq_true_eq] at hnul ⊢
        exact fun hm => hnul (h.subset hm)
      rw [if_neg hnul', if_neg (by omega)]

/-! ## Ways -/

theorem eq_of_walk_dot (h : t.walk p ["."] = .ok q) : q = p := by
  simp only [walk, if_true, dir_of_walk_singleton h, Except.ok.injEq] at h
  exact h.symm

/-- Parts that stay where they are can be left out. -/
theorem walk_filter {cs : List String} (h : t.walk p cs = .ok q) :
    t.walk p (cs.filter (· ≠ ".")) = .ok q := by
  induction cs generalizing p with
  | nil => exact h
  | cons c cs ih =>
    obtain ⟨r, hr, hrest⟩ := walk_cons_eq_ok.1 h
    by_cases hc : c = "."
    · subst hc
      obtain rfl := eq_of_walk_dot hr
      simpa using ih hrest
    · have hkept : (c :: cs).filter (· ≠ ".") = c :: cs.filter (· ≠ ".") := by simp [hc]
      rw [hkept]
      exact walk_cons_eq_ok.2 ⟨r, hr, ih hrest⟩

/-! ## Directories of files -/

variable {rooted slashed slashed' : Bool} {inits : List String} {last : String}

/-- Dots do not count, -/
theorem inner_rooted :
    (Path.mk true names slashed).inner = (names.filter (· ≠ ".")).reverse := by
  cases names with
  | nil => rfl
  | cons n ns => by_cases hn : n = "." <;> simp [Path.inner, hn, List.filter_filter]

/-- but for the first name of a relative path. -/
theorem inner_relative {n : String} :
    (Path.mk false (n :: names) slashed).inner = (n :: names.filter (· ≠ ".")).reverse := by
  simp [Path.inner]

theorem inner_append_singleton (h : last ≠ ".") :
    (Path.mk rooted (inits ++ [last]) slashed).inner =
      last :: (Path.mk rooted inits slashed').inner := by
  cases rooted with
  | true => simp [inner_rooted, h]
  | false =>
    cases inits with
    | nil => simp [Path.inner]
    | cons n ns => simp [inner_relative, h]

theorem inner_sublist : (Path.mk rooted names slashed).inner.reverse.Sublist names := by
  cases rooted with
  | true =>
    rw [inner_rooted, List.reverse_reverse]
    exact List.filter_sublist
  | false =>
    cases names with
    | nil => exact List.Sublist.refl _
    | cons n ns =>
      rw [inner_relative, List.reverse_reverse]
      exact List.filter_sublist.cons_cons n

theorem walk_inner (h : t.walk p names = .ok q) :
    t.walk p (Path.mk rooted names slashed).inner.reverse = .ok q := by
  cases rooted with
  | true =>
    rw [inner_rooted, List.reverse_reverse]
    exact walk_filter h
  | false =>
    cases names with
    | nil => exact h
    | cons n ns =>
      rw [inner_relative, List.reverse_reverse]
      obtain ⟨r, hr, hrest⟩ := walk_cons_eq_ok.1 h
      exact walk_cons_eq_ok.2 ⟨r, hr, walk_filter hrest⟩

theorem createAt_of_dir (hl : t.locate path = .ok p) (hp : t.at? p = some .dir)
    (around : Except FileFault Unit × FileTree) : t.createAt path around = (.ok (), t) := by
  have hmake : t.makeDir path = .error .alreadyThere := by
    simp only [makeDir, hl, bind, Except.bind, hp]
  have hdir : t.isDir path = true := by simp only [isDir, hl, hp, beq_self_eq_true]
  simp only [createAt, hmake, settle, hdir, if_true]

theorem exists_dir_of_file (h : t.locate path = .ok p) (hp : t.at? p ≠ some .dir) :
    ∃ inits last q, path.names = inits ++ [last] ∧ last ≠ "." ∧
      t.walk (t.start path.rooted) inits = .ok q ∧ t.at? q = some .dir := by
  obtain ⟨hstart, hw⟩ := locate_eq_ok.1 h
  rcases List.eq_nil_or_concat path.names with hn | ⟨inits, last, hn⟩
  · rw [hn] at hstart hw
    have hr : path.rooted = true := by simpa using hstart
    simp only [start, hr, if_true, walk, Except.ok.injEq] at hw
    exact absurd (by simp [← hw, at?]) hp
  · rw [List.concat_eq_append] at hn
    rw [hn] at hw
    obtain ⟨q, hq, hlast⟩ := walk_append_eq_ok.1 hw
    have hdir := dir_of_walk_singleton hlast
    refine ⟨inits, last, q, hn, ?_, hq, hdir⟩
    rintro rfl
    exact hp (eq_of_walk_dot hlast ▸ hdir)

/-- A file that can be read is in a directory that is there. -/
theorem makeParent_of_read (h : t.read s = .ok text) : t.makeParent s = .ok t := by
  obtain ⟨p, mode, ⟨path, hc, -, hl⟩, ha⟩ := read_eq_ok.1 h
  obtain rfl := checked_eq_ok hc
  obtain ⟨inits, last, q, hn, hlast, hq, hdir⟩ := exists_dir_of_file hl (by simp [ha])
  -- the directory as a path, without dots
  let dir : Path := ⟨(Path.ofString s).rooted,
    (Path.mk (Path.ofString s).rooted inits false).inner.reverse, false⟩
  have hparent : (Path.ofString s).parent? = some dir := by
    have hinner : (Path.ofString s).inner =
        last :: (Path.mk (Path.ofString s).rooted inits false).inner := by
      rw [← inner_append_singleton hlast, ← hn]
    rw [Path.parent?, hinner]
  have hsub : dir.names.Sublist (Path.ofString s).names := by
    rw [hn]
    exact inner_sublist.trans (List.sublist_append_left _ _)
  simp only [makeParent, createParent, hparent]
  split
  · rfl
  · next hne =>
    obtain ⟨hrooted, hnames⟩ :=
      ofString_text (fun n hm => name_of_mem (hsub.mem hm)) hne
    have htext : checked dir.text = .ok (Path.ofString dir.text) :=
      checked_of_sublist hc (text_sublist hsub)
    have hl : t.locate (Path.ofString dir.text) = .ok q := by
      refine locate_eq_ok.2 ⟨?_, ?_⟩
      · rw [hrooted, hnames]
        exact rooted_or_names_of_text hne
      · rw [hrooted, hnames]
        exact walk_inner hq
    rw [createDirs, if_neg hne, htext]
    simp only [createAt_of_dir hl hdir, whole]

theorem exists_write_of_write {u : FileTree} (h : t.write s text = .ok u) (text' : String) :
    ∃ u', t.write s text' = .ok u' := by
  unfold write at h ⊢
  simp only [Except.bind_eq_ok] at h
  obtain ⟨path, hc, p, hl, h⟩ := h
  simp only [hc, hl, bind, Except.bind]
  split at h
  · cases h
  · next x mode ha =>
    split at h
    · cases h
    · next hs => exact ⟨_, if_neg hs⟩
  · next ha =>
    split at h
    · cases h
    · next hs => exact ⟨_, if_neg hs⟩

theorem exists_setMode_of_read (h : t.read s = .ok text) (mode : Nat) :
    ∃ u, t.setMode s mode = .ok u := by
  obtain ⟨p, m, ⟨path, hc, -, hl⟩, ha⟩ := read_eq_ok.1 h
  refine ⟨t.put p (.file text mode), ?_⟩
  simp [setMode, hc, hl, ha, bind, Except.bind]

end FileTree

end SheetExport
