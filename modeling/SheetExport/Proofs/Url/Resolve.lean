import SheetExport.Proofs.Effect
import SheetExport.Proofs.Url.Path
import SheetExport.Url

/-!
# Paths of addresses that were read

No segment of an address that was read holds a slash, and the path of a file
begins with an empty segment only if it is a slash alone: `tidy_of_parse`.
-/

namespace SheetExport.Url

open Segments (Parted)

variable {ss below : Segments} {scheme cs : List Char} {authority : Option Authority} {u : Url}

/-- What is true of the path of every address that was read. -/
def Tidy (u : Url) : Prop :=
  ∀ ss, u.path = .segments ss →
    Parted ss ∧ (u.scheme = fileScheme → ss.head? = some [] → ss = [[]])

/-! ## Segments as they are read -/

theorem parted_segmentsFrom (h : Parted below) (special : Bool) (cs : List Char) :
    Parted (segmentsFrom special below cs) := by
  refine Segments.parted_follow h.reverse ?_
  intro s hs
  obtain ⟨piece, hpiece, rfl⟩ := List.mem_map.1 hs
  refine slash_notMem_percentEncode (.inr fun hslash => ?_)
  have hsep := Text.sep_of_mem_pieces hpiece hslash
  simp [isSlash] at hsep

namespace Segments

theorem parted_nameDrive (h : Parted ss) : Parted (nameDrive ss) := by
  unfold nameDrive
  split
  · next a ss =>
    have hdrive : '/' ∉ [a, '|'] := h _ List.mem_cons_self
    have hss : Parted ss := h.of_subset (List.subset_cons_self _ _)
    split
    · have hnamed : Parted [[a, ':']] := parted_singleton (by simpa using hdrive)
      exact hnamed.append hss
    · exact h
  · exact h

theorem nameDrive_of_head? (h : (nameDrive ss).head? = some []) : nameDrive ss = ss := by
  unfold nameDrive at h ⊢
  split at h
  · split at h <;> cases h
  · rfl

end Segments

/-! ## Addresses as they are read -/

/-- The path of the address has slashes between its segments only. -/
def HasParted (u : Url) : Prop := ∀ ss, u.path = .segments ss → Parted ss

theorem tidy_of_hasParted (h : u.HasParted) (hscheme : u.scheme ≠ fileScheme) : u.Tidy :=
  fun ss hss => ⟨h ss hss, fun hfile => absurd hfile hscheme⟩

theorem hasParted_onPath (h : Parted below) : (onPath scheme authority below cs).HasParted := by
  rintro ss ⟨rfl⟩
  exact parted_segmentsFrom h _ _

theorem hasParted_afterAuthority (a : Authority) : (afterAuthority scheme a cs).HasParted := by
  unfold afterAuthority
  split
  · rintro ss ⟨rfl⟩
    split
    · exact Segments.parted_singleton List.not_mem_nil
    · exact Segments.parted_nil
  · dsimp only
    split
    · exact hasParted_onPath Segments.parted_nil
    · split
      · rintro ss ⟨rfl⟩
        exact Segments.parted_nil
      · exact hasParted_onPath Segments.parted_nil

theorem scheme_afterAuthority (a : Authority) : (afterAuthority scheme a cs).scheme = scheme := by
  unfold afterAuthority
  dsimp only
  repeat' split
  all_goals rfl

theorem tidy_fileAddress (h : u.HasParted) : (fileAddress u).Tidy := by
  intro ss hss
  unfold fileAddress at hss
  split at hss
  · next hplain =>
    rw [hplain] at hss
    cases hss
  · next old hold =>
    obtain rfl : Segments.nameDrive (Segments.dropEmpty old) = ss := by simpa using hss
    have hdrop := (h old hold).of_subset (Segments.dropEmpty_suffix old).subset
    refine ⟨Segments.parted_nameDrive hdrop, fun _ hhead => ?_⟩
    have hname := Segments.nameDrive_of_head? hhead
    rw [hname] at hhead ⊢
    exact Segments.head?_dropEmpty old hhead

theorem hasParted_relative (here : Option Authority) (cs : List Char) :
    (onFile.relative here [] cs).HasParted := by
  have hroot : Parted [[]] := Segments.parted_singleton List.not_mem_nil
  unfold onFile.relative
  split
  · rintro ss ⟨rfl⟩
    exact hroot
  · split
    · exact hasParted_onPath Segments.parted_nil
    · split
      · rintro ss ⟨rfl⟩
        exact hroot
      · exact hasParted_onPath Segments.parted_nil

theorem tidy_onFile (h : onFile none cs = .ok u) : u.Tidy := by
  unfold onFile at h
  dsimp only at h
  split at h
  · split at h
    · obtain ⟨⟨host, rest⟩, -, hu⟩ := Except.bind_eq_ok.1 h
      obtain rfl := Except.ok.inj hu
      exact tidy_fileAddress (hasParted_afterAuthority host)
    · split at h
      · obtain rfl := Except.ok.inj h
        exact tidy_fileAddress (hasParted_onPath Segments.parted_nil)
      · obtain rfl := Except.ok.inj h
        exact tidy_fileAddress (hasParted_relative _ _)
  · obtain rfl := Except.ok.inj h
    exact tidy_fileAddress (hasParted_relative _ _)

theorem tidy_onAuthority (hscheme : scheme ≠ fileScheme) (h : onAuthority scheme cs = .ok u) :
    u.Tidy := by
  obtain ⟨⟨a, rest⟩, -, hu⟩ := Except.bind_eq_ok.1 h
  obtain rfl := Except.ok.inj hu
  refine tidy_of_hasParted (hasParted_afterAuthority a) ?_
  rwa [scheme_afterAuthority]

theorem tidy_afterScheme (h : afterScheme none scheme cs = .ok u) : u.Tidy := by
  unfold afterScheme at h
  dsimp only at h
  split at h
  · exact tidy_onFile h
  · next hscheme =>
    split at h
    · exact tidy_onAuthority hscheme h
    · split at h
      · exact tidy_onAuthority hscheme h
      · obtain rfl := Except.ok.inj h
        exact tidy_of_hasParted (hasParted_onPath Segments.parted_nil) hscheme
      · obtain rfl := Except.ok.inj h
        exact tidy_of_hasParted (fun ss hss => nomatch hss) hscheme

theorem tidy_of_parse {s : String} (h : parse s = .ok u) : u.Tidy := by
  unfold parse ofClean at h
  split at h
  · exact tidy_afterScheme h
  · cases h

end SheetExport.Url
