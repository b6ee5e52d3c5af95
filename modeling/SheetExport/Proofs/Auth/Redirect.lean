import Mathlib.Data.List.Basic
import Mathlib.Data.List.TakeWhile
import SheetExport.Auth.Provider
import SheetExport.Auth.Redirect
import SheetExport.Proofs.Text
import SheetExport.Proofs.Url.Form

/-!
# Redirects of the browser

Which request lines carry a code, and that it makes no difference in which pieces a
request arrives.
-/

/-!
## Codes of authorized redirects

A code is read from a request line exactly when the line has a target whose query
carries it with the state and holds no refusal; every other line is refused. A
browser that is sent back with pairs as a form writes such a line, whatever texts
the state and the code are: `code_eq_ok_iff`.
-/

namespace SheetExport

namespace Url

theorem clean_of_forall {cs : List Char} (h : ∀ c ∈ cs, isMargin c = false) : clean cs = cs := by
  have hdrop : cs.dropWhile isMargin = cs := by
    cases cs with
    | nil => rfl
    | cons c cs => exact List.dropWhile_cons_of_neg (by simp [h c List.mem_cons_self])
  have hdropEnd : cs.reverse.dropWhile isMargin = cs.reverse := by
    cases hcs : cs.reverse with
    | nil => rfl
    | cons c ds =>
      have hc : c ∈ cs := List.mem_reverse.1 (hcs ▸ List.mem_cons_self)
      exact List.dropWhile_cons_of_neg (by simp [h c hc])
  have hkept : ∀ c ∈ cs, Segments.isIgnored c = false := by
    intro c hc
    have hmargin := h c hc
    cases hi : Segments.isIgnored c with
    | false => rfl
    | true =>
      simp only [Segments.isIgnored, Bool.or_eq_true, beq_iff_eq] at hi
      rcases hi with (rfl | rfl) | rfl <;> cases hmargin
  rw [clean, hdrop, hdropEnd, List.reverse_reverse, List.filter_eq_self]
  simpa using hkept

theorem ending_of_notMem {special : Bool} {cs : List Char} (h : '#' ∉ cs)
    (hcs : percentEncode (.query special) cs = cs) :
    ending special ('?' :: cs) = (some cs, none) := by
  have hne : ∀ c ∈ cs, (c ≠ '#' : Bool) = true := fun c hc => by
    simpa using fun e : c = '#' => h (e ▸ hc)
  have htake : cs.takeWhile (· ≠ '#') = cs := List.takeWhile_eq_self_iff.2 hne
  have hdrop : ('?' :: cs).dropWhile (· ≠ '#') = [] :=
    List.dropWhile_eq_nil_iff.2 (List.forall_mem_cons.2 ⟨rfl, hne⟩)
  simp only [ending, hdrop, htake, hcs]

theorem percentEncode_query_encode (ps : List (String × String)) :
    percentEncode (.query true) (Form.encode ps) = Form.encode ps := by
  refine percentEncode_of_forall fun c hc => ?_
  obtain ⟨hlo, hhi, hset⟩ := Form.kept_of_isWritten (Form.isWritten_of_mem_encode hc)
  have hspace : c ≠ ' ' := by
    rintro rfl
    exact absurd hlo (by decide)
  simp only [List.mem_cons, List.not_mem_nil, or_false, not_or] at hset
  simp [EncodeSet.query, EncodeSet.controls, hset, hspace]
  omega

theorem number_notMem_encode (ps : List (String × String)) : '#' ∉ Form.encode ps :=
  fun h => absurd (Form.kept_of_isWritten (Form.isWritten_of_mem_encode h)).2.2 (by decide)

end Url

namespace Auth.Redirect

variable {name value state code line : String} {ps : List (String × String)}

/-! ### Pairs -/

/-- Pairs carry a code with a state, and no refusal. -/
structure Carries (ps : List (String × String)) (state code : String) : Prop where
  granted : ps.lookup "error" = none
  state : last? "state" ps = some state
  code : last? "code" ps = some code

theorem codeIn_eq_ok : codeIn state ps = .ok code ↔ Carries ps state code := by
  unfold codeIn
  constructor
  · intro h
    split at h
    · cases h
    · next hgranted =>
      split at h
      · cases h
      · next hstate =>
        split at h
        · next hcode =>
          cases h
          exact ⟨hgranted, by simpa using hstate, hcode⟩
        · cases h
  · rintro ⟨hgranted, hstate, hcode⟩
    simp [hgranted, hstate, hcode]

theorem codeIn_cases (state : String) (ps : List (String × String)) :
    (∃ code, codeIn state ps = .ok code) ∨ ∃ words, codeIn state ps = .error (.auth words) := by
  unfold codeIn
  split
  · exact .inr ⟨_, rfl⟩
  · split
    · exact .inr ⟨_, rfl⟩
    · split
      · exact .inl ⟨_, rfl⟩
      · exact .inr ⟨_, rfl⟩

/-- The last pair of a name has a value. -/
def Last (ps : List (String × String)) (name value : String) : Prop :=
  ∃ before after, ps = before ++ (name, value) :: after ∧ ∀ p ∈ after, p.1 ≠ name

theorem lookup_eq_none_iff : ps.lookup name = none ↔ ∀ p ∈ ps, p.1 ≠ name := by
  rw [List.lookup_eq_none_iff]
  exact forall₂_congr fun _ _ => bne_iff_ne.trans ne_comm

theorem last?_eq_some_iff : last? name ps = some value ↔ Last ps name value := by
  rw [last?, List.lookup_eq_some_iff]
  constructor
  · rintro ⟨after, before, hps, hafter⟩
    refine ⟨before.reverse, after.reverse, ?_, fun p hp => ?_⟩
    · rw [← List.reverse_reverse ps, hps]
      simp
    · exact ne_comm.1 (bne_iff_ne.1 (hafter p (List.mem_reverse.1 hp)))
  · rintro ⟨before, after, rfl, hafter⟩
    refine ⟨after.reverse, before.reverse, by simp, fun p hp => ?_⟩
    exact bne_iff_ne.2 (ne_comm.1 (hafter p (List.mem_reverse.1 hp)))

theorem carries_iff : Carries ps state code ↔
    (∀ p ∈ ps, p.1 ≠ "error") ∧ Last ps "state" state ∧ Last ps "code" code := by
  rw [← lookup_eq_none_iff, ← last?_eq_some_iff, ← last?_eq_some_iff]
  exact ⟨fun h => ⟨h.granted, h.state, h.code⟩, fun ⟨h, hs, hc⟩ => ⟨h, hs, hc⟩⟩

/-- The only pair of a name is the last one, wherever it stands. -/
theorem last_of_perm {others : List (String × String)} (h : ps.Perm ((name, value) :: others))
    (hn : ∀ p ∈ others, p.1 ≠ name) : Last ps name value := by
  obtain ⟨before, after, rfl⟩ := List.append_of_mem (h.mem_iff.2 List.mem_cons_self)
  have hrest : (before ++ after).Perm others :=
    (List.perm_cons _).1 (List.perm_middle.symm.trans h)
  exact ⟨before, after, rfl, fun p hp => hn p (hrest.mem_iff.1 (List.mem_append_right _ hp))⟩

/-- One pair with the state, one with the code and others carry the code, in any
order. -/
theorem carries_of_perm {others : List (String × String)}
    (h : ps.Perm (("state", state) :: ("code", code) :: others))
    (ho : ∀ p ∈ others, p.1 ∉ ["error", "state", "code"]) : Carries ps state code := by
  simp only [List.mem_cons, List.not_mem_nil, or_false, not_or] at ho
  refine carries_iff.2 ⟨?_, last_of_perm h ?_, last_of_perm (h.trans (.swap ..)) ?_⟩
  · intro p hp
    rcases List.mem_cons.1 (h.mem_iff.1 hp) with rfl | hp
    · simp
    · rcases List.mem_cons.1 hp with rfl | hp
      · simp
      · exact (ho p hp).1
  · exact List.forall_mem_cons.2 ⟨by simp, fun p hp => (ho p hp).2.1⟩
  · exact List.forall_mem_cons.2 ⟨by simp, fun p hp => (ho p hp).2.2⟩

/-! ### Request lines -/

/-- Targets are relative to this machine. -/
example : base.text = "http://127.0.0.1/" := by decide

def targetOf (ps : List (String × String)) : List Char := '/' :: '?' :: Url.Form.encode ps

def lineOfPairs (ps : List (String × String)) : String :=
  "GET /?" ++ String.ofList (Url.Form.encode ps) ++ " HTTP/1.1"

theorem kept_of_mem_targetOf {c : Char} (h : c ∈ targetOf ps) :
    0x20 < c.toNat ∧ c.toNat < 0x7F := by
  rcases List.mem_cons.1 h with rfl | h
  · decide
  rcases List.mem_cons.1 h with rfl | h
  · decide
  · have hc := Url.Form.kept_of_isWritten (Url.Form.isWritten_of_mem_encode h)
    exact ⟨hc.1, hc.2.1⟩

theorem target?_lineOfPairs (ps : List (String × String)) :
    target? (lineOfPairs ps) = some (String.ofList (targetOf ps)) := by
  have hall : "GET".toList.all (Text.isBlank · == false) = true := by decide
  have hget : ∀ c ∈ "GET".toList, Text.isBlank c = false := by
    simpa only [List.all_eq_true, beq_iff_eq] using hall
  have htarget : ∀ c ∈ targetOf ps, Text.isBlank c = false := by
    intro c hc
    have := kept_of_mem_targetOf hc
    simp [Text.isBlank]
    omega
  have hline : (lineOfPairs ps).toList =
      "GET".toList ++ ' ' :: (targetOf ps ++ ' ' :: "HTTP/1.1".toList) := by
    simp [lineOfPairs, targetOf]
  rw [target?, hline, Text.words_append hget (by decide) rfl,
    Text.words_append htarget (by simp [targetOf]) rfl]
  rfl

theorem resolve_targetOf (ps : List (String × String)) :
    Url.resolve base (String.ofList (targetOf ps)) =
      .ok { base with query := some (Url.Form.encode ps) } := by
  have hclean : Url.clean (targetOf ps) = targetOf ps := by
    refine Url.clean_of_forall fun c hc => ?_
    have := kept_of_mem_targetOf hc
    simp [Url.isMargin]
    omega
  have hending := Url.ending_of_notMem (Url.number_notMem_encode ps)
    (Url.percentEncode_query_encode ps)
  have hspecial : Url.isSpecial base.scheme = true := by decide
  have hpath : Url.resolve base (String.ofList (targetOf ps)) =
      .ok (Url.finish base.scheme base.authority (.segments [[]])
        ('?' :: Url.Form.encode ps)) := by
    rw [Url.resolve, String.toList_ofList, hclean]
    rfl
  rw [hpath, Url.finish, hspecial, hending]
  rfl

/-! ### Codes -/

theorem code_cases (line state : String) :
    (∃ code, Redirect.code line state = .ok code) ∨
      ∃ words, Redirect.code line state = .error (.auth words) := by
  unfold Redirect.code
  split
  · exact .inr ⟨_, rfl⟩
  · split
    · exact .inr ⟨_, rfl⟩
    · exact codeIn_cases _ _

/-- The code of a line is the one that the query of its target carries. -/
theorem code_eq_ok : Redirect.code line state = .ok code ↔
    ∃ target url, target? line = some target ∧ Url.resolve base target = .ok url ∧
      Carries url.pairs state code := by
  unfold Redirect.code
  cases htarget : target? line with
  | none => simp
  | some target =>
    cases hurl : Url.resolve base target with
    | error e => simp [hurl]
    | ok url => simp [hurl, codeIn_eq_ok]

/-- The code of pairs comes back from the line that has them as a form. -/
theorem code_lineOfPairs (h : Carries ps state code) :
    Redirect.code (lineOfPairs ps) state = .ok code := by
  refine code_eq_ok.2 ⟨_, _, target?_lineOfPairs ps, resolve_targetOf ps, ?_⟩
  rwa [Url.pairs, Option.getD_some, Url.Form.decode_encode]

/-- A line has a code exactly when it has a target whose query holds no refusal
and carries the code with the state; every other line is refused. In particular the
code comes back from a line that has it and the state as a form, with whatever else
and in any order. -/
theorem code_eq_ok_iff (line state : String) :
    (∀ code, Redirect.code line state = .ok code ↔
      ∃ target url, target? line = some target ∧ Url.resolve base target = .ok url ∧
        (∀ p ∈ url.pairs, p.1 ≠ "error") ∧ Last url.pairs "state" state ∧
        Last url.pairs "code" code) ∧
    ((∀ code, Redirect.code line state ≠ .ok code) →
      ∃ words, Redirect.code line state = .error (.auth words)) ∧
    ∀ code others ps, (∀ p ∈ others, p.1 ∉ ["error", "state", "code"]) →
      ps.Perm (("state", state) :: ("code", code) :: others) →
      Redirect.code (lineOfPairs ps) state = .ok code := by
  refine ⟨fun code => ?_, fun h => ?_, fun code others ps ho hps => ?_⟩
  · simp only [code_eq_ok, carries_iff]
  · obtain ⟨code, hcode⟩ | hwords := code_cases line state
    · exact absurd hcode (h code)
    · exact hwords
  · exact code_lineOfPairs (carries_of_perm hps ho)

/-- A code with signs and others than ASCII characters comes back, and a line with
no target is refused. -/
theorem code_eq_ok_iff_signs :
    Redirect.code (lineOfPairs [("x", ""), ("code", "4/0 +&=%#é"), ("state", "s t")]) "s t" =
      .ok "4/0 +&=%#é" ∧
    ∃ words, Redirect.code "GET" "s t" = .error (.auth words) :=
  ⟨(code_eq_ok_iff "" "s t").2.2 "4/0 +&=%#é" [("x", "")] _ (by decide) (by decide),
    (code_eq_ok_iff "GET" "s t").2.1 fun _ h => nomatch h⟩

end Auth.Redirect

end SheetExport

/-!
## Requests in pieces

A request of the browser arrives in pieces, and how it is cut makes no
difference: what is read of it has the same first line, and that line alone
settles the code and the answer: `respond_of_arrives`.
-/

namespace SheetExport.Auth

namespace Redirect

open Text.Utf8 (decodeLossy)

/-! ### First lines -/

/-- The first line of bytes, without its line ending. A carriage return belongs
to the ending only before a line feed. -/
inductive FirstLine : List UInt8 → List UInt8 → Prop where
  | whole {line : List UInt8} : 10 ∉ line → FirstLine line line
  | lf {line : List UInt8} (rest : List UInt8) : 10 ∉ line → line.getLast? ≠ some 13 →
      FirstLine (line ++ 10 :: rest) line
  | crlf {line : List UInt8} (rest : List UInt8) : 10 ∉ line →
      FirstLine (line ++ 13 :: 10 :: rest) line

variable {bs line rest : List UInt8} {pieces : List (List UInt8)}

theorem exists_firstLine (bs : List UInt8) : ∃ line, FirstLine bs line := by
  by_cases h : 10 ∈ bs
  · obtain ⟨line, rest, rfl, hline⟩ := List.eq_append_cons_of_mem h
    by_cases hlast : line.getLast? = some 13
    · obtain ⟨short, rfl⟩ := List.getLast?_eq_some_iff.1 hlast
      rw [List.append_assoc]
      exact ⟨short, .crlf rest fun hmem => hline (List.mem_append_left _ hmem)⟩
    · exact ⟨line, .lf rest hline hlast⟩
  · exact ⟨bs, .whole h⟩

/-- A line feed that ends a line within more bytes ends it within those that hold it. -/
theorem exists_eq_append {tail : List UInt8} (h : bs ++ rest = line ++ 10 :: tail)
    (hline : 10 ∉ line) (hbs : 10 ∈ bs) : ∃ tail, bs = line ++ 10 :: tail := by
  obtain ⟨more, rfl, -⟩ | ⟨more, rfl, hmore⟩ := List.append_eq_append_iff.1 h
  · exact absurd (List.mem_append_left _ hbs) hline
  · cases more with
    | nil => exact absurd (by simpa using hbs) hline
    | cons b more =>
      obtain ⟨rfl, -⟩ := List.cons.inj hmore
      exact ⟨more, rfl⟩

theorem FirstLine.of_append (h : FirstLine (bs ++ rest) line) (hbs : 10 ∈ bs) :
    FirstLine bs line := by
  generalize hall : bs ++ rest = all at h
  cases h with
  | whole hline => exact absurd (hall ▸ List.mem_append_left rest hbs) hline
  | lf tail hline hlast =>
    obtain ⟨tail, rfl⟩ := exists_eq_append hall hline hbs
    exact .lf tail hline hlast
  | crlf tail hline =>
    have hreturn : 10 ∉ line ++ [13] := by simpa using hline
    rw [List.append_cons line 13] at hall
    obtain ⟨tail, rfl⟩ := exists_eq_append hall hreturn hbs
    rw [List.append_assoc]
    exact .crlf tail hline

section

variable {cs : List Char}

theorem ne_newline_of_mem (h : '\n' ∉ cs) : ∀ c ∈ cs, decide (c ≠ '\n') = true :=
  fun c hc => by simpa using fun e : c = '\n' => h (e ▸ hc)

theorem takeWhile_newline (h : '\n' ∉ cs) (ds : List Char) :
    (cs ++ '\n' :: ds).takeWhile (· ≠ '\n') = cs := by
  rw [List.takeWhile_append_of_pos (ne_newline_of_mem h)]
  exact List.append_nil cs

theorem lineOf_whole (h : '\n' ∉ cs) : lineOf cs = cs := by
  have htake := List.takeWhile_eq_self_iff.2 (ne_newline_of_mem h)
  simp only [lineOf, htake, Nat.lt_irrefl, decide_false, Bool.false_and, Bool.false_eq_true,
    if_false]

theorem lineOf_lf (h : '\n' ∉ cs) (hlast : cs.getLast? ≠ some '\r') (ds : List Char) :
    lineOf (cs ++ '\n' :: ds) = cs := by
  simp only [lineOf, takeWhile_newline h, hlast, decide_false, Bool.and_false,
    Bool.false_eq_true, if_false]

theorem lineOf_crlf (h : '\n' ∉ cs) (ds : List Char) :
    lineOf (cs ++ '\r' :: '\n' :: ds) = cs := by
  have hreturn : '\n' ∉ cs ++ ['\r'] := by simpa using h
  have hlength : (cs ++ ['\r']).length < (cs ++ ['\r'] ++ '\n' :: ds).length := by
    simp only [List.length_append, List.length_cons]
    omega
  have hlast : (cs ++ ['\r']).getLast? = some '\r' := List.getLast?_concat
  rw [List.append_cons cs]
  simp only [lineOf, takeWhile_newline hreturn, hlength, hlast, decide_true, Bool.and_self, if_true]
  exact List.dropLast_concat

end

theorem newline_notMem (h : 10 ∉ bs) : '\n' ∉ decodeLossy bs :=
  Text.Utf8.notMem_decodeLossy (b := 10) (by decide) (by decide) h

theorem return_notMem (h : 13 ∉ bs) : '\r' ∉ decodeLossy bs :=
  Text.Utf8.notMem_decodeLossy (b := 13) (by decide) (by decide) h

/-- A carriage return is the last character only if it is the last byte. -/
theorem getLast?_decodeLossy (h : bs.getLast? ≠ some 13) :
    (decodeLossy bs).getLast? ≠ some '\r' := by
  intro hlast
  by_cases hmem : 13 ∈ bs.reverse
  · obtain ⟨after, before, hbs, hafter⟩ := List.eq_append_cons_of_mem hmem
    obtain rfl : bs = before.reverse ++ 13 :: after.reverse := by
      simpa using congrArg List.reverse hbs
    have hne : decodeLossy after.reverse ≠ [] := by
      refine Text.Utf8.decodeLossy_ne_nil ?_
      rintro hnil
      simp [hnil] at h
    have hdecoded : (decodeLossy (before.reverse ++ 13 :: after.reverse)).getLast? =
        (decodeLossy after.reverse).getLast? := by
      rw [Text.Utf8.decodeLossy_append (by decide), List.append_cons,
        List.getLast?_append_of_ne_nil _ hne]
    rw [hdecoded] at hlast
    exact return_notMem (by simpa using hafter) (List.mem_of_getLast? hlast)
  · exact return_notMem (by simpa using hmem) (List.mem_of_getLast? hlast)

/-- The first line is found in the bytes as well as in the text. -/
theorem lineOf_decodeLossy (h : FirstLine bs line) :
    lineOf (decodeLossy bs) = decodeLossy line := by
  cases h with
  | whole hline => exact lineOf_whole (newline_notMem hline)
  | lf rest hline hlast =>
    rw [Text.Utf8.decodeLossy_append (by decide)]
    exact lineOf_lf (newline_notMem hline) (getLast?_decodeLossy hlast) _
  | crlf rest hline =>
    have hrest : decodeLossy (10 :: rest) = '\n' :: decodeLossy rest :=
      Text.Utf8.decodeLossy_ascii (n := 10) (by decide)
    rw [Text.Utf8.decodeLossy_append (by decide), hrest]
    exact lineOf_crlf (newline_notMem hline) _

theorem firstLine_eq (h : FirstLine bs line) :
    firstLine bs = String.ofList (decodeLossy line) :=
  congrArg String.ofList (lineOf_decodeLossy h)

/-! ### Arrival -/

/-- Bytes arrive in pieces, none of them empty; an empty one is the end of the
connection, after which nothing is read. -/
inductive Arrives : List UInt8 → List (List UInt8) → Prop where
  | none : Arrives [] []
  | closed (pieces : List (List UInt8)) : Arrives [] ([] :: pieces)
  | piece {piece bs : List UInt8} {pieces : List (List UInt8)} : piece ≠ [] →
      Arrives bs pieces → Arrives (piece ++ bs) (piece :: pieces)

theorem arrives_flatten (h : ∀ piece ∈ pieces, piece ≠ []) : Arrives pieces.flatten pieces := by
  induction pieces with
  | nil => exact .none
  | cons piece pieces ih =>
    obtain ⟨hpiece, hpieces⟩ := List.forall_mem_cons.1 h
    exact .piece hpiece (ih hpieces)

/-- The end of the first line comes before the limit. -/
def EndsInTime (bs : List UInt8) : Prop :=
  10 ∈ bs.take sizeLimit ∨ 10 ∉ bs ∧ bs.length < sizeLimit

theorem mem_of_hasBlankLine (h : hasBlankLine bs = true) : 10 ∈ bs := by
  induction bs with
  | nil => cases h
  | cons b bs ih =>
    rw [hasBlankLine, Bool.or_eq_true, List.isPrefixOf_iff_prefix] at h
    obtain hprefix | h := h
    · exact hprefix.subset (by simp)
    · exact List.mem_cons_of_mem b (ih h)

theorem exists_receivedAfter (h : Arrives bs pieces) (start : List UInt8) :
    ∃ rest, start ++ bs = receivedAfter start pieces ++ rest ∧
      (rest = [] ∨ isComplete (receivedAfter start pieces) = true) := by
  induction h generalizing start with
  | none => exact ⟨[], rfl, .inl rfl⟩
  | closed => exact ⟨[], by simp [receivedAfter], .inl rfl⟩
  | @piece piece bs pieces hne h ih =>
    rw [receivedAfter, if_neg hne]
    split
    · next hcomplete => exact ⟨bs, by rw [List.append_assoc], .inr hcomplete⟩
    · rw [← List.append_assoc]
      exact ih (start ++ piece)

theorem exists_received (h : Arrives bs pieces) :
    ∃ rest, bs = received pieces ++ rest ∧ (rest = [] ∨ isComplete (received pieces) = true) := by
  have h := exists_receivedAfter h []
  rwa [List.nil_append] at h

/-- However the bytes arrive, what is read of them has their first line. -/
theorem firstLine_received (h : EndsInTime bs) (ha : Arrives bs pieces) (hl : FirstLine bs line) :
    FirstLine (received pieces) line := by
  obtain ⟨rest, hbs, hstop⟩ := exists_received ha
  obtain rfl | hcomplete := hstop
  · rwa [hbs, List.append_nil] at hl
  · refine FirstLine.of_append (hbs ▸ hl) ?_
    rw [isComplete, Bool.or_eq_true, decide_eq_true_eq] at hcomplete
    obtain hblank | hlength := hcomplete
    · exact mem_of_hasBlankLine hblank
    · rw [hbs] at h
      obtain h | ⟨-, hshort⟩ := h
      · rw [List.take_append_of_le_length hlength] at h
        exact List.mem_of_mem_take h
      · rw [List.length_append] at hshort
        omega

theorem toList_answer (authorized : Bool) : ∃ rest, (answer authorized).toList =
    "HTTP/1.1 ".toList ++ ((if authorized then "200 OK" else "400 Bad Request").toList ++
      ("\r\nContent-Type: text/html; charset=utf-8\r\nContent-Length: ".toList ++ rest)) := by
  simp only [answer, String.toList_append, List.append_assoc]
  exact ⟨_, rfl⟩

theorem ok_prefix_answer {α : Type} (r : Except Failure α) :
    "HTTP/1.1 200 OK\r\n".toList <+: (answer r.toBool).toList ↔ ∃ a, r = .ok a := by
  obtain ⟨rest, hrest⟩ := toList_answer r.toBool
  rw [hrest]
  cases r with
  | error f =>
    refine ⟨?_, nofun⟩
    rintro ⟨t, ht⟩
    -- the first digits of the status differ
    have hstatus := congrArg (List.take 10) ht
    simp [Except.toBool] at hstatus
  | ok a =>
    refine ⟨fun _ => ⟨a, rfl⟩, fun _ => ?_⟩
    show "HTTP/1.1 200 OK\r\n".toList <+: "HTTP/1.1 ".toList ++ ("200 OK".toList ++ _)
    repeat rw [String.toList_ofList]
    exact ⟨_, rfl⟩

end Redirect

open Redirect

/-- A request whose first line ends in time is answered by that line: however it
arrives, the line is the text of its bytes, the code is the one in it, the browser is
told of success exactly if there is one, and any other request with that line gets the same. -/
theorem respond_of_arrives {bs : List UInt8} (h : EndsInTime bs) :
    ∃ line, FirstLine bs line ∧ ∀ pieces state, Arrives bs pieces →
      firstLine (received pieces) = String.ofList (Text.Utf8.decodeLossy line) ∧
      (respond state pieces).1 = code (String.ofList (Text.Utf8.decodeLossy line)) state ∧
      ("HTTP/1.1 200 OK\r\n".toList <+: (respond state pieces).2.toList ↔
        ∃ code, (respond state pieces).1 = .ok code) ∧
      ∀ bs' pieces', EndsInTime bs' → FirstLine bs' line → Arrives bs' pieces' →
        respond state pieces' = respond state pieces := by
  obtain ⟨line, hline⟩ := exists_firstLine bs
  have hread : ∀ {bs pieces}, EndsInTime bs → FirstLine bs line → Arrives bs pieces →
      firstLine (received pieces) = String.ofList (Text.Utf8.decodeLossy line) :=
    fun h hl ha => firstLine_eq (firstLine_received h ha hl)
  refine ⟨line, hline, fun pieces state ha => ?_⟩
  have hfirst := hread h hline ha
  refine ⟨hfirst, by rw [respond, hfirst], ok_prefix_answer _, fun bs' pieces' h' hl' ha' => ?_⟩
  rw [respond, respond, hfirst, hread h' hl' ha']

/-- A request that is cut within a character and within line endings. -/
def cutRequest : List (List UInt8) :=
  [Text.Utf8.ofString "GET /?code=" ++ [0xC3],
    0xA9 :: Text.Utf8.ofString "&state=s HTTP/1.1\r", [10, 13], [10]]

/-- It is answered as in one piece. -/
theorem respond_of_arrives_cutRequest :
    respond "s" [cutRequest.flatten] = respond "s" cutRequest := by
  have hends : EndsInTime cutRequest.flatten := .inl (by decide +kernel)
  have hcut : Arrives cutRequest.flatten cutRequest := arrives_flatten (by decide)
  have hwhole : Arrives cutRequest.flatten [cutRequest.flatten] := by
    have h := @arrives_flatten [cutRequest.flatten] (by decide)
    rwa [List.flatten_cons, List.flatten_nil, List.append_nil] at h
  obtain ⟨line, hline, hresponds⟩ := respond_of_arrives hends
  exact (hresponds cutRequest "s" hcut).2.2.2 _ _ hends hline hwhole

end SheetExport.Auth
