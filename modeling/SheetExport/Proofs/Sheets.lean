import SheetExport.Export.Run
import SheetExport.Proofs.Http
import SheetExport.Proofs.Json.Members
import SheetExport.Proofs.Url.Resolve
import SheetExport.Sheets.Client
import SheetExport.Tab

/-!
# Requests and answers of the sheets service

Where the requests of a client go, and what becomes of the integers in an answer.
-/

/-!
## Where requests go

The request for the names of the tabs, or the values in a range, goes to a path
below the base that ends in the texts asked for, exactly if they are kept as
they are: `addresses_iff`. Ranges of tabs are, unless the name of the tab holds a
line end or tab.
-/

namespace SheetExport.A1

open Url.Segments (Kept isIgnored)

/-! ### Ranges of tabs -/

theorem isIgnored_letter : ∀ d < 26, isIgnored (Column.letter d) = false := by decide

theorem isIgnored_of_isDigit {c : Char} (h : c.isDigit = true) : isIgnored c = false := by
  have hne (d : Char) (hd : d.isDigit = false) : c ≠ d := by
    rintro rfl
    rw [h] at hd
    cases hd
  simp [isIgnored, hne '\t' (by decide), hne '\n' (by decide), hne '\r' (by decide)]

theorem Range.isIgnored_of_mem_chars {r : Range} {c : Char} (h : c ∈ r.chars) :
    isIgnored c = false := by
  obtain ⟨d, hd, rfl⟩ | h | rfl := Range.mem_chars h
  · exact isIgnored_letter d hd
  · exact isIgnored_of_isDigit h
  · rfl

theorem mem_quotedName {name : String} {c : Char} :
    c ∈ quotedName name ↔ c = '\'' ∨ c ∈ name.toList := by
  have hdouble (d : Char) : c ∈ (if d = '\'' then ['\'', '\''] else [d]) ↔ c = d := by
    split
    · next hd => simp [hd]
    · exact List.mem_singleton
  simp only [quotedName, List.cons_append, List.mem_cons, List.mem_append, List.mem_flatMap,
    hdouble, List.not_mem_nil, or_false]
  constructor
  · rintro (h | ⟨d, hd, rfl⟩ | h)
    · exact .inl h
    · exact .inr hd
    · exact .inl h
  · rintro (h | h)
    · exact .inl h
    · exact .inr (.inl ⟨c, h, rfl⟩)

/-- The range within a tab is kept unless the name of the tab is not. -/
theorem kept_forTab (r : Range) (name : String) :
    Kept (r.forTab name).toList ↔ ∀ c ∈ name.toList, isIgnored c = false := by
  have hlist : (r.forTab name).toList = quotedName name ++ '!' :: r.chars := String.toList_ofList
  have hquote (t : List Char) (h : '\'' ∉ t) : (r.forTab name).toList ≠ t := by
    rintro rfl
    rw [hlist] at h
    exact h (List.mem_append_left _ (mem_quotedName.2 (.inl rfl)))
  constructor
  · intro h c hc
    refine h.2.2 c ?_
    rw [hlist]
    exact List.mem_append_left _ (mem_quotedName.2 (.inr hc))
  · intro h
    refine ⟨hquote _ (by decide), hquote _ (by decide), fun c hc => ?_⟩
    rw [hlist] at hc
    rcases List.mem_append.1 hc with hc | hc
    · rcases mem_quotedName.1 hc with rfl | hc
      · rfl
      · exact h c hc
    · rcases List.mem_cons.1 hc with rfl | hc
      · rfl
      · exact Range.isIgnored_of_mem_chars hc

end SheetExport.A1

namespace SheetExport.Sheets.Client

open Url.Segments (Kept isIgnored)
open Text.Utf8 (ofString)

variable {base token : String} {render : ValueRender} {c : Client}

/-! ### Paths below a base -/

theorem parse_of_ofBase (h : ofBase base token render = .ok c) :
    Url.parse base = .ok c.base ∧ ∃ ss, c.base.path = .segments ss := by
  unfold ofBase at h
  split at h
  · cases h
  · next u hparse =>
    split at h
    · cases h
    · next ss hpath =>
      obtain rfl := Except.ok.inj h
      exact ⟨hparse, ss, hpath⟩

theorem forall_kept_texts (segments : List String) :
    (∀ t ∈ ("spreadsheets" :: segments).map String.toList, Kept t) ↔
      ∀ s ∈ segments, Kept s.toList := by
  have hfixed : Kept "spreadsheets".toList := by decide
  rw [List.map_cons, List.forall_mem_cons, List.forall_mem_map]
  exact and_iff_right hfixed

theorem forall_kept_values (id range : String) :
    (∀ s ∈ [id, "values", range], Kept s.toList) ↔ Kept id.toList ∧ Kept range.toList := by
  have hfixed : Kept "values".toList := by decide
  rw [List.forall_mem_cons, List.forall_mem_cons, List.forall_mem_singleton]
  exact and_congr_right fun _ => and_iff_right hfixed

/-- An address below a base ends in the texts asked for exactly if they are kept
and the path of the base is not two slashes. -/
theorem parts_endpoint_iff {ss : Url.Segments} (hpath : c.base.path = .segments ss)
    (htidy : c.base.Tidy) (segments : List String) :
    (c.endpoint segments).path.parts =
        c.base.path.below ++ ("spreadsheets" :: segments).map ofString ↔
      c.base.path ≠ .segments [[], []] ∧ ∀ s ∈ segments, Kept s.toList := by
  obtain ⟨hparted, hfile⟩ := htidy ss hpath
  have hpush : c.base.pushSegments? (("spreadsheets" :: segments).map String.toList) =
      some (c.endpoint segments) := by
    simp only [endpoint, Url.pushSegments?, hpath, Option.getD_some]
  have hne : ("spreadsheets" :: segments).map String.toList ≠ [] := List.cons_ne_nil _ _
  have hhead : (("spreadsheets" :: segments).map String.toList).head? ≠ some [] := by simp
  have hparts := Url.parts_pushSegments?_iff hpath hparted hfile hne hhead hpush
  rw [forall_kept_texts, List.map_map] at hparts
  exact hparts

theorem exists_parts_endpoint {ss : Url.Segments} (hpath : c.base.path = .segments ss)
    (htidy : c.base.Tidy) :
    ∃ below, ∀ segments : List String, (∀ s ∈ segments, Kept s.toList) →
      (c.endpoint segments).path.parts = below ++ ("spreadsheets" :: segments).map ofString := by
  by_cases hslashes : c.base.path = .segments [[], []]
  · let bare : Client := { c with base := { c.base with path := .segments [] } }
    have hbare : bare.base.Tidy := by
      rintro _ ⟨rfl⟩
      exact ⟨Url.Segments.parted_nil, fun _ h => nomatch h⟩
    refine ⟨bare.base.path.below, fun segments hkept => ?_⟩
    have hsame : c.endpoint segments = bare.endpoint segments := by
      have hfixed : Kept "spreadsheets".toList := by decide
      have hpush := Url.pushSegments?_slashes (segments.map String.toList) hslashes hfixed
      simp only [endpoint, List.map_cons, hpush]
      rfl
    rw [hsame]
    exact (parts_endpoint_iff rfl hbare segments).2 ⟨by simp [bare], hkept⟩
  · exact ⟨_, fun segments hkept => (parts_endpoint_iff hpath htidy segments).2 ⟨hslashes, hkept⟩⟩

theorem endpoint_withPath (c : Client) (segments : List String) :
    c.endpoint segments = { c.base with path := (c.endpoint segments).path } := by
  unfold endpoint Url.pushSegments?
  split <;> rfl

theorem sent_valuesDraft (c : Client) (id range : String) : (c.valuesDraft id range).sent =
    { (Http.Draft.takeUser c.base).2 with path := (c.endpoint [id, "values", range]).path }.addPairs
      (c.valuesDraft id range).query := by
  have hurl : (c.valuesDraft id range).url =
      { c.base with path := (c.endpoint [id, "values", range]).path } := endpoint_withPath c _
  have hquery : (c.valuesDraft id range).query ≠ [] := List.cons_ne_nil _ _
  rw [Http.Draft.sent, if_neg hquery, hurl, Http.Draft.takeUser_withPath]

theorem parts_of_request {id range id' range' : String} {r r' : Http.Request}
    {shown shown' : String} {secure secure' : Bool}
    (h : (c.valuesDraft id range).request = .ok (r, shown, secure))
    (h' : (c.valuesDraft id' range').request = .ok (r', shown', secure')) (hurl : r.url = r'.url) :
    (c.endpoint [id, "values", range]).path.parts =
      (c.endpoint [id', "values", range']).path.parts := by
  obtain ⟨hauthority, rfl⟩ := Http.Draft.request_eq_ok h
  obtain ⟨-, rfl⟩ := Http.Draft.request_eq_ok h'
  have hbase : c.base.authority.isSome := by
    rw [show (c.valuesDraft id range).url = _ from endpoint_withPath c _] at hauthority
    exact hauthority
  rw [sent_valuesDraft, sent_valuesDraft] at hurl
  have hchars := Http.Draft.chars_of_target (Http.Draft.isSome_authority_takeUser hbase) hurl
  rw [Url.Path.parts, hchars]
  rfl

/-! ### Addresses of requests -/

/-- The paths of the requests below a base are the parts of the base, then those
asked for, exactly if these are kept and the path of the base is not two
slashes. Requests for kept texts differ if the texts do. -/
theorem addresses_iff (h : ofBase base token render = .ok c) (id : String) :
    ((c.namesDraft id).url.path.parts = c.base.path.below ++ ["spreadsheets", id].map ofString ↔
      c.base.path ≠ .segments [[], []] ∧ Kept id.toList) ∧
    (∀ range, (c.valuesDraft id range).url.path.parts =
        c.base.path.below ++ ["spreadsheets", id, "values", range].map ofString ↔
      c.base.path ≠ .segments [[], []] ∧ Kept id.toList ∧ Kept range.toList) ∧
    (∀ (r : A1.Range) (name : String), (c.valuesDraft id (r.forTab name)).url.path.parts =
        c.base.path.below ++ ["spreadsheets", id, "values", r.forTab name].map ofString ↔
      c.base.path ≠ .segments [[], []] ∧ Kept id.toList ∧
        ∀ ch ∈ name.toList, isIgnored ch = false) ∧
    ∀ range id' range' r r' shown shown' secure secure', Kept id.toList → Kept range.toList →
      Kept id'.toList → Kept range'.toList →
      (c.valuesDraft id range).request = .ok (r, shown, secure) →
      (c.valuesDraft id' range').request = .ok (r', shown', secure') →
      r.url = r'.url → id = id' ∧ range = range' := by
  obtain ⟨hparse, ss, hpath⟩ := parse_of_ofBase h
  have htidy := Url.tidy_of_parse hparse
  refine ⟨?_, fun range => ?_, fun r name => ?_, ?_⟩
  · have hnames := parts_endpoint_iff hpath htidy [id]
    rwa [List.forall_mem_singleton] at hnames
  · have hvalues := parts_endpoint_iff hpath htidy [id, "values", range]
    rwa [forall_kept_values] at hvalues
  · have hvalues := parts_endpoint_iff hpath htidy [id, "values", r.forTab name]
    rwa [forall_kept_values, A1.kept_forTab] at hvalues
  · intro range id' range' r r' shown shown' secure secure' hid hrange hid' hrange' hr hr' hurl
    obtain ⟨below, hbelow⟩ := exists_parts_endpoint hpath htidy
    have hparts := parts_of_request hr hr' hurl
    rw [hbelow _ ((forall_kept_values id range).2 ⟨hid, hrange⟩),
      hbelow _ ((forall_kept_values id' range').2 ⟨hid', hrange'⟩)] at hparts
    simp only [List.append_cancel_left_eq, List.map_cons, List.cons.injEq, true_and, List.map_nil,
      and_true] at hparts
    exact ⟨String.toList_inj.1 (Text.Utf8.encode_inj hparts.1),
      String.toList_inj.1 (Text.Utf8.encode_inj hparts.2)⟩

def loopback : Client where
  base :=
    { scheme := "http".toList
      authority := some { host := .ipv6 [0, 0, 0, 0, 0, 0, 0, 1] }
      path := .segments ["v4".toList, []] }
  accessToken := "t"
  valueRender := .formatted

theorem ofBase_loopback : ofBase "http://[::1]/v4/" "t" .formatted = .ok loopback := rfl

theorem exists_request_loopback : ∀ range ∈ ["'a/b'!A:Z", "'ab'!A:Z"],
    ∃ r, (loopback.valuesDraft "abc" range).request = .ok r := by
  have hsent : ∀ range ∈ ["'a/b'!A:Z", "'ab'!A:Z"],
      (loopback.valuesDraft "abc" range).request.toOption.isSome := by decide +kernel
  intro range hrange
  obtain ⟨r, hr⟩ := Option.isSome_iff_exists.1 (hsent range hrange)
  exact ⟨r, Except.toOption_eq_some.1 hr⟩

/-- A slash in a range is part of it, and its request is another one. -/
theorem addresses_iff_slash :
    (loopback.valuesDraft "abc" "'a/b'!A:Z").url.path.parts =
      ["v4", "spreadsheets", "abc", "values", "'a/b'!A:Z"].map ofString ∧
    ∃ r r', (loopback.valuesDraft "abc" "'a/b'!A:Z").request = .ok r ∧
      (loopback.valuesDraft "abc" "'ab'!A:Z").request = .ok r' ∧ r.1.url ≠ r'.1.url := by
  have hid : Kept "abc".toList := by decide
  have hslash : Kept "'a/b'!A:Z".toList := by decide
  have hplain : Kept "'ab'!A:Z".toList := by decide
  obtain ⟨-, hvalues, -, hdiffer⟩ := addresses_iff ofBase_loopback "abc"
  obtain ⟨r, hr⟩ := exists_request_loopback "'a/b'!A:Z" (by decide)
  obtain ⟨r', hr'⟩ := exists_request_loopback "'ab'!A:Z" (by decide)
  refine ⟨(hvalues "'a/b'!A:Z").2 ⟨by decide, hid, hslash⟩, r, r', hr, hr', fun hurl => ?_⟩
  have hrange := (hdiffer _ _ _ _ _ _ _ _ _ hid hslash hid hplain hr hr' hurl).2
  exact absurd hrange (by decide)

/-- A tab is lost from the name of a tab, so that its request is that for another
tab, and an identifier of dots is lost from the path. -/
theorem request_loopback_loses_tab :
    (∃ r, (loopback.valuesDraft "abc" (Export.Options.allLetters.forTab "a\tb")).request = .ok r ∧
      (loopback.valuesDraft "abc" (Export.Options.allLetters.forTab "ab")).request = .ok r) ∧
    (loopback.valuesDraft ".." "A1").url.path.parts =
      ["v4", "spreadsheets", "values", "A1"].map ofString := by
  have htab : Export.Options.allLetters.forTab "ab" = "'ab'!A:Z" := by decide +kernel
  have hsame : (loopback.valuesDraft "abc" (Export.Options.allLetters.forTab "a\tb")).request =
      (loopback.valuesDraft "abc" (Export.Options.allLetters.forTab "ab")).request := by
    decide +kernel
  obtain ⟨r, hr⟩ := exists_request_loopback "'ab'!A:Z" (by decide)
  rw [hsame, htab]
  exact ⟨⟨r, hr, hr⟩, by decide⟩

end SheetExport.Sheets.Client

/-!
## Integers in answers

An integer in a row of an answer becomes a cell of its own digits if 64 bits with a
sign hold it, and only then: the integers above become doubles, which need not show
the same digits. The answer may be laid out in any way and hold other members beside
the values.
-/

namespace SheetExport

open Json (Layout Reads follows_nil value depthLimit)

variable {i : Int} {c : Char}

/-! ### Digits -/

namespace Cell

/-- The decimal digits of an integer, after a minus sign if it is negative. -/
def digits (i : Int) : List Char :=
  (if i < 0 then ['-'] else []) ++ Nat.toDigits 10 i.natAbs

theorem toList_intText (i : Int) : (Json.intText i).toList = digits i := by
  cases i <;> simp [Json.intText, digits, Int.toString_eq_repr, Int.repr_eq_if]

theorem mem_digits (h : c ∈ digits i) : c = '-' ∨ c.isDigit = true := by
  rcases List.mem_append.1 h with hsign | hdigit
  · split at hsign
    · exact .inl (List.mem_singleton.1 hsign)
    · cases hsign
  · exact .inr (Json.isDigit_of_mem_toDigits hdigit)

theorem quoteField_digits (i : Int) : ({} : Csv).quoteField (digits i) = digits i := by
  refine if_neg (Bool.eq_false_iff.1 (List.any_eq_false.2 fun c hc => ?_))
  rcases mem_digits hc with rfl | hdigit
  · decide
  · simp only [Bool.or_eq_true, beq_iff_eq]
    rintro ((rfl | rfl) | rfl) <;> exact absurd hdigit (by decide)

/-! ### Integer cells -/

/-- A cell keeps an integer: it is an integer cell, and shows and is written as the
digits. -/
structure Exact (c : Cell) (i : Int) : Prop where
  int : ∃ n, c = .int n
  display : c.display.toList = digits i
  field : ({} : Csv).field c = digits i

theorem exact_int (n : Int64) : Exact (.int n) n.toInt := by
  have hdisplay : (Cell.int n).display.toList = digits n.toInt := toList_intText n.toInt
  refine ⟨⟨n, rfl⟩, hdisplay, ?_⟩
  rw [Csv.field, hdisplay, quoteField_digits]

theorem exact_ofInt_iff (hlo : Int64.minValue.toInt ≤ i) :
    Exact (ofInt i) i ↔ i ≤ Int64.maxValue.toInt := by
  constructor
  · rintro ⟨⟨n, hn⟩, -, -⟩
    by_contra hhi
    rw [ofInt, if_neg fun h => hhi h.2] at hn
    cases hn
  · intro hhi
    have hexact := exact_int (Int64.ofInt i)
    have hi : (Int64.ofInt i).toInt = i :=
      Int64.toInt_ofInt_of_le hlo (Int.lt_of_le_of_lt hhi (by decide))
    rwa [ofInt, if_pos ⟨hlo, hhi⟩, ← hi, Int64.ofInt_toInt]

end Cell

/-! ### Answers -/

theorem Json.Reads.unique {α : Type} {R : Json.Reader α} {v : Json} {a b : α} (ha : Reads R v a)
    (hb : Reads R v b) : a = b := by
  have hab := (ha .plain 0 [] [] rfl follows_nil).symm.trans (hb .plain 0 [] [] rfl follows_nil)
  cases hab
  rfl

namespace Sheets

variable {d : Nat} {rows rows' : List (List Json)} {ms : List (String × Json)} {v w : Json}

theorem reads_any (h : Reads (value d) v w) :
    Reads (Schema.any.ofJson d) v (Json.toContent w) := by
  intro l n g rest hg hf
  rw [Schema.ofJson, h l n g rest hg hf]
  rfl

/-- The rows of the one member for values are read, three brackets deep, and their
values made cells. -/
theorem reads_valuesSchema
    (hms : ms.filter (fun m => m.1 = "values") = [("values", .array (rows.map .array))])
    (hrows : List.Forall₂ (List.Forall₂ (Reads (value (depthLimit - 3)))) rows rows') :
    Reads (valuesSchema.ofJson depthLimit) (.object ms)
      (rows'.map fun row => row.map Cell.ofJson) := by
  have hlist : Reads ((Schema.list (.list .any)).ofJson (depthLimit - 1))
      (.array (rows.map .array)) (rows'.map fun row => row.map Json.toContent) := by
    refine Schema.reads_list (d := depthLimit - 2) ?_
    rw [List.forall₂_map_left_iff, List.forall₂_map_right_iff]
    refine hrows.imp fun row row' hrow => Schema.reads_list (d := depthLimit - 3) ?_
    rw [List.forall₂_map_right_iff]
    exact hrow.imp fun v w h => reads_any h
  have hbuild : (rows'.map fun row => row.map Json.toContent).map
      (fun row => row.map fun c => Cell.ofJson (Json.ofContent c)) =
      rows'.map fun row => row.map Cell.ofJson := by
    simp [List.map_map, Function.comp_def, Json.ofContent_toContent]
  rw [← hbuild]
  exact (Schema.Among.found hms hlist .nil).reads_record (by decide) _ _

theorem ofJson_of_reads (hlo : Int64.minValue.toInt ≤ i) (hhi : i < UInt64.size)
    (h : Reads (value d) (.number (.int i)) w) : Cell.ofJson w = Cell.ofInt i := by
  rw [h.unique (Json.Plain.int d hlo hhi).reads]
  rfl

namespace Client

/-- In an answer that is read, an integer of 64 bits with a sign or without in a row
is kept just if it is one with a sign. -/
theorem readValues_exact_iff (l : Layout)
    (hms : ms.filter (fun m => m.1 = "values") = [("values", .array (rows.map .array))])
    (hrows : List.Forall₂ (List.Forall₂ (Reads (value (depthLimit - 3)))) rows rows') :
    ∃ g, readValues (String.ofList (l.text 0 (.object ms))) = some g ∧
      List.Forall₂ (List.Forall₂ fun v c => ∀ i, v = .number (.int i) →
        Int64.minValue.toInt ≤ i → i < UInt64.size →
          c = Cell.ofJson v ∧ (c.Exact i ↔ i ≤ Int64.maxValue.toInt)) rows g := by
  refine ⟨rows'.map fun row => row.map Cell.ofJson, ?_, ?_⟩
  · rw [readValues, Schema.parseJson_text (reads_valuesSchema hms hrows) l]
    rfl
  · rw [List.forall₂_map_right_iff]
    refine hrows.imp fun row row' hrow => ?_
    rw [List.forall₂_map_right_iff]
    refine hrow.imp fun v w h => ?_
    rintro i rfl hlo hhi
    rw [ofJson_of_reads hlo hhi h]
    exact ⟨rfl, Cell.exact_ofInt_iff hlo⟩

/-! ### Answers that are read -/

def namesAnswer (names : List String) : Json :=
  .object [("sheets", .array (names.map fun name =>
    .object [("properties", .object [("title", .string name)])]))]

theorem readNames_namesAnswer (names : List String) :
    readNames (namesAnswer names).text = some names := by
  have hreads : Reads (namesSchema.ofJson depthLimit) (namesAnswer names) names := by
    refine (Schema.Among.found (a := names) rfl (Schema.reads_list ?_) .nil).reads_record
      (by decide) _ _
    rw [List.forall₂_map_left_iff, List.forall₂_same]
    intro name _
    refine (Schema.Among.found (a := name) rfl ?_ .nil).reads_record (by decide) _ _
    exact (Schema.Among.found rfl Schema.reads_string .nil).reads_record (by decide) _ _
  rw [readNames, Schema.parseJson_compactText hreads]
  rfl

def valuesAnswer (rows : List (List String)) : Json :=
  .object [("values", .array (rows.map fun row => .array (row.map .string)))]

theorem readValues_valuesAnswer (rows : List (List String)) :
    readValues (valuesAnswer rows).text = some (rows.map fun row => row.map .text) := by
  have hrows : List.Forall₂ (List.Forall₂ (Reads (value (depthLimit - 3))))
      (rows.map fun row => row.map .string) (rows.map fun row => row.map .string) :=
    List.forall₂_same.2 fun row hrow => List.forall₂_same.2 fun v hv => by
      obtain ⟨texts, -, rfl⟩ := List.mem_map.1 hrow
      obtain ⟨x, -, rfl⟩ := List.mem_map.1 hv
      exact (Json.Plain.string _ x).reads
  have hvalues : [("values", Json.array (rows.map fun row => .array (row.map .string)))].filter
      (fun m => m.1 = "values") = [("values", .array ((rows.map fun row => row.map .string).map
        .array))] := by
    simp [List.map_map, Function.comp_def]
  rw [readValues, valuesAnswer, Schema.parseJson_compactText (reads_valuesSchema hvalues hrows)]
  simp [List.map_map, Function.comp_def, Cell.ofJson, Except.toOption]

/-! ### Integers at the border -/

/-- The last integer with a sign and the first above it. -/
def border : List Json :=
  [.number (.int 9223372036854775807), .number (.int 9223372036854775808)]

def borderMembers : List (String × Json) := [("values", .array [.array border])]

theorem filter_borderMembers : borderMembers.filter (fun m => m.1 = "values") =
    [("values", .array ([border].map .array))] := rfl

theorem reads_border :
    List.Forall₂ (List.Forall₂ (Reads (value (depthLimit - 3)))) [border] [border] := by
  have hfirst := (Json.Plain.int (depthLimit - 3) (i := 9223372036854775807) (by decide)
    (by decide)).reads
  have hsecond := (Json.Plain.int (depthLimit - 3) (i := 9223372036854775808) (by decide)
    (by decide)).reads
  exact .cons (.cons hfirst (.cons hsecond .nil)) .nil

theorem readValues_exact_iff_border : ∃ c c', readValues (Json.object borderMembers).text =
    some [[c, c']] ∧ c.Exact 9223372036854775807 ∧ ¬c'.Exact 9223372036854775808 := by
  have h := readValues_exact_iff .plain filter_borderMembers reads_border
  rw [Layout.text_plain] at h
  obtain ⟨g, hg, hrows⟩ := h
  obtain _ | ⟨hrow, hnil⟩ := hrows
  cases hnil
  obtain _ | ⟨hc, hrow⟩ := hrow
  obtain _ | ⟨hc', hnil⟩ := hrow
  cases hnil
  refine ⟨_, _, hg, (hc _ rfl (by decide) (by decide)).2.2 (by decide), fun h => ?_⟩
  exact absurd ((hc' _ rfl (by decide) (by decide)).2.1 h) (by decide)

/-- The integer above is a double, whose last digits differ. -/
theorem readValues_border_loses_digits : readValues (Json.object borderMembers).text =
      some [[.int Int64.maxValue, .float (Float.ofInt 9223372036854775808)]] ∧
    ¬(Cell.float (Float.ofInt 9223372036854775808)).Exact 9223372036854775808 ∧
    (Cell.float (Float.ofInt 9223372036854775808)).display = "9223372036854776000" := by
  refine ⟨?_, ?_, by decide +kernel⟩
  · have hreads := reads_valuesSchema filter_borderMembers reads_border
    rw [readValues, Schema.parseJson_compactText hreads]
    rfl
  · rintro ⟨⟨n, hn⟩, -, -⟩
    cases hn

end Client

end Sheets

end SheetExport
