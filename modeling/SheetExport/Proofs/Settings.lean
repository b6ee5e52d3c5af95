import SheetExport.Proofs.CommandLine.Settings
import SheetExport.Proofs.Json.Members
import SheetExport.Proofs.Url.Form
import SheetExport.Settings.File

/-!
# Settings that are read

Documents of settings, in part or in whole, and the spreadsheets that settings name.
-/

/-!
## Settings that are written and read back

A document that holds some of the settings as they are written, in any order and
among members of other names, is read as those settings with the standard in the
place of all others: `parseJson_part`. With all of them it gives the settings
back. A strategy is read from every way to write it.
-/

namespace SheetExport

open Json (Reads Plain)
open Schema (PartOf Among Held reads_string reads_text reads_some reads_none reads_choice reads_list
  reads_natural reads_union parseJson_compactText parseJson_prettyText)

/-! ### Strategies -/

namespace AuthStrategy

variable {d : Nat}

theorem plain_nullable (d : Nat) (o : Option String) : Plain d (nullable o) := by
  cases o with
  | none => exact .null d
  | some s => exact .string d s

/-- The ways to write a strategy: in full, or without a member whose value stands in
for it. -/
inductive Written : AuthStrategy → Json → Prop where
  | full (a : AuthStrategy) : Written a a.toJson
  | withoutSecrets : Written (.interactive defaultClientSecrets)
      (.object [("strategy", .string "interactive")])
  | withoutUri (id secret token : String) : Written (.refreshToken id secret token none)
      (.object [("strategy", .string "refresh_token"), ("client_id", .string id),
        ("client_secret", .string secret), ("refresh_token", .string token)])

/-- A strategy is read from every way to write it. -/
theorem reads_written {a : AuthStrategy} {v : Json} (h : a.Written v) :
    Reads (schema.ofJson (d + 1)) v a := by
  have hstring : ∀ x, Reads (Json.value d) (.string x) (.string x) :=
    fun x => (Plain.string d x).reads
  cases h with
  | withoutSecrets => exact reads_union (by decide) (by simp) rfl
  | withoutUri id secret token => exact reads_union (by decide) (by simp [hstring]) rfl
  | full =>
    cases a with
    | interactive path => exact reads_union (by decide) (by simp [hstring]) rfl
    | refreshToken id secret token uri =>
      refine reads_union (by decide) ?_ (by cases uri <;> rfl)
      simp [hstring, (plain_nullable d uri).reads]
    | serviceAccount path => exact reads_union (by decide) (by simp [hstring]) rfl

end AuthStrategy

/-! ### Settings -/

namespace Settings

variable {s : Settings} {F : List String} {ms : List (String × Json)} {d : Nat}

def members (s : Settings) : List (String × Json) :=
  match s.toJson with
  | .object ms => ms
  | _ => []

/-- The settings of some names, and the standard for all others. -/
def keep (s : Settings) (F : List String) : Settings where
  spreadsheetId := if "spreadsheet_id" ∈ F then s.spreadsheetId else standard.spreadsheetId
  outputDir := if "output_dir" ∈ F then s.outputDir else standard.outputDir
  range := if "range" ∈ F then s.range else standard.range
  tabs := if "tabs" ∈ F then s.tabs else standard.tabs
  valueRender := if "value_render" ∈ F then s.valueRender else standard.valueRender
  tokenCache := if "token_cache" ∈ F then s.tokenCache else standard.tokenCache
  timeoutSecs := if "timeout_secs" ∈ F then s.timeoutSecs else standard.timeoutSecs
  apiBaseUrl := if "api_base_url" ∈ F then s.apiBaseUrl else standard.apiBaseUrl
  auth := if "auth" ∈ F then s.auth else standard.auth

theorem keep_eq_self (h : ∀ m ∈ s.members, m.1 ∈ F) : s.keep F = s := by
  simp only [members, toJson, List.forall_mem_cons] at h
  simp [keep, h]

theorem map_fst_members (s : Settings) : s.members.map Prod.fst =
    ["spreadsheet_id", "output_dir", "range", "tabs", "value_render", "token_cache",
      "timeout_secs", "api_base_url", "auth"] := rfl

theorem nodup_members (s : Settings) : (s.members.map Prod.fst).Nodup := by
  rw [map_fst_members]
  decide

theorem reads_nullable {t : Schema String} (h : ∀ x, Reads (t.ofJson d) (.string x) x)
    (o : Option String) :
    Reads ((Schema.optional t).ofJson d) (AuthStrategy.nullable o) o := by
  cases o with
  | none => exact reads_none
  | some x => exact reads_some (h x)

theorem reads_tabs (tabs : List String) :
    Reads ((Schema.list Schema.string).ofJson (d + 1)) (.array (tabs.map .string)) tabs :=
  reads_list (List.forall₂_map_left_iff.2 (List.forall₂_same.2 fun _ _ => reads_string))

theorem lookup_name (v : ValueRender) :
    (ValueRender.all.map fun v => (v.name, v)).lookup v.name = some v := by
  cases v <;> rfl

/-- A part of what is written is read as the settings that it holds. -/
theorem reads_part (hs : s.timeoutSecs < UInt64.size) (h : PartOf s.members F ms) :
    Reads (schema.ofJson (d + 2)) (.object ms) (s.keep F) := by
  have hstring : ∀ x, Reads (Schema.string.ofJson (d + 1)) (.string x) x := fun _ => reads_string
  have hpath : ∀ x, Reads (Schema.path.ofJson (d + 1)) (.string x) x := fun _ => reads_text rfl
  refine Among.reads_record (r := (_, _, _, _, _, _, _, _, _, ())) ?_ (by decide) _ _
  refine .field ?_ h s.nodup_members (by simp [members, toJson])
    (reads_nullable hstring s.spreadsheetId) rfl
  refine .field ?_ h s.nodup_members (by simp [members, toJson]) (hpath s.outputDir) rfl
  refine .field ?_ h s.nodup_members (by simp [members, toJson]) (hstring s.range) rfl
  refine .field ?_ h s.nodup_members (by simp [members, toJson]) (reads_tabs s.tabs) rfl
  refine .field ?_ h s.nodup_members (by simp [members, toJson])
    (reads_choice (lookup_name s.valueRender)) rfl
  refine .field ?_ h s.nodup_members (by simp [members, toJson])
    (reads_nullable hpath s.tokenCache) rfl
  refine .field ?_ h s.nodup_members (by simp [members, toJson]) (reads_natural hs) rfl
  refine .field ?_ h s.nodup_members (by simp [members, toJson]) (hstring s.apiBaseUrl) rfl
  refine .field ?_ h s.nodup_members (by simp [members, toJson])
    (AuthStrategy.reads_written (.full s.auth)) rfl
  exact .nil

theorem parseJson_filter (hs : s.timeoutSecs < UInt64.size) (F : List String) :
    schema.parseJson (Json.object (s.members.filter fun m => m.1 ∈ F)).text = .ok (s.keep F) :=
  parseJson_compactText (reads_part hs ⟨[], by simp, by rw [List.append_nil]⟩)

/-- What is written is read back. -/
theorem parseJson_toJson (hs : s.timeoutSecs < UInt64.size) :
    schema.parseJson s.toJson.text = .ok s := by
  have hF : ∀ m ∈ s.members, m.1 ∈ s.members.map Prod.fst := fun m => List.mem_map_of_mem
  have hread := parseJson_filter hs (s.members.map Prod.fst)
  rwa [List.filter_eq_self.2 (by simpa using hF), keep_eq_self hF] at hread

theorem parseJson_withoutCache (hs : s.timeoutSecs < UInt64.size) :
    schema.parseJson (Json.object (s.members.filter fun m => m.1 ≠ "token_cache")).text =
      .ok { s with tokenCache := some "token.json" } :=
  parseJson_filter hs ["spreadsheet_id", "output_dir", "range", "tabs", "value_render",
    "timeout_secs", "api_base_url", "auth"]

theorem reads_auth {a : AuthStrategy} {v : Json} (h : a.Written v) :
    Reads (schema.ofJson (d + 2)) (.object [("auth", v)]) { standard with auth := a } := by
  refine Held.reads_record (r := (_, _, _, _, _, _, _, _, a, ())) ?_ _ _
  refine .absent (by decide) rfl (.absent (by decide) rfl (.absent (by decide) rfl ?_))
  refine .absent (by decide) rfl (.absent (by decide) rfl (.absent (by decide) rfl ?_))
  refine .absent (by decide) rfl (.absent (by decide) rfl ?_)
  exact .found (by decide) (AuthStrategy.reads_written h) .nil

/-- Settings survive being written, whole and in part: a document that holds some of
them, in any order and among any members of other names, is read as those settings
with the standard in the place of the others. Settings that are written in full come
back, no cache is not the same as no word about the cache, and a strategy comes back
from every way to write it. -/
theorem parseJson_part (hs : s.timeoutSecs < UInt64.size) :
    (∀ F ms, PartOf s.members F ms →
      schema.parseJson (Json.object ms).text = .ok (s.keep F) ∧
      schema.parseJson (Json.object ms).prettyText = .ok (s.keep F)) ∧
    (∀ F, (∀ m ∈ s.members, m.1 ∈ F) → s.keep F = s) ∧
    schema.parseJson s.toJson.text = .ok s ∧
    schema.parseJson { s with tokenCache := none }.toJson.text =
      .ok { s with tokenCache := none } ∧
    schema.parseJson (Json.object (s.members.filter fun m => m.1 ≠ "token_cache")).text =
      .ok { s with tokenCache := some "token.json" } ∧
    ∀ (a : AuthStrategy) (v : Json), a.Written v →
      schema.parseJson (Json.object [("auth", v)]).text = .ok { standard with auth := a } := by
  refine ⟨fun F ms h => ?_, fun F => keep_eq_self, parseJson_toJson hs, parseJson_toJson hs,
    parseJson_withoutCache hs, fun a v h => ?_⟩
  · exact ⟨parseJson_compactText (reads_part hs h), parseJson_prettyText (reads_part hs h)⟩
  · exact parseJson_compactText (reads_auth h)

/-- Settings without a cache, with a refresh token at hand. -/
def cachelessSettings : Settings :=
  { outputDir := "out"
    tokenCache := none
    timeoutSecs := 5
    auth := .refreshToken "id" "secret" "refresh" none }

def versionMember : String × Json := ("version", .number (.int (-2)))

def pluginsMember : String × Json := ("plugins", .array [.object [("auth", .null)], .bool true])

def sharedDocument : List (String × Json) :=
  [versionMember, ("token_cache", .null), ("auth", cachelessSettings.auth.toJson), pluginsMember]

theorem partOf_sharedDocument :
    PartOf cachelessSettings.members ["token_cache", "auth"] sharedDocument := by
  refine ⟨[versionMember, pluginsMember], ?_, ?_⟩
  · rw [map_fst_members]
    simp [versionMember, pluginsMember]
  · exact (List.perm_append_comm.append_right [pluginsMember] :
      ([versionMember] ++ [("token_cache", .null), ("auth", cachelessSettings.auth.toJson)] ++
        [pluginsMember]).Perm _)

theorem parseJson_part_sharedDocument : cachelessSettings.timeoutSecs < UInt64.size ∧
    PartOf cachelessSettings.members ["token_cache", "auth"] sharedDocument ∧
    schema.parseJson (Json.object sharedDocument).text = .ok { standard with
      tokenCache := none, auth := .refreshToken "id" "secret" "refresh" none } := by
  have hs : cachelessSettings.timeoutSecs < UInt64.size := by decide
  exact ⟨hs, partOf_sharedDocument, ((parseJson_part hs).1 _ _ partOf_sharedDocument).1⟩

end Settings

end SheetExport

/-!
## Ids in texts

The id that is taken from a text stands after its leftmost marker that a
character of an id follows, and goes as far as such characters do; a text
without such a marker is only trimmed. No id holds a marker, so what was taken
once is not changed again: `extract_leftmost`.
-/

namespace SheetExport.SpreadsheetId

variable {cs before id after : List Char} {c : Char}

/-! ### Markers -/

/-- After some characters of a text comes a marker, and then a character of ids. -/
def Marked (cs before : List Char) : Prop :=
  ∃ c rest, cs = before ++ (marker ++ c :: rest) ∧ isIdChar c = true

/-- The longest run of characters of ids after the leftmost marker that one follows. -/
structure Leftmost (cs before id after : List Char) : Prop where
  split : cs = before ++ (marker ++ (id ++ after))
  ne_nil : id ≠ []
  chars : ∀ c ∈ id, isIdChar c = true
  longest : ∀ c ∈ after.head?, isIdChar c = false
  leftmost : ∀ other, Marked cs other → before.length ≤ other.length

theorem not_marked_nil : ¬ Marked [] before := by
  rintro ⟨c, rest, h, -⟩
  simp at h

theorem marked_cons_iff : Marked (c :: cs) before ↔
    (before = [] ∧ Marked (c :: cs) []) ∨ ∃ tail, before = c :: tail ∧ Marked cs tail := by
  cases before with
  | nil => simp
  | cons b tail =>
    constructor
    · rintro ⟨d, rest, h, hd⟩
      obtain ⟨rfl, hcs⟩ := List.cons.inj h
      exact .inr ⟨tail, rfl, d, rest, hcs, hd⟩
    · rintro (⟨h, -⟩ | ⟨tail', h, d, rest, rfl, hd⟩)
      · cases h
      · obtain ⟨rfl, rfl⟩ := List.cons.inj h
        exact ⟨d, rest, rfl, hd⟩

/-! ### Ids -/

theorem idHere?_of_marker (rest : List Char) : idHere? (marker ++ rest) =
    if rest.takeWhile isIdChar = [] then none else some (rest.takeWhile isIdChar) := by
  have hm : marker.isPrefixOf (marker ++ rest) = true := by simp
  rw [idHere?, if_pos hm, List.drop_left]
  cases rest.takeWhile isIdChar <;> rfl

theorem idHere?_eq_some (h : idHere? cs = some id) :
    ∃ after, cs = marker ++ (id ++ after) ∧ id ≠ [] ∧ (∀ c ∈ id, isIdChar c = true) ∧
      ∀ c ∈ after.head?, isIdChar c = false := by
  by_cases hm : marker <+: cs
  · obtain ⟨rest, rfl⟩ := hm
    rw [idHere?_of_marker] at h
    split at h
    · cases h
    · next hne =>
      obtain rfl := Option.some.inj h
      refine ⟨rest.dropWhile isIdChar, by rw [List.takeWhile_append_dropWhile], hne,
        fun c hc => List.all_eq_true.1 (List.all_takeWhile) c hc, fun c hc => ?_⟩
      have hstop := List.head?_dropWhile_not isIdChar rest
      rwa [hc] at hstop
  · simp [idHere?, hm] at h

theorem idHere?_eq_none (h : idHere? cs = none) : ¬ Marked cs [] := by
  rintro ⟨c, rest, rfl, hc⟩
  rw [List.nil_append, idHere?_of_marker, List.takeWhile_cons_of_pos hc] at h
  cases h

/-- What is found is the run after the leftmost marker, -/
theorem leftmost_of_find? (h : find? cs = some id) :
    ∃ before after, Leftmost cs before id after := by
  induction cs with
  | nil => cases h
  | cons c cs ih =>
    rw [find?] at h
    split at h
    · next hhere =>
      obtain rfl := Option.some.inj h
      obtain ⟨after, hsplit, hne, hchars, hlongest⟩ := idHere?_eq_some hhere
      exact ⟨[], after, hsplit, hne, hchars, hlongest, fun _ _ => Nat.zero_le _⟩
    · next hhere =>
      obtain ⟨before, after, hsplit, hne, hchars, hlongest, hleft⟩ := ih h
      refine ⟨c :: before, after, congrArg (c :: ·) hsplit, hne, hchars, hlongest, ?_⟩
      intro other hother
      obtain ⟨-, hmarked⟩ | ⟨tail, rfl, hmarked⟩ := marked_cons_iff.1 hother
      · exact absurd hmarked (idHere?_eq_none hhere)
      · exact Nat.succ_le_succ (hleft tail hmarked)

/-- and nothing is found only without such a marker. -/
theorem find?_eq_none_iff : find? cs = none ↔ ∀ before, ¬ Marked cs before := by
  constructor
  · intro h
    induction cs with
    | nil => exact fun before => not_marked_nil
    | cons c cs ih =>
      rw [find?] at h
      split at h
      · cases h
      · next hhere =>
        intro before hmarked
        obtain ⟨-, hm⟩ | ⟨tail, -, hm⟩ := marked_cons_iff.1 hmarked
        · exact idHere?_eq_none hhere hm
        · exact ih h tail hm
  · intro h
    cases hfind : find? cs with
    | none => rfl
    | some id =>
      obtain ⟨before, after, hsplit, hne, hchars, -⟩ := leftmost_of_find? hfind
      obtain ⟨c, rest, rfl⟩ := List.exists_cons_of_ne_nil hne
      exact absurd ⟨c, rest ++ after, hsplit, hchars c List.mem_cons_self⟩ (h before)

/-! ### Taken once and for all -/

theorem isBlank_of_isIdChar (h : isIdChar c = true) : Text.isBlank c = false := by
  simp only [isIdChar, Bool.or_eq_true, beq_iff_eq] at h
  rcases h with (h | rfl) | rfl
  · obtain ⟨hlo, hhi⟩ := Url.Form.toNat_of_isAlphanum h
    simp [Text.isBlank]
    omega
  · decide
  · decide

theorem not_marked_of_isIdChar (h : ∀ c ∈ cs, isIdChar c = true) : ¬ Marked cs before := by
  rintro ⟨c, rest, rfl, -⟩
  have hslash : isIdChar '/' = true :=
    h '/' (List.mem_append_right _ (List.mem_append_left _ (by decide)))
  cases hslash

theorem extract_of_trimmed (htrim : Text.trimChars cs = cs) (h : ∀ before, ¬ Marked cs before) :
    extract (String.ofList cs) = String.ofList cs := by
  rw [extract, String.toList_ofList, htrim, find?_eq_none_iff.2 h, Option.getD_none]

theorem extract_extract (s : String) : extract (extract s) = extract s := by
  rw [extract.eq_1 s]
  cases hfind : find? (Text.trimChars s.toList) with
  | none =>
    exact extract_of_trimmed (Text.trimChars_trimChars _) (find?_eq_none_iff.1 hfind)
  | some id =>
    obtain ⟨before, after, hleft⟩ := leftmost_of_find? hfind
    refine extract_of_trimmed (Text.trimChars_of_notMem fun c hc => ?_) fun _ => ?_
    · exact isBlank_of_isIdChar (hleft.chars c hc)
    · exact not_marked_of_isIdChar hleft.chars

/-- The id that a run comes to stays as it is in a run that is given it again, by the
words or by the file. -/
theorem settings_again {a b : CommandLine.Arguments} {t u : FileTree} {s f r : Settings}
    (hs : a.settings t = .ok s) (hf : b.fileSettings u = .ok f)
    (hid : (b.spreadsheet <|> f.spreadsheetId) = s.spreadsheetId) (hr : b.settings u = .ok r) :
    r.spreadsheetId = s.spreadsheetId := by
  obtain ⟨_, -, hover, -⟩ := CommandLine.Arguments.settings_eq_ok hs
  obtain ⟨f', hf', hover', -⟩ := CommandLine.Arguments.settings_eq_ok hr
  obtain rfl := Except.ok.inj (hf.symm.trans hf')
  have htwice : extract ∘ extract = extract := funext extract_extract
  rw [hover'.spreadsheetId, hid, hover.spreadsheetId, Option.map_map, htwice]

/-- From a text with a marker that a character of ids follows the longest run of such
characters after the leftmost such marker is taken, from any other the text without
surrounding blanks. Taken again, it stays, and so does the id of a run. -/
theorem extract_leftmost (s : String) :
    ((∃ before, Marked (Text.trimChars s.toList) before) →
      ∃ before after, Leftmost (Text.trimChars s.toList) before (extract s).toList after) ∧
    ((¬ ∃ before, Marked (Text.trimChars s.toList) before) → extract s = Text.trim s) ∧
    extract (extract s) = extract s ∧
    ∀ (a b : CommandLine.Arguments) (t u : FileTree) (c f r : Settings), a.settings t = .ok c →
      b.fileSettings u = .ok f → (b.spreadsheet <|> f.spreadsheetId) = c.spreadsheetId →
      b.settings u = .ok r → r.spreadsheetId = c.spreadsheetId := by
  refine ⟨?_, ?_, extract_extract s, fun _ _ _ _ _ _ _ => settings_again⟩
  · rintro ⟨before, hmarked⟩
    cases hfind : find? (Text.trimChars s.toList) with
    | none => exact absurd hmarked (find?_eq_none_iff.1 hfind before)
    | some id =>
      rw [extract, hfind, Option.getD_some, String.toList_ofList]
      exact leftmost_of_find? hfind
  · intro hunmarked
    rw [extract, find?_eq_none_iff.2 (not_exists.1 hunmarked), Option.getD_none]
    rfl

/-- Markers that are passed over or come later, one that nothing follows, and an id that
is given in an address first and then by itself. -/
theorem extract_leftmost_markers :
    (∃ before after, Leftmost "/spreadsheets/d/?/spreadsheets/d/a-1/spreadsheets/d/b".toList before
      (extract " /spreadsheets/d/?/spreadsheets/d/a-1/spreadsheets/d/b\n").toList after) ∧
    extract " x/spreadsheets/d/ " = "x/spreadsheets/d/" ∧
    ∃ a b c r, CommandLine.Arguments.parse ["http://h/spreadsheets/d/a_1/edit"] [] = .ok a ∧
      CommandLine.Arguments.settings a {} = .ok c ∧
      CommandLine.Arguments.parse ["a_1"] [] = .ok b ∧
      CommandLine.Arguments.settings b {} = .ok r ∧ r.spreadsheetId = c.spreadsheetId := by
  obtain ⟨hmarked, -⟩ :=
    extract_leftmost " /spreadsheets/d/?/spreadsheets/d/a-1/spreadsheets/d/b\n"
  obtain ⟨-, hunmarked, -⟩ := extract_leftmost " x/spreadsheets/d/ "
  obtain ⟨-, -, -, hagain⟩ := extract_leftmost "a_1"
  refine ⟨?_, ?_, { spreadsheet := some "http://h/spreadsheets/d/a_1/edit" },
    { spreadsheet := some "a_1" }, { spreadsheetId := some "a_1" },
    { spreadsheetId := some "a_1" }, rfl, rfl, rfl, rfl, ?_⟩
  · exact hmarked ⟨"/spreadsheets/d/?".toList, 'a', "-1/spreadsheets/d/b".toList, rfl, rfl⟩
  · rw [hunmarked (not_exists.2 (find?_eq_none_iff.1 rfl))]
    rfl
  · exact hagain { spreadsheet := some "http://h/spreadsheets/d/a_1/edit" }
      { spreadsheet := some "a_1" } {} {} _ _ _ rfl rfl rfl rfl

end SheetExport.SpreadsheetId
