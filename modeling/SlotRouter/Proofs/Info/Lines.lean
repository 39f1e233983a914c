import SlotRouter.Proofs.Info.Entries
import SlotRouter.Proofs.Text.Columns

/-!
# Writing properties on lines and reading them back

* `Writable name value` : what can stand on a line; values may hold colons;
* `PropertyLine`, `SilentLine` : the lines that hold a property, perhaps indented or followed by
  blanks, and those that hold none; `readProperty_written`, `readProperty_silent` : what is read off
  either;
* `InfoText entries text` : the properties stand in the text in this order, with any silent lines
  among them; all writable ones can (`exists_infoText_iff`), and they are what is read
  (`readInfo_eq`);
* `MapOf entries p` : the map of entries of which the last one with a name counts;
* `info_round_trip` : that map is read off a text.
-/

namespace SlotRouter

open Text (isBlank trim keptLine)

/-! ## Forms -/

/-- White space within a line. -/
structure Blanks (s : List Char) : Prop where
  blank : ∀ c ∈ s, isBlank c = true
  one_line : '\n' ∉ s

theorem blanks_nil : Blanks [] := ⟨List.forall_mem_nil _, List.not_mem_nil⟩

/-- The first colon of `name:value` ends the name, and neither a header nor white space at either
end is seen in it. -/
structure Writable (name value : String) : Prop where
  name_colon : ':' ∉ name.toList
  name_line : '\n' ∉ name.toList
  name_head : ∀ c ∈ name.toList.head?, c ≠ '#' ∧ isBlank c = false
  value_line : '\n' ∉ value.toList
  value_last : ∀ c ∈ value.toList.getLast?, isBlank c = false

/-- The text of a property. -/
def propertyText (name value : String) : List Char := name.toList ++ ':' :: value.toList

/-- A property, perhaps indented, and perhaps followed by blanks. -/
inductive PropertyLine (name value : String) : List Char → Prop
  | mk {indent trailing} : Writable name value → Blanks indent → Blanks trailing →
      PropertyLine name value (indent ++ (propertyText name value ++ trailing))

/-- A line without a property. -/
inductive SilentLine : List Char → Prop
  | blank {line} : Blanks line → SilentLine line
  /-- The header of a section, whatever its title. -/
  | header {indent title} : Blanks indent → '\n' ∉ title → SilentLine (indent ++ '#' :: title)
  | colonless {line} : ':' ∉ line → '\n' ∉ line → SilentLine line

/-- A line for each property, and silent lines anywhere among them. -/
inductive InfoLines : List (String × String) → List (List Char) → Prop
  | nil : InfoLines [] []
  | property {name value line entries lines} : PropertyLine name value line →
      InfoLines entries lines → InfoLines ((name, value) :: entries) (line :: lines)
  | silent {line entries lines} : SilentLine line → InfoLines entries lines →
      InfoLines entries (line :: lines)

/-- The properties stand in the text in this order. -/
def InfoText (entries : List (String × String)) (text : List Char) : Prop :=
  ∃ lines, InfoLines entries lines ∧ Text.Page lines text

/-! ## Lines -/

section Line

variable {name value : String} {line : List Char}

theorem head?_propertyText (name value : String) :
    (propertyText name value).head? = name.toList.head?.or (some ':') := by
  rw [propertyText, List.head?_append]
  rfl

theorem getLast?_propertyText (name value : String) :
    (propertyText name value).getLast? = value.toList.getLast?.or (some ':') := by
  rw [propertyText, List.getLast?_append, List.getLast?_cons]
  cases value.toList.getLast? <;> rfl

theorem trim_propertyText (h : Writable name value) :
    trim (propertyText name value) = propertyText name value := by
  apply Text.trim_eq_self
  · intro c hc
    rw [head?_propertyText] at hc
    rcases Option.or_eq_some_iff.1 hc with hname | ⟨-, hcolon⟩
    · exact (h.name_head c hname).2
    · cases hcolon
      decide
  · intro c hc
    rw [getLast?_propertyText] at hc
    rcases Option.or_eq_some_iff.1 hc with hvalue | ⟨-, hcolon⟩
    · exact h.value_last c hvalue
    · cases hcolon
      decide

theorem readProperty_propertyText (h : Writable name value) :
    readProperty (propertyText name value) = some (name, value) := by
  have hheader : (propertyText name value).head? ≠ some '#' := by
    intro hhead
    rw [head?_propertyText] at hhead
    rcases Option.or_eq_some_iff.1 hhead with hname | ⟨-, hcolon⟩
    · exact (h.name_head '#' hname).1 rfl
    · cases hcolon
  rw [readProperty, if_neg hheader, propertyText, Text.cutFirst_append _ h.name_colon]
  simp only [Option.map_some, String.ofList_toList]

theorem readProperty_written (h : PropertyLine name value line) :
    readProperty (trim line) = some (name, value) := by
  cases h with
  | mk hwritable hindent htrailing =>
    rw [Text.trim_blank_append hindent.blank, Text.trim_append htrailing.blank,
      trim_propertyText hwritable, readProperty_propertyText hwritable]

theorem readProperty_of_notMem (h : ':' ∉ line) : readProperty line = none := by
  rw [readProperty, Text.cutFirst_eq_none_iff.2 h]
  exact ite_self none

theorem readProperty_silent (h : SilentLine line) : readProperty (trim line) = none := by
  cases h with
  | blank hblanks =>
    rw [Text.trim_eq_nil hblanks.blank]
    rfl
  | header hindent =>
    have hhash : isBlank '#' = false := by decide
    rw [Text.trim_blank_append hindent.blank, readProperty, if_pos (Text.head?_trim hhash _)]
  | colonless hcolon => exact readProperty_of_notMem fun hmem => hcolon (Text.mem_of_mem_trim hmem)

theorem PropertyLine.one_line (h : PropertyLine name value line) : '\n' ∉ line := by
  cases h with
  | mk hwritable hindent htrailing =>
    simp [propertyText, hwritable.name_line, hwritable.value_line, hindent.one_line,
      htrailing.one_line]

theorem SilentLine.one_line (h : SilentLine line) : '\n' ∉ line := by
  cases h with
  | blank hblanks => exact hblanks.one_line
  | header hindent htitle => simp [hindent.one_line, htitle]
  | colonless _ hnl => exact hnl

/-- Nothing would be read off a line that is dropped for being blank. -/
theorem filterMap_keptLine (line : List Char) :
    (keptLine line).filterMap readProperty = (readProperty (trim line)).toList := by
  unfold keptLine
  cases trim line with
  | nil => rfl
  | cons c rest =>
    rw [List.filter_cons_of_pos rfl, List.filter_nil, List.filterMap_cons]
    cases readProperty (c :: rest) <;> rfl

end Line

/-! ## Texts -/

section Text

variable {entries : List (String × String)} {lines : List (List Char)}

theorem InfoLines.one_line (h : InfoLines entries lines) : ∀ line ∈ lines, '\n' ∉ line := by
  induction h with
  | nil => exact List.forall_mem_nil _
  | property hline _ ih => exact List.forall_mem_cons.2 ⟨hline.one_line, ih⟩
  | silent hline _ ih => exact List.forall_mem_cons.2 ⟨hline.one_line, ih⟩

theorem InfoLines.entries_eq (h : InfoLines entries lines) :
    (lines.flatMap keptLine).filterMap readProperty = entries := by
  induction h with
  | nil => rfl
  | property hline _ ih =>
    rw [List.flatMap_cons, List.filterMap_append, filterMap_keptLine, readProperty_written hline,
      ih]
    rfl
  | silent hline _ ih =>
    rw [List.flatMap_cons, List.filterMap_append, filterMap_keptLine, readProperty_silent hline,
      ih]
    rfl

theorem readInfo_eq {text : String} (h : InfoText entries text.toList) :
    readInfo text = .ofList entries := by
  obtain ⟨lines, hlines, hpage⟩ := h
  rw [readInfo, Text.trimmedLines_of_page hpage hlines.one_line, hlines.entries_eq]

theorem InfoLines.writable (h : InfoLines entries lines) :
    ∀ entry ∈ entries, Writable entry.1 entry.2 := by
  induction h with
  | nil => exact List.forall_mem_nil _
  | property hline _ ih =>
    cases hline with
    | mk hwritable => exact List.forall_mem_cons.2 ⟨hwritable, ih⟩
  | silent _ _ ih => exact ih

/-- The properties one below the other, and nothing else. -/
theorem exists_infoText (h : ∀ entry ∈ entries, Writable entry.1 entry.2) :
    ∃ text, InfoText entries text := by
  induction entries with
  | nil => exact ⟨[], [], .nil, .rest (List.forall_mem_nil _) List.not_mem_nil⟩
  | cons entry rest ih =>
    obtain ⟨hwritable, hrest⟩ := List.forall_mem_cons.1 h
    obtain ⟨text, lines, hlines, hpage⟩ := ih hrest
    have hline := PropertyLine.mk hwritable blanks_nil blanks_nil
    exact ⟨_, _, .property hline hlines, .ended _ hpage⟩

theorem exists_infoText_iff :
    (∃ text : String, InfoText entries text.toList) ↔
      ∀ entry ∈ entries, Writable entry.1 entry.2 := by
  constructor
  · rintro ⟨_, lines, hlines, -⟩
    exact hlines.writable
  · intro h
    obtain ⟨text, htext⟩ := exists_infoText h
    exact ⟨String.ofList text, by rwa [String.toList_ofList]⟩

/-- The map of these entries, of which the last one with a name counts. -/
structure MapOf (entries : List (String × String)) (p : Properties) : Prop where
  distinct : p.Distinct
  last_wins : ∀ name, p.get? name = entries.reverse.lookup name
  /-- If they are the entries of some map in any order, it is this map. -/
  of_perm : ∀ m : Properties, m.Distinct → entries.Perm m.entries →
    p.entries.Perm m.entries ∧ ∀ name, p.get? name = m.get? name

theorem mapOf_ofList (entries : List (String × String)) : MapOf entries (.ofList entries) where
  distinct := Properties.ofList_distinct entries
  last_wins := Properties.get?_ofList entries
  of_perm := by
    intro m hm hperm
    have hnodup : (entries.map (·.1)).Nodup := (hperm.map _).nodup_iff.2 hm
    have hsame : (Properties.ofList entries).entries.Perm m.entries := by
      rw [Properties.ofList_of_nodup hnodup]
      exact hperm
    exact ⟨hsame, Properties.get?_of_perm (Properties.ofList_distinct entries) hsame⟩

/-- All properties that are writable stand in some text. What is read off any such text is the map
of them, in whichever order they stand, and whatever else stands among them. -/
theorem info_round_trip (entries : List (String × String)) :
    ((∃ text : String, InfoText entries text.toList) ↔
      ∀ entry ∈ entries, Writable entry.1 entry.2) ∧
    ∀ text : String, InfoText entries text.toList → MapOf entries (readInfo text) := by
  refine ⟨exists_infoText_iff, fun text h => ?_⟩
  rw [readInfo_eq h]
  exact mapOf_ofList entries

end Text

/-! A header with a colon, an indented value with colons and a hash in it, a blank line and one
without a colon; then a name that stands twice. -/

namespace InfoSample

def header : String := "# Server: one"

def exe : String := "\texe:/bin:x #1 "

def plain : String := "plain words"

def run (value : String) : String := "run:" ++ value

/-- The last line is not ended. -/
def text : String := header ++ ("\r\n" ++ (exe ++ ("\n\n" ++ (plain ++ ("\r\n" ++ run "2")))))

def repeated : String := run "1" ++ ("\n" ++ text)

def entries : List (String × String) := [("exe", "/bin:x #1"), ("run", "2")]

theorem header_line : SilentLine header.toList := by
  have hsplit : header.toList = [] ++ '#' :: " Server: one".toList := by decide +kernel
  rw [hsplit]
  exact .header blanks_nil (by decide +kernel)

theorem plain_line : SilentLine plain.toList := .colonless (by decide +kernel) (by decide +kernel)

theorem writable_exe : Writable "exe" "/bin:x #1" where
  name_colon := by decide +kernel
  name_line := by decide +kernel
  name_head := by
    rintro _ ⟨⟩
    decide
  value_line := by decide +kernel
  value_last := by
    rintro _ ⟨⟩
    decide

theorem writable_run (digit : Char) (h : digit.isDigit = true) :
    Writable "run" (String.singleton digit) where
  name_colon := by decide +kernel
  name_line := by decide +kernel
  name_head := by
    rintro _ ⟨⟩
    decide
  value_line := by
    rw [String.toList_singleton, List.mem_singleton]
    rintro rfl
    exact absurd h (by decide)
  value_last := by
    rw [String.toList_singleton]
    rintro _ ⟨⟩
    exact Text.isBlank_of_isDigit h

theorem exe_line : PropertyLine "exe" "/bin:x #1" exe.toList := by
  have hsplit : exe.toList = ['\t'] ++ (propertyText "exe" "/bin:x #1" ++ [' ']) := by
    decide +kernel
  have htab : Blanks ['\t'] := ⟨List.forall_mem_singleton.2 rfl, by decide⟩
  have hspace : Blanks [' '] := ⟨List.forall_mem_singleton.2 rfl, by decide⟩
  rw [hsplit]
  exact .mk writable_exe htab hspace

theorem run_line {value : String} (h : Writable "run" value) :
    PropertyLine "run" value (run value).toList := by
  have hsplit : (run value).toList = [] ++ (propertyText "run" value ++ []) := by
    rw [run, String.toList_append, List.append_nil]
    rfl
  rw [hsplit]
  exact .mk h blanks_nil blanks_nil

theorem infoText : InfoText entries text.toList := by
  have hrun : Writable "run" "2" := writable_run '2' rfl
  refine ⟨[header.toList, exe.toList, plain.toList, (run "2").toList],
    .silent header_line (.property exe_line (.silent plain_line (.property (run_line hrun) .nil))),
    ?_⟩
  simp only [text, String.toList_append]
  exact .returned _ (.ended _ (.blank blanks_nil.blank blanks_nil.one_line
    (.returned _ (.last (run "2").toList))))

theorem infoText_repeated : InfoText (("run", "1") :: entries) repeated.toList := by
  have hrun : Writable "run" "1" := writable_run '1' rfl
  obtain ⟨lines, hlines, hpage⟩ := infoText
  refine ⟨(run "1").toList :: lines, .property (run_line hrun) hlines, ?_⟩
  simp only [repeated, String.toList_append]
  exact .ended _ hpage

end InfoSample

theorem info_round_trip_repeated :
    (readInfo InfoSample.text).entries.Perm [("run", "2"), ("exe", "/bin:x #1")] ∧
    (readInfo InfoSample.repeated).get? "run" = some "2" := by
  have hdistinct : Properties.Distinct ⟨[("run", "2"), ("exe", "/bin:x #1")]⟩ := by
    unfold Properties.Distinct
    decide +kernel
  have hperm : InfoSample.entries.Perm [("run", "2"), ("exe", "/bin:x #1")] := .swap _ _ _
  have hmap := (info_round_trip _).2 _ InfoSample.infoText
  have hmap_repeated := (info_round_trip _).2 _ InfoSample.infoText_repeated
  exact ⟨(hmap.of_perm _ hdistinct hperm).1, hmap_repeated.last_wins "run"⟩

end SlotRouter
