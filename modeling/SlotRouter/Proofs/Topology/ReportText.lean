import Mathlib.Data.List.Forall2
import SlotRouter.Proofs.Topology.AddressForms

/-!
# Writing reports and reading them back

What a report may look like, column by column, and that reading it gives what was written.

* `HostText`, `AddressColumn`, `FlagColumn`, `IntervalColumn`, `SlotColumns`, `ColumnsOf`,
  `LineOf` : the texts that describe a node; hosts may stand in brackets, and slots on the move
  between the slots of the node;
* `Node.Reportable` : what can be written about a node so that it is told from what is not known;
* `Node.asReported` : the node with the role that a report gives it;
* `readAddress_written`, `readFlags_written`, `readSlots_written`, `readLine_written` : each column
  and a line is read back;
* `report_round_trip` : a report of any nodes is read back, however its lines end.
-/

namespace SlotRouter

/-! ## Forms -/

/-- The host of an address, perhaps in brackets. -/
inductive HostText (host : List Char) : List Char → Prop
  | bare : HostText host host
  | bracketed : HostText host ('[' :: (host ++ [']']))

/-- The address of a node, perhaps with the port of its bus, which a host name may follow after a
comma. -/
inductive AddressColumn (host : List Char) (port : UInt16) : List Char → Prop
  | plain {text} : HostText host text →
      AddressColumn host port (text ++ ':' :: Nat.toDigits 10 port.toNat)
  | bus {text bus} : HostText host text → Text.Solid bus →
      AddressColumn host port (text ++ ':' :: (Nat.toDigits 10 port.toNat ++ '@' :: bus))

/-- The words that a report has for a flag. -/
def Flag.spellings : Flag → List String
  | .replica => ["slave", "replica"]
  | flag => [flag.word]

/-- Flags, joined by commas. -/
inductive FlagColumn : List Flag → List Char → Prop
  | last {flag word} : word ∈ flag.spellings → FlagColumn [flag] word.toList
  | cons {flag word flags column} : word ∈ flag.spellings → FlagColumn flags column →
      FlagColumn (flag :: flags) (word.toList ++ ',' :: column)

/-- The id of the master, or a dash. -/
def masterColumn : Option String → List Char
  | some id => id.toList
  | none => ['-']

/-- The word for a link state in a report. -/
def Link.word : Link → String
  | .connected => "connected"
  | .disconnected => "disconnected"

/-- The text of an interval, or both bounds even if they are one slot. -/
inductive IntervalColumn (i : Interval) : List Char → Prop
  | text : IntervalColumn i i.text.toList
  | bounds : IntervalColumn i (Nat.toDigits 10 i.first ++ '-' :: Nat.toDigits 10 i.last)

/-- A column for each interval, and anywhere among them slots on the move in brackets. -/
inductive SlotColumns : List Interval → List (List Char) → Prop
  | nil : SlotColumns [] []
  | interval {i column intervals columns} : IntervalColumn i column →
      SlotColumns intervals columns → SlotColumns (i :: intervals) (column :: columns)
  | moving {column intervals columns} : column.head? = some '[' → Text.Solid column →
      SlotColumns intervals columns → SlotColumns intervals (column :: columns)

/-- The columns that describe a node. What they say about pings and epochs is not read. -/
inductive ColumnsOf : Node → List (List Char) → Prop
  | mk {n : Node} {id link address flags slots ping pong epoch} : n.id = some id →
      n.link = some link → AddressColumn n.host.toList n.port address →
      FlagColumn n.flags flags → SlotColumns n.slots.intervals slots →
      Text.Solid ping → Text.Solid pong → Text.Solid epoch →
      ColumnsOf n (id.toList :: address :: flags :: masterColumn n.masterId ::
        ping :: pong :: epoch :: link.word.toList :: slots)

/-- The lines that describe a node. -/
def LineOf (n : Node) (line : List Char) : Prop :=
  ∃ columns, ColumnsOf n columns ∧ line = Text.spaced columns

/-- A report can say this about a node: it has an address, and no name is mistaken for the form
around it. -/
structure Node.Reportable (n : Node) : Prop where
  host : Text.Solid n.host.toList
  host_at : '@' ∉ n.host.toList
  host_open : n.host.toList.head? ≠ some '['
  host_close : n.host.toList.getLast? ≠ some ']'
  port : n.port ≠ 0
  id : ∀ id ∈ n.id, Text.Solid id.toList
  masterId : ∀ id ∈ n.masterId, Text.Solid id.toList ∧ id ≠ "-"

/-- Who has a master is a replica; else the flags decide. -/
def Node.reportedRole (n : Node) : Option Role :=
  if n.masterId.isSome ∨ .replica ∈ n.flags then some .replica
  else if .master ∈ n.flags then some .master
  else none

/-- The node with the role that a report gives it. -/
def Node.asReported (n : Node) : Node := { n with role := n.reportedRole }

/-! ## Addresses -/

section Address

variable {host text column : List Char} {port : UInt16}

theorem HostText.inBrackets (hopen : host.head? ≠ some '[') (hclose : host.getLast? ≠ some ']')
    (h : HostText host text) : InBrackets host text where
  form := by
    cases h with
    | bare => exact ⟨0, 0, by simp⟩
    | bracketed => exact ⟨1, 1, rfl⟩
  opened := hopen
  closed := hclose

theorem HostText.solid (h : HostText host text) (hhost : Text.Solid host) : Text.Solid text := by
  cases h with
  | bare => exact hhost
  | bracketed =>
    refine ⟨List.cons_ne_nil _ _, List.forall_mem_cons.2 ⟨rfl, List.forall_mem_append.2 ?_⟩⟩
    exact ⟨hhost.not_blank, List.forall_mem_singleton.2 rfl⟩

theorem AddressColumn.solid (h : AddressColumn host port column) (hhost : Text.Solid host) :
    Text.Solid column := by
  have hdigits := (Text.solid_toDigits port.toNat).not_blank
  cases h with
  | plain htext => exact (htext.solid hhost).append (List.forall_mem_cons.2 ⟨rfl, hdigits⟩)
  | bus htext hbus =>
    refine (htext.solid hhost).append (List.forall_mem_cons.2 ⟨rfl, ?_⟩)
    exact List.forall_mem_append.2 ⟨hdigits, List.forall_mem_cons.2 ⟨rfl, hbus.not_blank⟩⟩

theorem at_notMem_hostText (hat : '@' ∉ host) (h : HostText host text) : '@' ∉ text := by
  cases h with
  | bare => exact hat
  | bracketed => simp [hat]

theorem readAddress_written (hat : '@' ∉ host) (hopen : host.head? ≠ some '[')
    (hclose : host.getLast? ≠ some ']') (h : AddressColumn host port column) :
    readAddress column = some (host, port) := by
  have hdigits : '@' ∉ Nat.toDigits 10 port.toNat := Text.notMem_toDigits rfl port.toNat
  have haddress : ∀ text, HostText host text →
      IsAddress host port (text ++ ':' :: Nat.toDigits 10 port.toNat) ∧
      '@' ∉ text ++ ':' :: Nat.toDigits 10 port.toNat := by
    intro text htext
    refine ⟨.mk (htext.inBrackets hopen hclose) (port?_toDigits port), ?_⟩
    simp [at_notMem_hostText hat htext, hdigits]
  rw [readAddress_eq_some_iff]
  cases h with
  | plain htext =>
    obtain ⟨hform, hat'⟩ := haddress _ htext
    exact .plain hform hat'
  | @bus text bus htext _ =>
    obtain ⟨hform, hat'⟩ := haddress _ htext
    have hsplit : text ++ ':' :: (Nat.toDigits 10 port.toNat ++ '@' :: bus) =
        (text ++ ':' :: Nat.toDigits 10 port.toNat) ++ '@' :: bus := by simp
    rw [hsplit]
    exact .bus bus hform hat'

end Address

/-! ## Flags, roles and links -/

theorem Flag.ofWord?_spelling {flag : Flag} {word : String} (h : word ∈ flag.spellings) :
    Flag.ofWord? word = some flag ∧ ',' ∉ word.toList ∧ Text.Solid word.toList := by
  revert word
  cases flag <;> decide +kernel

theorem Flag.word_mem_spellings (flag : Flag) : flag.word ∈ flag.spellings := by
  cases flag <;> decide

theorem FlagColumn.solid {flags : List Flag} {column : List Char} (h : FlagColumn flags column) :
    Text.Solid column := by
  induction h with
  | last hword =>
    obtain ⟨-, -, hsolid⟩ := Flag.ofWord?_spelling hword
    exact hsolid
  | cons hword _ ih =>
    obtain ⟨-, -, hsolid⟩ := Flag.ofWord?_spelling hword
    exact hsolid.append (List.forall_mem_cons.2 ⟨rfl, ih.not_blank⟩)

theorem readFlags_written {flags : List Flag} {column : List Char} (h : FlagColumn flags column) :
    readFlags column = flags := by
  induction h with
  | last hword =>
    obtain ⟨hflag, hcomma, -⟩ := Flag.ofWord?_spelling hword
    rw [readFlags, Text.splitOn_of_notMem hcomma, List.filterMap_cons, String.ofList_toList, hflag]
    rfl
  | cons hword _ ih =>
    obtain ⟨hflag, hcomma, -⟩ := Flag.ofWord?_spelling hword
    rw [readFlags, Text.splitOn_append hcomma, List.filterMap_cons, String.ofList_toList, hflag]
    exact congrArg (_ :: ·) ih

theorem readRole_written {n : Node} (h : ∀ id ∈ n.masterId, id ≠ "-") :
    readRole n.flags (masterColumn n.masterId) = (n.reportedRole, n.masterId) := by
  unfold readRole Node.reportedRole
  cases hid : n.masterId with
  | none =>
    simp only [masterColumn, Option.isSome_none, Bool.false_eq_true, false_or, if_true,
      List.contains_iff_mem]
    split
    · rfl
    · split <;> rfl
  | some id =>
    have hdash : id.toList ≠ ['-'] := by
      intro hlist
      exact h id hid (String.toList_inj.1 hlist)
    simp only [masterColumn, if_neg hdash, String.ofList_toList, Option.isSome_some, true_or,
      if_true]

theorem readLink_written (link : Link) : readLink link.word.toList = some link := by
  cases link <;> decide +kernel

theorem Link.solid_word (link : Link) : Text.Solid link.word.toList := by
  cases link <;> decide +kernel

/-! ## Slots -/

section Slots

variable {low : Nat} {i : Interval} {intervals before : List Interval}
  {column : List Char} {columns : List (List Char)}

theorem toList_toString (n : Nat) : (toString n).toList = Nat.toDigits 10 n := Nat.toList_repr

/-- One slot is written alone or as both bounds, other intervals as both bounds. -/
theorem IntervalColumn.form (h : IntervalColumn i column) :
    (i.first = i.last ∧ column = Nat.toDigits 10 i.first) ∨
      column = Nat.toDigits 10 i.first ++ '-' :: Nat.toDigits 10 i.last := by
  cases h with
  | bounds => exact .inr rfl
  | text =>
    unfold Interval.text
    split
    · next heq => exact .inl ⟨heq, toList_toString i.first⟩
    · right
      rw [String.toList_append, String.toList_append, toList_toString, toList_toString,
        List.append_assoc]
      rfl

theorem IntervalColumn.solid (h : IntervalColumn i column) : Text.Solid column := by
  have hlast := (Text.solid_toDigits i.last).not_blank
  rcases h.form with ⟨-, rfl⟩ | rfl
  · exact Text.solid_toDigits i.first
  · exact (Text.solid_toDigits i.first).append (List.forall_mem_cons.2 ⟨rfl, hlast⟩)

/-- It is not taken for slots on the move. -/
theorem IntervalColumn.head (h : IntervalColumn i column) : column.head? ≠ some '[' := by
  have hfirst : '[' ∉ Nat.toDigits 10 i.first := Text.notMem_toDigits rfl i.first
  have hlast : '[' ∉ Nat.toDigits 10 i.last := Text.notMem_toDigits rfl i.last
  intro hhead
  have hmem := List.mem_of_head? hhead
  rcases h.form with ⟨-, rfl⟩ | rfl
  · exact hfirst hmem
  · simp [hfirst, hlast] at hmem

theorem readSlot_written (h : IntervalColumn i column) (hfirst : i.first < 65536)
    (hlast : i.last < 65536) : readSlot column = some (i.first, i.last) := by
  have hdash : '-' ∉ Nat.toDigits 10 i.first := Text.notMem_toDigits rfl i.first
  have hcut : (Text.cutFirst '-' column).getD (column, column) =
      (Nat.toDigits 10 i.first, Nat.toDigits 10 i.last) := by
    rcases h.form with ⟨heq, rfl⟩ | rfl
    · rw [Text.cutFirst_eq_none_iff.2 hdash, Option.getD_none, ← heq]
    · rw [Text.cutFirst_append _ hdash, Option.getD_some]
  rw [readSlot, hcut]
  dsimp only
  rw [Text.unsigned?_toDigits hfirst, Text.unsigned?_toDigits hlast]
  rfl

theorem Ascending.bounds_of_append (h : Ascending low (before ++ i :: intervals)) :
    low ≤ i.first ∧ i.first ≤ i.last ∧ i.last < slotCount := by
  induction before generalizing low with
  | nil =>
    obtain ⟨hlow, hle, hlast, -⟩ := h
    exact ⟨hlow, hle, hlast⟩
  | cons j before ih =>
    obtain ⟨hlow, hle, -, hrest⟩ := h
    obtain ⟨hgap, hbounds⟩ := ih hrest
    exact ⟨by omega, hbounds⟩

/-- An interval that comes after all others is added at the end. -/
theorem insertInterval_append (h : Ascending low (before ++ i :: intervals)) :
    insertInterval i.first i.last before = before ++ [i] := by
  induction before generalizing low with
  | nil => rfl
  | cons j before ih =>
    obtain ⟨-, hle, -, hrest⟩ := h
    obtain ⟨hgap, hi, -⟩ := hrest.bounds_of_append
    rw [insertInterval, if_neg (by omega), if_pos (by omega), ih hrest, List.cons_append]

theorem SlotColumns.solid (h : SlotColumns intervals columns) :
    ∀ column ∈ columns, Text.Solid column := by
  induction h with
  | nil => exact List.forall_mem_nil _
  | interval hcolumn _ ih => exact List.forall_mem_cons.2 ⟨hcolumn.solid, ih⟩
  | moving _ hsolid _ ih => exact List.forall_mem_cons.2 ⟨hsolid, ih⟩

/-- The intervals read so far are the first ones of the range. -/
theorem readSlots_written {slots range : SlotRange} (line : List Char)
    (h : SlotColumns intervals columns) (hrange : range.intervals = slots.intervals ++ intervals) :
    readSlots line slots columns = .ok range := by
  induction h generalizing slots with
  | nil =>
    have heq : slots = range := by
      cases slots
      cases range
      simpa using hrange.symm
    rw [readSlots, heq]
  | @interval i column intervals columns hcolumn _ ih =>
    have hascending : Ascending 0 (slots.intervals ++ i :: intervals) := hrange ▸ range.ascending
    obtain ⟨-, hle, hlast⟩ := hascending.bounds_of_append
    have hbound : i.last < 65536 := Nat.lt_trans hlast (by decide)
    have hinsert : slots.insert i.first i.last = .ok ⟨slots.intervals ++ [i], by
        rw [← insertInterval_append hascending]
        exact insertInterval_ascending slots.ascending (Nat.zero_le _) hle hlast⟩ := by
      rw [SlotRange.insert, dif_neg (by omega), dif_neg (by omega)]
      simp only [insertInterval_append hascending]
    rw [readSlots, if_neg hcolumn.head, readSlot_written hcolumn (by omega) hbound]
    dsimp only
    rw [hinsert]
    exact ih (by rw [hrange]; simp)
  | moving hhead _ _ ih =>
    rw [readSlots, if_pos hhead]
    exact ih hrange

end Slots

/-! ## Lines -/

theorem solid_masterColumn {n : Node} (hn : n.Reportable) :
    Text.Solid (masterColumn n.masterId) := by
  cases hid : n.masterId with
  | none => decide
  | some id => exact (hn.masterId id hid).1

section Lines

variable {n : Node} {columns : List (List Char)} {line : List Char}

theorem ColumnsOf.ne_nil (h : ColumnsOf n columns) : columns ≠ [] := by
  cases h
  exact List.cons_ne_nil _ _

theorem ColumnsOf.solid (h : ColumnsOf n columns) (hn : n.Reportable) :
    ∀ column ∈ columns, Text.Solid column := by
  cases h with
  | @mk id link _ _ _ _ _ _ hid _ haddress hflags hslots hping hpong hepoch =>
    simp only [List.forall_mem_cons]
    exact ⟨hn.id id hid, haddress.solid hn.host, hflags.solid, solid_masterColumn hn, hping, hpong,
      hepoch, link.solid_word, hslots.solid⟩

theorem readColumns_written (h : ColumnsOf n columns) (hn : n.Reportable) (answeringHost : String)
    (line : List Char) : readColumns answeringHost line columns = .ok (some n.asReported) := by
  cases h with
  | @mk id link _ _ slots _ _ _ hid hlink haddress hflags hslots =>
    have haddress' := readAddress_written hn.host_at hn.host_open hn.host_close haddress
    have hrole := readRole_written fun id hid => (hn.masterId id hid).2
    have hslots' : readSlots line .empty slots = .ok n.slots := readSlots_written line hslots rfl
    -- the answering host stands in only for an empty one
    have hempty : n.host.toList.isEmpty = false := List.isEmpty_eq_false_iff.2 hn.host.ne_nil
    have hhost : n.host.isEmpty = false :=
      String.isEmpty_eq_false_iff.2 fun h => hn.host.ne_nil (String.toList_eq_nil_iff.2 h)
    have hport : (n.port == 0) = false := beq_eq_false_iff_ne.2 hn.port
    rw [readColumns, haddress', readFlags_written hflags, readLink_written]
    dsimp only
    rw [hempty, Bool.false_and, if_neg Bool.false_ne_true, String.ofList_toList, hhost, hport,
      Bool.or_false, if_neg Bool.false_ne_true, hslots']
    dsimp only
    rw [hrole, String.ofList_toList, ← hid, ← hlink]
    rfl

theorem LineOf.clean (h : LineOf n line) (hn : n.Reportable) : Text.Clean line := by
  obtain ⟨columns, hcolumns, rfl⟩ := h
  exact Text.clean_spaced hcolumns.ne_nil (hcolumns.solid hn)

theorem readLine_written (h : LineOf n line) (hn : n.Reportable) (answeringHost : String) :
    readLine answeringHost line = .ok (some n.asReported) := by
  obtain ⟨columns, hcolumns, rfl⟩ := h
  rw [readLine, Text.words_spaced (hcolumns.solid hn)]
  exact readColumns_written hcolumns hn answeringHost _

end Lines

/-! ## Reports -/

section Reports

variable {nodes : List Node} {lines : List (List Char)} {text : String}

/-- The lines of nodes are read node by node. -/
theorem readLines_written (h : List.Forall₂ LineOf nodes lines) (hnodes : ∀ n ∈ nodes, n.Reportable)
    (answeringHost : String) :
    readLines answeringHost lines = .ok (nodes.map Node.asReported) := by
  induction h with
  | nil => rfl
  | cons hline _ ih =>
    obtain ⟨hn, hrest⟩ := List.forall_mem_cons.1 hnodes
    rw [readLines, readLine_written hline hn]
    dsimp only
    rw [ih hrest]
    rfl

theorem clean_lines (h : List.Forall₂ LineOf nodes lines) (hnodes : ∀ n ∈ nodes, n.Reportable) :
    ∀ line ∈ lines, Text.Clean line := by
  induction h with
  | nil => exact List.forall_mem_nil _
  | cons hline _ ih =>
    obtain ⟨hn, hrest⟩ := List.forall_mem_cons.1 hnodes
    exact List.forall_mem_cons.2 ⟨hline.clean hn, ih hrest⟩

/-- A report of nodes is read as these nodes in their order, each with the role that its flags and
its master give it, whoever makes the report and however the lines are spelled and ended. -/
theorem report_round_trip (answeringHost : String) (hnodes : ∀ n ∈ nodes, n.Reportable)
    (hlines : List.Forall₂ LineOf nodes lines) (hpage : Text.Page lines text.toList) :
    readReport answeringHost text = .ok (nodes.map Node.asReported) := by
  rw [readReport, Text.trimmedLines_page hpage (clean_lines hlines hnodes)]
  exact readLines_written hlines hnodes answeringHost

end Reports

namespace ReportSample

def master : Node where
  host := "::1"
  port := 7000
  id := some "a1"
  flags := [.myself, .master]
  link := some .connected
  slots := ⟨[⟨0, 100⟩, ⟨103, 103⟩],
    by decide, by decide, by decide, by decide, by decide, by decide, trivial⟩

def replica : Node where
  host := "10.0.0.2"
  port := 7001
  id := some "b2"
  masterId := some "a1"
  flags := [.replica, .possibleFail]
  link := some .disconnected

def masterRow : String :=
  "a1 [::1]:7000@17000,one myself,master - 0 0 1 connected 0-100 [101->-b2] 103"

def replicaRow : String :=
  "b2 10.0.0.2:7001 replica,fail? a1 0 1426238317239 4 disconnected"

/-- The first line ends with a carriage return, a blank line follows, and the second line is not
ended. -/
def text : String := masterRow ++ ("\r\n\n" ++ replicaRow)

theorem reportable_master : master.Reportable where
  host := by decide +kernel
  host_at := by decide +kernel
  host_open := by decide +kernel
  host_close := by decide +kernel
  port := by decide
  id := by
    rintro _ ⟨⟩
    decide +kernel
  masterId := by
    rintro _ ⟨⟩

theorem reportable_replica : replica.Reportable where
  host := by decide +kernel
  host_at := by decide +kernel
  host_open := by decide +kernel
  host_close := by decide +kernel
  port := by decide
  id := by
    rintro _ ⟨⟩
    decide +kernel
  masterId := by
    rintro _ ⟨⟩
    exact ⟨by decide +kernel, by decide⟩

theorem line_master : LineOf master masterRow.toList := by
  have hname : Text.Solid "17000,one".toList := by decide +kernel
  have hmoving : Text.Solid "[101->-b2]".toList := by decide +kernel
  have htime : ∀ n, Text.Solid (Nat.toDigits 10 n) := Text.solid_toDigits
  have hmyself : "myself" ∈ Flag.myself.spellings := by decide
  have hmaster : "master" ∈ Flag.master.spellings := by decide
  have hslots : SlotColumns master.slots.intervals
      ["0-100".toList, "[101->-b2]".toList, "103".toList] :=
    .interval .text (.moving rfl hmoving (.interval .text .nil))
  refine ⟨_, .mk rfl rfl (.bus .bracketed hname) (.cons hmyself (.last hmaster)) hslots (htime 0)
    (htime 0) (htime 1), ?_⟩
  decide +kernel

theorem line_replica : LineOf replica replicaRow.toList := by
  have htime : ∀ n, Text.Solid (Nat.toDigits 10 n) := Text.solid_toDigits
  have hreplica : "replica" ∈ Flag.replica.spellings := by decide
  have hfail : "fail?" ∈ Flag.possibleFail.spellings := by decide
  refine ⟨_, .mk rfl rfl (.plain .bare) (.cons hreplica (.last hfail)) .nil (htime 0)
    (htime 1426238317239) (htime 4), ?_⟩
  decide +kernel

theorem page : Text.Page [masterRow.toList, replicaRow.toList] text.toList := by
  rw [text, String.toList_append, String.toList_append]
  exact .returned masterRow.toList
    (.blank (List.forall_mem_nil _) List.not_mem_nil (.last replicaRow.toList))

end ReportSample

theorem report_round_trip_pair :
    readReport "10.0.0.9" ReportSample.text = .ok
      [{ ReportSample.master with role := some .master },
        { ReportSample.replica with role := some .replica }] :=
  report_round_trip "10.0.0.9"
    (List.forall_mem_cons.2 ⟨ReportSample.reportable_master,
      List.forall_mem_singleton.2 ReportSample.reportable_replica⟩)
    (.cons ReportSample.line_master (.cons ReportSample.line_replica .nil)) ReportSample.page

end SlotRouter
