import SlotRouter.Proofs.Topology.ReportText

/-!
# What a report is refused for

A report is read line by line and a line column by column; the first thing that is wrong decides.

* `FirstFault` : the first item of a list with a fault, and the fault;
* `LineFault`, `LineFault.error` : what can be wrong with a line, and how it is reported;
* `NamesSlots`, `SlotFault` : what a slot column says, and what can be wrong with it
  (`readSlots_error_iff`, by induction on the columns);
* `Row` : the columns of a line that has enough of them; `Row.Fault` : what can be wrong with them
  (`readRow_error_iff`); a node without an address is left out, and nothing else of it is read;
* `Faulty` : what can be wrong with a line (`readLine_error_iff`, `readLines_error_iff`);
* `report_refusal` : which reports are refused, for what and how.
-/

namespace SlotRouter

/-! ## The first fault -/

section FirstFault

variable {ι κ : Type} {Fault : ι → κ → Prop} {items : List ι}

/-- The first item with a fault, and its fault. -/
inductive FirstFault (Fault : ι → κ → Prop) : List ι → ι → κ → Prop
  | here {item fault} (rest) : Fault item fault → FirstFault Fault (item :: rest) item fault
  | later {item rest found fault} : (∀ fault, ¬ Fault item fault) →
      FirstFault Fault rest found fault → FirstFault Fault (item :: rest) found fault

theorem FirstFault.fault {item : ι} {fault : κ} (h : FirstFault Fault items item fault) :
    Fault item fault := by
  induction h with
  | here _ hfault => exact hfault
  | later _ _ ih => exact ih

theorem firstFault_of_fault {item found : ι} {rest : List ι} {fault fault' : κ}
    (h : Fault item fault) :
    FirstFault Fault (item :: rest) found fault' ↔ found = item ∧ Fault item fault' := by
  constructor
  · intro hfirst
    cases hfirst with
    | here _ hfault => exact ⟨rfl, hfault⟩
    | later hnone _ => exact absurd h (hnone fault)
  · rintro ⟨rfl, hfault⟩
    exact .here rest hfault

theorem firstFault_of_sound {item found : ι} {rest : List ι} {fault : κ}
    (h : ∀ fault, ¬ Fault item fault) :
    FirstFault Fault (item :: rest) found fault ↔ FirstFault Fault rest found fault := by
  constructor
  · intro hfirst
    cases hfirst with
    | here _ hfault => exact absurd hfault (h fault)
    | later _ hfirst => exact hfirst
  · exact .later h

theorem exists_firstFault_iff :
    (∃ item fault, FirstFault Fault items item fault) ↔
      ∃ item ∈ items, ∃ fault, Fault item fault := by
  induction items with
  | nil =>
    constructor
    · rintro ⟨item, fault, ⟨⟩⟩
    · rintro ⟨item, ⟨⟩, -⟩
  | cons item rest ih =>
    rw [List.exists_mem_cons_iff]
    by_cases hsound : ∀ fault, ¬ Fault item fault
    · simp only [firstFault_of_sound hsound, ih, not_exists.2 hsound, false_or]
    · obtain ⟨fault, hfault⟩ := not_forall_not.1 hsound
      exact ⟨fun _ => .inl ⟨fault, hfault⟩, fun _ => ⟨item, fault, .here rest hfault⟩⟩

end FirstFault

/-- What is wrong with a line of a report. -/
inductive LineFault
  /-- There are fewer than eight columns. -/
  | columns
  /-- The address is none. -/
  | address
  /-- The link state is none. -/
  | link
  /-- A slot column does not name slots by number. -/
  | slotNumber
  /-- A slot column has numbers that do not bound slots. -/
  | slotBounds (rejection : SlotRange.Rejection)

/-- The error of a line with a fault. -/
def LineFault.error (line : List Char) : LineFault → ClusterError
  | slotBounds rejection => .cause (.slotBounds rejection)
  | columns | address | link | slotNumber => malformedLine line

/-! ## Slot columns -/

/-- A column names the first and the last of some slots, or one slot. -/
inductive NamesSlots : List Char → Nat → Nat → Prop
  | bounds {a b first last} : Text.unsigned? 65536 a = some first →
      Text.unsigned? 65536 b = some last → NamesSlots (a ++ '-' :: b) first last
  | single {a slot} : Text.unsigned? 65536 a = some slot → NamesSlots a slot slot

/-- Why two numbers do not bound slots. -/
inductive SlotRange.Rejects (first last : Nat) : SlotRange.Rejection → Prop
  | startAfterEnd : last < first → Rejects first last .startAfterEnd
  | outOfRange : first ≤ last → slotCount ≤ last → Rejects first last (.outOfRange last)

/-- What is wrong with a slot column. Slots on the move, in brackets, are not looked at. -/
inductive SlotFault : List Char → LineFault → Prop
  | number {column} : column.head? ≠ some '[' → (∀ first last, ¬ NamesSlots column first last) →
      SlotFault column .slotNumber
  | bounds {column first last rejection} : NamesSlots column first last →
      SlotRange.Rejects first last rejection → SlotFault column (.slotBounds rejection)

section Slots

variable {line column : List Char} {columns : List (List Char)} {first last : Nat}
  {fault : LineFault} {e : ClusterError}

theorem readSlot_eq_some_iff :
    readSlot column = some (first, last) ↔ NamesSlots column first last := by
  have hdash : ∀ {s n}, Text.unsigned? 65536 s = some n → '-' ∉ s :=
    fun hs => Text.notMem_of_unsigned? hs rfl (by decide)
  unfold readSlot
  constructor
  · intro h
    obtain ⟨m, hm, h⟩ := Option.bind_eq_some_iff.1 h
    obtain ⟨n, hn, h⟩ := Option.bind_eq_some_iff.1 h
    obtain ⟨rfl, rfl⟩ := Prod.mk.inj (Option.some.inj h)
    cases hcut : Text.cutFirst '-' column with
    | none =>
      rw [hcut] at hm hn
      obtain rfl := Option.some.inj (hm.symm.trans hn)
      exact .single hm
    | some cut =>
      obtain ⟨rfl, -⟩ := Text.eq_of_cutFirst hcut
      rw [hcut] at hm hn
      exact .bounds hm hn
  · intro h
    cases h with
    | bounds hfirst hlast =>
      rw [Text.cutFirst_append _ (hdash hfirst), Option.getD_some]
      simp [hfirst, hlast]
    | single hslot =>
      rw [Text.cutFirst_eq_none_iff.2 (hdash hslot), Option.getD_none]
      simp [hslot]

/-- A column that names slots is not taken for slots on the move. -/
theorem NamesSlots.head (h : NamesSlots column first last) : column.head? ≠ some '[' := by
  have hbracket : ∀ {s n}, Text.unsigned? 65536 s = some n → '[' ∉ s :=
    fun hs => Text.notMem_of_unsigned? hs rfl (by decide)
  intro hhead
  have hmem := List.mem_of_head? hhead
  cases h with
  | bounds hfirst hlast => simp [hbracket hfirst, hbracket hlast] at hmem
  | single hslot => exact hbracket hslot hmem

theorem insert_error_iff {slots : SlotRange} {rejection : SlotRange.Rejection} :
    slots.insert first last = .error rejection ↔ SlotRange.Rejects first last rejection := by
  unfold SlotRange.insert
  split
  · next horder =>
    constructor
    · rintro ⟨⟩
      exact .startAfterEnd horder
    · intro h
      cases h with
      | startAfterEnd _ => rfl
      | outOfRange hle _ => omega
  · next horder =>
    split
    · next hrange =>
      constructor
      · rintro ⟨⟩
        exact .outOfRange (Nat.le_of_not_lt horder) hrange
      · intro h
        cases h with
        | startAfterEnd hlt => exact absurd hlt horder
        | outOfRange _ _ => rfl
    · next hrange =>
      constructor
      · rintro ⟨⟩
      · intro h
        cases h with
        | startAfterEnd hlt => exact absurd hlt horder
        | outOfRange _ hle => exact absurd hle hrange

theorem readSlots_of_fault (h : SlotFault column fault) (slots : SlotRange) :
    readSlots line slots (column :: columns) = .error (fault.error line) := by
  rw [readSlots]
  cases h with
  | number hhead hnone =>
    have hread : readSlot column = none :=
      Option.eq_none_iff_forall_ne_some.2 fun named hnamed =>
        hnone named.1 named.2 (readSlot_eq_some_iff.1 hnamed)
    rw [if_neg hhead, hread]
    rfl
  | bounds hnames hrejects =>
    rw [if_neg hnames.head, readSlot_eq_some_iff.2 hnames]
    dsimp only
    rw [insert_error_iff.2 hrejects]
    rfl

theorem readSlots_of_sound (h : ∀ fault, ¬ SlotFault column fault) (line : List Char)
    (columns : List (List Char)) (slots : SlotRange) :
    ∃ slots', readSlots line slots (column :: columns) = readSlots line slots' columns := by
  rw [readSlots]
  by_cases hhead : column.head? = some '['
  · exact ⟨slots, if_pos hhead⟩
  rw [if_neg hhead]
  cases hread : readSlot column with
  | none =>
    have hnone : ∀ first last, ¬ NamesSlots column first last := by
      intro first last hnames
      rw [readSlot_eq_some_iff.2 hnames] at hread
      cases hread
    exact absurd (.number hhead hnone) (h .slotNumber)
  | some named =>
    dsimp only
    cases hinsert : slots.insert named.1 named.2 with
    | ok slots' => exact ⟨slots', rfl⟩
    | error rejection =>
      have hfault := SlotFault.bounds (readSlot_eq_some_iff.1 hread) (insert_error_iff.1 hinsert)
      exact absurd hfault (h _)

/-- The first column with a fault decides. -/
theorem readSlots_error_iff {slots : SlotRange} : readSlots line slots columns = .error e ↔
    ∃ column fault, FirstFault SlotFault columns column fault ∧ e = fault.error line := by
  induction columns generalizing slots with
  | nil =>
    constructor
    · rintro ⟨⟩
    · rintro ⟨column, fault, ⟨⟩, -⟩
  | cons column rest ih =>
    by_cases hsound : ∀ fault, ¬ SlotFault column fault
    · obtain ⟨slots', hread⟩ := readSlots_of_sound hsound line rest slots
      rw [hread, ih]
      simp only [firstFault_of_sound hsound]
    · obtain ⟨fault, hfault⟩ := not_forall_not.1 hsound
      simp only [firstFault_of_fault hfault]
      constructor
      · intro h
        rw [readSlots_of_fault hfault] at h
        exact ⟨column, fault, ⟨rfl, hfault⟩, (Except.error.inj h).symm⟩
      · rintro ⟨_, fault', ⟨rfl, hfault'⟩, rfl⟩
        exact readSlots_of_fault hfault' slots

end Slots

/-! ## Lines -/

/-- The columns of a line that has enough of them. -/
structure Row where
  id : List Char
  address : List Char
  flags : List Char
  master : List Char
  ping : List Char
  pong : List Char
  epoch : List Char
  link : List Char
  slots : List (List Char)

namespace Row

def columns (row : Row) : List (List Char) :=
  row.id :: row.address :: row.flags :: row.master :: row.ping :: row.pong :: row.epoch ::
    row.link :: row.slots

theorem exists_columns {columns : List (List Char)} (h : 8 ≤ columns.length) :
    ∃ row : Row, columns = row.columns := by
  match columns, h with
  | id :: address :: flags :: master :: ping :: pong :: epoch :: link :: slots, _ =>
    exact ⟨⟨id, address, flags, master, ping, pong, epoch, link, slots⟩, rfl⟩

theorem length_columns (row : Row) : 8 ≤ row.columns.length := by
  simp only [columns, List.length_cons]
  omega

theorem columns_inj {row row' : Row} (h : row.columns = row'.columns) : row = row' := by
  cases row
  cases row'
  simpa [columns] using h

/-- The host of the node, where the node that answers stands in if its own line names none. -/
def hostFor (answeringHost : String) (row : Row) (host : List Char) : String :=
  if host = [] ∧ .myself ∈ readFlags row.flags then answeringHost else String.ofList host

/-- The node can be reached under this host and port. -/
def Reachable (answeringHost : String) (row : Row) (host : List Char) (port : UInt16) : Prop :=
  row.hostFor answeringHost host ≠ "" ∧ port ≠ 0

instance (answeringHost : String) (row : Row) (host : List Char) (port : UInt16) :
    Decidable (row.Reachable answeringHost host port) :=
  inferInstanceAs (Decidable (_ ∧ _))

/-- The node of a row, under a host and port, in a link state and with slots. -/
def node (row : Row) (host : String) (port : UInt16) (link : Link) (slots : SlotRange) : Node where
  host := host
  port := port
  id := some (String.ofList row.id)
  role := (readRole (readFlags row.flags) row.master).1
  masterId := (readRole (readFlags row.flags) row.master).2
  flags := readFlags row.flags
  link := some link
  slots := slots

/-- What is wrong with a row. Link and slots only count if the node can be reached. -/
inductive Fault (answeringHost : String) (row : Row) : LineFault → Prop
  | address : (∀ host port, ¬ HoldsAddress host port row.address) → row.Fault answeringHost .address
  | link {host port} : HoldsAddress host port row.address →
      row.Reachable answeringHost host port → (∀ link : Link, row.link ≠ link.word.toList) →
      row.Fault answeringHost .link
  | slots {host port column fault} {link : Link} : HoldsAddress host port row.address →
      row.Reachable answeringHost host port → row.link = link.word.toList →
      FirstFault SlotFault row.slots column fault → row.Fault answeringHost fault

end Row

theorem readLink_eq_some_iff {column : List Char} {link : Link} :
    readLink column = some link ↔ column = link.word.toList := by
  constructor
  · unfold readLink
    split
    · rintro ⟨⟩
      assumption
    · split
      · rintro ⟨⟩
        assumption
      · rintro ⟨⟩
  · rintro rfl
    exact readLink_written link

section Row

variable {answeringHost : String} {line host : List Char} {port : UInt16} {row : Row}
  {e : ClusterError}

theorem readRow_of_unread (h : readAddress row.address = none) :
    readColumns answeringHost line row.columns = .error (malformedLine line) := by
  rw [Row.columns, readColumns, h]

theorem readRow_of_address (h : HoldsAddress host port row.address) :
    readColumns answeringHost line row.columns =
      if row.Reachable answeringHost host port then
        match readLink row.link with
        | none => .error (malformedLine line)
        | some link => (readSlots line .empty row.slots).map fun slots =>
            some (row.node (row.hostFor answeringHost host) port link slots)
      else .ok none := by
  have hhost : (if host.isEmpty && (readFlags row.flags).contains .myself then answeringHost
      else String.ofList host) = row.hostFor answeringHost host := by
    simp [Row.hostFor]
  rw [Row.columns, readColumns, readAddress_eq_some_iff.2 h]
  dsimp only
  rw [hhost]
  by_cases hreach : row.Reachable answeringHost host port
  · have hlisted : ((row.hostFor answeringHost host).isEmpty || port == 0) = false := by
      simp [hreach.1, hreach.2]
    rw [hlisted, if_neg Bool.false_ne_true, if_pos hreach]
    cases readLink row.link with
    | none => rfl
    | some link =>
      dsimp only
      cases readSlots line .empty row.slots <;> rfl
  · have hskipped : ((row.hostFor answeringHost host).isEmpty || port == 0) = true := by
      unfold Row.Reachable at hreach
      simp
      tauto
    rw [hskipped, if_pos rfl, if_neg hreach]

/-- A column holds one address at most. -/
theorem HoldsAddress.unique {host' : List Char} {port' : UInt16} {column : List Char}
    (h : HoldsAddress host port column) (h' : HoldsAddress host' port' column) :
    host = host' ∧ port = port' := by
  have hread := readAddress_eq_some_iff.2 h
  rw [readAddress_eq_some_iff.2 h'] at hread
  obtain ⟨rfl, rfl⟩ := Prod.mk.inj (Option.some.inj hread)
  exact ⟨rfl, rfl⟩

section Fault

variable {fault : LineFault}

theorem fault_of_unread (hnone : ∀ host port, ¬ HoldsAddress host port row.address) :
    row.Fault answeringHost fault ↔ fault = .address := by
  constructor
  · intro h
    cases h with
    | address _ => rfl
    | link h _ _ => exact absurd h (hnone _ _)
    | slots h _ _ _ => exact absurd h (hnone _ _)
  · rintro rfl
    exact .address hnone

variable (haddress : HoldsAddress host port row.address)

include haddress

theorem not_fault_of_unreachable (hreach : ¬ row.Reachable answeringHost host port) :
    ¬ row.Fault answeringHost fault := by
  intro h
  cases h with
  | address hnone => exact hnone host port haddress
  | link h hreach' _ =>
    obtain ⟨rfl, rfl⟩ := h.unique haddress
    exact hreach hreach'
  | slots h hreach' _ _ =>
    obtain ⟨rfl, rfl⟩ := h.unique haddress
    exact hreach hreach'

theorem fault_of_unlinked (hreach : row.Reachable answeringHost host port)
    (hlink : readLink row.link = none) : row.Fault answeringHost fault ↔ fault = .link := by
  have hnone : ∀ link : Link, row.link ≠ link.word.toList := by
    intro link h
    rw [readLink_eq_some_iff.2 h] at hlink
    cases hlink
  constructor
  · intro h
    cases h with
    | address h => exact absurd haddress (h host port)
    | link _ _ _ => rfl
    | slots _ _ h _ => exact absurd h (hnone _)
  · rintro rfl
    exact .link haddress hreach hnone

theorem fault_of_linked (hreach : row.Reachable answeringHost host port) {link : Link}
    (hlink : readLink row.link = some link) :
    row.Fault answeringHost fault ↔ ∃ column, FirstFault SlotFault row.slots column fault := by
  have hword := readLink_eq_some_iff.1 hlink
  constructor
  · intro h
    cases h with
    | address h => exact absurd haddress (h host port)
    | link _ _ h => exact absurd hword (h link)
    | slots _ _ _ hfirst => exact ⟨_, hfirst⟩
  · rintro ⟨column, hfirst⟩
    exact .slots haddress hreach hword hfirst

end Fault

theorem readRow_error_iff : readColumns answeringHost line row.columns = .error e ↔
    ∃ fault, row.Fault answeringHost fault ∧ e = fault.error line := by
  cases hread : readAddress row.address with
  | none =>
    have hnone : ∀ host port, ¬ HoldsAddress host port row.address := by
      intro host port h
      rw [readAddress_eq_some_iff.2 h] at hread
      cases hread
    rw [readRow_of_unread hread]
    simp only [fault_of_unread hnone, exists_eq_left]
    exact ⟨fun h => (Except.error.inj h).symm, fun h => congrArg _ h.symm⟩
  | some address =>
    have haddress : HoldsAddress address.1 address.2 row.address := readAddress_eq_some_iff.1 hread
    rw [readRow_of_address haddress]
    by_cases hreach : row.Reachable answeringHost address.1 address.2
    · rw [if_pos hreach]
      cases hlink : readLink row.link with
      | none =>
        simp only [fault_of_unlinked haddress hreach hlink, exists_eq_left]
        exact ⟨fun h => (Except.error.inj h).symm, fun h => congrArg _ h.symm⟩
      | some link =>
        have hmap : ∀ {slots : Except ClusterError SlotRange} {f : SlotRange → Option Node},
            slots.map f = .error e ↔ slots = .error e := by
          intro slots f
          cases slots <;> simp [Except.map]
        dsimp only
        rw [hmap, readSlots_error_iff]
        simp only [fault_of_linked haddress hreach hlink]
        exact ⟨fun ⟨column, fault, hfirst, he⟩ => ⟨fault, ⟨column, hfirst⟩, he⟩,
          fun ⟨fault, ⟨column, hfirst⟩, he⟩ => ⟨column, fault, hfirst, he⟩⟩
    · rw [if_neg hreach]
      simp [not_fault_of_unreachable haddress hreach]

end Row

/-! ## Reports -/

/-- What is wrong with a line. -/
inductive Faulty (answeringHost : String) (line : List Char) : LineFault → Prop
  | columns : (Text.words line).length < 8 → Faulty answeringHost line .columns
  | row {row : Row} {fault} : Text.words line = row.columns → row.Fault answeringHost fault →
      Faulty answeringHost line fault

section Report

variable {answeringHost : String} {line : List Char} {lines : List (List Char)}
  {e : ClusterError}

theorem readColumns_of_short {columns : List (List Char)} (h : columns.length < 8) :
    readColumns answeringHost line columns = .error (malformedLine line) := by
  unfold readColumns
  split
  · simp only [List.length_cons] at h
    omega
  · rfl

theorem readLine_error_iff : readLine answeringHost line = .error e ↔
    ∃ fault, Faulty answeringHost line fault ∧ e = fault.error line := by
  unfold readLine
  by_cases hlength : 8 ≤ (Text.words line).length
  · obtain ⟨row, hrow⟩ := Row.exists_columns hlength
    rw [hrow, readRow_error_iff]
    constructor
    · rintro ⟨fault, hfault, he⟩
      exact ⟨fault, .row hrow hfault, he⟩
    · rintro ⟨fault, hfault, he⟩
      cases hfault with
      | columns hshort => omega
      | row hrow' hfault =>
        obtain rfl := Row.columns_inj (hrow.symm.trans hrow')
        exact ⟨fault, hfault, he⟩
  · have hshort : (Text.words line).length < 8 := Nat.lt_of_not_le hlength
    rw [readColumns_of_short hshort]
    constructor
    · rintro ⟨⟩
      exact ⟨.columns, .columns hshort, rfl⟩
    · rintro ⟨fault, hfault, rfl⟩
      cases hfault with
      | columns _ => rfl
      | row hrow _ =>
        rw [hrow] at hlength
        exact absurd (Row.length_columns _) hlength

theorem readLines_of_error (h : readLine answeringHost line = .error e) :
    readLines answeringHost (line :: lines) = .error e := by
  rw [readLines, h]

theorem readLines_of_ok {node : Option Node} (h : readLine answeringHost line = .ok node) :
    readLines answeringHost (line :: lines) = .error e ↔
      readLines answeringHost lines = .error e := by
  rw [readLines, h]
  cases readLines answeringHost lines <;> simp

/-- The first line with a fault decides. -/
theorem readLines_error_iff : readLines answeringHost lines = .error e ↔
    ∃ line fault, FirstFault (Faulty answeringHost) lines line fault ∧ e = fault.error line := by
  induction lines with
  | nil =>
    constructor
    · rintro ⟨⟩
    · rintro ⟨line, fault, ⟨⟩, -⟩
  | cons line rest ih =>
    cases hline : readLine answeringHost line with
    | ok node =>
      have hsound : ∀ fault, ¬ Faulty answeringHost line fault := by
        intro fault hfault
        rw [readLine_error_iff.2 ⟨fault, hfault, rfl⟩] at hline
        cases hline
      rw [readLines_of_ok hline, ih]
      simp only [firstFault_of_sound hsound]
    | error e' =>
      obtain ⟨fault, hfault, he'⟩ := readLine_error_iff.1 hline
      simp only [firstFault_of_fault hfault]
      rw [readLines_of_error hline]
      constructor
      · rintro ⟨⟩
        exact ⟨line, fault, ⟨rfl, hfault⟩, he'⟩
      · rintro ⟨_, fault', ⟨rfl, hfault'⟩, rfl⟩
        have hread := readLine_error_iff.2 ⟨fault', hfault', rfl⟩
        rw [Except.error.inj (hline.symm.trans hread)]

/-- A line is malformed, or it lists slots that do not exist. -/
def IsReportError (e : ClusterError) : Prop :=
  e.kind = .unexpectedResponse ∨ ∃ rejection, e = .cause (.slotBounds rejection)

theorem readLines_error (h : readLines answeringHost lines = .error e) : IsReportError e := by
  obtain ⟨line, fault, -, rfl⟩ := readLines_error_iff.1 h
  cases fault with
  | slotBounds rejection => exact .inr ⟨rejection, rfl⟩
  | columns | address | link | slotNumber => exact .inl rfl

/-- What comes of reading the lines of a report. -/
structure ReportOutcome (answeringHost : String) (lines : List (List Char))
    (result : Except ClusterError (List Node)) : Prop where
  read_iff : (∃ nodes, result = .ok nodes) ↔
    ∀ line ∈ lines, ∀ fault, ¬ Faulty answeringHost line fault
  first : ∀ {e}, result = .error e →
    ∃ line fault, FirstFault (Faulty answeringHost) lines line fault
  malformed : ∀ {line fault}, FirstFault (Faulty answeringHost) lines line fault →
    (∀ rejection, fault ≠ .slotBounds rejection) → ∃ e, result = .error e ∧
      e.kind = .unexpectedResponse ∧ e.detail = some (String.ofList line)
  /-- This fault alone is reported as a refused argument, without the line. -/
  misbounded : ∀ {line rejection},
    FirstFault (Faulty answeringHost) lines line (.slotBounds rejection) →
    ∃ e, result = .error e ∧ e = .cause (.slotBounds rejection) ∧ e.kind = .illegalArgument

/-- A report is refused if and only if some line has a fault, for the first fault of the first such
line. The error is that of a response that is not as expected and names the line, unless the
fault is that the numbers of a slot column do not bound slots. -/
theorem report_refusal (answeringHost text : String) :
    ReportOutcome answeringHost (Text.trimmedLines text.toList)
      (readReport answeringHost text) := by
  unfold readReport
  generalize Text.trimmedLines text.toList = lines
  have hrefused : ∀ {line fault}, FirstFault (Faulty answeringHost) lines line fault →
      readLines answeringHost lines = .error (fault.error line) :=
    fun hfirst => readLines_error_iff.2 ⟨_, _, hfirst, rfl⟩
  have hfirst : ∀ {e}, readLines answeringHost lines = .error e →
      ∃ line fault, FirstFault (Faulty answeringHost) lines line fault := by
    intro e h
    obtain ⟨line, fault, hfirst, -⟩ := readLines_error_iff.1 h
    exact ⟨line, fault, hfirst⟩
  refine ⟨⟨?_, ?_⟩, hfirst, ?_, fun hfirst => ⟨_, hrefused hfirst, rfl, rfl⟩⟩
  · rintro ⟨nodes, hread⟩ line hmem fault hfault
    obtain ⟨found, fault', hfound⟩ := exists_firstFault_iff.2 ⟨line, hmem, fault, hfault⟩
    cases hread.symm.trans (hrefused hfound)
  · intro hsound
    cases hread : readLines answeringHost lines with
    | ok nodes => exact ⟨nodes, rfl⟩
    | error e =>
      obtain ⟨line, hmem, fault, hfault⟩ := exists_firstFault_iff.1 (hfirst hread)
      exact absurd hfault (hsound line hmem fault)
  · intro line fault hfirst hbounds
    refine ⟨_, hrefused hfirst, ?_⟩
    cases fault with
    | slotBounds rejection => exact absurd rfl (hbounds rejection)
    | columns | address | link | slotNumber => exact ⟨rfl, rfl⟩

end Report

/-- The report of a master whose only slots are given in the wrong order. -/
def reversedReport : String := "a1 10.0.0.1:7000@17000 myself,master - 0 0 1 connected 200-100"

/-- It is refused as if an argument were wrong, and the line is not named. -/
theorem not_always_unexpected : ¬ ∀ answeringHost text e,
    readReport answeringHost text = .error e → e.kind = .unexpectedResponse := by
  have hread : readReport "10.0.0.1" reversedReport =
      .error (.cause (.slotBounds .startAfterEnd)) := rfl
  intro h
  cases h _ _ _ hread

end SlotRouter
