import SlotRouter.Error.Classify
import SlotRouter.Proofs.Topology.FirstNodes
import SlotRouter.Proofs.Topology.ReportFaults
import SlotRouter.Reply

/-!
# An address is read the same everywhere

Addresses come as descriptors, in redirects and in the columns of reports.

* `PlainAddress host port a` : an address that can come in each of these ways;
* `parse_eq_ok_iff`, `parse_address` : descriptors, and that the address of one names it again;
* `RedirectsTo slot a ask e` : an error that redirects a slot to an address, among them the replies
  `redirectText`; the redirect that it is classified as (`redirect?_of_redirectsTo`);
* `ListedAt a line` : a line with this address; if it is read, then as a node with this host and
  port (`readLine_of_listedAt`), and if it is not, then for something else (`not_address_fault`);
* `address_readers_agree` : all of it for one address, and that a redirect finds a listed node.
-/

namespace SlotRouter

section Readers

variable {host a : List Char} {port : UInt16}

/-- An address that can be connected to, in one word and without an `@`. -/
structure PlainAddress (host : List Char) (port : UInt16) (a : List Char) : Prop where
  form : IsAddress host port a
  host_ne_nil : host ≠ []
  port_ne_zero : port ≠ 0
  no_at : '@' ∉ a
  no_blank : ∀ c ∈ a, Text.isAsciiBlank c = false

theorem IsAddress.ne_nil (h : IsAddress host port a) : a ≠ [] := by
  cases h with
  | mk _ _ => exact List.append_ne_nil_of_right_ne_nil _ (List.cons_ne_nil _ _)

/-! ## Descriptors -/

theorem parse_eq_ok_iff {address : String} {n : Node} : Node.parse address = .ok n ↔
    ∃ host port, IsAddress host port address.toList ∧ host ≠ [] ∧
      n = .ofAddress (String.ofList host) port := by
  unfold Node.parse
  constructor
  · split
    · next host port hsplit =>
      rintro ⟨⟩
      obtain ⟨hform, hne⟩ := splitAddress?_eq_some_iff.1 hsplit
      exact ⟨host, port, hform, hne, rfl⟩
    · rintro ⟨⟩
  · rintro ⟨host, port, hform, hne, rfl⟩
    rw [splitAddress?_eq_some_iff.2 ⟨hform, hne⟩]

/-- The brackets of an address can be left out. -/
theorem IsAddress.bare (h : IsAddress host port a) :
    IsAddress host port (addressText (String.ofList host) port).toList := by
  cases h with
  | mk hhost _ =>
    have hbare : InBrackets host host := ⟨⟨0, 0, by simp⟩, hhost.opened, hhost.closed⟩
    rw [toList_addressText, String.toList_ofList]
    exact .mk hbare (port?_toDigits port)

theorem parse_address {address : String} {n : Node} (h : Node.parse address = .ok n) :
    Node.parse n.address = .ok n := by
  obtain ⟨host, port, hform, hne, rfl⟩ := parse_eq_ok_iff.1 h
  exact parse_eq_ok_iff.2 ⟨host, port, hform.bare, hne, rfl⟩

/-! ## Redirects -/

section Redirect

variable {ask : Bool} {slot : Nat} {detail : String} {e : ClientError}

/-- The first two words are a slot and an address. -/
def NamesSlotAndAddress (slot : Nat) (a : List Char) (detail : String) : Prop :=
  ∃ s rest, Text.words detail.toList = s :: a :: rest ∧ Text.unsigned? 65536 s = some slot

/-- An error that redirects a slot to an address. -/
inductive RedirectsTo (slot : Nat) (a : List Char) : Bool → ClientError → Prop
  | moved {description detail} : NamesSlotAndAddress slot a detail →
      RedirectsTo slot a false (.described .moved description (some detail))
  | ask {description detail} : NamesSlotAndAddress slot a detail →
      RedirectsTo slot a true (.described .ask description (some detail))

theorem slotAndAddress?_of_names (h : NamesSlotAndAddress slot a detail)
    (hform : IsAddress host port a) (hne : host ≠ []) :
    ClientError.slotAndAddress? detail = some (slot, String.ofList host, port) := by
  obtain ⟨s, rest, hwords, hslot⟩ := h
  rw [ClientError.slotAndAddress?, hwords]
  simp [hslot, splitAddress?_eq_some_iff.2 ⟨hform, hne⟩]

theorem redirect?_of_redirectsTo (h : RedirectsTo slot a ask e) (hform : IsAddress host port a)
    (hne : host ≠ []) :
    e.toClusterError.redirect? = some ⟨ask, slot, String.ofList host, port⟩ := by
  rw [ClientError.redirect?_toClusterError]
  cases h with
  | moved hnames => rw [ClientError.redirect?, slotAndAddress?_of_names hnames hform hne]; rfl
  | ask hnames => rw [ClientError.redirect?, slotAndAddress?_of_names hnames hform hne]; rfl

/-- The text of an error reply that redirects a slot. -/
def redirectText (ask : Bool) (slot : Nat) (a : List Char) : String :=
  (if ask then "ASK" else "MOVED") ++ " " ++ toString slot ++ " " ++ String.ofList a

/-- What comes after the code of the reply. -/
def redirectDetail (slot : Nat) (a : List Char) : List Char := Nat.toDigits 10 slot ++ ' ' :: a

theorem toList_redirectText (ask : Bool) (slot : Nat) (a : List Char) :
    (redirectText ask slot a).toList =
      (if ask then "ASK" else "MOVED").toList ++ ' ' :: redirectDetail slot a := by
  simp [redirectText, redirectDetail]

theorem namesSlotAndAddress_detail (hslot : slot < 65536) (hne : a ≠ [])
    (hblank : ∀ c ∈ a, Text.isAsciiBlank c = false) :
    NamesSlotAndAddress slot a (String.ofList (redirectDetail slot a)) := by
  have hsolid := Text.solid_toDigits slot
  refine ⟨Nat.toDigits 10 slot, [], ?_, Text.unsigned?_toDigits hslot⟩
  rw [String.toList_ofList, redirectDetail, Text.words_append hsolid.ne_nil hsolid.not_asciiBlank,
    Text.words_of_forall hne hblank]

/-- The reply is one line, cut after its code. -/
theorem ofText_redirectText (hblank : ∀ c ∈ a, Text.isAsciiBlank c = false) :
    ErrorReply.ofText (redirectText ask slot a) =
      ⟨if ask then "ASK" else "MOVED", some (String.ofList (redirectDetail slot a))⟩ := by
  have hreturn : '\r' ∉ a := by
    intro hmem
    cases hblank _ hmem
  have hline : '\r' ∉ (redirectText ask slot a).toList := by
    rw [toList_redirectText]
    cases ask <;> simp [redirectDetail, hreturn, Text.notMem_toDigits]
  have hcode : ' ' ∉ (if ask then "ASK" else "MOVED").toList := by
    cases ask <;> decide
  rw [ErrorReply.ofText, Text.firstLine_of_notMem hline, toList_redirectText,
    Text.cutFirst_append _ hcode]
  simp

theorem redirectsTo_reply (hslot : slot < 65536) (hne : a ≠ [])
    (hblank : ∀ c ∈ a, Text.isAsciiBlank c = false) :
    RedirectsTo slot a ask (ErrorReply.ofText (redirectText ask slot a)).toClientError := by
  have hnames := namesSlotAndAddress_detail hslot hne hblank
  rw [ofText_redirectText hblank]
  cases ask with
  | false => exact .moved hnames
  | true => exact .ask hnames

end Redirect

/-! ## Reports -/

section Report

variable {answeringHost : String} {line : List Char}

/-- The address column of a line is the address, alone or before the port of a bus. -/
inductive ListedAt (a line : List Char) : Prop
  | plain {id rest} : Text.words line = id :: a :: rest → ListedAt a line
  | bus {id bus rest} : Text.words line = id :: (a ++ '@' :: bus) :: rest → ListedAt a line

theorem ListedAt.holdsAddress (h : ListedAt a line) (ha : PlainAddress host port a) :
    ∃ id column rest, Text.words line = id :: column :: rest ∧ HoldsAddress host port column := by
  cases h with
  | plain hwords => exact ⟨_, _, _, hwords, .plain ha.form ha.no_at⟩
  | bus hwords => exact ⟨_, _, _, hwords, .bus _ ha.form ha.no_at⟩

/-- Nobody else's host stands in for one that is named. -/
theorem Row.reachable_of_plain (ha : PlainAddress host port a) (answeringHost : String)
    (row : Row) : row.hostFor answeringHost host = String.ofList host ∧
      row.Reachable answeringHost host port := by
  have hhost : row.hostFor answeringHost host = String.ofList host :=
    if_neg fun h => ha.host_ne_nil h.1
  refine ⟨hhost, ?_, ha.port_ne_zero⟩
  rw [hhost]
  exact fun hempty => ha.host_ne_nil (String.ofList_eq_empty_iff.1 hempty)

theorem Row.holdsAddress_of_listedAt {row : Row} (hrow : Text.words line = row.columns)
    (h : ListedAt a line) (ha : PlainAddress host port a) : HoldsAddress host port row.address := by
  obtain ⟨id, column, rest, hwords, hholds⟩ := h.holdsAddress ha
  rw [hrow, Row.columns] at hwords
  obtain ⟨rfl, -⟩ := List.cons.inj (List.cons.inj hwords).2
  exact hholds

theorem readLine_of_listedAt {found : Option Node} (ha : PlainAddress host port a)
    (h : ListedAt a line) (hread : readLine answeringHost line = .ok found) :
    ∃ n, found = some n ∧ n.host = String.ofList host ∧ n.port = port := by
  unfold readLine at hread
  by_cases hlength : 8 ≤ (Text.words line).length
  · obtain ⟨row, hrow⟩ := Row.exists_columns hlength
    obtain ⟨hhost, hreach⟩ := Row.reachable_of_plain ha answeringHost row
    rw [hrow, readRow_of_address (Row.holdsAddress_of_listedAt hrow h ha), if_pos hreach] at hread
    cases hlink : readLink row.link with
    | none =>
      rw [hlink] at hread
      cases hread
    | some link =>
      rw [hlink] at hread
      dsimp only at hread
      cases hslots : readSlots line .empty row.slots with
      | error e =>
        rw [hslots] at hread
        cases hread
      | ok slots =>
        rw [hslots] at hread
        cases hread
        exact ⟨_, rfl, hhost, rfl⟩
  · rw [readColumns_of_short (Nat.lt_of_not_le hlength)] at hread
    cases hread

theorem not_address_fault (ha : PlainAddress host port a) (h : ListedAt a line) :
    ¬ Faulty answeringHost line .address := by
  intro hfaulty
  cases hfaulty with
  | row hrow hfault =>
    cases hfault with
    | address hnone => exact hnone _ _ (Row.holdsAddress_of_listedAt hrow h ha)
    | slots _ _ _ hfirst => cases hfirst.fault

theorem readLine_of_mem {lines : List (List Char)} {nodes : List Node}
    (h : readLines answeringHost lines = .ok nodes) (hline : line ∈ lines) :
    ∃ found, readLine answeringHost line = .ok found ∧ ∀ n ∈ found, n ∈ nodes := by
  induction lines generalizing nodes with
  | nil => cases hline
  | cons first rest ih =>
    rw [readLines] at h
    cases hfirst : readLine answeringHost first with
    | error e =>
      rw [hfirst] at h
      cases h
    | ok found =>
      cases hrest : readLines answeringHost rest with
      | error e =>
        rw [hfirst, hrest] at h
        cases h
      | ok others =>
        rw [hfirst, hrest] at h
        cases h
        rcases List.mem_cons.1 hline with rfl | hline
        · exact ⟨found, hfirst, fun n hn => List.mem_append_left _ (Option.mem_toList.2 hn)⟩
        · obtain ⟨found', hread, hmem⟩ := ih hrest hline
          exact ⟨found', hread, fun n hn => List.mem_append_right _ (hmem n hn)⟩

end Report

end Readers

/-! ## Snapshots -/

/-- What the readers make of an address. -/
structure ReadAlike (host : List Char) (port : UInt16) (a : List Char) : Prop where
  descriptor : Node.parse (String.ofList a) = .ok (.ofAddress (String.ofList host) port)
  redirect : ∀ {slot ask e}, RedirectsTo slot a ask e →
    e.toClusterError.redirect? = some ⟨ask, slot, String.ofList host, port⟩
  reply : ∀ ask, ∀ slot < 65536,
    RedirectsTo slot a ask (ErrorReply.ofText (redirectText ask slot a)).toClientError
  /-- A line with the address is not refused for it, and it is not left out. -/
  line : ∀ {answeringHost line}, ListedAt a line → ¬ Faulty answeringHost line .address ∧
    ∀ {found}, readLine answeringHost line = .ok found →
      ∃ n, found = some n ∧ n.host = String.ofList host ∧ n.port = port
  /-- Of a report with such a line, the snapshot has a node that is at this host and port. -/
  listed : ∀ {answeringHost text nodes line}, readReport answeringHost text = .ok nodes →
    line ∈ Text.trimmedLines text.toList → ListedAt a line →
    ∃ n ∈ (Topology.ofNodes nodes).nodes, n.host = String.ofList host ∧ n.port = port
  /-- A redirect to the address of a node of a snapshot finds it. -/
  found : ∀ {t : Topology} {n slot ask e}, n ∈ t.nodes → n.host = String.ofList host →
    n.port = port → RedirectsTo slot a ask e → ∃ redirect,
      e.toClusterError.redirect? = some redirect ∧
      t.lookupAddress redirect.host redirect.port = .ok n

/-- Descriptors, redirects and reports take an address for the same host and port, so a redirect
finds the node that a report lists. A descriptor is named again by its own address. -/
theorem address_readers_agree :
    (∀ {host port a}, PlainAddress host port a → ReadAlike host port a) ∧
      ∀ {address n}, Node.parse address = .ok n → Node.parse n.address = .ok n := by
  refine ⟨fun {host port a} ha => ?_, parse_address⟩
  have hredirect : ∀ {slot ask e}, RedirectsTo slot a ask e →
      e.toClusterError.redirect? = some ⟨ask, slot, String.ofList host, port⟩ :=
    fun h => redirect?_of_redirectsTo h ha.form ha.host_ne_nil
  refine ⟨?_, hredirect, ?_, ?_, ?_, ?_⟩
  · refine parse_eq_ok_iff.2 ⟨host, port, ?_, ha.host_ne_nil, rfl⟩
    rw [String.toList_ofList]
    exact ha.form
  · intro ask slot hslot
    exact redirectsTo_reply hslot ha.form.ne_nil ha.no_blank
  · intro answeringHost line hline
    exact ⟨not_address_fault ha hline, readLine_of_listedAt ha hline⟩
  · intro answeringHost text nodes line hread hmem hline
    obtain ⟨found, hfound, hnodes⟩ := readLine_of_mem hread hmem
    obtain ⟨n, rfl, hhost, hport⟩ := readLine_of_listedAt ha hline hfound
    obtain ⟨m, hm, hmn⟩ := exists_keepFirst (hnodes n rfl)
    obtain ⟨hhost', hport'⟩ := Node.sameAddress_iff.1 (address_eq_iff.1 hmn)
    exact ⟨m, hm, hhost'.trans hhost, hport'.trans hport⟩
  · intro t n slot ask e hn hhost hport h
    refine ⟨_, hredirect h, ?_⟩
    rw [← hhost, ← hport]
    exact lookupAddress_of_mem hn

/-! A host with colons and a zone, in brackets, and a node that is listed with it. -/

namespace Zoned

def host : List Char := "fe80::1%en1".toList

def address : List Char := "[fe80::1%en1]:30001".toList

def line : List Char :=
  "a1 [fe80::1%en1]:30001@40001,host-1 myself,master - 0 0 1 connected 0-5460".toList

theorem plain : PlainAddress host 30001 address where
  form := isAddress_iff.2 ⟨"[fe80::1%en1]".toList, "30001".toList, rfl, rfl, rfl⟩
  host_ne_nil := by decide +kernel
  port_ne_zero := by decide
  no_at := by decide +kernel
  no_blank := by
    have hall : (address.all fun c => !Text.isAsciiBlank c) = true := by decide +kernel
    simpa using hall

theorem listed : ListedAt address line := by
  have hwords : Text.words line = "a1".toList :: (address ++ '@' :: "40001,host-1".toList) ::
      ["myself,master", "-", "0", "0", "1", "connected", "0-5460"].map String.toList := by
    decide +kernel
  exact .bus hwords

end Zoned

theorem address_readers_agree_zoned : PlainAddress Zoned.host 30001 Zoned.address ∧
    ListedAt Zoned.address Zoned.line ∧ ReadAlike Zoned.host 30001 Zoned.address :=
  ⟨Zoned.plain, Zoned.listed, address_readers_agree.1 Zoned.plain⟩

end SlotRouter
