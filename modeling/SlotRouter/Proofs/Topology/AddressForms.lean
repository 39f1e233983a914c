import SlotRouter.Proofs.Text.Columns
import SlotRouter.Topology.Report

/-!
# The forms of an address

* `InBrackets host text` : a host with any number of brackets around it, which `bareHost` takes off
  (`bareHost_eq_iff`);
* `IsAddress host port text` : a host, perhaps in brackets, a colon and a port; these are the texts
  that are split into host and port (`splitAddress?_eq_some_iff`);
* `HoldsAddress host port column` : an address, perhaps with the port of a bus and a name behind an
  `@`; these are the columns that are read (`readAddress_eq_some_iff`).
-/

namespace SlotRouter

variable {c : Char} {s host text column : List Char} {port : UInt16}

/-! ## Brackets -/

theorem stripStart_of_head (h : s.head? ≠ some c) : Text.stripStart c s = s := by
  cases s with
  | nil => rfl
  | cons x s =>
    have hx : (x == c) = false := by
      rw [beq_eq_false_iff_ne]
      rintro rfl
      exact h rfl
    rw [Text.stripStart, List.dropWhile_cons, hx, if_neg Bool.false_ne_true]

theorem stripStart_replicate (n : Nat) (h : s.head? ≠ some c) :
    Text.stripStart c (List.replicate n c ++ s) = s := by
  induction n with
  | zero => exact stripStart_of_head h
  | succ n ih =>
    rw [List.replicate_succ, List.cons_append, Text.stripStart, List.dropWhile_cons,
      beq_self_eq_true, if_pos rfl]
    exact ih

/-- What is taken off the start, and that the rest starts otherwise. -/
theorem eq_replicate_stripStart (c : Char) (s : List Char) :
    ∃ n, s = List.replicate n c ++ Text.stripStart c s ∧ (Text.stripStart c s).head? ≠ some c := by
  induction s with
  | nil => exact ⟨0, rfl, nofun⟩
  | cons x s ih =>
    by_cases hx : x = c
    · subst hx
      obtain ⟨n, hn, hhead⟩ := ih
      have hstrip : Text.stripStart x (x :: s) = Text.stripStart x s := by
        rw [Text.stripStart, List.dropWhile_cons, beq_self_eq_true, if_pos rfl]
        rfl
      rw [hstrip]
      exact ⟨n + 1, by rw [List.replicate_succ, List.cons_append, ← hn], hhead⟩
    · have hhead : (x :: s).head? ≠ some c := fun h => hx (Option.some.inj h)
      rw [stripStart_of_head hhead]
      exact ⟨0, rfl, hhead⟩

theorem stripEnd_eq (c : Char) (s : List Char) :
    Text.stripEnd c s = (Text.stripStart c s.reverse).reverse := rfl

theorem stripEnd_replicate (n : Nat) (h : s.getLast? ≠ some c) :
    Text.stripEnd c (s ++ List.replicate n c) = s := by
  have hhead : s.reverse.head? ≠ some c := by rwa [List.head?_reverse]
  rw [stripEnd_eq, List.reverse_append, List.reverse_replicate, stripStart_replicate n hhead,
    List.reverse_reverse]

/-- What is taken off the end, and that the rest ends otherwise. -/
theorem eq_stripEnd_replicate (c : Char) (s : List Char) :
    ∃ n, s = Text.stripEnd c s ++ List.replicate n c ∧ (Text.stripEnd c s).getLast? ≠ some c := by
  obtain ⟨n, hn, hhead⟩ := eq_replicate_stripStart c s.reverse
  refine ⟨n, ?_, ?_⟩
  · have hreverse := congrArg List.reverse hn
    rwa [List.reverse_reverse, List.reverse_append, List.reverse_replicate] at hreverse
  · rwa [stripEnd_eq, List.getLast?_reverse]

/-- A host with brackets around it, any number on each side and none at its own ends. -/
structure InBrackets (host text : List Char) : Prop where
  form : ∃ i j, text = List.replicate i '[' ++ (host ++ List.replicate j ']')
  opened : host.head? ≠ some '['
  closed : host.getLast? ≠ some ']'

theorem bareHost_eq_iff : bareHost text = host ↔ InBrackets host text := by
  constructor
  · rintro rfl
    obtain ⟨i, hi, hopened⟩ := eq_replicate_stripStart '[' text
    obtain ⟨j, hj, hclosed⟩ := eq_stripEnd_replicate ']' (Text.stripStart '[' text)
    refine ⟨⟨i, j, hi.trans (congrArg _ hj)⟩, ?_, hclosed⟩
    -- the host starts like the text does once the opening brackets are gone, unless it is empty
    intro hhead
    apply hopened
    rw [hj, List.head?_append, show (Text.stripEnd ']' _).head? = some '[' from hhead]
    rfl
  · rintro ⟨⟨i, j, rfl⟩, hopened, hclosed⟩
    have hhead : (host ++ List.replicate j ']').head? ≠ some '[' := by
      cases host with
      | nil => cases j <;> simp [List.replicate_succ]
      | cons x host => exact hopened
    rw [bareHost, stripStart_replicate i hhead, stripEnd_replicate j hclosed]

/-! ## Addresses -/

/-- A port number is written without the characters that stand around it. -/
theorem notMem_of_port? (h : port? s = some port) (hdigit : c.isDigit = false) (hplus : c ≠ '+') :
    c ∉ s := by
  obtain ⟨n, hn, -⟩ := Option.map_eq_some_iff.1 h
  exact Text.notMem_of_unsigned? hn hdigit hplus

/-- A host, perhaps in brackets, a colon and a port. The host may hold colons itself. -/
inductive IsAddress (host : List Char) (port : UInt16) : List Char → Prop
  | mk {text digits} : InBrackets host text → port? digits = some port →
      IsAddress host port (text ++ ':' :: digits)

/-- Cutting at the last colon finds host and port. -/
theorem isAddress_iff : IsAddress host port text ↔
    ∃ before digits, Text.cutLast ':' text = some (before, digits) ∧ bareHost before = host ∧
      port? digits = some port := by
  constructor
  · rintro ⟨hhost, hport⟩
    have hcolon := notMem_of_port? hport (c := ':') rfl (by decide)
    exact ⟨_, _, Text.cutLast_append _ hcolon, bareHost_eq_iff.2 hhost, hport⟩
  · rintro ⟨before, digits, hcut, hhost, hport⟩
    obtain ⟨rfl, -⟩ := Text.eq_of_cutLast hcut
    exact .mk (bareHost_eq_iff.1 hhost) hport

theorem splitAddress?_eq_some_iff :
    splitAddress? text = some (host, port) ↔ IsAddress host port text ∧ host ≠ [] := by
  rw [isAddress_iff]
  unfold splitAddress?
  constructor
  · intro h
    obtain ⟨⟨before, digits⟩, hcut, h⟩ := Option.bind_eq_some_iff.1 h
    dsimp only at h
    split at h
    · cases h
    · next hne =>
      obtain ⟨p, hport, h⟩ := Option.bind_eq_some_iff.1 h
      obtain ⟨rfl, rfl⟩ := Prod.mk.inj (Option.some.inj h)
      exact ⟨⟨before, digits, hcut, rfl, hport⟩, by simpa using hne⟩
  · rintro ⟨⟨before, digits, hcut, rfl, hport⟩, hne⟩
    simp [hcut, hport, hne]

/-- A column with an address, perhaps with the port of a bus and a name behind an `@`. -/
inductive HoldsAddress (host : List Char) (port : UInt16) : List Char → Prop
  | plain {address} : IsAddress host port address → '@' ∉ address → HoldsAddress host port address
  | bus {address} (bus) : IsAddress host port address → '@' ∉ address →
      HoldsAddress host port (address ++ '@' :: bus)

/-- What stands before the first `@` of a column is the address. -/
theorem holdsAddress_iff : HoldsAddress host port column ↔
    IsAddress host port ((Text.cutFirst '@' column).elim column (·.1)) := by
  constructor
  · intro h
    cases h with
    | plain haddress hat => rwa [Text.cutFirst_eq_none_iff.2 hat]
    | bus bus haddress hat => rwa [Text.cutFirst_append bus hat]
  · intro h
    cases hcut : Text.cutFirst '@' column with
    | none =>
      rw [hcut] at h
      exact .plain h (Text.cutFirst_eq_none_iff.1 hcut)
    | some cut =>
      obtain ⟨rfl, hat⟩ := Text.eq_of_cutFirst hcut
      rw [hcut] at h
      exact .bus cut.2 h hat

theorem readAddress_eq_some_iff :
    readAddress column = some (host, port) ↔ HoldsAddress host port column := by
  have hread : readAddress column =
      (Text.cutLast ':' ((Text.cutFirst '@' column).elim column (·.1)) >>= fun cut =>
        port? cut.2 >>= fun p => some (bareHost cut.1, p)) := by
    unfold readAddress
    cases Text.cutFirst '@' column <;> rfl
  rw [holdsAddress_iff, isAddress_iff, hread]
  constructor
  · intro h
    obtain ⟨⟨before, digits⟩, hcut, h⟩ := Option.bind_eq_some_iff.1 h
    obtain ⟨p, hport, h⟩ := Option.bind_eq_some_iff.1 h
    obtain ⟨rfl, rfl⟩ := Prod.mk.inj (Option.some.inj h)
    exact ⟨before, digits, hcut, rfl, hport⟩
  · rintro ⟨before, digits, hcut, rfl, hport⟩
    simp [hcut, hport]

end SlotRouter
