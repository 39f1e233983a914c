import Mathlib.Tactic.SplitIfs
import SlotRouter.Text.Utf8

/-!
# Reading back what was encoded

The octets of a character take the reader from between characters to between characters. What the
first octet says about the second one is the only place where the ranges of characters matter.

* `lead_two`, `lead_three`, `lead_four` : the first octet of a longer character;
* `decodeFrom_tail`, `decodeFrom_last` : the octets after it;
* `decode?_encode` : every text is read back from its octets;
* `lead_cases`, `of_decodeFrom_tail`, `of_decodeFrom_last` : what octets look like that are read;
* `of_decodeFrom_none`, `decode?_eq_some_iff` : they are the encoding of the text that is read.
-/

namespace SlotRouter.Text.Utf8

variable {v : Nat} {rest : List UInt8}

/-! ## First octets -/

theorem lead_one (h : v ≤ 127) : lead v = .char (Char.ofNat v) := by rw [lead, if_pos h]

theorem lead_two (h : 127 < v) (h' : v ≤ 2047) :
    lead (v / 64 % 32 + 192) = .pending ⟨v / 64, 0, 0x80, 0xBF⟩ := by
  have hbits : v / 64 % 32 + 192 - 0xC0 = v / 64 := by omega
  rw [lead, if_neg (by omega), if_pos (by omega), hbits]

/-- The bounds of the second octet leave out what is shorter, and surrogates. -/
theorem lead_three (h : 2047 < v) (h' : v ≤ 65535) (hvalid : v < 0xD800 ∨ 0xDFFF < v) :
    ∃ low high, lead (v / 4096 % 16 + 224) = .pending ⟨v / 4096, 1, low, high⟩ ∧
      low ≤ v / 64 % 64 + 128 ∧ v / 64 % 64 + 128 ≤ high := by
  have hbits : v / 4096 % 16 + 224 - 0xE0 = v / 4096 := by omega
  rw [lead, if_neg (by omega), if_neg (by omega), hbits]
  by_cases hfirst : v / 4096 % 16 + 224 = 0xE0
  · exact ⟨0xA0, 0xBF, by rw [if_pos hfirst], by omega, by omega⟩
  · rw [if_neg hfirst]
    by_cases hsurrogate : v / 4096 % 16 + 224 = 0xED
    · exact ⟨0x80, 0x9F, by rw [if_pos hsurrogate], by omega, by omega⟩
    · exact ⟨0x80, 0xBF, by rw [if_neg hsurrogate, if_pos (by omega)], by omega, by omega⟩

/-- The bounds of the second octet leave out what is shorter, and what is no character. -/
theorem lead_four (h : 65535 < v) (hvalid : v < 0x110000) :
    ∃ low high, lead (v / 262144 % 8 + 240) = .pending ⟨v / 262144, 2, low, high⟩ ∧
      low ≤ v / 4096 % 64 + 128 ∧ v / 4096 % 64 + 128 ≤ high := by
  have hbits : v / 262144 % 8 + 240 - 0xF0 = v / 262144 := by omega
  rw [lead, if_neg (by omega), if_neg (by omega), if_neg (by omega), if_neg (by omega),
    if_neg (by omega), hbits]
  by_cases hfirst : v / 262144 % 8 + 240 = 0xF0
  · exact ⟨0x90, 0xBF, by rw [if_pos hfirst], by omega, by omega⟩
  · rw [if_neg hfirst]
    by_cases hlast : v / 262144 % 8 + 240 = 0xF4
    · exact ⟨0x80, 0x8F, by rw [if_pos hlast], by omega, by omega⟩
    · exact ⟨0x80, 0xBF, by rw [if_neg hlast, if_pos (by omega)], by omega, by omega⟩

/-! ## One octet after the other -/

theorem toNat_octet {n : Nat} (h : n < 256) : (UInt8.ofNat n).toNat = n := by
  rw [UInt8.toNat_ofNat', Nat.mod_eq_of_lt h]

theorem decodeFrom_char {b : Nat} {c : Char} (hb : b < 256) (h : lead b = .char c) :
    decodeFrom none (UInt8.ofNat b :: rest) = (decodeFrom none rest).map (c :: ·) := by
  rw [decodeFrom, toNat_octet hb, h]

theorem decodeFrom_lead {b : Nat} {p : Pending} (hb : b < 256) (h : lead b = .pending p) :
    decodeFrom none (UInt8.ofNat b :: rest) = decodeFrom (some p) rest := by
  rw [decodeFrom, toNat_octet hb, h]

section Continuation

variable {bits low high x : Nat} (hlow : low ≤ x % 64 + 128) (hhigh : x % 64 + 128 ≤ high)

include hlow hhigh

theorem accepts_tail (owed : Nat) :
    (Pending.mk bits owed low high).accepts (UInt8.ofNat (x % 64 + 128)).toNat = true := by
  rw [toNat_octet (by omega), Pending.accepts]
  simp [hlow, hhigh]

theorem decodeFrom_last :
    decodeFrom (some ⟨bits, 0, low, high⟩) (UInt8.ofNat (x % 64 + 128) :: rest) =
      (decodeFrom none rest).map (Char.ofNat (bits * 64 + x % 64) :: ·) := by
  rw [decodeFrom, if_pos (accepts_tail hlow hhigh 0), toNat_octet (by omega), Pending.push]
  dsimp only
  rw [Nat.add_sub_cancel]

theorem decodeFrom_tail (owed : Nat) :
    decodeFrom (some ⟨bits, owed + 1, low, high⟩) (UInt8.ofNat (x % 64 + 128) :: rest) =
      decodeFrom (some ⟨bits * 64 + x % 64, owed, 0x80, 0xBF⟩) rest := by
  rw [decodeFrom, if_pos (accepts_tail hlow hhigh (owed + 1)), toNat_octet (by omega), Pending.push]
  dsimp only
  rw [Nat.add_sub_cancel]

end Continuation

/-! ## Texts -/

theorem decodeFrom_utf8EncodeChar (c : Char) (rest : List UInt8) :
    decodeFrom none (String.utf8EncodeChar c ++ rest) = (decodeFrom none rest).map (c :: ·) := by
  have hvalid : c.val.toNat < 0xD800 ∨ 0xDFFF < c.val.toNat ∧ c.val.toNat < 0x110000 := c.valid
  have hc : Char.ofNat c.val.toNat = c := Char.ofNat_toNat c
  have hany : ∀ x, 0x80 ≤ x % 64 + 128 ∧ x % 64 + 128 ≤ 0xBF := fun x => by omega
  unfold String.utf8EncodeChar
  generalize c.val.toNat = v at hvalid hc
  dsimp only
  split_ifs with hone htwo hthree
  · rw [List.singleton_append, decodeFrom_char (by omega) (lead_one hone), hc]
  · have hbits : v / 64 * 64 + v % 64 = v := by omega
    rw [List.cons_append, List.singleton_append, decodeFrom_lead (by omega)
      (lead_two (by omega) htwo), decodeFrom_last (hany v).1 (hany v).2, hbits, hc]
  · have hbits : (v / 4096 * 64 + v / 64 % 64) * 64 + v % 64 = v := by omega
    obtain ⟨low, high, hlead, hlow, hhigh⟩ := lead_three (by omega) hthree (by omega)
    rw [List.cons_append, List.cons_append, List.singleton_append,
      decodeFrom_lead (by omega) hlead, decodeFrom_tail hlow hhigh,
      decodeFrom_last (hany v).1 (hany v).2, hbits, hc]
  · have hbits : ((v / 262144 * 64 + v / 4096 % 64) * 64 + v / 64 % 64) * 64 + v % 64 = v := by
      omega
    obtain ⟨low, high, hlead, hlow, hhigh⟩ := lead_four (v := v) (by omega) (by omega)
    rw [List.cons_append, List.cons_append, List.cons_append, List.singleton_append,
      decodeFrom_lead (by omega) hlead, decodeFrom_tail hlow hhigh,
      decodeFrom_tail (hany (v / 64)).1 (hany (v / 64)).2, decodeFrom_last (hany v).1 (hany v).2,
      hbits, hc]

/-- Nothing is lost by encoding a text. -/
theorem decode?_encode (s : List Char) : decode? (encode s) = some s := by
  rw [decode?]
  induction s with
  | nil => rfl
  | cons c s ih => rw [encode_cons, decodeFrom_utf8EncodeChar, ih, Option.map_some]

/-! ## Well-formed octets -/

theorem toNat_val_ofNat (h : v.isValidChar) : (Char.ofNat v).val.toNat = v := by
  rw [Char.ofNat, dif_pos h]
  rfl

section Encoding

variable {w x y z : Nat}

theorem utf8EncodeChar_one (hx : x ≤ 0x7F) :
    String.utf8EncodeChar (Char.ofNat x) = [UInt8.ofNat x] := by
  unfold String.utf8EncodeChar
  rw [toNat_val_ofNat (.inl (by omega))]
  exact if_pos hx

theorem utf8EncodeChar_two (hx : 0xC2 ≤ x ∧ x ≤ 0xDF) (hy : 0x80 ≤ y ∧ y ≤ 0xBF)
    (hv : v = (x - 0xC0) * 64 + (y - 0x80)) :
    String.utf8EncodeChar (Char.ofNat v) = [UInt8.ofNat x, UInt8.ofNat y] := by
  have hfirst : v / 64 % 32 + 192 = x := by omega
  have hsecond : v % 64 + 128 = y := by omega
  unfold String.utf8EncodeChar
  rw [toNat_val_ofNat (.inl (by omega))]
  dsimp only
  rw [if_neg (by omega), if_pos (by omega), hfirst, hsecond]

theorem utf8EncodeChar_three (hx : 0xE0 ≤ x ∧ x ≤ 0xEF) (hy : 0x80 ≤ y ∧ y ≤ 0xBF)
    (hz : 0x80 ≤ z ∧ z ≤ 0xBF) (hlong : x = 0xE0 → 0xA0 ≤ y) (hvalid : x = 0xED → y ≤ 0x9F)
    (hv : v = ((x - 0xE0) * 64 + (y - 0x80)) * 64 + (z - 0x80)) :
    String.utf8EncodeChar (Char.ofNat v) = [UInt8.ofNat x, UInt8.ofNat y, UInt8.ofNat z] := by
  have hfirst : v / 4096 % 16 + 224 = x := by omega
  have hsecond : v / 64 % 64 + 128 = y := by omega
  have hthird : v % 64 + 128 = z := by omega
  have hmore : 2047 < v := by omega
  have hmost : v ≤ 65535 := by omega
  have hchar : v.isValidChar := by
    unfold Nat.isValidChar
    omega
  unfold String.utf8EncodeChar
  rw [toNat_val_ofNat hchar]
  dsimp only
  rw [if_neg (Nat.not_le_of_lt (Nat.lt_trans (by decide) hmore)), if_neg (Nat.not_le_of_lt hmore),
    if_pos hmost, hfirst, hsecond, hthird]

theorem utf8EncodeChar_four (hw : 0xF0 ≤ w ∧ w ≤ 0xF4) (hx : 0x80 ≤ x ∧ x ≤ 0xBF)
    (hy : 0x80 ≤ y ∧ y ≤ 0xBF) (hz : 0x80 ≤ z ∧ z ≤ 0xBF) (hlong : w = 0xF0 → 0x90 ≤ x)
    (hvalid : w = 0xF4 → x ≤ 0x8F)
    (hv : v = (((w - 0xF0) * 64 + (x - 0x80)) * 64 + (y - 0x80)) * 64 + (z - 0x80)) :
    String.utf8EncodeChar (Char.ofNat v) =
      [UInt8.ofNat w, UInt8.ofNat x, UInt8.ofNat y, UInt8.ofNat z] := by
  have hfirst : v / 262144 % 8 + 240 = w := by omega
  have hsecond : v / 4096 % 64 + 128 = x := by omega
  have hthird : v / 64 % 64 + 128 = y := by omega
  have hfourth : v % 64 + 128 = z := by omega
  have hmore : 65535 < v := by omega
  have hchar : v.isValidChar := by
    unfold Nat.isValidChar
    omega
  unfold String.utf8EncodeChar
  rw [toNat_val_ofNat hchar]
  dsimp only
  rw [if_neg (Nat.not_le_of_lt (Nat.lt_trans (by decide) hmore)),
    if_neg (Nat.not_le_of_lt (Nat.lt_trans (by decide) hmore)), if_neg (Nat.not_le_of_lt hmore),
    hfirst, hsecond, hthird, hfourth]

end Encoding

/-- What a first octet says: the character, or how many octets follow and in which bounds. -/
theorem lead_cases (b : Nat) :
    (b ≤ 0x7F ∧ lead b = .char (Char.ofNat b)) ∨
    ((0xC2 ≤ b ∧ b ≤ 0xDF) ∧ lead b = .pending ⟨b - 0xC0, 0, 0x80, 0xBF⟩) ∨
    (∃ low high, (0xE0 ≤ b ∧ b ≤ 0xEF) ∧ (0x80 ≤ low ∧ high ≤ 0xBF) ∧ (b = 0xE0 → 0xA0 ≤ low) ∧
      (b = 0xED → high ≤ 0x9F) ∧ lead b = .pending ⟨b - 0xE0, 1, low, high⟩) ∨
    (∃ low high, (0xF0 ≤ b ∧ b ≤ 0xF4) ∧ (0x80 ≤ low ∧ high ≤ 0xBF) ∧ (b = 0xF0 → 0x90 ≤ low) ∧
      (b = 0xF4 → high ≤ 0x8F) ∧ lead b = .pending ⟨b - 0xF0, 2, low, high⟩) ∨
    lead b = .refused := by
  by_cases hone : b ≤ 0x7F
  · exact .inl ⟨hone, lead_one hone⟩
  by_cases htwo : 0xC2 ≤ b ∧ b ≤ 0xDF
  · exact .inr (.inl ⟨htwo, by rw [lead, if_neg hone, if_pos htwo]⟩)
  rw [lead, if_neg hone, if_neg htwo]
  clear hone htwo
  by_cases hlong : b = 0xE0
  · rw [if_pos hlong]
    exact .inr (.inr (.inl ⟨0xA0, 0xBF, by omega, by omega, by omega, by omega, rfl⟩))
  by_cases hsurrogate : b = 0xED
  · rw [if_neg hlong, if_pos hsurrogate]
    exact .inr (.inr (.inl ⟨0x80, 0x9F, by omega, by omega, by omega, by omega, rfl⟩))
  by_cases hthree : 0xE1 ≤ b ∧ b ≤ 0xEF
  · rw [if_neg hlong, if_neg hsurrogate, if_pos hthree]
    exact .inr (.inr (.inl ⟨0x80, 0xBF, by omega, by omega, by omega, by omega, rfl⟩))
  rw [if_neg hlong, if_neg hsurrogate, if_neg hthree]
  clear hlong hsurrogate hthree
  by_cases hlonger : b = 0xF0
  · rw [if_pos hlonger]
    exact .inr (.inr (.inr (.inl ⟨0x90, 0xBF, by omega, by omega, by omega, by omega, rfl⟩)))
  by_cases hlast : b = 0xF4
  · rw [if_neg hlonger, if_pos hlast]
    exact .inr (.inr (.inr (.inl ⟨0x80, 0x8F, by omega, by omega, by omega, by omega, rfl⟩)))
  by_cases hfour : 0xF1 ≤ b ∧ b ≤ 0xF3
  · rw [if_neg hlonger, if_neg hlast, if_pos hfour]
    exact .inr (.inr (.inr (.inl ⟨0x80, 0xBF, by omega, by omega, by omega, by omega, rfl⟩)))
  rw [if_neg hlonger, if_neg hlast, if_neg hfour]
  exact .inr (.inr (.inr (.inr rfl)))

section Inversion

variable {bits low high : Nat} {b : List UInt8} {s : List Char}

theorem of_decodeFrom_last (h : decodeFrom (some ⟨bits, 0, low, high⟩) b = some s) :
    ∃ x rest t, b = x :: rest ∧ (low ≤ x.toNat ∧ x.toNat ≤ high) ∧
      s = Char.ofNat (bits * 64 + (x.toNat - 0x80)) :: t ∧ decodeFrom none rest = some t := by
  cases b with
  | nil => cases h
  | cons x rest =>
    rw [decodeFrom, Pending.push] at h
    split at h
    · next haccepts =>
      obtain ⟨t, ht, rfl⟩ := Option.map_eq_some_iff.1 h
      simp only [Pending.accepts, Bool.and_eq_true, decide_eq_true_eq] at haccepts
      exact ⟨x, rest, t, rfl, haccepts, rfl, ht⟩
    · cases h

theorem of_decodeFrom_tail {owed : Nat}
    (h : decodeFrom (some ⟨bits, owed + 1, low, high⟩) b = some s) :
    ∃ x rest, b = x :: rest ∧ (low ≤ x.toNat ∧ x.toNat ≤ high) ∧
      decodeFrom (some ⟨bits * 64 + (x.toNat - 0x80), owed, 0x80, 0xBF⟩) rest = some s := by
  cases b with
  | nil => cases h
  | cons x rest =>
    rw [decodeFrom, Pending.push] at h
    split at h
    · next haccepts =>
      simp only [Pending.accepts, Bool.and_eq_true, decide_eq_true_eq] at haccepts
      exact ⟨x, rest, rfl, haccepts, h⟩
    · cases h

/-- The first character of a text, with the octets it was read from. -/
theorem of_decodeFrom_none {x : UInt8} (h : decodeFrom none (x :: rest) = some s) :
    ∃ c after t, x :: rest = String.utf8EncodeChar c ++ after ∧ s = c :: t ∧
      decodeFrom none after = some t := by
  rw [decodeFrom] at h
  rcases lead_cases x.toNat with ⟨hx, hlead⟩ | ⟨hx, hlead⟩ |
      ⟨low, high, hx, hbounds, hlong, hvalid, hlead⟩ |
      ⟨low, high, hx, hbounds, hlong, hvalid, hlead⟩ | hlead
  · rw [hlead] at h
    obtain ⟨t, ht, rfl⟩ := Option.map_eq_some_iff.1 h
    refine ⟨_, rest, t, ?_, rfl, ht⟩
    rw [utf8EncodeChar_one hx, UInt8.ofNat_toNat]
    rfl
  · rw [hlead] at h
    obtain ⟨y, after, t, rfl, hy, rfl, ht⟩ := of_decodeFrom_last h
    refine ⟨_, after, t, ?_, rfl, ht⟩
    rw [utf8EncodeChar_two hx hy rfl, UInt8.ofNat_toNat, UInt8.ofNat_toNat]
    rfl
  · rw [hlead] at h
    obtain ⟨y, _, rfl, hy, h⟩ := of_decodeFrom_tail h
    obtain ⟨z, after, t, rfl, hz, rfl, ht⟩ := of_decodeFrom_last h
    refine ⟨_, after, t, ?_, rfl, ht⟩
    rw [utf8EncodeChar_three hx (by omega) hz (by omega) (by omega) rfl]
    simp only [UInt8.ofNat_toNat]
    rfl
  · rw [hlead] at h
    obtain ⟨y, _, rfl, hy, h⟩ := of_decodeFrom_tail h
    obtain ⟨z, _, rfl, hz, h⟩ := of_decodeFrom_tail h
    obtain ⟨u, after, t, rfl, hu, rfl, ht⟩ := of_decodeFrom_last h
    refine ⟨_, after, t, ?_, rfl, ht⟩
    rw [utf8EncodeChar_four hx (by omega) hz hu (by omega) (by omega) rfl]
    simp only [UInt8.ofNat_toNat]
    rfl
  · rw [hlead] at h
    cases h

end Inversion

/-- Octets are read as a text exactly if they are its encoding. -/
theorem decode?_eq_some_iff {b : List UInt8} {s : List Char} :
    decode? b = some s ↔ encode s = b := by
  constructor
  · intro h
    rw [decode?] at h
    induction s generalizing b with
    | nil =>
      cases b with
      | nil => rfl
      | cons x rest =>
        obtain ⟨c, after, t, -, hs, -⟩ := of_decodeFrom_none h
        cases hs
    | cons c t ih =>
      cases b with
      | nil => cases h
      | cons x rest =>
        obtain ⟨_, after, _, hoctets, hs, hafter⟩ := of_decodeFrom_none h
        obtain ⟨rfl, rfl⟩ := List.cons.inj hs
        rw [encode_cons, ih hafter, hoctets]
  · rintro rfl
    exact decode?_encode s

end SlotRouter.Text.Utf8
