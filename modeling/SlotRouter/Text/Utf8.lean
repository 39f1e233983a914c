/-!
# UTF-8

* `encode s`: the octets of a text;
* `decode? b`: the text of an octet sequence, if it is well formed;
* `decodeLossy b`: the text of any octet sequence, each maximal ill-formed part read as U+FFFD.

Both readers run the same machine. Between characters it stands at `none`; inside one, `Pending`
holds the bits read so far, how many continuation octets follow the next one, and the bounds of
the next octet. A refused octet ends the ill-formed part before it and is read again from between
characters, so the machine needs no look-ahead and recurses on the octets alone.
-/

namespace SlotRouter.Text.Utf8

def encode (s : List Char) : List UInt8 := s.flatMap String.utf8EncodeChar

theorem encode_cons (c : Char) (s : List Char) :
    encode (c :: s) = String.utf8EncodeChar c ++ encode s := rfl

structure Pending where
  /-- The bits of the octets read so far. -/
  bits : Nat
  /-- The continuation octets that follow the next one. -/
  owed : Nat
  /-- The least value of the next octet. -/
  low : Nat
  /-- The greatest value of the next octet. -/
  high : Nat
  deriving DecidableEq, Repr

/-- What an octet means between characters. -/
inductive Lead
  /-- A character of one octet. -/
  | char (c : Char)
  /-- The first octet of a longer character. -/
  | pending (p : Pending)
  /-- No character starts with it. -/
  | refused
  deriving DecidableEq, Repr

/-- Reads an octet between characters. The bounds of the second octet keep out overlong forms,
surrogates and values above U+10FFFF. -/
def lead (b : Nat) : Lead :=
  if b ≤ 0x7F then .char (Char.ofNat b)
  else if 0xC2 ≤ b ∧ b ≤ 0xDF then .pending ⟨b - 0xC0, 0, 0x80, 0xBF⟩
  else if b = 0xE0 then .pending ⟨b - 0xE0, 1, 0xA0, 0xBF⟩
  else if b = 0xED then .pending ⟨b - 0xE0, 1, 0x80, 0x9F⟩
  else if 0xE1 ≤ b ∧ b ≤ 0xEF then .pending ⟨b - 0xE0, 1, 0x80, 0xBF⟩
  else if b = 0xF0 then .pending ⟨b - 0xF0, 2, 0x90, 0xBF⟩
  else if b = 0xF4 then .pending ⟨b - 0xF0, 2, 0x80, 0x8F⟩
  else if 0xF1 ≤ b ∧ b ≤ 0xF3 then .pending ⟨b - 0xF0, 2, 0x80, 0xBF⟩
  else .refused

/-- The next octet is one that the pending character can have. -/
def Pending.accepts (p : Pending) (b : Nat) : Bool := p.low ≤ b && b ≤ p.high

/-- Adds an accepted octet: the character if that was its last one. -/
def Pending.push (p : Pending) (b : Nat) : Lead :=
  let bits := p.bits * 64 + (b - 0x80)
  match p.owed with
  | 0 => .char (Char.ofNat bits)
  | owed + 1 => .pending ⟨bits, owed, 0x80, 0xBF⟩

/-- Decodes well-formed octets from a state of the machine. -/
def decodeFrom : Option Pending → List UInt8 → Option (List Char)
  | none, [] => some []
  | some _, [] => none
  | none, b :: rest =>
    match lead b.toNat with
    | .char c => (decodeFrom none rest).map (c :: ·)
    | .pending p => decodeFrom (some p) rest
    | .refused => none
  | some p, b :: rest =>
    if p.accepts b.toNat then
      match p.push b.toNat with
      | .char c => (decodeFrom none rest).map (c :: ·)
      | .pending q => decodeFrom (some q) rest
      | .refused => none
    else none

def decode? (b : List UInt8) : Option (List Char) := decodeFrom none b

/-- The character that stands for an ill-formed part. -/
def replacement : Char := '\uFFFD'

/-- Decodes any octets from a state of the machine. -/
def decodeLossyFrom : Option Pending → List UInt8 → List Char
  | none, [] => []
  | some _, [] => [replacement]
  | state, b :: rest =>
    let again : Unit → List Char := fun _ =>
      match lead b.toNat with
      | .char c => c :: decodeLossyFrom none rest
      | .pending p => decodeLossyFrom (some p) rest
      | .refused => replacement :: decodeLossyFrom none rest
    match state with
    | none => again ()
    | some p =>
      if p.accepts b.toNat then
        match p.push b.toNat with
        | .char c => c :: decodeLossyFrom none rest
        | .pending q => decodeLossyFrom (some q) rest
        | .refused => replacement :: decodeLossyFrom none rest
      else replacement :: again ()

def decodeLossy (b : List UInt8) : List Char := decodeLossyFrom none b

/-- Well-formed octets lose nothing when they are read leniently. -/
theorem decodeLossyFrom_of_decodeFrom {state : Option Pending} {b : List UInt8} {s : List Char}
    (h : decodeFrom state b = some s) : decodeLossyFrom state b = s := by
  induction b generalizing state s with
  | nil => cases state <;> simp_all [decodeFrom, decodeLossyFrom]
  | cons x rest ih =>
    cases state with
    | none =>
      rw [decodeFrom] at h
      rw [decodeLossyFrom]
      split at h
      · next c hc =>
        obtain ⟨t, ht, rfl⟩ := Option.map_eq_some_iff.1 h
        simp [ih ht]
      · next p hp => simp [ih h]
      · simp at h
    | some p =>
      rw [decodeFrom] at h
      rw [decodeLossyFrom]
      split at h
      · next hacc =>
        split at h
        · next c hc =>
          obtain ⟨t, ht, rfl⟩ := Option.map_eq_some_iff.1 h
          simp [hacc, ih ht]
        · next q hq => simp [hacc, ih h]
        · simp at h
      · simp at h

theorem decodeLossy_of_decode? {b : List UInt8} {s : List Char} (h : decode? b = some s) :
    decodeLossy b = s :=
  decodeLossyFrom_of_decodeFrom h

end SlotRouter.Text.Utf8
