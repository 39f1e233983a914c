import SlotRouter.Command
import SlotRouter.Proofs.Text.Utf8

/-!
# Reading commands off the wire

The length before an argument says where it ends, so nothing is searched in the argument itself,
only in the line with the length.

* `mem_number`, `length?_number` : lengths are written in digits, and read back if they are words;
* `cutLine?_append` : a line ends at its first CR LF;
* `unpackArgs?_packArg` : what becomes of one argument; `unpackArgs?_flatMap` : of all of them, by
  induction;
* `Command.Sized` : the length of every argument is a word (`unpack?_pack`);
* `texts_ofWords`, `ofWords_texts` : words are the texts of their command, and the texts of UTF-8
  arguments are the words of theirs;
* `packed_command` : exactly the texts of the arguments are read off the wire form of a command,
  and if these are UTF-8 they tell the command.
-/

namespace SlotRouter.Command

/-! ## Lengths -/

theorem toNat_digit {n : Nat} {c : Char} (h : c ∈ Nat.toDigits 10 n) :
    0x30 ≤ c.toNat ∧ c.toNat ≤ 0x39 :=
  Char.isDigit_iff_toNat.1 (Nat.isDigit_of_mem_toDigits (by decide) (by decide) h)

theorem mem_number {n : Nat} {b : UInt8} (h : b ∈ number n) : 0x30 ≤ b.toNat ∧ b.toNat ≤ 0x39 := by
  obtain ⟨c, hc, rfl⟩ := List.mem_map.1 h
  have hdigit := toNat_digit hc
  rw [Text.Utf8.toNat_octet (by omega)]
  exact hdigit

/-- The digits of a number are read as they were written. -/
theorem map_number (n : Nat) :
    (number n).map (fun b => Char.ofNat b.toNat) = Nat.toDigits 10 n := by
  rw [number, List.map_map]
  refine (List.map_congr_left fun c hc => ?_).trans (List.map_id _)
  have hdigit := toNat_digit hc
  show Char.ofNat (UInt8.ofNat c.toNat).toNat = c
  rw [Text.Utf8.toNat_octet (by omega), Char.ofNat_toNat]

theorem length?_number (n : Nat) : length? (number n) = if n < wordCount then some n else none := by
  rw [length?, map_number, Text.unsigned?, Text.dropPlus_toDigits, Text.digits?_toDigits,
    Option.filter_some]
  simp only [decide_eq_true_eq]

/-! ## Lines -/

theorem cutLine?_append {line : Bytes} (h : 0x0d ∉ line) (rest : Bytes) :
    cutLine? (line ++ lineEnd ++ rest) = some (line, rest) := by
  induction line with
  | nil => rfl
  | cons b line ih =>
    obtain ⟨hb, hline⟩ := List.ne_and_not_mem_of_not_mem_cons h
    rw [List.cons_append, List.cons_append, cutLine?, ih hline]
    · rfl
    · rintro _ rfl
      exact absurd rfl hb

/-- The line before an argument, or before all of them: a mark and a number. -/
theorem cutLine?_header {mark : UInt8} (hmark : mark ≠ 0x0d) (n : Nat) (rest : Bytes) :
    cutLine? (mark :: number n ++ lineEnd ++ rest) = some (mark :: number n, rest) := by
  refine cutLine?_append ?_ rest
  intro hmem
  rcases List.mem_cons.1 hmem with heq | hmem
  · exact hmark heq.symm
  · have hdigit := mem_number hmem
    exact absurd hdigit.1 (by decide)

/-! ## Arguments -/

/-- An argument is read whole, whatever is in it, and the others begin after it. -/
theorem unpackArgs?_packArg (fuel : Nat) (arg rest : Bytes) :
    unpackArgs? (fuel + 1) (packArg arg ++ rest) =
      if arg.length < wordCount then (unpackArgs? fuel rest).map (arg :: ·) else none := by
  have hwire : packArg arg ++ rest =
      0x24 :: number arg.length ++ lineEnd ++ (arg ++ (lineEnd ++ rest)) := by
    simp [packArg]
  have hmark : (0x24 : UInt8) ≠ 0x0d := by decide
  have hcut := cutLine?_header hmark arg.length (arg ++ (lineEnd ++ rest))
  rw [hwire]
  rw [List.cons_append, List.cons_append] at hcut ⊢
  rw [unpackArgs?, hcut, Option.bind_eq_bind, Option.bind_some]
  dsimp only
  rw [List.drop_one, List.tail_cons, length?_number]
  by_cases hsize : arg.length < wordCount
  · have hlong : ¬ (arg ++ (lineEnd ++ rest)).length < arg.length + 2 := by
      simp [lineEnd]
    have hpayload : (arg ++ (lineEnd ++ rest)).take arg.length = arg := List.take_left
    have hrest : (arg ++ (lineEnd ++ rest)).drop (arg.length + 2) = rest := by
      rw [← List.append_assoc]
      exact List.drop_left' (by simp [lineEnd])
    rw [if_pos hsize, if_pos hsize, Option.bind_eq_bind, Option.bind_some, if_neg hlong, hpayload,
      hrest]
  · rw [if_neg hsize, if_neg hsize]
    rfl

theorem unpackArgs?_flatMap {args : List Bytes} {fuel : Nat} (h : args.length ≤ fuel) :
    unpackArgs? fuel (args.flatMap packArg) =
      if ∀ arg ∈ args, arg.length < wordCount then some args else none := by
  induction args generalizing fuel with
  | nil =>
    rw [if_pos (List.forall_mem_nil _)]
    cases fuel <;> rfl
  | cons arg rest ih =>
    obtain ⟨fuel, rfl⟩ := Nat.exists_eq_add_one_of_ne_zero (Nat.ne_zero_of_lt h)
    rw [List.flatMap_cons, unpackArgs?_packArg, ih (Nat.le_of_succ_le_succ h)]
    simp only [List.forall_mem_cons]
    by_cases harg : arg.length < wordCount
    · rw [if_pos harg]
      by_cases hrest : ∀ other ∈ rest, other.length < wordCount
      · rw [if_pos hrest, if_pos ⟨harg, hrest⟩]
        rfl
      · rw [if_neg hrest, if_neg fun hall => hrest hall.2]
        rfl
    · rw [if_neg harg, if_neg fun hall => harg hall.1]

/-! ## Commands -/

/-- The length of every argument is a word. -/
def Sized (c : Command) : Prop := ∀ arg ∈ c.args, arg.length < wordCount

instance (c : Command) : Decidable c.Sized := inferInstanceAs (Decidable (∀ _ ∈ _, _))

theorem length_le_pack (c : Command) : c.args.length ≤ c.pack.length := by
  have harg : ∀ arg, 1 ≤ (packArg arg).length := by
    intro arg
    simp [packArg]
  have hargs : ∀ args : List Bytes, args.length ≤ (args.flatMap packArg).length := by
    intro args
    induction args with
    | nil => exact Nat.le_refl 0
    | cons arg rest ih =>
      have hfirst := harg arg
      rw [List.flatMap_cons, List.length_append, List.length_cons]
      omega
  have hc := hargs c.args
  simp only [pack, List.cons_append, List.length_cons, List.length_append]
  omega

theorem unpack?_pack (c : Command) : unpack? c.pack = if c.Sized then some c else none := by
  have hmark : (0x2a : UInt8) ≠ 0x0d := by decide
  have hcut := cutLine?_header hmark c.args.length (c.args.flatMap packArg)
  rw [unpack?, pack, hcut, Option.bind_eq_bind, Option.bind_some]
  dsimp only
  rw [← pack, unpackArgs?_flatMap c.length_le_pack]
  exact apply_ite (Option.map mk) _ _ _

/-! ## Texts -/

/-- The texts of the arguments that are read off a wire form. -/
def texts? (wire : Bytes) : Option (List String) := (unpack? wire).map texts

theorem texts?_pack {c : Command} (h : c.Sized) : texts? c.pack = some c.texts := by
  rw [texts?, unpack?_pack, if_pos h]
  rfl

theorem lossyText_bytesOf (s : String) : lossyText (bytesOf s) = s := by
  rw [lossyText, bytesOf, Text.Utf8.decodeLossy_of_decode? (Text.Utf8.decode?_encode _),
    String.ofList_toList]

theorem bytesOf_lossyText {arg : Bytes} (h : (Text.Utf8.decode? arg).isSome) :
    bytesOf (lossyText arg) = arg := by
  obtain ⟨s, hs⟩ := Option.isSome_iff_exists.1 h
  rw [lossyText, Text.Utf8.decodeLossy_of_decode? hs, bytesOf, String.toList_ofList]
  exact Text.Utf8.decode?_eq_some_iff.1 hs

theorem texts_ofWords (words : List String) : (ofWords words).texts = words := by
  rw [texts, ofWords, List.map_map]
  exact (List.map_congr_left fun word _ => lossyText_bytesOf word).trans (List.map_id _)

theorem ofWords_texts {c : Command} (h : ∀ arg ∈ c.args, (Text.Utf8.decode? arg).isSome) :
    ofWords c.texts = c := by
  have hargs : c.texts.map bytesOf = c.args := by
    rw [texts, List.map_map]
    exact (List.map_congr_left fun arg harg => bytesOf_lossyText (h arg harg)).trans
      (List.map_id _)
  rw [ofWords, hargs]

/-- A command is read off its wire form with all its bytes, and one text for each argument. If all
arguments are UTF-8, then no other words give the wire form. Only an argument whose length is not
a word cannot be read. -/
theorem packed_command (c : Command) :
    (unpack? c.pack = if c.Sized then some c else none) ∧
    (texts? c.pack = if c.Sized then some (c.args.map lossyText) else none) ∧
    (c.Sized → (∀ arg ∈ c.args, (Text.Utf8.decode? arg).isSome) →
      ∀ words, texts? c.pack = some words ↔ ofWords words = c) := by
  refine ⟨unpack?_pack c, ?_, fun hsized hutf8 words => ⟨fun hwords => ?_, ?_⟩⟩
  · rw [texts?, unpack?_pack, apply_ite (Option.map texts)]
    rfl
  · rw [texts?_pack hsized] at hwords
    rw [← Option.some.inj hwords, ofWords_texts hutf8]
  · rintro rfl
    rw [texts?_pack hsized, texts_ofWords]

/-- Arguments that are empty, that look like the arguments of a command, and that are not UTF-8. -/
theorem packed_command_headers :
    (let c : Command := ⟨[[], bytesOf "*1\r\n$2\r\nab\r\n", [0xff, 0x24]]⟩
     c.Sized ∧ texts? c.pack = some ["", "*1\r\n$2\r\nab\r\n", "\uFFFD$"]) ∧
    (let c : Command := ⟨[[], [0x24, 0x31, 0x0d, 0x0a], [0xc3, 0xa9]]⟩
     (c.Sized ∧ ∀ arg ∈ c.args, (Text.Utf8.decode? arg).isSome) ∧
       texts? c.pack = some ["", "$1\r\n", "é"]) := by
  constructor
  · have hsized : Sized ⟨[[], bytesOf "*1\r\n$2\r\nab\r\n", [0xff, 0x24]]⟩ := by decide
    refine ⟨hsized, ?_⟩
    rw [(packed_command _).2.1, if_pos hsized]
    decide
  · have hsized : Sized ⟨[[], [0x24, 0x31, 0x0d, 0x0a], [0xc3, 0xa9]]⟩ := by decide
    have hutf8 : ∀ arg ∈ [[], [0x24, 0x31, 0x0d, 0x0a], [0xc3, 0xa9]],
        (Text.Utf8.decode? arg).isSome := by
      decide
    exact ⟨⟨hsized, hutf8⟩, ((packed_command _).2.2 hsized hutf8 _).2 (by decide)⟩

end SlotRouter.Command
