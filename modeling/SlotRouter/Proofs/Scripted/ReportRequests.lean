import SlotRouter.Proofs.Command.WireForm
import SlotRouter.Scripted.Rules

/-!
# Which commands are answered with the report

The words that ask for the report are searched in the wire form of the command, not compared with
its arguments.

* `occursIn_iff` : what is searched is found;
* `Lettered` : every byte is above the digits, so what is written around arguments is no part of it
  (`infix_packArg`);
* `Command.Mentions` : the word stands in an argument, at any place in it (`occursIn_pack`);
* `RequestsReport` : the command that asks for the report;
* `report_answered` : every command is answered that mentions both words.
-/

namespace SlotRouter

/-! ## Bytes within bytes -/

theorem occursIn_iff {needle : Bytes} (h : needle ≠ []) (hay : Bytes) :
    occursIn needle hay = true ↔ needle <:+: hay := by
  induction hay with
  | nil =>
    rw [occursIn, List.infix_nil]
    exact iff_of_false Bool.false_ne_true h
  | cons b rest ih =>
    rw [occursIn, Bool.or_eq_true, List.isPrefixOf_iff_prefix, ih, List.infix_cons_iff]

/-- Every byte is above the digits, and there is one. -/
structure Lettered (word : Bytes) : Prop where
  ne_nil : word ≠ []
  above : ∀ b ∈ word, 0x41 ≤ b.toNat

theorem Lettered.of_all {word : Bytes} (hne : word ≠ [])
    (h : word.all (fun b => 0x41 ≤ b.toNat) = true) : Lettered word :=
  ⟨hne, fun b hb => of_decide_eq_true (List.all_eq_true.1 h b hb)⟩

section Lettered

variable {word : Bytes} (h : Lettered word)

include h

/-- No letter follows the place where a byte below the letters stands. -/
theorem Lettered.prefix_append {b : UInt8} (hb : b.toNat < 0x41) (xs ys : Bytes) :
    word <+: xs ++ b :: ys ↔ word <+: xs := by
  refine ⟨fun hprefix => ?_, fun hprefix => hprefix.trans (List.prefix_append _ _)⟩
  rcases List.prefix_or_prefix_of_prefix hprefix (List.prefix_append xs (b :: ys)) with hword | hxs
  · exact hword
  · obtain ⟨rest, rfl⟩ := hxs
    rw [List.prefix_append_right_inj] at hprefix
    cases rest with
    | nil => exact (List.append_nil xs).symm ▸ List.prefix_rfl
    | cons c rest =>
      obtain ⟨rfl, -⟩ := List.cons_prefix_cons.1 hprefix
      have hc := h.above c (List.mem_append_right _ (List.mem_cons_self ..))
      omega

theorem Lettered.infix_append {b : UInt8} (hb : b.toNat < 0x41) (xs ys : Bytes) :
    word <:+: xs ++ b :: ys ↔ word <:+: xs ∨ word <:+: ys := by
  induction xs with
  | nil =>
    rw [List.nil_append, List.infix_cons_iff, List.infix_nil]
    refine or_congr_left ?_
    rw [← List.nil_append (b :: ys), h.prefix_append hb, List.prefix_nil]
  | cons x xs ih =>
    rw [List.cons_append, List.infix_cons_iff, ih, List.infix_cons_iff, ← List.cons_append,
      h.prefix_append hb, or_assoc]

theorem Lettered.infix_after {sep : Bytes} (hsep : ∀ b ∈ sep, b.toNat < 0x41) (ys : Bytes) :
    word <:+: sep ++ ys ↔ word <:+: ys := by
  induction sep with
  | nil => rw [List.nil_append]
  | cons b sep ih =>
    obtain ⟨hb, hsep⟩ := List.forall_mem_cons.1 hsep
    rw [List.cons_append, ← List.nil_append (b :: _), h.infix_append hb, List.infix_nil,
      or_iff_right h.ne_nil, ih hsep]

end Lettered

/-! ## Words in commands -/

namespace Command

theorem lt_of_mem_header {mark b : UInt8} (hmark : mark.toNat < 0x41) {n : Nat}
    (hb : b ∈ mark :: number n ++ lineEnd) : b.toNat < 0x41 := by
  rcases List.mem_append.1 hb with hb | hb
  · rcases List.mem_cons.1 hb with rfl | hb
    · exact hmark
    · have hdigit := mem_number hb
      omega
  · rcases List.mem_cons.1 hb with rfl | hb
    · decide
    · rw [List.mem_singleton.1 hb]
      decide

section Words

variable {word : Bytes} (h : Lettered word)

include h

/-- Only the argument itself can contain the word, or what follows it. -/
theorem infix_packArg (arg rest : Bytes) :
    word <:+: packArg arg ++ rest ↔ word <:+: arg ∨ word <:+: rest := by
  have hwire : packArg arg ++ rest =
      (0x24 :: number arg.length ++ lineEnd) ++ (arg ++ 0x0d :: ([0x0a] ++ rest)) := by
    simp [packArg, lineEnd]
  have hend : ∀ b ∈ ([0x0a] : Bytes), b.toNat < 0x41 := List.forall_mem_singleton.2 (by decide)
  rw [hwire, h.infix_after fun b hb => lt_of_mem_header (by decide) hb, h.infix_append (by decide),
    h.infix_after hend]

theorem infix_flatMap (args : List Bytes) :
    word <:+: args.flatMap packArg ↔ ∃ arg ∈ args, word <:+: arg := by
  induction args with
  | nil => simp [h.ne_nil]
  | cons arg rest ih =>
    rw [List.flatMap_cons, infix_packArg h, ih]
    simp only [List.mem_cons, exists_eq_or_imp]

end Words

/-- The word stands in an argument, alone or with other bytes around it. -/
def Mentions (c : Command) (word : Bytes) : Prop := ∃ arg ∈ c.args, word <:+: arg

instance (c : Command) (word : Bytes) : Decidable (c.Mentions word) :=
  inferInstanceAs (Decidable (∃ arg ∈ c.args, word <:+: arg))

theorem occursIn_pack {word : Bytes} (h : Lettered word) (c : Command) :
    occursIn word c.pack = true ↔ c.Mentions word := by
  rw [occursIn_iff h.ne_nil, pack,
    h.infix_after fun b hb => lt_of_mem_header (by decide) hb, infix_flatMap h, Mentions]

end Command

/-! ## The report -/

namespace Scripted

theorem lettered_cluster : Lettered (bytesOf "CLUSTER") := .of_all (by decide) (by decide)

theorem lettered_nodes : Lettered (bytesOf "NODES") := .of_all (by decide) (by decide)

/-- The command asks for the report: its first two arguments are the words. -/
def RequestsReport (c : Command) : Prop :=
  c.args[0]? = some (bytesOf "CLUSTER") ∧ c.args[1]? = some (bytesOf "NODES")

/-- Both words stand in the command, at any place in it. -/
def MentionsReport (c : Command) : Prop :=
  c.Mentions (bytesOf "CLUSTER") ∧ c.Mentions (bytesOf "NODES")

instance (c : Command) : Decidable (MentionsReport c) := inferInstanceAs (Decidable (_ ∧ _))

theorem RequestsReport.mentions {c : Command} (h : RequestsReport c) : MentionsReport c :=
  ⟨⟨_, List.mem_of_getElem? h.1, List.infix_rfl⟩, ⟨_, List.mem_of_getElem? h.2, List.infix_rfl⟩⟩

theorem reportIfAsked_pack (layout : Layout) (c : Command) :
    reportIfAsked layout c.pack =
      if MentionsReport c then some (.bulk (bytesOf (nodesReport layout))) else none := by
  have hmentions : MentionsReport c ↔
      (occursIn (bytesOf "CLUSTER") c.pack && occursIn (bytesOf "NODES") c.pack) = true := by
    rw [Bool.and_eq_true, Command.occursIn_pack lettered_cluster,
      Command.occursIn_pack lettered_nodes, MentionsReport]
  rw [reportIfAsked]
  simp only [hmentions]

/-- A command is answered with the report of the layout exactly if both words stand in its
arguments, whichever they are and whatever else they contain. Every other command is left alone.
So the command that asks for the report is answered, and a command is answered without asking
for it exactly if it mentions both words otherwise. -/
theorem report_answered (layout : Layout) (c : Command) :
    reportIfAsked layout c.pack =
      (if MentionsReport c then some (.bulk (bytesOf (nodesReport layout))) else none) ∧
    (RequestsReport c → reportIfAsked layout c.pack =
      some (.bulk (bytesOf (nodesReport layout)))) ∧
    (((reportIfAsked layout c.pack).isSome ↔ RequestsReport c) ↔
      (MentionsReport c → RequestsReport c)) := by
  have hreport := reportIfAsked_pack layout c
  have hsome : (reportIfAsked layout c.pack).isSome ↔ MentionsReport c := by
    rw [hreport]
    by_cases h : MentionsReport c
    · rw [if_pos h]
      exact iff_of_true rfl h
    · rw [if_neg h]
      exact iff_of_false Bool.false_ne_true h
  refine ⟨hreport, fun h => ?_, ?_⟩
  · rw [hreport, if_pos h.mentions]
  · rw [hsome]
    exact ⟨Iff.mp, fun h => ⟨h, RequestsReport.mentions⟩⟩

/-- The key of a read is searched as well. -/
theorem report_answers_get :
    ¬ (reportIfAsked threeMasters (Command.ofWords ["GET", "CLUSTERNODES"]).pack =
        some (.bulk (bytesOf (nodesReport threeMasters))) ↔
      RequestsReport (Command.ofWords ["GET", "CLUSTERNODES"])) := by
  have hmentions : MentionsReport (Command.ofWords ["GET", "CLUSTERNODES"]) := by decide +kernel
  have hget : (Command.ofWords ["GET", "CLUSTERNODES"]).args[0]? ≠ some (bytesOf "CLUSTER") := by
    decide
  intro h
  refine hget (h.1 ?_).1
  rw [reportIfAsked_pack, if_pos hmentions]

end Scripted

end SlotRouter
