import Mathlib.Data.List.TakeWhile
import SlotRouter.Text.Decimal
import SlotRouter.Text.Split

/-!
# Texts in lines and columns

* `splitWhere_append`, `splitOn_append`, `words_append`, `cutLast_append` : how pieces are cut off a
  text that was put together;
* `Solid s` : a text for one column, neither empty nor with white space in it;
* `spaced columns` : a line of columns, which `words` takes apart again (`words_spaced`) and of
  which nothing is trimmed (`trim_spaced`);
* `firstLine_of_notMem` : a text that is one line;
* `Page lines text` : the text consists of these lines, however each ends, and of blank ones;
  `trimmedLines` gives what is left of each once it is trimmed (`trimmedLines_of_page`), and lines
  that nothing is trimmed of as they are (`trimmedLines_page`).
-/

namespace SlotRouter.Text

/-! ## Pieces -/

section Split

variable {p : Char → Bool} {s : List Char} {c : Char}

theorem splitWhere_append (hs : ∀ x ∈ s, p x = false) (hc : p c = true) (rest : List Char) :
    splitWhere p (s ++ c :: rest) = s :: splitWhere p rest := by
  induction s with
  | nil => rw [List.nil_append, splitWhere, if_pos hc]
  | cons x s ih =>
    obtain ⟨hx, hs⟩ := List.forall_mem_cons.1 hs
    rw [List.cons_append, splitWhere, hx, if_neg Bool.false_ne_true, ih hs]

theorem splitWhere_of_forall (hs : ∀ x ∈ s, p x = false) : splitWhere p s = [s] := by
  induction s with
  | nil => rfl
  | cons x s ih =>
    obtain ⟨hx, hs⟩ := List.forall_mem_cons.1 hs
    rw [splitWhere, hx, if_neg Bool.false_ne_true, ih hs]

theorem not_beq_of_notMem (h : c ∉ s) : ∀ x ∈ s, (x == c) = false := by
  intro x hx
  rw [beq_eq_false_iff_ne]
  rintro rfl
  exact h hx

theorem splitOn_append (h : c ∉ s) (rest : List Char) :
    splitOn c (s ++ c :: rest) = s :: splitOn c rest :=
  splitWhere_append (not_beq_of_notMem h) (beq_self_eq_true c) rest

theorem splitOn_of_notMem (h : c ∉ s) : splitOn c s = [s] :=
  splitWhere_of_forall (not_beq_of_notMem h)

theorem cutLast_append (before : List Char) {after : List Char} (h : c ∉ after) :
    cutLast c (before ++ c :: after) = some (before, after) := by
  induction before with
  | nil => rw [List.nil_append, cutLast, cutLast_eq_none_iff.2 h, if_pos rfl]
  | cons x before ih => rw [List.cons_append, cutLast, ih]

/-- A piece that is not empty is kept. -/
theorem filter_cons_of_ne_nil {piece : List Char} (h : piece ≠ []) (pieces : List (List Char)) :
    (piece :: pieces).filter (!·.isEmpty) = piece :: pieces.filter (!·.isEmpty) := by
  apply List.filter_cons_of_pos
  simp [h]

theorem words_append (hne : s ≠ []) (hs : ∀ x ∈ s, isAsciiBlank x = false) (rest : List Char) :
    words (s ++ ' ' :: rest) = s :: words rest := by
  have hblank : isAsciiBlank ' ' = true := rfl
  rw [words, splitWhere_append hs hblank, filter_cons_of_ne_nil hne]
  rfl

theorem words_of_forall (hne : s ≠ []) (hs : ∀ x ∈ s, isAsciiBlank x = false) : words s = [s] := by
  rw [words, splitWhere_of_forall hs, filter_cons_of_ne_nil hne, List.filter_nil]

end Split

/-! ## Trimming -/

section Trim

variable {s blank : List Char}

theorem isBlank_of_isAsciiBlank {c : Char} (h : isAsciiBlank c = true) : isBlank c = true := by
  have hcases : (((c = ' ' ∨ c = '\t') ∨ c = '\n') ∨ c = '\x0c') ∨ c = '\r' := by
    simpa only [isAsciiBlank, Bool.or_eq_true, beq_iff_eq] using h
  rcases hcases with (((rfl | rfl) | rfl) | rfl) | rfl <;> decide

theorem trim_eq_nil (h : ∀ c ∈ s, isBlank c = true) : trim s = [] := by
  rw [trim, List.dropWhile_eq_nil_iff.2 h]
  rfl

theorem trim_eq_self (hhead : ∀ c ∈ s.head?, isBlank c = false)
    (hlast : ∀ c ∈ s.getLast?, isBlank c = false) : trim s = s := by
  have hdrop : ∀ l : List Char, (∀ c ∈ l.head?, isBlank c = false) → l.dropWhile isBlank = l := by
    intro l hl
    cases l with
    | nil => rfl
    | cons c l => rw [List.dropWhile_cons_of_neg (by rw [hl c rfl]; exact Bool.false_ne_true)]
  have hreverse : s.reverse.dropWhile isBlank = s.reverse :=
    hdrop s.reverse (by rw [List.head?_reverse]; exact hlast)
  rw [trim, hdrop s hhead, hreverse, List.reverse_reverse]

/-- White space at the end is trimmed. -/
theorem trim_append (hblank : ∀ c ∈ blank, isBlank c = true) : trim (s ++ blank) = trim s := by
  have hreverse : ∀ c ∈ blank.reverse, isBlank c = true :=
    fun c hc => hblank c (List.mem_reverse.1 hc)
  unfold trim
  rw [List.dropWhile_append]
  split
  · next hempty => rw [List.dropWhile_eq_nil_iff.2 hblank, List.isEmpty_iff.1 hempty]
  · rw [List.reverse_append, List.dropWhile_append_of_pos hreverse]

/-- White space at the start is trimmed. -/
theorem trim_blank_append (hblank : ∀ c ∈ blank, isBlank c = true) (s : List Char) :
    trim (blank ++ s) = trim s := by
  rw [trim, List.dropWhile_append_of_pos hblank, trim]

theorem mem_of_mem_trim {c : Char} (h : c ∈ trim s) : c ∈ s := by
  have hdrop : c ∈ s.dropWhile isBlank :=
    List.mem_reverse.1 ((List.dropWhile_sublist isBlank).subset (List.mem_reverse.1 h))
  exact (List.dropWhile_sublist isBlank).subset hdrop

theorem head?_trim {c : Char} (hc : isBlank c = false) (s : List Char) :
    (trim (c :: s)).head? = some c := by
  have hdrop : ∀ l : List Char, ((l ++ [c]).dropWhile isBlank).getLast? = some c := by
    intro l
    rw [List.dropWhile_append]
    split
    · simp [hc]
    · exact List.getLast?_concat
  rw [trim, List.dropWhile_cons, hc, if_neg Bool.false_ne_true, List.head?_reverse,
    List.reverse_cons, hdrop]

end Trim

/-! ## Columns -/

/-- A text for one column. -/
structure Solid (s : List Char) : Prop where
  ne_nil : s ≠ []
  not_blank : ∀ c ∈ s, isBlank c = false

theorem solid_iff {s : List Char} : (!s.isEmpty && s.all fun c => !isBlank c) = true ↔ Solid s := by
  constructor
  · intro h
    obtain ⟨hne, hall⟩ := Bool.and_eq_true_iff.1 h
    refine ⟨by simpa using hne, fun c hc => ?_⟩
    simpa using List.all_eq_true.1 hall c hc
  · rintro ⟨hne, hall⟩
    refine Bool.and_eq_true_iff.2 ⟨by simpa using hne, List.all_eq_true.2 fun c hc => ?_⟩
    simp [hall c hc]

instance : DecidablePred Solid := fun _ => decidable_of_iff _ solid_iff

theorem Solid.not_asciiBlank {s : List Char} (h : Solid s) : ∀ c ∈ s, isAsciiBlank c = false := by
  intro c hc
  cases hascii : isAsciiBlank c with
  | false => rfl
  | true =>
    have hblank := isBlank_of_isAsciiBlank hascii
    rw [h.not_blank c hc] at hblank
    exact absurd hblank Bool.false_ne_true

theorem Solid.append {s t : List Char} (hs : Solid s) (ht : ∀ c ∈ t, isBlank c = false) :
    Solid (s ++ t) where
  ne_nil := List.append_ne_nil_of_left_ne_nil hs.ne_nil t
  not_blank := List.forall_mem_append.2 ⟨hs.not_blank, ht⟩

theorem isBlank_of_isDigit {c : Char} (h : c.isDigit = true) : isBlank c = false := by
  have hbounds : 48 ≤ c.toNat ∧ c.toNat ≤ 57 := Char.isDigit_iff_toNat.1 h
  simp only [isBlank, blankRanges, List.any_cons, List.any_nil, Bool.or_false, Bool.or_eq_false_iff,
    Bool.and_eq_false_iff, decide_eq_false_iff_not]
  omega

theorem solid_toDigits (n : Nat) : Solid (Nat.toDigits 10 n) where
  ne_nil := Nat.toDigits_ne_nil
  not_blank := fun _ hc =>
    isBlank_of_isDigit (Nat.isDigit_of_mem_toDigits (by decide) (by decide) hc)

/-- Columns with one space between them. -/
def spaced (columns : List (List Char)) : List Char := [' '].intercalate columns

section Columns

variable {columns : List (List Char)}

theorem spaced_cons (column : List Char) {columns : List (List Char)} (h : columns ≠ []) :
    spaced (column :: columns) = column ++ ' ' :: spaced columns := by
  cases columns with
  | nil => exact absurd rfl h
  | cons next rest => simp [spaced]

theorem spaced_singleton (column : List Char) : spaced [column] = column :=
  List.intercalate_singleton

theorem words_spaced (h : ∀ column ∈ columns, Solid column) : words (spaced columns) = columns := by
  induction columns with
  | nil => rfl
  | cons column rest ih =>
    obtain ⟨hcolumn, hrest⟩ := List.forall_mem_cons.1 h
    cases rest with
    | nil => rw [spaced_singleton, words_of_forall hcolumn.ne_nil hcolumn.not_asciiBlank]
    | cons next rest =>
      rw [spaced_cons column (List.cons_ne_nil next rest),
        words_append hcolumn.ne_nil hcolumn.not_asciiBlank, ih hrest]

/-- A line of columns begins and ends within a column. -/
theorem ends_of_spaced (hne : columns ≠ []) (h : ∀ column ∈ columns, Solid column) :
    ∃ first last, (spaced columns).head? = some first ∧ isBlank first = false ∧
      (spaced columns).getLast? = some last ∧ isBlank last = false := by
  induction columns with
  | nil => exact absurd rfl hne
  | cons column rest ih =>
    obtain ⟨hcolumn, hrest⟩ := List.forall_mem_cons.1 h
    have hhead : ∀ c ∈ column.head?, isBlank c = false :=
      fun c hc => hcolumn.not_blank c (List.mem_of_mem_head? hc)
    obtain ⟨first, hfirst⟩ := Option.isSome_iff_exists.1 (List.isSome_head?.2 hcolumn.ne_nil)
    cases rest with
    | nil =>
      rw [spaced_singleton]
      have hlast := List.getLast?_eq_some_getLast hcolumn.ne_nil
      exact ⟨first, _, hfirst, hhead first hfirst, hlast,
        hcolumn.not_blank _ (List.mem_of_getLast? hlast)⟩
    | cons next rest =>
      obtain ⟨-, last, -, -, hlast, hblank⟩ := ih (List.cons_ne_nil next rest) hrest
      rw [spaced_cons column (List.cons_ne_nil next rest)]
      refine ⟨first, last, ?_, hhead first hfirst, ?_, hblank⟩
      · rw [List.head?_append, hfirst]
        rfl
      · rw [List.getLast?_append, List.getLast?_cons, hlast]
        rfl

theorem trim_spaced (hne : columns ≠ []) (h : ∀ column ∈ columns, Solid column) :
    trim (spaced columns) = spaced columns := by
  obtain ⟨first, last, hfirst, hfirst', hlast, hlast'⟩ := ends_of_spaced hne h
  apply trim_eq_self
  · intro c hc
    rw [hfirst] at hc
    rwa [← Option.some.inj hc]
  · intro c hc
    rw [hlast] at hc
    rwa [← Option.some.inj hc]

theorem notMem_spaced {c : Char} (hc : isBlank c = true) (hspace : c ≠ ' ')
    (h : ∀ column ∈ columns, Solid column) : c ∉ spaced columns := by
  induction columns with
  | nil => exact List.not_mem_nil
  | cons column rest ih =>
    obtain ⟨hcolumn, hrest⟩ := List.forall_mem_cons.1 h
    have hout : c ∉ column := by
      intro hmem
      rw [hcolumn.not_blank c hmem] at hc
      exact Bool.false_ne_true hc
    cases rest with
    | nil => rwa [spaced_singleton]
    | cons next rest =>
      rw [spaced_cons column (List.cons_ne_nil next rest), List.mem_append, List.mem_cons]
      rintro (hmem | hmem | hmem)
      · exact hout hmem
      · exact hspace hmem
      · exact ih hrest hmem

end Columns

/-! ## Lines -/

/-- A text without carriage returns is one line. -/
theorem firstLine_of_notMem {s : List Char} (h : '\r' ∉ s) : firstLine s = s := by
  induction s with
  | nil => rfl
  | cons x rest ih =>
    obtain ⟨hx, hrest⟩ := List.ne_and_not_mem_of_not_mem_cons h
    rw [firstLine, if_neg (fun hline => hx hline.1.symm), ih hrest]

/-- The text consists of these lines, each ended by a line feed or by a carriage return and a line
feed, and of any number of blank lines. The last line need not be ended. -/
inductive Page : List (List Char) → List Char → Prop
  /-- No line is left. -/
  | rest {blank} : (∀ c ∈ blank, isBlank c = true) → '\n' ∉ blank → Page [] blank
  | last (line) : Page [line] line
  | blank {blank lines text} : (∀ c ∈ blank, isBlank c = true) → '\n' ∉ blank → Page lines text →
      Page lines (blank ++ '\n' :: text)
  | ended (line) {lines text} : Page lines text → Page (line :: lines) (line ++ '\n' :: text)
  | returned (line) {lines text} : Page lines text →
      Page (line :: lines) (line ++ '\r' :: '\n' :: text)

/-- Lines that are read as they are. -/
structure Clean (line : List Char) : Prop where
  ne_nil : line ≠ []
  trimmed : trim line = line
  one_line : '\n' ∉ line

theorem clean_spaced {columns : List (List Char)} (hne : columns ≠ [])
    (h : ∀ column ∈ columns, Solid column) : Clean (spaced columns) where
  ne_nil := by
    obtain ⟨first, -, hfirst, -⟩ := ends_of_spaced hne h
    intro hnil
    rw [hnil] at hfirst
    cases hfirst
  trimmed := trim_spaced hne h
  one_line := notMem_spaced (by decide) (by decide) h

/-- The lines that are kept of one line. -/
def keptLine (line : List Char) : List (List Char) := [trim line].filter (!·.isEmpty)

theorem trimmedLines_append {line : List Char} (h : '\n' ∉ line) (text : List Char) :
    trimmedLines (line ++ '\n' :: text) = keptLine line ++ trimmedLines text := by
  unfold trimmedLines keptLine
  rw [splitOn_append h, List.map_cons, ← List.filter_append]
  rfl

theorem trimmedLines_of_notMem {line : List Char} (h : '\n' ∉ line) :
    trimmedLines line = keptLine line := by
  unfold trimmedLines keptLine
  rw [splitOn_of_notMem h, List.map_singleton]

theorem keptLine_blank {blank : List Char} (h : ∀ c ∈ blank, isBlank c = true) :
    keptLine blank = [] := by
  rw [keptLine, trim_eq_nil h]
  rfl

theorem keptLine_of_trim {line s : List Char} (h : trim s = line) (hne : line ≠ []) :
    keptLine s = [line] := by
  rw [keptLine, h, filter_cons_of_ne_nil hne, List.filter_nil]

theorem trimmedLines_returned {line : List Char} (h : '\n' ∉ line) (text : List Char) :
    trimmedLines (line ++ '\r' :: '\n' :: text) = keptLine line ++ trimmedLines text := by
  -- the carriage return belongs to the piece before the line feed, and is trimmed off it
  have hcut : line ++ '\r' :: '\n' :: text = (line ++ ['\r']) ++ '\n' :: text := by simp
  have hnl : '\n' ∉ line ++ ['\r'] := by simp [h]
  have hkept : keptLine (line ++ ['\r']) = keptLine line := by
    rw [keptLine, trim_append (List.forall_mem_singleton.2 rfl), keptLine]
  rw [hcut, trimmedLines_append hnl, hkept]

/-- Of every line of a page it is kept what is left of it once it is trimmed. -/
theorem trimmedLines_of_page {lines : List (List Char)} {text : List Char} (h : Page lines text)
    (hlines : ∀ line ∈ lines, '\n' ∉ line) : trimmedLines text = lines.flatMap keptLine := by
  induction h with
  | rest hblank hnl => rw [trimmedLines_of_notMem hnl, keptLine_blank hblank, List.flatMap_nil]
  | last line =>
    have hnl := hlines line (List.mem_singleton_self line)
    rw [trimmedLines_of_notMem hnl, List.flatMap_singleton]
  | blank hblank hnl _ ih =>
    rw [trimmedLines_append hnl, keptLine_blank hblank, List.nil_append, ih hlines]
  | ended line _ ih =>
    obtain ⟨hnl, hrest⟩ := List.forall_mem_cons.1 hlines
    rw [trimmedLines_append hnl, ih hrest, List.flatMap_cons]
  | returned line _ ih =>
    obtain ⟨hnl, hrest⟩ := List.forall_mem_cons.1 hlines
    rw [trimmedLines_returned hnl, ih hrest, List.flatMap_cons]

theorem trimmedLines_page {lines : List (List Char)} {text : List Char} (h : Page lines text)
    (hlines : ∀ line ∈ lines, Clean line) : trimmedLines text = lines := by
  rw [trimmedLines_of_page h fun line hline => (hlines line hline).one_line]
  clear h
  induction lines with
  | nil => rfl
  | cons line rest ih =>
    obtain ⟨hline, hrest⟩ := List.forall_mem_cons.1 hlines
    rw [List.flatMap_cons, ih hrest, keptLine_of_trim hline.trimmed hline.ne_nil,
      List.singleton_append]

end SlotRouter.Text
