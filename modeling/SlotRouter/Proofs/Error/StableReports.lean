import SlotRouter.Error.Stable
import SlotRouter.Router.FanOut

/-!
# Reports that are the same in every run

* `replaceFrom_part`, `replaceFrom_kept` : a part that is recognised is replaced as a whole, and
  what no part begins with is kept;
* `stableText_task` : the number of a task that panicked does not show;
* `stableText_panicReport` : so the `N` of a report stands for every number;
* `stableText_refused` : nor does it show that a wait was refused at last.
-/

namespace SlotRouter

/-! ## Replaced and kept parts -/

section Replace

open Text

variable {find : List Char → Option (Nat × List Char)} {part new rest : List Char}

theorem replaceFrom_skip (find : List Char → Option (Nat × List Char)) (part rest : List Char) :
    replaceFrom find part.length (part ++ rest) = replaceFrom find 0 rest := by
  induction part with
  | nil => rfl
  | cons c others ih => exact ih

theorem replaceFrom_part (hne : part ≠ []) (h : find (part ++ rest) = some (part.length, new)) :
    replaceFrom find 0 (part ++ rest) = new ++ replaceFrom find 0 rest := by
  obtain ⟨c, others, rfl⟩ := List.exists_cons_of_ne_nil hne
  rw [List.cons_append] at h ⊢
  rw [replaceFrom, h]
  exact congrArg _ (replaceFrom_skip find others rest)

theorem replaceFrom_cons {c : Char} {s : List Char} (h : find (c :: s) = none) :
    replaceFrom find 0 (c :: s) = c :: replaceFrom find 0 s := by rw [replaceFrom, h]

theorem replaceFrom_kept (h : ∀ c ∈ part, ∀ s, find (c :: s) = none) :
    replaceFrom find 0 (part ++ rest) = part ++ replaceFrom find 0 rest := by
  induction part with
  | nil => rfl
  | cons c others ih =>
    obtain ⟨hc, hothers⟩ := List.forall_mem_cons.1 h
    exact (replaceFrom_cons (hc _)).trans (congrArg _ (ih hothers))

end Replace

/-! ## The parts of a report -/

/-- The parts that differ from run to run. -/
def unstable? (s : List Char) : Option (Nat × List Char) := (taskNumber? s).or (refusedWait? s)

theorem toList_stableText (s : String) :
    (stableText s).toList = Text.replaceFrom unstable? 0 s.toList := String.toList_ofList

section AfterStart

variable {c d : Char}

theorem afterStart?_cons (c : Char) (start s : List Char) :
    Text.afterStart? (c :: start) (c :: s) = Text.afterStart? start s := if_pos rfl

theorem afterStart?_of_ne (h : d ≠ c) (start s : List Char) :
    Text.afterStart? (c :: start) (d :: s) = none := if_neg (Ne.symm h)

theorem task_toList : "task ".toList = 't' :: 'a' :: "sk ".toList := rfl

theorem wait_toList : "timed out waiting for connection".toList =
    't' :: 'i' :: "med out waiting for connection".toList := rfl

/-- The parts begin with a `t`. -/
theorem unstable?_of_ne (h : c ≠ 't') (s : List Char) : unstable? (c :: s) = none := by
  rw [unstable?, taskNumber?, task_toList, afterStart?_of_ne h, refusedWait?, wait_toList,
    List.cons_append, afterStart?_of_ne h]
  rfl

/-- The second letter tells one from the other. -/
theorem taskNumber?_of_ne (h : c ≠ 'a') (s : List Char) : taskNumber? ('t' :: c :: s) = none := by
  rw [taskNumber?, task_toList, afterStart?_cons, afterStart?_of_ne h]
  rfl

theorem refusedWait?_of_ne (h : c ≠ 'i') (s : List Char) :
    refusedWait? ('t' :: c :: s) = none := by
  rw [refusedWait?, wait_toList, List.cons_append, List.cons_append, afterStart?_cons,
    afterStart?_of_ne h]
  rfl

end AfterStart

theorem taskNumber?_digits (n : Nat) (rest : List Char) :
    taskNumber? ("task ".toList ++ (Nat.toDigits 10 n ++ (" panicked".toList ++ rest))) =
      some ("task  panicked".length + (Nat.toDigits 10 n).length, "task N panicked".toList) := by
  have hdigits : ∀ c ∈ Nat.toDigits 10 n, c.isDigit := fun c hc =>
    Nat.isDigit_of_mem_toDigits (by decide) (by decide) hc
  have htake : (Nat.toDigits 10 n ++ (" panicked".toList ++ rest)).takeWhile Char.isDigit =
      Nat.toDigits 10 n := by
    rw [List.takeWhile_append_of_pos hdigits]
    exact List.append_nil _
  have hdrop : (Nat.toDigits 10 n ++ (" panicked".toList ++ rest)).dropWhile Char.isDigit =
      " panicked".toList ++ rest := by
    rw [List.dropWhile_append_of_pos hdigits]
    rfl
  rw [taskNumber?, Text.afterStart?_eq_some_iff.2 rfl, Option.bind_eq_bind, Option.bind_some]
  dsimp only
  rw [htake, hdrop, Text.afterStart?_eq_some_iff.2 rfl, Option.bind_some]
  exact if_neg (by simp [Nat.toDigits_ne_nil])

theorem taskNumber?_standIn (s : List Char) : taskNumber? ("task N".toList ++ s) = none := by
  rw [taskNumber?, show "task N".toList ++ s = "task ".toList ++ 'N' :: s from rfl,
    Text.afterStart?_eq_some_iff.2 rfl, Option.bind_eq_bind, Option.bind_some]
  show (Text.afterStart? (' ' :: "panicked".toList) ('N' :: s)).bind _ = none
  rw [afterStart?_of_ne (by decide)]
  rfl

/-! ## Reports -/

/-- The number of a task does not show. -/
theorem stableText_task (n : Nat) (rest : String) :
    stableText ("task " ++ toString n ++ " panicked" ++ rest) =
      "task N panicked" ++ stableText rest := by
  have hreport : ("task " ++ toString n ++ " panicked" ++ rest).toList =
      ("task ".toList ++ (Nat.toDigits 10 n ++ " panicked".toList)) ++ rest.toList := by
    simp [String.toList_append, Nat.toList_repr]
  have hfind : unstable? (("task ".toList ++ (Nat.toDigits 10 n ++ " panicked".toList)) ++
      rest.toList) = some (("task ".toList ++ (Nat.toDigits 10 n ++ " panicked".toList)).length,
        "task N panicked".toList) := by
    rw [unstable?, List.append_assoc, List.append_assoc, taskNumber?_digits, List.length_append,
      List.length_append, show "task  panicked".length = 14 from rfl]
    refine congrArg some (Prod.ext ?_ rfl)
    show 14 + _ = 5 + (_ + 9)
    omega
  apply String.toList_injective
  rw [toList_stableText, hreport, String.toList_append, toList_stableText]
  exact replaceFrom_part (by simp) hfind

/-- What stands for the number is kept. -/
theorem stableText_standIn (rest : String) :
    stableText ("task N panicked" ++ rest) = "task N panicked" ++ stableText rest := by
  have hreport : "task N panicked".toList = 't' :: "ask N panicked".toList := rfl
  have hstart : "task N".toList = 't' :: 'a' :: "sk N".toList := rfl
  have hfirst : unstable? ("task N".toList ++ (" panicked".toList ++ rest.toList)) = none := by
    rw [unstable?, taskNumber?_standIn, hstart, List.cons_append, List.cons_append,
      refusedWait?_of_ne (by decide)]
    rfl
  have hkept : ∀ c ∈ "ask N panicked".toList, c ≠ 't' := by simp
  apply String.toList_injective
  rw [toList_stableText, String.toList_append, String.toList_append, toList_stableText, hreport]
  rw [List.cons_append, replaceFrom_cons, replaceFrom_kept]
  · rfl
  · exact fun c hc => unstable?_of_ne (hkept c hc)
  · exact hfirst

/-- The `N` of a report stands for the number of any task. -/
theorem stableText_panicReport (n : Nat) (text : String) :
    stableText ("task " ++ toString n ++ " panicked with message " ++ Text.quote text) =
      stableText (panicReport text) := by
  have hnumbered : "task " ++ toString n ++ " panicked with message " ++ Text.quote text =
      "task " ++ toString n ++ " panicked" ++ (" with message " ++ Text.quote text) := by
    have hmessage : " panicked with message " = " panicked" ++ " with message " := by
      apply String.toList_injective
      rw [String.toList_append]
      rfl
    rw [hmessage, ← String.append_assoc, ← String.append_assoc]
  have hreport : panicReport text =
      "task N panicked" ++ (" with message " ++ Text.quote text) := by
    have hmessage : "task N panicked with message " = "task N panicked" ++ " with message " := by
      apply String.toList_injective
      rw [String.toList_append]
      rfl
    unfold panicReport
    rw [hmessage]
    exact String.append_assoc
  rw [hnumbered, hreport]
  exact (stableText_task n _).trans (stableText_standIn _).symm

/-- That nobody accepted a connection does not show when the wait for one ends. -/
theorem stableText_refused (rest : String) :
    stableText ("timed out waiting for connection: Connection refused (os error 111)" ++ rest) =
      "timed out waiting for connection" ++ stableText rest := by
  have hreport : "timed out waiting for connection: Connection refused (os error 111)" =
      "timed out waiting for connection" ++ ": Connection refused (os error 111)" := by
    apply String.toList_injective
    rw [String.toList_append]
    rfl
  have htask : ∀ s, taskNumber? ("timed out waiting for connection".toList ++ s) = none := by
    intro s
    rw [wait_toList, List.cons_append, List.cons_append, taskNumber?_of_ne (by decide)]
  apply String.toList_injective
  rw [toList_stableText, String.toList_append, String.toList_append, toList_stableText, hreport,
    String.toList_append]
  refine replaceFrom_part (by simp) ?_
  rw [unstable?, List.append_assoc, htask, Option.none_or, ← List.append_assoc, refusedWait?,
    Text.afterStart?_eq_some_iff.2 rfl, List.length_append]
  rfl

end SlotRouter
