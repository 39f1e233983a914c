import SlotRouter.Text.Blank

/-!
# Cutting text into pieces

* `splitWhere p s`: the pieces of `s` between the characters for which `p` holds, at least one;
* `splitOn c s`: the same for the occurrences of `c`;
* `cutFirst c s`, `cutLast c s`: what stands before and after the first or last `c`;
* `stripStart c s`, `stripEnd c s`: `s` without its leading or trailing `c`s;
* `words s`: the non-empty pieces between ASCII white space;
* `trimmedLines s`: the lines of `s`, trimmed, without the blank ones;
* `firstLine s`: what stands before the first carriage return with a line feed;
* `join sep pieces`: the pieces with `sep` between them.
-/

namespace SlotRouter.Text

def splitWhere (p : Char → Bool) : List Char → List (List Char)
  | [] => [[]]
  | x :: rest =>
    if p x then [] :: splitWhere p rest
    else match splitWhere p rest with
      | [] => [[x]]
      | piece :: pieces => (x :: piece) :: pieces

def splitOn (c : Char) (s : List Char) : List (List Char) := splitWhere (· == c) s

def cutFirst {α : Type} [DecidableEq α] (c : α) : List α → Option (List α × List α)
  | [] => none
  | x :: rest =>
    if x = c then some ([], rest)
    else (cutFirst c rest).map fun (before, after) => (x :: before, after)

def cutLast (c : Char) : List Char → Option (List Char × List Char)
  | [] => none
  | x :: rest =>
    match cutLast c rest with
    | some (before, after) => some (x :: before, after)
    | none => if x = c then some ([], rest) else none

theorem eq_of_cutFirst {α : Type} [DecidableEq α] {c : α} {s before after : List α}
    (h : cutFirst c s = some (before, after)) : s = before ++ c :: after ∧ c ∉ before := by
  induction s generalizing before after with
  | nil => simp [cutFirst] at h
  | cons x rest ih =>
    rw [cutFirst] at h
    split at h
    · next hx => simp_all
    · next hx =>
      obtain ⟨⟨b, a⟩, hba, heq⟩ := Option.map_eq_some_iff.1 h
      obtain ⟨rfl, rfl⟩ := Prod.mk.inj heq
      obtain ⟨hs, hb⟩ := ih hba
      exact ⟨by rw [hs]; rfl, by simp [hb, Ne.symm hx]⟩

theorem cutFirst_append {α : Type} [DecidableEq α] {c : α} {before : List α} (after : List α)
    (h : c ∉ before) : cutFirst c (before ++ c :: after) = some (before, after) := by
  induction before with
  | nil => simp [cutFirst]
  | cons x rest ih =>
    obtain ⟨hx, hr⟩ := List.ne_and_not_mem_of_not_mem_cons h
    simp [cutFirst, Ne.symm hx, ih hr]

theorem cutFirst_eq_none_iff {α : Type} [DecidableEq α] {c : α} {s : List α} :
    cutFirst c s = none ↔ c ∉ s := by
  induction s with
  | nil => simp [cutFirst]
  | cons x rest ih =>
    by_cases hx : x = c
    · simp [cutFirst, hx]
    · simp [cutFirst, hx, Ne.symm hx, ih]

theorem cutLast_eq_none_iff {c : Char} {s : List Char} : cutLast c s = none ↔ c ∉ s := by
  induction s with
  | nil => simp [cutLast]
  | cons x rest ih =>
    rw [cutLast]
    cases h : cutLast c rest with
    | none =>
      have hr : c ∉ rest := ih.1 h
      by_cases hx : x = c
      · subst hx; simp
      · simp [hx, hr, Ne.symm hx]
    | some p =>
      have : c ∈ rest := by
        by_cases hm : c ∈ rest
        · exact hm
        · rw [ih.2 hm] at h; cases h
      simp [this]

theorem eq_of_cutLast {c : Char} {s before after : List Char}
    (h : cutLast c s = some (before, after)) : s = before ++ c :: after ∧ c ∉ after := by
  induction s generalizing before after with
  | nil => simp [cutLast] at h
  | cons x rest ih =>
    rw [cutLast] at h
    cases hr : cutLast c rest with
    | some p =>
      obtain ⟨b, a⟩ := p
      rw [hr] at h
      obtain ⟨rfl, rfl⟩ := Prod.mk.inj (Option.some.inj h)
      obtain ⟨hs, ha⟩ := ih hr
      exact ⟨by rw [hs]; rfl, ha⟩
    | none =>
      rw [hr] at h
      by_cases hx : x = c
      · simp only [hx, if_true, Option.some.injEq, Prod.mk.injEq] at h
        obtain ⟨rfl, rfl⟩ := h
        exact ⟨by simp [hx], cutLast_eq_none_iff.1 hr⟩
      · simp [hx] at h

def stripStart (c : Char) (s : List Char) : List Char := s.dropWhile (· == c)

def stripEnd (c : Char) (s : List Char) : List Char := (s.reverse.dropWhile (· == c)).reverse

def words (s : List Char) : List (List Char) := (splitWhere isAsciiBlank s).filter (!·.isEmpty)

def trimmedLines (s : List Char) : List (List Char) :=
  ((splitOn '\n' s).map trim).filter (!·.isEmpty)

def firstLine : List Char → List Char
  | [] => []
  | c :: rest => if c = '\r' ∧ rest.head? = some '\n' then [] else c :: firstLine rest

def join (sep : String) : List String → String
  | [] => ""
  | [piece] => piece
  | piece :: pieces => piece ++ sep ++ join sep pieces

end SlotRouter.Text
