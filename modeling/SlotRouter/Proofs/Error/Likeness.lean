import Mathlib.Tactic.ByContra
import SlotRouter.Error.Classify
import SlotRouter.Reply

/-!
# Errors that count as equal

* `ClientError.alike_trans` : equality of connection errors is transitive;
* `ClusterError.Form` : what is compared of an error; `ClusterError.Apart` : two errors of one kind
  that are told apart all the same (`sameAs_iff`);
* `ClusterError.Bridges` : an error of another form that is equal to both of them (`bridges_iff`,
  `exists_bridge`);
* `error_equality` : equality of errors is symmetric, and transitive except where there is such an
  error in the middle.
-/

namespace SlotRouter

/-! ## Errors of a connection -/

theorem ClientError.alike_trans {a b c : ClientError} (hab : a.alike b = true)
    (hbc : b.alike c = true) : a.alike c = true := by
  cases a with
  | io => cases hab
  | described =>
    cases b with
    | io => cases hab
    | extension => cases hab
    | described => cases c <;> simp_all [alike]
  | extension =>
    cases b with
    | io => cases hab
    | described => cases hab
    | extension => cases c <;> simp_all [alike]

namespace ClusterError

/-! ## What is compared -/

/-- What is compared of an error with another one of its form. -/
inductive Form
  /-- Where the redirect points. -/
  | redirect
  /-- The error of the connection. -/
  | connection
  /-- Nothing but the kind. -/
  | plain
  deriving DecidableEq

def form : ClusterError → Form
  | cause _ => .plain
  | client _ _ => .connection
  | redirected _ _ => .redirect
  | nodeFailures _ _ _ => .plain

/-- Two errors of one kind and form, of which more than the kind is compared and differs. -/
inductive Apart : ClusterError → ClusterError → Prop
  | redirects {a b e e'} : a ≠ b → Apart (.redirected a e) (.redirected b e')
  | connections {kind a b} : ClientError.alike a b = false → Apart (.client kind a) (.client kind b)

variable {a b c : ClusterError}

theorem Apart.kind (h : Apart a b) : a.kind = b.kind := by
  cases h <;> rfl

theorem Apart.form (h : Apart a b) : a.form = b.form := by
  cases h <;> rfl

theorem Apart.symm (h : Apart a b) : Apart b a := by
  cases h with
  | redirects hne => exact .redirects hne.symm
  | connections hunlike =>
    rw [ClientError.alike_comm] at hunlike
    exact .connections hunlike

theorem sameAs_of_form_ne (h : a.form ≠ b.form) : a.sameAs b = (a.kind == b.kind) := by
  unfold sameAs
  split
  · exact absurd rfl h
  · exact absurd rfl h
  · rfl

theorem sameAs_of_plain (h : a.form = .plain) : a.sameAs b = (a.kind == b.kind) := by
  unfold sameAs
  split
  · cases h
  · cases h
  · rfl

theorem apart_redirected_iff {r r' : Redirect} {e e' : ClientError} :
    Apart (.redirected r e) (.redirected r' e') ↔ r ≠ r' := by
  constructor
  · rintro ⟨hne⟩
    exact hne
  · exact .redirects

theorem apart_client_iff {kind kind' : ErrorKind} {e e' : ClientError} :
    Apart (.client kind e) (.client kind' e') ↔ kind = kind' ∧ e.alike e' = false := by
  constructor
  · rintro (_ | hunlike)
    exact ⟨rfl, hunlike⟩
  · rintro ⟨rfl, hunlike⟩
    exact .connections hunlike

/-- Equal errors have one kind and are not apart. -/
theorem sameAs_iff : a.sameAs b = true ↔ a.kind = b.kind ∧ ¬ Apart a b := by
  by_cases hform : a.form = b.form
  · cases a with
    | redirected r e =>
      cases b with
      | redirected r' e' =>
        rw [sameAs, beq_iff_eq, apart_redirected_iff, not_not]
        exact (and_iff_right rfl).symm
      | _ => cases hform
    | client kind e =>
      cases b with
      | client kind' e' =>
        rw [sameAs, Bool.and_eq_true, beq_iff_eq, apart_client_iff]
        refine and_congr_right fun hkind => ?_
        rw [and_iff_right hkind, Bool.not_eq_false]
      | _ => cases hform
    | _ =>
      rw [sameAs_of_plain rfl, beq_iff_eq]
      refine (and_iff_left ?_).symm
      rintro ⟨⟩
  · rw [sameAs_of_form_ne hform, beq_iff_eq]
    exact (and_iff_left fun hapart => hform hapart.form).symm

theorem apart_of_kind (hkind : a.kind = b.kind) (h : a.sameAs b = false) : Apart a b := by
  by_contra hnot
  rw [sameAs_iff.2 ⟨hkind, hnot⟩] at h
  cases h

theorem sameAs_comm (a b : ClusterError) : a.sameAs b = b.sameAs a := by
  rw [Bool.eq_iff_iff, sameAs_iff, sameAs_iff]
  constructor
  · rintro ⟨hkind, hnot⟩
    exact ⟨hkind.symm, fun h => hnot h.symm⟩
  · rintro ⟨hkind, hnot⟩
    exact ⟨hkind.symm, fun h => hnot h.symm⟩

/-! ## Where transitivity fails -/

/-- An error of the kind of two errors that are apart, but of another form. -/
structure Bridges (b a c : ClusterError) : Prop where
  apart : Apart a c
  kind : b.kind = a.kind
  form : b.form ≠ a.form

/-- Between errors of its own form, an equal error bridges nothing. -/
theorem not_apart_of_form (hform : b.form = a.form) (hab : a.sameAs b = true)
    (hbc : b.sameAs c = true) : ¬ Apart a c := by
  intro hapart
  cases hapart with
  | @redirects ra rc ea ec hne =>
    cases b with
    | redirected rb eb => exact hne ((beq_iff_eq.1 hab).trans (beq_iff_eq.1 hbc))
    | _ => cases hform
  | @connections kind ea ec hunlike =>
    cases b with
    | client kb eb =>
      have hea := (Bool.and_eq_true_iff.1 hab).2
      have hec := (Bool.and_eq_true_iff.1 hbc).2
      rw [ClientError.alike_trans hea hec] at hunlike
      cases hunlike
    | _ => cases hform

theorem bridges_iff :
    (a.sameAs b = true ∧ b.sameAs c = true ∧ a.sameAs c = false) ↔ Bridges b a c := by
  constructor
  · rintro ⟨hab, hbc, hac⟩
    have hkind := (sameAs_iff.1 hab).1
    have hapart := apart_of_kind (hkind.trans (sameAs_iff.1 hbc).1) hac
    exact ⟨hapart, hkind.symm, fun hform => not_apart_of_form hform hab hbc hapart⟩
  · rintro ⟨hapart, hkind, hform⟩
    refine ⟨sameAs_iff.2 ⟨hkind.symm, ?_⟩, sameAs_iff.2 ⟨hkind.trans hapart.kind, ?_⟩, ?_⟩
    · exact fun hab => hform hab.form.symm
    · exact fun hbc => hform (hbc.form.trans hapart.form.symm)
    · exact Bool.eq_false_iff.2 fun hac => (sameAs_iff.1 hac).2 hapart

/-- A plain description of the same kind is equal to both. -/
theorem exists_bridge (h : Apart a c) : ∃ b, Bridges b a c := by
  refine ⟨.cause (.described a.kind "" none), h, rfl, ?_⟩
  cases h <;> rintro ⟨⟩

/-- Equality of errors is symmetric. It fails to be transitive exactly for errors of one form that
are told apart, with an error of their kind but of another form in the middle, and for any two
errors that are told apart although they have one kind there is one. -/
theorem error_equality (a b c : ClusterError) :
    a.sameAs b = b.sameAs a ∧
    ((a.sameAs b = true ∧ b.sameAs c = true ∧ a.sameAs c = false) ↔ Bridges b a c) ∧
    ((a.kind = c.kind ∧ a.sameAs c = false) ↔ ∃ m, Bridges m a c) := by
  refine ⟨sameAs_comm a b, bridges_iff, ?_⟩
  constructor
  · rintro ⟨hkind, hac⟩
    exact exists_bridge (apart_of_kind hkind hac)
  · rintro ⟨m, hbridges⟩
    exact ⟨hbridges.apart.kind, (bridges_iff.2 hbridges).2.2⟩

/-- Two different error replies are equal to one description, but not to each other. -/
theorem not_sameAs_trans :
    ¬ ∀ a b c : ClusterError, a.sameAs b = true → b.sameAs c = true → a.sameAs c = true := by
  intro h
  have hequal := h (ErrorReply.ofText "ERR unknown command").toClientError.toClusterError
    (.cause (.described .serverError "refused" none))
    (ErrorReply.ofText "WRONGTYPE wrong kind of value").toClientError.toClusterError
    (by decide +kernel) (by decide +kernel)
  revert hequal
  decide +kernel

end ClusterError

end SlotRouter
