import SlotRouter.Proofs.Router.Operation

/-!
# Leases are strictly bracketed

* `Bracketed first log` : the log consists of whole leases, numbered from `first` on, with nothing
  but notes of the router between them;
* `StrictlyBracketed` : what that means for each single event of the log (`Bracketed.strictly`);
* `Router.Step.addsBracketed`, `addsBracketed_of_steps` : every step, hence every run, adds such a
  log;
* `run_leases_bracketed` : every call does, from any world and whatever it ends with;
* `session_leases_bracketed` : and so does a session of any calls;
* `perm_of_balanced` : what it means for the books to balance; `session_balanced` : they do after
  every session.
-/

namespace SlotRouter
open Relation (ReflTransGen)

variable {σ α : Type}

/-- The event is no part of a lease. -/
def Event.isNote : Event → Bool
  | .redirected _ _ _ | .refreshed _ | .invalidated | .looked => true
  | .acquired _ _ | .received _ _ | .released _ _ => false

/-- Whole leases, numbered from `first` on, and notes between them. -/
inductive Bracketed : Nat → List Event → Prop
  | nil (first : Nat) : Bracketed first []
  | note {first : Nat} {e : Event} {rest : List Event} : e.isNote → Bracketed first rest →
      Bracketed first (e :: rest)
  | lease {first : Nat} {rest : List Event} (node : Node) (commands : List Command) :
      Bracketed (first + 1) rest → Bracketed first (bracket node first commands ++ rest)

/-- Every lease is given back before anything but its commands happens. -/
structure StrictlyBracketed (first : Nat) (log : List Event) : Prop where
  /-- From a lease on, only its node receives commands until that lease is given back. -/
  closed : ∀ {pre node lease post}, log = pre ++ .acquired node lease :: post →
    ∃ (commands : List Command) (rest : List Event),
      post = commands.map (.received node) ++ .released node lease :: rest
  /-- What is given back is the last lease that was taken. -/
  opened : ∀ {pre node lease post}, log = pre ++ .released node lease :: post →
    ∃ (earlier : List Event) (commands : List Command),
      pre = earlier ++ .acquired node lease :: commands.map (.received node)
  /-- A node receives commands only within a lease for it. -/
  inside : ∀ {pre node command post}, log = pre ++ .received node command :: post →
    ∃ (earlier : List Event) (lease : Nat) (said unsaid : List Command) (rest : List Event),
      pre = earlier ++ .acquired node lease :: said.map (.received node) ∧
      post = unsaid.map (.received node) ++ .released node lease :: rest
  /-- All leases are given back to their nodes, in the order in which they were taken. -/
  returned : releases log = acquisitions log
  /-- The leases have consecutive numbers, so none is given back twice. -/
  numbered : (acquisitions log).map (·.2) = List.range' first (acquisitions log).length

/-! ## Where an event of a log stands -/

/-- The three kinds of places within a lease. -/
theorem bracket_eq_append_cons {node : Node} {lease : Nat} {commands : List Command}
    {pre post : List Event} {e : Event} (h : bracket node lease commands = pre ++ e :: post) :
    (pre = [] ∧ e = .acquired node lease ∧
      post = commands.map (.received node) ++ [.released node lease]) ∨
    (∃ (said : List Command) (command : Command) (unsaid : List Command),
      pre = .acquired node lease :: said.map (.received node) ∧ e = .received node command ∧
      post = unsaid.map (.received node) ++ [.released node lease]) ∨
    (pre = .acquired node lease :: commands.map (.received node) ∧
      e = .released node lease ∧ post = []) := by
  rw [bracket] at h
  cases pre with
  | nil =>
    obtain ⟨he, hpost⟩ := List.cons.inj h
    exact .inl ⟨rfl, he.symm, hpost.symm⟩
  | cons first pre =>
    obtain ⟨rfl, htail⟩ := List.cons.inj h
    rcases append_eq_append_cons htail with ⟨l, hmap, rfl⟩ | ⟨l, rfl, hlast⟩
    · obtain ⟨said, others, -, rfl, hothers⟩ := List.map_eq_append_iff.1 hmap
      obtain ⟨command, unsaid, -, rfl, rfl⟩ := List.map_eq_cons_iff.1 hothers
      exact .inr (.inl ⟨said, command, unsaid, rfl, rfl, rfl⟩)
    · rcases List.singleton_eq_append_iff.1 hlast with ⟨rfl, he⟩ | ⟨-, he⟩
      · obtain ⟨rfl, rfl⟩ := List.cons.inj he
        exact .inr (.inr ⟨by simp, rfl, rfl⟩)
      · cases he

/-- An event of a bracketed log is a note or stands within one of its leases. -/
theorem Bracketed.place {first : Nat} {log pre post : List Event} {e : Event}
    (h : Bracketed first log) (hlog : log = pre ++ e :: post) :
    e.isNote ∨ ∃ node lease commands before inner rest earlier,
      bracket node lease commands = before ++ e :: inner ∧ pre = earlier ++ before ∧
      post = inner ++ rest := by
  induction h generalizing pre with
  | nil => simp at hlog
  | note hnote _ ih =>
    cases pre with
    | nil =>
      obtain ⟨rfl, -⟩ := List.cons.inj hlog
      exact .inl hnote
    | cons n pre =>
      obtain ⟨-, hrest⟩ := List.cons.inj hlog
      refine (ih hrest).imp_right ?_
      rintro ⟨node, lease, commands, before, inner, rest, earlier, hb, rfl, hpost⟩
      exact ⟨node, lease, commands, before, inner, rest, n :: earlier, hb, rfl, hpost⟩
  | @lease first rest node commands _ ih =>
    -- the event stands in the first lease, or it stands in what follows
    rcases append_eq_append_cons hlog with ⟨l, hb, hpost⟩ | ⟨l, rfl, hrest⟩
    · exact .inr ⟨node, first, commands, pre, l, rest, [], hb, rfl, hpost⟩
    · refine (ih hrest).imp_right ?_
      rintro ⟨node', lease, commands', before, inner, rest', earlier, hb, rfl, hpost⟩
      exact ⟨node', lease, commands', before, inner, rest',
        bracket node first commands ++ earlier, hb, by simp, hpost⟩

/-! ## Counting leases -/

theorem acquisitions_append (a b : List Event) :
    acquisitions (a ++ b) = acquisitions a ++ acquisitions b := List.filterMap_append

theorem releases_append (a b : List Event) : releases (a ++ b) = releases a ++ releases b :=
  List.filterMap_append

theorem acquisitions_bracket (node : Node) (lease : Nat) (commands : List Command) :
    acquisitions (bracket node lease commands) = [(node, lease)] := by
  simp [acquisitions, bracket, Event.acquired?, List.filterMap_map, Function.comp_def]

theorem releases_bracket (node : Node) (lease : Nat) (commands : List Command) :
    releases (bracket node lease commands) = [(node, lease)] := by
  have hcommands : (commands.map (.received node)).filterMap Event.released? = [] := by
    simp [Event.released?]
  rw [releases, bracket, List.filterMap_cons_none rfl, List.filterMap_append, hcommands]
  rfl

theorem acquisitions_note {e : Event} (h : e.isNote) (rest : List Event) :
    acquisitions (e :: rest) = acquisitions rest := by
  cases e <;> first | rfl | cases h

theorem releases_note {e : Event} (h : e.isNote) (rest : List Event) :
    releases (e :: rest) = releases rest := by
  cases e <;> first | rfl | cases h

namespace Bracketed

variable {first : Nat} {log : List Event}

theorem returned (h : Bracketed first log) : releases log = acquisitions log := by
  induction h with
  | nil => rfl
  | note hnote _ ih => rw [releases_note hnote, acquisitions_note hnote, ih]
  | lease node commands _ ih =>
    rw [releases_append, acquisitions_append, releases_bracket, acquisitions_bracket, ih]

theorem numbered (h : Bracketed first log) :
    (acquisitions log).map (·.2) = List.range' first (acquisitions log).length := by
  induction h with
  | nil => rfl
  | note hnote _ ih => rw [acquisitions_note hnote, ih]
  | lease node commands _ ih =>
    rw [acquisitions_append, acquisitions_bracket, List.singleton_append, List.map_cons, ih]
    rfl

/-- A log that is bracketed as a whole is so at each of its events. -/
theorem strictly (h : Bracketed first log) : StrictlyBracketed first log where
  closed := by
    intro pre node lease post hlog
    rcases h.place hlog with hnote | ⟨_, _, commands, _, _, rest, _, hb, -, rfl⟩
    · cases hnote
    · rcases bracket_eq_append_cons hb with ⟨-, he, rfl⟩ | ⟨_, _, _, -, he, -⟩ | ⟨-, he, -⟩
      · obtain ⟨rfl, rfl⟩ := Event.acquired.inj he
        exact ⟨commands, rest, by simp⟩
      · cases he
      · cases he
  opened := by
    intro pre node lease post hlog
    rcases h.place hlog with hnote | ⟨_, _, commands, _, _, rest, earlier, hb, rfl, -⟩
    · cases hnote
    · rcases bracket_eq_append_cons hb with ⟨-, he, -⟩ | ⟨_, _, _, -, he, -⟩ | ⟨rfl, he, -⟩
      · cases he
      · cases he
      · obtain ⟨rfl, rfl⟩ := Event.released.inj he
        exact ⟨earlier, commands, rfl⟩
  inside := by
    intro pre node command post hlog
    rcases h.place hlog with hnote | ⟨_, lease, _, _, _, rest, earlier, hb, rfl, rfl⟩
    · cases hnote
    · rcases bracket_eq_append_cons hb
        with ⟨-, he, -⟩ | ⟨said, _, unsaid, rfl, he, rfl⟩ | ⟨-, he, -⟩
      · cases he
      · obtain ⟨rfl, rfl⟩ := Event.received.inj he
        exact ⟨earlier, lease, said, unsaid, rest, rfl, by simp⟩
      · cases he
  returned := h.returned
  numbered := h.numbered

theorem append {log' : List Event} (h : Bracketed first log)
    (h' : Bracketed (first + (acquisitions log).length) log') : Bracketed first (log ++ log') := by
  induction h with
  | nil => exact h'
  | note hnote _ ih =>
    rw [acquisitions_note hnote] at h'
    exact .note hnote (ih h')
  | lease node commands _ ih =>
    rw [acquisitions_append, acquisitions_bracket, List.length_append, List.length_singleton,
      ← Nat.add_assoc] at h'
    rw [List.append_assoc]
    exact .lease node commands (ih h')

theorem single_lease (first : Nat) (node : Node) (commands : List Command) :
    Bracketed first (bracket node first commands) := by
  simpa using Bracketed.lease node commands (.nil (first + 1))

theorem single_note (first : Nat) {e : Event} (h : e.isNote) : Bracketed first [e] :=
  .note h (.nil first)

end Bracketed

/-! ## Steps and runs -/

/-- The second world has a bracketed log more than the first. -/
def AddsBracketed (w w' : World σ) : Prop :=
  ∃ log, w'.events = w.events ++ log ∧ Bracketed w.nextLease log

theorem AddsBracketed.refl (w : World σ) : AddsBracketed w w := ⟨[], by simp, .nil _⟩

theorem AddsBracketed.trans {u v w : World σ} (h : AddsBracketed u v) (h' : AddsBracketed v w) :
    AddsBracketed u w := by
  obtain ⟨log, hlog, hb⟩ := h
  obtain ⟨log', hlog', hb'⟩ := h'
  refine ⟨log ++ log', by rw [hlog', hlog, List.append_assoc], hb.append ?_⟩
  rwa [World.nextLease_eq v, hlog, acquisitions_append, List.length_append,
    ← World.nextLease_eq] at hb'

theorem World.addsBracketed_lease (w : World σ) (node : Node) (commands : List Command) (s : σ) :
    AddsBracketed w (w.lease node commands s) :=
  ⟨_, w.events_lease node commands s, .single_lease _ _ _⟩

theorem World.addsBracketed_record (w : World σ) {e : Event} (h : e.isNote) :
    AddsBracketed w (w.record e) := ⟨_, w.events_record e, .single_note _ h⟩

theorem World.addsBracketed_outdate (w : World σ) : AddsBracketed w w.outdate :=
  ⟨_, w.events_outdate, .single_note _ rfl⟩

theorem Router.Lookup.addsBracketed {r : Router σ} {w w' : World σ} (h : r.Lookup w w') :
    AddsBracketed w w' := by
  cases h with
  | asked _ nodes _ => exact w.addsBracketed_lease _ _ nodes
  | dismissed node redirect _ => exact w.addsBracketed_record rfl
  | refreshed t _ _ => exact ⟨_, w.events_adopt _, .single_note _ rfl⟩
  | outdated _ _ => exact w.addsBracketed_outdate
  | supplied _ _ => exact w.addsBracketed_record rfl

theorem Router.Step.addsBracketed {r : Router σ} {w w' : World σ} (h : r.Step w w') :
    AddsBracketed w w' := by
  cases h with
  | lookup h => exact h.addsBracketed
  | spoke _ commands nodes _ => exact w.addsBracketed_lease _ commands nodes
  | spent _ node redirect => exact w.addsBracketed_record rfl
  | heeded _ node redirect =>
    have hnote : AddsBracketed w (w.record (.redirected node redirect true)) :=
      w.addsBracketed_record rfl
    rcases heed_apply r node redirect w with hw | hw
    · rw [hw]
      exact hnote
    · rw [hw]
      exact hnote.trans (World.addsBracketed_outdate _)

/-- Every run of steps adds a bracketed log. -/
theorem addsBracketed_of_steps {r : Router σ} {w w' : World σ} (h : ReflTransGen r.Step w w') :
    AddsBracketed w w' := by
  induction h with
  | refl => exact .refl w
  | tail _ hstep ih => exact ih.trans hstep.addsBracketed

/-- From any world, the events of a call are strictly bracketed leases and notes between them,
whether the call returns, fails, is torn down or waits without end. -/
theorem run_leases_bracketed (r : Router σ) (op : Operation α) (w : World σ) :
    ∃ log, (op.run r w).2.events = w.events ++ log ∧ StrictlyBracketed w.nextLease log := by
  obtain ⟨log, hlog, hb⟩ := addsBracketed_of_steps (op.run_takes r w)
  exact ⟨log, hlog, hb.strictly⟩

/-! ## Sessions -/

/-- Several calls, one after the other. -/
def Router.session (r : Router σ) : List (Σ α : Type, Operation α) → World σ → World σ
  | [], w => w
  | call :: rest, w => r.session rest (call.2.run r w).2

theorem session_steps (r : Router σ) (calls : List (Σ α : Type, Operation α)) (w : World σ) :
    ReflTransGen r.Step w (r.session calls w) := by
  induction calls generalizing w with
  | nil => exact .refl
  | cons call rest ih => exact (call.2.run_takes r w).trans (ih _)

/-- The whole log of a session is strictly bracketed. -/
theorem session_leases_bracketed (r : Router σ) (calls : List (Σ α : Type, Operation α))
    (nodes : σ) : StrictlyBracketed 0 (r.session calls { nodes }).events := by
  obtain ⟨log, hlog, hb⟩ := addsBracketed_of_steps (session_steps r calls { nodes })
  rw [hlog]
  exact hb.strictly

/-! ## The books -/

/-- Where a lease was taken or given back, and its number. -/
def leaseEntry (lease : Node × Nat) : String × UInt16 × Nat := (lease.1.host, lease.1.port, lease.2)

theorem sameLeases_iff {taken given : List (Node × Nat)} :
    sameLeases taken given ↔ taken.map leaseEntry = given.map leaseEntry := by
  induction taken generalizing given with
  | nil => cases given <;> simp [sameLeases]
  | cons a as ih =>
    cases given with
    | nil => simp [sameLeases]
    | cons b bs =>
      rw [sameLeases, Bool.and_eq_true, Bool.and_eq_true, Node.sameAddress_iff, beq_iff_eq, ih]
      simp [leaseEntry, and_assoc]

theorem perm_byNumber (leases : List (Node × Nat)) : (byNumber leases).Perm leases :=
  List.mergeSort_perm leases _

/-- Books that balance show every lease given back once, to the address it was taken from. -/
theorem perm_of_balanced {events : List Event} (h : balanced events) :
    ((acquisitions events).map leaseEntry).Perm ((releases events).map leaseEntry) := by
  have hsame : (byNumber (acquisitions events)).map leaseEntry =
      (byNumber (releases events)).map leaseEntry := sameLeases_iff.1 h
  have htaken := (perm_byNumber (acquisitions events)).map leaseEntry
  rw [hsame] at htaken
  exact htaken.symm.trans ((perm_byNumber (releases events)).map leaseEntry)

namespace StrictlyBracketed

variable {first : Nat} {log : List Event}

theorem balanced (h : StrictlyBracketed first log) : balanced log := by
  rw [SlotRouter.balanced, h.returned]
  exact sameLeases_iff.2 rfl

theorem leaseNumbers_acquisitions (h : StrictlyBracketed first log) :
    leaseNumbers (acquisitions log) = List.range' first (acquisitions log).length := by
  rw [leaseNumbers, h.numbered]
  exact List.mergeSort_of_pairwise (by simpa using List.pairwise_le_range')

end StrictlyBracketed

/-- After a session the books balance: leases were numbered one by one, and none is left. -/
theorem session_balanced (r : Router σ) (calls : List (Σ α : Type, Operation α)) (nodes : σ) :
    let events := (r.session calls { nodes }).events
    balanced events ∧
      leaseNumbers (acquisitions events) = List.range (acquisitions events).length ∧
      leaseNumbers (releases events) = List.range (acquisitions events).length := by
  have hlog := session_leases_bracketed r calls nodes
  have hnumbers := hlog.leaseNumbers_acquisitions
  rw [← List.range_eq_range'] at hnumbers
  exact ⟨hlog.balanced, hnumbers, by rw [hlog.returned, hnumbers]⟩

end SlotRouter
