import Mathlib.Data.List.Induction
import SlotRouter.Proofs.Router.Freshness
import SlotRouter.Proofs.Router.Polling
import SlotRouter.Proofs.Topology.Candidates

/-!
# Looking and invalidating again and again

The source of a router that discovers its topology, under any sequence of looks and invalidations.

* `SourceCall`, `Router.afterCalls` : the calls on a source, and the world after them;
* `Router.fetchedBy`, `Router.lastFetch` : what a call fetched, as seen from outside, and the last
  fetch of a sequence with the calls after it (`lastFetch_append`);
* `Router.remembers_calls` : the snapshot is the one of the last fetch, stale if it was invalidated
  since, by induction on the calls from `Router.remembers_call`;
* `look_after_calls` : what a look after any calls is answered with, and which nodes it asks.
-/

namespace SlotRouter

variable {σ : Type}

theorem toOption_eq_some_iff {ε α : Type} {x : Except ε α} {a : α} :
    x.toOption = some a ↔ x = .ok a := by
  cases x <;> simp [Except.toOption]

/-- A call on the source of topologies. -/
inductive SourceCall
  /-- Looks at the topology. -/
  | look
  /-- Makes the snapshot stale. -/
  | invalidate
  deriving DecidableEq

/-- A fetched snapshot and the calls after the fetch. -/
abbrev Fetch : Type := Snapshot × List SourceCall

/-- The snapshot that remains of a fetch. -/
def Fetch.remains (f : Fetch) : Snapshot := if .invalidate ∈ f.2 then f.1.stale else f.1

theorem Fetch.remains_topology (f : Fetch) : f.remains.topology = f.1.topology := by
  unfold Fetch.remains
  split <;> rfl

theorem Fetch.remains_look (f : Fetch) :
    Fetch.remains (f.1, f.2 ++ [.look]) = f.remains := by
  simp [Fetch.remains]

theorem Fetch.remains_invalidate (f : Fetch) :
    Fetch.remains (f.1, f.2 ++ [.invalidate]) = f.remains.stale := by
  have hmem : SourceCall.invalidate ∈ f.2 ++ [.invalidate] := by simp
  unfold Fetch.remains
  rw [if_pos hmem]
  split <;> rfl

namespace Router

/-! ## Calls -/

/-- The router with the nodes as its source. -/
def discovering (r : Router σ) (seeds : List Node) (caching : Caching) : Router σ :=
  { r with source := .discovered seeds caching }

def afterCall (r : Router σ) (w : World σ) : SourceCall → World σ
  | .look => (r.snapshot w).2
  | .invalidate => (r.invalidate w).2

def afterCalls (r : Router σ) (w : World σ) (calls : List SourceCall) : World σ :=
  calls.foldl r.afterCall w

/-- The snapshot that a call fetched: a look ends with it, and some node received a command. -/
def fetchedBy (r : Router σ) (w : World σ) : SourceCall → Option Snapshot
  | .look =>
    match r.snapshot w with
    | (.ok s, w') => if (receipts (w'.events.drop w.events.length)).isEmpty then none else some s
    | (.error _, _) => none
  | .invalidate => none

/-- The last fetch of a sequence of calls. -/
def lastFetch (r : Router σ) (w : World σ) : List SourceCall → Option Fetch
  | [] => none
  | call :: rest =>
    (r.lastFetch (r.afterCall w call) rest).or ((r.fetchedBy w call).map (·, rest))

theorem lastFetch_append (r : Router σ) (w : World σ) (calls : List SourceCall)
    (call : SourceCall) : r.lastFetch w (calls ++ [call]) =
      ((r.fetchedBy (r.afterCalls w calls) call).map (·, [])).or
        ((r.lastFetch w calls).map fun f => (f.1, f.2 ++ [call])) := by
  induction calls generalizing w with
  | nil => simp [lastFetch, afterCalls]
  | cons first rest ih =>
    have hafter : r.afterCalls w (first :: rest) = r.afterCalls (r.afterCall w first) rest := rfl
    rw [List.cons_append, lastFetch, ih, lastFetch, hafter, Option.or_assoc, Option.map_or,
      Option.map_map]
    rfl

/-! ## One call -/

section Discovering

variable {r : Router σ} {seeds : List Node} {caching : Caching} {w : World σ}

theorem snapshot_of_served {s : Snapshot} (h : w.served = some s) :
    (r.discovering seeds caching).snapshot w = (.ok s, w) := by
  unfold discovering snapshot
  dsimp only
  rw [Run.bind_read, h]
  rfl

theorem snapshot_of_unserved (h : w.served = none) :
    (r.discovering seeds caching).snapshot w = refresh r.network seeds caching w := by
  unfold discovering snapshot
  dsimp only
  rw [Run.bind_read, h]

theorem fetchedBy_of_served {s : Snapshot} (h : w.served = some s) :
    (r.discovering seeds caching).fetchedBy w .look = none := by
  rw [fetchedBy, snapshot_of_served h]
  simp [receipts]

/-- A refresh that ends with a snapshot made some node receive a command. -/
theorem received_of_refresh {s : Snapshot} (h : (refresh r.network seeds caching w).1 = .ok s) :
    ∃ log, (refresh r.network seeds caching w).2.events = w.events ++ log ∧ receipts log ≠ [] := by
  obtain ⟨asked, log, hpolled, hlog, hreceipts, -, -⟩ := refresh_polled r.network seeds caching w
  rw [h] at hpolled
  refine ⟨log, hlog, ?_⟩
  rw [hreceipts]
  exact hpolled.contacts_ne_nil

theorem fetchedBy_of_unserved (h : w.served = none) :
    (r.discovering seeds caching).fetchedBy w .look =
      (refresh r.network seeds caching w).1.toOption := by
  have hreceived := @received_of_refresh σ r seeds caching w
  rw [fetchedBy, snapshot_of_unserved h]
  generalize refresh r.network seeds caching w = result at hreceived
  obtain ⟨stop | s, w'⟩ := result
  · rfl
  · obtain ⟨log, hlog, hne⟩ := hreceived rfl
    dsimp only at hlog ⊢
    rw [hlog, List.drop_left, if_neg]
    · rfl
    · rw [List.isEmpty_iff]
      exact hne

/-- The snapshot of a world is what remains of the last fetch. -/
structure Remembers (caching : Caching) (past : Option Fetch) (w : World σ) : Prop where
  snapshot : w.snapshot = past.map Fetch.remains
  fresh : ∀ f ∈ past, f.1.fresh = decide (caching = .keep)

theorem Remembers.served_iff {past : Option Fetch} (h : Remembers caching past w) {s : Snapshot} :
    w.served = some s ↔
      caching = .keep ∧ ∃ since, past = some (s, since) ∧ .invalidate ∉ since := by
  rw [World.served, h.snapshot, Option.filter_eq_some_iff]
  cases past with
  | none => simp
  | some f =>
    have hfresh := h.fresh f rfl
    obtain ⟨t, since⟩ := f
    by_cases hmem : SourceCall.invalidate ∈ since
    · have hstale : Fetch.remains (t, since) = t.stale := if_pos hmem
      constructor
      · rintro ⟨hs, hfresh'⟩
        rw [Option.map_some, hstale] at hs
        obtain rfl := Option.some.inj hs
        cases hfresh'
      · rintro ⟨-, since', hpast, hnot⟩
        cases hpast
        exact absurd hmem hnot
    · have hsame : Fetch.remains (t, since) = t := if_neg hmem
      rw [Option.map_some, hsame]
      constructor
      · rintro ⟨hs, hfresh'⟩
        obtain rfl := Option.some.inj hs
        exact ⟨of_decide_eq_true (hfresh.symm.trans hfresh'), since, rfl, hmem⟩
      · rintro ⟨hkeep, since', hpast, -⟩
        cases hpast
        exact ⟨rfl, hfresh.trans (decide_eq_true hkeep)⟩

theorem Remembers.knownNodes {past : Option Fetch} (h : Remembers caching past w) :
    knownNodes w.snapshot = SlotRouter.knownNodes (past.map (·.1)) := by
  rw [h.snapshot]
  cases past with
  | none => rfl
  | some f =>
    show f.remains.topology.activeNodes = f.1.topology.activeNodes
    rw [f.remains_topology]

/-- What a call changes of the last fetch, it changes of the snapshot. -/
theorem remembers_call {past : Option Fetch} (h : Remembers caching past w) (call : SourceCall) :
    Remembers caching
      ((((r.discovering seeds caching).fetchedBy w call).map (·, [])).or
        (past.map fun f => (f.1, f.2 ++ [call])))
      ((r.discovering seeds caching).afterCall w call) := by
  have hkept : ∀ f ∈ past.map fun f => (f.1, f.2 ++ [call]),
      f.1.fresh = decide (caching = .keep) := by
    intro f hf
    obtain ⟨g, hg, rfl⟩ := Option.map_eq_some_iff.1 hf
    exact h.fresh g hg
  cases call with
  | invalidate =>
    refine ⟨?_, hkept⟩
    show w.snapshot.map Snapshot.stale = _
    rw [h.snapshot]
    cases past with
    | none => rfl
    | some f => exact congrArg some f.remains_invalidate.symm
  | look =>
    have hsame : past.map (fun f => Fetch.remains (f.1, f.2 ++ [.look])) =
        past.map Fetch.remains := by
      congr 1
      exact funext Fetch.remains_look
    cases hserved : w.served with
    | some s =>
      rw [fetchedBy_of_served hserved, afterCall, snapshot_of_served hserved]
      refine ⟨?_, hkept⟩
      rw [Option.map_none, Option.none_or, Option.map_map]
      exact h.snapshot.trans hsame.symm
    | none =>
      obtain ⟨-, -, -, -, -, hsnapshot, hfresh⟩ := refresh_polled r.network seeds caching w
      rw [fetchedBy_of_unserved hserved, afterCall, snapshot_of_unserved hserved]
      generalize refresh r.network seeds caching w = result at hsnapshot hfresh
      obtain ⟨stop | s, w'⟩ := result
      · refine ⟨?_, hkept⟩
        rw [hsnapshot]
        show w.snapshot = (past.map _).map _
        rw [Option.map_map]
        exact h.snapshot.trans hsame.symm
      · refine ⟨hsnapshot, ?_⟩
        intro f hf
        cases hf
        exact hfresh s rfl

theorem remembers_calls (r : Router σ) (seeds : List Node) (caching : Caching) (nodes : σ)
    (calls : List SourceCall) :
    Remembers caching ((r.discovering seeds caching).lastFetch { nodes } calls)
      ((r.discovering seeds caching).afterCalls { nodes } calls) := by
  induction calls using List.reverseRecOn with
  | nil => exact ⟨rfl, by simp [lastFetch]⟩
  | append_singleton calls call ih =>
    have hafter : (r.discovering seeds caching).afterCalls { nodes } (calls ++ [call]) =
        (r.discovering seeds caching).afterCall
          ((r.discovering seeds caching).afterCalls { nodes } calls) call :=
      List.foldl_append
    rw [lastFetch_append, hafter]
    exact remembers_call ih call

end Discovering

end Router

/-! ## A look after any calls -/

/-- What a look in a world ends with and leaves behind, where `past` is the last fetch before it. -/
structure LookAfter (net : Network σ) (seeds : List Node) (caching : Caching)
    (past : Option Fetch) (w : World σ) (outcome : Except (Stop ClusterError) Snapshot)
    (w' : World σ) : Prop where
  /-- It is answered without asking anyone exactly if something was fetched and not invalidated
  since, with what was fetched. -/
  cached_iff : ∀ s, outcome = .ok s ∧ w' = w ↔
    caching = .keep ∧ ∃ since, past = some (s, since) ∧ .invalidate ∉ since
  /-- Otherwise nodes are asked in turn: the active ones of what was fetched last, then the seeds
  with other addresses. Only what is found replaces the snapshot. -/
  asked : (∀ s, ¬ (outcome = .ok s ∧ w' = w)) → ∃ asked log,
    Polled net (knownNodes (past.map (·.1)) ++ newNodes (knownNodes (past.map (·.1))) seeds)
      w.nodes (retrievalFailure ∘ failureList) (outcome.map (·.topology)) asked w'.nodes ∧
    w'.events = w.events ++ log ∧ receipts log = contacts net asked ∧
    w'.snapshot = keptBy w.snapshot outcome
  /-- Nobody is asked twice. -/
  distinct : DistinctAddresses
    (knownNodes (past.map (·.1)) ++ newNodes (knownNodes (past.map (·.1))) seeds)

/-- A look after any sequence of looks and invalidations. It counts as a fetch itself exactly if it
ends with a snapshot and was not answered without asking anyone. -/
theorem look_after_calls (r : Router σ) (seeds : List Node) (caching : Caching) (nodes : σ)
    (calls : List SourceCall) :
    let source := r.discovering seeds caching
    let w := source.afterCalls { nodes } calls
    LookAfter r.network seeds caching (source.lastFetch { nodes } calls) w (source.snapshot w).1
        (source.snapshot w).2 ∧
      ∀ s, source.fetchedBy w .look = some s ↔
        (source.snapshot w).1 = .ok s ∧ (source.snapshot w).2 ≠ w := by
  intro source w
  have hremembers : Router.Remembers caching (source.lastFetch { nodes } calls) w :=
    Router.remembers_calls r seeds caching nodes calls
  have hdistinct := nodesToAsk_distinct seeds w.snapshot
  rw [nodesToAsk_eq, hremembers.knownNodes] at hdistinct
  cases hserved : w.served with
  | some s =>
    have hsnapshot : source.snapshot w = (.ok s, w) := Router.snapshot_of_served hserved
    have hfetched : source.fetchedBy w .look = none := Router.fetchedBy_of_served hserved
    rw [hsnapshot, hfetched]
    refine ⟨⟨?_, ?_, hdistinct⟩, ?_⟩
    · intro s'
      rw [← hremembers.served_iff, hserved]
      simp
    · intro hnot
      exact absurd ⟨rfl, rfl⟩ (hnot s)
    · simp
  | none =>
    obtain ⟨asked, log, hpolled, hlog, hreceipts, hkept, -⟩ :=
      refresh_polled r.network seeds caching w
    have hsnapshot : source.snapshot w = refresh r.network seeds caching w :=
      Router.snapshot_of_unserved hserved
    have hfetched : source.fetchedBy w .look =
        (refresh r.network seeds caching w).1.toOption := Router.fetchedBy_of_unserved hserved
    have hchanged : ∀ s, (refresh r.network seeds caching w).1 = .ok s →
        (refresh r.network seeds caching w).2 ≠ w := by
      intro s hs hsame
      obtain ⟨log', hlog', hne⟩ := Router.received_of_refresh hs
      rw [hsame, List.self_eq_append_right] at hlog'
      rw [hlog'] at hne
      exact hne rfl
    rw [nodesToAsk_eq, hremembers.knownNodes] at hpolled
    rw [hsnapshot, hfetched]
    refine ⟨⟨?_, fun _ => ⟨asked, log, hpolled, hlog, hreceipts, hkept⟩, hdistinct⟩, ?_⟩
    · intro s
      rw [← hremembers.served_iff, hserved]
      constructor
      · rintro ⟨hs, hsame⟩
        exact absurd hsame (hchanged s hs)
      · intro h
        cases h
    · intro s
      rw [toOption_eq_some_iff]
      exact ⟨fun hs => ⟨hs, hchanged s hs⟩, fun h => h.1⟩

end SlotRouter
