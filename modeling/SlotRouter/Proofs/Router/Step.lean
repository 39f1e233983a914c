import Mathlib.Logic.Relation
import SlotRouter.Proofs.Network.Conversation
import SlotRouter.Router.Redirects

/-!
# The steps of a router

Every run of a router takes the world through a sequence of few kinds of steps. What each step
keeps, a run keeps.

* `Router.Lookup` : the steps of finding out the topology; `Router.Step` : these, conversations of
  commands, and redirects;
* `Run.Takes R m` : every run of `m` is a sequence of steps of `R`, and the ways to put runs
  together;
* `Run.FailsWith p m` : every error of `m` satisfies `p`;
* `topology_takes`, `nodeAt_takes` : looking at the topology takes steps of `Lookup` only;
* `topology_fails` : the errors of looking at it;
* `log_prefix_of_lookups`, `heed_log_prefix` : what is in the log stays there;
* `hold_takes` : a command takes steps of `Step`.
-/

namespace SlotRouter
open Relation (ReflTransGen)

variable {σ α β ε ε' : Type}

/-! ## Steps -/

/-- A step of finding out the topology. -/
inductive Router.Lookup (r : Router σ) : World σ → World σ → Prop
  /-- A node is asked for its report. -/
  | asked {node} (w : World σ) (nodes : σ) : r.network.connect node = .ok () →
      r.Lookup w (w.lease node [nodesCommand] nodes)
  /-- It answers with a redirect. -/
  | dismissed {w : World σ} (node : Node) (redirect : Redirect) : w.served = none →
      r.Lookup w (w.record (.redirected node redirect false))
  /-- Its report becomes the snapshot. -/
  | refreshed {seeds caching} {w : World σ} (t : Topology) :
      r.source = .discovered seeds caching → w.served = none →
      r.Lookup w (w.adopt ⟨t, w.snapshot.elim 0 (·.serial + 1), caching = .keep⟩)
  /-- The snapshot becomes stale. -/
  | outdated (w : World σ) : (∀ t, r.source ≠ .fixed t) → r.Lookup w w.outdate
  /-- Someone else is asked. -/
  | supplied {answer} (w : World σ) : r.source = .supplied answer → r.Lookup w (w.record .looked)

/-- A step of a run. -/
inductive Router.Step (r : Router σ) : World σ → World σ → Prop
  | lookup {w w' : World σ} : r.Lookup w w' → r.Step w w'
  /-- A command is held with a node. -/
  | spoke {node} (w : World σ) (commands : List Command) (nodes : σ) :
      r.network.connect node = .ok () → r.Step w (w.lease node commands nodes)
  /-- A redirect is followed. -/
  | heeded (w : World σ) (node : Node) (redirect : Redirect) :
      r.Step w (r.heed node redirect w).2
  /-- A redirect is not followed, since none is left. -/
  | spent (w : World σ) (node : Node) (redirect : Redirect) :
      r.Step w (w.record (.redirected node redirect false))

/-! ## Runs that take steps -/

/-- Every run is a sequence of steps. -/
def Run.Takes (R : World σ → World σ → Prop) (m : Run σ ε α) : Prop :=
  ∀ w, ReflTransGen R w (m w).2

namespace Run.Takes

variable {R : World σ → World σ → Prop} {m : Run σ ε α}

theorem value (a : α) : Run.Takes R (pure a : Run σ ε α) := fun _ => .refl

theorem stop (s : Stop ε) : Run.Takes R (.stop s : Run σ ε α) := fun _ => .refl

theorem fail (e : ε) : Run.Takes R (.fail e : Run σ ε α) := stop _

theorem read : Run.Takes R (.read : Run σ ε (World σ)) := fun _ => .refl

theorem ofExcept (x : Except ε α) : Run.Takes R (.ofExcept x) := by
  cases x with
  | ok a => exact value a
  | error e => exact fail e

theorem modify {f : World σ → World σ} (h : ∀ w, R w (f w)) :
    Run.Takes R (.modify f : Run σ ε Unit) := fun w => .single (h w)

theorem bind {f : α → Run σ ε β} (hm : m.Takes R) (hf : ∀ a, (f a).Takes R) :
    Run.Takes R (m >>= f) := by
  intro w
  have hw := hm w
  rcases h : m w with ⟨s | a, w'⟩ <;> rw [h] at hw
  · rw [Run.bind_of_error h]
    exact hw
  · rw [Run.bind_of_ok h]
    exact hw.trans (hf a w')

theorem map (f : α → β) (hm : m.Takes R) : Run.Takes R (f <$> m) := hm.bind fun _ => value _

theorem attempt (hm : m.Takes R) : Run.Takes R (m.attempt : Run σ ε' (Except ε α)) := by
  intro w
  rw [Run.attempt_apply]
  exact hm w

theorem rescue {f : Stop ε → Run σ ε' α} (hm : m.Takes R) (hf : ∀ s, (f s).Takes R) :
    Run.Takes R (m.rescue f) := by
  intro w
  have hw := hm w
  rcases h : m w with ⟨s | a, w'⟩ <;> rw [h] at hw <;> rw [Run.rescue, h]
  · exact hw.trans (hf s w')
  · exact hw

theorem mono {R' : World σ → World σ → Prop} (h : ∀ u v, R u v → R' u v) (hm : m.Takes R) :
    m.Takes R' := fun w => ReflTransGen.mono h _ _ (hm w)

end Run.Takes

/-! ## Runs that fail with certain errors -/

/-- Every error that the run ends with satisfies the predicate. -/
def Run.FailsWith (p : ε → Prop) (m : Run σ ε α) : Prop :=
  ∀ w e w', m w = (.error (.failed e), w') → p e

namespace Run.FailsWith

variable {p : ε → Prop} {m : Run σ ε α}

theorem value (a : α) : Run.FailsWith p (pure a : Run σ ε α) := by
  intro w e w' h
  cases h

theorem bind {f : α → Run σ ε β} (hm : m.FailsWith p) (hf : ∀ a, (f a).FailsWith p) :
    Run.FailsWith p (m >>= f) := by
  intro w e w' h
  rcases hw : m w with ⟨s | a, v⟩
  · rw [Run.bind_of_error hw] at h
    cases h
    exact hm w e w' hw
  · rw [Run.bind_of_ok hw] at h
    exact hf a v e w' h

theorem mapError {f : ε → ε'} {p : ε' → Prop} (h : ∀ e, p (f e)) :
    Run.FailsWith p (m.mapError f) := by
  intro w e w' he
  unfold Run.mapError at he
  rcases hw : m w with ⟨(⟨e'⟩ | text | _) | a, v⟩ <;> rw [hw] at he <;> cases he
  exact h e'

theorem mono {p' : ε → Prop} (hm : m.FailsWith p) (h : ∀ e, p e → p' e) : m.FailsWith p' :=
  fun w e w' he => h e (hm w e w' he)

theorem modify (f : World σ → World σ) : Run.FailsWith p (.modify f : Run σ ε Unit) := by
  intro w e w' h
  cases h

theorem read : Run.FailsWith p (.read : Run σ ε (World σ)) := by
  intro w e w' h
  cases h

end Run.FailsWith

/-! ## Looking at the topology -/

variable (r : Router σ)

/-- Asking a node takes steps, and keeps the snapshot. -/
theorem topologyFrom_steps (node : Node) {w : World σ} (hw : w.served = none) :
    ReflTransGen r.Lookup w (topologyFrom r.network node w).2 ∧
      (topologyFrom r.network node w).2.snapshot = w.snapshot := by
  cases hc : r.network.connect node with
  | error e =>
    rw [topologyFrom, Run.bind_of_error (exchangeWith_of_error hc _ w)]
    exact ⟨.refl, rfl⟩
  | ok u =>
    obtain ⟨commands, outcome, s, ht, he⟩ :=
      exchangeWith_of_ok hc (.query nodesCommand Decode.string) w
    obtain rfl := ht.commands_of_query
    have hask : r.Lookup w (w.lease node [nodesCommand] s) := .asked w s hc
    rw [topologyFrom]
    rcases outcome with (e | text | _) | text
    · rw [Run.bind_of_ok he]
      dsimp only
      rw [dismiss]
      cases e.redirect? with
      | none => exact ⟨.single hask, rfl⟩
      | some redirect => exact ⟨.tail (.single hask) (.dismissed node redirect hw), rfl⟩
    · rw [Run.bind_of_error he]
      exact ⟨.single hask, rfl⟩
    · rw [Run.bind_of_error he]
      exact ⟨.single hask, rfl⟩
    · rw [Run.bind_of_ok he]
      dsimp only
      cases topologyOfReport node text <;> exact ⟨.single hask, rfl⟩

theorem fetchFirst_steps (nodes : List Node) {w : World σ} (hw : w.served = none) :
    ReflTransGen r.Lookup w (fetchFirst r.network nodes w).2 ∧
      (fetchFirst r.network nodes w).2.snapshot = w.snapshot := by
  induction nodes generalizing w with
  | nil => exact ⟨.refl, rfl⟩
  | cons n rest ih =>
    obtain ⟨hsteps, hsnap⟩ := topologyFrom_steps r n hw
    have ha : ((topologyFrom r.network n).attempt :
        Run σ (List (String × ClusterError)) (Except ClusterError Topology)) w = _ :=
      Run.attempt_apply (topologyFrom r.network n) w
    rw [fetchFirst]
    rcases h : topologyFrom r.network n w with ⟨(e | text | _) | t, w'⟩ <;>
      rw [h] at hsteps hsnap ha
    · -- asking kept the snapshot, so the rest is asked in the same situation
      have hw' : w'.served = none := by rw [World.served, hsnap]; exact hw
      rw [Run.bind_of_ok ha]
      dsimp only
      rw [Run.mapError_eq]
      exact ⟨hsteps.trans (ih hw').1, (ih hw').2.trans hsnap⟩
    · rw [Run.bind_of_error ha]
      exact ⟨hsteps, hsnap⟩
    · rw [Run.bind_of_error ha]
      exact ⟨hsteps, hsnap⟩
    · rw [Run.bind_of_ok ha]
      exact ⟨hsteps, hsnap⟩

theorem refresh_steps {seeds : List Node} {caching : Caching}
    (hr : r.source = .discovered seeds caching) {w : World σ} (hw : w.served = none) :
    ReflTransGen r.Lookup w (refresh r.network seeds caching w).2 := by
  obtain ⟨hsteps, hsnap⟩ := fetchFirst_steps r (nodesToAsk seeds w.snapshot) hw
  have hm : ((fetchFirst r.network (nodesToAsk seeds w.snapshot)).mapError retrievalFailure w).2 =
      (fetchFirst r.network (nodesToAsk seeds w.snapshot) w).2 := by
    rw [Run.mapError_eq]
  rw [refresh, Run.bind_read]
  rcases h : (fetchFirst r.network (nodesToAsk seeds w.snapshot)).mapError retrievalFailure w
    with ⟨s | t, w'⟩ <;> rw [h] at hm
  · rw [Run.bind_of_error h, hm]
    exact hsteps
  · rw [Run.bind_of_ok h]
    dsimp only at hm
    rw [← hm] at hsteps hsnap
    refine hsteps.tail ?_
    have hw' : w'.served = none := by rw [World.served, hsnap]; exact hw
    have hstep := Router.Lookup.refreshed t hr hw'
    rw [hsnap] at hstep
    exact hstep

theorem snapshot_takes : r.snapshot.Takes r.Lookup := by
  intro w
  rw [Router.snapshot]
  cases hr : r.source with
  | fixed t => exact .refl
  | discovered seeds caching =>
    dsimp only
    rw [Run.bind_read]
    cases hw : w.served with
    | some s => exact .refl
    | none => exact refresh_steps r hr hw
  | supplied answer => exact .single (.supplied w hr)

theorem topology_takes : r.topology.Takes r.Lookup := (snapshot_takes r).bind fun _ => .value _

theorem invalidate_takes : r.invalidate.Takes r.Lookup := by
  intro w
  rw [Router.invalidate]
  cases hr : r.source with
  | fixed t => exact .refl
  | discovered seeds caching => exact .single (.outdated w (by simp [hr]))
  | supplied answer => exact .single (.outdated w (by simp [hr]))

theorem nodeAt_takes (redirect : Redirect) : (r.nodeAt redirect).Takes r.Lookup := by
  refine (topology_takes r).bind fun t => ?_
  cases t.lookupAddress redirect.host redirect.port with
  | ok n => exact .value n
  | error e => exact (invalidate_takes r).bind fun _ => (topology_takes r).bind fun _ => .ofExcept _

/-- Whoever gives connections or topologies may fail with an error of any kind. -/
def Router.Brings (r : Router σ) (e : ClusterError) : Prop :=
  (∃ node, r.network.connect node = .error e) ∨
  ∃ answer events, r.source = .supplied answer ∧ answer events = .error (.failed e)

theorem consult_fails (answer : List Event → Except (Stop ClusterError) Topology) :
    (consult answer : Run σ ClusterError Snapshot).FailsWith fun e =>
      ∃ events, answer events = .error (.failed e) := by
  intro w e w' h
  unfold consult at h
  cases ha : answer w.history with
  | error s =>
    rw [ha] at h
    cases h
    exact ⟨w.history, ha⟩
  | ok t =>
    rw [ha] at h
    cases h

theorem refresh_fails (net : Network σ) (seeds : List Node) (caching : Caching) :
    (refresh net seeds caching).FailsWith fun e => e.kind = .clusterStateFailure := by
  refine Run.FailsWith.read.bind fun w => Run.FailsWith.bind ?_ fun t => ?_
  · exact .mapError fun _ => rfl
  · exact (Run.FailsWith.modify _).bind fun _ => .value _

theorem topology_fails :
    r.topology.FailsWith fun e => e.kind = .clusterStateFailure ∨ r.Brings e := by
  refine Run.FailsWith.bind ?_ fun _ => .value _
  rw [Router.snapshot]
  cases hr : r.source with
  | fixed t => exact .value _
  | discovered seeds caching =>
    refine Run.FailsWith.read.bind fun w => ?_
    cases w.served with
    | some s => exact .value s
    | none => exact (refresh_fails r.network seeds caching).mono fun _ => .inl
  | supplied answer =>
    refine (consult_fails answer : (consult answer : Run σ _ _).FailsWith _).mono ?_
    rintro e ⟨events, he⟩
    exact .inr (.inr ⟨answer, events, hr, he⟩)

/-! ## Redirects -/

theorem invalidate_apply (w : World σ) :
    r.invalidate w = (.ok (), w) ∨ r.invalidate w = (.ok (), w.outdate) := by
  rw [Router.invalidate]
  cases r.source with
  | fixed t => exact .inl rfl
  | discovered seeds caching => exact .inr rfl
  | supplied answer => exact .inr rfl

theorem invalidate_ok (w : World σ) : r.invalidate w = (.ok (), (r.invalidate w).2) := by
  rcases invalidate_apply r w with h | h <;> rw [h]

/-- Following a redirect never fails by itself, and makes the snapshot stale or keeps it. -/
theorem heed_apply (node : Node) (redirect : Redirect) (w : World σ) :
    r.heed node redirect w = (.ok (), w.record (.redirected node redirect true)) ∨
    r.heed node redirect w = (.ok (), (w.record (.redirected node redirect true)).outdate) := by
  rw [Router.heed, Run.bind_modify]
  cases redirect.ask with
  | true => exact .inl rfl
  | false => exact invalidate_apply r _

theorem heed_ok (node : Node) (redirect : Redirect) (w : World σ) :
    r.heed node redirect w = (.ok (), (r.heed node redirect w).2) := by
  rcases heed_apply r node redirect w with h | h <;> rw [h]

theorem heed_of_ask {redirect : Redirect} (h : redirect.ask = true) (node : Node) (w : World σ) :
    r.heed node redirect w = (.ok (), w.record (.redirected node redirect true)) := by
  rw [Router.heed, Run.bind_modify, h]
  rfl

theorem heed_of_moved {seeds : List Node} {caching : Caching} {redirect : Redirect}
    (hr : r.source = .discovered seeds caching) (h : redirect.ask = false) (node : Node)
    (w : World σ) :
    r.heed node redirect w = (.ok (), (w.record (.redirected node redirect true)).outdate) := by
  rw [Router.heed, Run.bind_modify, h, Router.invalidate, hr]
  rfl

/-! ## The log -/

variable {r} {w w' : World σ}

theorem Router.Lookup.log_prefix (h : r.Lookup w w') : w.events <+: w'.events := by
  cases h with
  | asked w nodes _ =>
    rw [World.events_lease]
    exact List.prefix_append _ _
  | dismissed node redirect _ =>
    rw [World.events_record]
    exact List.prefix_append _ _
  | refreshed t _ _ =>
    rw [World.events_adopt]
    exact List.prefix_append _ _
  | outdated w _ =>
    rw [World.events_outdate]
    exact List.prefix_append _ _
  | supplied w _ =>
    rw [World.events_record]
    exact List.prefix_append _ _

theorem log_prefix_of_lookups (h : ReflTransGen r.Lookup w w') : w.events <+: w'.events := by
  induction h with
  | refl => exact List.prefix_rfl
  | tail _ hstep ih => exact ih.trans hstep.log_prefix

theorem heed_log_prefix (r : Router σ) (node : Node) (redirect : Redirect) (w : World σ) :
    w.events ++ [.redirected node redirect true] <+: (r.heed node redirect w).2.events := by
  rcases heed_apply r node redirect w with h | h
  · refine ⟨[], ?_⟩
    rw [List.append_nil, h, World.events_record]
  · rw [h, World.events_outdate, World.events_record]
    exact List.prefix_append _ _

/-! ## Commands -/

variable (r)

theorem exchangeWith_takes (x : Exchange α) (node : Node) :
    (exchangeWith r.network node x).Takes r.Step := by
  intro w
  cases hc : r.network.connect node with
  | error e => rw [exchangeWith_of_error hc]
  | ok u =>
    obtain ⟨commands, outcome, s, -, he⟩ := exchangeWith_of_ok hc x w
    rw [he]
    exact .single (.spoke w commands s hc)

theorem tryOn_takes (x : Exchange α) (asking : Bool) (node : Node) :
    (r.tryOn x asking node).Takes r.Step := by
  refine (exchangeWith_takes r _ node).bind fun result => ?_
  rcases result with e | a
  · dsimp only
    cases e.redirect? with
    | none => exact .fail _
    | some redirect => exact .value _
  · exact .value _

theorem spend_takes (node : Node) (redirect : Redirect) :
    (r.spend node redirect : Run σ ClusterError α).Takes r.Step :=
  (Run.Takes.modify fun w => Router.Step.spent w node redirect).bind fun _ => .fail _

theorem follow_takes (x : Exchange α) (left : Nat) (asking : Bool) (node : Node) :
    (r.follow x left asking node).Takes r.Step := by
  induction left generalizing asking node with
  | zero =>
    rw [Router.follow]
    refine (tryOn_takes r x asking node).bind fun attempt => ?_
    cases attempt with
    | done a => exact .value a
    | redirected redirect => exact spend_takes r node redirect
  | succ left ih =>
    rw [Router.follow]
    refine (tryOn_takes r x asking node).bind fun attempt => ?_
    cases attempt with
    | done a => exact .value a
    | redirected redirect =>
      have hheed : (r.heed node redirect).Takes r.Step := fun w => .single (.heeded w node redirect)
      have hnode := (nodeAt_takes r redirect).mono fun _ _ => Router.Step.lookup
      exact hheed.bind fun _ => hnode.bind fun target => ih redirect.ask target

theorem hold_takes (x : Exchange α) (node : Node) : (r.hold x node).Takes r.Step :=
  follow_takes r x r.maxRedirects false node

end SlotRouter
