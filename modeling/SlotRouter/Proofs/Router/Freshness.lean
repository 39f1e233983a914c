import SlotRouter.Proofs.Router.Operation

/-!
# Which snapshot is served

The cache is what the events left in it: a fetch fills it, an invalidation empties it, and nothing
else touches it.

* `Event.leaves`, `leftBy` : what an event and a log leave in the cache;
* `Heeded` : a slot that moved empties the cache right after the redirect is followed;
* `Router.Step.tracked`, `tracked_of_steps` : every step, hence every run, adds a log that explains
  the cache;
* `moved_stays_cached_iff` : when a snapshot from before a `MOVED` is still served after the call;
* `Drift` : a router that follows no redirect keeps the snapshot (`not_moved_always_uncached`).
-/

namespace SlotRouter
open Relation (ReflTransGen)

variable {σ α : Type}

/-! ## The cache and the log -/

/-- The fetch whose snapshot is served. -/
def World.cached (w : World σ) : Option Nat := w.served.map (·.serial)

/-- The event fills or empties the cache. -/
def Event.IsCacheChange : Event → Prop
  | .refreshed _ | .invalidated => True
  | _ => False

/-- What an event leaves in the cache. -/
def Event.leaves (cached : Option Nat) : Event → Option Nat
  | .refreshed serial => some serial
  | .invalidated => none
  | _ => cached

/-- What a log leaves in the cache. -/
def leftBy (log : List Event) (cached : Option Nat) : Option Nat := log.foldl Event.leaves cached

theorem leftBy_append (log log' : List Event) (cached : Option Nat) :
    leftBy (log ++ log') cached = leftBy log' (leftBy log cached) := List.foldl_append

theorem Event.leaves_of_not {e : Event} (h : ¬ e.IsCacheChange) (cached : Option Nat) :
    e.leaves cached = cached := by
  cases e with
  | refreshed serial => exact absurd trivial h
  | invalidated => exact absurd trivial h
  | acquired _ _ | received _ _ | released _ _ | redirected _ _ _ | looked => rfl

theorem leftBy_of_none {log : List Event} (h : ∀ e ∈ log, ¬ e.IsCacheChange)
    (cached : Option Nat) : leftBy log cached = cached := by
  induction log generalizing cached with
  | nil => rfl
  | cons e rest ih =>
    rw [List.forall_mem_cons] at h
    rw [leftBy, List.foldl_cons, Event.leaves_of_not h.1]
    exact ih h.2 cached

/-- If the log contains changes, the last one decides. -/
theorem none_of_leftBy {log : List Event} {cached : Option Nat} {serial : Nat}
    (h : leftBy log cached = some serial) (hserial : .refreshed serial ∉ log) :
    ∀ e ∈ log, ¬ e.IsCacheChange := by
  induction log generalizing cached with
  | nil => simp
  | cons e rest ih =>
    have hrest := ih h fun hmem => hserial (List.mem_cons_of_mem e hmem)
    refine List.forall_mem_cons.2 ⟨?_, hrest⟩
    intro he
    rw [leftBy, List.foldl_cons] at h
    have hleaves : e.leaves cached = some serial := (leftBy_of_none hrest _).symm.trans h
    cases e with
    | refreshed s =>
      obtain rfl := Option.some.inj hleaves
      exact hserial List.mem_cons_self
    | invalidated => cases hleaves
    | acquired _ _ | received _ _ | released _ _ | redirected _ _ _ | looked => exact he

theorem mem_bracket {e : Event} {node : Node} {lease : Nat} {commands : List Command}
    (h : e ∈ bracket node lease commands) :
    e = .acquired node lease ∨ (∃ command, e = .received node command) ∨
      e = .released node lease := by
  simp only [bracket, List.mem_cons, List.mem_append, List.mem_map, List.not_mem_nil, or_false] at h
  rcases h with h | ⟨command, -, h⟩ | h
  · exact .inl h
  · exact .inr (.inl ⟨command, h.symm⟩)
  · exact .inr (.inr h)

theorem leftBy_bracket (node : Node) (lease : Nat) (commands : List Command)
    (cached : Option Nat) : leftBy (bracket node lease commands) cached = cached := by
  apply leftBy_of_none
  intro e he
  rcases mem_bracket he with rfl | ⟨command, rfl⟩ | rfl <;> exact id

/-- A slot that moved empties the cache when the redirect is followed. -/
def Heeded (log : List Event) : Prop :=
  ∀ pre node redirect post, log = pre ++ .redirected node redirect true :: post →
    redirect.ask = false → .invalidated ∈ post

theorem heeded_of_forall {log : List Event} (h : ∀ e ∈ log, ∀ n rd, e ≠ .redirected n rd true) :
    Heeded log := by
  rintro pre node redirect post rfl -
  exact absurd rfl (h _ (by simp) node redirect)

theorem Heeded.append {log log' : List Event} (h : Heeded log) (h' : Heeded log') :
    Heeded (log ++ log') := by
  intro pre node redirect post hlog hask
  rcases append_eq_append_cons hlog with ⟨l, hl, rfl⟩ | ⟨l, -, hl⟩
  · exact List.mem_append_left log' (h pre node redirect l hl hask)
  · exact h' l node redirect post hl hask

/-! ## Steps and runs -/

/-- The log that the second world has more than the first explains its cache. -/
structure Tracked (w w' : World σ) (log : List Event) : Prop where
  events : w'.events = w.events ++ log
  cached : w'.cached = leftBy log w.cached
  heeded : Heeded log

theorem Tracked.refl (w : World σ) : Tracked w w [] where
  events := by simp
  cached := rfl
  heeded := heeded_of_forall (by simp)

theorem Tracked.trans {u v w : World σ} {log log' : List Event} (h : Tracked u v log)
    (h' : Tracked v w log') : Tracked u w (log ++ log') where
  events := by rw [h'.events, h.events, List.append_assoc]
  cached := by rw [h'.cached, h.cached, leftBy_append]
  heeded := h.heeded.append h'.heeded

theorem World.tracked_lease (w : World σ) (node : Node) (commands : List Command) (s : σ) :
    Tracked w (w.lease node commands s) (bracket node w.nextLease commands) where
  events := w.events_lease node commands s
  cached := (leftBy_bracket node w.nextLease commands w.cached).symm
  heeded := by
    refine heeded_of_forall fun e he n rd => ?_
    rcases mem_bracket he with rfl | ⟨command, rfl⟩ | rfl <;> simp

theorem World.tracked_record (w : World σ) {e : Event} (h : ¬ e.IsCacheChange)
    (hne : ∀ n rd, e ≠ .redirected n rd true) : Tracked w (w.record e) [e] where
  events := w.events_record e
  cached := (Event.leaves_of_not h w.cached).symm
  heeded := heeded_of_forall (by simpa using hne)

theorem World.cached_outdate (w : World σ) : w.outdate.cached = none := by
  cases hw : w.snapshot <;>
    simp [World.cached, World.served, World.outdate, World.record, Snapshot.stale, hw]

theorem World.tracked_outdate (w : World σ) : Tracked w w.outdate [.invalidated] where
  events := w.events_outdate
  cached := w.cached_outdate
  heeded := heeded_of_forall (by simp)

theorem World.tracked_adopt (w : World σ) {s : Snapshot} (h : s.fresh) :
    Tracked w (w.adopt s) [.refreshed s.serial] where
  events := w.events_adopt s
  cached := by
    have hserved : (w.adopt s).served = some s := by
      simp [World.served, World.adopt, Option.filter, h]
    rw [World.cached, hserved]
    rfl
  heeded := heeded_of_forall (by simp)

section Steps

variable {r : Router σ} {seeds : List Node} {w w' : World σ}

theorem World.tracked_heed_ask (w : World σ) (r : Router σ) (node : Node) {redirect : Redirect}
    (h : redirect.ask = true) :
    Tracked w (r.heed node redirect w).2 [.redirected node redirect true] where
  events := by rw [heed_of_ask r h, World.events_record]
  cached := by
    rw [heed_of_ask r h]
    rfl
  heeded := by
    intro pre n rd post hlog hask
    have hmem : Event.redirected n rd true ∈ [Event.redirected node redirect true] := by
      rw [hlog]
      exact List.mem_append_right pre List.mem_cons_self
    obtain ⟨-, rfl, -⟩ := Event.redirected.inj (List.mem_singleton.1 hmem)
    rw [h] at hask
    cases hask

theorem World.tracked_heed_moved (w : World σ) (hr : r.source = .discovered seeds .keep)
    (node : Node) {redirect : Redirect} (h : redirect.ask = false) :
    Tracked w (r.heed node redirect w).2 [.redirected node redirect true, .invalidated] where
  events := by
    rw [heed_of_moved r hr h, World.events_outdate, World.events_record, List.append_assoc]
    rfl
  cached := by
    rw [heed_of_moved r hr h, World.cached_outdate]
    rfl
  heeded := by
    intro pre n rd post hlog _
    cases pre with
    | nil =>
      obtain ⟨-, rfl⟩ := List.cons.inj hlog
      exact List.mem_cons_self
    | cons e pre =>
      obtain ⟨-, hrest⟩ := List.cons.inj hlog
      cases pre with
      | nil => simp at hrest
      | cons e' pre => simp at hrest

theorem Router.Lookup.tracked (hr : r.source = .discovered seeds .keep) (h : r.Lookup w w') :
    ∃ log, Tracked w w' log := by
  cases h with
  | asked w nodes _ => exact ⟨_, w.tracked_lease _ _ nodes⟩
  | dismissed node redirect _ => exact ⟨_, w.tracked_record id (by simp)⟩
  | @refreshed seeds' caching t _ hr' _ =>
    rw [hr] at hr'
    obtain ⟨-, rfl⟩ := Source.discovered.inj hr'
    exact ⟨_, w.tracked_adopt (by simp)⟩
  | outdated w _ => exact ⟨_, w.tracked_outdate⟩
  | supplied w _ => exact ⟨_, w.tracked_record id (by simp)⟩

theorem Router.Step.tracked (hr : r.source = .discovered seeds .keep) (h : r.Step w w') :
    ∃ log, Tracked w w' log := by
  cases h with
  | lookup h => exact h.tracked hr
  | spoke w commands nodes _ => exact ⟨_, w.tracked_lease _ commands nodes⟩
  | spent w node redirect => exact ⟨_, w.tracked_record id (by simp)⟩
  | heeded w node redirect =>
    cases hask : redirect.ask with
    | true => exact ⟨_, w.tracked_heed_ask r node hask⟩
    | false => exact ⟨_, w.tracked_heed_moved hr node hask⟩

theorem tracked_of_steps (hr : r.source = .discovered seeds .keep) (h : ReflTransGen r.Step w w') :
    ∃ log, Tracked w w' log := by
  induction h with
  | refl => exact ⟨[], .refl w⟩
  | tail _ hstep ih =>
    obtain ⟨log, hlog⟩ := ih
    obtain ⟨log', hlog'⟩ := hstep.tracked hr
    exact ⟨log ++ log', hlog.trans hlog'⟩

end Steps

/-! ## After a call -/

/-- A fetch leaves its snapshot in the cache. -/
theorem served_of_refresh {net : Network σ} {seeds : List Node} {w w' : World σ} {s : Snapshot}
    (h : refresh net seeds .keep w = (.ok s, w')) : w'.served = some s := by
  rw [refresh, Run.bind_read] at h
  rcases hf : (fetchFirst net (nodesToAsk seeds w.snapshot)).mapError retrievalFailure w
    with ⟨e | t, v⟩
  · rw [Run.bind_of_error hf] at h
    cases h
  · rw [Run.bind_of_ok hf] at h
    cases h
    simp [World.served, World.adopt, Option.filter]

/-- The next look at the topology asks nobody exactly if the cache has its snapshot. -/
theorem snapshot_unchanged_iff {r : Router σ} {seeds : List Node}
    (hr : r.source = .discovered seeds .keep) {w : World σ} {s : Snapshot} :
    r.snapshot w = (.ok s, w) ↔ w.served = some s := by
  rw [Router.snapshot, hr]
  dsimp only
  rw [Run.bind_read]
  cases hw : w.served with
  | some served =>
    constructor
    · intro h
      cases h
      rfl
    · intro h
      cases h
      rfl
  | none =>
    constructor
    · intro h
      rw [← hw]
      exact served_of_refresh h
    · intro h
      cases h

/-- After a call during which a slot moved, a snapshot from before the `MOVED` is served without
asking again exactly if the `MOVED` came when no redirect was left, a snapshot was cached, and
nothing later in the call changed the cache. -/
theorem moved_stays_cached_iff {r : Router σ} {seeds : List Node}
    (hr : r.source = .discovered seeds .keep) (op : Operation α) (w : World σ)
    {pre post : List Event} {node : Node} {redirect : Redirect} {followed : Bool}
    (hlog : (op.run r w).2.events = w.events ++ (pre ++ .redirected node redirect followed :: post))
    (hmoved : redirect.ask = false) :
    (∃ s, r.snapshot (op.run r w).2 = (.ok s, (op.run r w).2) ∧ .refreshed s.serial ∉ post) ↔
      followed = false ∧ (leftBy pre w.cached).isSome ∧ ∀ e ∈ post, ¬ e.IsCacheChange := by
  obtain ⟨log, htracked⟩ := tracked_of_steps hr (op.run_takes r w)
  obtain rfl := List.append_cancel_left (htracked.events.symm.trans hlog)
  have hcached : (op.run r w).2.cached = leftBy post (leftBy pre w.cached) := by
    rw [htracked.cached, leftBy_append]
    rfl
  constructor
  · rintro ⟨s, hs, hserial⟩
    have hserved : (op.run r w).2.cached = some s.serial := by
      rw [World.cached, (snapshot_unchanged_iff hr).1 hs]
      rfl
    rw [hcached] at hserved
    have hpost := none_of_leftBy hserved hserial
    refine ⟨?_, ?_, hpost⟩
    · cases followed with
      | false => rfl
      | true =>
        -- the invalidation right after it would be a change
        exact absurd trivial (hpost _ (htracked.heeded pre node redirect post rfl hmoved))
    · rw [leftBy_of_none hpost] at hserved
      rw [hserved]
      rfl
  · rintro ⟨-, hsome, hpost⟩
    rw [leftBy_of_none hpost] at hcached
    obtain ⟨s, hs⟩ : ∃ s, (op.run r w).2.served = some s := by
      rw [← hcached, World.cached, Option.isSome_map] at hsome
      exact Option.isSome_iff_exists.1 hsome
    exact ⟨s, (snapshot_unchanged_iff hr).2 hs, fun hmem => hpost _ hmem trivial⟩

/-! ## A router that gives up at once -/

namespace Drift

/-- One master owns all slots. -/
def report : String := "a 10.0.0.1:1 master - 0 0 1 connected 0-16383"

def moved : Redirect := ⟨false, 7629, "10.0.0.1", 2⟩

/-- The master gives the report, but answers everything else with a `MOVED` to a second one. -/
def network : Network Unit where
  connect _ := .ok ()
  answer _ _ command :=
    if command = nodesCommand then (.reply (.ok (.simple report)), ())
    else (.reply (.error (.described .moved "" (some "7629 10.0.0.1:2"))), ())

def router : Router Unit where
  source := .discovered [.ofAddress "10.0.0.1" 1] .keep
  network := network
  maxRedirects := 0

/-- The report is known. -/
def learned : World Unit := (Operation.topology.run router { nodes := () }).2

def get : Operation String := .get [0x6b] Decode.string

def master : Node where
  host := "10.0.0.1"
  port := 1
  id := some "a"
  role := some .master
  flags := [.master]
  link := some .connected
  slots := ⟨[⟨0, 16383⟩], by decide, by decide, by decide, trivial⟩

/-- The lease on which the command is redirected. -/
def lease : List Event := bracket master 1 [.withArgs ["GET"] [[0x6b]]]

theorem events_get : (get.run router learned).2.events =
    learned.events ++ (lease ++ .redirected master moved false :: []) := by
  decide +kernel

end Drift

/-- The topology that led to the wrong node is served again. -/
theorem moved_stays_cached_drift :
    ∃ s, Drift.router.snapshot (Drift.get.run Drift.router Drift.learned).2 =
      (.ok s, (Drift.get.run Drift.router Drift.learned).2) ∧
        .refreshed s.serial ∉ ([] : List Event) :=
  (moved_stays_cached_iff rfl Drift.get Drift.learned Drift.events_get rfl).2
    ⟨rfl, by decide +kernel, by simp⟩

/-- So a `MOVED` does not always make the snapshot stale. -/
theorem not_moved_always_uncached :
    ¬ ∀ (r : Router Unit) (seeds : List Node), r.source = .discovered seeds .keep →
      ∀ (op : Operation String) (w : World Unit) (pre post : List Event) (node : Node)
        (redirect : Redirect) (followed : Bool),
        (op.run r w).2.events = w.events ++ (pre ++ .redirected node redirect followed :: post) →
        redirect.ask = false →
        ∀ s, r.snapshot (op.run r w).2 = (.ok s, (op.run r w).2) → .refreshed s.serial ∈ post := by
  intro h
  obtain ⟨s, hs⟩ : ∃ s, (Drift.get.run Drift.router Drift.learned).2.served = some s :=
    Option.isSome_iff_exists.1 (by decide +kernel)
  have hmem := h Drift.router _ rfl Drift.get Drift.learned Drift.lease [] Drift.master
    Drift.moved false Drift.events_get rfl s ((snapshot_unchanged_iff rfl).2 hs)
  cases hmem

end SlotRouter
