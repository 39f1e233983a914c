import SlotRouter.Client
import SlotRouter.Proofs.Topology.Candidates

/-!
# Seeds that agree on credentials

A seed may give no credentials, but those that are given must not differ from each other or from
what the caller sets.

* `Agree` : no two named credentials differ; `NamedLate` : the first seed gives none, so that one
  that a later seed gives counts as different;
* `all_fit_iff` : when all seeds fit what was chosen; `chosen_eq_some_iff` : what was chosen then;
* `nodesOf_eq_ok_iff` : when seeds give nodes, and which (by induction on the seeds);
* `Consistent` : what is asked of seeds, in whatever order they stand (`Consistent.perm`);
* `Decided` : what becomes of seeds (`client_of_seeds`);
* `lateSeeds` : seeds that agree, and are refused (`not_succeeds_iff_consistent`).
-/

namespace SlotRouter.Client

/-! ## One credential -/

/-- No two of the named credentials differ. -/
def Agree (credentials : List (Option String)) : Prop :=
  ∀ x y, some x ∈ credentials → some y ∈ credentials → x = y

/-- Neither the caller nor the first seed names a credential, but another seed does. -/
def NamedLate (explicit : Option String) (given : List (Option String)) : Prop :=
  explicit = none ∧ given.head? = some none ∧ ∃ x, some x ∈ given

section Credential

variable {explicit first : Option String} {rest : List (Option String)} {x : String}

theorem not_differs_iff {given chosen : Option String} :
    ¬ Differs given chosen ↔ ∀ x, given = some x → chosen = some x := by
  unfold Differs
  cases given <;> simp [eq_comm]

theorem mem_of_chosen (h : explicit.or first = some x) : some x ∈ explicit :: first :: rest := by
  rcases Option.or_eq_some_iff.1 h with rfl | ⟨-, rfl⟩
  · exact List.mem_cons_self
  · exact List.mem_cons_of_mem _ List.mem_cons_self

theorem chosen_of_mem (hagree : Agree (explicit :: first :: rest))
    (hlate : ¬ NamedLate explicit (first :: rest)) (h : some x ∈ explicit :: first :: rest) :
    explicit.or first = some x := by
  cases hchosen : explicit.or first with
  | some y => rw [hagree y x (mem_of_chosen hchosen) h]
  | none =>
    obtain ⟨rfl, rfl⟩ := Option.or_eq_none_iff.1 hchosen
    have hgiven : some x ∈ none :: rest := List.mem_of_ne_of_mem (by simp) h
    exact absurd ⟨rfl, rfl, x, hgiven⟩ hlate

theorem chosen_eq_some_iff (hagree : Agree (explicit :: first :: rest))
    (hlate : ¬ NamedLate explicit (first :: rest)) :
    explicit.or first = some x ↔ some x ∈ explicit :: first :: rest :=
  ⟨mem_of_chosen, chosen_of_mem hagree hlate⟩

/-- Every seed fits the credential of the caller, or else of the first seed. -/
theorem all_fit_iff : (∀ given ∈ first :: rest, ¬ Differs given (explicit.or first)) ↔
    Agree (explicit :: first :: rest) ∧ ¬ NamedLate explicit (first :: rest) := by
  constructor
  · intro hfit
    have hnamed : ∀ x, some x ∈ explicit :: first :: rest → explicit.or first = some x := by
      intro x hx
      rcases List.mem_cons.1 hx with rfl | hgiven
      · rfl
      · exact not_differs_iff.1 (hfit _ hgiven) x rfl
    constructor
    · intro x y hx hy
      exact Option.some.inj ((hnamed x hx).symm.trans (hnamed y hy))
    · rintro ⟨rfl, hfirst, x, hx⟩
      have hchosen := hnamed x (List.mem_cons_of_mem _ hx)
      rw [Option.none_or, Option.some.inj hfirst] at hchosen
      cases hchosen
  · rintro ⟨hagree, hlate⟩ given hgiven
    rw [not_differs_iff]
    rintro x rfl
    exact chosen_of_mem hagree hlate (List.mem_cons_of_mem _ hgiven)

end Credential

/-! ## The nodes of seeds -/

/-- The node of a seed with a TCP address. -/
def tcpNode? (seed : Seed) : Option Node :=
  match seed.address with
  | .tcp host port => some (.ofAddress host port)
  | _ => none

/-- The seed may be used with the chosen credentials. -/
structure Fits (username password : Option String) (seed : Seed) : Prop where
  password : ¬ Differs seed.password password
  username : ¬ Differs seed.username username
  tcp : (tcpNode? seed).isSome = true

section Nodes

variable {username password : Option String} {seed : Seed} {seeds : List Seed} {n : Node}

theorem nodeOf_eq (username password : Option String) (seed : Seed) :
    nodeOf username password seed =
      if Differs seed.password password then .error (.cause .passwordsDiffer)
      else if Differs seed.username username then .error (.cause .usernamesDiffer)
      else (tcpNode? seed).elim (.error (.cause (.notTcp seed.address.text))) .ok := by
  unfold nodeOf tcpNode?
  cases seed.address <;> rfl

theorem nodeOf_cases (username password : Option String) (seed : Seed) :
    (∃ n, nodeOf username password seed = .ok n ∧ tcpNode? seed = some n ∧
      Fits username password seed) ∨
    ∃ e, nodeOf username password seed = .error e ∧ e.kind = .illegalArgument ∧
      ¬ Fits username password seed := by
  rw [nodeOf_eq]
  split
  · next hpassword => exact .inr ⟨_, rfl, rfl, fun hfits => hfits.password hpassword⟩
  · next hpassword =>
    split
    · next husername => exact .inr ⟨_, rfl, rfl, fun hfits => hfits.username husername⟩
    · next husername =>
      cases hnode : tcpNode? seed with
      | some n => exact .inl ⟨n, rfl, rfl, hpassword, husername, by rw [hnode]; rfl⟩
      | none =>
        refine .inr ⟨_, rfl, rfl, fun hfits => ?_⟩
        have htcp := hfits.tcp
        rw [hnode] at htcp
        cases htcp

/-- Either all seeds fit and their nodes are added, or the first that does not decides. -/
theorem nodesOf_cases (username password : Option String) (known : List Node) (seeds : List Seed) :
    (nodesOf username password known seeds = .ok ((seeds.filterMap tcpNode?).foldl addNode known) ∧
      ∀ seed ∈ seeds, Fits username password seed) ∨
    ∃ e, nodesOf username password known seeds = .error e ∧ e.kind = .illegalArgument ∧
      ¬ ∀ seed ∈ seeds, Fits username password seed := by
  induction seeds generalizing known with
  | nil => exact .inl ⟨rfl, List.forall_mem_nil _⟩
  | cons seed rest ih =>
    rw [nodesOf, List.forall_mem_cons]
    rcases nodeOf_cases username password seed with ⟨n, hn, hnode, hfits⟩ | ⟨e, he, hkind, hnot⟩
    · rw [hn, List.filterMap_cons_some hnode, List.foldl_cons]
      dsimp only
      rcases ih (addNode known n) with ⟨hnodes, hrest⟩ | ⟨e, he, hkind, hnot⟩
      · exact .inl ⟨hnodes, hfits, hrest⟩
      · exact .inr ⟨e, he, hkind, fun hall => hnot hall.2⟩
    · rw [he]
      exact .inr ⟨e, rfl, hkind, fun hall => hnot hall.1⟩

theorem isSome_tcpNode?_iff :
    (tcpNode? seed).isSome = true ↔ ∃ host port, seed.address = .tcp host port := by
  unfold tcpNode?
  cases seed.address <;> simp

end Nodes

/-! ## All seeds -/

/-- What is asked of seeds, in whatever order they stand. -/
structure Consistent (seeds : List Seed) (username password : Option String) : Prop where
  nonempty : seeds ≠ []
  tcp : ∀ seed ∈ seeds, ∃ host port, seed.address = .tcp host port
  passwords : Agree (password :: seeds.map (·.password))
  usernames : Agree (username :: seeds.map (·.username))

/-- A credential is named late. -/
def SomeNamedLate (seeds : List Seed) (username password : Option String) : Prop :=
  NamedLate password (seeds.map (·.password)) ∨ NamedLate username (seeds.map (·.username))

/-- The client of seeds has the credentials that somebody names and the nodes of the seeds. -/
structure IsClientOf (seeds : List Seed) (username password : Option String) (c : Client) : Prop
    where
  username_iff : ∀ x, c.username = some x ↔ some x ∈ username :: seeds.map (·.username)
  password_iff : ∀ x, c.password = some x ↔ some x ∈ password :: seeds.map (·.password)
  nodes : c.nodes = keepFirst (seeds.filterMap tcpNode?)

/-- What becomes of seeds, and of the URLs that they are read from. -/
structure Decided (seeds : List Seed) (username password : Option String)
    (outcome : Except ClusterError Client) : Prop where
  fromUrls : ∀ urls, seedsOf urls = .ok seeds → ofUrls urls username password = outcome
  succeeds_iff : (∃ c, outcome = .ok c) ↔
    Consistent seeds username password ∧ ¬ SomeNamedLate seeds username password
  client : ∀ c, outcome = .ok c → IsClientOf seeds username password c
  /-- If the seeds are accepted in another order, then also in this one and with the same
  credentials, unless a credential is named late. -/
  reordered : ∀ seeds' c', seeds'.Perm seeds → ofSeeds seeds' username password = .ok c' →
    SomeNamedLate seeds username password ∨
      ∃ c, outcome = .ok c ∧ c.username = c'.username ∧ c.password = c'.password
  kind : ∀ e, outcome = .error e → e.kind = .illegalArgument

section Seeds

variable {username password : Option String} {seeds seeds' : List Seed} {first : Seed}
  {rest : List Seed} {c : Client}

theorem Agree.perm {credentials credentials' : List (Option String)}
    (h : credentials.Perm credentials') (hagree : Agree credentials) : Agree credentials' :=
  fun x y hx hy => hagree x y (h.mem_iff.2 hx) (h.mem_iff.2 hy)

theorem Consistent.perm (h : seeds.Perm seeds') (hc : Consistent seeds username password) :
    Consistent seeds' username password where
  nonempty := by
    rintro rfl
    exact hc.nonempty h.eq_nil
  tcp := fun seed hseed => hc.tcp seed (h.mem_iff.2 hseed)
  passwords := hc.passwords.perm ((h.map _).cons _)
  usernames := hc.usernames.perm ((h.map _).cons _)

theorem all_seeds_fit_iff :
    (∀ seed ∈ first :: rest,
      Fits (username.or first.username) (password.or first.password) seed) ↔
    Consistent (first :: rest) username password ∧
      ¬ SomeNamedLate (first :: rest) username password := by
  have hpasswords := @all_fit_iff password first.password (rest.map (·.password))
  have husernames := @all_fit_iff username first.username (rest.map (·.username))
  rw [← List.map_cons (f := fun seed : Seed => seed.password), List.forall_mem_map] at hpasswords
  rw [← List.map_cons (f := fun seed : Seed => seed.username), List.forall_mem_map] at husernames
  constructor
  · intro hfits
    obtain ⟨hagree, hlate⟩ := hpasswords.1 fun seed hseed => (hfits seed hseed).password
    obtain ⟨hagree', hlate'⟩ := husernames.1 fun seed hseed => (hfits seed hseed).username
    have htcp : ∀ seed ∈ first :: rest, ∃ host port, seed.address = .tcp host port :=
      fun seed hseed => isSome_tcpNode?_iff.1 (hfits seed hseed).tcp
    exact ⟨⟨List.cons_ne_nil _ _, htcp, hagree, hagree'⟩, not_or.2 ⟨hlate, hlate'⟩⟩
  · rintro ⟨hc, hlate⟩ seed hseed
    obtain ⟨hlate, hlate'⟩ := not_or.1 hlate
    exact ⟨hpasswords.2 ⟨hc.passwords, hlate⟩ seed hseed,
      husernames.2 ⟨hc.usernames, hlate'⟩ seed hseed, isSome_tcpNode?_iff.2 (hc.tcp seed hseed)⟩

theorem ofSeeds_accepted (hc : Consistent seeds username password)
    (hlate : ¬ SomeNamedLate seeds username password) :
    ∃ c, ofSeeds seeds username password = .ok c ∧ IsClientOf seeds username password c := by
  cases seeds with
  | nil => exact absurd rfl hc.nonempty
  | cons first rest =>
    have hfits := all_seeds_fit_iff.2 ⟨hc, hlate⟩
    obtain ⟨hpassword, husername⟩ := not_or.1 hlate
    rcases nodesOf_cases (username.or first.username) (password.or first.password) []
        (first :: rest) with ⟨hnodes, -⟩ | ⟨e, -, -, hnot⟩
    · rw [foldl_addNode, List.nil_append, newNodes_nil] at hnodes
      rw [ofSeeds, hnodes]
      exact ⟨_, rfl, fun x => chosen_eq_some_iff hc.usernames husername,
        fun x => chosen_eq_some_iff hc.passwords hpassword, rfl⟩
    · exact absurd hfits hnot

theorem ofSeeds_refused
    (h : ¬ (Consistent seeds username password ∧ ¬ SomeNamedLate seeds username password)) :
    ∃ e, ofSeeds seeds username password = .error e ∧ e.kind = .illegalArgument := by
  cases seeds with
  | nil => exact ⟨_, rfl, rfl⟩
  | cons first rest =>
    rw [← all_seeds_fit_iff] at h
    rcases nodesOf_cases (username.or first.username) (password.or first.password) []
        (first :: rest) with ⟨-, hfits⟩ | ⟨e, he, hkind, -⟩
    · exact absurd hfits h
    · rw [ofSeeds, he]
      exact ⟨e, rfl, hkind⟩

theorem ofSeeds_ok_iff : (∃ c, ofSeeds seeds username password = .ok c) ↔
    Consistent seeds username password ∧ ¬ SomeNamedLate seeds username password := by
  constructor
  · rintro ⟨c, hok⟩
    by_cases h : Consistent seeds username password ∧ ¬ SomeNamedLate seeds username password
    · exact h
    · obtain ⟨e, he, -⟩ := ofSeeds_refused h
      rw [he] at hok
      cases hok
  · rintro ⟨hc, hlate⟩
    obtain ⟨c, hok, -⟩ := ofSeeds_accepted hc hlate
    exact ⟨c, hok⟩

theorem isClientOf_of_ok (hok : ofSeeds seeds username password = .ok c) :
    IsClientOf seeds username password c := by
  obtain ⟨hc, hlate⟩ := ofSeeds_ok_iff.1 ⟨c, hok⟩
  obtain ⟨c', hok', hclient⟩ := ofSeeds_accepted hc hlate
  rw [hok] at hok'
  cases hok'
  exact hclient

theorem IsClientOf.same_credentials {c' : Client} (hperm : seeds'.Perm seeds)
    (h : IsClientOf seeds username password c) (h' : IsClientOf seeds' username password c') :
    c.username = c'.username ∧ c.password = c'.password := by
  constructor
  · apply Option.ext
    intro x
    rw [h.username_iff, h'.username_iff]
    exact ((hperm.map _).cons _).mem_iff.symm
  · apply Option.ext
    intro x
    rw [h.password_iff, h'.password_iff]
    exact ((hperm.map _).cons _).mem_iff.symm

end Seeds

/-- Seeds give a client exactly if they are consistent and name no credential late. -/
theorem client_of_seeds (seeds : List Seed) (username password : Option String) :
    Decided seeds username password (ofSeeds seeds username password) where
  fromUrls := by
    intro urls hurls
    rw [ofUrls, hurls]
  succeeds_iff := ofSeeds_ok_iff
  client := fun c hok => isClientOf_of_ok hok
  reordered := by
    intro seeds' c' hperm hok'
    by_cases hlate : SomeNamedLate seeds username password
    · exact .inl hlate
    · obtain ⟨hc', -⟩ := ofSeeds_ok_iff.1 ⟨c', hok'⟩
      obtain ⟨c, hok, hclient⟩ := ofSeeds_accepted (hc'.perm hperm) hlate
      exact .inr ⟨c, hok, hclient.same_credentials hperm (isClientOf_of_ok hok')⟩
  kind := by
    intro e he
    have hrefused : ¬ (Consistent seeds username password ∧
        ¬ SomeNamedLate seeds username password) := by
      intro h
      obtain ⟨c, hok⟩ := ofSeeds_ok_iff.2 h
      rw [he] at hok
      cases hok
    obtain ⟨e', he', hkind⟩ := ofSeeds_refused hrefused
    rw [he] at he'
    cases he'
    exact hkind

/-- The second seed is the only one that names a password. -/
def lateSeeds : List Seed :=
  [⟨.tcp "127.0.0.1" 7000, none, none⟩, ⟨.tcp "127.0.0.1" 7001, none, some "secret"⟩]

theorem lateSeeds_consistent : Consistent lateSeeds none none where
  nonempty := List.cons_ne_nil _ _
  tcp := by simp [lateSeeds]
  passwords := by
    have honly : ∀ x, some x ∈ none :: lateSeeds.map (·.password) → x = "secret" := by
      simp [lateSeeds]
    intro x y hx hy
    rw [honly x hx, honly y hy]
  usernames := by
    have hnone : ∀ x, some x ∉ none :: lateSeeds.map (·.username) := by simp [lateSeeds]
    intro x y hx
    exact absurd hx (hnone x)

/-- Seeds that agree on all credentials may be refused. -/
theorem not_succeeds_iff_consistent :
    ¬ ∀ seeds username password, (∃ c, ofSeeds seeds username password = .ok c) ↔
      Consistent seeds username password := by
  intro h
  obtain ⟨c, hok⟩ := (h lateSeeds none none).2 lateSeeds_consistent
  have hrefused : (ofSeeds lateSeeds none none).toOption = none := by decide +kernel
  rw [hok] at hrefused
  cases hrefused

/-- In the other order they are accepted. -/
example : (ofSeeds lateSeeds.reverse none none).toOption.isSome = true := by decide +kernel

end SlotRouter.Client
