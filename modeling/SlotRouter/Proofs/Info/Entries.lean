import Mathlib.Data.List.Nodup
import SlotRouter.Info

/-!
# The entries of a map from names to texts

* `Properties.names`, `Properties.Distinct` : the names of a map, and that each stands once;
* `ofList_distinct` : it does so in every map that was built from a list;
* `ofList_of_nodup` : entries with different names become a map as they are;
* `get?_eq_some_iff`, `get?_of_perm` : what is read from a map is an entry of it, in whichever order
  its entries stand;
* `get?_ofList` : of several entries with a name the last one counts;
* `ColonFree`, `readInfo_colonFree` : no name that a node reports holds a colon.
-/

namespace SlotRouter

theorem map_fst_putEntry (name value : String) (entries : List (String × String)) :
    (putEntry name value entries).map (·.1) =
      if name ∈ entries.map (·.1) then entries.map (·.1) else entries.map (·.1) ++ [name] := by
  induction entries with
  | nil => rfl
  | cons entry rest ih =>
    obtain ⟨n, v⟩ := entry
    by_cases hn : n = name
    · simp [putEntry, hn]
    · have hmem : name ∈ ((n, v) :: rest).map (·.1) ↔ name ∈ rest.map (·.1) := by
        simp [Ne.symm hn]
      rw [putEntry, if_neg hn, List.map_cons, ih]
      simp only [hmem]
      split <;> rfl

theorem putEntry_of_notMem {name value : String} {entries : List (String × String)}
    (h : name ∉ entries.map (·.1)) : putEntry name value entries = entries ++ [(name, value)] := by
  induction entries with
  | nil => rfl
  | cons entry rest ih =>
    obtain ⟨hne, hrest⟩ := List.ne_and_not_mem_of_not_mem_cons h
    rw [putEntry, if_neg (Ne.symm hne), ih hrest]
    rfl

namespace Properties

variable {p : Properties} {name value : String} {entries : List (String × String)}

/-- The names of a map. -/
def names (p : Properties) : List String := p.entries.map (·.1)

/-- Each name stands once. -/
def Distinct (p : Properties) : Prop := p.names.Nodup

theorem names_put (p : Properties) (name value : String) :
    (p.put name value).names = if name ∈ p.names then p.names else p.names ++ [name] :=
  map_fst_putEntry name value p.entries

theorem put_distinct (h : p.Distinct) (name value : String) : (p.put name value).Distinct := by
  unfold Distinct
  rw [names_put]
  split
  · exact h
  · next hname =>
    apply List.Nodup.append h (List.nodup_singleton name)
    rw [List.disjoint_singleton]
    exact hname

/-- Puts entries one after the other. -/
def putAll (p : Properties) (entries : List (String × String)) : Properties :=
  entries.foldl (fun p (name, value) => p.put name value) p

theorem putAll_cons (p : Properties) (name value : String) (rest : List (String × String)) :
    p.putAll ((name, value) :: rest) = (p.put name value).putAll rest := rfl

theorem ofList_eq_putAll (entries : List (String × String)) :
    ofList entries = empty.putAll entries := rfl

theorem putAll_distinct (h : p.Distinct) (entries : List (String × String)) :
    (p.putAll entries).Distinct := by
  induction entries generalizing p with
  | nil => exact h
  | cons entry rest ih => exact ih (put_distinct h entry.1 entry.2)

theorem ofList_distinct (entries : List (String × String)) : (ofList entries).Distinct := by
  have hempty : empty.Distinct := List.nodup_nil
  exact putAll_distinct hempty entries

/-- New names are added at the end. -/
theorem putAll_of_nodup (h : (p.names ++ entries.map (·.1)).Nodup) :
    p.putAll entries = ⟨p.entries ++ entries⟩ := by
  induction entries generalizing p with
  | nil => rw [List.append_nil]; rfl
  | cons entry rest ih =>
    obtain ⟨name, value⟩ := entry
    rw [List.map_cons, List.append_cons] at h
    have hname : name ∉ p.names := by
      intro hmem
      have hp : (p.names ++ [name]).Nodup := (List.nodup_append.1 h).1
      exact (List.nodup_append.1 hp).2.2 name hmem name List.mem_cons_self rfl
    have hput : p.put name value = ⟨p.entries ++ [(name, value)]⟩ :=
      congrArg Properties.mk (putEntry_of_notMem hname)
    have hnames : (p.put name value).names = p.names ++ [name] := by
      rw [names_put, if_neg hname]
    rw [putAll_cons, ih (by rw [hnames]; exact h), hput, ← List.append_cons]

theorem ofList_of_nodup (h : (entries.map (·.1)).Nodup) : ofList entries = ⟨entries⟩ := by
  rw [ofList_eq_putAll]
  exact putAll_of_nodup h

theorem get?_eq_some_iff (h : p.Distinct) :
    p.get? name = some value ↔ (name, value) ∈ p.entries := by
  obtain ⟨entries⟩ := p
  unfold Distinct names at h
  unfold get?
  dsimp only at h ⊢
  induction entries with
  | nil => simp
  | cons entry rest ih =>
    obtain ⟨n, v⟩ := entry
    obtain ⟨hn, hrest⟩ := List.nodup_cons.1 h
    by_cases hname : name = n
    · subst hname
      have hvalue : (name, value) ∉ rest := fun hmem => hn (List.mem_map.2 ⟨_, hmem, rfl⟩)
      simp [hvalue, eq_comm]
    · have hbeq : (name == n) = false := by simp [hname]
      simp [List.lookup_cons, hbeq, hname, ih hrest]

/-- The order of the entries does not show. -/
theorem get?_of_perm {q : Properties} (h : p.Distinct) (hperm : p.entries.Perm q.entries)
    (name : String) : p.get? name = q.get? name := by
  have hq : q.Distinct := (hperm.map _).nodup h
  apply Option.ext
  intro value
  rw [get?_eq_some_iff h, get?_eq_some_iff hq, hperm.mem_iff]

/-- What was put last counts. -/
theorem get?_putAll (p : Properties) (entries : List (String × String)) (name : String) :
    (p.putAll entries).get? name = (entries.reverse.lookup name).or (p.get? name) := by
  induction entries generalizing p with
  | nil => rfl
  | cons entry rest ih =>
    obtain ⟨n, v⟩ := entry
    have hput : (p.put n v).get? name = ([(n, v)].lookup name).or (p.get? name) := by
      rw [get?_put]
      by_cases hname : name = n
      · simp [hname]
      · have hbeq : (name == n) = false := by simp [hname]
        simp [List.lookup_cons, hbeq, hname]
    rw [putAll_cons, ih, hput, List.reverse_cons, List.lookup_append, Option.or_assoc]

theorem get?_ofList (entries : List (String × String)) (name : String) :
    (ofList entries).get? name = entries.reverse.lookup name := by
  rw [ofList_eq_putAll, get?_putAll, get?_empty, Option.or_none]

theorem mem_names_putAll (h : name ∈ (p.putAll entries).names) :
    name ∈ p.names ∨ name ∈ entries.map (·.1) := by
  induction entries generalizing p with
  | nil => exact .inl h
  | cons entry rest ih =>
    obtain ⟨n, v⟩ := entry
    rw [List.map_cons, List.mem_cons]
    rcases ih h with hput | hrest
    · rw [names_put] at hput
      split at hput
      · exact .inl hput
      · rcases List.mem_append.1 hput with hp | hname
        · exact .inl hp
        · exact .inr (.inl (List.mem_singleton.1 hname))
    · exact .inr (.inr hrest)

theorem mem_names_ofList (h : name ∈ (ofList entries).names) : name ∈ entries.map (·.1) := by
  rw [ofList_eq_putAll] at h
  exact (mem_names_putAll h).resolve_left List.not_mem_nil

/-- No name holds a colon. -/
def ColonFree (p : Properties) : Prop := ∀ name ∈ p.names, ':' ∉ name.toList

end Properties

theorem colon_notMem_readProperty {line : List Char} {name value : String}
    (h : readProperty line = some (name, value)) : ':' ∉ name.toList := by
  unfold readProperty at h
  split at h
  · cases h
  · obtain ⟨⟨before, after⟩, hcut, heq⟩ := Option.map_eq_some_iff.1 h
    obtain ⟨rfl, rfl⟩ := Prod.mk.inj heq
    rw [String.toList_ofList]
    exact (Text.eq_of_cutFirst hcut).2

theorem readInfo_distinct (text : String) : (readInfo text).Distinct :=
  Properties.ofList_distinct _

/-- The name of a property ends before the first colon of its line. -/
theorem readInfo_colonFree (text : String) : (readInfo text).ColonFree := by
  intro name hname
  obtain ⟨⟨n, value⟩, hentry, rfl⟩ := List.mem_map.1 (Properties.mem_names_ofList hname)
  obtain ⟨line, -, hread⟩ := List.mem_filterMap.1 hentry
  exact colon_notMem_readProperty hread

end SlotRouter
