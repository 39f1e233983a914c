/-!
# Named values

A map from names to texts. Each name stands once; putting a name again changes its value.

* `Properties.put`, `ofList`, `get?`, `size`;
* `get?_put`: what is put is found, and nothing else changes.
-/

namespace SlotRouter

/-- Replaces the value of a name, or adds the name at the end. -/
def putEntry (name value : String) : List (String × String) → List (String × String)
  | [] => [(name, value)]
  | (n, v) :: rest => if n = name then (name, value) :: rest else (n, v) :: putEntry name value rest

/-- A map from names to texts. -/
structure Properties where
  entries : List (String × String)
  deriving DecidableEq, Repr

namespace Properties

/-- The map without names. -/
def empty : Properties := ⟨[]⟩

instance : Inhabited Properties := ⟨empty⟩

def put (p : Properties) (name value : String) : Properties := ⟨putEntry name value p.entries⟩

/-- The map of a list of entries; of several entries for a name the last one counts. -/
def ofList (entries : List (String × String)) : Properties :=
  entries.foldl (fun p (name, value) => p.put name value) empty

def get? (p : Properties) (name : String) : Option String := p.entries.lookup name

def size (p : Properties) : Nat := p.entries.length

theorem get?_empty (name : String) : empty.get? name = none := rfl

theorem get?_put (p : Properties) (name value other : String) :
    (p.put name value).get? other = if other = name then some value else p.get? other := by
  obtain ⟨entries⟩ := p
  simp only [put, get?]
  induction entries with
  | nil => by_cases h : other = name <;> simp [putEntry, h]
  | cons entry rest ih =>
    obtain ⟨n, v⟩ := entry
    by_cases hn : n = name
    · subst hn
      by_cases h : other = n
      · simp [putEntry, h]
      · have hf : (other == n) = false := by simp [h]
        simp [putEntry, List.lookup_cons, hf, h]
    · by_cases h : other = n
      · simp [putEntry, hn, h]
      · have hf : (other == n) = false := by simp [h]
        simp only [putEntry, hn, if_false, List.lookup_cons, hf, ih]

end Properties

end SlotRouter
