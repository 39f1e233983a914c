import SlotRouter.Proofs.Router.SlotMasters
import SlotRouter.Proofs.Slot.ChecksumRemainder

/-!
# The tag of a key decides its slot

* `HasTag t key` : the key has the tag `t`, between the first opening brace and the first closing
  brace after it;
* `Untagged key` : the three ways in which a key has no tag (`untagged_iff`);
* `hashTag?_eq_some_iff`, `hashTag?_eq_none_iff` : what is found of a tag;
* `hash_tag_law` : the slot of a key is that of its tag, or else that of all its bytes.
-/

namespace SlotRouter
open Polynomial

/-- The first opening brace is followed by the tag, and the tag by the first closing brace after
it. -/
inductive HasTag (t : Bytes) : Bytes → Prop
  | mk {before after} : 0x7b ∉ before → t ≠ [] → 0x7d ∉ t →
      HasTag t (before ++ 0x7b :: (t ++ 0x7d :: after))

/-- There is no opening brace, no closing brace after the first one, or nothing between them. -/
inductive Untagged : Bytes → Prop
  | unopened {key : Bytes} : 0x7b ∉ key → Untagged key
  | unclosed {before after} : 0x7b ∉ before → 0x7d ∉ after → Untagged (before ++ 0x7b :: after)
  | empty {before after} : 0x7b ∉ before → Untagged (before ++ 0x7b :: 0x7d :: after)

section Tag

variable {t key : Bytes}

theorem hashTag?_of_hasTag (h : HasTag t key) : hashTag? key = some t := by
  cases h with
  | mk hopen hne hclose =>
    rw [hashTag?, Text.cutFirst_append _ hopen]
    simp [Text.cutFirst_append _ hclose, hne]

theorem hashTag?_of_untagged (h : Untagged key) : hashTag? key = none := by
  cases h with
  | unopened hopen =>
    rw [hashTag?, Text.cutFirst_eq_none_iff.2 hopen]
    rfl
  | unclosed hopen hclose =>
    rw [hashTag?, Text.cutFirst_append _ hopen]
    simp [Text.cutFirst_eq_none_iff.2 hclose]
  | empty hopen =>
    rw [hashTag?, Text.cutFirst_append _ hopen]
    rfl

/-- Every key has a tag or has none for one of the three reasons. -/
theorem hasTag_or_untagged (key : Bytes) : (∃ t, HasTag t key) ∨ Untagged key := by
  cases hopen : Text.cutFirst 0x7b key with
  | none => exact .inr (.unopened (Text.cutFirst_eq_none_iff.1 hopen))
  | some opened =>
    obtain ⟨rfl, hbefore⟩ := Text.eq_of_cutFirst hopen
    cases hclose : Text.cutFirst 0x7d opened.2 with
    | none => exact .inr (.unclosed hbefore (Text.cutFirst_eq_none_iff.1 hclose))
    | some closed =>
      obtain ⟨hafter, htag⟩ := Text.eq_of_cutFirst hclose
      rw [hafter]
      by_cases hne : closed.1 = []
      · rw [hne]
        exact .inr (.empty hbefore)
      · exact .inl ⟨closed.1, .mk hbefore hne htag⟩

theorem hashTag?_eq_some_iff : hashTag? key = some t ↔ HasTag t key := by
  refine ⟨fun hfound => ?_, hashTag?_of_hasTag⟩
  rcases hasTag_or_untagged key with ⟨t', ht'⟩ | huntagged
  · rw [hashTag?_of_hasTag ht'] at hfound
    rwa [← Option.some.inj hfound]
  · rw [hashTag?_of_untagged huntagged] at hfound
    cases hfound

theorem hashTag?_eq_none_iff : hashTag? key = none ↔ Untagged key := by
  refine ⟨fun hnone => ?_, hashTag?_of_untagged⟩
  refine (hasTag_or_untagged key).resolve_left ?_
  rintro ⟨t, ht⟩
  rw [hashTag?_of_hasTag ht] at hnone
  cases hnone

theorem untagged_iff : Untagged key ↔ ∀ t, ¬ HasTag t key := by
  simp only [← hashTag?_eq_none_iff, ← hashTag?_eq_some_iff, Option.eq_none_iff_forall_ne_some]

theorem keySlot_of_untagged (h : Untagged key) :
    keySlot key = (checksum key).toNat % slotCount := by
  rw [keySlot, hashTag?_of_untagged h]
  rfl

/-- A tag has no tag itself, as there is no closing brace in it. -/
theorem HasTag.untagged (h : HasTag t key) : Untagged t := by
  cases h with
  | mk _ _ hclose =>
    refine (hasTag_or_untagged t).resolve_left ?_
    rintro ⟨t', ⟨_, _, _⟩⟩
    exact hclose (by simp)

theorem keySlot_of_hasTag (h : HasTag t key) : keySlot key = keySlot t := by
  rw [keySlot_of_untagged h.untagged, keySlot, hashTag?_of_hasTag h]
  rfl

theorem sameSlot_of_hasTag {keys : List Bytes} (h : ∀ key ∈ keys, HasTag t key) :
    SameSlot keys := by
  cases keys with
  | nil => trivial
  | cons first rest =>
    obtain ⟨hfirst, hrest⟩ := List.forall_mem_cons.1 h
    intro other hother
    rw [keySlot_of_hasTag hfirst, keySlot_of_hasTag (hrest other hother)]

end Tag

/-- How keys map to slots. -/
structure HashTagLaw : Prop where
  tagged : ∀ {t key}, HasTag t key →
    keySlot key = keySlot t ∧ keySlot t = (checksum t).toNat % slotCount
  untagged : ∀ {key}, (∀ t, ¬ HasTag t key) → keySlot key = (checksum key).toNat % slotCount
  untagged_iff : ∀ {key}, (∀ t, ¬ HasTag t key) ↔ Untagged key
  /-- The checksum is the remainder modulo `X ^ 16 + X ^ 12 + X ^ 5 + 1`, from zero on. -/
  remainder : ∀ bytes,
    toPoly (checksum bytes).toNat = (X ^ 16 * messagePoly bytes) %ₘ checksumDivisor
  bounded : ∀ key, keySlot key < slotCount
  same : ∀ {t key key'}, HasTag t key → HasTag t key' → SameSlot [key, key']
  common : ∀ {t keys}, keys ≠ [] → (∀ key ∈ keys, HasTag t key) →
    commonSlot keys = .ok (keySlot t)

theorem hash_tag_law : HashTagLaw where
  tagged h := ⟨keySlot_of_hasTag h, keySlot_of_untagged h.untagged⟩
  untagged h := keySlot_of_untagged (untagged_iff.2 h)
  untagged_iff := untagged_iff.symm
  remainder := checksum_remainder
  bounded := keySlot_lt
  same h h' := sameSlot_of_hasTag (List.forall_mem_cons.2 ⟨h, List.forall_mem_singleton.2 h'⟩)
  common := by
    intro t keys hne h
    obtain ⟨first, hfirst⟩ := List.exists_mem_of_ne_nil keys hne
    rw [commonSlot_of_mem (sameSlot_of_hasTag h) hfirst, keySlot_of_hasTag (h first hfirst)]

/-! Keys with an opening brace in their tag. -/

namespace Braced

def tag : Bytes := bytesOf "\x7bbar"

def keys : List Bytes := ["foo\x7b\x7bbar\x7d\x7dzap", "\x7d\x7b\x7bbar\x7d"].map bytesOf

theorem hasTag : ∀ key ∈ keys, HasTag tag key := by
  simp only [← hashTag?_eq_some_iff]
  decide +kernel

end Braced

theorem hash_tag_law_braced : (∀ key ∈ Braced.keys, HasTag Braced.tag key) ∧
    commonSlot Braced.keys = .ok (keySlot Braced.tag) :=
  ⟨Braced.hasTag, hash_tag_law.common (List.cons_ne_nil _ _) Braced.hasTag⟩

end SlotRouter
