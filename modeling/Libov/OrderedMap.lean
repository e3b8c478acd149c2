/-
# Ordered maps

A map kept as a list of entries in the order of their keys.  The order is part
of the type, so a key has at most one entry and the list of entries is
determined by the map.  `ne` is the comparison that walks along two maps at once
with a comparison of the values of its own; it need not be the negation of
equality.
-/
import Mathlib

variable {κ ν : Type}

/-- Entries in strictly increasing order of their keys. -/
structure OrderedMap (κ ν : Type) [LinearOrder κ] where
  /-- The entries. -/
  entries : List (κ × ν)
  /-- Their keys increase. -/
  sorted : entries.Pairwise (fun a b => a.1 < b.1)

namespace OrderedMap

variable [LinearOrder κ]

/-- A map is known from its entries. -/
@[ext] theorem ext {a b : OrderedMap κ ν} (h : a.entries = b.entries) : a = b := by
  cases a
  cases b
  cases h
  rfl

instance [DecidableEq ν] : DecidableEq (OrderedMap κ ν) := fun _ _ =>
  decidable_of_iff _ ⟨ext, congrArg entries⟩

/-! ## Operations -/

/-- No entries. -/
def empty : OrderedMap κ ν := ⟨[], List.Pairwise.nil⟩

/-- The number of entries. -/
def size (m : OrderedMap κ ν) : ℕ := m.entries.length

/-- The value under a key. -/
def find? (m : OrderedMap κ ν) (k : κ) : Option ν :=
  (m.entries.find? fun e => e.1 = k).map Prod.snd

/-- Whether the key has an entry. -/
def contains (m : OrderedMap κ ν) (k : κ) : Bool := (m.find? k).isSome

/-- Put an entry in its place; an entry of the same key is replaced. -/
def insertEntry (k : κ) (v : ν) : List (κ × ν) → List (κ × ν)
  | [] => [(k, v)]
  | e :: es =>
      if k < e.1 then (k, v) :: e :: es
      else if k = e.1 then (k, v) :: es
      else e :: insertEntry k v es

/-- Behind an insertion there are the new entry and old ones. -/
theorem mem_insertEntry {k : κ} {v : ν} {e : κ × ν} {es : List (κ × ν)}
    (h : e ∈ insertEntry k v es) : e = (k, v) ∨ e ∈ es := by
  induction es with
  | nil =>
      rw [insertEntry, List.mem_singleton] at h
      exact Or.inl h
  | cons a es ih =>
      rw [insertEntry] at h
      split at h
      · rcases List.mem_cons.1 h with h | h
        · exact Or.inl h
        · exact Or.inr h
      · split at h
        · rcases List.mem_cons.1 h with h | h
          · exact Or.inl h
          · exact Or.inr (List.mem_cons_of_mem _ h)
        · rcases List.mem_cons.1 h with h | h
          · exact Or.inr (h ▸ List.mem_cons_self)
          · rcases ih h with h | h
            · exact Or.inl h
            · exact Or.inr (List.mem_cons_of_mem _ h)

/-- An insertion keeps the order of the keys. -/
theorem sorted_insertEntry (k : κ) (v : ν) {es : List (κ × ν)}
    (h : es.Pairwise (fun a b => a.1 < b.1)) :
    (insertEntry k v es).Pairwise (fun a b => a.1 < b.1) := by
  induction es with
  | nil => exact List.pairwise_singleton _ _
  | cons a es ih =>
      obtain ⟨ha, hes⟩ := List.pairwise_cons.1 h
      rw [insertEntry]
      split
      · rename_i hlt
        refine List.pairwise_cons.2 ⟨?_, h⟩
        intro b hb
        rcases List.mem_cons.1 hb with hb | hb
        · rw [hb]; exact hlt
        · exact lt_trans hlt (ha b hb)
      · split
        · rename_i heq
          refine List.pairwise_cons.2 ⟨?_, hes⟩
          intro b hb
          show k < b.1
          rw [heq]
          exact ha b hb
        · rename_i hlt hne
          refine List.pairwise_cons.2 ⟨?_, ih hes⟩
          intro b hb
          rcases mem_insertEntry hb with hb | hb
          · rw [hb]; exact lt_of_le_of_ne (not_lt.1 hlt) (Ne.symm hne)
          · exact ha b hb

/-- Assign a value to a key. -/
def insert (m : OrderedMap κ ν) (k : κ) (v : ν) : OrderedMap κ ν :=
  ⟨insertEntry k v m.entries, sorted_insertEntry k v m.sorted⟩

/-- Drop the entry of a key. -/
def erase (m : OrderedMap κ ν) (k : κ) : OrderedMap κ ν :=
  ⟨m.entries.filter fun e => e.1 ≠ k, m.sorted.filter _⟩

/-- What an access by key does to a map that adds missing keys. -/
def touch (m : OrderedMap κ ν) (k : κ) (default : ν) : OrderedMap κ ν :=
  if m.contains k then m else m.insert k default

/-! ## Sizes -/

/-- A key is missing if no entry has it. -/
theorem contains_eq_false_iff {m : OrderedMap κ ν} {k : κ} :
    m.contains k = false ↔ ∀ e ∈ m.entries, e.1 ≠ k := by
  rw [contains, find?, Option.isSome_map, Option.isSome_eq_false_iff,
    Option.isNone_iff_eq_none, List.find?_eq_none]
  simp only [decide_eq_true_eq]

/-- A new key makes one entry more. -/
theorem length_insertEntry {k : κ} (v : ν) {es : List (κ × ν)} (h : ∀ e ∈ es, e.1 ≠ k) :
    (insertEntry k v es).length = es.length + 1 := by
  induction es with
  | nil => rfl
  | cons a es ih =>
      have ha : ¬ k = a.1 := fun heq => h a List.mem_cons_self heq.symm
      rw [insertEntry, if_neg ha]
      split
      · rfl
      · rw [List.length_cons, List.length_cons,
          ih fun e he => h e (List.mem_cons_of_mem _ he)]

/-- A key that is there is not written again. -/
theorem touch_of_contains {m : OrderedMap κ ν} {k : κ} (h : m.contains k = true) (d : ν) :
    m.touch k d = m := if_pos h

/-- An access under a missing key makes the map larger. -/
theorem size_touch {m : OrderedMap κ ν} {k : κ} (h : m.contains k = false) (d : ν) :
    (m.touch k d).size = m.size + 1 := by
  rw [touch, h, if_neg Bool.false_ne_true]
  exact length_insertEntry d (contains_eq_false_iff.1 h)

/-- Touching a key does not make a map smaller. -/
theorem size_le_touch (m : OrderedMap κ ν) (k : κ) (d : ν) : m.size ≤ (m.touch k d).size := by
  cases h : m.contains k with
  | true => rw [touch_of_contains h]
  | false => rw [size_touch h]; omega

/-! ## Entries -/

/-- What is found under a key is an entry. -/
theorem mem_entries_of_find? {m : OrderedMap κ ν} {k : κ} {v : ν} (h : m.find? k = some v) :
    (k, v) ∈ m.entries := by
  rw [find?, Option.map_eq_some_iff] at h
  obtain ⟨e, he, rfl⟩ := h
  have hk : e.1 = k := by simpa only [decide_eq_true_eq] using List.find?_some he
  rw [← hk]
  exact List.mem_of_find?_eq_some he

/-- An insertion leaves the entries with other keys. -/
theorem mem_insertEntry_of_ne {k : κ} {v : ν} {e : κ × ν} {es : List (κ × ν)} (he : e ∈ es)
    (hk : e.1 ≠ k) : e ∈ insertEntry k v es := by
  induction es with
  | nil => cases he
  | cons a es ih =>
      rw [insertEntry]
      split
      · exact List.mem_cons_of_mem _ he
      · split
        · rename_i hak
          rcases List.mem_cons.1 he with he | he
          · rw [he] at hk
            exact absurd hak.symm hk
          · exact List.mem_cons_of_mem _ he
        · rcases List.mem_cons.1 he with he | he
          · rw [he]
            exact List.mem_cons_self
          · exact List.mem_cons_of_mem _ (ih he)

/-- An access by key keeps the entries. -/
theorem mem_touch {m : OrderedMap κ ν} {e : κ × ν} (he : e ∈ m.entries) (k : κ) (d : ν) :
    e ∈ (m.touch k d).entries := by
  cases h : m.contains k with
  | true => rwa [touch_of_contains h]
  | false =>
      rw [touch, h, if_neg Bool.false_ne_true]
      exact mem_insertEntry_of_ne he (contains_eq_false_iff.1 h e he)

/-! ## Values by key -/

section Lookup

variable [BEq κ] [LawfulBEq κ] {k k' : κ} {v : ν} {es new : List (κ × ν)}

/-- The entry in front is looked up first. -/
theorem lookup_cons (e : κ × ν) (es : List (κ × ν)) :
    (e :: es).lookup k' = if k' = e.1 then some e.2 else es.lookup k' := by
  rw [List.lookup_cons]
  by_cases hk : k' = e.1
  · rw [if_pos hk, beq_iff_eq.mpr hk]
  · rw [if_neg hk, beq_eq_false_iff_ne.mpr hk]

omit [LinearOrder κ] in
/-- A key that is not there is not found. -/
theorem lookup_eq_none (h : k ∉ es.map Prod.fst) : es.lookup k = none := by
  rw [List.lookup_eq_none_iff]
  intro e he
  rw [bne_iff_ne]
  intro heq
  exact h (heq ▸ List.mem_map_of_mem he)

/-- The value of a key behind an assignment. -/
theorem lookup_insertEntry :
    (insertEntry k v es).lookup k' = if k' = k then some v else es.lookup k' := by
  induction es with
  | nil => exact lookup_cons (k, v) []
  | cons e es ih =>
      rw [insertEntry]
      by_cases hlt : k < e.1
      · rw [if_pos hlt, lookup_cons]
      · rw [if_neg hlt]
        by_cases heq : k = e.1
        · rw [if_pos heq, lookup_cons, lookup_cons, ← heq]
          by_cases hk : k' = k
          · rw [if_pos hk, if_pos hk]
          · rw [if_neg hk, if_neg hk, if_neg hk]
        · rw [if_neg heq, lookup_cons, lookup_cons, ih]
          by_cases hk : k' = k
          · rw [if_pos hk, if_neg (hk ▸ heq), if_pos hk]
          · rw [if_neg hk, if_neg hk]

omit [LinearOrder κ] in
/-- What is looked up in a list is in the list. -/
theorem mem_of_lookup (hv : es.lookup k = some v) : (k, v) ∈ es := by
  obtain ⟨front, back, rfl, -⟩ := List.lookup_eq_some_iff.mp hv
  simp

/-- Assigning the value that is there. -/
theorem insertEntry_of_lookup (hsorted : es.Pairwise fun a b => a.1 < b.1)
    (hv : es.lookup k = some v) : insertEntry k v es = es := by
  induction es with
  | nil => cases hv
  | cons e es ih =>
      obtain ⟨he, hes⟩ := List.pairwise_cons.mp hsorted
      rw [lookup_cons] at hv
      rw [insertEntry]
      by_cases hk : k = e.1
      · rw [if_pos hk, Option.some.injEq] at hv
        rw [if_neg (hk ▸ lt_irrefl _), if_pos hk, hk, ← hv]
      · -- the entry stands further behind
        rw [if_neg hk] at hv
        have hmem := mem_of_lookup hv
        rw [if_neg (not_lt.mpr (he _ hmem).le), if_neg hk, ih hes hv]

/-- An entry is found by its key, if the keys are different. -/
theorem lookup_of_mem {e : κ × ν} (hkeys : (es.map Prod.fst).Nodup) (hmem : e ∈ es) :
    es.lookup e.1 = some e.2 := by
  induction es with
  | nil => cases hmem
  | cons a es ih =>
      obtain ⟨ha, hes⟩ := List.nodup_cons.mp hkeys
      rw [lookup_cons]
      rcases List.mem_cons.mp hmem with rfl | hmem
      · exact if_pos rfl
      · have hne : e.1 ≠ a.1 := fun heq => ha (heq ▸ List.mem_map_of_mem hmem)
        rw [if_neg hne]
        exact ih hes hmem

end Lookup

/-- No key has two entries. -/
theorem nodup_keys (m : OrderedMap κ ν) : (m.entries.map Prod.fst).Nodup := by
  have hlt : (m.entries.map Prod.fst).Pairwise (· < ·) := List.pairwise_map.mpr m.sorted
  exact hlt.imp fun hab => ne_of_lt hab

/-- Finding a key is looking it up in the entries. -/
theorem find?_eq_lookup [BEq κ] [LawfulBEq κ] (m : OrderedMap κ ν) (k : κ) :
    m.find? k = m.entries.lookup k := by
  rw [find?]
  induction m.entries with
  | nil => rfl
  | cons e es ih =>
      rw [lookup_cons, List.find?_cons]
      by_cases hk : k = e.1
      · rw [if_pos hk, decide_eq_true hk.symm]
        rfl
      · rw [if_neg hk, decide_eq_false (Ne.symm hk)]
        exact ih

/-- The value of a key behind an assignment to a map. -/
theorem find?_insert [BEq κ] [LawfulBEq κ] (m : OrderedMap κ ν) (k k' : κ) (v : ν) :
    (m.insert k v).find? k' = if k' = k then some v else m.find? k' := by
  rw [find?_eq_lookup, find?_eq_lookup]
  exact lookup_insertEntry

/-- The value that an access by key reads. -/
theorem find?_touch [BEq κ] [LawfulBEq κ] (m : OrderedMap κ ν) (k : κ) (d : ν) :
    (m.touch k d).find? k = some ((m.find? k).getD d) := by
  cases h : m.find? k with
  | none =>
      have hcontains : m.contains k = false := by
        rw [contains, h]
        rfl
      rw [touch, hcontains, if_neg Bool.false_ne_true, find?_insert, if_pos rfl]
      rfl
  | some v =>
      have hcontains : m.contains k = true := by
        rw [contains, h]
        rfl
      rw [touch_of_contains hcontains, h]
      rfl

/-- An access under a missing key changes the map. -/
theorem touch_ne {m : OrderedMap κ ν} {k : κ} (h : m.find? k = none) (d : ν) : m.touch k d ≠ m := by
  intro heq
  have hsize := size_touch (m := m) (k := k) (by rw [contains, h]; rfl) d
  rw [heq] at hsize
  omega

/-! ## Comparing two maps -/

/-- The maps differ in size, in a key, or in a value by the comparison given. -/
def ne (neq : ν → ν → Bool) (a b : OrderedMap κ ν) : Bool :=
  a.size != b.size ||
    (a.entries.zip b.entries).any fun p => p.1.1 != p.2.1 || neq p.1.2 p.2.2

/-- Maps of different sizes differ. -/
theorem ne_of_size {neq : ν → ν → Bool} {a b : OrderedMap κ ν} (h : a.size ≠ b.size) :
    ne neq a b = true := by
  rw [ne, bne_iff_ne.2 h, Bool.true_or]

/-- A map does not differ from itself if its values do not. -/
theorem ne_self {neq : ν → ν → Bool} (h : ∀ v, neq v v = false) (m : OrderedMap κ ν) :
    ne neq m m = false := by
  rw [ne, bne_self_eq_false, Bool.false_or, List.any_eq_false]
  intro p hp
  rw [List.zip_eq_zipWith, List.zipWith_self, List.mem_map] at hp
  obtain ⟨e, -, rfl⟩ := hp
  rw [bne_self_eq_false, h, Bool.or_false]
  exact Bool.false_ne_true

end OrderedMap
