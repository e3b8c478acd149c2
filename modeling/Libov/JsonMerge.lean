/-
# What `json_merge` computes

`json_merge` writes the members of an object over those of another one; where both have an object
under a key, these two are merged.

* `mergeMembers_ok` : the loop, as one new value for each key;
* `json_merge_deep_iff` : for which objects the result is the deep merge;
* `json_merge_idempotent` : merging the same object again changes nothing.
-/
import Libov.OvTools

namespace Libov

open OrderedMap

/-! ## Objects -/

/-- The objects in a value keep their members in the order of the keys, as the library does. -/
inductive Json.Ordered : Json → Prop
  | null : Ordered .null
  | bool (b : Bool) : Ordered (.bool b)
  | int (i : ℤ) : Ordered (.int i)
  | float (q : ℚ) : Ordered (.float q)
  | str (s : String) : Ordered (.str s)
  | arr {xs : List Json} (elements : ∀ x ∈ xs, Ordered x) : Ordered (.arr xs)
  | obj {es : List (String × Json)} (sorted : es.Pairwise fun a b => a.1 < b.1)
      (members : ∀ e ∈ es, Ordered e.2) : Ordered (.obj es)

theorem Json.Ordered.sorted {es : List (String × Json)} (h : (Json.obj es).Ordered) :
    es.Pairwise fun a b => a.1 < b.1 := by
  cases h with
  | obj sorted _ => exact sorted

theorem Json.Ordered.members {es : List (String × Json)} (h : (Json.obj es).Ordered) :
    ∀ e ∈ es, e.2.Ordered := by
  cases h with
  | obj _ members => exact members

theorem Json.Ordered.keys {es : List (String × Json)} (h : (Json.obj es).Ordered) :
    (es.map Prod.fst).Nodup :=
  (OrderedMap.mk es h.sorted).nodup_keys

theorem Json.Ordered.lookup {es : List (String × Json)} (h : (Json.obj es).Ordered) {key : String}
    {v : Json} (hv : es.lookup key = some v) : v.Ordered :=
  h.members (key, v) (mem_of_lookup hv)

/-- An induction over the objects inside of an object. -/
theorem Json.members_induction {P : List (String × Json) → Prop}
    (h : ∀ es, (∀ key members, (key, Json.obj members) ∈ es → P members) → P es) (es) : P es := by
  refine h es fun key members hmem => ?_
  have hsize : sizeOf members < sizeOf es := by
    have hlt := List.sizeOf_lt_of_mem hmem
    simp only [Prod.mk.sizeOf_spec, Json.obj.sizeOf_spec] at hlt
    omega
  exact members_induction h members
termination_by sizeOf es

/-! ## The loop -/

/-- The value that the loop of `json_merge` puts under a key, by the value that is there. -/
def mergeValue (old : Option Json) : Json → Except JsonError Json
  | .obj es =>
      if (old.getD .null).isNull then pure (.obj es)
      else mergeMembers (old.getD .null) (old.getD .null) es
  | v => pure v

/-- A turn of the loop, with the value of `lhs` still there. -/
theorem mergeMembers_cons {ls js : List (String × Json)} {key : String} {v : Json}
    {rest : List (String × Json)} (hold : js.lookup key = ls.lookup key) :
    mergeMembers (.obj ls) (.obj js) ((key, v) :: rest) = (do
      let new ← mergeValue (ls.lookup key) v
      mergeMembers (.obj ls) (.obj (insertEntry key new js)) rest) := by
  cases v with
  | obj es =>
      rw [mergeMembers, mergeValue]
      show (if ((js.lookup key).getD Json.null).isNull then
          mergeMembers (.obj ls) (.obj (insertEntry key (.obj es) js)) rest
        else do
          let new ← mergeMembers (Json.member (.obj ls) key) (Json.member (.obj ls) key) es
          mergeMembers (.obj ls) (.obj (insertEntry key new js)) rest) = _
      rw [hold]
      split_ifs
      · rfl
      · rfl
  | _ => rfl

/-- The loop puts one new value under each key and keeps the other members. -/
theorem mergeMembers_ok {ls js es : List (String × Json)} {j : Json}
    (hkeys : (es.map Prod.fst).Nodup) (hold : ∀ e ∈ es, js.lookup e.1 = ls.lookup e.1)
    (hj : mergeMembers (.obj ls) (.obj js) es = .ok j) :
    ∃ ks, j = .obj ks
      ∧ (js.Pairwise (fun a b => a.1 < b.1) → ks.Pairwise fun a b => a.1 < b.1)
      ∧ (∀ key, es.lookup key = none → ks.lookup key = js.lookup key)
      ∧ ∀ key v, es.lookup key = some v →
          ∃ new, mergeValue (ls.lookup key) v = .ok new ∧ ks.lookup key = some new := by
  induction es generalizing js with
  | nil =>
      cases hj
      exact ⟨js, rfl, id, fun _ _ => rfl, fun _ _ hv => by cases hv⟩
  | cons e es ih =>
      obtain ⟨he, hes⟩ := List.nodup_cons.mp hkeys
      rw [mergeMembers_cons (hold e List.mem_cons_self)] at hj
      cases hnew : mergeValue (ls.lookup e.1) e.2 with
      | error err =>
          rw [hnew] at hj
          cases hj
      | ok new =>
          rw [hnew] at hj
          have hne : ∀ e' ∈ es, e'.1 ≠ e.1 := fun e' he' heq =>
            he (heq ▸ List.mem_map_of_mem he')
          have hrest : ∀ e' ∈ es, (insertEntry e.1 new js).lookup e'.1 = ls.lookup e'.1 := by
            intro e' he'
            rw [lookup_insertEntry, if_neg (hne e' he')]
            exact hold e' (List.mem_cons_of_mem _ he')
          obtain ⟨ks, rfl, hsorted, hkept, hgiven⟩ := ih hes hrest hj
          refine ⟨ks, rfl, fun h => hsorted (sorted_insertEntry _ _ h), ?_, ?_⟩
          · intro key hkey
            rw [lookup_cons] at hkey
            split_ifs at hkey with hk
            rw [hkept key hkey, lookup_insertEntry, if_neg hk]
          · intro key v hv
            rw [lookup_cons] at hv
            split_ifs at hv with hk
            · -- the members behind this one have other keys
              have hnone : es.lookup key = none := lookup_eq_none (hk ▸ he)
              cases hv
              rw [hk, hnew]
              refine ⟨new, rfl, ?_⟩
              rw [← hk, hkept key hnone, lookup_insertEntry, if_pos hk]
            · exact hgiven key v hv

/-- The loop comes to its end if there is a new value for each key. -/
theorem mergeMembers_total {ls js es : List (String × Json)} (hkeys : (es.map Prod.fst).Nodup)
    (hold : ∀ e ∈ es, js.lookup e.1 = ls.lookup e.1)
    (hnew : ∀ e ∈ es, ∃ new, mergeValue (ls.lookup e.1) e.2 = .ok new) :
    ∃ j, mergeMembers (.obj ls) (.obj js) es = .ok j := by
  induction es generalizing js with
  | nil => exact ⟨.obj js, rfl⟩
  | cons e es ih =>
      obtain ⟨he, hes⟩ := List.nodup_cons.mp hkeys
      obtain ⟨new, hv⟩ := hnew e List.mem_cons_self
      rw [mergeMembers_cons (hold e List.mem_cons_self), hv]
      apply ih hes
      · intro e' he'
        have hne : e'.1 ≠ e.1 := fun heq => he (heq ▸ List.mem_map_of_mem he')
        rw [lookup_insertEntry, if_neg hne]
        exact hold e' (List.mem_cons_of_mem _ he')
      · exact fun e' he' => hnew e' (List.mem_cons_of_mem _ he')

/-- A member that is neither null nor an object takes the members of an object only if there are
none. -/
theorem mergeMembers_of_value {x : Json} {es : List (String × Json)} {j : Json}
    (hnull : x.isNull = false) (hobj : x.isObject = false)
    (hj : mergeMembers x x es = .ok j) : es = [] ∧ j = x := by
  cases es with
  | nil =>
      cases hj
      exact ⟨rfl, rfl⟩
  | cons e es =>
      -- the subscript of the first turn throws
      obtain ⟨key, v⟩ := e
      cases x with
      | null => cases hnull
      | obj ls => cases hobj
      | _ => cases v with
        | _ => cases hj

/-! ## The deep merge -/

/-- The deep merge under one key, by the values that stand under it on the left, on the right and in
the result. -/
inductive DeepMerge : Option Json → Option Json → Option Json → Prop
  /-- A key only on the left keeps its value. -/
  | kept (old : Option Json) : DeepMerge old none old
  /-- Of two objects every key is merged. -/
  | merged {ls rs js : List (String × Json)}
      (members : ∀ key, DeepMerge (ls.lookup key) (rs.lookup key) (js.lookup key)) :
      DeepMerge (some (.obj ls)) (some (.obj rs)) (some (.obj js))
  /-- Any other key has the value from the right. -/
  | given (old : Option Json) (v : Json) (hdiff : (old.any Json.isObject && v.isObject) = false) :
      DeepMerge old (some v) (some v)

/-- The value that a path of keys leads to. -/
def Json.at? : List String → Json → Option Json
  | [], j => some j
  | key :: path, j => (j.find? key).bind (Json.at? path)

/-- Where the right side has an object, the left one has nothing, null or an object. -/
def NoClash (ls rs : List (String × Json)) : Prop :=
  ∀ path es, (Json.obj rs).at? path = some (.obj es) →
    ∀ old, (Json.obj ls).at? path = some old → old.isNull = true ∨ old.isObject = true

theorem noClash_iff {ls rs : List (String × Json)} :
    NoClash ls rs ↔ ∀ key r, rs.lookup key = some (.obj r) → ∀ old, ls.lookup key = some old →
      old.isNull = true ∨ ∃ l, old = .obj l ∧ NoClash l r := by
  constructor
  · intro h key r hr old hold
    have hstep : ∀ path es, (Json.obj r).at? path = some (.obj es) → ∀ o, old.at? path = some o →
        o.isNull = true ∨ o.isObject = true := by
      intro path es hes o ho
      apply h (key :: path) es
      · show (rs.lookup key).bind _ = _
        rw [hr]
        exact hes
      · show (ls.lookup key).bind _ = _
        rw [hold]
        exact ho
    rcases hstep [] r rfl old rfl with hnull | hobj
    · exact Or.inl hnull
    · cases old with
      | obj l => exact Or.inr ⟨l, rfl, hstep⟩
      | _ => cases hobj
  · intro h path es hes old hold
    cases path with
    | nil =>
        cases hold
        exact Or.inr rfl
    | cons key path =>
        obtain ⟨v, hv, hpath⟩ := Option.bind_eq_some_iff.mp hes
        obtain ⟨o, ho, hopath⟩ := Option.bind_eq_some_iff.mp hold
        cases v with
        | obj r =>
            rcases h key r hv o ho with hnull | ⟨l, rfl, hl⟩
            · cases path with
              | nil =>
                  cases hopath
                  exact Or.inl hnull
              | cons k path =>
                  -- there is nothing below null
                  cases o with
                  | null => cases hopath
                  | _ => cases hnull
            · exact hl path es hpath old hopath
        | _ =>
            cases path with
            | nil => cases hpath
            | cons k path => cases hpath

theorem NoClash.total {rs : List (String × Json)} : ∀ ls, (Json.obj rs).Ordered → NoClash ls rs →
    ∃ j, mergeMembers (.obj ls) (.obj ls) rs = .ok j := by
  induction rs using Json.members_induction with
  | h rs ih =>
      intro ls hrs hno
      apply mergeMembers_total hrs.keys fun _ _ => rfl
      rintro ⟨key, v⟩ hmem
      cases v with
      | obj r =>
          cases hold : ls.lookup key with
          | none => exact ⟨.obj r, rfl⟩
          | some old =>
              have hr := lookup_of_mem hrs.keys hmem
              rcases noClash_iff.mp hno key r hr old hold with hnull | ⟨l, rfl, hl⟩
              · exact ⟨.obj r, if_pos hnull⟩
              · exact ih key r hmem l (hrs.members _ hmem) hl
      | _ => exact ⟨_, rfl⟩

/-- Without a clash the result is the deep merge. -/
theorem NoClash.deepMerge {rs : List (String × Json)} : ∀ ls j, (Json.obj rs).Ordered →
    NoClash ls rs → mergeMembers (.obj ls) (.obj ls) rs = .ok j →
    DeepMerge (some (.obj ls)) (some (.obj rs)) (some j) := by
  induction rs using Json.members_induction with
  | h rs ih =>
      intro ls j hrs hno hj
      obtain ⟨js, rfl, -, hkept, hgiven⟩ := mergeMembers_ok hrs.keys (fun _ _ => rfl) hj
      apply DeepMerge.merged
      intro key
      cases hv : rs.lookup key with
      | none =>
          rw [hkept key hv]
          exact DeepMerge.kept _
      | some v =>
          obtain ⟨new, hnew, hjs⟩ := hgiven key v hv
          rw [hjs]
          cases v with
          | obj r =>
              cases hold : ls.lookup key with
              | none =>
                  rw [hold] at hnew
                  cases hnew
                  exact DeepMerge.given _ _ rfl
              | some old =>
                  rw [hold] at hnew
                  rcases noClash_iff.mp hno key r hv old hold with hnull | ⟨l, rfl, hl⟩
                  · cases old with
                    | null =>
                        cases hnew
                        exact DeepMerge.given _ _ rfl
                    | _ => cases hnull
                  · have hmem := mem_of_lookup hv
                    exact ih key r hmem l new (hrs.members _ hmem) hl hnew
          | _ =>
              cases hnew
              apply DeepMerge.given
              simp [Json.isObject]

/-- A deep merge has no clash. -/
theorem DeepMerge.noClash {rs : List (String × Json)} : ∀ ls j, (Json.obj rs).Ordered →
    mergeMembers (.obj ls) (.obj ls) rs = .ok j →
    DeepMerge (some (.obj ls)) (some (.obj rs)) (some j) → NoClash ls rs := by
  induction rs using Json.members_induction with
  | h rs ih =>
      intro ls j hrs hj hdeep
      obtain ⟨js, rfl, -, hkept, hgiven⟩ := mergeMembers_ok hrs.keys (fun _ _ => rfl) hj
      rw [noClash_iff]
      intro key r hr old hold
      obtain ⟨new, hnew, hjs⟩ := hgiven key _ hr
      have hmembers : DeepMerge (ls.lookup key) (rs.lookup key) (js.lookup key) := by
        cases hdeep with
        | merged members => exact members key
        | given _ _ hdiff => cases hdiff
      rw [hold, hr, hjs] at hmembers
      rw [hold] at hnew
      by_cases hnull : old.isNull = true
      · exact Or.inl hnull
      · by_cases hobj : old.isObject = true
        · cases old with
          | obj l =>
              have hmem := mem_of_lookup hr
              exact Or.inr ⟨l, rfl, ih key r hmem l new (hrs.members _ hmem) hnew hmembers⟩
          | _ => cases hobj
        · -- the value of the left side stays, and it is no object
          rw [Bool.not_eq_true] at hnull hobj
          have hnew' : mergeMembers old old r = .ok new := by
            rw [← hnew]
            exact (if_neg (by rw [Option.getD_some, hnull]; decide)).symm
          obtain ⟨-, rfl⟩ := mergeMembers_of_value hnull hobj hnew'
          cases hmembers with
          | merged _ => cases hobj
          | given _ _ _ => cases hobj

/-- The merge comes to its end with the deep merge of two objects if and only if the left one has
nothing, null or an object wherever the right one has an object. -/
theorem json_merge_deep_iff (ls rs : List (String × Json)) (hrs : (Json.obj rs).Ordered) :
    (∃ j, jsonMerge (.obj ls) (.obj rs) = .ok j
        ∧ DeepMerge (some (.obj ls)) (some (.obj rs)) (some j))
      ↔ NoClash ls rs := by
  constructor
  · rintro ⟨j, hj, hdeep⟩
    exact hdeep.noClash ls j hrs hj
  · intro hno
    obtain ⟨j, hj⟩ := hno.total ls hrs
    exact ⟨j, hj, hno.deepMerge ls j hrs hj⟩

/-- Two objects of objects, and a text in place of a number. -/
theorem json_merge_deep_nested : ∃ j,
    jsonMerge (.obj [("a", .obj [("x", .int 1)]), ("b", .int 2)])
        (.obj [("a", .obj [("y", .obj [])]), ("b", .str "c")]) = .ok j
      ∧ DeepMerge (some (.obj [("a", .obj [("x", .int 1)]), ("b", .int 2)]))
          (some (.obj [("a", .obj [("y", .obj [])]), ("b", .str "c")])) (some j) := by
  apply (json_merge_deep_iff _ _ _).mpr
  · rw [noClash_iff]
    intro key r hr old hold
    by_cases ha : key = "a"
    · subst ha
      cases hr
      cases hold
      refine Or.inr ⟨_, rfl, noClash_iff.mpr ?_⟩
      intro key r hr old hold
      by_cases hy : key = "y"
      · subst hy
        cases hold
      · rw [lookup_cons, if_neg hy] at hr
        cases hr
    · rw [lookup_cons, if_neg ha, lookup_cons] at hr
      split_ifs at hr
      · cases hr
      · cases hr
  · constructor
    · decide
    · rintro e he
      fin_cases he
      · constructor
        · decide
        · rintro e he
          fin_cases he
          exact .obj .nil (by simp)
      · exact .str "c"

/-- A number cannot take the members of an object: the merge throws. -/
theorem json_merge_throws : jsonMerge (.obj [("a", .int 5)]) (.obj [("a", .obj [("x", .int 1)])])
    = .error .type305 := by
  rfl

/-! ## Merging again -/

/-- Members that take up the values given keep the object as it is. -/
theorem mergeMembers_of_stable {js es : List (String × Json)}
    (hsorted : js.Pairwise fun a b => a.1 < b.1)
    (hstable : ∀ e ∈ es, ∃ v, js.lookup e.1 = some v ∧ mergeValue (some v) e.2 = .ok v) :
    mergeMembers (.obj js) (.obj js) es = .ok (.obj js) := by
  induction es with
  | nil => rfl
  | cons e es ih =>
      obtain ⟨v, hv, hnew⟩ := hstable e List.mem_cons_self
      rw [mergeMembers_cons rfl, hv, hnew]
      show mergeMembers (.obj js) (.obj (insertEntry e.1 v js)) es = _
      rw [insertEntry_of_lookup hsorted hv]
      exact ih fun e' he' => hstable e' (List.mem_cons_of_mem _ he')

/-- An object merged with itself. -/
theorem mergeMembers_self {es : List (String × Json)} :
    (Json.obj es).Ordered → mergeMembers (.obj es) (.obj es) es = .ok (.obj es) := by
  induction es using Json.members_induction with
  | h es ih =>
      intro hes
      apply mergeMembers_of_stable hes.sorted
      rintro ⟨key, v⟩ hmem
      refine ⟨v, lookup_of_mem hes.keys hmem, ?_⟩
      cases v with
      | obj members => exact ih key members hmem (hes.members _ hmem)
      | _ => rfl

/-- Merging the same members again keeps what the first merge gave. -/
theorem mergeMembers_again {rs : List (String × Json)} : ∀ ls j, (Json.obj ls).Ordered →
    (Json.obj rs).Ordered → mergeMembers (.obj ls) (.obj ls) rs = .ok j →
    mergeMembers j j rs = .ok j := by
  induction rs using Json.members_induction with
  | h rs ih =>
      intro ls j hls hrs hj
      obtain ⟨js, rfl, hsorted, -, hgiven⟩ := mergeMembers_ok hrs.keys (fun _ _ => rfl) hj
      apply mergeMembers_of_stable (hsorted hls.sorted)
      rintro ⟨key, v⟩ hmem
      obtain ⟨new, hnew, hjs⟩ := hgiven key v (lookup_of_mem hrs.keys hmem)
      refine ⟨new, hjs, ?_⟩
      cases v with
      | obj r =>
          have hr := hrs.members _ hmem
          cases hold : ls.lookup key with
          | none =>
              rw [hold] at hnew
              cases hnew
              exact mergeMembers_self hr
          | some old =>
              rw [hold] at hnew
              cases old with
              | null =>
                  cases hnew
                  exact mergeMembers_self hr
              | obj l =>
                  obtain ⟨ks, rfl, -⟩ := mergeMembers_ok hr.keys (fun _ _ => rfl) hnew
                  exact ih key r hmem l _ (hls.lookup hold) hr hnew
              | _ =>
                  -- there was nothing to merge into this value, and there is nothing now
                  obtain ⟨rfl, rfl⟩ := mergeMembers_of_value rfl rfl hnew
                  rfl
      | _ =>
          cases hnew
          rfl

/-- Merging the same object again changes nothing. -/
theorem json_merge_idempotent (ls rs : List (String × Json)) (j : Json)
    (hls : (Json.obj ls).Ordered) (hrs : (Json.obj rs).Ordered)
    (hj : jsonMerge (.obj ls) (.obj rs) = .ok j) : jsonMerge j (.obj rs) = .ok j :=
  mergeMembers_again ls j hls hrs hj

/-- A member that is a number on the left and an empty object on the right stays a number. -/
theorem json_merge_idempotent_number :
    jsonMerge (.obj [("a", .int 5), ("b", .int 1)]) (.obj [("a", .obj []), ("b", .int 1)])
      = .ok (.obj [("a", .int 5), ("b", .int 1)]) := by
  apply json_merge_idempotent [("a", .int 5)]
  · exact .obj (List.pairwise_singleton _ _) (by simp [Json.Ordered.int])
  · exact .obj (by decide) (by simp [Json.Ordered.obj, Json.Ordered.int])
  · rfl

end Libov
