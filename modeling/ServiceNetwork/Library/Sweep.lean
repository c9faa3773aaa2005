/-
In-place sweeps over the entries of a finite ordered map.

A sweep visits a cached list of keys, rewriting each entry it still finds.
Over a duplicate-free list a sweep acts pointwise: one rewrite for each listed
entry and none for the rest.  The body may fail; the failure ends the sweep.
-/

import Mathlib.Data.List.Basic
import Mathlib.Tactic.Common

namespace ServiceNetwork.Sweep

open Std

variable {Key Value Failure : Type} [Ord Key] [TransOrd Key] [LawfulEqOrd Key]

/-- Visit the listed keys in order; keys without an entry are skipped. -/
def sweep (body : Value → Except Failure Value) :
    TreeMap Key Value → List Key → Except Failure (TreeMap Key Value)
  | map, [] => .ok map
  | map, key :: rest =>
      match map[key]? with
      | none => sweep body map rest
      | some value =>
          match body value with
          | .error failure => .error failure
          | .ok value => sweep body (map.insert key value) rest

theorem getElem?_insert_self (map : TreeMap Key Value) (key : Key) (value : Value) :
    (map.insert key value)[key]? = some value := by
  rw [TreeMap.getElem?_insert, if_pos ReflOrd.compare_self]

theorem getElem?_insert_ne (map : TreeMap Key Value) {key other : Key} (value : Value)
    (different : key ≠ other) : (map.insert key value)[other]? = map[other]? := by
  rw [TreeMap.getElem?_insert, if_neg]
  intro same
  exact different (LawfulEqOrd.eq_of_compare same)

/-- A sweep of distinct keys whose body succeeds on every listed entry rewrites
exactly the listed entries, once each. -/
theorem sweep_pointwise [DecidableEq Key] (body : Value → Except Failure Value)
    (rewritten : Value → Value) (map : TreeMap Key Value) (keys : List Key)
    (distinct : keys.Nodup)
    (succeeds : ∀ key ∈ keys, ∀ value, map[key]? = some value →
      body value = .ok (rewritten value)) :
    ∃ swept, sweep body map keys = .ok swept ∧
      ∀ key, swept[key]? = if key ∈ keys then map[key]?.map rewritten else map[key]? := by
  induction keys generalizing map with
  | nil => exact ⟨map, rfl, fun key => by simp⟩
  | cons key rest ih =>
      obtain ⟨notLater, restDistinct⟩ := List.nodup_cons.mp distinct
      cases found : map[key]? with
      | none =>
          obtain ⟨swept, swept_eq, lookup⟩ := ih map restDistinct
            (fun other member => succeeds other (List.mem_cons_of_mem key member))
          refine ⟨swept, ?_, ?_⟩
          · simp only [sweep, found]
            exact swept_eq
          · intro other
            rw [lookup]
            by_cases same : other = key
            · subst same
              simp [found]
            · simp [same]
      | some value =>
          have first : body value = .ok (rewritten value) :=
            succeeds key List.mem_cons_self value found
          have later : ∀ other ∈ rest, ∀ entry,
              (map.insert key (rewritten value))[other]? = some entry →
                body entry = .ok (rewritten entry) := by
            intro other member entry present
            have different : key ≠ other := fun same => notLater (same ▸ member)
            rw [getElem?_insert_ne map _ different] at present
            exact succeeds other (List.mem_cons_of_mem key member) entry present
          obtain ⟨swept, swept_eq, lookup⟩ :=
            ih (map.insert key (rewritten value)) restDistinct later
          refine ⟨swept, ?_, ?_⟩
          · simp only [sweep, found, first]
            exact swept_eq
          · intro other
            rw [lookup]
            by_cases same : other = key
            · subst same
              rw [if_neg notLater, getElem?_insert_self]
              simp [found]
            · rw [getElem?_insert_ne map _ (Ne.symm same)]
              simp [same]

/-- The keys of the entries that satisfy a test, in key order. -/
def keysWhere (test : Value → Bool) (map : TreeMap Key Value) : List Key :=
  map.toList.filterMap (fun entry => if test entry.2 then some entry.1 else none)

theorem mem_keysWhere (test : Value → Bool) (map : TreeMap Key Value) (key : Key) :
    key ∈ keysWhere test map ↔ ∃ value, map[key]? = some value ∧ test value = true := by
  unfold keysWhere
  rw [List.mem_filterMap]
  constructor
  · rintro ⟨⟨found, value⟩, member, kept⟩
    split at kept
    · rename_i passes
      cases kept
      exact ⟨value, TreeMap.mem_toList_iff_getElem?_eq_some.mp member, passes⟩
    · cases kept
  · rintro ⟨value, present, passes⟩
    refine ⟨(key, value), TreeMap.mem_toList_iff_getElem?_eq_some.mpr present, ?_⟩
    simp [passes]

theorem keysWhere_nodup (test : Value → Bool) (map : TreeMap Key Value) :
    (keysWhere test map).Nodup := by
  unfold keysWhere
  have distinct := map.distinct_keys_toList
  refine List.Pairwise.filterMap _ ?_ distinct
  intro left right different first firstKept second secondKept same
  split at firstKept
  · split at secondKept
    · cases firstKept
      cases secondKept
      exact different (by rw [same]; exact ReflOrd.compare_self)
    · cases secondKept
  · cases firstKept

end ServiceNetwork.Sweep
