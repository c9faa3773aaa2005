/-
Registers that keep the first value of each key, and the choice of a least
value from one.

The choice sorts the values by cost alone.  The sort is stable and the values
come in key order, so among equal costs the least key is chosen.
-/

import Mathlib.Data.List.Sort
import ServiceNetwork.Library.Sweep

namespace ServiceNetwork.Register

open Std
open ServiceNetwork.Sweep

variable {Key Value : Type}

/-- Enter the value, unless its key is taken. -/
def keepFirst [Ord Key] (keyOf : Value → Key) (map : TreeMap Key Value) (value : Value) :
    TreeMap Key Value :=
  if map.contains (keyOf value) then map else map.insert (keyOf value) value

/-- Every value lies under its own key. -/
def Keyed [Ord Key] (keyOf : Value → Key) (map : TreeMap Key Value) : Prop :=
  ∀ key value, map[key]? = some value → keyOf value = key

section Entries

variable [Ord Key] [TransOrd Key] [LawfulEqOrd Key] {keyOf : Value → Key}

theorem keepFirst_getElem? [DecidableEq Key] (map : TreeMap Key Value) (value : Value)
    (key : Key) :
    (keepFirst keyOf map value)[key]? =
      map[key]?.or (if keyOf value = key then some value else none) := by
  unfold keepFirst
  rw [TreeMap.contains_eq_isSome_getElem?]
  by_cases same : keyOf value = key
  · subst same
    cases found : map[keyOf value]? with
    | none => simp
    | some held => simp [found]
  · rw [if_neg same, Option.or_none]
    split
    · rfl
    · exact getElem?_insert_ne map value same

/-- A register holds, for each key, the first value entered under it. -/
theorem foldl_keepFirst_getElem? [DecidableEq Key] (values : List Value)
    (map : TreeMap Key Value) (key : Key) :
    (values.foldl (keepFirst keyOf) map)[key]? =
      map[key]?.or (values.find? fun value => keyOf value = key) := by
  induction values generalizing map with
  | nil => rw [List.foldl_nil, List.find?_nil, Option.or_none]
  | cons value rest ih =>
      rw [List.foldl_cons, ih, keepFirst_getElem?, Option.or_assoc]
      by_cases same : keyOf value = key
      · simp [same]
      · simp [same]

theorem keyed_keepFirst_iff [DecidableEq Key] (map : TreeMap Key Value) (value : Value) :
    Keyed keyOf (keepFirst keyOf map value) ↔ Keyed keyOf map := by
  constructor
  · intro keyed key held present
    refine keyed key held ?_
    rw [keepFirst_getElem?, present, Option.some_or]
  · intro keyed key held present
    rw [keepFirst_getElem?] at present
    rcases Option.or_eq_some_iff.mp present with before | ⟨_, entered⟩
    · exact keyed key held before
    · by_cases same : keyOf value = key
      · rw [if_pos same] at entered
        cases entered
        exact same
      · rw [if_neg same] at entered
        cases entered

end Entries

/-- Of values with distinct keys, the order they come in does not matter. -/
theorem find?_of_perm [DecidableEq Key] {keyOf : Value → Key} {values others : List Value}
    (distinct : (values.map keyOf).Nodup) (perm : values.Perm others) (key : Key) :
    (values.find? fun value => keyOf value = key) =
      others.find? fun value => keyOf value = key := by
  induction perm with
  | nil => rfl
  | cons value _ ih =>
      rw [List.find?_cons, List.find?_cons]
      rw [List.map_cons, List.nodup_cons] at distinct
      rw [ih distinct.2]
  | swap first second rest =>
      simp only [List.map_cons, List.nodup_cons, List.mem_cons, not_or] at distinct
      obtain ⟨⟨different, _⟩, _⟩ := distinct
      by_cases isFirst : keyOf first = key
      · have notSecond : keyOf second ≠ key := fun same => different (same.trans isFirst.symm)
        simp [isFirst, notSecond]
      · simp [List.find?_cons, isFirst]
  | trans earlier _ ihFirst ihSecond =>
      rw [ihFirst distinct]
      exact ihSecond ((earlier.map keyOf).nodup_iff.mp distinct)

/-! ### Choosing from the values -/

theorem values_eq_toList [Ord Key] (map : TreeMap Key Value) :
    map.values = map.toList.map Prod.snd := by
  change DTreeMap.Internal.Impl.values _ = List.map _ (DTreeMap.Internal.Impl.Const.toList _)
  rw [DTreeMap.Internal.Impl.values_eq_map_snd,
    DTreeMap.Internal.Impl.Const.toList_eq_toListModel_map, List.map_map]
  rfl

theorem mem_values_iff [Ord Key] [TransOrd Key] [LawfulEqOrd Key] (map : TreeMap Key Value)
    (value : Value) :
    value ∈ map.values ↔ ∃ key : Key, map[key]? = some value := by
  rw [values_eq_toList, List.mem_map]
  constructor
  · rintro ⟨⟨key, held⟩, member, same⟩
    cases same
    have present : map[key]? = some held := TreeMap.mem_toList_iff_getElem?_eq_some.mp member
    exact ⟨key, present⟩
  · rintro ⟨key, present⟩
    have member : (key, value) ∈ map.toList :=
      TreeMap.mem_toList_iff_getElem?_eq_some.mpr present
    exact ⟨(key, value), member, rfl⟩

theorem Keyed.values_ordered [Ord Key] [TransOrd Key] [LawfulEqOrd Key]
    {keyOf : Value → Key} {map : TreeMap Key Value} (keyed : Keyed keyOf map) :
    map.values.Pairwise fun left right => compare (keyOf left) (keyOf right) = .lt := by
  rw [values_eq_toList]
  refine List.Pairwise.map _ ?_ (List.Pairwise.and_mem.mp map.ordered_keys_toList)
  intro left right ordered
  obtain ⟨leftMember, rightMember, before⟩ := ordered
  have leftAt : map[left.1]? = some left.2 := TreeMap.mem_toList_iff_getElem?_eq_some.mp leftMember
  have rightAt : map[right.1]? = some right.2 :=
    TreeMap.mem_toList_iff_getElem?_eq_some.mp rightMember
  rw [keyed _ _ leftAt, keyed _ _ rightAt]
  exact before

theorem pair_sublist_or {values : List Value} {first second : Value} (different : first ≠ second)
    (hasFirst : first ∈ values) (hasSecond : second ∈ values) :
    [first, second].Sublist values ∨ [second, first].Sublist values := by
  induction values with
  | nil => cases hasFirst
  | cons value rest ih =>
      rcases List.mem_cons.mp hasFirst with rfl | firstLater
      · rcases List.mem_cons.mp hasSecond with rfl | secondLater
        · exact absurd rfl different
        · exact Or.inl ((List.singleton_sublist.mpr secondLater).cons_cons first)
      · rcases List.mem_cons.mp hasSecond with rfl | secondLater
        · exact Or.inr ((List.singleton_sublist.mpr firstLater).cons_cons second)
        · rcases ih firstLater secondLater with inOrder | inOrder
          · exact Or.inl (inOrder.cons value)
          · exact Or.inr (inOrder.cons value)

/-- The head of a list sorted by cost costs least, and of those that cost as
little it was the first in the list. -/
theorem insertionSort_head_least {Cost : Type} [LE Cost] [LT Cost] [DecidableLE Cost]
    [IsLinearOrder Cost] [LawfulOrderLT Cost] {costOf : Value → Cost}
    {before : Value → Value → Prop} {values rest : List Value} {best : Value}
    (ordered : values.Pairwise before) (irreflexive : ∀ value, ¬ before value value)
    (sorted : values.insertionSort (fun left right => costOf left ≤ costOf right) = best :: rest) :
    best ∈ values ∧ ∀ other ∈ values, other ≠ best →
      costOf best < costOf other ∨ (costOf best = costOf other ∧ before best other) := by
  have total : Std.Total fun left right : Value => costOf left ≤ costOf right :=
    ⟨fun _ _ => Std.le_total⟩
  have transitive : IsTrans Value fun left right => costOf left ≤ costOf right :=
    ⟨fun _ _ _ first second => Std.le_trans first second⟩
  have isMember : ∀ value, value ∈ best :: rest ↔ value ∈ values := by
    intro value
    rw [← sorted]
    exact List.mem_insertionSort _
  have hasBest : best ∈ values := (isMember best).mp List.mem_cons_self
  refine ⟨hasBest, ?_⟩
  intro other member different
  have byCost : (best :: rest).Pairwise fun left right => costOf left ≤ costOf right := by
    rw [← sorted]
    exact List.pairwise_insertionSort _ values
  have inRest : other ∈ rest := by
    rcases List.mem_cons.mp ((isMember other).mpr member) with same | later
    · exact absurd same different
    · exact later
  rcases Std.le_iff_lt_or_eq.mp ((List.pairwise_cons.mp byCost).1 other inRest) with cheaper | same
  · exact Or.inl cheaper
  · refine Or.inr ⟨same, ?_⟩
    rcases pair_sublist_or different.symm hasBest member with inOrder | swapped
    · exact List.pairwise_iff_forall_sublist.mp ordered inOrder
    · -- the sort is stable, so the other one would have come first
      have stays : [other, best].Sublist (best :: rest) := by
        rw [← sorted]
        exact List.pair_sublist_insertionSort (Std.le_of_eq same.symm) swapped
      have nodup : values.Nodup := by
        refine ordered.imp ?_
        rintro left right inOrder rfl
        exact irreflexive left inOrder
      have restFresh : best ∉ rest := by
        have distinct : (best :: rest).Nodup := by
          rw [← sorted]
          exact (List.perm_insertionSort _ values).nodup_iff.mpr nodup
        exact (List.nodup_cons.mp distinct).1
      cases stays with
      | cons _ later => exact absurd (later.subset (by simp)) restFresh
      | cons_cons _ _ => exact absurd rfl different

end ServiceNetwork.Register
