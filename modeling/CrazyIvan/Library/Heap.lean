import Mathlib.Data.List.Nodup
import Mathlib.Data.List.ReduceOption

/-!
A heap of objects that are allocated and freed by hand.

A slot of the heap is emptied when its object is freed, so that freeing an object
twice, or following a pointer to it, has no result.

* `deref`, `free`: following a pointer, and freeing what it points to. Objects
  that are in use (`ok` is false of them) cannot be freed.
* `freeAll_eq_some_iff`: when a list of different pointers can be freed one after
  the other; `getElem?_freeAll` says what is left.
-/

/-- A heap; a slot is none once its object is freed. -/
abbrev Heap (α : Type) := List (Option α)

namespace Heap

variable {α : Type}

/-- A pointer that can be null. -/
abbrev Ptr := Option ℕ

/-- The object a pointer leads to, with its place. -/
def deref (h : Heap α) (ptr : Ptr) : Option (ℕ × α) :=
  ptr.bind fun p => (h[p]?).join.map fun a => (p, a)

/-- Free what a pointer leads to; nothing for a null pointer. -/
def free (ok : α → Bool) (h : Heap α) (ptr : Ptr) : Option (Heap α) :=
  match ptr with
  | none => some h
  | some _ => (h.deref ptr).bind fun (p, a) => if ok a then some (h.set p none) else none

/-- Free the pointers of a list, one after the other. -/
def freeAll (ok : α → Bool) (h : Heap α) (ptrs : List Ptr) : Option (Heap α) :=
  ptrs.foldlM (free ok) h

variable {ok : α → Bool} {h h' : Heap α} {p : ℕ} {a : α}

@[simp] lemma deref_none : h.deref none = none := rfl

lemma deref_eq_some {r : ℕ × α} {ptr : Ptr} :
    h.deref ptr = some r ↔ ptr = some r.1 ∧ h[r.1]? = some (some r.2) := by
  cases ptr with
  | none => simp
  | some q =>
      simp only [deref, Option.bind_some, Option.map_eq_some_iff, Option.join_eq_some_iff]
      constructor
      · rintro ⟨b, hb, rfl⟩
        exact ⟨rfl, hb⟩
      · rintro ⟨hq, hr⟩
        exact ⟨r.2, by rwa [Option.some.inj hq], by rw [Option.some.inj hq]⟩

lemma deref_some (hp : h[p]? = some (some a)) : h.deref (some p) = some (p, a) :=
  deref_eq_some.mpr ⟨rfl, hp⟩

lemma lt_length (hp : h[p]? = some (some a)) : p < h.length :=
  (List.getElem?_eq_some_iff.mp hp).1

@[simp] lemma free_none : h.free ok none = some h := rfl

lemma free_some (hp : h[p]? = some (some a)) (ha : ok a = true) :
    h.free ok (some p) = some (h.set p none) := by
  simp [free, deref_some hp, ha]

lemma free_some_eq_some_iff :
    h.free ok (some p) = some h' ↔
      (∃ a, h[p]? = some (some a) ∧ ok a = true) ∧ h' = h.set p none := by
  constructor
  · intro hfree
    simp only [free, Option.bind_eq_some_iff] at hfree
    obtain ⟨⟨q, a⟩, hderef, hif⟩ := hfree
    obtain ⟨hq, ha⟩ := deref_eq_some.mp hderef
    obtain rfl : p = q := Option.some.inj hq
    split_ifs at hif with hok
    exact ⟨⟨a, ha, hok⟩, (Option.some.inj hif).symm⟩
  · rintro ⟨⟨a, ha, hok⟩, rfl⟩
    exact free_some ha hok

/-- Nothing but a pointer to what was freed before cannot be freed. -/
lemma exists_free_iff {ptr : Ptr} : (∃ h', h.free (fun _ => true) ptr = some h') ↔
    ptr = none ∨ (h.deref ptr).isSome = true := by
  cases ptr with
  | none => simp
  | some p =>
      simp only [free_some_eq_some_iff, Option.isSome_iff_exists, deref_eq_some]
      constructor
      · rintro ⟨h', ⟨a, ha, -⟩, -⟩
        exact .inr ⟨(p, a), rfl, ha⟩
      · rintro (hp | ⟨⟨q, a⟩, hq, ha⟩)
        · cases hp
        · exact ⟨_, ⟨a, Option.some.inj hq ▸ ha, trivial⟩, rfl⟩

/-- What a pointer led to is gone once it is freed. -/
lemma deref_of_free {ptr : Ptr} (hfree : h.free ok ptr = some h') : h'.deref ptr = none := by
  cases ptr with
  | none => rfl
  | some p =>
      obtain ⟨⟨a, ha, -⟩, rfl⟩ := free_some_eq_some_iff.mp hfree
      simp [deref, List.getElem?_set_self (lt_length ha)]

/-- A pointer to a new object. -/
lemma deref_append_new (h : Heap α) (a : α) :
    (h ++ [some a]).deref (some h.length) = some (h.length, a) :=
  deref_some (by simp)

lemma length_of_free {ptr : Ptr} (hfree : h.free ok ptr = some h') : h'.length = h.length := by
  cases ptr with
  | none => rw [Option.some.inj hfree]
  | some p => rw [(free_some_eq_some_iff.mp hfree).2, List.length_set]

/-- The pointers of a list are all different when no place repeats one. -/
lemma nodup_reduceOption_iff {ptrs : List Ptr} : ptrs.reduceOption.Nodup ↔
    ∀ (i j p : ℕ), ptrs[i]? = some (some p) → ptrs[j]? = some (some p) → i = j := by
  rw [List.reduceOption, List.Nodup, List.pairwise_filterMap, List.pairwise_iff_getElem]
  constructor
  · intro hpair i j p hi hj
    obtain ⟨hilt, hi⟩ := List.getElem?_eq_some_iff.mp hi
    obtain ⟨hjlt, hj⟩ := List.getElem?_eq_some_iff.mp hj
    rcases Nat.lt_trichotomy i j with hij | hij | hij
    · exact absurd rfl (hpair i j hilt hjlt hij p hi p hj)
    · exact hij
    · exact absurd rfl (hpair j i hjlt hilt hij p hj p hi)
  · rintro hinj i j hilt hjlt hij p hi q hj rfl
    exact Nat.ne_of_lt hij (hinj i j p (List.getElem?_eq_some_iff.mpr ⟨hilt, hi⟩)
      (List.getElem?_eq_some_iff.mpr ⟨hjlt, hj⟩))

variable (ok) in
/-- Pointers that are all different can be freed one after the other exactly when
each is null or leads to an object that can be freed. The induction is on the
list. -/
theorem exists_freeAll_iff {ptrs : List Ptr} (hnodup : ptrs.reduceOption.Nodup) :
    (∃ h', h.freeAll ok ptrs = some h') ↔
      ∀ p, some p ∈ ptrs → ∃ a, h[p]? = some (some a) ∧ ok a = true := by
  induction ptrs generalizing h with
  | nil => simp [freeAll]
  | cons ptr ptrs ih =>
      cases ptr with
      | none =>
          rw [List.reduceOption_cons_of_none] at hnodup
          simpa [freeAll] using ih hnodup
      | some p =>
          rw [List.reduceOption_cons_of_some] at hnodup
          obtain ⟨hp, hnodup⟩ := List.nodup_cons.mp hnodup
          have hne : ∀ q, some q ∈ ptrs → p ≠ q := by
            rintro q hq rfl
            exact hp (List.reduceOption_mem_iff.mpr hq)
          have hrest : (∀ q, some q ∈ ptrs → ∃ a, (h.set p none)[q]? = some (some a) ∧
                ok a = true) ↔
              ∀ q, some q ∈ ptrs → ∃ a, h[q]? = some (some a) ∧ ok a = true :=
            forall₂_congr fun q hq => by rw [List.getElem?_set_ne (hne q hq)]
          constructor
          · rintro ⟨h', hfree⟩
            rw [freeAll, List.foldlM_cons] at hfree
            obtain ⟨h₁, h₁eq, hfree⟩ := Option.bind_eq_some_iff.mp hfree
            obtain ⟨ha, rfl⟩ := free_some_eq_some_iff.mp h₁eq
            intro q hq
            rcases List.mem_cons.mp hq with hq | hq
            · obtain rfl : q = p := Option.some.inj hq
              exact ha
            · exact hrest.mp ((ih hnodup).mp ⟨h', hfree⟩) q hq
          · intro hall
            obtain ⟨a, ha, hok⟩ := hall p List.mem_cons_self
            obtain ⟨h', hfree⟩ := (ih hnodup).mpr
              (hrest.mpr fun q hq => hall q (List.mem_cons_of_mem _ hq))
            refine ⟨h', ?_⟩
            rw [freeAll, List.foldlM_cons, free_some ha hok]
            exact hfree

/-- What is left once the pointers are freed. -/
theorem getElem?_freeAll {ptrs : List Ptr} (hfree : h.freeAll ok ptrs = some h') (p : ℕ) :
    h'[p]? = if some p ∈ ptrs then some none else h[p]? := by
  induction ptrs generalizing h with
  | nil =>
      obtain rfl : h = h' := Option.some.inj hfree
      simp
  | cons ptr ptrs ih =>
      rw [freeAll, List.foldlM_cons] at hfree
      obtain ⟨h₁, h₁eq, hfree⟩ := Option.bind_eq_some_iff.mp hfree
      have hih := ih hfree
      cases ptr with
      | none =>
          obtain rfl : h = h₁ := Option.some.inj h₁eq
          simpa using hih
      | some q =>
          obtain ⟨⟨a, ha, -⟩, rfl⟩ := free_some_eq_some_iff.mp h₁eq
          simp only [hih, List.mem_cons, Option.some.injEq]
          by_cases hpq : p = q
          · subst hpq
            simp [List.getElem?_set_self (lt_length ha)]
          · simp [hpq, List.getElem?_set_ne (Ne.symm hpq)]

end Heap
