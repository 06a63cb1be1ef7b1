import Mathlib.Algebra.BigOperators.Group.Multiset.Basic
import Mathlib.Tactic.Abel

/-
  Laws of pools, lists of calls that are known by their places
  and take their steps in any order.  A call joins a pool at
  its end, and is replaced in its place by what it became.

  Main statements:
    * `Pool.joined_cases`, `Pool.stepped_cases`
    * `Pool.eq_or_mem_set`, `Pool.related_of_pairwise`
    * `Pool.modify_joined`, `Pool.modify_set`
    * `Pool.map_modify`, `Pool.map_set_of_same`
    * `Pool.getElem?_foldl_modify`
    * `Pool.sum_map_set`, `Pool.flatMap_set_of_only`
    * `Pool.balanced_set`, `Pool.covered_set`
    * `Pool.length_filter_le_one`
    * `Pool.exists_only_of_sum_map_eq_one`
-/

namespace Courier

namespace Pool

variable {α M : Type}

------------------------------------------------------------
-- Members of a pool
------------------------------------------------------------

/- A member of a pool is an old one, or the one that joined. -/
theorem joined_cases
    {xs : List α}
    {x y : α}
    {n : Nat}
    (hAt : (xs ++ [x])[n]? = some y) :
    xs[n]? = some y ∨ (n = xs.length ∧ y = x) := by
  rw [List.getElem?_append] at hAt
  split at hAt
  · exact Or.inl hAt
  · rename_i hLength
    right
    have hPlace : n - xs.length = 0 := by
      have hBound := (List.getElem?_eq_some_iff.mp hAt).1
      simpa using hBound
    rw [hPlace] at hAt
    have hSame : x = y := by simpa using hAt
    exact ⟨by omega, hSame.symm⟩

/- A member of a pool is the one that was replaced, or an old one. -/
theorem stepped_cases
    {xs : List α}
    {y z : α}
    {n m : Nat}
    (hAt : (xs.set n y)[m]? = some z) :
    (m = n ∧ z = y) ∨ (m ≠ n ∧ xs[m]? = some z) := by
  rw [List.getElem?_set] at hAt
  split at hAt
  · rename_i hSame
    split at hAt
    · exact Or.inl ⟨hSame.symm, (Option.some.inj hAt).symm⟩
    · exact absurd hAt (by simp)
  · rename_i hOther
    exact Or.inr ⟨fun h => hOther h.symm, hAt⟩

/- A member of a pool stays in it, but for the one that is replaced. -/
theorem eq_or_mem_set
    {xs : List α}
    {x y : α}
    {n : Nat}
    (hMember : x ∈ xs)
    (hAt : xs[n]? = some y)
    (z : α) :
    x = y ∨ x ∈ xs.set n z := by
  rcases List.mem_iff_getElem?.mp hMember with ⟨m, hAt'⟩
  by_cases hSame : n = m
  · subst hSame
    rw [hAt] at hAt'
    exact Or.inl (Option.some.inj hAt').symm
  · right
    exact List.mem_of_getElem? ((List.getElem?_set_ne hSame).trans hAt')

/- Members at two places are related, if all are to each other. -/
theorem related_of_pairwise
    {R : α → α → Prop}
    (hSymm : ∀ {x y}, R x y → R y x)
    {xs : List α}
    (hPairwise : xs.Pairwise R)
    {n m : Nat}
    {x y : α}
    (hAt : xs[n]? = some x)
    (hAt' : xs[m]? = some y)
    (hApart : n ≠ m) :
    R x y := by
  rcases List.getElem?_eq_some_iff.mp hAt with ⟨hBound, rfl⟩
  rcases List.getElem?_eq_some_iff.mp hAt' with ⟨hBound', rfl⟩
  rw [List.pairwise_iff_getElem] at hPairwise
  rcases Nat.lt_or_gt_of_ne hApart with hLess | hMore
  · exact hPairwise n m hBound hBound' hLess
  · exact hSymm (hPairwise m n hBound' hBound hMore)

/- A member of a pool may change before another one joins, or after. -/
theorem modify_joined
    {xs : List α}
    {n : Nat}
    (hBound : n < xs.length)
    (f : α → α)
    (x : α) :
    (xs ++ [x]).modify n f = xs.modify n f ++ [x] := by
  apply List.ext_getElem?
  intro m
  rw [List.getElem?_modify, List.getElem?_append, List.getElem?_append,
    List.length_modify, List.getElem?_modify]
  by_cases hOld : m < xs.length
  · simp [hOld]
  · have hOther : n ≠ m := by omega
    simp [hOld, hOther]

/- A member that was just replaced changes. -/
theorem modify_set
    (xs : List α)
    (n : Nat)
    (x : α)
    (f : α → α) :
    (xs.set n x).modify n f = xs.set n (f x) := by
  induction xs generalizing n with
  | nil => simp
  | cons first rest ih =>
      cases n with
      | zero => rfl
      | succ n => simp [ih]

/- What is seen of a member changes as the member does. -/
theorem map_modify
    {β : Type}
    {g : α → β}
    {f : α → α}
    {h : β → β}
    {xs : List α}
    (hSeen : ∀ x ∈ xs, g (f x) = h (g x))
    (n : Nat) :
    (xs.modify n f).map g = (xs.map g).modify n h := by
  induction xs generalizing n with
  | nil => simp
  | cons first rest ih =>
      cases n with
      | zero => simp [hSeen first List.mem_cons_self]
      | succ n =>
          have hRest := ih fun x hMember =>
            hSeen x (List.mem_cons_of_mem _ hMember)
          simp [hRest]

/- What is seen of all members stays where the new one looks alike. -/
theorem map_set_of_same
    {β : Type}
    {g : α → β}
    {xs : List α}
    {n : Nat}
    {x y : α}
    (hAt : xs[n]? = some x)
    (hSame : g y = g x) :
    (xs.set n y).map g = xs.map g := by
  induction xs generalizing n with
  | nil => rfl
  | cons first rest ih =>
      cases n with
      | zero =>
          have hFirst : first = x := by simpa using hAt
          simp [hFirst, hSame]
      | succ n =>
          have hRest : rest[n]? = some x := by simpa using hAt
          simp [ih hRest]

/- A member changes as often as its place is given. -/
theorem getElem?_foldl_modify
    (f : α → α)
    (ns : List Nat)
    (xs : List α)
    (n : Nat) :
    (ns.foldl (fun xs n => xs.modify n f) xs)[n]? =
      xs[n]?.map f^[ns.count n] := by
  induction ns generalizing xs with
  | nil => simp
  | cons first rest ih =>
      rw [List.foldl_cons, ih, List.count_cons]
      by_cases hFirst : first = n
      · subst hFirst
        simp [Function.iterate_succ]
      · simp [hFirst]

------------------------------------------------------------
-- Sums over a pool
------------------------------------------------------------

/- A sum after one of its members was replaced. -/
theorem sum_map_set
    [AddCommMonoid M]
    (f : α → M)
    {xs : List α}
    {n : Nat}
    {x : α}
    (hAt : xs[n]? = some x)
    (y : α) :
    ((xs.set n y).map f).sum + f x = (xs.map f).sum + f y := by
  induction xs generalizing n with
  | nil => simp at hAt
  | cons first rest ih =>
      cases n with
      | zero =>
          have hFirst : first = x := by simpa using hAt
          simp only [List.set_cons_zero, List.map_cons, List.sum_cons,
            hFirst]
          abel
      | succ n =>
          have hRest : rest[n]? = some x := by simpa using hAt
          have hSum := ih hRest
          simp only [List.set_cons_succ, List.map_cons, List.sum_cons,
            add_assoc, hSum]

/-
  What is held in common and what each place holds stay
  balanced when one place changes, together with what comes
  in and goes out by that.
-/
theorem balanced_set
    [AddCancelCommMonoid M]
    (f : α → M)
    {xs : List α}
    {n : Nat}
    {x y : α}
    {common common' gone made out new : M}
    (hAt : xs[n]? = some x)
    (hMoved : f y + common' + out = f x + common + new)
    (hBalanced : common + (xs.map f).sum + gone = made) :
    common' + ((xs.set n y).map f).sum + (gone + out) = made + new := by
  have hSum := sum_map_set f hAt y
  apply add_right_cancel (b := f x)
  calc
    common' + ((xs.set n y).map f).sum + (gone + out) + f x =
        (((xs.set n y).map f).sum + f x) + common' + gone + out := by
      abel
    _ = (xs.map f).sum + gone + (f y + common' + out) := by
      rw [hSum]
      abel
    _ = common + (xs.map f).sum + gone + new + f x := by
      rw [hMoved]
      abel
    _ = made + new + f x := by
      rw [hBalanced]

/-
  What is owed stays covered when one place changes, by what
  is held in common, what the places hold, and what is gone.
-/
theorem covered_set
    (f g : α → Multiset M)
    {xs : List α}
    {n : Nat}
    {x y : α}
    {common common' gone made out new : Multiset M}
    (hAt : xs[n]? = some x)
    (hMoved :
      new + (common + f x + g y) ≤ out + (common' + f y + g x))
    (hCovered :
      made + (xs.map g).sum ≤ gone + (common + (xs.map f).sum)) :
    made + new + ((xs.set n y).map g).sum ≤
      gone + out + (common' + ((xs.set n y).map f).sum) := by
  have hHeld := sum_map_set f hAt y
  have hOwed := sum_map_set g hAt y
  apply le_of_add_le_add_right (a := f x + g x + common)
  calc
    made + new + ((xs.set n y).map g).sum + (f x + g x + common) =
        made + new + (((xs.set n y).map g).sum + g x) +
          (f x + common) := by
      abel
    _ = (made + (xs.map g).sum) + (new + (common + f x + g y)) := by
      rw [hOwed]
      abel
    _ ≤ (gone + (common + (xs.map f).sum)) +
          (out + (common' + f y + g x)) :=
      add_le_add hCovered hMoved
    _ = gone + out + common' + ((xs.map f).sum + f y) +
          (g x + common) := by
      abel
    _ = gone + out + (common' + ((xs.set n y).map f).sum) +
          (f x + g x + common) := by
      rw [← hHeld]
      abel

/- What a member has, all of them together have. -/
theorem mem_sum_map
    {f : α → Multiset M}
    {xs : List α}
    {x : α}
    (hMember : x ∈ xs)
    {y : M}
    (hHas : y ∈ f x) :
    y ∈ (xs.map f).sum := by
  induction xs with
  | nil => simp at hMember
  | cons first rest ih =>
      simp only [List.map_cons, List.sum_cons, Multiset.mem_add]
      rcases List.mem_cons.mp hMember with rfl | hRest
      · exact Or.inl hHas
      · exact Or.inr (ih hRest)

/-
  Where only members of one kind have anything and only one
  member is of that kind, all that the pool has after that
  member was replaced is what the new one has.
-/
theorem flatMap_set_of_only
    {β : Type}
    {p : α → Bool}
    {f : α → List β}
    (hNone : ∀ x, p x = false → f x = [])
    {xs : List α}
    {n : Nat}
    {x : α}
    (hAt : xs[n]? = some x)
    (hKind : p x = true)
    (hOnly : (xs.filter p).length ≤ 1)
    (y : α) :
    (xs.set n y).flatMap f = f y := by
  induction xs generalizing n with
  | nil => simp at hAt
  | cons first rest ih =>
      cases n with
      | zero =>
          have hFirst : first = x := by simpa using hAt
          rw [hFirst, List.filter_cons_of_pos hKind,
            List.length_cons] at hOnly
          have hRest : rest.flatMap f = [] := by
            apply List.flatMap_eq_nil_iff.mpr
            intro z hMember
            apply hNone
            by_contra hOther
            rw [Bool.not_eq_false] at hOther
            have hKept : z ∈ rest.filter p :=
              List.mem_filter.mpr ⟨hMember, hOther⟩
            have := List.length_pos_of_mem hKept
            omega
          rw [List.set_cons_zero, List.flatMap_cons, hRest,
            List.append_nil]
      | succ n =>
          have hRest : rest[n]? = some x := by simpa using hAt
          have hKept : x ∈ rest.filter p :=
            List.mem_filter.mpr ⟨List.mem_of_getElem? hRest, hKind⟩
          have hCount := List.length_pos_of_mem hKept
          have hFirst : p first = false := by
            by_contra hOther
            rw [Bool.not_eq_false] at hOther
            rw [List.filter_cons_of_pos hOther,
              List.length_cons] at hOnly
            omega
          rw [List.filter_cons_of_neg (by simp [hFirst])] at hOnly
          rw [List.set_cons_succ, List.flatMap_cons,
            hNone first hFirst, List.nil_append]
          exact ih hRest hOnly

/- Where all members of a kind are at one place, there is one at most. -/
theorem length_filter_le_one
    {p : α → Bool}
    {xs : List α}
    (hOnly :
      ∀ (n m : Nat) (x y : α),
        xs[n]? = some x → xs[m]? = some y →
          p x = true → p y = true → n = m) :
    (xs.filter p).length ≤ 1 := by
  induction xs with
  | nil => exact Nat.zero_le 1
  | cons first rest ih =>
      have hRest : (rest.filter p).length ≤ 1 := by
        apply ih
        intro n m x y hAt hAt' hKind hKind'
        have hSame := hOnly (n + 1) (m + 1) x y hAt hAt' hKind hKind'
        exact Nat.succ.inj hSame
      by_cases hFirst : p first = true
      · have hNone : rest.filter p = [] := by
          rw [List.filter_eq_nil_iff]
          intro x hMember hKind
          rcases List.mem_iff_getElem?.mp hMember with ⟨n, hAt⟩
          have hSame := hOnly 0 (n + 1) first x rfl hAt hFirst hKind
          exact absurd hSame (Nat.succ_ne_zero n).symm
        rw [List.filter_cons_of_pos hFirst, hNone]
        exact Nat.le_refl 1
      · rw [List.filter_cons_of_neg hFirst]
        exact hRest

/- The members of a sum that is zero are zero. -/
theorem eq_zero_of_sum_map_eq_zero
    {f : α → Nat}
    {xs : List α}
    (hSum : (xs.map f).sum = 0)
    (n : Nat) :
    (xs[n]?.map f).getD 0 = 0 := by
  induction xs generalizing n with
  | nil => simp
  | cons first rest ih =>
      simp only [List.map_cons, List.sum_cons] at hSum
      cases n with
      | zero =>
          simp only [List.getElem?_cons_zero, Option.map_some,
            Option.getD_some]
          omega
      | succ n =>
          rw [List.getElem?_cons_succ]
          exact ih (by omega) n

/- Of the members of a sum that is one, all but one are zero. -/
theorem exists_only_of_sum_map_eq_one
    {f : α → Nat}
    {xs : List α}
    (hSum : (xs.map f).sum = 1) :
    ∃ n : Nat, (xs[n]?.map f).getD 0 = 1 ∧
      ∀ m : Nat, m ≠ n → (xs[m]?.map f).getD 0 = 0 := by
  induction xs with
  | nil => simp at hSum
  | cons first rest ih =>
      simp only [List.map_cons, List.sum_cons] at hSum
      by_cases hFirst : f first = 1
      · have hRest : (rest.map f).sum = 0 := by omega
        refine ⟨0, by simpa using hFirst, ?_⟩
        intro m hm
        cases m with
        | zero => exact absurd rfl hm
        | succ m =>
            rw [List.getElem?_cons_succ]
            exact eq_zero_of_sum_map_eq_zero hRest m
      · have hZero : f first = 0 := by omega
        rcases ih (by omega) with ⟨n, hOne, hOthers⟩
        refine ⟨n + 1, by simpa using hOne, ?_⟩
        intro m hm
        cases m with
        | zero => simpa using hZero
        | succ m =>
            rw [List.getElem?_cons_succ]
            exact hOthers m (by omega)

end Pool

end Courier
