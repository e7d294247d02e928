import Mathlib.Data.List.Perm.Basic
import Weaver.Jimple.ClassName

/-!
# Sorted Lists Determine Themselves

A list in increasing order is determined by its elements, and putting different elements into
a sorted list one after the other loses none of them, in whatever order that is done. Where the
comparison tells all elements apart, a sorted list has just the elements it is made of.

## Main results

* `Increasing.eq_of_perm`: **sorted lists with the same elements are equal**.
* `perm_sortedOfList`: sorting different elements loses none.
* `mem_sortedOfList`: what is in a sorted list.
-/

namespace Weaver

/-! ### Comparisons that tell apart -/

/-- Only equal texts compare as equal. -/
theorem Text.eq_of_compare {s t : Text} (h : Text.compare s t = .eq) : s = t := by
  induction s generalizing t with
  | nil =>
    cases t with
    | nil => rfl
    | cons d t => cases h
  | cons c s ih =>
    cases t with
    | nil => cases h
    | cons d t =>
      rw [Text.compare, compareLists] at h
      split at h
      · cases h
      · cases h
      next heq =>
        have hcd : c.toNat = d.toNat := Nat.compare_eq_eq.1 heq
        rw [Char.toNat_inj.1 hcd, ih h]

/-- Only equal names compare as equal. -/
theorem ClassName.eq_of_compare {a b : ClassName} (h : a.compare b = .eq) : a = b := by
  cases a
  cases b
  exact congrArg _ (Text.eq_of_compare h)

/-! ### Sorted lists -/

section

variable {α : Type} {cmp : α → α → Ordering}

/-- **Sorted lists with the same elements are equal.** -/
theorem Increasing.eq_of_perm [Std.TransCmp cmp] {xs ys : List α} (hxs : Increasing cmp xs)
    (hys : Increasing cmp ys) (h : xs.Perm ys) : xs = ys := by
  refine h.eq_of_pairwise (fun a b _ _ hab hba => ?_) hxs hys
  rw [Std.OrientedCmp.gt_of_lt hab] at hba
  cases hba

/-- An element does not come before itself, so none stands twice in a sorted list. -/
theorem Increasing.nodup [Std.TransCmp cmp] {xs : List α} (h : Increasing cmp xs) : xs.Nodup := by
  refine List.Pairwise.imp (fun {a b} hab heq => ?_) h
  have hself : cmp b b = .eq := Std.ReflCmp.compare_self
  rw [heq, hself] at hab
  cases hab

/-- An inserted element joins the others, if it takes the place of itself only. -/
theorem mem_insertSorted (heq : ∀ a b, cmp a b = .eq → a = b) {x z : α} {ys : List α} :
    z ∈ insertSorted cmp x ys ↔ z = x ∨ z ∈ ys := by
  induction ys with
  | nil => exact List.mem_singleton.trans (or_iff_left List.not_mem_nil).symm
  | cons y ys ih =>
    rw [insertSorted]
    split
    · exact List.mem_cons
    next hxy => rw [heq x y hxy, List.mem_cons, or_self_left]
    · rw [List.mem_cons, ih, List.mem_cons, or_left_comm]

/-- **A sorted list has the elements that it is made of**, if the comparison tells them apart. -/
theorem mem_sortedOfList (heq : ∀ a b, cmp a b = .eq → a = b) {xs : List α} {z : α} :
    z ∈ sortedOfList cmp xs ↔ z ∈ xs := by
  have hfold : ∀ ys, z ∈ xs.foldl (fun sorted x => insertSorted cmp x sorted) ys ↔
      z ∈ xs ∨ z ∈ ys := by
    induction xs with
    | nil => simp
    | cons x xs ih =>
      intro ys
      rw [List.foldl_cons, ih, mem_insertSorted heq, List.mem_cons, or_left_comm, or_assoc]
  exact (hfold []).trans (or_iff_left List.not_mem_nil)

/-- Nothing is lost when an element goes among others. -/
theorem perm_insertSorted {x : α} {ys : List α} (h : ∀ y ∈ ys, cmp x y ≠ .eq) :
    (insertSorted cmp x ys).Perm (x :: ys) := by
  induction ys with
  | nil => exact .refl _
  | cons y ys ih =>
    rw [List.forall_mem_cons] at h
    rw [insertSorted]
    split
    · exact .refl _
    next heq => exact absurd heq h.1
    · exact ((ih h.2).cons y).trans (.swap x y ys)

/-- **Nothing is lost** when different elements are inserted one after the other. -/
theorem perm_foldl_insertSorted [Std.TransCmp cmp] {xs ys : List α}
    (h : (ys ++ xs).Pairwise fun a b => cmp a b ≠ .eq) :
    (xs.foldl (fun sorted x => insertSorted cmp x sorted) ys).Perm (ys ++ xs) := by
  have hsymm : ∀ {a b : α}, cmp a b ≠ .eq → cmp b a ≠ .eq :=
    fun hab hba => hab (Std.OrientedCmp.eq_symm hba)
  induction xs generalizing ys with
  | nil => rw [List.foldl_nil, List.append_nil]
  | cons x xs ih =>
    have hx : ∀ y ∈ ys, cmp x y ≠ .eq := fun y hy =>
      hsymm ((List.pairwise_append.1 h).2.2 y hy x List.mem_cons_self)
    have hperm : (insertSorted cmp x ys ++ xs).Perm (ys ++ x :: xs) :=
      ((perm_insertSorted hx).append_right xs).trans List.perm_middle.symm
    exact (ih ((hperm.pairwise_iff hsymm).2 h)).trans hperm

/-- **Sorting different elements** loses none. -/
theorem perm_sortedOfList [Std.TransCmp cmp] {xs : List α}
    (h : xs.Pairwise fun a b => cmp a b ≠ .eq) : (sortedOfList cmp xs).Perm xs :=
  perm_foldl_insertSorted h

end

end Weaver
