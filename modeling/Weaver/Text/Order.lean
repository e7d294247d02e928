import Weaver.Text.Basic

/-!
# The Order of Texts

Texts are ordered lexicographically by code point. Collections that are shown sorted are
lists kept in such an order.

## Main definitions

* `Text.compare`: the lexicographic order of two texts.
* `compareLists`: the lexicographic order that a comparison of elements gives lists.
* `insertSorted`, `sortedOfList`: sorted lists without repeated elements.
* `Increasing`: the order of the elements of such a list.

## Main results

* `increasing_sortedOfList`: `sortedOfList` puts its elements in order.
-/

namespace Weaver

/-- Compares two lists lexicographically; a proper beginning comes first. -/
def compareLists {α : Type} (cmp : α → α → Ordering) : List α → List α → Ordering
  | [], [] => .eq
  | [], _ :: _ => .lt
  | _ :: _, [] => .gt
  | a :: s, b :: t =>
    match cmp a b with
    | .lt => .lt
    | .gt => .gt
    | .eq => compareLists cmp s t

/-- Compares two texts lexicographically by code point. -/
def Text.compare (s t : Text) : Ordering :=
  compareLists (fun a b => Ord.compare a.toNat b.toNat) s t

/-- Inserts an element into a sorted list, in the place of an equal one if there is one. -/
def insertSorted {α : Type} (cmp : α → α → Ordering) (x : α) : List α → List α
  | [] => [x]
  | y :: ys =>
    match cmp x y with
    | .lt => x :: y :: ys
    | .eq => x :: ys
    | .gt => y :: insertSorted cmp x ys

/-- The elements of a list in order and without repetitions; of equal ones the last is
kept. -/
def sortedOfList {α : Type} (cmp : α → α → Ordering) (xs : List α) : List α :=
  xs.foldl (fun sorted x => insertSorted cmp x sorted) []

/-- Whether every element of a list comes before all elements behind it. -/
def Increasing {α : Type} (cmp : α → α → Ordering) (xs : List α) : Prop :=
  xs.Pairwise fun a b => cmp a b = .lt

/-! ### Comparisons that are orders -/

/-- Comparing by a key is transitive if comparing the keys is. -/
theorem transCmp_on {α β : Type} (f : α → β) (cmp : β → β → Ordering) [Std.TransCmp cmp] :
    Std.TransCmp fun a b => cmp (f a) (f b) where
  eq_swap := @fun a b => @Std.OrientedCmp.eq_swap β cmp _ (f a) (f b)
  isLE_trans := @fun a b c => @Std.TransCmp.isLE_trans β cmp _ (f a) (f b) (f c)

/-- Lists are compared as the library does it. -/
theorem compareLists_eq_compareLex {α : Type} (cmp : α → α → Ordering) :
    compareLists cmp = List.compareLex cmp := by
  funext s t
  fun_induction compareLists cmp s t <;> simp_all [List.compareLex]

instance {α : Type} (cmp : α → α → Ordering) [Std.TransCmp cmp] :
    Std.TransCmp (compareLists cmp) := by
  rw [compareLists_eq_compareLex]
  infer_instance

instance : Std.TransCmp Text.compare :=
  have := transCmp_on Char.toNat (Ord.compare (α := Nat))
  inferInstanceAs (Std.TransCmp (compareLists fun a b : Char => Ord.compare a.toNat b.toNat))

/-! ### Sorted lists -/

/-- Inserting brings nothing in but the inserted element. -/
theorem mem_or_eq_of_mem_insertSorted {α : Type} {cmp : α → α → Ordering} {x z : α}
    {ys : List α} (h : z ∈ insertSorted cmp x ys) : z = x ∨ z ∈ ys := by
  induction ys with
  | nil => simpa [insertSorted] using h
  | cons y ys ih =>
    simp only [insertSorted] at h
    split at h
    · simpa using h
    · rcases List.mem_cons.1 h with rfl | h
      · exact .inl rfl
      · exact .inr (List.mem_cons_of_mem _ h)
    · rcases List.mem_cons.1 h with rfl | h
      · exact .inr List.mem_cons_self
      · exact (ih h).imp_right (List.mem_cons_of_mem _)

/-- Inserting keeps the order. -/
theorem increasing_insertSorted {α : Type} {cmp : α → α → Ordering} [Std.TransCmp cmp] (x : α)
    {ys : List α} (h : Increasing cmp ys) : Increasing cmp (insertSorted cmp x ys) := by
  induction ys with
  | nil => simp [insertSorted, Increasing]
  | cons y ys ih =>
    obtain ⟨hy, hys⟩ := List.pairwise_cons.1 h
    simp only [insertSorted]
    split
    · next hlt =>
      refine List.pairwise_cons.2 ⟨fun z hz => ?_, h⟩
      rcases List.mem_cons.1 hz with rfl | hz
      · exact hlt
      · exact Std.TransCmp.lt_trans hlt (hy z hz)
    · next heq =>
      exact List.pairwise_cons.2 ⟨fun z hz => Std.TransCmp.lt_of_eq_of_lt heq (hy z hz), hys⟩
    · next hgt =>
      refine List.pairwise_cons.2 ⟨fun z hz => ?_, ih hys⟩
      rcases mem_or_eq_of_mem_insertSorted hz with rfl | hz
      · exact Std.OrientedCmp.lt_of_gt hgt
      · exact hy z hz

/-- Inserting by a key inserts the key among the keys. -/
theorem map_insertSorted {α β : Type} (f : α → β) (cmp : β → β → Ordering) (x : α) (ys : List α) :
    (insertSorted (fun a b => cmp (f a) (f b)) x ys).map f = insertSorted cmp (f x) (ys.map f) := by
  induction ys with
  | nil => rfl
  | cons y ys ih =>
    simp only [insertSorted, List.map_cons]
    split <;> simp [ih]

/-- **A sorted list is in order.** -/
theorem increasing_sortedOfList {α : Type} (cmp : α → α → Ordering) [Std.TransCmp cmp]
    (xs : List α) : Increasing cmp (sortedOfList cmp xs) := by
  suffices H : ∀ (xs ys : List α), Increasing cmp ys →
      Increasing cmp (xs.foldl (fun sorted x => insertSorted cmp x sorted) ys) from
    H xs [] List.Pairwise.nil
  intro xs
  induction xs with
  | nil => exact fun ys h => h
  | cons x xs ih => exact fun ys h => ih _ (increasing_insertSorted x h)

end Weaver
