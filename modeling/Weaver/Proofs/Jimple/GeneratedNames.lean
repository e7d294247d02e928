import Weaver.Proofs.Jimple.FreshLocals
import Weaver.Proofs.Jimple.Parts

/-!
# The Search for a Generated Name

A program searches for a free name by trial: it asks for the number 0, then 1, and so on, and
nothing in the search itself says that it ends. Here the trials are a relation of their own, and
the bound comes from the locals: different numbers give different names, so the candidates that
are taken are at most as many as the locals.

A generated name is also new to the statements, if the words in them that are spelled like
generated names are declared. Nothing is asked of other words, so that keywords, labels and the
names of classes need not be declared.

## Main definitions

* `Body.Search`: the trials from a number on.
* `Body.generateLocals`: locals of several types, generated one after the other.
* `Body.GenerationLaw`: what generating locals does to a body.

## Main results

* `Body.search_freshNumber`: **the trials end at the least free number**.
* `Body.freshNumber_le`: their number is bounded by the locals.
* `Body.generateLocals_eq`: every local that is generated is fresh in its turn.
* `Body.generationLaw`.
-/

namespace Weaver

namespace Body

/-! ### Trials -/

/-- **The search by trial**, from the number `n` on: after `tried` candidates it ends at the
number `found`. -/
inductive Search (b : Body) (ty : Ty) : (n tried found : Nat) → Prop where
  /-- The candidate is free. -/
  | hit {n : Nat} (hfree : generatedName ty n ∉ b.names) : Search b ty n 1 n
  /-- The candidate is taken, and the next number is tried. -/
  | miss {n tried found : Nat} (htaken : generatedName ty n ∈ b.names)
      (hrest : Search b ty (n + 1) tried found) : Search b ty n (tried + 1) found

/-- A search ends in one way. -/
theorem Search.unique {b : Body} {ty : Ty} {n tried tried' found found' : Nat}
    (h : b.Search ty n tried found) (h' : b.Search ty n tried' found') :
    tried = tried' ∧ found = found' := by
  induction h generalizing tried' with
  | hit hfree =>
    cases h' with
    | hit => exact ⟨rfl, rfl⟩
    | miss htaken => exact absurd htaken hfree
  | miss htaken _ ih =>
    cases h' with
    | hit hfree => exact absurd htaken hfree
    | miss _ hrest =>
      obtain ⟨htried, hfound⟩ := ih hrest
      exact ⟨congrArg (· + 1) htried, hfound⟩

/-- Candidates that are all taken are passed over. -/
theorem Search.of_taken {b : Body} {ty : Ty} {n tried found : Nat}
    (h : b.Search ty n tried found) (htaken : ∀ k < n, generatedName ty k ∈ b.names) :
    b.Search ty 0 (n + tried) found := by
  induction n generalizing tried with
  | zero => rwa [Nat.zero_add]
  | succ n ih =>
    have hprevious : b.Search ty n (tried + 1) found := h.miss (htaken n n.lt_succ_self)
    have hall := ih hprevious fun k hk => htaken k (Nat.lt_succ_of_lt hk)
    rwa [← Nat.add_assoc, Nat.add_right_comm] at hall

/-- **The trials end at the least free number.** -/
theorem search_freshNumber (b : Body) (ty : Ty) :
    b.Search ty 0 (b.freshNumber ty + 1) (b.freshNumber ty) := by
  obtain ⟨hfree, hbefore⟩ := b.freshNumber_spec ty
  have hlast : b.Search ty (b.freshNumber ty) 1 (b.freshNumber ty) :=
    .hit (declares_eq_false_iff.1 hfree)
  exact hlast.of_taken fun k hk => declares_iff.1 (hbefore k hk)

/-- **The bound on the trials**: one of the first numbers is free, and no number before the
found one is. -/
theorem freshNumber_le (b : Body) (ty : Ty) : b.freshNumber ty ≤ b.locals.length := by
  obtain ⟨n, hn, hfree⟩ := exists_generatedName_free b ty
  rw [List.mem_range] at hn
  by_contra hlt
  have htaken := (b.freshNumber_spec ty).2 n (by omega)
  rw [hfree] at htaken
  cases htaken

/-! ### Generating several locals -/

/-- Locals of the given types, generated one after the other. -/
def generateLocals (b : Body) : List Ty → List Local × Body
  | [] => ([], b)
  | ty :: tys =>
    let (l, b') := b.generateLocal ty
    let (ls, b'') := b'.generateLocals tys
    (l :: ls, b'')

/-- **Every local that is generated is fresh in its turn.** -/
theorem generateLocals_eq (b : Body) (tys : List Ty) :
    ∃ ls : List Local, ls.map Local.ty = tys ∧ b.FreshInTurn ls ∧
      b.generateLocals tys = (ls, b.withLocals ls) := by
  induction tys generalizing b with
  | nil => exact ⟨[], rfl, trivial, by rw [withLocals_nil, generateLocals]⟩
  | cons ty tys ih =>
    obtain ⟨l, hty, hfresh, hl⟩ := b.isFresh_generateLocal ty
    obtain ⟨ls, htys, hrest, hls⟩ := ih (b.withLocals [l])
    refine ⟨l :: ls, by rw [List.map_cons, hty, htys], ⟨hfresh, hrest⟩, ?_⟩
    simp only [generateLocals, hl, hls]
    rw [← withLocals_append, List.singleton_append]

/-- Locals that are fresh in their turn have names that are new and distinct, whatever the
names of the body are. -/
theorem FreshInTurn.names_new {b : Body} {ls : List Local} (h : b.FreshInTurn ls) :
    (ls.map Local.name).Nodup ∧ ∀ l ∈ ls, l.name ∉ b.names := by
  induction ls generalizing b with
  | nil => exact ⟨List.nodup_nil, fun l hl => absurd hl List.not_mem_nil⟩
  | cons l ls ih =>
    obtain ⟨⟨n, -, hfree, -⟩, hrest⟩ := h
    obtain ⟨hnd, hnew⟩ := ih hrest
    have hsplit : ∀ l' ∈ ls, l'.name ∉ b.names ∧ l'.name ≠ l.name := by
      intro l' hl'
      simpa [not_or] using hnew l' hl'
    constructor
    · rw [List.map_cons, List.nodup_cons, List.mem_map]
      refine ⟨?_, hnd⟩
      rintro ⟨l', hl', hname⟩
      exact (hsplit l' hl').2 hname
    · intro l' hl'
      obtain rfl | hl' := List.mem_cons.1 hl'
      · exact hfree
      · exact (hsplit l' hl').1

/-! ### Names and statements -/

/-- **The locals that the statements use are declared**, as far as a generated name may be
confused with them: of the operands and of the words of verbatim code outside literals and
references, those that are spelled like generated names. -/
def DeclaresUsed (b : Body) : Prop :=
  ∀ s ∈ b.statements, ∀ name ∈ s.identifiers, (∃ ty n, name = generatedName ty n) →
    name ∈ b.names

/-- **Generating locals.** The search by trial ends after at most one candidate more than there
are locals, at the least free number. The name is a dollar sign, the letter of the type and that
number; it is declared with the type behind the other locals, and nothing else changes. Calls
one after the other give distinct new names, and no statement uses a new name. -/
structure GenerationLaw (b : Body) : Prop where
  ends (ty : Ty) : ∃ tried ≤ b.locals.length + 1, b.Search ty 0 tried (b.freshNumber ty)
  least (ty : Ty) : generatedName ty (b.freshNumber ty) ∉ b.names ∧
    ∀ k < b.freshNumber ty, generatedName ty k ∈ b.names
  declared (ty : Ty) :
    let l : Local := ⟨'$' :: ty.localLetter :: natText (b.freshNumber ty), ty⟩
    b.generateLocal ty = (l, { b with locals := b.locals ++ [l] })
  successive (tys : List Ty) : ∃ ls : List Local, ls.map Local.ty = tys ∧
    b.generateLocals tys = (ls, { b with locals := b.locals ++ ls }) ∧
    (ls.map Local.name).Nodup ∧ ∀ l ∈ ls, l.name ∉ b.names
  unused (h : b.DeclaresUsed) (ty : Ty) :
    ∀ s ∈ b.statements, (b.generateLocal ty).1.name ∉ s.identifiers

/-- **Every body obeys the law.** -/
theorem generationLaw (b : Body) : b.GenerationLaw where
  ends ty := ⟨_, Nat.succ_le_succ (b.freshNumber_le ty), b.search_freshNumber ty⟩
  least ty := by
    obtain ⟨hfree, hbefore⟩ := b.freshNumber_spec ty
    exact ⟨declares_eq_false_iff.1 hfree, fun k hk => declares_iff.1 (hbefore k hk)⟩
  declared ty := rfl
  successive tys := by
    obtain ⟨ls, htys, hfresh, hls⟩ := b.generateLocals_eq tys
    exact ⟨ls, htys, hls, hfresh.names_new⟩
  unused h ty s hs hmem := by
    have hdeclared := h s hs _ hmem ⟨ty, b.freshNumber ty, rfl⟩
    exact declares_eq_false_iff.1 (b.freshNumber_spec ty).1 hdeclared

end Body

/-! ### A body with generated locals -/

namespace SampleCounter

/-- The class with the loop. -/
def owner : ClassName :=
  ⟨"a.Main".toList⟩

/-- A loop over two generated locals; the number between theirs is free. -/
def body : Body where
  method := { cls := owner, sig := ⟨.void, "run".toList, []⟩ }
  locals := [⟨"$i0".toList, .int⟩, ⟨"$i2".toList, .int⟩, ⟨"r0".toList, .ref owner⟩]
  stmts := Body.numbered 0 [
    .identity "r0".toList (.this (.ref owner)),
    .label "label1".toList,
    .assign (.var "$i2".toList) (.verbatim "$i0 + 1".toList),
    .verbatim "if $i2 < 10 goto label1".toList,
    .ret none]
  nextId := 5

/-- The gap between the generated names is filled, by a name that no statement uses. -/
theorem generationLaw_body :
    body.DeclaresUsed ∧ (body.generateLocal .int).1.name = "$i1".toList ∧
      ∀ s ∈ body.statements, "$i1".toList ∉ s.identifiers := by
  have hused : body.DeclaresUsed := by
    have hdollar : ∀ s ∈ body.statements, ∀ name ∈ s.identifiers, name.head? = some '$' →
        name ∈ body.names := by decide +kernel
    rintro s hs name hname ⟨ty, n, rfl⟩
    exact hdollar s hs _ hname rfl
  have hname : (body.generateLocal .int).1.name = "$i1".toList := by decide +kernel
  refine ⟨hused, hname, ?_⟩
  rw [← hname]
  exact body.generationLaw.unused hused .int

end SampleCounter

end Weaver
