import Weaver.Proofs.Jimple.Bounds.Blame

/-!
# What Reading Ensures

Whatever text is given to the readers of classes and bodies, they come to an end. They are never
stopped by an offset out of range or inside a character, nor by a counter that has nothing to count
down from; a fault is put on a line of the text that counts; and whatever is read has used up every
line that counts, in order and exactly once.

## Convention

`ByteReader.class?` and `ByteReader.body?` are the readers as they run over bytes, with one cursor
over the lines; a stop is `none`. White space at both ends of a line does not matter, and a line
that is then empty or begins with two slashes does not count.

## Main definitions

* `Text.UsedUp`: lines that are those of a text.
* `Class.ReadingLaw`, `Body.ReadingLaw`: what holds of reading one text.

## Main results

* `readingLaw`: it holds of **every text** and every method.
-/

namespace Weaver

/-- The lines are all lines of the text that count, in order and each once. -/
structure Text.UsedUp (s : Text) (lines : List Line) : Prop where
  complete : ∀ line, line ∈ lines ↔ s.HasLine line
  once : lines.Pairwise fun line line' => line.number < line'.number

/-- The significant lines of a text use it up. -/
theorem usedUp_significantLines (s : Text) : s.UsedUp (significantLines s) where
  complete _ := mem_significantLines_iff
  once := pairwise_significantLines s

/-- A text has a line that counts as soon as one is read. -/
theorem significantLines_eq_nil_iff {s : Text} :
    significantLines s = [] ↔ ∀ line, ¬s.HasLine line := by
  rw [List.eq_nil_iff_forall_not_mem]
  exact forall_congr' fun line => not_congr mem_significantLines_iff

/-- A fault is put on a line that the text has. -/
theorem Fault.Blames.hasLine {s : Text} {fault : Fault} (h : fault.Blames (significantLines s)) :
    ∃ line why, s.HasLine line ∧ fault = .read line.number why := by
  obtain ⟨line, hline, why, hfault⟩ := h
  exact ⟨line, why, mem_significantLines_iff.1 hline, hfault⟩

/-- **Reading a class.** -/
structure Class.ReadingLaw (s : Text) : Prop where
  /-- The reader is never stopped. -/
  unstopped : ByteReader.class? s = some (Class.read s)
  /-- Without a line that counts there is nothing to blame. -/
  empty : (∀ line, ¬s.HasLine line) → Class.read s = .error (.read 0 .emptyFile)
  blame : ∀ fault, Class.read s = .error fault → (∃ line, s.HasLine line) →
    ∃ line why, s.HasLine line ∧ fault = .read line.number why
  /-- Every line is the header, a brace, a field, the header of a method or part of a body. -/
  outline : ∀ c, Class.read s = .ok c → ∃ o : ClassOutline, c.OutlinedBy o ∧ s.UsedUp o.lines

/-- **Reading a body** of the method that `method` refers to. -/
structure Body.ReadingLaw (method s : Text) : Prop where
  /-- The reader is never stopped. -/
  unstopped : ByteReader.body? method s = some (Body.read method s)
  blame : ∀ m, MethodRef.read method = .ok m → ∀ fault, Body.read method s = .error fault →
    ∃ line why, s.HasLine line ∧ fault = .read line.number why
  /-- Every line is a brace, a declaration, a label, a statement or part of one switch. -/
  outline : ∀ b, Body.read method s = .ok b → ∃ (m : MethodRef) (o : BodyOutline)
    (lines : List Line), MethodRef.read method = .ok m ∧ o.Leads true (.empty m) b ∧
      o.Spans lines ∧ s.UsedUp lines

/-- **The law of reading**, for every text and every method. -/
theorem readingLaw (s : Text) : Class.ReadingLaw s ∧ ∀ method, Body.ReadingLaw method s := by
  refine ⟨⟨ByteReader.class?_eq s, fun hnone => ?_, fun fault hfault hline => ?_, fun c hc => ?_⟩,
    fun method => ⟨ByteReader.body?_eq method s, fun m hm fault hfault => ?_, fun b hb => ?_⟩⟩
  · rw [Class.read, significantLines_eq_nil_iff.2 hnone]
  · obtain ⟨line, hline⟩ := hline
    have hall : significantLines s ≠ [] := fun hnil =>
      significantLines_eq_nil_iff.1 hnil line hline
    exact (Class.blames_of_read hall hfault).hasLine
  · obtain ⟨o, hlines, ho⟩ := Class.exists_outline hc
    exact ⟨o, ho, hlines ▸ usedUp_significantLines s⟩
  · exact (Body.blames_of_read hm hfault).hasLine
  · obtain ⟨m, o, hm, ho, hspans⟩ := Body.exists_outline hb
    exact ⟨m, o, _, hm, ho, hspans, usedUp_significantLines s⟩

/-- The end of a text is blamed on the last line that counts, not on the comment behind it. -/
example : Class.read "class A\n\n  // empty\n".toList =
    .error (.read 1 (.expected openingBrace none)) := rfl

example : Class.read "// nothing\n".toList = .error (.read 0 .emptyFile) := rfl

end Weaver
