import TagContext.Proofs.Outline
import TagContext.Cursor.Context
import TagContext.Completion.Basic
import TagContext.Edit.AutoClose

namespace TagContext
open Markup

-- Scanning is the one step of the resolver that can fail.

def Document.typedBefore (d : Document) (pos : Position) : String :=
  Text.upTo (d.lineOrEmpty pos.line) (Text.column (d.lineOrEmpty pos.line) pos.character)

theorem itemsOnLine_of_narrow {t : String} (narrow : NarrowComments t false) :
    itemsOnLine t = .ok (itemCount t (constructs t false)) := by
  unfold itemsOnLine itemCount
  split_ifs
  · rfl
  · rw [scan_of_narrow narrow]
    rfl

theorem isReferenceOpening_of_narrow {typed : String} (narrow : NarrowComments typed false)
    (q : Qualifier) (t : Tag) : ∃ b, isReferenceOpening typed q t = .ok b := by
  unfold isReferenceOpening
  split
  · exact ⟨_,rfl⟩
  · simp only [scan_of_narrow narrow,bind,Except.bind]
    split <;> exact ⟨_,rfl⟩

theorem singleClose_of_narrow {typed : String} (narrow : NarrowComments typed false)
    (q : Qualifier) (t : Tag) : ∃ s, singleClose typed q t = .ok s := by
  obtain ⟨b,reference⟩ := isReferenceOpening_of_narrow narrow q t
  unfold singleClose
  simp only [reference,bind,Except.bind]
  split
  · exact ⟨_,rfl⟩
  · split <;> exact ⟨_,rfl⟩

theorem severalClose_of_narrow {typed : String} (narrow : NarrowComments typed false)
    (q : Qualifier) (t : Tag) : ∃ s, severalClose typed q t = .ok s := by
  unfold severalClose
  simp only [scan_of_narrow narrow,bind,Except.bind]
  split
  · exact ⟨_,rfl⟩
  · split <;> exact ⟨_,rfl⟩

theorem Markup.Outline.closeElement_of_narrow (o : Outline) (pos : Position) (q : Qualifier)
    (narrow : NarrowComments (Text.upTo (o.text pos.line) (Text.column (o.text pos.line) pos.character)) false) :
    ∃ e, o.closeElement pos q = .ok e := by
  unfold Outline.closeElement
  simp only [itemsOnLine_of_narrow narrow,bind,Except.bind]
  split
  · exact ⟨_,rfl⟩
  · split
    · next t _ =>
      obtain ⟨one,single⟩ := singleClose_of_narrow narrow q t
      obtain ⟨more,several⟩ := severalClose_of_narrow narrow q t
      simp only [single,several]
      split
      · exact ⟨_,rfl⟩
      · -- the snippet: an inline close, or one after a single opening, or after several
        split
        · split_ifs <;> exact ⟨_,rfl⟩
        · split_ifs <;> exact ⟨_,rfl⟩
        · split <;> exact ⟨_,rfl⟩
    · exact ⟨_,rfl⟩

namespace Document

theorem outline_ok_iff (d : Document) : (∃ o, d.outline = .ok o) ↔ ScansNarrow false d.lines :=
  ⟨fun ⟨_,built⟩ => (outline_eq_ok built).1,fun narrow => ⟨_,outline_of_narrow narrow⟩⟩

theorem outline_map_of_narrow {α : Type} {d : Document} (narrow : ScansNarrow false d.lines)
    (f : Outline → α) : d.outline.map f = .ok (f ⟨scannedLines false d.lines⟩) := by
  rw [outline_of_narrow narrow]
  rfl

theorem guarded_of_narrow {α : Type} {d : Document} (narrow : ScansNarrow false d.lines) (c : Prop)
    [Decidable c] (a : α) (f : Outline → α) : ∃ r, (if c then .ok a else d.outline.map f) = .ok r := by
  split
  · exact ⟨_,rfl⟩
  · exact ⟨_,outline_map_of_narrow narrow f⟩

theorem analyze_of_narrow {d : Document} {pos : Position} (narrow : ScansNarrow false d.lines)
    (line : NarrowComments (d.lineOrEmpty pos.line) false) (q : Qualifier) :
    ∃ c, CursorContext.analyze d pos q = .ok c := by
  unfold CursorContext.analyze
  simp only [outline_of_narrow narrow,bind,Except.bind]
  rw [show d.lines.getD pos.line "" = d.lineOrEmpty pos.line from rfl,itemsOnLine_of_narrow line]
  exact ⟨_,rfl⟩

theorem completionsAt_of_narrow {d : Document} (narrow : ScansNarrow false d.lines) (pos : Position)
    (q : Qualifier) : ∃ cs, completionsAt d pos q = .ok cs := by
  unfold completionsAt
  split
  · exact ⟨_,rfl⟩
  · simp only [outline_of_narrow narrow,bind,Except.bind]
    split
    · exact ⟨_,rfl⟩
    · split <;> exact ⟨_,rfl⟩

theorem closeElement_of_narrow {d : Document} {pos : Position} (narrow : ScansNarrow false d.lines)
    (typed : NarrowComments (d.typedBefore pos) false) (q : Qualifier) :
    ∃ e, d.closeElement pos q = .ok e := by
  unfold Document.closeElement
  dsimp only
  split
  · simp only [outline_of_narrow narrow,bind,Except.bind]
    apply Outline.closeElement_of_narrow
    rw [text_scannedLines]
    exact typed
  · exact ⟨_,rfl⟩

end Document

theorem resolver_fails_only_on_wide_comments :
    (∀ (t : String) (carried : Bool),
      ((∃ f, scan t carried = .error f) ↔ ∃ c ∈ constructs t carried, WideComment t carried c) ∧
      (NarrowComments t carried → scan t carried = .ok (constructs t carried))) ∧
    (∀ d : Document, (∃ o, d.outline = .ok o) ↔ ScansNarrow false d.lines) ∧
    ∀ (d : Document) (pos : Position), ScansNarrow false d.lines →
      NarrowComments (d.lineOrEmpty pos.line) false → NarrowComments (d.typedBefore pos) false →
      ∀ (q : Qualifier) (t : Tag) (loc : Location) (line col : Nat),
        (∃ b, d.isOpenAt pos q t = .ok b) ∧ (∃ r, d.openTag? pos q = .ok r) ∧
        (∃ r, d.nearest? q line col = .ok r) ∧ (∃ r, d.closeOf? q t line col = .ok r) ∧
        (∃ r, d.unclosed? pos q = .ok r) ∧ (∃ b, d.between pos q loc = .ok b) ∧
        (∃ b, d.betweenFrom pos q t line = .ok b) ∧ (∃ r, d.enclosing? pos q = .ok r) ∧
        (∃ c, CursorContext.analyze d pos q = .ok c) ∧ (∃ cs, completionsAt d pos q = .ok cs) ∧
        (∃ e, d.closeElement pos q = .ok e) := by
  refine ⟨fun t carried => ⟨scan_fails_iff t carried,scan_of_narrow⟩,Document.outline_ok_iff,?_⟩
  intro d pos narrow line typed q t loc line' col
  have answered := fun {α : Type} (f : Outline → α) => Document.outline_map_of_narrow narrow f
  refine ⟨⟨_,answered _⟩,⟨_,answered _⟩,⟨_,answered _⟩,?_,⟨_,answered _⟩,?_,?_,⟨_,answered _⟩,
    Document.analyze_of_narrow narrow line q,Document.completionsAt_of_narrow narrow pos q,
    Document.closeElement_of_narrow narrow typed q⟩
  -- a question about an opening on a line past the end answers at once
  · unfold Document.closeOf?
    exact Document.guarded_of_narrow narrow _ _ _
  · unfold Document.between
    exact Document.guarded_of_narrow narrow _ _ _
  · unfold Document.betweenFrom
    exact Document.guarded_of_narrow narrow _ _ _

theorem resolver_answers_narrow_sequence :
    (∃ c ∈ constructs "<!-- é -->" false, WideComment "<!-- é -->" false c) ∧
    ∃ c, CursorContext.analyze ⟨"<xs:sequence>\n  <xs:element name=\"é\"/>\n</xs:sequence>"⟩ ⟨1,4⟩
      ⟨"xs:"⟩ = .ok c :=
  ⟨((resolver_fails_only_on_wide_comments.1 _ _).1.mp ⟨.wideInComment 5,by decide⟩),
    (resolver_fails_only_on_wide_comments.2.2 _ ⟨1,4⟩ (by decide) (by decide) (by decide) ⟨"xs:"⟩
      .sequence ⟨.sequence,0,0⟩ 0 0).2.2.2.2.2.2.2.2.1⟩

end TagContext
