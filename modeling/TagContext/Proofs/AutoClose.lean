import TagContext.Proofs.Total
import TagContext.Proofs.Nesting.Nearest

namespace TagContext

open Markup

-- The edit on a typed `>` reads only the text typed before the cursor and the verdict on unclosed
-- tags: it never asks whether that `>` ends a tag.

def closingSnippet (typed : String) (q : Qualifier) (t : Tag) : Except ScanFault (Option String) := do
  let openings ← itemsOnLine typed
  if !t.closable && openings != 0 then return none
  match openings with
  | 0 => pure (if Text.contains typed "</" then none else some (Snippet.inlineClose q t))
  | 1 => if Text.contains typed "</" then pure none else some <$> singleClose typed q t
  | _ => severalClose typed q t

theorem singleClose_cases {typed : String} {q : Qualifier} {t : Tag} {s : String}
    (closed : singleClose typed q t = .ok s) :
    s = Snippet.selfClose ∨ s = Snippet.variableClose q t ∨ s = Snippet.blockClose q t (Text.leadingBlank typed) := by
  unfold singleClose at closed
  cases reference : isReferenceOpening typed q t with
  | error f => simp [reference,bind,Except.bind] at closed
  | ok b =>
    simp only [reference,bind,Except.bind] at closed
    cases b with
    | true => exact .inl (Except.ok.inj closed).symm
    | false =>
      rw [if_neg Bool.false_ne_true] at closed
      -- variables are closed after the cursor, other tags by a block
      split at closed
      · exact .inr (.inl (Except.ok.inj closed).symm)
      · exact .inr (.inl (Except.ok.inj closed).symm)
      · exact .inr (.inr (Except.ok.inj closed).symm)

theorem severalClose_eq_some {typed : String} {q : Qualifier} {t : Tag} {s : String}
    (closed : severalClose typed q t = .ok (some s)) : s = Snippet.inlineClose q t := by
  unfold severalClose at closed
  cases scanned : scan typed false with
  | error f => simp [scanned,bind,Except.bind] at closed
  | ok cs =>
    simp only [scanned,bind,Except.bind] at closed
    split at closed
    · cases closed
    · split at closed
      · exact (Option.some.inj (Except.ok.inj closed)).symm
      · cases closed

theorem closingSnippet_cases {typed : String} {q : Qualifier} {t : Tag} {s : String}
    (closed : closingSnippet typed q t = .ok (some s)) :
    s = Snippet.inlineClose q t ∨ s = Snippet.variableClose q t ∨ s = Snippet.selfClose ∨
      s = Snippet.blockClose q t (Text.leadingBlank typed) := by
  unfold closingSnippet at closed
  cases counted : itemsOnLine typed with
  | error f => simp [counted,bind,Except.bind] at closed
  | ok n =>
    simp only [counted,bind,Except.bind] at closed
    split at closed
    · cases closed
    · -- no opening, one, or several
      rcases n with _ | _ | n
      · cases marked : Text.contains typed "</" <;> simp [marked,pure,Except.pure] at closed
        exact .inl closed.symm
      · cases marked : Text.contains typed "</"
        · cases single : singleClose typed q t with
          | error f => simp [marked,single,Functor.map,Except.map] at closed
          | ok r =>
            simp only [marked,single,Functor.map,Except.map,Bool.false_eq_true,if_false,Except.ok.injEq,
              Option.some.injEq] at closed
            subst closed
            rcases singleClose_cases single with self | deferred | block
            · exact .inr (.inr (.inl self))
            · exact .inr (.inl deferred)
            · exact .inr (.inr (.inr block))
        · simp [marked,pure,Except.pure] at closed
      · exact .inl (severalClose_eq_some closed)

theorem closingSnippet_of_none_opened {typed : String} {q : Qualifier} {t : Tag}
    (none_open : itemsOnLine typed = .ok 0) (unmarked : Text.contains typed "</" = false) :
    closingSnippet typed q t = .ok (some (Snippet.inlineClose q t)) := by
  unfold closingSnippet
  simp [none_open,unmarked,bind,Except.bind,pure,Except.pure]

theorem closingSnippet_of_one_opened {typed : String} {q : Qualifier} {t : Tag} {s : String}
    (one : itemsOnLine typed = .ok 1) (closable : t.closable = true) (unmarked : Text.contains typed "</" = false)
    (single : singleClose typed q t = .ok s) : closingSnippet typed q t = .ok (some s) := by
  unfold closingSnippet
  simp [one,closable,unmarked,single,bind,Except.bind,Functor.map,Except.map]

namespace Markup.Outline

def typedBefore (o : Outline) (pos : Position) : String :=
  Text.upTo (o.text pos.line) (Text.column (o.text pos.line) pos.character)

def cursorAt (o : Outline) (pos : Position) : Position :=
  ⟨pos.line,Text.column (o.text pos.line) pos.character⟩

theorem closeElement_eq (o : Outline) (pos : Position) (q : Qualifier) :
    o.closeElement pos q =
      if (o.typedBefore pos).endsWith ">" then
        match o.unclosed? pos q with
        | none => .ok none
        | some t => (closingSnippet (o.typedBefore pos) q t).map
            (Option.map fun s => ⟨⟨(o.cursorAt pos).back 1,o.cursorAt pos⟩,s⟩)
      else .ok none := by
  unfold closeElement closingSnippet
  dsimp only
  rw [show Text.upTo (o.text pos.line) (Text.column (o.text pos.line) pos.character) = o.typedBefore pos from rfl,
    show (⟨pos.line,Text.column (o.text pos.line) pos.character⟩ : Position) = o.cursorAt pos from rfl]
  generalize o.typedBefore pos = typed
  generalize o.cursorAt pos = stop
  cases typed.endsWith ">"
  · rfl
  · cases o.unclosed? pos q with
    | none => rfl
    | some t =>
      cases itemsOnLine typed with
      | error f => rfl
      | ok n =>
        dsimp only [bind,Except.bind]
        rw [if_neg (by decide),if_pos rfl]
        by_cases skipped : (!t.closable && n != 0) = true
        · rw [if_pos skipped,if_pos skipped]
          rfl
        · rw [if_neg skipped,if_neg skipped]
          -- the snippet after no opening, one, or several
          rcases n with _ | _ | n
          · cases Text.contains typed "</" <;> rfl
          · cases Text.contains typed "</"
            · cases singleClose typed q t <;> rfl
            · rfl
          · cases severalClose typed q t with
            | error f => rfl
            | ok s => cases s <;> rfl

theorem closeElement_of_unclosed {o : Outline} {pos : Position} {q : Qualifier} {t : Tag}
    (ends : (o.typedBefore pos).endsWith ">" = true) (found : o.unclosed? pos q = some t) :
    o.closeElement pos q = (closingSnippet (o.typedBefore pos) q t).map
      (Option.map fun s => ⟨⟨(o.cursorAt pos).back 1,o.cursorAt pos⟩,s⟩) := by
  rw [closeElement_eq,if_pos ends,found]

theorem closeElement_eq_some {o : Outline} {pos : Position} {q : Qualifier} {e : SnippetEdit}
    (answered : o.closeElement pos q = .ok (some e)) :
    (o.typedBefore pos).endsWith ">" = true ∧ ∃ t, o.unclosed? pos q = some t ∧
      e.range = ⟨(o.cursorAt pos).back 1,o.cursorAt pos⟩ ∧
      (e.snippet = Snippet.inlineClose q t ∨ e.snippet = Snippet.variableClose q t ∨
        e.snippet = Snippet.selfClose ∨ e.snippet = Snippet.blockClose q t (Text.leadingBlank (o.typedBefore pos))) := by
  rw [closeElement_eq] at answered
  split at answered
  · next ends =>
    refine ⟨ends,?_⟩
    split at answered
    · cases answered
    · next t found =>
      cases closed : closingSnippet (o.typedBefore pos) q t with
      | error f => simp [closed,Except.map] at answered
      | ok r =>
        simp only [closed,Except.map,Except.ok.injEq,Option.map_eq_some_iff] at answered
        obtain ⟨s,rfl,rfl⟩ := answered
        exact ⟨t,found,rfl,closingSnippet_cases closed⟩
  · cases answered

theorem closeElement_congr {o o' : Outline} {pos : Position} {q : Qualifier}
    (line : o'.text pos.line = o.text pos.line) (verdict : o'.unclosed? pos q = o.unclosed? pos q) :
    o'.closeElement pos q = o.closeElement pos q := by
  rw [closeElement_eq,closeElement_eq,verdict]
  unfold typedBefore cursorAt
  rw [line]

end Markup.Outline

namespace Document

theorem typedBefore_eq {d : Document} {o : Outline} (built : d.outline = .ok o) (pos : Position) :
    o.typedBefore pos = d.typedBefore pos := by
  unfold Outline.typedBefore typedBefore
  rw [outline_text built]

theorem cursorAt_eq {d : Document} {o : Outline} (built : d.outline = .ok o) (pos : Position) :
    o.cursorAt pos = d.cursorAt pos := by
  unfold Outline.cursorAt cursorAt
  rw [outline_text built]

theorem closeElement_eq_outline {d : Document} {o : Outline} (built : d.outline = .ok o) (pos : Position)
    (q : Qualifier) : d.closeElement pos q = o.closeElement pos q := by
  unfold Document.closeElement
  dsimp only
  split
  · rw [built]
    exact pure_bind o _
  · next ends =>
    rw [Outline.closeElement_eq,if_neg]
    rw [typedBefore_eq built]
    exact ends

theorem unclosed?_eq_ok {d : Document} {pos : Position} {q : Qualifier} {r : Option Tag}
    (verdict : d.unclosed? pos q = .ok r) : ∃ o, d.outline = .ok o ∧ o.unclosed? pos q = r := by
  unfold Document.unclosed? at verdict
  cases built : d.outline with
  | error f => simp [built,Except.map] at verdict
  | ok o => exact ⟨o,rfl,by simpa [built,Except.map] using verdict⟩

theorem outline_of_closeElement {d : Document} {pos : Position} {q : Qualifier} {e : SnippetEdit}
    (answered : d.closeElement pos q = .ok (some e)) : ∃ o, d.outline = .ok o := by
  cases built : d.outline with
  | error f =>
    unfold Document.closeElement at answered
    dsimp only at answered
    rw [built] at answered
    split at answered <;> cases answered
  | ok o => exact ⟨o,rfl⟩

theorem closeElement_congr {d d' : Document} {pos : Position} {q : Qualifier}
    (line : d'.lineOrEmpty pos.line = d.lineOrEmpty pos.line) (verdict : d'.unclosed? pos q = d.unclosed? pos q) :
    d'.closeElement pos q = d.closeElement pos q := by
  cases built : d.outline with
  | error f =>
    have broken : d'.outline = .error f := by
      cases built' : d'.outline with
      | error f' => simpa [Document.unclosed?,built,built',Except.map] using verdict
      | ok o' => simp [Document.unclosed?,built,built',Except.map] at verdict
    unfold Document.closeElement
    dsimp only
    rw [line,built,broken]
  | ok o =>
    obtain ⟨o',built',found⟩ := unclosed?_eq_ok (verdict.trans (outline_map_eq built _))
    rw [closeElement_eq_outline built,closeElement_eq_outline built']
    refine Outline.closeElement_congr ?_ found
    rw [outline_text built,outline_text built',line]

end Document

-- Typed text that opens nothing and holds no `</` is closed inline, so also a `>` that ends a
-- comment; one opening of a tag closed automatically gets its snippet, so also a `>` in a quoted value.
theorem typed_greater_closes_unclosed_tag (d : Document) (pos : Position) (q : Qualifier) :
    ((d.typedBefore pos).endsWith ">" = false → d.closeElement pos q = .ok none) ∧
      (d.unclosed? pos q = .ok none → d.closeElement pos q = .ok none) ∧
      (∀ e, d.closeElement pos q = .ok (some e) →
        (d.typedBefore pos).endsWith ">" = true ∧ ∃ t, d.unclosed? pos q = .ok (some t) ∧
          e.range = ⟨(d.cursorAt pos).back 1,d.cursorAt pos⟩ ∧
          (e.snippet = Snippet.inlineClose q t ∨ e.snippet = Snippet.variableClose q t ∨
            e.snippet = Snippet.selfClose ∨ e.snippet = Snippet.blockClose q t (Text.leadingBlank (d.typedBefore pos)))) ∧
      (∀ t, (d.typedBefore pos).endsWith ">" = true → d.unclosed? pos q = .ok (some t) →
        Text.contains (d.typedBefore pos) "</" = false →
        (itemsOnLine (d.typedBefore pos) = .ok 0 →
          d.closeElement pos q = .ok (some ⟨⟨(d.cursorAt pos).back 1,d.cursorAt pos⟩,Snippet.inlineClose q t⟩)) ∧
        ∀ s, t.closable = true → itemsOnLine (d.typedBefore pos) = .ok 1 → singleClose (d.typedBefore pos) q t = .ok s →
          d.closeElement pos q = .ok (some ⟨⟨(d.cursorAt pos).back 1,d.cursorAt pos⟩,s⟩)) ∧
      ∀ d' : Document, d'.lineOrEmpty pos.line = d.lineOrEmpty pos.line → d'.unclosed? pos q = d.unclosed? pos q →
        d'.closeElement pos q = d.closeElement pos q := by
  refine ⟨fun ends => ?_,fun balanced => ?_,fun e answered => ?_,fun t ends verdict unmarked => ?_,
    fun d' line verdict => ?_⟩
  · unfold Document.closeElement
    rw [if_neg (by simpa [Document.typedBefore] using ends)]
  · obtain ⟨o,built,balanced⟩ := Document.unclosed?_eq_ok balanced
    rw [Document.closeElement_eq_outline built,Outline.closeElement_eq,balanced]
    split <;> rfl
  · obtain ⟨o,built⟩ := Document.outline_of_closeElement answered
    rw [Document.closeElement_eq_outline built] at answered
    obtain ⟨ends,t,found,range,closes⟩ := Outline.closeElement_eq_some answered
    rw [Document.typedBefore_eq built,Document.cursorAt_eq built] at *
    exact ⟨ends,t,by rw [← found]; exact Document.outline_map_eq built _,range,closes⟩
  · obtain ⟨o,built,found⟩ := Document.unclosed?_eq_ok verdict
    have typed := (congrArg (·.endsWith ">") (Document.typedBefore_eq built pos)).trans ends
    have edit := Outline.closeElement_of_unclosed typed found
    rw [Document.typedBefore_eq built,Document.cursorAt_eq built] at edit
    rw [Document.closeElement_eq_outline built,edit]
    refine ⟨fun none_open => ?_,fun s closable one single => ?_⟩
    · rw [closingSnippet_of_none_opened none_open unmarked]
      rfl
    · rw [closingSnippet_of_one_opened one closable unmarked single]
      rfl
  · exact Document.closeElement_congr line verdict

theorem quoted_greater_closes_element :
    (⟨"<xs:sequence>\n<xs:element name=\"a\" dfdl:length=\"\x7b ../b >"⟩ : Document).closeElement ⟨1,42⟩ ⟨"xs:"⟩ =
      .ok (some ⟨⟨⟨1,41⟩,⟨1,42⟩⟩,Snippet.blockClose ⟨"xs:"⟩ .element ""⟩) := by
  have listed : (⟨"<xs:sequence>\n<xs:element name=\"a\" dfdl:length=\"\x7b ../b >"⟩ : Document).lines = ["<xs:sequence>","<xs:element name=\"a\" dfdl:length=\"\x7b ../b >"] := by
    rw [Document.lines_eq_pieces]
    decide +kernel
  have typed : (⟨"<xs:sequence>\n<xs:element name=\"a\" dfdl:length=\"\x7b ../b >"⟩ : Document).typedBefore ⟨1,42⟩ = "<xs:element name=\"a\" dfdl:length=\"\x7b ../b >" := by
    rw [Document.typedBefore,Document.lineOrEmpty,listed]
    decide
  have verdict : (⟨"<xs:sequence>\n<xs:element name=\"a\" dfdl:length=\"\x7b ../b >"⟩ : Document).unclosed? ⟨1,42⟩ ⟨"xs:"⟩ = .ok (some .element) := by
    rw [Document.unclosed?,Document.outline,listed]
    decide
  have single := ((typed_greater_closes_unclosed_tag ⟨"<xs:sequence>\n<xs:element name=\"a\" dfdl:length=\"\x7b ../b >"⟩ ⟨1,42⟩ ⟨"xs:"⟩).2.2.2.1 .element
    (by rw [typed]; decide +kernel) verdict (by rw [typed]; decide +kernel)).2
      (Snippet.blockClose ⟨"xs:"⟩ .element "") rfl (by rw [typed]; decide +kernel) (by rw [typed]; decide +kernel)
  have cursor : (⟨"<xs:sequence>\n<xs:element name=\"a\" dfdl:length=\"\x7b ../b >"⟩ : Document).cursorAt ⟨1,42⟩ = ⟨1,42⟩ := by
    rw [Document.cursorAt,Document.lineOrEmpty,listed]
    decide
  rwa [cursor] at single

theorem comment_end_closes_sequence :
    (⟨"<xs:sequence>\n<!-- c -->"⟩ : Document).outline.map (·.constructs 1) = .ok [⟨.comment,"",0,some 9,10⟩] ∧
      (⟨"<xs:sequence>\n<!-- c -->"⟩ : Document).closeElement ⟨1,10⟩ ⟨"xs:"⟩ =
        .ok (some ⟨⟨⟨1,9⟩,⟨1,10⟩⟩,"></xs:sequence>$0"⟩) := by
  have listed : (⟨"<xs:sequence>\n<!-- c -->"⟩ : Document).lines = ["<xs:sequence>","<!-- c -->"] := by
    rw [Document.lines_eq_pieces]
    decide +kernel
  refine ⟨?_,?_⟩
  · rw [Document.outline,listed]
    decide
  · rw [Document.closeElement,Document.lineOrEmpty,Document.outline,listed]
    decide +kernel

end TagContext
