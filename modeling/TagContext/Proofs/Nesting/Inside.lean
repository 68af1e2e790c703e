import TagContext.Proofs.Nesting.Nearest

namespace TagContext.Markup.Outline

theorem firstWhere_placed {o : Outline} (ordered : o.Ordered) {n : Nat} {pre rest : List Construct}
    {op : Construct} (split : o.constructs n = pre ++ op :: rest) {p : Construct → Bool} (holds : p op = true) :
    firstWhere (fun c => c.start == op.start && p c) (o.constructs n) = some (op,rest) := by
  refine firstWhere_eq_some_iff.mpr ⟨pre,split,by simp [holds],fun y member => ?_⟩
  have sorted := ordered.constructs n
  rw [split] at sorted
  have earlier := (List.pairwise_append.mp sorted).2.2 y member op List.mem_cons_self
  simp only [Bool.and_eq_false_iff,beq_eq_false_iff_ne,ne_eq]
  exact .inl (by omega)

theorem between_of_holding {o : Outline} (ordered : o.Ordered) {pos : Position} {q : Qualifier} {t : Tag}
    {c : Construct} (listed : c ∈ o.constructs pos.line) (opening : c.kind = .opening)
    (named : c.name = q.qualify t.localName)
    (holds : c.containsCursor (Text.column (o.text pos.line) pos.character) = true) :
    o.between pos q ⟨t,pos.line,c.start⟩ = false := by
  obtain ⟨pre,rest,split⟩ := List.append_of_mem listed
  have found := firstWhere_placed ordered split (p := (·.opens (q.qualify t.localName)))
    (by simp [Construct.opens,Construct.isOpening,opening,named])
  have present := lt_count_of_mem listed
  simp only [Construct.containsCursor,Bool.and_eq_true,decide_eq_true_eq] at holds
  unfold between
  dsimp only
  rw [if_neg (by omega),found]
  dsimp only
  generalize Text.column (o.text pos.line) pos.character = cursor at holds ⊢
  by_cases dense : o.dense pos.line = true
  · cases finished : c.finish with
    | none => simp [dense,opening]
    | some e =>
      have := holds.2
      simp only [Construct.lastColumn,finished,Option.getD_some] at this
      simp [dense,opening,Nat.not_lt.mpr this]
  · simp [dense,opening,holds.2]

theorem runsOn_opening {o : Outline} {name : String} {n : Nat} {parts : List String}
    (runs : o.runsOn name n parts = true) :
    ∃ last, (o.constructs n).getLast? = some last ∧ last.isOpening = true ∧ last.finish = none ∧ last.name = name := by
  unfold runsOn at runs
  cases found : (o.constructs n).getLast? with
  | none => simp [found] at runs
  | some last =>
    rw [found] at runs
    dsimp only at runs
    split at runs
    · cases runs
    · next fits =>
      simp only [Bool.or_eq_true,Bool.not_eq_eq_eq_not,Bool.not_true,bne_iff_ne,ne_eq,not_or,
        Decidable.not_not,Bool.not_eq_true] at fits
      exact ⟨last,rfl,by simpa using fits.1.1,by simpa [Construct.isTerminated] using fits.1.2,fits.2⟩

theorem continuesAbove_wrapped {o : Outline} {name : String} :
    ∀ {n : Nat} {parts : List String}, o.continuesAbove name n parts = true →
      ∃ l last, l < n ∧ (o.constructs l).getLast? = some last ∧ last.isOpening = true ∧ last.finish = none ∧
        last.name = name
  | 0,_,runs => by simp [continuesAbove] at runs
  | n + 1,parts,runs => by
    unfold continuesAbove at runs
    by_cases empty : (o.constructs n).isEmpty = true
    · rw [if_pos empty] at runs
      obtain ⟨l,last,below,rest⟩ := continuesAbove_wrapped runs
      exact ⟨l,last,by omega,rest⟩
    · rw [if_neg empty] at runs
      obtain ⟨last,found,opens,open_,named⟩ := runsOn_opening runs
      exact ⟨n,last,by omega,found,opens,open_,named⟩

end TagContext.Markup.Outline

namespace TagContext

open Markup

namespace Document

theorem opening_of_unterminated {d : Document} {o : Outline} (built : d.outline = .ok o) {n : Nat}
    {c : Construct} (listed : c ∈ o.constructs n) (opens : c.isOpening = true) (open_ : c.finish = none) :
    c.kind = .opening := by
  obtain ⟨-,rfl⟩ := outline_eq_ok built
  rw [Outline.constructs_scannedLines] at listed
  have shape := (constructs_shape _ _).selfClosing c listed opens
  simp only [Construct.isOpening,Bool.or_eq_true,beq_iff_eq] at opens
  rcases opens with opening | self
  · exact opening
  · obtain ⟨e,finished,-⟩ := shape.mp self
    rw [open_] at finished
    cases finished

end Document

-- An opening left unterminated on a line above is taken to end on its own line, so the cursor
-- inside it counts as between it and its close when a close of the tag follows the cursor.
theorem between_at_open_tag {d : Document} {o : Outline} (built : d.outline = .ok o) {pos : Position}
    {q : Qualifier} {t : Tag} (open_ : d.isOpenAt pos q t = .ok true) :
    (∀ c ∈ o.constructs pos.line, c.kind = .opening → c.name = q.qualify t.localName →
        c.containsCursor (d.cursorAt pos).character = true → d.between pos q ⟨t,pos.line,c.start⟩ = .ok false) ∧
      ((o.constructs pos.line).takeWhile (·.start < (d.cursorAt pos).character) = [] →
        ∃ l c, l < pos.line ∧ (o.constructs l).getLast? = some c ∧ c.kind = .opening ∧ c.finish = none ∧
          c.name = q.qualify t.localName ∧
          (d.between pos q ⟨t,l,c.start⟩ = .ok true ↔
            (∃ cl, d.closeOf? q t l c.start = .ok (some cl) ∧ d.cursorAt pos ≤ cl.position) ∨
              ∃ x ∈ o.constructs pos.line, x.kind = .closing ∧ x.name = q.qualify t.localName ∧
                (d.cursorAt pos).character ≤ x.start)) := by
  have ordered := Document.outline_ordered built
  have counted := Document.outline_count built
  have opened : o.isOpenAt pos q t = true :=
    Except.ok.inj ((Document.outline_map_eq built _).symm.trans open_)
  refine ⟨fun c listed opening named holds => ?_,fun empty => ?_⟩
  · have present := Outline.lt_count_of_mem listed
    rw [Document.cursorAt_character,← Document.outline_text built] at holds
    rw [Document.between_eq built (show pos.line < d.lineCount by omega),
      Outline.between_of_holding ordered listed opening named holds]
  · -- nothing starts before the cursor, so the opening wraps from above
    rcases Outline.isOpenAt_cases opened with ⟨-,above⟩ | ⟨filled,-⟩
    · obtain ⟨l,c,below,last,opens,open_,named⟩ := Outline.continuesAbove_wrapped above
      have listed : c ∈ o.constructs l := List.mem_of_getLast? last
      have present := Outline.lt_count_of_mem listed
      have opening := Document.opening_of_unterminated built listed opens open_
      obtain ⟨pre,rest,split⟩ := List.append_of_mem listed
      have found := Outline.firstWhere_placed ordered split (p := (·.opens (q.qualify t.localName)))
        (by simp [Construct.opens,opens,named])
      have apart : ¬(pos.line = l ∧ o.dense l = true) := fun same => by omega
      have between := @Outline.between_of_found o pos q ⟨t,l,c.start⟩ c rest present found opening apart
      refine ⟨l,c,below,last,opening,open_,named,?_⟩
      rw [Document.between_eq built (show l < d.lineCount by omega),Except.ok.injEq,between,
        Document.closeOf?_eq built (by omega)]
      simp only [Document.cursorAt,Document.outline_text built,Position.lt_iff,below,true_or,true_and,
        Except.ok.injEq]
    · rw [Document.outline_text built] at filled
      rw [Document.cursorAt_character] at empty
      exact absurd empty filled

theorem between_inside_wrapped_opening :
    (⟨"<xs:element name=\"a\"\n    type=\"xs:int\">\n</xs:element>"⟩ : Document).isOpenAt ⟨1,4⟩ ⟨"xs:"⟩
        .element = .ok true ∧
      (⟨"<xs:element name=\"a\"\n    type=\"xs:int\">\n</xs:element>"⟩ : Document).between ⟨1,4⟩ ⟨"xs:"⟩
        ⟨.element,0,0⟩ = .ok true :=
  ⟨by decide,by decide⟩

theorem wrapped_element_between_by_its_close :
    (⟨"<xs:element name=\"a\"\n    type=\"xs:int\">\n</xs:element>"⟩ : Document).between ⟨1,4⟩ ⟨"xs:"⟩
      ⟨.element,0,0⟩ = .ok true := by
  have built := Document.outline_of_narrow
    (d := ⟨"<xs:element name=\"a\"\n    type=\"xs:int\">\n</xs:element>"⟩) (by decide)
  have open_ : (⟨"<xs:element name=\"a\"\n    type=\"xs:int\">\n</xs:element>"⟩ : Document).isOpenAt ⟨1,4⟩
      ⟨"xs:"⟩ .element = .ok true := by decide
  obtain ⟨l,c,below,last,-,-,-,decided⟩ := (between_at_open_tag built open_).2 (by decide)
  obtain rfl : l = 0 := Nat.lt_one_iff.mp below
  have wrapped : (⟨scannedLines false
      (⟨"<xs:element name=\"a\"\n    type=\"xs:int\">\n</xs:element>"⟩ : Document).lines⟩ : Outline).constructs 0 =
        [⟨.opening,"xs:element",0,none,20⟩] := by decide
  rw [wrapped] at last
  cases last
  exact decided.mpr (.inl ⟨⟨.element,2,0⟩,by decide,by decide⟩)

end TagContext
