import Mathlib.Data.List.Perm.Subperm
import TagContext.Proofs.Nesting.Nearest

namespace TagContext.Markup.Outline

-- The candidates the search for the enclosing tag tries: each next one is the nearest structural
-- tag before the last.
def trail (o : Outline) (q : Qualifier) (cand : Location) : List Location :=
  cand :: match found : o.nearest? q cand.line cand.character with
    | none => []
    | some next =>
      have := nearest?_lt found
      o.trail q next
termination_by (cand.line,cand.character)
decreasing_by
  rcases this with higher | ⟨same,left⟩
  · exact Prod.Lex.left _ _ higher
  · rw [same]
    exact Prod.Lex.right _ left

def enclosingTrail (o : Outline) (pos : Position) (q : Qualifier) : List Location :=
  match o.nearest? q pos.line pos.character with
  | none => []
  | some cand => o.trail q cand

def structuralOpens (o : Outline) (q : Qualifier) : List Position :=
  (List.range o.count).flatMap fun n =>
    ((o.constructs n).filter fun c =>
      c.kind == .opening && Tag.structural.any fun t => c.name == q.qualify t.localName).map fun c => ⟨n,c.start⟩

theorem trail_eq (o : Outline) (q : Qualifier) (cand : Location) :
    o.trail q cand = cand :: match o.nearest? q cand.line cand.character with
      | none => []
      | some next => o.trail q next := by
  rw [trail]
  split <;> simp_all

theorem enclosingFrom_eq_find? (o : Outline) (pos : Position) (q : Qualifier) (cand : Location) :
    o.enclosingFrom pos q cand = (o.trail q cand).find? (o.between pos q) := by
  induction cand using Outline.trail.induct o q with
  | case1 cand ih =>
    rw [enclosingFrom,trail_eq]
    by_cases inside : o.between pos q cand = true
    · simp [inside]
    · rw [if_neg inside,List.find?_cons_of_neg inside]
      split <;> simp_all

theorem enclosing?_eq_find? (o : Outline) (pos : Position) (q : Qualifier) :
    o.enclosing? pos q = (o.enclosingTrail pos q).find? (o.between pos q) := by
  unfold enclosing? enclosingTrail
  cases o.nearest? q pos.line pos.character with
  | none => rfl
  | some cand => exact enclosingFrom_eq_find? o pos q cand

theorem mem_trail {o : Outline} {q : Qualifier} {cand b : Location} (member : b ∈ o.trail q cand) :
    b.position ≤ cand.position ∧ (b = cand ∨ ∃ c : Location, o.nearest? q c.line c.character = some b) := by
  induction cand using Outline.trail.induct o q with
  | case1 cand ih =>
    rw [trail_eq,List.mem_cons] at member
    rcases member with rfl | later
    · exact ⟨by simp [Location.position,Position.le_iff],.inl rfl⟩
    · cases found : o.nearest? q cand.line cand.character with
      | none =>
        rw [found] at later
        cases later
      | some next =>
        rw [found] at later
        have step := nearest?_lt found
        obtain ⟨below,rfl | ⟨c,reported⟩⟩ := ih next found later
        · simp only [Location.position,Position.le_iff]
          exact ⟨by omega,.inr ⟨cand,found⟩⟩
        · simp only [Location.position,Position.le_iff] at below ⊢
          exact ⟨by omega,.inr ⟨c,reported⟩⟩

theorem trail_descends (o : Outline) (q : Qualifier) (cand : Location) :
    (o.trail q cand).Pairwise (fun a b => b.position < a.position) := by
  induction cand using Outline.trail.induct o q with
  | case1 cand ih =>
    rw [trail_eq]
    cases found : o.nearest? q cand.line cand.character with
    | none => exact List.pairwise_singleton _ _
    | some next =>
      refine List.Pairwise.cons (fun b later => ?_) (ih next found)
      have below := (mem_trail later).1
      have step := nearest?_lt found
      simp only [Location.position,Position.le_iff,Position.lt_iff] at below ⊢
      omega

theorem enclosingTrail_descends (o : Outline) (pos : Position) (q : Qualifier) :
    (o.enclosingTrail pos q).Pairwise (fun a b => b.position < a.position) := by
  unfold enclosingTrail
  split
  · exact .nil
  · exact trail_descends o q _

theorem mem_enclosingTrail {o : Outline} {pos : Position} {q : Qualifier} {b : Location}
    (member : b ∈ o.enclosingTrail pos q) : ∃ line col, o.nearest? q line col = some b := by
  unfold enclosingTrail at member
  split at member
  · cases member
  · next cand first =>
    rcases (mem_trail member).2 with rfl | ⟨c,reported⟩
    · exact ⟨_,_,first⟩
    · exact ⟨_,_,reported⟩

theorem mem_structuralOpens {o : Outline} {q : Qualifier} {loc : Location} {c : Construct}
    (listed : c ∈ o.constructs loc.line) (opening : c.kind = .opening) (placed : c.start = loc.character)
    (member : loc.tag ∈ Tag.structural) (named : c.name = q.qualify loc.tag.localName) :
    loc.position ∈ o.structuralOpens q := by
  unfold structuralOpens
  refine List.mem_flatMap.mpr ⟨loc.line,List.mem_range.mpr (lt_count_of_mem listed),?_⟩
  refine List.mem_map.mpr ⟨c,List.mem_filter.mpr ⟨listed,?_⟩,by simp [Location.position,placed]⟩
  simp only [opening,beq_self_eq_true,Bool.true_and,List.any_eq_true,beq_iff_eq]
  exact ⟨loc.tag,member,named⟩

theorem enclosingTrail_length_le {o : Outline} (ordered : o.Ordered) (pos : Position) (q : Qualifier) :
    (o.enclosingTrail pos q).length ≤ (o.structuralOpens q).length := by
  have descends := enclosingTrail_descends o pos q
  have distinct : ((o.enclosingTrail pos q).map (·.position)).Nodup :=
    List.pairwise_map.mpr (descends.imp fun lower same => by
      rw [same] at lower
      simp [Position.lt_iff] at lower)
  have placed : (o.enclosingTrail pos q).map (·.position) ⊆ o.structuralOpens q := by
    intro p member
    obtain ⟨b,tried,rfl⟩ := List.mem_map.mp member
    obtain ⟨line,col,found⟩ := mem_enclosingTrail tried
    obtain ⟨-,member,c,listed,opening,placed,named⟩ := (nearest?_eq_some ordered found).1.opening
    exact mem_structuralOpens listed opening placed member named
  simpa using (List.Nodup.subperm distinct placed).length_le

end TagContext.Markup.Outline

namespace TagContext

open Markup

-- Each re-query from a candidate's own `<` finds a tag strictly before it, so the search ends.
theorem enclosing_search_descends {d : Document} {o : Outline} (built : d.outline = .ok o) (pos : Position)
    (q : Qualifier) :
    (∀ cand next : Location, d.nearest? q cand.line cand.character = .ok (some next) → next.position < cand.position) ∧
      d.enclosing? pos q = .ok ((o.enclosingTrail pos q).find? (o.between pos q)) ∧
      (o.enclosingTrail pos q).Pairwise (fun a b => b.position < a.position) ∧
      (o.enclosingTrail pos q).length ≤ (o.structuralOpens q).length ∧
      ∀ loc, d.enclosing? pos q = .ok (some loc) →
        d.between pos q loc = .ok true ∧ loc.tag ∈ Tag.structural ∧
          ∃ c ∈ o.constructs loc.line, c.kind = .opening ∧ c.start = loc.character ∧
            c.name = q.qualify loc.tag.localName := by
  have ordered := Document.outline_ordered built
  have searched : d.enclosing? pos q = .ok ((o.enclosingTrail pos q).find? (o.between pos q)) := by
    rw [← Outline.enclosing?_eq_find?]
    exact Document.outline_map_eq built _
  refine ⟨?_,searched,Outline.enclosingTrail_descends o pos q,Outline.enclosingTrail_length_le ordered pos q,?_⟩
  · intro cand next found
    rw [show d.nearest? q cand.line cand.character = .ok (o.nearest? q cand.line cand.character) from
      Document.outline_map_eq built _] at found
    exact Outline.nearest?_lt (Except.ok.inj found)
  · intro loc found
    rw [searched,Except.ok.injEq] at found
    obtain ⟨line,col,reported⟩ := Outline.mem_enclosingTrail (List.mem_of_find?_eq_some found)
    obtain ⟨-,member,c,listed,opening,placed,named⟩ := (Outline.nearest?_eq_some ordered reported).1.opening
    have present := Outline.lt_count_of_mem listed
    refine ⟨?_,member,c,listed,opening,placed,named⟩
    rw [Document.between_eq built (by rw [← Document.outline_count built]; exact present)]
    exact congrArg Except.ok (List.find?_some found)

theorem enclosing_skips_closed_element :
    (⟨"<xs:schema>\n  <xs:sequence>\n    <xs:element name=\"a\">\n    </xs:element>\n    \n  </xs:sequence>\n</xs:schema>"⟩ : Document).enclosing? ⟨4,4⟩ ⟨"xs:"⟩ = .ok (some ⟨.sequence,1,2⟩) ∧
      (⟨.sequence,1,2⟩ : Location).position < (⟨.element,2,4⟩ : Location).position := by
  -- the lines are read once; every later step works on the outline of these literal lines
  have listed : (⟨"<xs:schema>\n  <xs:sequence>\n    <xs:element name=\"a\">\n    </xs:element>\n    \n  </xs:sequence>\n</xs:schema>"⟩ : Document).lines =
      ["<xs:schema>","  <xs:sequence>","    <xs:element name=\"a\">","    </xs:element>","    ","  </xs:sequence>","</xs:schema>"] := by
    rw [Document.lines_eq_pieces]
    decide +kernel
  have built := Document.outline_of_narrow (d := ⟨"<xs:schema>\n  <xs:sequence>\n    <xs:element name=\"a\">\n    </xs:element>\n    \n  </xs:sequence>\n</xs:schema>"⟩) (by rw [listed]; decide)
  rw [listed] at built
  obtain ⟨descends,searched,-⟩ := enclosing_search_descends built ⟨4,4⟩ ⟨"xs:"⟩
  refine ⟨?_,descends ⟨.element,2,4⟩ ⟨.sequence,1,2⟩ (by rw [Document.nearest?,Document.outline_map_eq built]; decide)⟩
  rw [searched,Outline.enclosingTrail]
  have first : (⟨scannedLines false ["<xs:schema>","  <xs:sequence>","    <xs:element name=\"a\">","    </xs:element>","    ","  </xs:sequence>","</xs:schema>"]⟩ : Outline).nearest? ⟨"xs:"⟩ 4 4 = some ⟨.element,2,4⟩ := by decide
  have second : (⟨scannedLines false ["<xs:schema>","  <xs:sequence>","    <xs:element name=\"a\">","    </xs:element>","    ","  </xs:sequence>","</xs:schema>"]⟩ : Outline).nearest? ⟨"xs:"⟩ 2 4 = some ⟨.sequence,1,2⟩ := by decide
  -- the element closes before the cursor; the sequence around it does not
  have outside : (⟨scannedLines false ["<xs:schema>","  <xs:sequence>","    <xs:element name=\"a\">","    </xs:element>","    ","  </xs:sequence>","</xs:schema>"]⟩ : Outline).between ⟨4,4⟩ ⟨"xs:"⟩ ⟨.element,2,4⟩ = false := by decide
  have inside : (⟨scannedLines false ["<xs:schema>","  <xs:sequence>","    <xs:element name=\"a\">","    </xs:element>","    ","  </xs:sequence>","</xs:schema>"]⟩ : Outline).between ⟨4,4⟩ ⟨"xs:"⟩ ⟨.sequence,1,2⟩ = true := by decide
  dsimp only
  rw [first]
  dsimp only
  rw [Outline.trail_eq]
  dsimp only
  rw [second]
  dsimp only
  rw [Outline.trail_eq,List.find?_cons_of_neg (by simp [outside]),List.find?_cons_of_pos inside]

end TagContext
