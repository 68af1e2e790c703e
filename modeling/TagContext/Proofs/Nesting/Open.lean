import TagContext.Proofs.Nesting.Close

namespace TagContext.Markup

theorem lastColumn_le_extent {t : String} {carried : Bool} {c : Construct} (member : c ∈ constructs t carried) :
    c.lastColumn ≤ c.extent := by
  unfold Construct.lastColumn
  cases finished : c.finish with
  | none => simp
  | some e =>
    have := ((constructs_shape t carried).terminated c member e finished).2
    simp only [Option.getD_some]
    omega

theorem eq_of_containsCursor {t : String} {carried : Bool} {c c' : Construct} {x : Nat}
    (member : c ∈ constructs t carried) (member' : c' ∈ constructs t carried)
    (holds : c.containsCursor x = true) (holds' : c'.containsCursor x = true) : c = c' := by
  have shape := constructs_shape t carried
  have precede := extents_precede shape.ordered fun c member => (shape.bounded c member).1
  have last := lastColumn_le_extent member
  have last' := lastColumn_le_extent member'
  simp only [Construct.containsCursor,Bool.and_eq_true,decide_eq_true_eq] at holds holds'
  obtain ⟨pre,post,split⟩ := List.append_of_mem member
  rw [split] at precede member'
  rcases List.mem_append.mp member' with before | here
  · have := (List.pairwise_append.mp precede).2.2 c' before c List.mem_cons_self
    omega
  · rcases List.mem_cons.mp here with rfl | after
    · rfl
    · have := List.rel_of_pairwise_cons (List.pairwise_append.mp precede).2.1 after
      omega

theorem find?_eq_some_of_unique {α : Type} {p : α → Bool} {a : α} :
    ∀ {l : List α}, a ∈ l → p a = true → (∀ b ∈ l, p b = true → b = a) → l.find? p = some a
  | b :: l,member,holds,unique => by
    by_cases first : p b = true
    · rw [List.find?_cons_of_pos first,unique b List.mem_cons_self first]
    · rw [List.find?_cons_of_neg first]
      rcases List.mem_cons.mp member with rfl | later
      · exact absurd holds first
      · exact find?_eq_some_of_unique later holds fun c member' => unique c (List.mem_cons_of_mem _ member')

theorem find?_perm_of_unique {α : Type} {p : α → Bool} {l l' : List α} (perm : l.Perm l')
    (unique : ∀ a ∈ l, ∀ b ∈ l, p a = true → p b = true → a = b) : l'.find? p = l.find? p := by
  cases found : l.find? p with
  | none =>
    rw [List.find?_eq_none] at found ⊢
    exact fun x member => found x (perm.mem_iff.mpr member)
  | some a =>
    have member := List.mem_of_find?_eq_some found
    have holds := List.find?_some found
    exact find?_eq_some_of_unique (perm.mem_iff.mp member) holds
      fun b member' passes => unique b (perm.mem_iff.mpr member') a member passes holds

namespace Outline

theorem runsOn_named {o : Outline} {name : String} {n : Nat} {parts : List String}
    (runs : o.runsOn name n parts = true) : ∃ last, (o.constructs n).getLast? = some last ∧ last.name = name := by
  unfold runsOn at runs
  cases found : (o.constructs n).getLast? with
  | none => simp [found] at runs
  | some last =>
    rw [found] at runs
    dsimp only at runs
    split at runs
    · cases runs
    · next fits =>
      simp only [Bool.or_eq_true,bne_iff_ne,ne_eq,not_or,Decidable.not_not] at fits
      exact ⟨last,rfl,fits.2⟩

theorem continuesAbove_name {o : Outline} {name name' : String} :
    ∀ {n : Nat} {parts parts' : List String}, o.continuesAbove name n parts = true →
      o.continuesAbove name' n parts' = true → name = name'
  | 0,_,_,runs,_ => by simp [continuesAbove] at runs
  | n + 1,parts,parts',runs,runs' => by
    unfold continuesAbove at runs runs'
    by_cases empty : (o.constructs n).isEmpty = true
    · rw [if_pos empty] at runs runs'
      exact continuesAbove_name runs runs'
    · rw [if_neg empty] at runs runs'
      obtain ⟨last,found,named⟩ := runsOn_named runs
      obtain ⟨last',found',named'⟩ := runsOn_named runs'
      rw [found] at found'
      cases found'
      exact named.symm.trans named'

theorem isOpenAt_cases {o : Outline} {pos : Position} {q : Qualifier} {t : Tag} (open_ : o.isOpenAt pos q t = true) :
    ((o.constructs pos.line).takeWhile (·.start < Text.column (o.text pos.line) pos.character) = [] ∧
        o.continuesAbove (q.qualify t.localName) pos.line
          [Text.upTo (o.text pos.line) (Text.column (o.text pos.line) pos.character)] = true) ∨
      ((o.constructs pos.line).takeWhile (·.start < Text.column (o.text pos.line) pos.character) ≠ [] ∧
        ∃ c ∈ o.constructs pos.line, c.name = q.qualify t.localName ∧
          c.containsCursor (Text.column (o.text pos.line) pos.character) = true) := by
  unfold isOpenAt at open_
  dsimp only at open_
  split at open_
  · next empty =>
    simp only [Bool.and_eq_true] at open_
    exact .inl ⟨List.isEmpty_iff.mp empty,open_.2⟩
  · next filled =>
    refine .inr ⟨fun none_ => filled (by simp [none_]),?_⟩
    split at open_
    · next c last =>
      have chosen := List.mem_of_getLast? last
      rw [List.mem_filter] at chosen
      simp only [Construct.opens,Bool.and_eq_true,beq_iff_eq] at chosen
      exact ⟨c,(List.takeWhile_sublist _).subset chosen.1,chosen.2.1.2,open_⟩
    · cases open_

end Outline

end Markup

open Markup

theorem openPriority_localNames_nodup : (Tag.openPriority.map Tag.localName).Nodup := by decide

theorem open_local_names_agree {d : Document} {o : Outline} (built : d.outline = .ok o) {pos : Position}
    {q : Qualifier} {t t' : Tag} (open_ : o.isOpenAt pos q t = true) (open' : o.isOpenAt pos q t' = true) :
    t.localName = t'.localName := by
  have qualified : q.qualify t.localName = q.qualify t'.localName := by
    rcases Outline.isOpenAt_cases open_ with ⟨empty,above⟩ | ⟨filled,c,member,named,holds⟩ <;>
      rcases Outline.isOpenAt_cases open' with ⟨empty',above'⟩ | ⟨filled',c',member',named',holds'⟩
    · exact Outline.continuesAbove_name above above'
    · exact absurd empty filled'
    · exact absurd empty' filled
    · obtain ⟨-,rfl⟩ := Document.outline_eq_ok built
      rw [Outline.constructs_scannedLines] at member member'
      rw [← named,← named',eq_of_containsCursor member member' holds holds']
  have same := congrArg String.toList qualified
  simp only [Qualifier.qualify,String.toList_append] at same
  exact String.toList_inj.mp (List.append_cancel_left same)

theorem open_tag_order_irrelevant (d : Document) (pos : Position) (q : Qualifier) :
    (∀ t t', d.isOpenAt pos q t = .ok true → d.isOpenAt pos q t' = .ok true → t.localName = t'.localName) ∧
      (∀ order : List Tag, order.Perm Tag.openPriority →
        d.outline.map (fun o => order.find? (o.isOpenAt pos q)) = d.openTag? pos q) ∧
      (∀ t, d.openTag? pos q = .ok (some t) ↔ t ∈ Tag.openPriority ∧ d.isOpenAt pos q t = .ok true) ∧
      (d.openTag? pos q = .ok none ↔ ∀ t ∈ Tag.openPriority, d.isOpenAt pos q t = .ok false) := by
  unfold Document.isOpenAt Document.openTag?
  cases built : d.outline with
  | error e =>
    refine ⟨fun t t' open_ _ => by simp [Except.map] at open_,fun order perm => rfl,fun t => ?_,?_⟩
    · simp [Except.map]
    · refine ⟨fun none_ => by simp [Except.map] at none_,fun closed => ?_⟩
      simpa [Except.map] using closed .element (by decide)
  | ok o =>
    simp only [Except.map,Except.ok.injEq]
    have unique : ∀ a ∈ Tag.openPriority, ∀ b ∈ Tag.openPriority,
        o.isOpenAt pos q a = true → o.isOpenAt pos q b = true → a = b :=
      fun a first b second open_ open' =>
        List.inj_on_of_nodup_map openPriority_localNames_nodup first second (open_local_names_agree built open_ open')
    refine ⟨fun t t' open_ open' => open_local_names_agree built open_ open',
      fun order perm => find?_perm_of_unique perm.symm unique,fun t => ⟨?_,?_⟩,?_⟩
    · intro found
      exact ⟨List.mem_of_find?_eq_some found,List.find?_some found⟩
    · rintro ⟨member,open_⟩
      exact find?_eq_some_of_unique member open_ fun b member' open' => unique b member' t member open' open_
    · rw [Outline.openTag?,List.find?_eq_none]
      simp

theorem sequence_open_in_any_order :
    (⟨"<xs:sequence dfdl:separator=\",\" "⟩ : Document).openTag? ⟨0,32⟩ ⟨"xs:"⟩ = .ok (some .sequence) ∧
      (⟨"<xs:sequence dfdl:separator=\",\" "⟩ : Document).outline.map
        (fun o => Tag.openPriority.reverse.find? (o.isOpenAt ⟨0,32⟩ ⟨"xs:"⟩)) = .ok (some .sequence) := by
  obtain ⟨-,order,-⟩ := open_tag_order_irrelevant ⟨"<xs:sequence dfdl:separator=\",\" "⟩ ⟨0,32⟩ ⟨"xs:"⟩
  have reported : (⟨"<xs:sequence dfdl:separator=\",\" "⟩ : Document).openTag? ⟨0,32⟩ ⟨"xs:"⟩ =
      .ok (some .sequence) := by decide
  exact ⟨reported,(order _ (List.reverse_perm _)).trans reported⟩

end TagContext
