import TagContext.Proofs.Nesting.Close

namespace TagContext.Markup

theorem foldl_counts (name : String) {f : Nat × Nat → Construct → Nat × Nat}
    (step : ∀ acc c, f acc c = (acc.1 + if c.kind = .opening ∧ c.name = name then 1 else 0,
      acc.2 + if c.kind = .closing ∧ c.name = name then 1 else 0)) :
    ∀ (cs : List Construct) (acc : Nat × Nat), cs.foldl f acc = (acc.1 + openings name cs,acc.2 + closings name cs)
  | [],acc => by simp
  | c :: cs,acc => by
    rw [List.foldl_cons,foldl_counts name step cs,step]
    simp only [openings_cons,closings_cons,Prod.mk.injEq]
    constructor <;> omega

theorem tally_eq (name : String) (cs : List Construct) : tally name cs = (openings name cs,closings name cs) := by
  unfold tally
  rw [foldl_counts name ?_ cs (0,0)]
  · simp
  · intro acc c
    by_cases named : c.name = name
    · cases c.kind <;> simp [named]
    · simp [named]

theorem tail_eq_of_pairwise {α : Type} {R : α → α → Prop} (irrefl : ∀ z, ¬R z z) {x : α} :
    ∀ {a b a' b' : List α}, (a ++ x :: b).Pairwise R → a ++ x :: b = a' ++ x :: b' → b = b'
  | [],_,[],_,_,same => by simpa using same
  | [],_,y :: a',b',sorted,same => by
    simp only [List.nil_append,List.cons_append,List.cons.injEq] at same
    obtain ⟨rfl,rfl⟩ := same
    exact absurd (List.rel_of_pairwise_cons sorted (by simp)) (irrefl _)
  | y :: a,b,[],_,sorted,same => by
    simp only [List.nil_append,List.cons_append,List.cons.injEq] at same
    obtain ⟨rfl,rfl⟩ := same
    exact absurd (List.rel_of_pairwise_cons sorted (by simp)) (irrefl _)
  | y :: a,_,z :: a',_,sorted,same => by
    simp only [List.cons_append,List.cons.injEq] at same
    exact tail_eq_of_pairwise irrefl (List.pairwise_cons.mp sorted).2 same.2

theorem sparseStream_snd (n : Nat) (ls : List ScannedLine) :
    (sparseStream n ls).map (·.2) = (ls.filter fun l => !l.dense).flatMap (·.constructs) := by
  induction ls generalizing n with
  | nil => rfl
  | cons l ls ih =>
    by_cases dense : l.dense = true <;> simp [sparseStream,dense,ih,List.map_map,Function.comp_def]

theorem mem_sparseStream {n : Nat} {ls : List ScannedLine} {x : Nat × Construct} (member : x ∈ sparseStream n ls) :
    ∃ i l, x.1 = n + i ∧ ls[i]? = some l ∧ l.dense = false ∧ x.2 ∈ l.constructs := by
  induction ls generalizing n with
  | nil => cases member
  | cons l ls ih =>
    rw [sparseStream] at member
    rcases List.mem_append.mp member with here | later
    · by_cases dense : l.dense = true
      · simp [dense] at here
      · rw [if_neg dense] at here
        obtain ⟨c,listed,rfl⟩ := List.mem_map.mp here
        exact ⟨0,l,rfl,rfl,by simpa using dense,listed⟩
    · obtain ⟨i,l',line,found,sparse,listed⟩ := ih later
      exact ⟨i + 1,l',by omega,found,sparse,listed⟩

theorem unclosed_on_line {name : String} {cs : List Construct}
    (excess : closings name cs < openings name cs) :
    ∃ pre c post, cs = pre ++ c :: post ∧ c.kind = .opening ∧ c.name = name ∧
      ∃ k, findClose name 1 post = .pending k := by
  -- the line's constructs read as a stream, all on one line
  have tagged : closings name ((cs.map (0,·)).map (·.2)) < openings name ((cs.map (0,·)).map (·.2)) := by
    simpa [List.map_map,Function.comp_def] using excess
  obtain ⟨a,x,b,split,kind,named,unmatched⟩ := exists_unclosed _ tagged
  obtain ⟨pre,rest,rfl,rfl,after⟩ := List.map_eq_append_iff.mp split
  obtain ⟨c,post,rfl,rfl,rfl⟩ := List.map_eq_cons_iff.mp after
  have walk := findClose_eq_firstExcess name 0 (post.map (0,·))
  rw [unmatched,List.map_map,Function.comp_def,List.map_id'] at walk
  exact ⟨pre,c,post,rfl,kind,named,_,walk⟩

namespace Outline

-- What the balance check counts from `pos`: the cursor line when it is dense, else every sparse line.
def counted (o : Outline) (pos : Position) : List Construct :=
  if o.dense pos.line then o.constructs pos.line else (sparseStream 0 o.lines).map (·.2)

def Weighed (o : Outline) (pos : Position) (name : String) : Prop :=
  if o.dense pos.line then
    ∃ c ∈ o.constructs pos.line, c.opens name ∧ c.start < Text.column (o.text pos.line) pos.character
  else ∃ n ≤ min pos.line (o.count - 1), o.dense n = false ∧ ∃ c ∈ o.constructs n, c.opens name

instance (o : Outline) (pos : Position) (name : String) : Decidable (o.Weighed pos name) := by
  unfold Weighed
  infer_instance

theorem unclosed?_eq (o : Outline) (pos : Position) (q : Qualifier) :
    o.unclosed? pos q = Tag.balanceOrder.find? fun t =>
      decide (o.Weighed pos (q.qualify t.localName)) &&
        decide (closings (q.qualify t.localName) (o.counted pos) < openings (q.qualify t.localName) (o.counted pos)) := by
  unfold unclosed? Weighed counted
  by_cases dense : o.dense pos.line = true
  · simp only [if_pos dense]
    congr 1
    funext t
    rw [Bool.eq_iff_iff]
    simp only [Unmatched,tally_eq,Bool.and_eq_true,List.any_eq_true,decide_eq_true_eq]
  · simp only [if_neg dense]
    congr 1
    funext t
    rw [Bool.eq_iff_iff]
    simp only [openedAtOrAbove,Unmatched,sparseConstructs,tally_eq,Bool.and_eq_true,List.any_eq_true,
      List.mem_range,Nat.lt_succ_iff,Bool.not_eq_eq_eq_not,Bool.not_true,decide_eq_true_eq,sparseStream_snd]

end Outline

end Markup

open Markup

theorem unclosed_below {d : Document} {o : Outline} (built : d.outline = .ok o) {q : Qualifier} {t : Tag}
    (excess : closings (q.qualify t.localName) ((sparseStream 0 o.lines).map (·.2)) <
      openings (q.qualify t.localName) ((sparseStream 0 o.lines).map (·.2))) :
    ∃ n c, o.dense n = false ∧ c ∈ o.constructs n ∧ c.kind = .opening ∧ c.name = q.qualify t.localName ∧
      d.closeOf? q t n c.start = .ok none := by
  have ordered := Document.outline_ordered built
  obtain ⟨a,⟨n,c⟩,b,split,kind,named,unmatched⟩ := exists_unclosed _ excess
  dsimp only at kind named
  have listed : (n,c) ∈ sparseStream 0 o.lines := by simp [split]
  obtain ⟨i,l,line,found,sparse,member⟩ := mem_sparseStream listed
  simp only [Nat.zero_add] at line
  subst line
  have dense : o.dense n = false := by simp [Outline.dense,found,sparse]
  have member : c ∈ o.constructs n := by simpa [Outline.constructs,found] using member
  obtain ⟨pre,rest,split'⟩ := List.append_of_mem member
  -- the opening's own search is what the stream of all sparse lines reads after it
  obtain ⟨a',through⟩ := Outline.sparseStream_through (Nat.zero_le n) (Outline.lt_count_of_mem member) dense split'
  rw [List.drop_zero] at through
  have sorted := (sparseStream_sorted (n := 0) fun l member => ordered l member).1
  rw [split] at sorted
  have after : b = o.searchStream n rest :=
    tail_eq_of_pairwise (fun z lt => by rw [Position.lt_iff] at lt; omega) sorted (split.symm.trans through)
  refine ⟨n,c,dense,member,kind,named,?_⟩
  rw [Document.closeOf?_of_open built q t split' kind named,← after,unmatched]
  rfl

-- A reported tag always has an opening that nothing closes.
theorem unclosed_reports_first_excess {d : Document} {o : Outline} (built : d.outline = .ok o) (pos : Position)
    (q : Qualifier) :
    d.unclosed? pos q = .ok (Tag.balanceOrder.find? fun t => decide (o.Weighed pos (q.qualify t.localName)) &&
        decide (closings (q.qualify t.localName) (o.counted pos) < openings (q.qualify t.localName) (o.counted pos))) ∧
      ∀ t, closings (q.qualify t.localName) (o.counted pos) < openings (q.qualify t.localName) (o.counted pos) →
        if o.dense pos.line then
          ∃ pre c post, o.constructs pos.line = pre ++ c :: post ∧ c.kind = .opening ∧
            c.name = q.qualify t.localName ∧ ∃ k, findClose (q.qualify t.localName) 1 post = .pending k
        else ∃ n c, o.dense n = false ∧ c ∈ o.constructs n ∧ c.kind = .opening ∧
            c.name = q.qualify t.localName ∧ d.closeOf? q t n c.start = .ok none := by
  refine ⟨?_,?_⟩
  · unfold Document.unclosed?
    rw [built]
    exact congrArg Except.ok (Outline.unclosed?_eq o pos q)
  · intro t excess
    unfold Outline.counted at excess
    split
    · next dense =>
      rw [if_pos dense] at excess
      exact unclosed_on_line excess
    · next sparse =>
      rw [if_neg sparse] at excess
      exact unclosed_below built excess

theorem annotation_left_open :
    (⟨"<xs:element name=\"a\">\n  <xs:annotation>"⟩ : Document).unclosed? ⟨1,17⟩ ⟨"xs:"⟩ = .ok (some Tag.annotation) ∧
      ∃ (n : Nat) (c : Construct), c.kind = .opening ∧
        (⟨"<xs:element name=\"a\">\n  <xs:annotation>"⟩ : Document).closeOf? ⟨"xs:"⟩ Tag.annotation n c.start = .ok none := by
  have built := Document.outline_of_narrow (d := ⟨"<xs:element name=\"a\">\n  <xs:annotation>"⟩) (by decide)
  obtain ⟨reported,unclosed⟩ := unclosed_reports_first_excess built ⟨1,17⟩ ⟨"xs:"⟩
  have left := unclosed Tag.annotation (by decide)
  rw [if_neg (by decide)] at left
  obtain ⟨n,c,-,-,kind,-,none_⟩ := left
  exact ⟨reported.trans (by decide),n,c,kind,none_⟩

theorem close_before_opening_hides_it :
    (⟨"</xs:sequence>\n<xs:sequence>"⟩ : Document).unclosed? ⟨1,13⟩ ⟨"xs:"⟩ = .ok none ∧
      (⟨"</xs:sequence>\n<xs:sequence>"⟩ : Document).outline.map (fun o => (o.dense 1,o.constructs 1)) =
        .ok (false,[⟨.opening,"xs:sequence",0,some 12,13⟩]) ∧
      (⟨"</xs:sequence>\n<xs:sequence>"⟩ : Document).closeOf? ⟨"xs:"⟩ .sequence 1 0 = .ok none := by
  decide

end TagContext
