import TagContext.Proofs.Nesting.Depth
import TagContext.Proofs.Between

namespace TagContext

namespace Markup

theorem constructs_starts_increase (t : String) (carried : Bool) :
    (constructs t carried).Pairwise (·.start < ·.start) := by
  by_cases empty : t = ""
  · subst empty
    cases carried <;> simp [constructs,Mode.initial,Mode.run,Mode.atEnd]
  · exact starts_increase (constructs_ordered t carried) (constructs_start_lt carried empty)

theorem firstWhere_eq_some_iff {p : Construct → Bool} {cs rest : List Construct} {x : Construct} :
    firstWhere p cs = some (x,rest) ↔ ∃ pre, cs = pre ++ x :: rest ∧ p x = true ∧ ∀ y ∈ pre, p y = false := by
  induction cs with
  | nil => simp [firstWhere]
  | cons c cs ih =>
    rw [firstWhere]
    by_cases hit : p c = true
    · rw [if_pos hit]
      constructor
      · rintro ⟨⟩
        exact ⟨[],rfl,hit,by simp⟩
      · rintro ⟨pre,split,holds,missed⟩
        cases pre with
        | nil =>
          cases split
          rfl
        | cons y pre =>
          cases split
          simp [missed c List.mem_cons_self] at hit
    · rw [if_neg hit,ih]
      constructor
      · rintro ⟨pre,rfl,holds,missed⟩
        refine ⟨c :: pre,rfl,holds,?_⟩
        intro y member
        rcases List.mem_cons.mp member with rfl | later
        · simpa using hit
        · exact missed y later
      · rintro ⟨pre,split,holds,missed⟩
        cases pre with
        | nil =>
          cases split
          exact absurd holds hit
        | cons y pre =>
          cases split
          exact ⟨pre,rfl,holds,fun z member => missed z (List.mem_cons_of_mem _ member)⟩

def placeOf (x : Nat × Construct) : Position := ⟨x.1,x.2.start⟩

theorem sparseStream_sorted {n : Nat} {ls : List ScannedLine}
    (ordered : ∀ l ∈ ls, l.constructs.Pairwise (·.start < ·.start)) :
    (sparseStream n ls).Pairwise (placeOf · < placeOf ·) ∧ ∀ x ∈ sparseStream n ls, n ≤ x.1 := by
  induction ls generalizing n with
  | nil => simp [sparseStream]
  | cons l ls ih =>
    obtain ⟨sorted,below⟩ := ih (n := n + 1) fun l' member => ordered l' (List.mem_cons_of_mem l member)
    have own : (if l.dense then [] else l.constructs.map (n,·)).Pairwise (placeOf · < placeOf ·) ∧
        ∀ x ∈ (if l.dense then [] else l.constructs.map (n,·)), x.1 = n := by
      split
      · simp
      · refine ⟨List.pairwise_map.mpr ((ordered l List.mem_cons_self).imp fun lt => ?_),by simp⟩
        simp [placeOf,Position.lt_iff,lt]
    rw [sparseStream]
    refine ⟨List.pairwise_append.mpr ⟨own.1,sorted,?_⟩,?_⟩
    · intro x first y second
      have here := own.2 x first
      have there := below y second
      simp only [placeOf,Position.lt_iff]
      omega
    · intro x member
      rcases List.mem_append.mp member with first | second
      · exact (own.2 x first).ge
      · have := below x second
        omega

theorem sparseStream_append (n : Nat) (ls ls' : List ScannedLine) :
    sparseStream n (ls ++ ls') = sparseStream n ls ++ sparseStream (n + ls.length) ls' := by
  induction ls generalizing n with
  | nil => simp [sparseStream]
  | cons l ls ih =>
    simp only [List.cons_append,sparseStream,ih,List.append_assoc,List.length_cons]
    congr 3
    omega

namespace Outline

def Ordered (o : Outline) : Prop := ∀ l ∈ o.lines, l.constructs.Pairwise (·.start < ·.start)

theorem ordered_scannedLines (carried : Bool) (ts : List String) : (⟨scannedLines carried ts⟩ : Outline).Ordered := by
  induction ts generalizing carried with
  | nil => simp [Ordered,scannedLines]
  | cons t ts ih =>
    intro l member
    rcases List.mem_cons.mp member with rfl | later
    · exact constructs_starts_increase t carried
    · exact ih _ l later

theorem Ordered.constructs {o : Outline} (ordered : o.Ordered) (n : Nat) :
    (o.constructs n).Pairwise (·.start < ·.start) := by
  unfold Outline.constructs
  cases line : o.lines[n]? with
  | none => exact .nil
  | some l => exact ordered l (List.mem_of_getElem? line)

theorem lt_count_of_mem {o : Outline} {n : Nat} {c : Construct} (member : c ∈ o.constructs n) : n < o.count := by
  unfold Outline.constructs at member
  cases line : o.lines[n]? with
  | none => simp [line] at member
  | some l => exact (List.getElem?_eq_some_iff.mp line).1

theorem firstWhere_at {o : Outline} (ordered : o.Ordered) {name : String} {n : Nat} {pre rest : List Construct}
    {op : Construct} (split : o.constructs n = pre ++ op :: rest) (opens : op.opens name = true) :
    firstWhere (fun c => op.start ≤ c.start && c.opens name) (o.constructs n) = some (op,rest) := by
  refine firstWhere_eq_some_iff.mpr ⟨pre,split,by simp [opens],?_⟩
  intro y member
  have sorted := ordered.constructs n
  rw [split] at sorted
  have earlier := (List.pairwise_append.mp sorted).2.2 y member op List.mem_cons_self
  simp only [Bool.and_eq_false_iff,decide_eq_false_iff_not]
  omega

theorem openingFrom_eq {o : Outline} (ordered : o.Ordered) (name : String) (line col : Nat) :
    o.openingFrom name line col = firstWhere (fun c => col ≤ c.start && c.opens name) (o.constructs line) := by
  unfold openingFrom
  dsimp only
  cases exact : firstWhere (fun c => c.start == col && c.opens name) (o.constructs line) with
  | none => rfl
  | some r =>
    obtain ⟨op,rest⟩ := r
    obtain ⟨pre,split,hit,-⟩ := firstWhere_eq_some_iff.mp exact
    simp only [Bool.and_eq_true,beq_iff_eq] at hit
    rw [← hit.1]
    exact (firstWhere_at ordered split hit.2).symm

-- What the search for a close reads: the rest of the opening's line, then every later sparse line.
def searchStream (o : Outline) (line : Nat) (rest : List Construct) : List (Nat × Construct) :=
  rest.map (line,·) ++ sparseStream (line + 1) (o.lines.drop (line + 1))

-- The close told by counting: past the opening, where the closes read first outnumber the openings.
def matchingClose (o : Outline) (q : Qualifier) (t : Tag) (line col : Nat) : Option Location :=
  let name := q.qualify t.localName
  match firstWhere (fun c => col ≤ c.start && c.opens name) (o.constructs line) with
  | none => none
  | some (op,rest) =>
    if op.kind = .selfClosing then some ⟨t,line,op.start⟩
    else (firstExcess name 0 (o.searchStream line rest)).map fun x => ⟨t,x.1,x.2.start⟩

theorem closeOf_eq_matchingClose {o : Outline} (ordered : o.Ordered) (q : Qualifier) (t : Tag) {line : Nat}
    (col : Nat) (present : line < o.count) : o.closeOf? q t line col = o.matchingClose q t line col := by
  unfold closeOf? matchingClose
  rw [if_neg (by omega)]
  dsimp only
  rw [openingFrom_eq ordered]
  cases firstWhere (fun c => col ≤ c.start && c.opens (q.qualify t.localName)) (o.constructs line) with
  | none => rfl
  | some r =>
    obtain ⟨op,rest⟩ := r
    dsimp only
    by_cases self : op.kind = .selfClosing
    · simp [self]
    · -- the walk from the opening is one line of the walk below, read back as locations
      have walk := walk_line_eq_firstExcess (q.qualify t.localName) 0 line rest
        (closeBelow (q.qualify t.localName) · (line + 1) (o.lines.drop (line + 1)))
        fun j => closeBelow_eq_firstExcess (q.qualify t.localName) j (line + 1) (o.lines.drop (line + 1))
      have located := congrArg (Option.map fun x : Nat × Nat => (⟨t,x.1,x.2⟩ : Location)) walk
      rw [Option.map_map,Nat.zero_add] at located
      rw [if_neg (by simpa using self),if_neg self,searchStream]
      refine Eq.trans ?_ located
      cases findClose (q.qualify t.localName) 1 rest <;> rfl

theorem searchStream_sorted {o : Outline} (ordered : o.Ordered) {line : Nat} {pre rest : List Construct}
    {op : Construct} (split : o.constructs line = pre ++ op :: rest) :
    (o.searchStream line rest).Pairwise (placeOf · < placeOf ·) ∧
      ∀ x ∈ o.searchStream line rest, placeOf (line,op) < placeOf x := by
  have sorted := ordered.constructs line
  rw [split] at sorted
  obtain ⟨after,rest_sorted⟩ := List.pairwise_cons.mp (List.pairwise_append.mp sorted).2.1
  obtain ⟨below_sorted,below⟩ := sparseStream_sorted (n := line + 1)
    fun l member => ordered l (List.mem_of_mem_drop member)
  unfold searchStream
  refine ⟨List.pairwise_append.mpr ⟨?_,below_sorted,?_⟩,?_⟩
  · exact List.pairwise_map.mpr (rest_sorted.imp fun lt => by simp [placeOf,Position.lt_iff,lt])
  · intro x first y second
    obtain ⟨c,-,rfl⟩ := List.mem_map.mp first
    have := below y second
    simp only [placeOf,Position.lt_iff]
    omega
  · intro x member
    rcases List.mem_append.mp member with first | second
    · obtain ⟨c,later,rfl⟩ := List.mem_map.mp first
      simp [placeOf,Position.lt_iff,after c later]
    · have := below x second
      simp only [placeOf,Position.lt_iff]
      omega

theorem sparseStream_through {o : Outline} {n m : Nat} (le : n ≤ m) (lt : m < o.count)
    (sparse : o.dense m = false) {pre rest : List Construct} {c : Construct}
    (split : o.constructs m = pre ++ c :: rest) :
    ∃ a, sparseStream n (o.lines.drop n) = a ++ (m,c) :: o.searchStream m rest := by
  have line : o.lines[m]? = some o.lines[m] := List.getElem?_eq_getElem lt
  have dense : o.lines[m].dense = false := by simpa [Outline.dense,line] using sparse
  have listed : o.lines[m].constructs = pre ++ c :: rest := by simpa [Outline.constructs,line] using split
  have parts : o.lines.drop n = (o.lines.drop n).take (m - n) ++ o.lines[m] :: o.lines.drop (m + 1) := by
    rw [← List.drop_eq_getElem_cons lt]
    conv => lhs; rw [← List.take_append_drop (m - n) (o.lines.drop n)]
    rw [List.drop_drop]
    congr 2
    omega
  have counted : ((o.lines.drop n).take (m - n)).length = m - n := by
    simp only [List.length_take,List.length_drop]
    unfold count at lt
    omega
  generalize (o.lines.drop n).take (m - n) = front at parts counted
  refine ⟨sparseStream n front ++ pre.map (m,·),?_⟩
  rw [parts,sparseStream_append,counted,show n + (m - n) = m by omega,sparseStream,dense,listed]
  simp [searchStream]

end Outline

end Markup

open Markup

namespace Document

theorem outline_ordered {d : Document} {o : Outline} (built : d.outline = .ok o) : o.Ordered := by
  obtain ⟨-,rfl⟩ := outline_eq_ok built
  exact Outline.ordered_scannedLines false d.lines

theorem outline_count {d : Document} {o : Outline} (built : d.outline = .ok o) : o.count = d.lineCount := by
  obtain ⟨-,rfl⟩ := outline_eq_ok built
  rw [Outline.count_scannedLines,lineCount_eq]

theorem closeOf?_eq_matchingClose {d : Document} {o : Outline} (built : d.outline = .ok o) (q : Qualifier)
    (t : Tag) {line : Nat} (col : Nat) (present : line < d.lineCount) :
    d.closeOf? q t line col = .ok (o.matchingClose q t line col) := by
  unfold closeOf?
  rw [if_neg (by omega),built]
  exact congrArg Except.ok
    (Outline.closeOf_eq_matchingClose (outline_ordered built) q t col (outline_count built ▸ present))

theorem closeOf?_of_open {d : Document} {o : Outline} (built : d.outline = .ok o) (q : Qualifier) (t : Tag)
    {n : Nat} {pre rest : List Construct} {c : Construct} (split : o.constructs n = pre ++ c :: rest)
    (opening : c.kind = .opening) (named : c.name = q.qualify t.localName) :
    d.closeOf? q t n c.start =
      .ok ((firstExcess (q.qualify t.localName) 0 (o.searchStream n rest)).map fun x => ⟨t,x.1,x.2.start⟩) := by
  have member : c ∈ o.constructs n := by simp [split]
  rw [closeOf?_eq_matchingClose built q t c.start (outline_count built ▸ Outline.lt_count_of_mem member)]
  unfold Outline.matchingClose
  dsimp only
  rw [Outline.firstWhere_at (outline_ordered built) split
    (by simp [Construct.opens,Construct.isOpening,opening,named])]
  dsimp only
  rw [if_neg (by simp [opening])]

end Document

theorem close_is_first_excess {d : Document} {o : Outline} (built : d.outline = .ok o) (q : Qualifier)
    (t : Tag) {line : Nat} (col : Nat) (present : line < d.lineCount) :
    d.closeOf? q t line col = .ok (o.matchingClose q t line col) ∧
      ∀ p : List (Nat × Construct), firstExcess (q.qualify t.localName) 0 p = none →
        findClose (q.qualify t.localName) 1 (p.map (·.2)) =
            .pending (1 + openings (q.qualify t.localName) (p.map (·.2)) -
              closings (q.qualify t.localName) (p.map (·.2))) ∧
          closings (q.qualify t.localName) (p.map (·.2)) ≤ openings (q.qualify t.localName) (p.map (·.2)) := by
  refine ⟨Document.closeOf?_eq_matchingClose built q t col present,?_⟩
  intro p unmatched
  have walk := findClose_eq_firstExcess (q.qualify t.localName) 0 p
  rw [unmatched] at walk
  exact ⟨walk,by simpa using closings_le_of_none unmatched⟩

theorem nested_group_closes_last :
    (⟨"<group>\n<group>\n</group>\n</group>"⟩ : Document).outline =
        .ok ⟨scannedLines false ["<group>","<group>","</group>","</group>"]⟩ ∧
      (⟨"<group>\n<group>\n</group>\n</group>"⟩ : Document).closeOf? ⟨""⟩ .group 0 0 = .ok (some ⟨.group,3,0⟩) := by
  have built := Document.outline_of_narrow (d := ⟨"<group>\n<group>\n</group>\n</group>"⟩) (by decide)
  refine ⟨built,?_⟩
  rw [(close_is_first_excess built ⟨""⟩ .group 0 (by decide)).1]
  decide

theorem Markup.Outline.searchStream_through {o : Outline} (ordered : o.Ordered) {l1 l2 : Nat}
    {pre1 rest1 : List Construct} {o1 o2 : Construct} (split1 : o.constructs l1 = pre1 ++ o1 :: rest1)
    (second : o2 ∈ o.constructs l2) (after : (l2 = l1 ∧ o1.start < o2.start) ∨ (l1 < l2 ∧ o.dense l2 = false)) :
    ∃ a pre2 rest2, o.constructs l2 = pre2 ++ o2 :: rest2 ∧
      o.searchStream l1 rest1 = a ++ (l2,o2) :: o.searchStream l2 rest2 := by
  rcases after with ⟨rfl,later⟩ | ⟨below,sparse⟩
  · have member : o2 ∈ rest1 := by
      have sorted := ordered.constructs l2
      rw [split1] at sorted second
      rcases List.mem_append.mp second with before | here
      · have := (List.pairwise_append.mp sorted).2.2 o2 before o1 List.mem_cons_self
        omega
      · rcases List.mem_cons.mp here with rfl | member
        · omega
        · exact member
    obtain ⟨b,rest2,split⟩ := List.append_of_mem member
    refine ⟨b.map (l2,·),pre1 ++ o1 :: b,rest2,by simp [split1,split],?_⟩
    simp [searchStream,split]
  · obtain ⟨pre2,rest2,split2⟩ := List.append_of_mem second
    obtain ⟨a,stream⟩ := sparseStream_through (Nat.succ_le_of_lt below) (lt_count_of_mem second) sparse split2
    refine ⟨rest1.map (l1,·) ++ a,pre2,rest2,split2,?_⟩
    show rest1.map (l1,·) ++ sparseStream (l1 + 1) (o.lines.drop (l1 + 1)) = _
    rw [stream,List.append_assoc]

theorem matching_closes_nest {d : Document} {o : Outline} (built : d.outline = .ok o) {q : Qualifier} {t : Tag}
    {l1 l2 : Nat} {o1 o2 : Construct} {c1 : Location} (first : o1 ∈ o.constructs l1) (second : o2 ∈ o.constructs l2)
    (open1 : o1.kind = .opening) (open2 : o2.kind = .opening)
    (named1 : o1.name = q.qualify t.localName) (named2 : o2.name = q.qualify t.localName)
    (after : (l2 = l1 ∧ o1.start < o2.start) ∨ (l1 < l2 ∧ o.dense l2 = false))
    (closed : d.closeOf? q t l1 o1.start = .ok (some c1)) (inside : (⟨l2,o2.start⟩ : Position) < c1.position) :
    ∃ c2, d.closeOf? q t l2 o2.start = .ok (some c2) ∧ c2.position < c1.position := by
  have ordered := Document.outline_ordered built
  obtain ⟨pre1,rest1,split1⟩ := List.append_of_mem first
  obtain ⟨a,pre2,rest2,split2,through⟩ := Outline.searchStream_through ordered split1 second after
  rw [Document.closeOf?_of_open built q t split1 open1 named1,Except.ok.injEq] at closed
  obtain ⟨x,found1,rfl⟩ := Option.map_eq_some_iff.mp closed
  have sorted := (Outline.searchStream_sorted ordered split1).1
  rw [through] at sorted found1
  rw [firstExcess_append] at found1
  cases early : firstExcess (q.qualify t.localName) 0 a with
  | some x' =>
    -- a close before the second opening would stand before it
    rw [early] at found1
    have same : x' = x := by simpa using found1
    subst same
    have before := (List.pairwise_append.mp sorted).2.2 x' (firstExcess_mem early) (l2,o2) List.mem_cons_self
    exact absurd inside (Position.lt_asymm before)
  | none =>
    -- past the second opening one more opening is left unclosed, so its own close comes first
    rw [early,firstExcess_cons,if_neg (not_closing_of_opening ⟨open2,named2⟩),if_pos ⟨open2,named2⟩] at found1
    obtain ⟨b,y,b',split,later,found⟩ := firstExcess_earlier (k := 0) (by omega) found1
    refine ⟨⟨t,y.1,y.2.start⟩,by rw [Document.closeOf?_of_open built q t split2 open2 named2,found]; rfl,?_⟩
    have tail := (List.pairwise_cons.mp (List.pairwise_append.mp sorted).2.1).2
    rw [split] at tail
    exact List.rel_of_pairwise_cons (List.pairwise_append.mp tail).2.1 later

theorem nested_groups_close_inside_out :
    (⟨"<group>\n<group>\n</group>\n</group>"⟩ : Document).closeOf? ⟨""⟩ .group 0 0 = .ok (some ⟨.group,3,0⟩) ∧
      ∃ c2, (⟨"<group>\n<group>\n</group>\n</group>"⟩ : Document).closeOf? ⟨""⟩ .group 1 0 = .ok (some c2) ∧
        c2.position < (⟨.group,3,0⟩ : Location).position := by
  have built := Document.outline_of_narrow (d := ⟨"<group>\n<group>\n</group>\n</group>"⟩) (by decide)
  have outer : (⟨.opening,"group",0,some 6,7⟩ : Construct) ∈
      (⟨scannedLines false ["<group>","<group>","</group>","</group>"]⟩ : Outline).constructs 0 := by decide
  have inner : (⟨.opening,"group",0,some 6,7⟩ : Construct) ∈
      (⟨scannedLines false ["<group>","<group>","</group>","</group>"]⟩ : Outline).constructs 1 := by decide
  have closed : (⟨"<group>\n<group>\n</group>\n</group>"⟩ : Document).closeOf? ⟨""⟩ .group 0 0 =
      .ok (some ⟨.group,3,0⟩) := by decide
  exact ⟨closed,matching_closes_nest built outer inner rfl rfl rfl rfl (.inr ⟨by decide,by decide⟩) closed
    (by decide)⟩

end TagContext
