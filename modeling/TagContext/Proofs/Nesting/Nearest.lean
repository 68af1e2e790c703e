import Mathlib.Data.List.TakeWhile
import TagContext.Proofs.Nesting.Open

namespace TagContext

theorem Qualifier.qualify_inj {q : Qualifier} {a b : String} (same : q.qualify a = q.qualify b) : a = b := by
  have spelled := congrArg String.toList same
  simp only [Qualifier.qualify,String.toList_append] at spelled
  exact String.toList_inj.mp (List.append_cancel_left spelled)

theorem structural_localNames_nodup : (Tag.structural.map Tag.localName).Nodup := by decide

theorem Qualifier.findQualified_eq_find? (vocabulary : List Tag) (q : Qualifier) (n : String) :
    Qualifier.findQualified vocabulary q n = vocabulary.find? (q.qualify ·.localName == n) := by
  unfold Qualifier.findQualified
  split
  · next prefixed =>
    obtain ⟨rest,split⟩ := List.isPrefixOf_iff_prefix.mp prefixed
    have dropped : n.toList.drop q.text.length = rest := by
      rw [← split,← String.length_toList,List.drop_left]
    -- the name is the prefix followed by `rest`, so it spells a local name exactly when `rest` does
    have spelled : ∀ l : String, q.qualify l = n ↔ l = String.ofList rest := fun l => by
      rw [Qualifier.qualify,← String.toList_inj,String.toList_append,← split,List.append_cancel_left_eq,
        ← String.toList_inj,String.toList_ofList]
    rw [dropped]
    dsimp only
    congr 1
    funext t
    exact Bool.eq_iff_iff.mpr (by simp [spelled])
  · next unprefixed =>
    refine (List.find?_eq_none.mpr fun t _ spelled => unprefixed ?_).symm
    rw [← (beq_iff_eq.mp spelled),Qualifier.qualify,String.toList_append]
    exact List.isPrefixOf_iff_prefix.mpr (List.prefix_append _ _)

theorem Qualifier.findQualified_eq_some_iff {vocabulary : List Tag}
    (distinct : (vocabulary.map Tag.localName).Nodup) (q : Qualifier) (n : String) (t : Tag) :
    Qualifier.findQualified vocabulary q n = some t ↔ t ∈ vocabulary ∧ n = q.qualify t.localName := by
  rw [Qualifier.findQualified_eq_find?]
  constructor
  · intro found
    have spelled := List.find?_some found
    simp only [beq_iff_eq] at spelled
    exact ⟨List.mem_of_find?_eq_some found,spelled.symm⟩
  · rintro ⟨member,named⟩
    refine Markup.find?_eq_some_of_unique member (by simp [named]) fun b member' same => ?_
    exact List.inj_on_of_nodup_map distinct member' member
      (Qualifier.qualify_inj ((beq_iff_eq.mp same).trans named))

theorem structural_eq_of_qualify {q : Qualifier} {t t' : Tag} (member : t ∈ Tag.structural)
    (member' : t' ∈ Tag.structural) (same : q.qualify t.localName = q.qualify t'.localName) : t = t' :=
  List.inj_on_of_nodup_map structural_localNames_nodup member member' (Qualifier.qualify_inj same)

theorem findQualified_first_spelled (vocabulary : List Tag) (q : Qualifier) (n : String) (t : Tag) :
    (Qualifier.findQualified vocabulary q n = some t ↔
      ∃ pre post, vocabulary = pre ++ t :: post ∧ q.qualify t.localName = n ∧
        ∀ t' ∈ pre, q.qualify t'.localName ≠ n) ∧
    (Qualifier.findQualified vocabulary q n = none ↔ ∀ t' ∈ vocabulary, q.qualify t'.localName ≠ n) ∧
    (Qualifier.findQualified Tag.structural q n = some t ↔ t ∈ Tag.structural ∧ n = q.qualify t.localName) := by
  refine ⟨?_,?_,Qualifier.findQualified_eq_some_iff structural_localNames_nodup q n t⟩
  · rw [Qualifier.findQualified_eq_find?,List.find?_eq_some_iff_append]
    constructor
    · rintro ⟨spelled,pre,post,split,before⟩
      exact ⟨pre,post,split,beq_iff_eq.mp spelled,fun t' member => by simpa using before t' member⟩
    · rintro ⟨pre,post,split,spelled,before⟩
      exact ⟨beq_iff_eq.mpr spelled,pre,post,split,fun t' member => by simpa using before t' member⟩
  · rw [Qualifier.findQualified_eq_find?,List.find?_eq_none]
    simp

example : Qualifier.findQualified Tag.all ⟨"xs:"⟩ "xs:group" = some .group ∧
    Qualifier.findQualified Tag.all ⟨"xs:"⟩ "xs:sequences" = none := by decide

namespace Markup

theorem lastWhere_holds {p : Construct → Bool} :
    ∀ {cs : List Construct} {c : Construct} {rest : List Construct}, lastWhere p cs = some (c,rest) → p c = true
  | [],_,_,found => by simp [lastWhere] at found
  | d :: ds,c,rest,found => by
    rw [lastWhere] at found
    cases later : lastWhere p ds with
    | some r =>
      rw [later] at found
      cases found
      exact lastWhere_holds later
    | none =>
      rw [later] at found
      by_cases hit : p d = true
      · rw [if_pos hit] at found
        cases found
        exact hit
      · rw [if_neg hit] at found
        cases found

theorem lastWhere_eq_none_iff {p : Construct → Bool} {cs : List Construct} :
    lastWhere p cs = none ↔ ∀ d ∈ cs, p d = false := by
  induction cs with
  | nil => simp [lastWhere]
  | cons d ds ih =>
    rw [lastWhere]
    cases later : lastWhere p ds with
    | some r =>
      -- a hit further on is a member that passes
      obtain ⟨c,rest⟩ := r
      simp only [reduceCtorEq,false_iff,not_forall]
      exact ⟨c,List.mem_cons_of_mem d (Outline.mem_of_lastWhere later),by simp [lastWhere_holds later]⟩
    | none =>
      have missed := ih.mp later
      by_cases hit : p d = true
      · simp [hit]
      · simpa [hit] using missed

theorem lastWhere_split {p : Construct → Bool} :
    ∀ {cs rest : List Construct} {c : Construct}, lastWhere p cs = some (c,rest) →
      ∃ pre, cs = pre ++ c :: rest ∧ p c = true ∧ ∀ d ∈ rest, p d = false
  | [],_,_,found => by simp [lastWhere] at found
  | d :: ds,rest,c,found => by
    rw [lastWhere] at found
    cases later : lastWhere p ds with
    | some r =>
      rw [later] at found
      cases found
      obtain ⟨pre,split,hit,after⟩ := lastWhere_split later
      exact ⟨d :: pre,by rw [split,List.cons_append],hit,after⟩
    | none =>
      rw [later] at found
      by_cases hit : p d = true
      · rw [if_pos hit] at found
        cases found
        exact ⟨[],rfl,hit,lastWhere_eq_none_iff.mp later⟩
      · rw [if_neg hit] at found
        cases found

theorem lastWhere_of_split {p : Construct → Bool} {c : Construct} {rest : List Construct}
    (hit : p c = true) (after : ∀ d ∈ rest, p d = false) :
    ∀ pre, lastWhere p (pre ++ c :: rest) = some (c,rest)
  | [] => by
    rw [List.nil_append,lastWhere,lastWhere_eq_none_iff.mpr after]
    simp [hit]
  | e :: pre => by
    rw [List.cons_append,lastWhere,lastWhere_of_split hit after pre]

theorem lastWhere_eq_some_iff {p : Construct → Bool} {cs rest : List Construct} {c : Construct} :
    lastWhere p cs = some (c,rest) ↔ ∃ pre, cs = pre ++ c :: rest ∧ p c = true ∧ ∀ d ∈ rest, p d = false :=
  ⟨lastWhere_split,fun ⟨pre,split,hit,after⟩ => split ▸ lastWhere_of_split hit after pre⟩

def LeavesOpen (q : Qualifier) (cs : List Construct) (t : Tag) (s : Nat) : Prop :=
  ∃ pre c post, cs = pre ++ c :: post ∧ c.kind = .opening ∧ c.start = s ∧ t ∈ Tag.structural ∧
    c.name = q.qualify t.localName ∧ ∀ d ∈ post, d.isOpening = false ∧ ¬(d.kind = .closing ∧ d.name = c.name)

theorem leavesOpen_iff_last {q : Qualifier} {cs rest : List Construct} {c : Construct} {t : Tag} {s : Nat}
    (last : lastWhere Construct.isOpening cs = some (c,rest)) :
    LeavesOpen q cs t s ↔ c.kind = .opening ∧ c.start = s ∧ t ∈ Tag.structural ∧
      c.name = q.qualify t.localName ∧ ∀ d ∈ rest, ¬(d.kind = .closing ∧ d.name = c.name) := by
  constructor
  · rintro ⟨pre,c',post,split,opening,placed,member,named,after⟩
    have found := lastWhere_of_split (p := Construct.isOpening) (c := c') (by simp [Construct.isOpening,opening])
      (fun d later => (after d later).1) pre
    rw [← split,last] at found
    cases found
    exact ⟨opening,placed,member,named,fun d later => (after d later).2⟩
  · rintro ⟨opening,placed,member,named,unclosed⟩
    obtain ⟨pre,split,-,after⟩ := lastWhere_eq_some_iff.mp last
    exact ⟨pre,c,rest,split,opening,placed,member,named,fun d later => ⟨after d later,unclosed d later⟩⟩

theorem unclosedStructural_eq_some_iff {q : Qualifier} {cs : List Construct} {t : Tag} {s : Nat} :
    Outline.unclosedStructural q cs = some (t,s) ↔ LeavesOpen q cs t s := by
  unfold Outline.unclosedStructural
  cases last : lastWhere Construct.isOpening cs with
  | none =>
    simp only [reduceCtorEq,false_iff]
    rintro ⟨pre,c,post,rfl,opening,-⟩
    have := lastWhere_eq_none_iff.mp last c (by simp)
    simp [Construct.isOpening,opening] at this
  | some r =>
    obtain ⟨c,rest⟩ := r
    rw [leavesOpen_iff_last last]
    dsimp only
    have opens := lastWhere_holds last
    simp only [Construct.isOpening,Bool.or_eq_true,beq_iff_eq] at opens
    rcases opens with opening | self
    · have named := Qualifier.findQualified_eq_some_iff structural_localNames_nodup q c.name
      rw [if_neg (by rw [opening]; decide)]
      cases found : Qualifier.findQualified Tag.structural q c.name with
      | none =>
        constructor
        · intro reported
          cases reported
        · rintro ⟨-,-,member,spelled,-⟩
          rw [(named t).mpr ⟨member,spelled⟩] at found
          cases found
      | some t' =>
        dsimp only
        obtain ⟨member',spelled'⟩ := (named t').mp found
        by_cases closed : rest.any (fun d => d.kind == .closing && d.name == c.name) = true
        · rw [if_pos closed]
          obtain ⟨d,later,shut⟩ := List.any_eq_true.mp closed
          simp only [Bool.and_eq_true,beq_iff_eq] at shut
          constructor
          · intro reported
            cases reported
          · rintro ⟨-,-,-,-,unclosed⟩
            exact absurd shut (unclosed d later)
        · rw [if_neg closed]
          constructor
          · intro reported
            cases reported
            refine ⟨opening,rfl,member',spelled',fun d later shut => closed ?_⟩
            exact List.any_eq_true.mpr ⟨d,later,by simp [shut.1,shut.2]⟩
          · rintro ⟨-,rfl,member,spelled,-⟩
            rw [structural_eq_of_qualify member' member (spelled'.symm.trans spelled)]
    · simp [self]

namespace Outline

theorem constructsBefore_none (o : Outline) (n : Nat) : o.constructsBefore n none = o.constructs n := by
  simp [constructsBefore,List.takeWhile_eq_self_iff]

theorem takeWhile_eq_filter_of_sorted {lim : Nat} :
    ∀ {cs : List Construct}, cs.Pairwise (·.start < ·.start) →
      cs.takeWhile (fun c => decide (c.start < lim)) = cs.filter (fun c => decide (c.start < lim))
  | [],_ => rfl
  | c :: cs,sorted => by
    obtain ⟨later,rest⟩ := List.pairwise_cons.mp sorted
    by_cases before : c.start < lim
    · simp [before,takeWhile_eq_filter_of_sorted rest]
    · have none_after : cs.filter (fun d => decide (d.start < lim)) = [] :=
        List.filter_eq_nil_iff.mpr fun d member => by
          have := later d member
          simp only [decide_eq_true_eq]
          omega
      simp [before,none_after]

theorem constructsBefore_some {o : Outline} (ordered : o.Ordered) (n lim : Nat) :
    o.constructsBefore n (some lim) = (o.constructs n).filter (·.start < lim) := by
  unfold constructsBefore
  simp only [Option.all_some]
  exact takeWhile_eq_filter_of_sorted (ordered.constructs n)

def readBefore (o : Outline) (start : Position) (k : Nat) : List Construct :=
  if k = start.line then (o.constructs k).filter (·.start < start.character) else o.constructs k

-- A tag the search from `start` may report: an `Open` before `start` on a dense start line, or the
-- tag a sparse line at or above `start` leaves open.
def NearestCandidate (o : Outline) (q : Qualifier) (start : Position) (loc : Location) : Prop :=
  (o.dense start.line = true ∧ loc.line = start.line ∧ loc.tag ∈ Tag.structural ∧
      ∃ c ∈ o.constructs start.line, c.kind = .opening ∧ c.start < start.character ∧
        c.start = loc.character ∧ c.name = q.qualify loc.tag.localName) ∨
    (loc.line ≤ start.line ∧ o.dense loc.line = false ∧
      LeavesOpen q (o.readBefore start loc.line) loc.tag loc.character)

def searchStart (o : Outline) (line pos : Nat) : Position :=
  ⟨min line (o.count - 1),Text.column (o.text (min line (o.count - 1))) pos⟩

theorem readBefore_subset (o : Outline) (start : Position) (k : Nat) : o.readBefore start k ⊆ o.constructs k := by
  unfold readBefore
  split
  · exact fun c member => (List.mem_filter.mp member).1
  · exact List.Subset.refl _

theorem start_lt_of_mem_readBefore {o : Outline} {start : Position} {c : Construct}
    (member : c ∈ o.readBefore start start.line) : c.start < start.character := by
  simp only [readBefore,if_true,List.mem_filter,decide_eq_true_eq] at member
  exact member.2

theorem NearestCandidate.opening {o : Outline} {q : Qualifier} {start : Position} {loc : Location}
    (candidate : o.NearestCandidate q start loc) :
    loc.position < start ∧ loc.tag ∈ Tag.structural ∧ ∃ c ∈ o.constructs loc.line, c.kind = .opening ∧
      c.start = loc.character ∧ c.name = q.qualify loc.tag.localName := by
  rcases candidate with ⟨-,line,member,c,listed,opening,before,placed,named⟩ |
    ⟨above,-,pre,c,post,split,opening,placed,member,named,-⟩
  · refine ⟨?_,member,c,line ▸ listed,opening,placed,named⟩
    simp only [Location.position,Position.lt_iff]
    omega
  · have read : c ∈ o.readBefore start loc.line := by simp [split]
    refine ⟨?_,member,c,o.readBefore_subset start loc.line read,opening,placed,named⟩
    simp only [Location.position,Position.lt_iff]
    by_cases top : loc.line = start.line
    · rw [top] at read
      have := start_lt_of_mem_readBefore read
      omega
    · omega

theorem sparseHit_eq_some_iff {o : Outline} {q : Qualifier} {k : Nat} {limit : Option Nat} {loc : Location} :
    o.sparseHit q k limit = some loc ↔
      loc.line = k ∧ o.dense k = false ∧ LeavesOpen q (o.constructsBefore k limit) loc.tag loc.character := by
  unfold sparseHit
  split
  · next dense => simp [dense]
  · next sparse =>
    rw [Option.map_eq_some_iff]
    constructor
    · rintro ⟨⟨t,s⟩,found,rfl⟩
      exact ⟨rfl,by simpa using sparse,unclosedStructural_eq_some_iff.mp found⟩
    · rintro ⟨line,-,leaves⟩
      exact ⟨(loc.tag,loc.character),unclosedStructural_eq_some_iff.mpr leaves,by subst line; rfl⟩

theorem constructsBefore_eq_readBefore {o : Outline} (ordered : o.Ordered) (start : Position) (k : Nat) :
    o.constructsBefore k (if k = start.line then some start.character else none) = o.readBefore start k := by
  unfold readBefore
  split
  · exact constructsBefore_some ordered k start.character
  · exact constructsBefore_none o k

theorem sparseHit_iff_candidate {o : Outline} (ordered : o.Ordered) {q : Qualifier} {start : Position}
    {loc : Location} :
    o.sparseHit q loc.line (if loc.line = start.line then some start.character else none) = some loc ↔
      o.dense loc.line = false ∧ LeavesOpen q (o.readBefore start loc.line) loc.tag loc.character := by
  rw [sparseHit_eq_some_iff,constructsBefore_eq_readBefore ordered]
  simp

theorem walkSparse_eq_some {o : Outline} {q : Qualifier} :
    ∀ {n : Nat} {limit : Option Nat} {loc : Location}, o.walkSparse q n limit = some loc →
      loc.line ≤ n ∧ o.sparseHit q loc.line (if loc.line = n then limit else none) = some loc ∧
        ∀ k, loc.line < k → k ≤ n → o.sparseHit q k (if k = n then limit else none) = none
  | 0,limit,loc,walked => by
    unfold walkSparse at walked
    cases hit : o.sparseHit q 0 limit with
    | none =>
      rw [hit] at walked
      cases walked
    | some l =>
      rw [hit] at walked
      cases walked
      have line := (sparseHit_at hit).1
      exact ⟨by omega,by simpa [line] using hit,fun k above below => by omega⟩
  | n + 1,limit,loc,walked => by
    unfold walkSparse at walked
    cases hit : o.sparseHit q (n + 1) limit with
    | some l =>
      rw [hit] at walked
      cases walked
      have line := (sparseHit_at hit).1
      exact ⟨by omega,by simpa [line] using hit,fun k above below => by omega⟩
    | none =>
      rw [hit] at walked
      obtain ⟨below,found,missed⟩ := walkSparse_eq_some walked
      refine ⟨by omega,by simpa [show loc.line ≠ n + 1 by omega] using found,fun k above le => ?_⟩
      by_cases top : k = n + 1
      · subst top
        simpa using hit
      · simpa [top] using missed k above (by omega)

theorem walkSparse_eq_none {o : Outline} {q : Qualifier} :
    ∀ {n : Nat} {limit : Option Nat}, o.walkSparse q n limit = none →
      ∀ k ≤ n, o.sparseHit q k (if k = n then limit else none) = none
  | 0,limit,walked => by
    unfold walkSparse at walked
    intro k below
    cases hit : o.sparseHit q 0 limit with
    | none =>
      obtain rfl : k = 0 := by omega
      simpa using hit
    | some l =>
      rw [hit] at walked
      cases walked
  | n + 1,limit,walked => by
    unfold walkSparse at walked
    intro k below
    cases hit : o.sparseHit q (n + 1) limit with
    | some l =>
      rw [hit] at walked
      cases walked
    | none =>
      rw [hit] at walked
      by_cases top : k = n + 1
      · subst top
        simpa using hit
      · simpa [top] using walkSparse_eq_none walked k (by omega)

theorem lastStructuralOpen_eq_some {q : Qualifier} {n : Nat} {cs : List Construct} {loc : Location}
    (found : lastStructuralOpen q n cs = some loc) :
    loc.line = n ∧ loc.tag ∈ Tag.structural ∧ ∃ pre c post, cs = pre ++ c :: post ∧ c.kind = .opening ∧
      c.start = loc.character ∧ c.name = q.qualify loc.tag.localName ∧
        ∀ d ∈ post, ∀ t ∈ Tag.structural, d.kind = .opening → d.name ≠ q.qualify t.localName := by
  unfold lastStructuralOpen at found
  obtain ⟨after,c,before,split,hit,missed⟩ := List.findSome?_eq_some_iff.mp found
  rw [List.reverse_eq_append_iff] at split
  split at hit
  · next opening =>
    obtain ⟨t,spelled,rfl⟩ := Option.map_eq_some_iff.mp hit
    obtain ⟨member,named⟩ := (Qualifier.findQualified_eq_some_iff structural_localNames_nodup q c.name t).mp spelled
    refine ⟨rfl,member,before.reverse,c,after.reverse,by simpa using split,by simpa using opening,rfl,named,?_⟩
    intro d later t' member' opening' named'
    have := missed d (List.mem_reverse.mp later)
    simp only [opening',beq_self_eq_true,if_true] at this
    rw [(Qualifier.findQualified_eq_some_iff structural_localNames_nodup q d.name t').mpr ⟨member',named'⟩] at this
    cases this
  · cases hit

theorem lastStructuralOpen_eq_none {q : Qualifier} {n : Nat} {cs : List Construct}
    (missed : lastStructuralOpen q n cs = none) :
    ∀ d ∈ cs, ∀ t ∈ Tag.structural, d.kind = .opening → d.name ≠ q.qualify t.localName := by
  intro d member t member' opening named
  have := List.findSome?_eq_none_iff.mp missed d (List.mem_reverse.mpr member)
  simp only [opening,beq_self_eq_true,if_true] at this
  rw [(Qualifier.findQualified_eq_some_iff structural_localNames_nodup q d.name t).mpr ⟨member',named⟩] at this
  cases this

theorem NearestCandidate.eq_of_position {o : Outline} (ordered : o.Ordered) {q : Qualifier} {start : Position}
    {a b : Location} (candidate : o.NearestCandidate q start a) (candidate' : o.NearestCandidate q start b)
    (same : a.position = b.position) : a = b := by
  simp only [Location.position,Position.mk.injEq] at same
  obtain ⟨line,column⟩ := same
  have located : ∀ t : Tag, a.tag = t → b.tag = t → a = b := by
    rintro t rfl tagged
    cases a
    cases b
    simp_all
  rcases candidate with ⟨dense,atStart,member,c,listed,opening,-,placed,named⟩ |
      ⟨-,sparse,leaves⟩ <;>
    rcases candidate' with ⟨dense',atStart',member',c',listed',-,-,placed',named'⟩ | ⟨-,sparse',leaves'⟩
  · -- two `Open` constructs of the dense start line at one column are one construct
    have distinct : ((o.constructs start.line).map (·.start)).Nodup :=
      List.pairwise_map.mpr ((ordered.constructs start.line).imp Nat.ne_of_lt)
    have one := List.inj_on_of_nodup_map distinct listed listed' (placed.trans (column.trans placed'.symm))
    subst one
    exact located a.tag rfl (structural_eq_of_qualify member member' (named.symm.trans named')).symm
  · rw [← line,atStart,dense] at sparse'
    cases sparse'
  · rw [line,atStart',dense'] at sparse
    cases sparse
  · rw [line,column,← unclosedStructural_eq_some_iff] at leaves
    rw [← unclosedStructural_eq_some_iff,leaves] at leaves'
    simp only [Option.some.injEq,Prod.mk.injEq] at leaves'
    exact located a.tag rfl leaves'.1.symm

theorem le_of_highest_hit {o : Outline} (ordered : o.Ordered) {q : Qualifier} {start : Position} {n : Nat}
    {loc c : Location}
    (hit : o.sparseHit q loc.line (if loc.line = start.line then some start.character else none) = some loc)
    (missed : ∀ k, loc.line < k → k ≤ n →
      o.sparseHit q k (if k = start.line then some start.character else none) = none)
    (above : c.line ≤ n) (sparse : o.dense c.line = false)
    (leaves : LeavesOpen q (o.readBefore start c.line) c.tag c.character) : c.position ≤ loc.position := by
  have hit' := (sparseHit_iff_candidate ordered).mpr ⟨sparse,leaves⟩
  simp only [Location.position,Position.le_iff]
  rcases Nat.lt_trichotomy c.line loc.line with lower | same | higher
  · exact .inl lower
  · rw [same,hit] at hit'
    cases hit'
    exact .inr ⟨rfl,le_refl _⟩
  · rw [missed c.line higher above] at hit'
    cases hit'

theorem only_sparse {o : Outline} {q : Qualifier} (start : Position) (sparse : o.dense start.line = false) :
    ∀ c, o.NearestCandidate q start c →
      c.line ≤ start.line ∧ o.dense c.line = false ∧ LeavesOpen q (o.readBefore start c.line) c.tag c.character := by
  rintro c (⟨dense,-⟩ | walked)
  · rw [sparse] at dense
    cases dense
  · exact walked

theorem only_sparse_below {o : Outline} (ordered : o.Ordered) {q : Qualifier} (start : Position)
    (dense : o.dense start.line = true)
    (missed : lastStructuralOpen q start.line (o.constructsBefore start.line (some start.character)) = none) :
    ∀ c, o.NearestCandidate q start c →
      c.line < start.line ∧ o.dense c.line = false ∧ LeavesOpen q (o.readBefore start c.line) c.tag c.character := by
  rintro c (⟨-,-,member,d,listed,opening,before,-,named⟩ | ⟨above,sparse,leaves⟩)
  · have read : d ∈ o.constructsBefore start.line (some start.character) := by
      rw [constructsBefore_some ordered]
      exact List.mem_filter.mpr ⟨listed,by simpa using before⟩
    exact absurd named (lastStructuralOpen_eq_none missed d read c.tag member opening)
  · have apart : c.line ≠ start.line := fun same => by
      rw [same,dense] at sparse
      cases sparse
    exact ⟨by omega,sparse,leaves⟩

theorem latest_of_dense_hit {o : Outline} (ordered : o.Ordered) {q : Qualifier} (start : Position)
    {loc : Location} (dense : o.dense start.line = true)
    (found : lastStructuralOpen q start.line (o.constructsBefore start.line (some start.character)) = some loc) :
    o.NearestCandidate q start loc ∧ ∀ c, o.NearestCandidate q start c → c.position ≤ loc.position := by
  obtain ⟨line,member,pre,c,post,split,opening,placed,named,after⟩ := lastStructuralOpen_eq_some found
  have sorted := (ordered.constructs start.line).filter (fun c => decide (c.start < start.character))
  rw [constructsBefore_some ordered] at split
  rw [split] at sorted
  have read : c ∈ (o.constructs start.line).filter (·.start < start.character) := by simp [split]
  rw [List.mem_filter,decide_eq_true_eq] at read
  refine ⟨.inl ⟨dense,line,member,c,read.1,opening,read.2,placed,named⟩,?_⟩
  rintro c' (⟨-,line',member',d,listed,opening',before,placed',named'⟩ | ⟨above,sparse,-⟩)
  · -- another structural `Open` before the column does not come after the last one
    have read' : d ∈ (o.constructs start.line).filter (·.start < start.character) :=
      List.mem_filter.mpr ⟨listed,by simpa using before⟩
    rw [split] at read'
    simp only [Location.position,Position.le_iff]
    rcases List.mem_append.mp read' with early | here
    · have := (List.pairwise_append.mp sorted).2.2 d early c List.mem_cons_self
      omega
    · rcases List.mem_cons.mp here with same | later
      · subst same
        omega
      · exact absurd named' (after d later c'.tag member' opening')
  · -- a sparse line is not the dense start line, so it lies above it
    have apart : c'.line ≠ start.line := fun same => by
      rw [same,dense] at sparse
      cases sparse
    simp only [Location.position,Position.le_iff]
    omega

theorem latest_of_walk {o : Outline} (ordered : o.Ordered) {q : Qualifier} {start : Position} {n : Nat}
    {limit : Option Nat} {loc : Location}
    (reads : ∀ k ≤ n, (if k = n then limit else none) = if k = start.line then some start.character else none)
    (only : ∀ c, o.NearestCandidate q start c →
      c.line ≤ n ∧ o.dense c.line = false ∧ LeavesOpen q (o.readBefore start c.line) c.tag c.character)
    (below : n ≤ start.line) (walked : o.walkSparse q n limit = some loc) :
    o.NearestCandidate q start loc ∧ ∀ c, o.NearestCandidate q start c → c.position ≤ loc.position := by
  obtain ⟨lower,hit,missed⟩ := walkSparse_eq_some walked
  rw [reads loc.line lower] at hit
  obtain ⟨sparse,leaves⟩ := (sparseHit_iff_candidate ordered).mp hit
  refine ⟨.inr ⟨by omega,sparse,leaves⟩,fun c candidate => ?_⟩
  obtain ⟨above,sparse',leaves'⟩ := only c candidate
  refine le_of_highest_hit ordered hit (fun k higher le => ?_) above sparse' leaves'
  rw [← reads k le]
  exact missed k higher le

theorem none_of_walk {o : Outline} (ordered : o.Ordered) {q : Qualifier} {start : Position} {n : Nat}
    {limit : Option Nat}
    (reads : ∀ k ≤ n, (if k = n then limit else none) = if k = start.line then some start.character else none)
    (only : ∀ c, o.NearestCandidate q start c →
      c.line ≤ n ∧ o.dense c.line = false ∧ LeavesOpen q (o.readBefore start c.line) c.tag c.character)
    (walked : o.walkSparse q n limit = none) : ∀ c, ¬o.NearestCandidate q start c := by
  intro c candidate
  obtain ⟨above,sparse,leaves⟩ := only c candidate
  have hit := (sparseHit_iff_candidate ordered).mpr ⟨sparse,leaves⟩
  rw [← reads c.line above,walkSparse_eq_none walked c.line above] at hit
  cases hit

theorem nearest?_eq_some {o : Outline} (ordered : o.Ordered) {q : Qualifier} {line pos : Nat} {loc : Location}
    (found : o.nearest? q line pos = some loc) :
    o.NearestCandidate q (o.searchStart line pos) loc ∧
      ∀ c, o.NearestCandidate q (o.searchStart line pos) c → c.position ≤ loc.position := by
  unfold nearest? at found
  unfold searchStart
  dsimp only at found
  generalize min line (o.count - 1) = L at found ⊢
  generalize Text.column (o.text L) pos = lim at found ⊢
  by_cases dense : o.dense L = true
  · rw [if_pos dense] at found
    cases last : lastStructuralOpen q L (o.constructsBefore L (some lim)) with
    | some l =>
      rw [last] at found
      cases found
      exact latest_of_dense_hit ordered ⟨L,lim⟩ dense last
    | none =>
      -- nothing on the dense line: the walk goes on from the line above
      rw [last] at found
      cases L with
      | zero => cases found
      | succ k =>
        refine latest_of_walk ordered (fun j _ => by simp [show j ≠ k + 1 by omega]) ?_ (by simp) found
        intro c candidate
        obtain ⟨above,sparse,leaves⟩ := only_sparse_below ordered ⟨k + 1,lim⟩ dense last c candidate
        exact ⟨by simp at above; omega,sparse,leaves⟩
  · rw [if_neg dense] at found
    exact latest_of_walk ordered (fun j _ => rfl) (only_sparse ⟨L,lim⟩ (by simpa using dense)) (le_refl _) found

theorem nearest?_eq_none {o : Outline} (ordered : o.Ordered) {q : Qualifier} {line pos : Nat}
    (missed : o.nearest? q line pos = none) : ∀ c, ¬o.NearestCandidate q (o.searchStart line pos) c := by
  unfold nearest? at missed
  unfold searchStart
  dsimp only at missed
  generalize min line (o.count - 1) = L at missed ⊢
  generalize Text.column (o.text L) pos = lim at missed ⊢
  by_cases dense : o.dense L = true
  · rw [if_pos dense] at missed
    cases last : lastStructuralOpen q L (o.constructsBefore L (some lim)) with
    | some l =>
      rw [last] at missed
      cases missed
    | none =>
      rw [last] at missed
      have only := only_sparse_below ordered ⟨L,lim⟩ dense last
      cases L with
      | zero =>
        intro c candidate
        have := (only c candidate).1
        simp at this
      | succ k =>
        refine none_of_walk ordered (fun j _ => by simp [show j ≠ k + 1 by omega]) ?_ missed
        intro c candidate
        obtain ⟨above,sparse,leaves⟩ := only c candidate
        exact ⟨by simp at above; omega,sparse,leaves⟩
  · rw [if_neg dense] at missed
    exact none_of_walk ordered (fun j _ => rfl) (only_sparse ⟨L,lim⟩ (by simpa using dense)) missed

end Outline

end Markup

open Markup

namespace Document

theorem outline_map_eq {α : Type} {d : Document} {o : Outline} (built : d.outline = .ok o) (f : Outline → α) :
    d.outline.map f = .ok (f o) := by
  rw [built]
  rfl

theorem between_eq {d : Document} {o : Outline} (built : d.outline = .ok o) {pos : Position} {q : Qualifier}
    {loc : Location} (present : loc.line < d.lineCount) : d.between pos q loc = .ok (o.between pos q loc) := by
  unfold Document.between
  rw [if_neg (by omega)]
  exact outline_map_eq built _

theorem closeOf?_eq {d : Document} {o : Outline} (built : d.outline = .ok o) {q : Qualifier} {t : Tag}
    {line col : Nat} (present : line < d.lineCount) : d.closeOf? q t line col = .ok (o.closeOf? q t line col) := by
  unfold Document.closeOf?
  rw [if_neg (by omega)]
  exact outline_map_eq built _

theorem outline_text {d : Document} {o : Outline} (built : d.outline = .ok o) (n : Nat) :
    o.text n = d.lineOrEmpty n := by
  obtain ⟨-,rfl⟩ := outline_eq_ok built
  exact text_scannedLines d n

theorem searchStart_eq {d : Document} {o : Outline} (built : d.outline = .ok o) (line col : Nat) :
    o.searchStart line col = d.cursorAt ⟨min line (d.lineCount - 1),col⟩ := by
  unfold Outline.searchStart cursorAt
  rw [outline_count built,outline_text built]

end Document

theorem nearest_is_latest_candidate {d : Document} {o : Outline} (built : d.outline = .ok o)
    (q : Qualifier) (line col : Nat) :
    (∀ loc, d.nearest? q line col = .ok (some loc) ↔
        o.NearestCandidate q (d.cursorAt ⟨min line (d.lineCount - 1),col⟩) loc ∧
          ∀ c, o.NearestCandidate q (d.cursorAt ⟨min line (d.lineCount - 1),col⟩) c → c.position ≤ loc.position) ∧
      (d.nearest? q line col = .ok none ↔
        ∀ c, ¬o.NearestCandidate q (d.cursorAt ⟨min line (d.lineCount - 1),col⟩) c) ∧
      ∀ loc, d.nearest? q line col = .ok (some loc) →
        loc.position < d.cursorAt ⟨min line (d.lineCount - 1),col⟩ ∧ loc.tag ∈ Tag.structural ∧
          ∃ c ∈ o.constructs loc.line, c.kind = .opening ∧ c.start = loc.character ∧
            c.name = q.qualify loc.tag.localName := by
  have ordered := Document.outline_ordered built
  have answered : d.nearest? q line col = .ok (o.nearest? q line col) := Document.outline_map_eq built _
  rw [answered,← Document.searchStart_eq built]
  simp only [Except.ok.injEq]
  refine ⟨fun loc => ⟨Outline.nearest?_eq_some ordered,fun ⟨candidate,latest⟩ => ?_⟩,
    ⟨Outline.nearest?_eq_none ordered,fun none_ => ?_⟩,
    fun loc found => (Outline.nearest?_eq_some ordered found).1.opening⟩
  · -- the latest candidate is where the search stops
    cases found : o.nearest? q line col with
    | none => exact absurd candidate (Outline.nearest?_eq_none ordered found loc)
    | some l =>
      obtain ⟨candidate',latest'⟩ := Outline.nearest?_eq_some ordered found
      rw [Outline.NearestCandidate.eq_of_position ordered candidate' candidate
        (Position.le_antisymm (latest l candidate') (latest' loc candidate))]
  · cases found : o.nearest? q line col with
    | none => rfl
    | some l => exact absurd (Outline.nearest?_eq_some ordered found).1 (none_ l)

theorem nearest_skips_dense_and_closed_lines :
    (⟨scannedLines false ["<xs:sequence>","  <xs:element name=\"a\"></xs:element>",
        "  <xs:choice><xs:element ref=\"b\"/>","  "]⟩ : Outline).NearestCandidate ⟨"xs:"⟩ ⟨3,2⟩ ⟨.sequence,0,0⟩ ∧
      ∀ c, (⟨scannedLines false ["<xs:sequence>","  <xs:element name=\"a\"></xs:element>",
        "  <xs:choice><xs:element ref=\"b\"/>","  "]⟩ : Outline).NearestCandidate ⟨"xs:"⟩ ⟨3,2⟩ c →
          c.position ≤ ⟨0,0⟩ := by
  have listed : (⟨"<xs:sequence>\n  <xs:element name=\"a\"></xs:element>\n  <xs:choice><xs:element ref=\"b\"/>\n  "⟩ : Document).lines =
      ["<xs:sequence>","  <xs:element name=\"a\"></xs:element>",
        "  <xs:choice><xs:element ref=\"b\"/>","  "] := by
    rw [Document.lines_eq_pieces]
    decide +kernel
  have built := Document.outline_of_narrow (d := ⟨"<xs:sequence>\n  <xs:element name=\"a\"></xs:element>\n  <xs:choice><xs:element ref=\"b\"/>\n  "⟩) (by rw [listed]; decide)
  rw [listed] at built
  have found : (⟨"<xs:sequence>\n  <xs:element name=\"a\"></xs:element>\n  <xs:choice><xs:element ref=\"b\"/>\n  "⟩ : Document).nearest? ⟨"xs:"⟩ 3 2 = .ok (some ⟨.sequence,0,0⟩) := by
    rw [Document.nearest?,Document.outline_map_eq built]
    decide
  have start : (⟨"<xs:sequence>\n  <xs:element name=\"a\"></xs:element>\n  <xs:choice><xs:element ref=\"b\"/>\n  "⟩ : Document).cursorAt
      ⟨min 3 ((⟨"<xs:sequence>\n  <xs:element name=\"a\"></xs:element>\n  <xs:choice><xs:element ref=\"b\"/>\n  "⟩ : Document).lineCount - 1),2⟩ = ⟨3,2⟩ := by
    rw [Document.cursorAt,Document.lineOrEmpty,Document.lineCount_eq,listed]
    decide
  have latest := ((nearest_is_latest_candidate built ⟨"xs:"⟩ 3 2).1 _).mp found
  rw [start] at latest
  exact latest

end TagContext
