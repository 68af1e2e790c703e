import TagContext.Proofs.Outline

namespace TagContext.Markup
open Text

-- A comment left open at the end of a line goes on in the comment the next line resumes: the
-- pieces fuse into one comment.

def fuse : List Construct → List Construct
  | [] => []
  | c :: cs =>
    match fuse cs with
    | d :: ds => if c.isOpenComment then d.restart c.start :: ds else c :: d :: ds
    | [] => [c]

def shiftedLines (off : Nat) : List ScannedLine → List Construct
  | [] => []
  | l :: ls => l.constructs.map (·.shift off) ++ shiftedLines (off + l.text.utf8ByteSize + 1) ls

def EndsOutsideTags (cs : List Construct) : Prop :=
  ∀ c ∈ cs.getLast?, c.isTerminated = true ∨ c.kind = .comment

instance (cs : List Construct) : Decidable (EndsOutsideTags cs) :=
  inferInstanceAs (Decidable (∀ c ∈ cs.getLast?, _))

def lineMode (carried : Bool) (s : Nat) : Mode := if carried then .comment s 0 else .outside

@[simp] theorem Construct.isOpenComment_shift (k : Nat) (c : Construct) :
    (c.shift k).isOpenComment = c.isOpenComment := by
  simp [Construct.isOpenComment,Construct.shift]

theorem fuse_append_of_closed {xs : List Construct} (closed : ∀ c ∈ xs, c.isOpenComment = false)
    (ys : List Construct) : fuse (xs ++ ys) = xs ++ fuse ys := by
  induction xs with
  | nil => rfl
  | cons x xs ih =>
    rw [List.cons_append,fuse,ih fun c member => closed c (List.mem_cons_of_mem x member)]
    have open_ := closed x List.mem_cons_self
    cases joined : xs ++ fuse ys with
    | nil => simp [joined]
    | cons d ds => simp [open_,joined]

theorem fuse_ne_nil {ys : List Construct} (filled : ys ≠ []) : fuse ys ≠ [] := by
  cases ys with
  | nil => exact absurd rfl filled
  | cons c cs =>
    rw [fuse]
    split
    · split <;> simp
    · simp

theorem fuse_cons_open {c : Construct} (open_ : c.isOpenComment = true) {ys : List Construct}
    (filled : ys ≠ []) : fuse (c :: ys) = (fuse ys).modifyHead (·.restart c.start) := by
  rw [fuse]
  cases fused : fuse ys with
  | nil => exact absurd fused (fuse_ne_nil filled)
  | cons d ds => simp [open_]

theorem emits_closed (m : Mode) (pos : Nat) (cs : List Char) :
    ∀ c ∈ m.emits pos cs, c.isOpenComment = false := by
  intro c member
  rcases Mode.emits_terminated_or_cut m pos cs c member with closed | tag | tag
  · cases ended : c.finish with
    | none => simp [Construct.isTerminated,ended] at closed
    | some e => simp [Construct.isOpenComment,ended]
  all_goals simp [Construct.isOpenComment,tag]

theorem constructs_dropLast_closed (t : String) (carried : Bool) :
    ∀ c ∈ (constructs t carried).dropLast, c.isOpenComment = false := by
  intro c member
  rw [constructs,Mode.run_eq_emits,Nat.zero_add] at member
  have emitted : c ∈ (Mode.initial carried).emits 0 t.toList := by
    cases left : ((Mode.initial carried).after 0 t.toList).atEnd (width t.toList) with
    | none =>
      simp only [left,Option.toList_none,List.append_nil] at member
      exact List.dropLast_subset _ member
    | some o =>
      simp only [left,Option.toList_some,List.dropLast_concat] at member
      exact member
  exact emits_closed _ _ _ c emitted

theorem fuse_of_closed_dropLast : ∀ {xs : List Construct},
    (∀ c ∈ xs.dropLast, c.isOpenComment = false) → fuse xs = xs
  | [],_ => rfl
  | [_],_ => rfl
  | c :: d :: ds,closed => by
    rw [List.dropLast_cons_cons] at closed
    have rest : fuse (d :: ds) = d :: ds :=
      fuse_of_closed_dropLast fun x member => closed x (List.mem_cons_of_mem c member)
    rw [fuse,rest]
    simp [closed c List.mem_cons_self]

theorem fuse_line (t : String) (carried : Bool) (k : Nat) :
    fuse ((constructs t carried).map (·.shift k)) = (constructs t carried).map (·.shift k) := by
  apply fuse_of_closed_dropLast
  intro c member
  rw [← List.map_dropLast] at member
  obtain ⟨c',member',rfl⟩ := List.mem_map.mp member
  simpa using constructs_dropLast_closed t carried c' member'

@[simp] theorem lineMode_true (s : Nat) : lineMode true s = .comment s 0 := rfl
@[simp] theorem lineMode_false (s : Nat) : lineMode false s = .outside := rfl

theorem lineMode_initial (carried : Bool) (off : Nat) :
    (Mode.initial carried).shift off = lineMode carried off := by
  cases carried <;> simp [Mode.initial,lineMode,Mode.shift]

@[simp] theorem lineMode_inComment (carried : Bool) (s : Nat) : (lineMode carried s).inComment = carried := by
  cases carried <;> rfl

@[simp] theorem Mode.outside_feed_newline (pos : Nat) : Mode.outside.feed pos '\n' = .go .outside := rfl

@[simp] theorem Mode.comment_feed_newline (s d pos : Nat) :
    (Mode.comment s d).feed pos '\n' = .go (.comment s 0) := by
  simp [Mode.feed,Step.go]

theorem constructs_carried_ne_nil (t : String) : constructs t true ≠ [] := by
  obtain ⟨o,rest,ran,-⟩ := Mode.run_head (.comment 0 0) 0 t.toList (by simp)
  simp [constructs,Mode.initial,ran]

theorem endsOutsideTags_cases {t : String} {carried : Bool} (settled : EndsOutsideTags (constructs t carried)) :
    ((Mode.initial carried).after 0 t.toList = .outside ∧ endsInComment (constructs t carried) = false ∧
      constructs t carried = (Mode.initial carried).emits 0 t.toList) ∨
    ∃ s d, (Mode.initial carried).after 0 t.toList = .comment s d ∧
      endsInComment (constructs t carried) = true ∧
      constructs t carried = (Mode.initial carried).emits 0 t.toList ++ [⟨.comment,"",s,none,t.utf8ByteSize⟩] := by
  have split := Mode.run_eq_emits (Mode.initial carried) 0 t.toList
  rw [Nat.zero_add,width_toList] at split
  rw [← constructs] at split
  cases ended : (Mode.initial carried).after 0 t.toList with
  | outside =>
    rw [ended] at split
    simp only [Mode.atEnd,Option.toList_none,List.append_nil] at split
    refine .inl ⟨rfl,?_,split⟩
    unfold endsInComment
    cases last : (constructs t carried).getLast? with
    | none => rfl
    | some c =>
      rw [split] at last
      have := emits_closed (Mode.initial carried) 0 t.toList c (List.mem_of_getLast? last)
      simpa using this
  | comment s d =>
    rw [ended] at split
    refine .inr ⟨s,d,rfl,?_,split⟩
    simp [endsInComment,split,Mode.atEnd,Construct.isOpenComment]
  | openName s n | opening s n q slash | closeName s n | closing s n =>
    rw [ended] at split
    rw [split] at settled
    simp [EndsOutsideTags,Mode.atEnd,Construct.isTerminated] at settled

theorem scannedLines_cons (carried : Bool) (t : String) (ts : List String) :
    scannedLines carried (t :: ts) =
      ⟨t,carried,constructs t carried⟩ :: scannedLines (endsInComment (constructs t carried)) ts := rfl

theorem shiftedLines_cons (off : Nat) (l : ScannedLine) (ls : List ScannedLine) :
    shiftedLines off (l :: ls) = l.constructs.map (·.shift off) ++ shiftedLines (off + l.text.utf8ByteSize + 1) ls :=
  rfl

theorem joined_toList (t t' : String) (ts : List String) :
    ("\n".intercalate (t :: t' :: ts)).toList = t.toList ++ '\n' :: ("\n".intercalate (t' :: ts)).toList := by
  simp [String.intercalate_cons_cons]

theorem next_line_offset (off : Nat) (t : String) :
    off + width t.toList + '\n'.utf8Size = off + t.utf8ByteSize + 1 := by
  rw [width_toList]
  rfl

theorem lineMode_after (carried : Bool) (off : Nat) (t : String) :
    (lineMode carried off).after off t.toList = ((Mode.initial carried).after 0 t.toList).shift off := by
  have shifted := Mode.after_shift off (Mode.initial carried) 0 t.toList
  rwa [Nat.zero_add,lineMode_initial] at shifted

theorem shifted_emits_closed (m : Mode) (pos off : Nat) (cs : List Char) :
    ∀ c ∈ (m.emits pos cs).map (·.shift off), c.isOpenComment = false := by
  intro c member
  obtain ⟨c',member',rfl⟩ := List.mem_map.mp member
  simpa using emits_closed _ _ _ c' member'

theorem run_joined (ts : List String) :
    ∀ (carried : Bool) (off : Nat) (t : String),
      (∀ l ∈ scannedLines carried (t :: ts), EndsOutsideTags l.constructs) →
      (lineMode carried off).run off ("\n".intercalate (t :: ts)).toList =
        fuse (shiftedLines off (scannedLines carried (t :: ts))) := by
  induction ts with
  | nil =>
    intro carried off t _
    have shifted := Mode.run_shift off (Mode.initial carried) 0 t.toList
    rw [Nat.zero_add,lineMode_initial] at shifted
    simp only [String.intercalate_singleton,shifted,scannedLines,shiftedLines,List.append_nil]
    exact (fuse_line t carried off).symm
  | cons t' ts ih =>
    intro carried off t settled
    rw [scannedLines_cons] at settled
    obtain ⟨line,rest⟩ := List.forall_mem_cons.mp settled
    have emitted := Mode.emits_shift off (Mode.initial carried) 0 t.toList
    rw [Nat.zero_add,lineMode_initial] at emitted
    rw [joined_toList,Mode.run_append,emitted,lineMode_after,scannedLines_cons,shiftedLines_cons]
    rcases endsOutsideTags_cases line with ⟨outside,ends,closes⟩ | ⟨s,d,inside,ends,opens⟩
    · -- the line ends outside constructs, and so does the joined scan at its line feed
      rw [ends] at rest ⊢
      simp only [outside,Mode.shift,Mode.run,Mode.outside_feed_newline,Step.go,Option.toList_none,
        List.nil_append,next_line_offset]
      rw [closes,fuse_append_of_closed (shifted_emits_closed _ _ _ _)]
      rw [← ih false (off + t.utf8ByteSize + 1) t' rest,lineMode_false]
    · -- the line leaves a comment open, and the joined scan reads on in it
      rw [ends] at rest ⊢
      simp only [inside,Mode.shift,Mode.run,Mode.comment_feed_newline,Step.go,Option.toList_none,
        List.nil_append,next_line_offset]
      have continued := ih true (off + t.utf8ByteSize + 1) t' rest
      rw [lineMode_true] at continued
      rw [Mode.run_comment (s + off) (off + t.utf8ByteSize + 1),continued]
      rw [opens,List.map_append,List.append_assoc,fuse_append_of_closed (shifted_emits_closed _ _ _ _)]
      rw [List.map_singleton,List.singleton_append,fuse_cons_open (by rfl)]
      · rfl
      · rw [scannedLines_cons,shiftedLines_cons]
        exact List.append_ne_nil_of_left_ne_nil (by simpa using constructs_carried_ne_nil t') _

theorem firstWide_joined (ts : List String) :
    ∀ (carried : Bool) (off : Nat) (t : String), ScansNarrow carried (t :: ts) →
      (∀ l ∈ scannedLines carried (t :: ts), EndsOutsideTags l.constructs) →
      (lineMode carried off).firstWide off ("\n".intercalate (t :: ts)).toList = none := by
  induction ts with
  | nil =>
    intro carried off t narrow _
    have shifted := Mode.firstWide_shift off (Mode.initial carried) 0 t.toList
    rw [Nat.zero_add,lineMode_initial] at shifted
    rw [String.intercalate_singleton,shifted,(narrowComments_iff t carried).mp narrow.1]
    rfl
  | cons t' ts ih =>
    intro carried off t narrow settled
    obtain ⟨line,narrow⟩ := narrow
    rw [scannedLines_cons] at settled
    obtain ⟨ends,rest⟩ := List.forall_mem_cons.mp settled
    have shifted := Mode.firstWide_shift off (Mode.initial carried) 0 t.toList
    rw [Nat.zero_add,lineMode_initial] at shifted
    rw [joined_toList,Mode.firstWide_append,shifted,(narrowComments_iff t carried).mp line,lineMode_after]
    rcases endsOutsideTags_cases ends with ⟨outside,closed,-⟩ | ⟨s,d,inside,opened,-⟩
    · rw [closed] at rest narrow
      simp only [outside,Mode.shift,Mode.firstWide,Mode.outside_feed_newline,Step.go,next_line_offset]
      exact ih false _ t' narrow rest
    · rw [opened] at rest narrow
      simp only [inside,Mode.shift,Mode.firstWide,Mode.comment_feed_newline,Step.go,next_line_offset]
      rw [Mode.firstWide_comment (s + off) (off + t.utf8ByteSize + 1)]
      exact ih true _ t' narrow rest

theorem Mode.after_comment_inComment (s s' d pos : Nat) (cs : List Char) :
    ((Mode.comment s d).after pos cs).inComment = ((Mode.comment s' d).after pos cs).inComment := by
  induction cs generalizing d pos with
  | nil => rfl
  | cons c cs ih =>
    simp only [Mode.after,Mode.feed]
    split_ifs
    · rfl
    · exact ih _ _
    · exact ih _ _

theorem joined_prefix_toList (t : String) (ts : List String) (i : Nat) :
    (String.join (((t :: ts).take (i + 1)).map (· ++ "\n"))).toList =
      t.toList ++ '\n' :: (String.join ((ts.take i).map (· ++ "\n"))).toList := by
  simp

theorem startsInComment_joined (ts : List String) :
    ∀ (carried : Bool) (off : Nat) (t : String),
      (∀ l ∈ scannedLines carried (t :: ts), EndsOutsideTags l.constructs) →
      ∀ i < (t :: ts).length, (⟨scannedLines carried (t :: ts)⟩ : Outline).startsInComment i =
        ((lineMode carried off).after off (String.join (((t :: ts).take i).map (· ++ "\n"))).toList).inComment := by
  induction ts with
  | nil =>
    intro carried off t _ i bound
    obtain rfl : i = 0 := by simpa using bound
    simp [Outline.startsInComment,scannedLines,Mode.after]
  | cons t' ts ih =>
    intro carried off t settled i bound
    rw [scannedLines_cons] at settled
    obtain ⟨ends,rest⟩ := List.forall_mem_cons.mp settled
    cases i with
    | zero => simp [Outline.startsInComment,scannedLines,Mode.after]
    | succ i =>
      have later : (⟨scannedLines carried (t :: t' :: ts)⟩ : Outline).startsInComment (i + 1) =
          (⟨scannedLines (endsInComment (constructs t carried)) (t' :: ts)⟩ : Outline).startsInComment i :=
        rfl
      have bound' : i < (t' :: ts).length := by simpa using bound
      rw [later,joined_prefix_toList,Mode.after_append,lineMode_after]
      rcases endsOutsideTags_cases ends with ⟨outside,closed,-⟩ | ⟨s,d,inside,opened,-⟩
      · rw [closed] at rest ⊢
        simp only [outside,Mode.shift,Mode.after,Mode.outside_feed_newline,Step.go,next_line_offset]
        rw [ih false (off + t.utf8ByteSize + 1) t' rest i bound',lineMode_false]
      · rw [opened] at rest ⊢
        simp only [inside,Mode.shift,Mode.after,Mode.comment_feed_newline,Step.go,next_line_offset]
        rw [ih true (off + t.utf8ByteSize + 1) t' rest i bound',lineMode_true,
          Mode.after_comment_inComment (s + off) (off + t.utf8ByteSize + 1)]

theorem scan_joined_lines {ls : List String} {o : Outline} (built : Outline.ofLines ls = .ok o)
    (settled : ∀ l ∈ o.lines, EndsOutsideTags l.constructs) :
    scan ("\n".intercalate ls) false = .ok (fuse (shiftedLines 0 o.lines)) ∧
    ∀ i < ls.length, o.startsInComment i =
      ((Mode.initial false).after 0 (String.join ((ls.take i).map (· ++ "\n"))).toList).inComment := by
  obtain ⟨narrow,rfl⟩ := Outline.ofLines_eq_ok built
  cases ls with
  | nil => exact ⟨rfl,fun i bound => absurd bound (Nat.not_lt_zero i)⟩
  | cons t ts =>
    refine ⟨?_,startsInComment_joined ts false 0 t settled⟩
    unfold scan
    rw [show Mode.initial false = lineMode false 0 from rfl,firstWide_joined ts false 0 t narrow settled]
    exact congrArg Except.ok (run_joined ts false 0 t settled)

theorem comment_over_lines_fuses :
    scan ("\n".intercalate ["<a>","<!-- x","","y --><b/>"]) false =
        .ok [⟨.opening,"a",0,some 2,3⟩,⟨.comment,"",4,some 16,17⟩,⟨.selfClosing,"b",17,some 20,21⟩] ∧
      (⟨scannedLines false ["<a>","<!-- x","","y --><b/>"]⟩ : Outline).startsInComment 2 = true := by
  have built : Outline.ofLines ["<a>","<!-- x","","y --><b/>"] =
      .ok ⟨scannedLines false ["<a>","<!-- x","","y --><b/>"]⟩ := Outline.ofLines_of_narrow (by decide)
  have joined := scan_joined_lines built (by decide)
  exact ⟨joined.1.trans (congrArg Except.ok (by decide)),(joined.2 2 (by decide)).trans (by decide)⟩

end TagContext.Markup
