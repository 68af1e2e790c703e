import TagContext.Proofs.Scanner.Shape

namespace TagContext.Text

theorem prefix_of_width_le {xs ys pre post : List Char} (same : xs ++ ys = pre ++ post)
    (le : width xs ≤ width pre) : ∃ mid, pre = xs ++ mid ∧ ys = mid ++ post := by
  rcases List.append_eq_append_iff.mp same with ⟨mid,rfl,rest⟩ | ⟨mid,rfl,rest⟩
  · exact ⟨mid,rfl,rest⟩
  · have empty : mid = [] := by
      by_contra filled
      have := width_pos_of_ne_nil filled
      simp only [width_append] at le
      omega
    subst empty
    exact ⟨[],by simp,by simpa using rest.symm⟩

end TagContext.Text

namespace TagContext.Markup
open Text

-- A comment body runs from past its `<!--` (from column 0 when carried in) to its `-->` or the
-- end of the line.

def bodyStart (carried : Bool) (c : Construct) : Nat :=
  if carried = true ∧ c.start = 0 then 0 else c.start + 4

def bodyStop (t : String) (c : Construct) : Nat :=
  match c.finish with
  | some e => e - 2
  | none => t.utf8ByteSize

def WideComment (t : String) (carried : Bool) (c : Construct) : Prop :=
  c.kind = .comment ∧ ∃ pre x post, t.toList = pre ++ x :: post ∧
    bodyStart carried c ≤ width pre ∧ width pre < bodyStop t c ∧ 1 < x.utf8Size

def NarrowComments (t : String) (carried : Bool) : Prop :=
  ∀ c ∈ constructs t carried, ¬WideComment t carried c

theorem bodyStart_le (carried : Bool) (c : Construct) : bodyStart carried c ≤ c.start + 4 := by
  unfold bodyStart
  split_ifs <;> omega

def Mode.inComment : Mode → Bool
  | .comment _ _ => true
  | _ => false

theorem openingStep_wide (s pos : Nat) (n : String) (c : Char) (q : Option Char) (slash : Bool) :
    (openingStep s n pos c q slash).wide = false := by
  rw [openingStep_eq]
  split_ifs <;> rfl

theorem closingStep_wide (s pos : Nat) (n : String) (c : Char) : (closingStep s n pos c).wide = false := by
  simp only [closingStep]
  split_ifs <;> rfl

theorem openingStep_inComment (s pos : Nat) (n : String) (c : Char) (q : Option Char) (slash : Bool) :
    (openingStep s n pos c q slash).mode.inComment = false := by
  rw [openingStep_eq]
  split_ifs <;> rfl

theorem closingStep_inComment (s pos : Nat) (n : String) (c : Char) :
    (closingStep s n pos c).mode.inComment = false := by
  simp only [closingStep]
  split_ifs <;> rfl

theorem Mode.feed_wide (m : Mode) (pos : Nat) (c : Char) :
    (m.feed pos c).wide = (m.inComment && decide (1 < c.utf8Size)) := by
  cases m with
  | outside =>
    simp only [Mode.feed]
    split_ifs <;> rfl
  | openName s n =>
    simp only [Mode.feed]
    split_ifs <;> first | rfl | exact openingStep_wide ..
  | opening s n q slash => exact openingStep_wide ..
  | closeName s n =>
    simp only [Mode.feed]
    split_ifs
    · exact closingStep_wide ..
    · rfl
  | closing s n => exact closingStep_wide ..
  | comment s d =>
    simp only [Mode.feed,Mode.inComment,Bool.true_and]
    split_ifs with gt dash
    · simp only [Bool.and_eq_true,decide_eq_true_eq] at gt
      rw [gt.1]
      rfl
    · subst dash
      rfl
    · rfl

theorem Mode.firstWide_isSome_iff (m : Mode) (pos : Nat) (cs : List Char) :
    (m.firstWide pos cs).isSome ↔
      ∃ xs x ys, cs = xs ++ x :: ys ∧ (m.after pos xs).inComment = true ∧ 1 < x.utf8Size := by
  constructor
  · induction cs generalizing m pos with
    | nil => simp [Mode.firstWide]
    | cons c cs ih =>
      intro found
      simp only [Mode.firstWide] at found
      split at found
      · next wide =>
        rw [Mode.feed_wide] at wide
        simp only [Bool.and_eq_true,decide_eq_true_eq] at wide
        exact ⟨[],c,cs,rfl,wide.1,wide.2⟩
      · obtain ⟨xs,x,ys,rfl,inside,sized⟩ := ih _ _ found
        exact ⟨c :: xs,x,ys,rfl,inside,sized⟩
  · rintro ⟨xs,x,ys,rfl,inside,sized⟩
    have wide : ((m.after pos xs).feed (pos + width xs) x).wide = true := by
      simp [Mode.feed_wide,inside,sized]
    rw [Mode.firstWide_append]
    simp [Mode.firstWide,wide]

theorem Mode.fits_after {carried : Bool} {pre : List Char} {m : Mode} (fits : m.Fits carried pre) :
    ∀ cs, (m.after (width pre) cs).Fits carried (pre ++ cs) := by
  intro cs
  induction cs generalizing pre m with
  | nil => simpa only [Mode.after,List.append_nil] using fits
  | cons c cs ih =>
    have moved : width pre + c.utf8Size = width (pre ++ [c]) := by simp
    simpa only [Mode.after,moved,List.append_assoc,List.singleton_append] using ih (Mode.fits_feed c fits)

theorem Mode.comment_closes_past {s d pos : Nat} {cs : List Char} {o : Construct}
    {rest : List Construct} (ran : (Mode.comment s d).run pos cs = o :: rest) :
    ∀ e, o.finish = some e → pos + 2 ≤ e + d := by
  induction cs generalizing d pos with
  | nil =>
    simp only [Mode.run,Mode.atEnd,Option.toList_some,List.cons.injEq] at ran
    intro e closed
    simp [← ran.1] at closed
  | cons c cs ih =>
    simp only [Mode.run,Mode.feed] at ran
    split_ifs at ran with gt dash
    · simp only [Bool.and_eq_true,decide_eq_true_eq] at gt
      simp only [Option.toList_some,List.cons_append,List.nil_append,List.cons.injEq] at ran
      intro e closed
      simp only [← ran.1,Option.some.injEq] at closed
      omega
    · subst dash
      have further := ih (by simpa [Step.go] using ran)
      intro e closed
      have := further e closed
      have sized : '-'.utf8Size = 1 := rfl
      omega
    · have further := ih (by simpa using ran)
      intro e closed
      have := further e closed
      omega

theorem Mode.after_comment_until {s d pos : Nat} {cs : List Char} {o : Construct}
    {rest : List Construct} (ran : (Mode.comment s d).run pos cs = o :: rest) :
    ∀ xs ys, cs = xs ++ ys → (∀ e, o.finish = some e → pos + width xs ≤ e) →
      ∃ d', (Mode.comment s d).after pos xs = .comment s d' := by
  induction cs generalizing d pos with
  | nil =>
    intro xs ys split _
    obtain ⟨rfl,-⟩ := List.append_eq_nil_iff.mp split.symm
    exact ⟨d,rfl⟩
  | cons c cs ih =>
    intro xs ys split before
    cases xs with
    | nil => exact ⟨d,rfl⟩
    | cons x xs =>
      simp only [List.cons_append,List.cons.injEq] at split
      obtain ⟨rfl,rfl⟩ := split
      have sized := c.utf8Size_pos
      have later : ∀ e, o.finish = some e → pos + c.utf8Size + width xs ≤ e := by
        intro e closed
        have := before e closed
        simp only [width_cons] at this
        omega
      simp only [Mode.run,Mode.feed] at ran
      simp only [Mode.after,Mode.feed]
      split_ifs at ran ⊢ with gt dash
      · simp only [Option.toList_some,List.cons_append,List.nil_append,List.cons.injEq] at ran
        have := later pos (by rw [← ran.1])
        omega
      · exact ih (by simpa [Step.go] using ran) xs ys rfl later
      · exact ih (by simpa using ran) xs ys rfl later

theorem Mode.feed_out_comment {m : Mode} {pos : Nat} {c : Char} {o : Construct}
    (done : (m.feed pos c).out = some o) (comment : o.kind = .comment) : m.inComment = true := by
  cases m with
  | outside =>
    simp only [Mode.feed] at done
    split_ifs at done <;> simp [Step.go] at done
  | openName s n =>
    have emitted : (openingStep s n pos c none false).out = some o := by
      simp only [Mode.feed] at done
      split_ifs at done <;> first | exact done | simp [Step.go] at done
    obtain ⟨-,⟨-,rfl⟩ | ⟨-,rfl⟩⟩ := openingStep_out emitted <;> simp at comment
  | opening s n q slash =>
    obtain ⟨-,⟨-,rfl⟩ | ⟨-,rfl⟩⟩ := openingStep_out done <;> cases slash <;> simp at comment
  | closeName s n =>
    have emitted : (closingStep s n pos c).out = some o := by
      simp only [Mode.feed] at done
      split_ifs at done <;> first | exact done | simp [Step.go] at done
    rcases closingStep_out emitted with ⟨-,rfl⟩ | ⟨-,rfl⟩ <;> simp at comment
  | closing s n => rcases closingStep_out done with ⟨-,rfl⟩ | ⟨-,rfl⟩ <;> simp at comment
  | comment s d => rfl

theorem Mode.feed_enters_comment {m : Mode} {pos : Nat} {c : Char} (outer : m.inComment = false)
    (inner : (m.feed pos c).mode.inComment = true) :
    ∃ s, m = .openName s "!-" ∧ c = '-' ∧ m.feed pos c = .go (.comment s 0) := by
  cases m with
  | outside =>
    simp only [Mode.feed] at inner
    split_ifs at inner <;> simp [Step.go,Mode.inComment] at inner
  | openName s n =>
    simp only [Mode.feed] at inner ⊢
    split_ifs at inner ⊢ with slash dash ends
    · simp [Step.go,Mode.inComment] at inner
    · simp only [Bool.and_eq_true,beq_iff_eq,decide_eq_true_eq] at dash
      obtain ⟨rfl,rfl⟩ := dash
      exact ⟨s,rfl,rfl,rfl⟩
    · simp [openingStep_inComment] at inner
    · simp [Step.go,Mode.inComment] at inner
  | opening s n q slash => simp [Mode.feed,openingStep_inComment] at inner
  | closeName s n =>
    simp only [Mode.feed] at inner
    split_ifs at inner
    · simp [closingStep_inComment] at inner
    · simp [Step.go,Mode.inComment] at inner
  | closing s n => simp [Mode.feed,closingStep_inComment] at inner
  | comment s d => simp [Mode.inComment] at outer

theorem Mode.comment_origin {carried : Bool} (cs : List Char) :
    ∀ (pre : List Char) (m : Mode), m.Fits carried pre → ∀ o ∈ m.run (width pre) cs,
      o.kind = .comment →
      (m.inComment = true ∧ ∃ rest, m.run (width pre) cs = o :: rest) ∨
      ∃ xs ys rest, cs = xs ++ ys ∧ m.after (width pre) xs = .comment o.start 0 ∧
        o.start + 4 = width pre + width xs ∧
        (Mode.comment o.start 0).run (width pre + width xs) ys = o :: rest := by
  induction cs with
  | nil =>
    intro pre m _ o member comment
    cases m <;> simp_all [Mode.run,Mode.atEnd,Mode.inComment]
  | cons c cs ih =>
    intro pre m fits o member comment
    have moved : width pre + c.utf8Size = width (pre ++ [c]) := by simp
    simp only [Mode.run,List.mem_append,Option.mem_toList] at member
    rcases member with done | later
    · refine .inl ⟨Mode.feed_out_comment done comment,
        (m.feed (width pre) c).mode.run (width pre + c.utf8Size) cs,?_⟩
      simp [Mode.run,done]
    · rw [moved] at later
      rcases ih (pre ++ [c]) _ (Mode.fits_feed c fits) o later comment with
        ⟨inner,rest,ran⟩ | ⟨xs,ys,rest,rfl,after,start,ran⟩
      · cases outer : m.inComment with
        | true =>
          -- still in the same comment: the step completed nothing
          have quiet : (m.feed (width pre) c).out = none := by
            have shape := m.feed_shape (width pre) c
            generalize m.feed (width pre) c = st at shape inner
            cases shape with
            | stay => rfl
            | idle quiet => simp [quiet,Mode.inComment] at outer
            | begin quiet => simp [quiet,Mode.inComment] at outer
            | close => simp [Mode.inComment] at inner
            | cut => simp [Mode.inComment] at inner
          refine .inl ⟨rfl,rest,?_⟩
          simp only [Mode.run,quiet,Option.toList_none,List.nil_append]
          rw [moved]
          exact ran
        | false =>
          -- the `-` of `<!--`
          obtain ⟨s,rfl,rfl,stepped⟩ := Mode.feed_enters_comment outer inner
          obtain ⟨p0,rfl,rfl,-⟩ := fits
          rw [stepped,← moved] at ran
          simp only [Step.go] at ran
          obtain ⟨o',rest',ran',⟨started,-⟩,-⟩ := Mode.run_head (.comment (width p0) 0)
            (width (p0 ++ '<' :: "!-".toList) + '-'.utf8Size) cs (by simp)
          have same : o = o' := by
            rw [ran'] at ran
            exact (List.cons.inj ran).1.symm
          subst same
          refine .inr ⟨['-'],cs,rest,rfl,by simp only [Mode.after,stepped,Step.go,started],?_,?_⟩
          · rw [started]
            simp only [width_append,width_cons,width_nil]
            rfl
          · rw [started]
            simpa using ran
      · have shifted : width pre + width (c :: xs) = width (pre ++ [c]) + width xs := by
          simp only [width_cons,width_append,width_nil]
          omega
        refine .inr ⟨c :: xs,ys,rest,rfl,?_,by rw [shifted,start],by rw [shifted]; exact ran⟩
        simp only [Mode.after]
        rw [moved]
        exact after

theorem inComment_of_body {t : String} {carried : Bool} {c : Construct}
    (member : c ∈ constructs t carried) (comment : c.kind = .comment) {pre post : List Char} {x : Char}
    (split : t.toList = pre ++ x :: post) (low : bodyStart carried c ≤ width pre)
    (high : width pre < bodyStop t c) : ((Mode.initial carried).after 0 pre).inComment = true := by
  have before : ∀ e, c.finish = some e → width pre ≤ e := by
    intro e closed
    simp only [bodyStop,closed] at high
    omega
  by_cases resumed : carried = true ∧ c.start = 0
  · -- the comment carried in from the line above is the line's first construct
    obtain ⟨rfl,zero⟩ := resumed
    have filled : t ≠ "" := by
      rintro rfl
      simp at split
    have first := head_of_start_zero (constructs_ordered t true) (constructs_start_lt true filled) member zero
    obtain ⟨rest,ran⟩ := List.head?_eq_some_iff.mp first
    rw [constructs,Mode.initial,if_pos rfl,split] at ran
    obtain ⟨d,inside⟩ := Mode.after_comment_until ran pre (x :: post) rfl (by simpa using before)
    simp [Mode.initial,inside,Mode.inComment]
  · have fresh : bodyStart carried c = c.start + 4 := if_neg resumed
    rcases Mode.comment_origin t.toList [] (Mode.initial carried) (Mode.fits_initial carried) c member
        comment with ⟨inner,rest,ran⟩ | ⟨xs,ys,rest,same,after,start,ran⟩
    · -- a run that begins in a comment begins with the comment carried in, at column 0
      cases carried with
      | false => simp [Mode.initial,Mode.inComment] at inner
      | true =>
        obtain ⟨o,rest',ran',⟨started,-⟩,-⟩ := Mode.run_head (.comment 0 0) 0 t.toList (by simp)
        simp only [Mode.initial,if_pos,width_nil] at ran
        rw [ran'] at ran
        obtain ⟨rfl,-⟩ := List.cons.inj ran
        exact absurd ⟨rfl,started⟩ resumed
    · simp only [width_nil,Nat.zero_add] at start after ran
      obtain ⟨mid,rfl,rest'⟩ := prefix_of_width_le (same.symm.trans split) (by omega)
      obtain ⟨d,inside⟩ := Mode.after_comment_until ran mid (x :: post) rest'
        (fun e closed => by have := before e closed; simp only [width_append] at this; omega)
      rw [Mode.after_append,Nat.zero_add,after,inside]
      rfl

theorem wideComment_of_inComment {t : String} {carried : Bool} {pre post : List Char} {x : Char}
    (split : t.toList = pre ++ x :: post) (inside : ((Mode.initial carried).after 0 pre).inComment = true)
    (wide : 1 < x.utf8Size) : ∃ c ∈ constructs t carried, WideComment t carried c := by
  obtain ⟨s,d,mode⟩ : ∃ s d, (Mode.initial carried).after 0 pre = .comment s d := by
    revert inside
    cases (Mode.initial carried).after 0 pre <;> simp [Mode.inComment]
  have fits := Mode.fits_after (Mode.fits_initial carried) pre
  rw [width_nil,mode,List.nil_append] at fits
  obtain ⟨lead,body,rfl,led,-⟩ := fits
  -- the wide character is stepped over and the comment goes on after it
  have plain : x ≠ '>' ∧ x ≠ '-' := by
    constructor <;> (rintro rfl; exact absurd wide (by decide))
  have stepped : (Mode.comment s d).run (width (lead ++ body)) (x :: post) =
      (Mode.comment s 0).run (width (lead ++ body) + x.utf8Size) post := by
    simp [Mode.run,Mode.feed,plain]
  obtain ⟨o,rest,ran,⟨started,comment⟩,-⟩ :=
    Mode.run_head (.comment s 0) (width (lead ++ body) + x.utf8Size) post (by simp)
  have member : o ∈ constructs t carried := by
    rw [constructs,split,Mode.run_append,mode,Nat.zero_add,stepped,ran]
    simp
  refine ⟨o,member,comment,lead ++ body,x,post,split,?_,?_,wide⟩
  · rcases led with ⟨p0,rfl,rfl⟩ | ⟨carried',rfl,rfl⟩
    · have opener : width ['<','!','-','-'] = 4 := rfl
      have := bodyStart_le carried o
      simp only [width_append,opener]
      omega
    · simp [bodyStart,carried',started]
  · cases closed : o.finish with
    | some e =>
      have := Mode.comment_closes_past ran e closed
      simp only [bodyStop,closed]
      omega
    | none =>
      simp only [bodyStop,closed]
      rw [← width_toList,split]
      simp only [width_append,width_cons]
      omega

theorem scan_fails_iff (t : String) (carried : Bool) :
    (∃ f, scan t carried = .error f) ↔ ∃ c ∈ constructs t carried, WideComment t carried c := by
  have faults : (∃ f, scan t carried = .error f) ↔ ((Mode.initial carried).firstWide 0 t.toList).isSome := by
    unfold scan
    split <;> simp_all
  rw [faults,Mode.firstWide_isSome_iff]
  constructor
  · rintro ⟨pre,x,post,split,inside,wide⟩
    exact wideComment_of_inComment split inside wide
  · rintro ⟨c,member,comment,pre,x,post,split,low,high,wide⟩
    exact ⟨pre,x,post,split,inComment_of_body member comment split low high,wide⟩

theorem scan_of_narrow {t : String} {carried : Bool} (narrow : NarrowComments t carried) :
    scan t carried = .ok (constructs t carried) := by
  cases scanned : scan t carried with
  | error f =>
    obtain ⟨c,member,wide⟩ := (scan_fails_iff t carried).mp ⟨f,scanned⟩
    exact absurd wide (narrow c member)
  | ok cs => rw [scan_eq_ok scanned]

theorem narrowComments_iff (t : String) (carried : Bool) :
    NarrowComments t carried ↔ (Mode.initial carried).firstWide 0 t.toList = none := by
  have faults := scan_fails_iff t carried
  unfold scan at faults
  constructor
  · intro narrow
    cases found : (Mode.initial carried).firstWide 0 t.toList with
    | none => rfl
    | some column =>
      obtain ⟨c,member,wide⟩ := faults.mp ⟨_,by rw [found]⟩
      exact absurd wide (narrow c member)
  · intro quiet c member wide
    rw [quiet] at faults
    simpa using faults.mpr ⟨c,member,wide⟩

instance (t : String) (carried : Bool) : Decidable (NarrowComments t carried) :=
  decidable_of_iff _ (narrowComments_iff t carried).symm

end TagContext.Markup
