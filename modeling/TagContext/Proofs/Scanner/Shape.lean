import TagContext.Proofs.Scanner.Run

namespace TagContext.Markup
open Text

def HasAt (t : List Char) (i : Nat) (pat : List Char) : Prop :=
  ∃ pre post, t = pre ++ pat ++ post ∧ width pre = i

-- A name is the longest run after `lead` of characters that do not end a name.
def NameAt (t : List Char) (s : Nat) (lead : List Char) (name : String) : Prop :=
  ∃ pre post, t = pre ++ lead ++ name.toList ++ post ∧ width pre = s ∧
    (∀ x ∈ name.toList, endsName x = false) ∧ ∀ x ∈ post.head?, endsName x = true

def quoteStep : Option Char → Char → Option Char
  | none, x => if x = '"' ∨ x = '\'' then some x else none
  | some q, x => if x = q then none else some q

def QuotedAt (t : List Char) (s i : Nat) : Prop :=
  ∃ pre mid post, t = pre ++ mid ++ post ∧ width pre = s ∧ width pre + width mid = i ∧
    (mid.foldl quoteStep none).isSome

def dashRun (cs : List Char) : Nat := (cs.reverse.takeWhile (· = '-')).length

@[simp] theorem dashRun_nil : dashRun [] = 0 := rfl

theorem dashRun_dash (cs : List Char) : dashRun (cs ++ ['-']) = dashRun cs + 1 := by
  simp [dashRun]

theorem dashRun_other {c : Char} (other : c ≠ '-') (cs : List Char) : dashRun (cs ++ [c]) = 0 := by
  simp [dashRun,other]

def NameChars (n : String) : Prop := ∀ x ∈ n.toList, endsName x = false

def Breaks (r : List Char) : Prop := ∃ x rest, r = x :: rest ∧ endsName x = true

def CommentLead (carried : Bool) (s : Nat) (lead : List Char) : Prop :=
  (∃ p0, lead = p0 ++ ['<','!','-','-'] ∧ width p0 = s) ∨ (carried = true ∧ s = 0 ∧ lead = [])

def Mode.Fits (carried : Bool) (pre : List Char) : Mode → Prop
  | .outside => True
  | .openName s n => ∃ p0, pre = p0 ++ '<' :: n.toList ∧ width p0 = s ∧ NameChars n
  | .opening s n q slash => ∃ p0 r, pre = p0 ++ '<' :: (n.toList ++ r) ∧ width p0 = s ∧
      NameChars n ∧ Breaks r ∧ r.foldl quoteStep none = q ∧ (slash = true ↔ r.getLast? = some '/')
  | .closeName s n => ∃ p0, pre = p0 ++ '<' :: '/' :: n.toList ∧ width p0 = s ∧ NameChars n
  | .closing s n => ∃ p0 r, pre = p0 ++ '<' :: '/' :: (n.toList ++ r) ∧ width p0 = s ∧
      NameChars n ∧ Breaks r
  | .comment s d => ∃ lead body, pre = lead ++ body ∧ CommentLead carried s lead ∧ dashRun body = d

theorem Mode.fits_initial (carried : Bool) : (Mode.initial carried).Fits carried [] := by
  cases carried
  · trivial
  · exact ⟨[],[],rfl,.inr ⟨rfl,rfl,rfl⟩,rfl⟩

theorem foldl_quoteStep_mark (r : List Char) (q : Option Char)
    (marked : ∀ x, q = some x → x = '"' ∨ x = '\'') :
    ∀ x, r.foldl quoteStep q = some x → x = '"' ∨ x = '\'' := by
  induction r generalizing q with
  | nil => exact marked
  | cons c r ih =>
    apply ih
    intro x stepped
    cases q with
    | none => simp only [quoteStep] at stepped; split at stepped <;> simp_all
    | some q => simp only [quoteStep] at stepped; split at stepped <;> simp_all

theorem openingStep_eq (s pos : Nat) (n : String) (c : Char) (q : Option Char) (slash : Bool) :
    openingStep s n pos c q slash =
      if q = none ∧ c = '>' then
        ⟨.outside,some ⟨if slash then .selfClosing else .opening,n,s,some pos,pos + 1⟩,false⟩
      else if q = none ∧ c = '<' then ⟨.openName pos "",some ⟨.opening,n,s,none,pos⟩,false⟩
      else .go (.opening s n (quoteStep q c) (c = '/')) := by
  cases q with
  | some q => simp [openingStep,quoteStep]
  | none =>
    simp only [openingStep,quoteStep,true_and]
    by_cases quote : c = '"' ∨ c = '\''
    · have : c ≠ '>' ∧ c ≠ '<' ∧ c ≠ '/' := by rcases quote with rfl | rfl <;> decide
      simp [quote,this]
    · by_cases gt : c = '>'
      · simp [gt]
      · by_cases lt : c = '<'
        · simp [lt]
        · simp [quote,gt,lt]

theorem Mode.fits_opening {carried : Bool} {pre p0 r : List Char} {s : Nat} {n : String}
    {q : Option Char} {slash : Bool} (c : Char) (shaped : pre = p0 ++ '<' :: (n.toList ++ r))
    (placed : width p0 = s) (names : NameChars n) (breaks : Breaks (r ++ [c]))
    (quoted : r.foldl quoteStep none = q) :
    (openingStep s n (width pre) c q slash).mode.Fits carried (pre ++ [c]) := by
  rw [openingStep_eq]
  by_cases gt : q = none ∧ c = '>'
  · rw [if_pos gt]; trivial
  · rw [if_neg gt]
    by_cases lt : q = none ∧ c = '<'
    · rw [if_pos lt]
      obtain ⟨-,rfl⟩ := lt
      exact ⟨pre,rfl,rfl,by simp [NameChars]⟩
    · rw [if_neg lt]
      refine ⟨p0,r ++ [c],by simp [shaped],placed,names,breaks,by simp [quoted],?_⟩
      simp

theorem Mode.fits_closing {carried : Bool} {pre p0 r : List Char} {s : Nat} {n : String} (c : Char)
    (shaped : pre = p0 ++ '<' :: '/' :: (n.toList ++ r)) (placed : width p0 = s) (names : NameChars n)
    (breaks : Breaks (r ++ [c])) : (closingStep s n (width pre) c).mode.Fits carried (pre ++ [c]) := by
  simp only [closingStep]
  split_ifs with gt lt
  · trivial
  · subst lt
    exact ⟨pre,rfl,rfl,by simp [NameChars]⟩
  · exact ⟨p0,r ++ [c],by simp [shaped],placed,names,breaks⟩

theorem breaks_append {r : List Char} (breaks : Breaks r) (c : Char) : Breaks (r ++ [c]) := by
  obtain ⟨x,rest,rfl,ends⟩ := breaks
  exact ⟨x,rest ++ [c],rfl,ends⟩

theorem Mode.fits_feed {carried : Bool} {pre : List Char} {m : Mode} (c : Char)
    (fits : m.Fits carried pre) : (m.feed (width pre) c).mode.Fits carried (pre ++ [c]) := by
  cases m with
  | outside =>
    simp only [Mode.feed]
    split_ifs with lt
    · exact ⟨pre,by simp [lt],rfl,by simp [NameChars]⟩
    · trivial
  | openName s n =>
    obtain ⟨p0,rfl,rfl,names⟩ := fits
    simp only [Mode.feed]
    split_ifs with slash dash ends
    · simp only [Bool.and_eq_true,String.isEmpty_iff,decide_eq_true_eq] at slash
      obtain ⟨rfl,rfl⟩ := slash
      exact ⟨p0,by simp,rfl,by simp [NameChars]⟩
    · simp only [Bool.and_eq_true,beq_iff_eq,decide_eq_true_eq] at dash
      obtain ⟨rfl,rfl⟩ := dash
      exact ⟨p0 ++ ['<','!','-','-'],[],by simp,.inl ⟨p0,rfl,rfl⟩,rfl⟩
    · exact Mode.fits_opening c (r := []) (by simp) rfl names ⟨c,[],rfl,ends⟩ rfl
    · refine ⟨p0,by simp,rfl,?_⟩
      intro x member
      simp only [String.toList_push,List.mem_append,List.mem_singleton] at member
      rcases member with member | rfl
      · exact names x member
      · simpa using ends
  | opening s n q slash =>
    obtain ⟨p0,r,rfl,rfl,names,breaks,quoted,-⟩ := fits
    exact Mode.fits_opening c rfl rfl names (breaks_append breaks c) quoted
  | closeName s n =>
    obtain ⟨p0,rfl,rfl,names⟩ := fits
    simp only [Mode.feed]
    split_ifs with ends
    · exact Mode.fits_closing c (r := []) (by simp) rfl names ⟨c,[],rfl,ends⟩
    · refine ⟨p0,by simp,rfl,?_⟩
      intro x member
      simp only [String.toList_push,List.mem_append,List.mem_singleton] at member
      rcases member with member | rfl
      · exact names x member
      · simpa using ends
  | closing s n =>
    obtain ⟨p0,r,rfl,rfl,names,breaks⟩ := fits
    exact Mode.fits_closing c rfl rfl names (breaks_append breaks c)
  | comment s d =>
    obtain ⟨lead,body,rfl,led,rfl⟩ := fits
    simp only [Mode.feed]
    split_ifs with gt dash
    · trivial
    · exact ⟨lead,body ++ [c],by simp,led,by rw [dash,dashRun_dash]⟩
    · exact ⟨lead,body ++ [c],by simp,led,dashRun_other dash body⟩

structure ConstructShape (t : List Char) (carried : Bool) (o : Construct) : Prop where
  terminated : ∀ e, o.finish = some e → HasAt t e ['>'] ∧ o.extent = e + 1
  opening : o.isOpening = true → NameAt t o.start ['<'] o.name
  closing : o.kind = .closing → NameAt t o.start ['<','/'] o.name
  comment : o.kind = .comment → HasAt t o.start ['<','!','-','-'] ∨ (carried = true ∧ o.start = 0)
  selfClosing : o.isOpening = true →
    (o.kind = .selfClosing ↔ ∃ e, o.finish = some (e + 1) ∧ HasAt t e ['/','>'])

theorem hasAt_last {pre post : List Char} {c : Char} : HasAt (pre ++ c :: post) (width pre) [c] :=
  ⟨pre,post,by simp,rfl⟩

theorem last_of_slash {pre post : List Char} {c : Char} {e : Nat} (column : e + 1 = width pre)
    (slashed : HasAt (pre ++ c :: post) e ['/',c']) : pre.getLast? = some '/' := by
  obtain ⟨p1,p2,split,placed⟩ := slashed
  have aligned : width (p1 ++ ['/']) = width pre := by simp [placed,← column]; rfl
  have joined : (p1 ++ ['/']) ++ c' :: p2 = pre ++ c :: post := by simpa using split.symm
  have cut := eq_of_width_eq joined aligned
  simp [← cut.1]

theorem slash_of_last {pre : List Char} (post : List Char) (c : Char) (slashed : pre.getLast? = some '/') :
    ∃ e, e + 1 = width pre ∧ HasAt (pre ++ c :: post) e ['/',c] := by
  obtain ⟨p1,rfl⟩ : ∃ p1, pre = p1 ++ ['/'] := by
    rw [List.getLast?_eq_some_iff] at slashed
    exact slashed
  exact ⟨width p1,by simp; rfl,p1,post,by simp,rfl⟩

theorem openingStep_out {s pos : Nat} {n : String} {c : Char} {q : Option Char} {slash : Bool}
    {o : Construct} (done : (openingStep s n pos c q slash).out = some o) :
    q = none ∧ ((c = '>' ∧ o = ⟨if slash then .selfClosing else .opening,n,s,some pos,pos + 1⟩) ∨
      (c = '<' ∧ o = ⟨.opening,n,s,none,pos⟩)) := by
  rw [openingStep_eq] at done
  by_cases gt : q = none ∧ c = '>'
  · rw [if_pos gt] at done
    exact ⟨gt.1,.inl ⟨gt.2,(Option.some.inj done).symm⟩⟩
  · rw [if_neg gt] at done
    by_cases lt : q = none ∧ c = '<'
    · rw [if_pos lt] at done
      exact ⟨lt.1,.inr ⟨lt.2,(Option.some.inj done).symm⟩⟩
    · simp [lt,Step.go] at done

theorem closingStep_out {s pos : Nat} {n : String} {c : Char} {o : Construct}
    (done : (closingStep s n pos c).out = some o) :
    (c = '>' ∧ o = ⟨.closing,n,s,some pos,pos + 1⟩) ∨ (c = '<' ∧ o = ⟨.closing,n,s,none,pos⟩) := by
  simp only [closingStep] at done
  split_ifs at done with gt lt
  · exact .inl ⟨gt,(Option.some.inj done).symm⟩
  · exact .inr ⟨lt,(Option.some.inj done).symm⟩
  · simp [Step.go] at done

theorem getLast_append_cons (l rest : List Char) (x : Char) :
    (l ++ x :: rest).getLast? = (x :: rest).getLast? := by
  rw [List.getLast?_append]
  cases h : (x :: rest).getLast? with
  | none => simp at h
  | some y => rfl

theorem getLast_ne_slash {p0 : List Char} {n : String} (names : NameChars n) :
    (p0 ++ '<' :: n.toList).getLast? ≠ some '/' := by
  intro slashed
  rw [getLast_append_cons] at slashed
  have inTail := List.mem_of_getLast? slashed
  simp only [List.mem_cons] at inTail
  rcases inTail with bad | named
  · exact absurd bad (by decide)
  · have := names '/' named
    simp [endsName] at this

theorem terminated_at {pre post : List Char} {c : Char} (gt : c = '>') :
    ∀ e, some (width pre) = some e → HasAt (pre ++ c :: post) e ['>'] ∧ width pre + 1 = e + 1 := by
  rintro e ⟨⟩
  subst gt
  exact ⟨hasAt_last,rfl⟩

theorem nameAt_cut {p0 post : List Char} (lead : List Char) {n : String} {c : Char} (names : NameChars n)
    (ends : endsName c = true) : NameAt (p0 ++ lead ++ n.toList ++ c :: post) (width p0) lead n :=
  ⟨p0,c :: post,by simp,rfl,names,by simp [ends]⟩

theorem Mode.shape_of_feed {carried : Bool} {pre post : List Char} {m : Mode} {c : Char}
    {o : Construct} (fits : m.Fits carried pre)
    (done : (m.feed (width pre) c).out = some o) : ConstructShape (pre ++ c :: post) carried o := by
  have lt : endsName '<' = true := by decide
  have gt : endsName '>' = true := by decide
  cases m with
  | outside =>
    simp only [Mode.feed] at done
    split_ifs at done <;> simp [Step.go] at done
  | openName s n =>
    obtain ⟨p0,rfl,rfl,names⟩ := fits
    have emitted : (openingStep (width p0) n (width (p0 ++ '<' :: n.toList)) c none false).out = some o := by
      simp only [Mode.feed] at done
      split_ifs at done <;> first | exact done | simp [Step.go] at done
    obtain ⟨-,⟨rfl,rfl⟩ | ⟨rfl,rfl⟩⟩ := openingStep_out emitted
    · refine ⟨terminated_at rfl,fun _ => by simpa using nameAt_cut ['<'] names gt,
        by simp,by simp,fun _ => ?_⟩
      simp only [Bool.false_eq_true,if_false,reduceCtorEq,Option.some.injEq,false_iff,not_exists,not_and]
      intro e column slashed
      exact getLast_ne_slash names (last_of_slash column.symm slashed)
    · exact ⟨by simp,fun _ => by simpa using nameAt_cut ['<'] names lt,by simp,by simp,
        fun _ => by simp⟩
  | opening s n q slash =>
    obtain ⟨p0,r,rfl,rfl,names,⟨x,rest,rfl,breaks⟩,-,slashed⟩ := fits
    obtain ⟨-,⟨rfl,rfl⟩ | ⟨rfl,rfl⟩⟩ := openingStep_out done
    · have named : NameAt (p0 ++ '<' :: (n.toList ++ x :: rest) ++ '>' :: post) (width p0) ['<'] n :=
        ⟨p0,x :: (rest ++ '>' :: post),by simp,rfl,names,by simp [breaks]⟩
      refine ⟨terminated_at rfl,fun _ => named,by cases slash <;> simp,by cases slash <;> simp,
        fun _ => ?_⟩
      have lastOf : (p0 ++ '<' :: (n.toList ++ x :: rest)).getLast? = (x :: rest).getLast? := by
        rw [show p0 ++ '<' :: (n.toList ++ x :: rest) = (p0 ++ '<' :: n.toList) ++ x :: rest by simp]
        exact getLast_append_cons _ _ _
      constructor
      · intro self
        have : slash = true := by cases slash <;> simp_all
        obtain ⟨e,column,at_⟩ := slash_of_last post '>' (lastOf.trans (slashed.mp this))
        exact ⟨e,by simp [column],at_⟩
      · rintro ⟨e,column,at_⟩
        have := slashed.mpr (lastOf ▸ last_of_slash (Option.some.inj column).symm at_)
        simp [this]
    · exact ⟨by simp,fun _ => ⟨p0,x :: (rest ++ '<' :: post),by simp,rfl,names,by simp [breaks]⟩,
        by simp,by simp,fun _ => by simp⟩
  | closeName s n =>
    obtain ⟨p0,rfl,rfl,names⟩ := fits
    have emitted : (closingStep (width p0) n (width (p0 ++ '<' :: '/' :: n.toList)) c).out = some o := by
      simp only [Mode.feed] at done
      split_ifs at done <;> first | exact done | simp [Step.go] at done
    rcases closingStep_out emitted with ⟨rfl,rfl⟩ | ⟨rfl,rfl⟩
    · exact ⟨terminated_at rfl,by simp [Construct.isOpening],
        fun _ => by simpa using nameAt_cut ['<','/'] names gt,by simp,by simp [Construct.isOpening]⟩
    · exact ⟨by simp,by simp [Construct.isOpening],
        fun _ => by simpa using nameAt_cut ['<','/'] names lt,by simp,by simp [Construct.isOpening]⟩
  | closing s n =>
    obtain ⟨p0,r,rfl,rfl,names,⟨x,rest,rfl,breaks⟩⟩ := fits
    have named : ∀ c', NameAt (p0 ++ '<' :: '/' :: (n.toList ++ x :: rest) ++ c' :: post) (width p0)
        ['<','/'] n := fun c' => ⟨p0,x :: (rest ++ c' :: post),by simp,rfl,names,by simp [breaks]⟩
    rcases closingStep_out done with ⟨rfl,rfl⟩ | ⟨rfl,rfl⟩
    · exact ⟨terminated_at rfl,by simp [Construct.isOpening],fun _ => named _,by simp,
        by simp [Construct.isOpening]⟩
    · exact ⟨by simp,by simp [Construct.isOpening],fun _ => named _,by simp,by simp [Construct.isOpening]⟩
  | comment s d =>
    obtain ⟨lead,body,rfl,led,rfl⟩ := fits
    simp only [Mode.feed] at done
    split_ifs at done with closes
    · cases done
      have isGt : c = '>' := by simp_all
      refine ⟨terminated_at isGt,by simp [Construct.isOpening],by simp,fun _ => ?_,by simp [Construct.isOpening]⟩
      rcases led with ⟨p0,rfl,rfl⟩ | ⟨_,rfl,rfl⟩
      · exact .inl ⟨p0,body ++ c :: post,by simp,rfl⟩
      · exact .inr ⟨by assumption,rfl⟩
    all_goals simp [Step.go] at done

theorem Mode.shape_of_atEnd {carried : Bool} {t : List Char} {m : Mode} {o : Construct}
    (fits : m.Fits carried t) (left : m.atEnd (width t) = some o) : ConstructShape t carried o := by
  cases m with
  | outside => simp [Mode.atEnd] at left
  | openName s n =>
    obtain ⟨p0,rfl,rfl,names⟩ := fits
    cases left
    exact ⟨by simp,fun _ => ⟨p0,[],by simp,rfl,names,by simp⟩,by simp,by simp,fun _ => by simp⟩
  | opening s n q slash =>
    obtain ⟨p0,r,rfl,rfl,names,⟨x,rest,rfl,breaks⟩,-⟩ := fits
    cases left
    exact ⟨by simp,fun _ => ⟨p0,x :: rest,by simp,rfl,names,by simp [breaks]⟩,by simp,by simp,
      fun _ => by simp⟩
  | closeName s n =>
    obtain ⟨p0,rfl,rfl,names⟩ := fits
    cases left
    exact ⟨by simp,by simp [Construct.isOpening],fun _ => ⟨p0,[],by simp,rfl,names,by simp⟩,by simp,
      by simp [Construct.isOpening]⟩
  | closing s n =>
    obtain ⟨p0,r,rfl,rfl,names,⟨x,rest,rfl,breaks⟩⟩ := fits
    cases left
    exact ⟨by simp,by simp [Construct.isOpening],fun _ => ⟨p0,x :: rest,by simp,rfl,names,by simp [breaks]⟩,
      by simp,by simp [Construct.isOpening]⟩
  | comment s d =>
    obtain ⟨lead,body,rfl,led,-⟩ := fits
    cases left
    refine ⟨by simp,by simp [Construct.isOpening],by simp,fun _ => ?_,by simp [Construct.isOpening]⟩
    rcases led with ⟨p0,rfl,rfl⟩ | ⟨carried,rfl,rfl⟩
    · exact .inl ⟨p0,body,by simp,rfl⟩
    · exact .inr ⟨carried,rfl⟩

theorem Mode.run_text {t : List Char} {carried : Bool} (P : Construct → Prop)
    (stepped : ∀ pre c post (m : Mode) o, t = pre ++ c :: post → m.Fits carried pre →
      (m.feed (width pre) c).out = some o → P o)
    (ended : ∀ (m : Mode) o, m.Fits carried t → m.atEnd (width t) = some o → P o) :
    ∀ pre rest (m : Mode), t = pre ++ rest → m.Fits carried pre → ∀ o ∈ m.run (width pre) rest, P o := by
  intro pre rest
  induction rest generalizing pre with
  | nil =>
    intro m split fits o member
    simp only [List.append_nil] at split
    subst split
    exact ended m o fits (by simpa [Mode.run] using member)
  | cons c rest ih =>
    intro m split fits o member
    simp only [Mode.run,List.mem_append,Option.mem_toList] at member
    rcases member with done | later
    · exact stepped pre c rest m o split fits done
    · have moved : width pre + c.utf8Size = width (pre ++ [c]) := by simp
      rw [moved] at later
      exact ih (pre ++ [c]) _ (by simp [split]) (Mode.fits_feed c fits) o later

theorem constructs_shape_each (t : String) (carried : Bool) :
    ∀ o ∈ constructs t carried, ConstructShape t.toList carried o :=
  Mode.run_text _ (fun _ _ _ _ _ split fits done => split ▸ Mode.shape_of_feed fits done)
    (fun _ _ fits left => Mode.shape_of_atEnd fits left) [] _ _ rfl (Mode.fits_initial carried)

-- A construct left unterminated ends at the end of the line or at the `<` that begins the next.
def Linked (t : List Char) : List Construct → Prop
  | [] => True
  | [o] => o.finish = none → o.extent = width t
  | o :: o' :: os => (o.finish = none → (o.kind = .opening ∨ o.kind = .closing) ∧
      HasAt t o.extent ['<'] ∧ o'.start = o.extent) ∧ Linked t (o' :: os)

theorem linked_terminated {t : List Char} {o : Construct} {os : List Construct}
    (closed : o.finish ≠ none) (rest : Linked t os) : Linked t (o :: os) := by
  cases os with
  | nil => exact fun open_ => absurd open_ closed
  | cons o' os => exact ⟨fun open_ => absurd open_ closed,rest⟩

theorem Mode.run_linked {t : List Char} :
    ∀ pre rest (m : Mode), t = pre ++ rest → Linked t (m.run (width pre) rest) := by
  intro pre rest
  induction rest generalizing pre with
  | nil =>
    intro m split
    rw [show pre = t by simpa using split.symm]
    cases left : m.atEnd (width t) with
    | none => simp [Mode.run,left,Linked]
    | some o =>
      simp only [Mode.run,left,Option.toList_some,Linked]
      exact fun _ => (Mode.atEnd_completes left).2.2
  | cons c rest ih =>
    intro m split
    have moved : width pre + c.utf8Size = width (pre ++ [c]) := by simp
    have later := fun m' => ih (pre ++ [c]) m' (by simp [split])
    simp only [Mode.run,moved]
    have shape := m.feed_shape (width pre) c
    generalize m.feed (width pre) c = st at shape
    cases shape with
    | stay m' => simpa using later m'
    | idle => simpa using later .outside
    | begin => simpa using later _
    | close o _ _ closed => exact linked_terminated (by simp [closed]) (later _)
    | cut o _ lt _ at_ tag =>
      obtain ⟨o',rest',ran,completes,-⟩ := Mode.run_head (.openName (width pre) "")
        (width (pre ++ [c])) rest (by simp)
      have tail := later (.openName (width pre) "")
      rw [ran] at tail ⊢
      refine ⟨fun _ => ⟨tag,?_,by rw [at_]; exact completes⟩,tail⟩
      subst lt
      rw [at_,split]
      exact hasAt_last

theorem linked_split {t : List Char} :
    ∀ (xs : List Construct) {ys : List Construct} {o : Construct}, Linked t (xs ++ o :: ys) → o.finish = none →
      (o.extent = width t ∧ ys = []) ∨ ((o.kind = .opening ∨ o.kind = .closing) ∧
        HasAt t o.extent ['<'] ∧ ∃ o' ys', ys = o' :: ys' ∧ o'.start = o.extent)
  | [],[],_,linked,open_ => .inl ⟨linked open_,rfl⟩
  | [],o' :: ys,_,linked,open_ => by
    obtain ⟨tag,at_,next⟩ := linked.1 open_
    exact .inr ⟨tag,at_,o',ys,rfl,next⟩
  | [x],ys,o,linked,open_ => linked_split [] linked.2 open_
  | x :: x' :: xs,ys,o,linked,open_ => linked_split (x' :: xs) linked.2 open_

theorem Mode.feed_lt {carried : Bool} {pre : List Char} {m : Mode} (fits : m.Fits carried pre) :
    (m.feed (width pre) '<').mode = .openName (width pre) "" ∨
      (∃ s n q slash, m = .opening s n (some q) slash ∧
        (m.feed (width pre) '<').mode = .opening s n (some q) false) ∨
      (∃ s d, m = .comment s d ∧ (m.feed (width pre) '<').mode = .comment s 0) := by
  have lt : endsName '<' = true := by decide
  cases m with
  | outside => simp [Mode.feed,Step.go]
  | openName s n => simp [Mode.feed,lt,openingStep_eq]
  | opening s n q slash =>
    cases q with
    | none => simp [Mode.feed,openingStep_eq]
    | some q =>
      obtain ⟨p0,r,-,-,-,-,quoted,-⟩ := fits
      have marked := foldl_quoteStep_mark r none (by simp) q quoted
      have apart : '<' ≠ q := by rcases marked with rfl | rfl <;> decide
      simp [Mode.feed,openingStep_eq,quoteStep,apart,Step.go]
  | closeName s n => simp [Mode.feed,lt,closingStep]
  | closing s n => simp [Mode.feed,closingStep]
  | comment s d => simp [Mode.feed]

theorem foldl_quoteStep_names {n : String} (names : NameChars n) (r : List Char) :
    (n.toList ++ r).foldl quoteStep none = r.foldl quoteStep none := by
  rw [List.foldl_append]
  congr
  have : ∀ cs : List Char, (∀ x ∈ cs, endsName x = false) → cs.foldl quoteStep none = none := by
    intro cs
    induction cs with
    | nil => simp
    | cons x cs ih =>
      intro plain
      have quiet : ¬(x = '"' ∨ x = '\'') := by
        have := plain x (by simp)
        rintro (rfl | rfl) <;> simp [endsName] at this
      simp only [List.foldl_cons,quoteStep,quiet,if_false]
      exact ih fun y member => plain y (by simp [member])
  exact this _ names

theorem Mode.mem_run_of_next {m : Mode} {pos : Nat} {c : Char} {rest : List Char} {o : Construct}
    (later : o ∈ (m.feed pos c).mode.run (pos + c.utf8Size) rest) : o ∈ m.run pos (c :: rest) := by
  simp [Mode.run,later]

theorem Mode.run_complete {t : List Char} {carried : Bool} :
    ∀ pre rest (m : Mode), t = pre ++ rest → m.Fits carried pre → ∀ i, width pre ≤ i →
      HasAt t i ['<'] → (∃ o ∈ m.run (width pre) rest, o.start = i) ∨
        ∃ o ∈ m.run (width pre) rest, o.start < i ∧ i < o.extent ∧
          (o.kind = .comment ∨ o.isOpening = true ∧ QuotedAt t (o.start + 1) i) := by
  intro pre rest
  induction rest generalizing pre with
  | nil =>
    rintro m rfl - i low ⟨p1,p2,split,placed⟩
    have := congrArg width split
    simp only [List.append_nil,width_append,width_cons,width_nil] at this
    have := '<'.utf8Size_pos
    omega
  | cons c rest ih =>
    intro m split fits i low at_
    by_cases here : width pre = i
    · subst here
      obtain ⟨p1,p2,split',placed⟩ := at_
      obtain ⟨rfl,tail⟩ := eq_of_width_eq (split.symm.trans (by simpa using split')) placed.symm
      cases tail
      have sized : '<'.utf8Size = 1 := rfl
      rcases Mode.feed_lt fits with begins | ⟨s,n,q,slash,rfl,stays⟩ | ⟨s,d,rfl,stays⟩
      · obtain ⟨o,rest',ran,completes,-⟩ := Mode.run_head (.openName (width pre) "")
          (width pre + '<'.utf8Size) rest (by simp)
        exact .inl ⟨o,Mode.mem_run_of_next (by rw [begins,ran]; simp),completes⟩
      · obtain ⟨p0,r,rfl,rfl,names,-,quoted,-⟩ := fits
        obtain ⟨o,rest',ran,⟨started,opens⟩,past⟩ := Mode.run_head (.opening (width p0) n (some q) false)
          (width (p0 ++ '<' :: (n.toList ++ r)) + '<'.utf8Size) rest (by simp)
        refine .inr ⟨o,Mode.mem_run_of_next (by rw [stays,ran]; simp),
          by simp only [width_append,width_cons,started,sized]; omega,by omega,
          .inr ⟨opens,?_⟩⟩
        refine ⟨p0 ++ ['<'],n.toList ++ r,'<' :: rest,by simp [split],
          by simp only [width_append,width_cons,width_nil,started,sized],by simp [Nat.add_assoc],?_⟩
        rw [foldl_quoteStep_names names,quoted]
        rfl
      · obtain ⟨lead,body,rfl,led,-⟩ := fits
        obtain ⟨o,rest',ran,⟨started,comment⟩,past⟩ := Mode.run_head (.comment s 0)
          (width (lead ++ body) + '<'.utf8Size) rest (by simp)
        have member := Mode.mem_run_of_next (m := .comment s d) (o := o) (by rw [stays,ran]; simp)
        have low : s ≤ width (lead ++ body) := by
          rcases led with ⟨p0,rfl,rfl⟩ | ⟨-,rfl,rfl⟩ <;> simp
        by_cases same : s = width (lead ++ body)
        · exact .inl ⟨o,member,by rw [started,same]⟩
        · exact .inr ⟨o,member,by omega,by omega,.inl comment⟩
    · have moved : width (pre ++ [c]) = width pre + c.utf8Size := by simp
      have sized := c.utf8Size_pos
      have found := ih (pre ++ [c]) (m.feed (width pre) c).mode (by simp [split])
        (Mode.fits_feed c fits) i ?_ at_
      · rw [moved] at found
        rcases found with ⟨o,member,started⟩ | ⟨o,member,inside⟩
        · exact .inl ⟨o,Mode.mem_run_of_next member,started⟩
        · exact .inr ⟨o,Mode.mem_run_of_next member,inside⟩
      · -- the `<` stands at or after the next column, since a column is a character boundary
        obtain ⟨p1,p2,split',placed⟩ := at_
        have apart := width_boundary (split.symm.trans (by simpa using split'))
        rw [moved]
        omega

theorem constructs_start_lt {t : String} (carried : Bool) (filled : t ≠ "") :
    ∀ o ∈ constructs t carried, o.start < o.extent := by
  obtain ⟨x,rest,split⟩ : ∃ x rest, t.toList = x :: rest := by
    cases h : t.toList with
    | nil => exact absurd (by simpa using h) filled
    | cons x rest => exact ⟨x,rest,rfl⟩
  intro o member
  simp only [constructs,split] at member
  cases carried with
  | false => exact Mode.run_start_lt .outside 0 _ (by simp [Mode.start?]) o member
  | true =>
    have sized := x.utf8Size_pos
    -- a carried comment owns the first character, whatever it is
    have stepped : (Mode.comment 0 0).run 0 (x :: rest) =
        (Mode.comment 0 (if x = '-' then 1 else 0)).run (0 + x.utf8Size) rest := by
      simp only [Mode.run,Mode.feed]
      split_ifs <;> simp_all [Step.go]
    rw [Mode.initial,if_pos rfl,stepped] at member
    exact Mode.run_start_lt _ _ rest (by simp [Mode.start?]; omega) o member

theorem head_of_start_zero {cs : List Construct} (ordered : cs.IsChain (fun a b => a.extent ≤ b.start))
    (owned : ∀ o ∈ cs, o.start < o.extent) {o : Construct} (member : o ∈ cs) (zero : o.start = 0) :
    cs.head? = some o := by
  induction cs with
  | nil => cases member
  | cons a rest ih =>
    rcases List.mem_cons.mp member with rfl | later
    · rfl
    · cases rest with
      | nil => cases later
      | cons b rest =>
        have first := ih ordered.tail (fun o m => owned o (List.mem_cons_of_mem _ m)) later
        simp only [List.head?_cons,Option.some.injEq] at first
        subst first
        have := (List.isChain_cons_cons.mp ordered).1
        have := owned a (by simp)
        omega

theorem extents_precede {cs : List Construct} (ordered : cs.IsChain (fun a b => a.extent ≤ b.start))
    (bounded : ∀ c ∈ cs, c.start ≤ c.extent) : cs.Pairwise (fun a b => a.extent ≤ b.start) := by
  induction cs with
  | nil => exact .nil
  | cons a rest ih =>
    have tail := ih ordered.tail fun c member => bounded c (List.mem_cons_of_mem a member)
    refine .cons ?_ tail
    intro b later
    cases rest with
    | nil => cases later
    | cons a' rest =>
      have next := (List.isChain_cons_cons.mp ordered).1
      have own := bounded a' (by simp)
      rcases List.mem_cons.mp later with rfl | further
      · exact next
      · have := List.rel_of_pairwise_cons tail further
        omega

structure LineShape (t : String) (carried : Bool) (cs : List Construct) : Prop where
  bounded : ∀ c ∈ cs, c.start ≤ c.extent ∧ c.extent ≤ t.utf8ByteSize
  owns : ∀ c ∈ cs, c.start < c.extent ∨ (carried = true ∧ t = "" ∧ c.kind = .comment)
  ordered : cs.IsChain (fun c c' => c.extent ≤ c'.start)
  terminated : ∀ c ∈ cs, ∀ e, c.finish = some e → HasAt t.toList e ['>'] ∧ c.extent = e + 1
  unterminated : ∀ xs c ys, cs = xs ++ c :: ys → c.finish = none →
    (c.extent = t.utf8ByteSize ∧ ys = []) ∨ ((c.kind = .opening ∨ c.kind = .closing) ∧
      HasAt t.toList c.extent ['<'] ∧ ∃ c' ys', ys = c' :: ys' ∧ c'.start = c.extent)
  openingName : ∀ c ∈ cs, c.isOpening = true → NameAt t.toList c.start ['<'] c.name
  closingName : ∀ c ∈ cs, c.kind = .closing → NameAt t.toList c.start ['<','/'] c.name
  commentLead : ∀ c ∈ cs, c.kind = .comment →
    HasAt t.toList c.start ['<','!','-','-'] ∨ (carried = true ∧ cs.head? = some c ∧ c.start = 0)
  selfClosing : ∀ c ∈ cs, c.isOpening = true →
    (c.kind = .selfClosing ↔ ∃ e, c.finish = some (e + 1) ∧ HasAt t.toList e ['/','>'])
  complete : ∀ i, HasAt t.toList i ['<'] → (∃ c ∈ cs, c.start = i) ∨
    ∃ c ∈ cs, c.start < i ∧ i < c.extent ∧
      (c.kind = .comment ∨ c.isOpening = true ∧ QuotedAt t.toList (c.start + 1) i)

theorem constructs_ordered (t : String) (carried : Bool) :
    (constructs t carried).IsChain (fun c c' => c.extent ≤ c'.start) :=
  Mode.run_chain _ 0 _ (by cases carried <;> simp [Mode.initial,Mode.start?])

theorem constructs_bounded (t : String) (carried : Bool) :
    ∀ c ∈ constructs t carried, c.start ≤ c.extent ∧ c.extent ≤ t.utf8ByteSize := by
  intro c member
  have := Mode.run_bounds _ 0 _ (by cases carried <;> simp [Mode.initial,Mode.start?]) c member
  rw [Nat.zero_add,width_toList] at this
  exact this.2

theorem constructs_owns (t : String) (carried : Bool) :
    ∀ c ∈ constructs t carried, c.start < c.extent ∨ (carried = true ∧ t = "" ∧ c.kind = .comment) := by
  intro c member
  by_cases empty : t = ""
  · subst empty
    cases carried <;> simp_all [constructs,Mode.initial,Mode.run,Mode.atEnd]
  · exact .inl (constructs_start_lt carried empty c member)

theorem constructs_shape (t : String) (carried : Bool) : LineShape t carried (constructs t carried) where
  bounded := constructs_bounded t carried
  owns := constructs_owns t carried
  ordered := constructs_ordered t carried
  terminated := fun c member => (constructs_shape_each t carried c member).terminated
  unterminated := by
    intro xs c ys split open_
    have linked := Mode.run_linked (t := t.toList) [] t.toList (Mode.initial carried) rfl
    rw [← width_toList]
    exact linked_split xs (split ▸ linked) open_
  openingName := fun c member => (constructs_shape_each t carried c member).opening
  closingName := fun c member => (constructs_shape_each t carried c member).closing
  commentLead := by
    intro c member comment
    rcases (constructs_shape_each t carried c member).comment comment with lead | ⟨carried',zero⟩
    · exact .inl lead
    · refine .inr ⟨carried',?_,zero⟩
      by_cases empty : t = ""
      · subst empty
        cases carried <;> simp_all [constructs,Mode.initial,Mode.run,Mode.atEnd]
      · exact head_of_start_zero (constructs_ordered t carried) (constructs_start_lt carried empty)
          member zero
  selfClosing := fun c member => (constructs_shape_each t carried c member).selfClosing
  complete := fun i at_ =>
    Mode.run_complete [] t.toList (Mode.initial carried) rfl (Mode.fits_initial carried) i
      (Nat.zero_le _) at_

theorem lineShape_of_scan {t : String} {carried : Bool} {cs : List Construct}
    (scanned : scan t carried = .ok cs) : LineShape t carried cs := by
  rw [scan_eq_ok scanned]
  exact constructs_shape t carried

theorem lineShape_quoted_lt :
    scan "<a b=\"<\"><!-- x -->" false =
        .ok [⟨.opening,"a",0,some 8,9⟩,⟨.comment,"",9,some 18,19⟩] ∧
      LineShape "<a b=\"<\"><!-- x -->" false [⟨.opening,"a",0,some 8,9⟩,⟨.comment,"",9,some 18,19⟩] :=
  ⟨by decide,lineShape_of_scan (by decide)⟩

end TagContext.Markup
