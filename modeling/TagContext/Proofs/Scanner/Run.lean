import TagContext.Text.Width
import TagContext.Markup.Scan
import Mathlib.Tactic.SplitIfs
import Mathlib.Data.List.Chain

namespace TagContext.Text

theorem width_toList (s : String) : width s.toList = s.utf8ByteSize := by
  rw [← String.ofList_toList (s := s)]
  generalize s.toList = cs
  induction cs with
  | nil => simp
  | cons c cs ih =>
    rw [String.toList_ofList] at ih ⊢
    rw [String.ofList_cons,String.utf8ByteSize_append,String.utf8ByteSize_singleton,width_cons,ih]

theorem width_pos_of_ne_nil {cs : List Char} (nonempty : cs ≠ []) : 0 < width cs := by
  cases cs with
  | nil => contradiction
  | cons c cs => have := c.utf8Size_pos; simp only [width_cons]; omega

theorem eq_of_width_eq {pre pre' post post' : List Char} (same : pre ++ post = pre' ++ post')
    (aligned : width pre = width pre') : pre = pre' ∧ post = post' := by
  induction pre generalizing pre' with
  | nil =>
    cases pre' with
    | nil => exact ⟨rfl,by simpa using same⟩
    | cons c cs => have := c.utf8Size_pos; simp at aligned; omega
  | cons c cs ih =>
    cases pre' with
    | nil => have := c.utf8Size_pos; simp at aligned; omega
    | cons c' cs' =>
      simp only [List.cons_append,List.cons.injEq] at same
      obtain ⟨rfl,rest⟩ := same
      simp only [width_cons,Nat.add_left_cancel_iff] at aligned
      obtain ⟨rfl,rfl⟩ := ih rest aligned
      exact ⟨rfl,rfl⟩

theorem width_boundary {pre post p1 p2 : List Char} {c : Char} (same : pre ++ c :: post = p1 ++ p2) :
    width p1 ≤ width pre ∨ width pre + c.utf8Size ≤ width p1 := by
  rcases List.append_eq_append_iff.mp same with ⟨a',rfl,rest⟩ | ⟨c',rfl,-⟩
  · cases a' with
    | nil => simp
    | cons x a' =>
      simp only [List.cons_append,List.cons.injEq] at rest
      obtain ⟨rfl,-⟩ := rest
      simp
  · simp

end TagContext.Text

namespace TagContext.Markup
open Text

def Construct.shift (k : Nat) (c : Construct) : Construct :=
  {c with start := c.start + k,finish := c.finish.map (· + k),extent := c.extent + k}

def Mode.shift (k : Nat) : Mode → Mode
  | .outside => .outside
  | .openName s n => .openName (s + k) n
  | .opening s n q slash => .opening (s + k) n q slash
  | .closeName s n => .closeName (s + k) n
  | .closing s n => .closing (s + k) n
  | .comment s d => .comment (s + k) d

def Step.shift (k : Nat) (s : Step) : Step := ⟨s.mode.shift k,s.out.map (·.shift k),s.wide⟩

@[simp] theorem Construct.shift_kind (k : Nat) (c : Construct) : (c.shift k).kind = c.kind := rfl
@[simp] theorem Construct.shift_finish (k : Nat) (c : Construct) :
    (c.shift k).finish = c.finish.map (· + k) := rfl

theorem openingStep_shift (k s pos : Nat) (n : String) (c : Char) (q : Option Char) (slash : Bool) :
    openingStep (s + k) n (pos + k) c q slash = (openingStep s n pos c q slash).shift k := by
  cases q <;> simp only [openingStep] <;> split_ifs <;>
    simp [Step.shift,Step.go,Mode.shift,Construct.shift,Nat.add_right_comm]

theorem closingStep_shift (k s pos : Nat) (n : String) (c : Char) :
    closingStep (s + k) n (pos + k) c = (closingStep s n pos c).shift k := by
  simp only [closingStep]
  split_ifs <;> simp [Step.shift,Step.go,Mode.shift,Construct.shift,Nat.add_right_comm]

theorem Mode.feed_shift (k pos : Nat) (m : Mode) (c : Char) :
    (m.shift k).feed (pos + k) c = (m.feed pos c).shift k := by
  cases m with
  | outside =>
    simp only [Mode.shift,Mode.feed]
    split_ifs <;> simp [Step.shift,Step.go,Mode.shift]
  | openName s n =>
    simp only [Mode.shift,Mode.feed]
    split_ifs <;> simp [Step.shift,Step.go,Mode.shift,openingStep_shift]
  | opening s n q slash => simp only [Mode.shift,Mode.feed,openingStep_shift]
  | closeName s n =>
    simp only [Mode.shift,Mode.feed]
    split_ifs <;> simp [Step.shift,Step.go,Mode.shift,closingStep_shift]
  | closing s n => simp only [Mode.shift,Mode.feed,closingStep_shift]
  | comment s d =>
    simp only [Mode.shift,Mode.feed]
    split_ifs <;> simp [Step.shift,Step.go,Mode.shift,Construct.shift,Nat.add_right_comm]

theorem Mode.atEnd_shift (k pos : Nat) (m : Mode) :
    (m.shift k).atEnd (pos + k) = (m.atEnd pos).map (·.shift k) := by
  cases m <;> simp [Mode.shift,Mode.atEnd,Construct.shift]

theorem Mode.run_shift (k : Nat) (m : Mode) (pos : Nat) (cs : List Char) :
    (m.shift k).run (pos + k) cs = (m.run pos cs).map (·.shift k) := by
  induction cs generalizing m pos with
  | nil => simp [Mode.run,Mode.atEnd_shift,Option.toList_map]
  | cons c cs ih =>
    have moved : pos + k + c.utf8Size = pos + c.utf8Size + k := by omega
    simp [Mode.run,Mode.feed_shift,Step.shift,moved,ih,Option.toList_map]

theorem Mode.firstWide_shift (k : Nat) (m : Mode) (pos : Nat) (cs : List Char) :
    (m.shift k).firstWide (pos + k) cs = (m.firstWide pos cs).map (· + k) := by
  induction cs generalizing m pos with
  | nil => rfl
  | cons c cs ih =>
    have moved : pos + k + c.utf8Size = pos + c.utf8Size + k := by omega
    simp only [Mode.firstWide,Mode.feed_shift,Step.shift,moved,ih]
    split <;> simp

-- A run over `xs ++ ys` completes what `xs` completes and then what `ys` completes from the mode
-- `xs` leaves; only the construct left open at the end of `xs` is lost.

def Mode.emits (m : Mode) (pos : Nat) : List Char → List Construct
  | [] => []
  | c :: cs => (m.feed pos c).out.toList ++ (m.feed pos c).mode.emits (pos + c.utf8Size) cs

theorem Mode.run_eq_emits (m : Mode) (pos : Nat) (cs : List Char) :
    m.run pos cs = m.emits pos cs ++ ((m.after pos cs).atEnd (pos + width cs)).toList := by
  induction cs generalizing m pos with
  | nil => simp [Mode.run,Mode.emits,Mode.after]
  | cons c cs ih => simp [Mode.run,Mode.emits,Mode.after,ih,Nat.add_assoc]

theorem Mode.emits_shift (k : Nat) (m : Mode) (pos : Nat) (cs : List Char) :
    (m.shift k).emits (pos + k) cs = (m.emits pos cs).map (·.shift k) := by
  induction cs generalizing m pos with
  | nil => rfl
  | cons c cs ih =>
    have moved : pos + k + c.utf8Size = pos + c.utf8Size + k := by omega
    simp [Mode.emits,Mode.feed_shift,Step.shift,moved,ih,Option.toList_map]

theorem Mode.after_shift (k : Nat) (m : Mode) (pos : Nat) (cs : List Char) :
    (m.shift k).after (pos + k) cs = (m.after pos cs).shift k := by
  induction cs generalizing m pos with
  | nil => rfl
  | cons c cs ih =>
    have moved : pos + k + c.utf8Size = pos + c.utf8Size + k := by omega
    simp [Mode.after,Mode.feed_shift,Step.shift,moved,ih]

theorem Mode.after_append (m : Mode) (pos : Nat) (xs ys : List Char) :
    m.after pos (xs ++ ys) = (m.after pos xs).after (pos + width xs) ys := by
  induction xs generalizing m pos with
  | nil => simp [Mode.after]
  | cons c cs ih => simp [Mode.after,ih,Nat.add_assoc]

theorem Mode.run_append (m : Mode) (pos : Nat) (xs ys : List Char) :
    m.run pos (xs ++ ys) = m.emits pos xs ++ (m.after pos xs).run (pos + width xs) ys := by
  induction xs generalizing m pos with
  | nil => simp [Mode.emits,Mode.after]
  | cons c cs ih => simp [Mode.run,Mode.emits,Mode.after,ih,Nat.add_assoc]

theorem Mode.firstWide_append (m : Mode) (pos : Nat) (xs ys : List Char) :
    m.firstWide pos (xs ++ ys) = (m.firstWide pos xs).or ((m.after pos xs).firstWide (pos + width xs) ys) := by
  induction xs generalizing m pos with
  | nil => simp [Mode.firstWide,Mode.after]
  | cons c cs ih =>
    simp only [List.cons_append,Mode.firstWide,Mode.after,ih,width_cons,Nat.add_assoc]
    split <;> simp

def Construct.restart (s : Nat) (c : Construct) : Construct := {c with start := s}

theorem Mode.run_comment (s s' d pos : Nat) (cs : List Char) :
    (Mode.comment s d).run pos cs = ((Mode.comment s' d).run pos cs).modifyHead (·.restart s) := by
  induction cs generalizing d pos with
  | nil => simp [Mode.run,Mode.atEnd,Construct.restart]
  | cons c cs ih =>
    simp only [Mode.run,Mode.feed]
    split_ifs <;> simp [Step.go,Construct.restart,ih]

theorem Mode.firstWide_comment (s s' d pos : Nat) (cs : List Char) :
    (Mode.comment s d).firstWide pos cs = (Mode.comment s' d).firstWide pos cs := by
  induction cs generalizing d pos with
  | nil => rfl
  | cons c cs ih =>
    simp only [Mode.firstWide,Mode.feed]
    split_ifs <;> simp_all [Step.go]

def Mode.start? : Mode → Option Nat
  | .outside => none
  | .openName s _ | .opening s _ _ _ | .closeName s _ | .closing s _ | .comment s _ => some s

-- A name being read may still turn into a closing tag or a comment, so only its start is known.
def Mode.Completes : Mode → Construct → Prop
  | .outside, _ => False
  | .openName s _, o => o.start = s
  | .opening s _ _ _, o => o.start = s ∧ o.isOpening = true
  | .closeName s _, o | .closing s _, o => o.start = s ∧ o.kind = .closing
  | .comment s _, o => o.start = s ∧ o.kind = .comment

theorem Mode.Completes.start {m : Mode} {o : Construct} (completes : m.Completes o) :
    m.start? = some o.start := by
  cases m <;> simp_all [Mode.Completes,Mode.start?]

inductive StepShape (m : Mode) (pos : Nat) (c : Char) : Step → Prop where
  | stay (m' : Mode) (wide : Bool) (busy : m ≠ .outside) (same : m'.start? = m.start?)
      (inherits : ∀ o, m'.Completes o → m.Completes o) : StepShape m pos c ⟨m',none,wide⟩
  | idle (quiet : m = .outside) (plain : c ≠ '<') : StepShape m pos c ⟨.outside,none,false⟩
  | begin (quiet : m = .outside) (lt : c = '<') : StepShape m pos c ⟨.openName pos "",none,false⟩
  | close (o : Construct) (completes : m.Completes o) (gt : c = '>') (closed : o.finish = some pos)
      (past : o.extent = pos + 1) : StepShape m pos c ⟨.outside,some o,false⟩
  | cut (o : Construct) (completes : m.Completes o) (lt : c = '<') (open_ : o.finish = none)
      (at_ : o.extent = pos) (tag : o.kind = .opening ∨ o.kind = .closing) :
      StepShape m pos c ⟨.openName pos "",some o,false⟩

theorem openingStep_shape (m : Mode) (s pos : Nat) (n : String) (c : Char) (q : Option Char)
    (slash : Bool) (inherits : ∀ o, o.start = s ∧ o.isOpening = true → m.Completes o)
    (busy : m ≠ .outside) (same : m.start? = some s) :
    StepShape m pos c (openingStep s n pos c q slash) := by
  have kept : ∀ q' slash', (Mode.opening s n q' slash').start? = m.start? := fun _ _ => same.symm
  cases q with
  | some q => exact .stay _ _ busy (kept _ _) (fun o h => inherits o h)
  | none =>
    simp only [openingStep]
    split
    · exact .stay _ _ busy (kept _ _) (fun o h => inherits o h)
    · split
      · next gt => exact .close _ (inherits _ ⟨rfl,by cases slash <;> simp [Construct.isOpening]⟩) gt rfl rfl
      · split
        · next lt => exact .cut _ (inherits _ ⟨rfl,by simp [Construct.isOpening]⟩) lt rfl rfl (.inl rfl)
        · exact .stay _ _ busy (kept _ _) (fun o h => inherits o h)

theorem closingStep_shape (m : Mode) (s pos : Nat) (n : String) (c : Char)
    (inherits : ∀ o, o.start = s ∧ o.kind = .closing → m.Completes o)
    (busy : m ≠ .outside) (same : m.start? = some s) :
    StepShape m pos c (closingStep s n pos c) := by
  simp only [closingStep]
  split_ifs with gt lt
  · exact .close _ (inherits _ ⟨rfl,rfl⟩) gt rfl rfl
  · exact .cut _ (inherits _ ⟨rfl,rfl⟩) lt rfl rfl (.inr rfl)
  · exact .stay _ _ busy same.symm (fun o h => inherits o h)

theorem Mode.feed_shape (m : Mode) (pos : Nat) (c : Char) : StepShape m pos c (m.feed pos c) := by
  cases m with
  | outside =>
    simp only [Mode.feed]
    split_ifs with lt
    · exact .begin rfl lt
    · exact .idle rfl lt
  | openName s n =>
    simp only [Mode.feed]
    split_ifs
    · exact .stay _ _ (by simp) rfl (fun o h => h.1)
    · exact .stay _ _ (by simp) rfl (fun o h => h.1)
    · exact openingStep_shape _ _ _ _ _ _ _ (fun o h => h.1) (by simp) rfl
    · exact .stay _ _ (by simp) rfl (fun o h => h)
  | opening s n q slash => exact openingStep_shape _ _ _ _ _ _ _ (fun o h => h) (by simp) rfl
  | closeName s n =>
    simp only [Mode.feed]
    split_ifs
    · exact closingStep_shape _ _ _ _ _ (fun o h => h) (by simp) rfl
    · exact .stay _ _ (by simp) rfl (fun o h => h)
  | closing s n => exact closingStep_shape _ _ _ _ _ (fun o h => h) (by simp) rfl
  | comment s d =>
    simp only [Mode.feed]
    split_ifs with gt
    · exact .close _ ⟨rfl,rfl⟩ (by simp_all) rfl rfl
    · exact .stay _ _ (by simp) rfl (fun o h => h)
    · exact .stay _ _ (by simp) rfl (fun o h => h)

theorem Mode.atEnd_completes {m : Mode} {pos : Nat} {o : Construct} (left : m.atEnd pos = some o) :
    m.Completes o ∧ o.finish = none ∧ o.extent = pos := by
  cases m <;> simp_all [Mode.atEnd,Mode.Completes,Construct.isOpening] <;> subst left <;> simp

theorem Mode.atEnd_isSome {m : Mode} (busy : m ≠ .outside) (pos : Nat) : (m.atEnd pos).isSome := by
  cases m <;> simp_all [Mode.atEnd]

theorem Mode.run_head (m : Mode) (pos : Nat) (cs : List Char) (busy : m ≠ .outside) :
    ∃ o rest, m.run pos cs = o :: rest ∧ m.Completes o ∧ pos ≤ o.extent := by
  induction cs generalizing m pos with
  | nil =>
    obtain ⟨o,left⟩ := Option.isSome_iff_exists.mp (m.atEnd_isSome busy pos)
    obtain ⟨completes,-,past⟩ := Mode.atEnd_completes left
    exact ⟨o,[],by simp [Mode.run,left],completes,Nat.le_of_eq past.symm⟩
  | cons c cs ih =>
    simp only [Mode.run]
    have shape := m.feed_shape pos c
    generalize m.feed pos c = st at shape
    cases shape with
    | stay m' wide _ same inherits =>
      have busy' : m' ≠ .outside := by
        intro quiet; subst quiet; cases m <;> simp_all [Mode.start?]
      obtain ⟨o,rest,ran,completes,past⟩ := ih m' (pos + c.utf8Size) busy'
      exact ⟨o,rest,by simpa using ran,inherits o completes,by omega⟩
    | idle quiet => exact absurd quiet busy
    | begin quiet => exact absurd quiet busy
    | close o completes _ _ past => exact ⟨o,_,rfl,completes,by omega⟩
    | cut o completes _ _ at_ => exact ⟨o,_,rfl,completes,by omega⟩

def Mode.floor (m : Mode) (pos : Nat) : Nat := m.start?.getD pos

@[simp] theorem Mode.floor_outside (pos : Nat) : Mode.outside.floor pos = pos := rfl
@[simp] theorem Mode.floor_openName (s : Nat) (n : String) (pos : Nat) :
    (Mode.openName s n).floor pos = s := rfl

theorem Mode.floor_of_start {m : Mode} {s : Nat} (started : m.start? = some s) (pos : Nat) :
    m.floor pos = s := by
  simp [Mode.floor,started]

theorem Mode.run_bounds (m : Mode) (pos : Nat) (cs : List Char)
    (below : ∀ s, m.start? = some s → s ≤ pos) :
    ∀ o ∈ m.run pos cs, m.floor pos ≤ o.start ∧ o.start ≤ o.extent ∧ o.extent ≤ pos + width cs := by
  induction cs generalizing m pos with
  | nil =>
    intro o member
    obtain ⟨completes,-,past⟩ := Mode.atEnd_completes (by simpa [Mode.run] using member)
    have started := completes.start
    rw [Mode.floor_of_start started]
    have := below o.start started
    simp only [width_nil]
    omega
  | cons c cs ih =>
    simp only [Mode.run,width_cons]
    have sized := c.utf8Size_pos
    have shape := m.feed_shape pos c
    generalize m.feed pos c = st at shape
    intro o member
    cases shape with
    | stay m' wide busy same inherits =>
      obtain ⟨s,started⟩ := Option.isSome_iff_exists.mp (show m.start?.isSome by cases m <;> simp_all [Mode.start?])
      have tail := ih m' (pos + c.utf8Size) (fun s' h => by have := below s' (same ▸ h); omega) o
        (by simpa using member)
      rw [Mode.floor_of_start (same.trans started)] at tail
      rw [Mode.floor_of_start started]
      omega
    | idle quiet =>
      subst quiet
      have tail := ih .outside (pos + c.utf8Size) (by simp [Mode.start?]) o (by simpa using member)
      simp only [Mode.floor_outside] at tail ⊢
      omega
    | begin quiet =>
      subst quiet
      have tail := ih (.openName pos "") (pos + c.utf8Size) (by simp [Mode.start?]) o
        (by simpa using member)
      simp only [Mode.floor_outside,Mode.floor_openName] at tail ⊢
      omega
    | close done completes _ _ past =>
      have started := completes.start
      have low := below _ started
      rw [Mode.floor_of_start started]
      simp only [Option.toList_some,List.cons_append,List.nil_append,List.mem_cons] at member
      rcases member with rfl | member
      · omega
      · have tail := ih .outside (pos + c.utf8Size) (by simp [Mode.start?]) o member
        simp only [Mode.floor_outside] at tail
        omega
    | cut done completes _ _ at_ =>
      have started := completes.start
      have low := below _ started
      rw [Mode.floor_of_start started]
      simp only [Option.toList_some,List.cons_append,List.nil_append,List.mem_cons] at member
      rcases member with rfl | member
      · omega
      · have tail := ih (.openName pos "") (pos + c.utf8Size) (by simp [Mode.start?]) o member
        simp only [Mode.floor_openName] at tail
        omega

theorem Mode.run_chain (m : Mode) (pos : Nat) (cs : List Char)
    (below : ∀ s, m.start? = some s → s ≤ pos) :
    (m.run pos cs).IsChain (fun a b => a.extent ≤ b.start) := by
  induction cs generalizing m pos with
  | nil => cases h : m.atEnd pos <;> simp [Mode.run,h]
  | cons c cs ih =>
    simp only [Mode.run]
    have sized := c.utf8Size_pos
    have shape := m.feed_shape pos c
    generalize m.feed pos c = st at shape
    -- after a completed construct the run goes on from a mode whose floor is that construct's end
    have follows : ∀ (o : Construct) (m' : Mode), m'.floor (pos + c.utf8Size) = o.extent →
        (∀ s, m'.start? = some s → s ≤ pos + c.utf8Size) →
        (o :: m'.run (pos + c.utf8Size) cs).IsChain (fun a b => a.extent ≤ b.start) := by
      intro o m' floor below'
      have tail := ih m' (pos + c.utf8Size) below'
      cases ran : m'.run (pos + c.utf8Size) cs with
      | nil => exact .singleton o
      | cons b rest =>
        have low := (Mode.run_bounds m' _ cs below' b (by simp [ran])).1
        rw [ran] at tail
        exact .cons_cons (by omega) tail
    cases shape with
    | stay m' wide _ same inherits =>
      exact by simpa using ih m' (pos + c.utf8Size) (fun s h => by have := below s (same ▸ h); omega)
    | idle => exact by simpa using ih .outside (pos + c.utf8Size) (by simp [Mode.start?])
    | begin => exact by simpa using ih (.openName pos "") (pos + c.utf8Size) (by simp [Mode.start?])
    | close o _ gt _ past =>
      subst gt
      exact follows o .outside (by rw [Mode.floor_outside,past]; rfl) (by simp [Mode.start?])
    | cut o _ _ _ at_ =>
      exact follows o (.openName pos "") (by simp [at_]) (by simp [Mode.start?])

theorem Mode.run_start_lt (m : Mode) (pos : Nat) (cs : List Char)
    (below : ∀ s, m.start? = some s → s < pos) : ∀ o ∈ m.run pos cs, o.start < o.extent := by
  induction cs generalizing m pos with
  | nil =>
    intro o member
    obtain ⟨completes,-,past⟩ := Mode.atEnd_completes (by simpa [Mode.run] using member)
    have := below _ completes.start
    omega
  | cons c cs ih =>
    simp only [Mode.run]
    have sized := c.utf8Size_pos
    have shape := m.feed_shape pos c
    generalize m.feed pos c = st at shape
    intro o member
    cases shape with
    | stay m' wide _ same inherits =>
      exact ih m' (pos + c.utf8Size) (fun s h => by have := below s (same ▸ h); omega) o (by simpa using member)
    | idle => exact ih .outside (pos + c.utf8Size) (by simp [Mode.start?]) o (by simpa using member)
    | begin => exact ih (.openName pos "") (pos + c.utf8Size) (by simp [Mode.start?]; omega) o (by simpa using member)
    | close done completes _ _ past =>
      simp only [Option.toList_some,List.cons_append,List.nil_append,List.mem_cons] at member
      rcases member with rfl | member
      · have := below _ completes.start; omega
      · exact ih .outside (pos + c.utf8Size) (by simp [Mode.start?]) o member
    | cut done completes _ _ at_ =>
      simp only [Option.toList_some,List.cons_append,List.nil_append,List.mem_cons] at member
      rcases member with rfl | member
      · have := below _ completes.start; omega
      · exact ih (.openName pos "") (pos + c.utf8Size) (by simp [Mode.start?]; omega) o member

theorem Mode.emits_terminated_or_cut (m : Mode) (pos : Nat) (cs : List Char) :
    ∀ o ∈ m.emits pos cs, o.isTerminated = true ∨ o.kind = .opening ∨ o.kind = .closing := by
  induction cs generalizing m pos with
  | nil => simp [Mode.emits]
  | cons c cs ih =>
    simp only [Mode.emits]
    have shape := m.feed_shape pos c
    generalize m.feed pos c = st at shape
    intro o member
    cases shape with
    | stay m' => exact ih m' _ o (by simpa using member)
    | idle => exact ih .outside _ o (by simpa using member)
    | begin => exact ih _ _ o (by simpa using member)
    | close done _ _ closed =>
      simp only [Option.toList_some,List.cons_append,List.nil_append,List.mem_cons] at member
      rcases member with rfl | member
      · simp [Construct.isTerminated,closed]
      · exact ih _ _ o member
    | cut done _ _ _ _ tag =>
      simp only [Option.toList_some,List.cons_append,List.nil_append,List.mem_cons] at member
      rcases member with rfl | member
      · exact .inr tag
      · exact ih _ _ o member

theorem scan_eq_ok {t : String} {carried : Bool} {cs : List Construct}
    (scanned : scan t carried = .ok cs) : cs = constructs t carried := by
  unfold scan at scanned
  split at scanned
  · cases scanned
  · cases scanned; rfl

end TagContext.Markup
