import TagContext.Proofs.Scanner.Run

namespace TagContext.Markup

-- Every mode but `outside` owes the construct it has begun. A step pays for what it completes with
-- that debt or with the `<` it reads, so a line has at most one construct per `<`, and one more
-- when a comment is carried into it.

def Mode.pending (m : Mode) : Nat := if m = .outside then 0 else 1

theorem Mode.pending_initial (carried : Bool) :
    (Mode.initial carried).pending = if carried then 1 else 0 := by
  cases carried <;> rfl

theorem Mode.Completes.busy {m : Mode} {o : Construct} (completes : m.Completes o) : m ≠ .outside := by
  rintro rfl
  exact completes

theorem Mode.feed_pending (m : Mode) (pos : Nat) (c : Char) :
    (m.feed pos c).out.toList.length + (m.feed pos c).mode.pending ≤ m.pending + if c = '<' then 1 else 0 := by
  have shape := m.feed_shape pos c
  generalize m.feed pos c = st at shape
  cases shape with
  | stay m' wide busy =>
    have kept : m'.pending ≤ 1 := by unfold Mode.pending; split <;> omega
    have owed : m.pending = 1 := by simp [Mode.pending,busy]
    simp only [Option.toList_none,List.length_nil]
    omega
  | idle quiet => simp [quiet,Mode.pending]
  | begin quiet lt => simp [quiet,lt,Mode.pending]
  | close o completes => simp [Mode.pending,completes.busy]
  | cut o completes lt => simp [Mode.pending,completes.busy,lt]

theorem Mode.run_length_le (m : Mode) (pos : Nat) (cs : List Char) :
    (m.run pos cs).length ≤ m.pending + cs.count '<' := by
  induction cs generalizing m pos with
  | nil => cases m <;> simp [Mode.run,Mode.atEnd,Mode.pending]
  | cons c cs ih =>
    have step := m.feed_pending pos c
    have rest := ih (m.feed pos c).mode (pos + c.utf8Size)
    simp only [Mode.run,List.length_append,List.count_cons,beq_iff_eq]
    split_ifs at step ⊢ <;> omega

def Mode.potential (m : Mode) (rest : List Char) : Nat := rest.count '<' + m.pending

theorem Mode.potential_feed_lt {m : Mode} {pos : Nat} {c : Char} {o : Construct} (rest : List Char)
    (completed : (m.feed pos c).out = some o) :
    (m.feed pos c).mode.potential rest < m.potential (c :: rest) := by
  have step := m.feed_pending pos c
  rw [completed,Option.toList_some,List.length_singleton] at step
  simp only [Mode.potential,List.count_cons,beq_iff_eq]
  split_ifs at step ⊢ <;> omega

theorem constructs_within_brackets (t : String) (carried : Bool) :
    (∀ pre c rest o, t.toList = pre ++ c :: rest →
      (((Mode.initial carried).after 0 pre).feed (Text.width pre) c).out = some o →
      (((Mode.initial carried).after 0 pre).feed (Text.width pre) c).mode.potential rest <
        ((Mode.initial carried).after 0 pre).potential (c :: rest)) ∧
    (constructs t carried).length ≤ t.toList.count '<' + (if carried then 1 else 0) ∧
    ∀ cs, scan t carried = .ok cs → cs.length ≤ t.toList.count '<' + if carried then 1 else 0 := by
  have bound : (constructs t carried).length ≤ t.toList.count '<' + if carried then 1 else 0 := by
    have run := (Mode.initial carried).run_length_le 0 t.toList
    rw [Mode.pending_initial] at run
    rw [constructs]
    omega
  exact ⟨fun pre c rest o _ completed => Mode.potential_feed_lt rest completed,bound,
    fun cs scanned => scan_eq_ok scanned ▸ bound⟩

theorem cut_tag_pays_with_next_bracket :
    "<a<b>".toList = ['<','a'] ++ '<' :: ['b','>'] ∧
      (((Mode.initial false).after 0 ['<','a']).feed (Text.width ['<','a']) '<').out =
        some ⟨.opening,"a",0,none,2⟩ ∧
      (((Mode.initial false).after 0 ['<','a']).feed (Text.width ['<','a']) '<').mode.potential ['b','>'] <
        ((Mode.initial false).after 0 ['<','a']).potential ('<' :: ['b','>']) :=
  have split : "<a<b>".toList = ['<','a'] ++ '<' :: ['b','>'] := by decide
  have cut : (((Mode.initial false).after 0 ['<','a']).feed (Text.width ['<','a']) '<').out =
      some ⟨.opening,"a",0,none,2⟩ := by decide
  ⟨split,cut,(constructs_within_brackets "<a<b>" false).1 _ _ _ _ split cut⟩

theorem wide_comment_body_stops_scan : scan "<!--é-->" false = .error (.wideInComment 4) := by decide

end TagContext.Markup
