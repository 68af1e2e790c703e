import Mathlib.Data.List.Infix
import TagContext.Nesting.Close

namespace TagContext.Markup

-- The search for a matching close keeps a depth counter. Read by counting instead, the match is
-- where the closes read first outnumber the openings; only `Open` constructs nest.
def openings (name : String) (cs : List Construct) : Nat :=
  cs.countP fun c => c.kind == .opening && c.name == name

def closings (name : String) (cs : List Construct) : Nat :=
  cs.countP fun c => c.kind == .closing && c.name == name

section Counts

variable (name : String)

@[simp] theorem openings_nil : openings name [] = 0 := rfl
@[simp] theorem closings_nil : closings name [] = 0 := rfl

@[simp] theorem openings_append (cs cs' : List Construct) :
    openings name (cs ++ cs') = openings name cs + openings name cs' := List.countP_append

@[simp] theorem closings_append (cs cs' : List Construct) :
    closings name (cs ++ cs') = closings name cs + closings name cs' := List.countP_append

@[simp] theorem openings_cons (c : Construct) (cs : List Construct) :
    openings name (c :: cs) = openings name cs + if c.kind = .opening ∧ c.name = name then 1 else 0 := by
  simp [openings,List.countP_cons]

@[simp] theorem closings_cons (c : Construct) (cs : List Construct) :
    closings name (c :: cs) = closings name cs + if c.kind = .closing ∧ c.name = name then 1 else 0 := by
  simp [closings,List.countP_cons]

end Counts

theorem bearing_cases (name : String) (c : Construct) :
    (c.kind = .closing ∧ c.name = name) ∨ (c.kind = .opening ∧ c.name = name) ∨
      (¬(c.kind = .closing ∧ c.name = name) ∧ ¬(c.kind = .opening ∧ c.name = name)) := by
  by_cases named : c.name = name
  · cases kind : c.kind <;> simp [named]
  · simp [named]

theorem not_opening_of_closing {name : String} {c : Construct} (closing : c.kind = .closing ∧ c.name = name) :
    ¬(c.kind = .opening ∧ c.name = name) := by
  rw [closing.1]
  simp

theorem not_closing_of_opening {name : String} {c : Construct} (opening : c.kind = .opening ∧ c.name = name) :
    ¬(c.kind = .closing ∧ c.name = name) := by
  rw [opening.1]
  simp

-- Where the closes first outnumber the openings, with `k` more openings left unclosed before.
def firstExcess (name : String) (k : Nat) (s : List (Nat × Construct)) : Option (Nat × Construct) :=
  (s.inits.find? fun p => k + openings name (p.map (·.2)) < closings name (p.map (·.2))).bind
    List.getLast?

theorem find?_inits_cons {α : Type} (P : List α → Bool) (x : α) (s : List α) :
    (x :: s).inits.find? P = if P [] then some [] else (s.inits.find? fun p => P (x :: p)).map (x :: ·) := by
  by_cases empty : P []
  · simp only [List.inits,empty,List.find?_cons_of_pos,↓reduceIte]
  · simp only [List.inits,empty,Bool.false_eq_true,not_false_eq_true,List.find?_cons_of_neg,List.find?_map,
      Function.comp_def,↓reduceIte]

theorem bind_getLast?_map_cons {α : Type} (x : α) {r : Option (List α)} (filled : ∀ p, r = some p → p ≠ []) :
    (r.map (x :: ·)).bind List.getLast? = r.bind List.getLast? := by
  cases r with
  | none => rfl
  | some p =>
    obtain ⟨y,p',rfl⟩ := List.exists_cons_of_ne_nil (filled p rfl)
    simp

theorem firstExcess_nil (name : String) (k : Nat) : firstExcess name k [] = none := by
  simp [firstExcess]

theorem found_filled {name : String} {k : Nat} {s : List (Nat × Construct)} :
    ∀ p, (s.inits.find? fun p => k + openings name (p.map (·.2)) < closings name (p.map (·.2))) = some p →
      p ≠ [] := by
  rintro p found rfl
  simpa using List.find?_some found

theorem firstExcess_cons (name : String) (k : Nat) (x : Nat × Construct) (s : List (Nat × Construct)) :
    firstExcess name k (x :: s) =
      if x.2.kind = .closing ∧ x.2.name = name then
        (match k with
        | 0 => some x
        | k + 1 => firstExcess name k s)
      else if x.2.kind = .opening ∧ x.2.name = name then firstExcess name (k + 1) s
      else firstExcess name k s := by
  unfold firstExcess
  rw [find?_inits_cons,if_neg (by simp)]
  by_cases closing : x.2.kind = .closing ∧ x.2.name = name
  · have opening := not_opening_of_closing closing
    rw [if_pos closing]
    cases k with
    | zero =>
      -- the close alone already outnumbers the openings
      have first : (s.inits.find? fun p => decide (0 + openings name ((x :: p).map (·.2)) <
          closings name ((x :: p).map (·.2)))) = some [] := by
        cases s <;> simp [closing]
      rw [first]
      rfl
    | succ k =>
      have shift : ∀ p : List (Nat × Construct),
          (k + 1 + openings name ((x :: p).map (·.2)) < closings name ((x :: p).map (·.2))) ↔
            (k + openings name (p.map (·.2)) < closings name (p.map (·.2))) := by
        intro p
        simp only [List.map_cons,openings_cons,closings_cons,if_pos closing,if_neg opening]
        omega
      simp only [shift]
      exact bind_getLast?_map_cons x found_filled
  · rw [if_neg closing]
    by_cases opening : x.2.kind = .opening ∧ x.2.name = name
    · have shift : ∀ p : List (Nat × Construct),
          (k + openings name ((x :: p).map (·.2)) < closings name ((x :: p).map (·.2))) ↔
            (k + 1 + openings name (p.map (·.2)) < closings name (p.map (·.2))) := by
        intro p
        simp only [List.map_cons,openings_cons,closings_cons,if_pos opening,if_neg closing]
        omega
      rw [if_pos opening]
      simp only [shift]
      exact bind_getLast?_map_cons x found_filled
    · have shift : ∀ p : List (Nat × Construct),
          (k + openings name ((x :: p).map (·.2)) < closings name ((x :: p).map (·.2))) ↔
            (k + openings name (p.map (·.2)) < closings name (p.map (·.2))) := by
        intro p
        simp only [List.map_cons,openings_cons,closings_cons,if_neg opening,if_neg closing]
        omega
      rw [if_neg opening]
      simp only [shift]
      exact bind_getLast?_map_cons x found_filled

theorem firstExcess_append (name : String) (k : Nat) (s t : List (Nat × Construct)) :
    firstExcess name k (s ++ t) = match firstExcess name k s with
      | some x => some x
      | none => firstExcess name (k + openings name (s.map (·.2)) - closings name (s.map (·.2))) t := by
  induction s generalizing k with
  | nil => simp [firstExcess_nil]
  | cons x s ih =>
    rw [List.cons_append,firstExcess_cons,firstExcess_cons]
    rcases bearing_cases name x.2 with closing | opening | ⟨other,other'⟩
    · simp only [if_pos closing]
      cases k with
      | zero => rfl
      | succ k =>
        dsimp only
        rw [ih k]
        cases firstExcess name k s with
        | some y => rfl
        | none =>
          simp only [List.map_cons,openings_cons,closings_cons,if_pos closing,
            if_neg (not_opening_of_closing closing)]
          congr 1
          omega
    · simp only [if_neg (not_closing_of_opening opening),if_pos opening]
      rw [ih (k + 1)]
      cases firstExcess name (k + 1) s with
      | some y => rfl
      | none =>
        simp only [List.map_cons,openings_cons,closings_cons,if_pos opening,
          if_neg (not_closing_of_opening opening)]
        congr 1
        omega
    · simp only [if_neg other,if_neg other']
      rw [ih k]
      cases firstExcess name k s with
      | some y => rfl
      | none => simp only [List.map_cons,openings_cons,closings_cons,if_neg other,if_neg other',Nat.add_zero]

theorem closings_le_of_none {name : String} {k : Nat} {s : List (Nat × Construct)}
    (none_ : firstExcess name k s = none) : closings name (s.map (·.2)) ≤ k + openings name (s.map (·.2)) := by
  induction s generalizing k with
  | nil => simp
  | cons x s ih =>
    rw [firstExcess_cons] at none_
    rcases bearing_cases name x.2 with closing | opening | ⟨other,other'⟩
    · rw [if_pos closing] at none_
      cases k with
      | zero => cases none_
      | succ k =>
        have fewer := ih none_
        simp only [List.map_cons,openings_cons,closings_cons,if_pos closing,
          if_neg (not_opening_of_closing closing)]
        omega
    · rw [if_neg (not_closing_of_opening opening),if_pos opening] at none_
      have fewer := ih none_
      simp only [List.map_cons,openings_cons,closings_cons,if_pos opening,
        if_neg (not_closing_of_opening opening)]
      omega
    · rw [if_neg other,if_neg other'] at none_
      have fewer := ih none_
      simp only [List.map_cons,openings_cons,closings_cons,if_neg other,if_neg other']
      omega

theorem firstExcess_split {name : String} {k : Nat} {s : List (Nat × Construct)} {x : Nat × Construct}
    (found : firstExcess name k s = some x) :
    ∃ a b, s = a ++ x :: b ∧ x.2.kind = .closing ∧ x.2.name = name ∧
      closings name (a.map (·.2)) = k + openings name (a.map (·.2)) := by
  induction s generalizing k with
  | nil => simp [firstExcess_nil] at found
  | cons y s ih =>
    rw [firstExcess_cons] at found
    rcases bearing_cases name y.2 with closing | opening | ⟨other,other'⟩
    · rw [if_pos closing] at found
      cases k with
      | zero =>
        cases found
        exact ⟨[],s,rfl,closing.1,closing.2,by simp⟩
      | succ k =>
        obtain ⟨a,b,rfl,kind,named,used⟩ := ih found
        refine ⟨y :: a,b,rfl,kind,named,?_⟩
        simp only [List.map_cons,openings_cons,closings_cons,if_pos closing,
          if_neg (not_opening_of_closing closing)]
        omega
    · rw [if_neg (not_closing_of_opening opening),if_pos opening] at found
      obtain ⟨a,b,rfl,kind,named,used⟩ := ih found
      refine ⟨y :: a,b,rfl,kind,named,?_⟩
      simp only [List.map_cons,openings_cons,closings_cons,if_pos opening,
        if_neg (not_closing_of_opening opening)]
      omega
    · rw [if_neg other,if_neg other'] at found
      obtain ⟨a,b,rfl,kind,named,used⟩ := ih found
      refine ⟨y :: a,b,rfl,kind,named,?_⟩
      simp only [List.map_cons,openings_cons,closings_cons,if_neg other,if_neg other']
      omega

theorem firstExcess_mem {name : String} {k : Nat} {s : List (Nat × Construct)} {x : Nat × Construct}
    (found : firstExcess name k s = some x) : x ∈ s := by
  obtain ⟨a,b,rfl,-⟩ := firstExcess_split found
  simp

theorem firstExcess_earlier {name : String} {j k : Nat} (fewer : k < j) {s : List (Nat × Construct)}
    {x : Nat × Construct} (found : firstExcess name j s = some x) :
    ∃ a y b, s = a ++ y :: b ∧ x ∈ b ∧ firstExcess name k s = some y := by
  induction s generalizing j k with
  | nil => simp [firstExcess_nil] at found
  | cons z s ih =>
    rw [firstExcess_cons] at found
    rw [firstExcess_cons]
    rcases bearing_cases name z.2 with closing | opening | ⟨other,other'⟩
    · rw [if_pos closing] at found ⊢
      cases j with
      | zero => omega
      | succ j =>
        cases k with
        | zero => exact ⟨[],z,s,rfl,firstExcess_mem found,rfl⟩
        | succ k =>
          obtain ⟨a,y,b,rfl,later,stops⟩ := ih (j := j) (k := k) (by omega) found
          exact ⟨z :: a,y,b,rfl,later,stops⟩
    · rw [if_neg (not_closing_of_opening opening),if_pos opening] at found ⊢
      obtain ⟨a,y,b,rfl,later,stops⟩ := ih (j := j + 1) (k := k + 1) (by omega) found
      exact ⟨z :: a,y,b,rfl,later,stops⟩
    · rw [if_neg other,if_neg other'] at found ⊢
      obtain ⟨a,y,b,rfl,later,stops⟩ := ih fewer found
      exact ⟨z :: a,y,b,rfl,later,stops⟩

theorem findClose_eq_firstExcess (name : String) (k : Nat) (s : List (Nat × Construct)) :
    findClose name (k + 1) (s.map (·.2)) = match firstExcess name k s with
      | some x => .found x.2.start
      | none => .pending (k + 1 + openings name (s.map (·.2)) - closings name (s.map (·.2))) := by
  induction s generalizing k with
  | nil => simp [findClose,firstExcess_nil]
  | cons x s ih =>
    rw [List.map_cons,firstExcess_cons]
    rcases bearing_cases name x.2 with closing | opening | ⟨other,other'⟩
    · rw [if_pos closing]
      cases k with
      | zero => simp [findClose,closing.1,closing.2]
      | succ k =>
        dsimp only
        rw [findClose,if_neg (by simp [closing.2]),closing.1]
        simp only [Nat.add_sub_cancel,Nat.add_one_ne_zero,if_false]
        rw [ih k]
        cases firstExcess name k s with
        | some y => rfl
        | none =>
          simp only [openings_cons,closings_cons,if_pos closing,if_neg (not_opening_of_closing closing)]
          congr 1
          omega
    · rw [if_neg (not_closing_of_opening opening),if_pos opening]
      rw [findClose,if_neg (by simp [opening.2]),opening.1]
      dsimp only
      rw [ih (k + 1)]
      cases firstExcess name (k + 1) s with
      | some y => rfl
      | none =>
        simp only [openings_cons,closings_cons,if_pos opening,if_neg (not_closing_of_opening opening)]
        congr 1
        omega
    · rw [if_neg other,if_neg other']
      have same : findClose name (k + 1) (x.2 :: s.map (·.2)) = findClose name (k + 1) (s.map (·.2)) := by
        by_cases named : x.2.name = name
        · rw [findClose,if_neg (by simp [named])]
          cases kind : x.2.kind <;> simp_all
        · rw [findClose,if_pos (by simp [named])]
      rw [same,ih k]
      cases firstExcess name k s with
      | some y => rfl
      | none => simp only [openings_cons,closings_cons,if_neg other,if_neg other',Nat.add_zero]

def sparseStream : Nat → List ScannedLine → List (Nat × Construct)
  | _, [] => []
  | n, l :: ls => (if l.dense then [] else l.constructs.map (n,·)) ++ sparseStream (n + 1) ls

theorem walk_line_eq_firstExcess (name : String) (k n : Nat) (cs : List Construct)
    (below : Nat → Option (Nat × Nat)) {s : List (Nat × Construct)}
    (counts : ∀ j, below (j + 1) = (firstExcess name j s).map fun x => (x.1,x.2.start)) :
    (match findClose name (k + 1) cs with
      | .found c => some (n,c)
      | .pending d => below d) =
      (firstExcess name k (cs.map (n,·) ++ s)).map fun x => (x.1,x.2.start) := by
  have walk := findClose_eq_firstExcess name k (cs.map (n,·))
  rw [List.map_map,Function.comp_def,List.map_id'] at walk
  rw [walk,firstExcess_append]
  cases found : firstExcess name k (cs.map (n,·)) with
  | some x =>
    obtain ⟨c,-,rfl⟩ := List.mem_map.mp (firstExcess_mem found)
    rfl
  | none =>
    -- the line leaves the walk at depth one more than the openings it left unclosed
    have fewer := closings_le_of_none found
    simp only [List.map_map,Function.comp_def,List.map_id'] at fewer ⊢
    rw [show k + 1 + openings name cs - closings name cs = k + openings name cs - closings name cs + 1 by omega]
    exact counts _

theorem closeBelow_eq_firstExcess (name : String) (k n : Nat) (ls : List ScannedLine) :
    closeBelow name (k + 1) n ls = (firstExcess name k (sparseStream n ls)).map fun x => (x.1,x.2.start) := by
  induction ls generalizing k n with
  | nil => simp [closeBelow,sparseStream,firstExcess_nil]
  | cons l ls ih =>
    rw [closeBelow,sparseStream]
    by_cases dense : l.dense = true
    · rw [if_pos dense,if_pos dense,List.nil_append]
      exact ih k (n + 1)
    · rw [if_neg dense,if_neg dense]
      exact walk_line_eq_firstExcess name k n l.constructs _ fun j => ih j (n + 1)

theorem exists_unclosed {name : String} (s : List (Nat × Construct))
    (excess : closings name (s.map (·.2)) < openings name (s.map (·.2))) :
    ∃ a x b, s = a ++ x :: b ∧ x.2.kind = .opening ∧ x.2.name = name ∧ firstExcess name 0 b = none := by
  induction length : s.length using Nat.strong_induction_on generalizing s with
  | _ n ih =>
    cases s with
    | nil => simp at excess
    | cons y s =>
      have shorter : s.length < n := by simp at length; omega
      rcases bearing_cases name y.2 with closing | opening | ⟨other,other'⟩
      · simp only [List.map_cons,openings_cons,closings_cons,if_pos closing,
          if_neg (not_opening_of_closing closing)] at excess
        obtain ⟨a,x,b,rfl,unclosed⟩ := ih _ shorter s (by omega) rfl
        exact ⟨y :: a,x,b,rfl,unclosed⟩
      · cases found : firstExcess name 0 s with
        | none => exact ⟨[],y,s,rfl,opening.1,opening.2,found⟩
        | some z =>
          -- the opening `y` is matched by `z`; past `z` the openings still outnumber the closes
          obtain ⟨a,b,rfl,kind,named,used⟩ := firstExcess_split found
          simp only [List.map_cons,List.map_append,openings_cons,closings_cons,openings_append,
            closings_append,if_pos opening,if_neg (not_closing_of_opening opening),kind,named,
            and_self,if_true,reduceCtorEq,false_and,if_false] at excess
          obtain ⟨a',x,b',rfl,unclosed⟩ := ih _ (by simp at shorter ⊢; omega) b (by omega) rfl
          exact ⟨y :: a ++ z :: a',x,b',by simp,unclosed⟩
      · simp only [List.map_cons,openings_cons,closings_cons,if_neg other,if_neg other'] at excess
        obtain ⟨a,x,b,rfl,unclosed⟩ := ih _ shorter s (by omega) rfl
        exact ⟨y :: a,x,b,rfl,unclosed⟩

end TagContext.Markup
