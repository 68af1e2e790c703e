import TagContext.Text.Width
import TagContext.Markup.Outline
import TagContext.Tag.Qualifier
import TagContext.Tag.Basic

namespace TagContext.Markup.Outline

def unclosedStructural (q : Qualifier) (cs : List Construct) : Option (Tag × Nat) :=
  match lastWhere Construct.isOpening cs with
  | none => none
  | some (c, rest) =>
    if c.kind == .selfClosing then none
    else match Qualifier.findQualified Tag.structural q c.name with
      | none => none
      | some t =>
        if rest.any (fun d => d.kind == .closing && d.name == c.name) then none else some (t, c.start)

def constructsBefore (o : Outline) (n : Nat) (limit : Option Nat) : List Construct :=
  (o.constructs n).takeWhile fun c => limit.all (c.start < ·)

def sparseHit (o : Outline) (q : Qualifier) (n : Nat) (limit : Option Nat) : Option Location :=
  if o.dense n then none
  else (unclosedStructural q (o.constructsBefore n limit)).map fun (t, s) => ⟨t, n, s⟩

def walkSparse (o : Outline) (q : Qualifier) (n : Nat) (limit : Option Nat) : Option Location :=
  match o.sparseHit q n limit with
  | some loc => some loc
  | none => match n with
    | 0 => none
    | k + 1 => walkSparse o q k none

def lastStructuralOpen (q : Qualifier) (n : Nat) (cs : List Construct) : Option Location :=
  cs.reverse.findSome? fun c =>
    if c.kind == .opening then (Qualifier.findQualified Tag.structural q c.name).map (⟨·, n, c.start⟩)
    else none

def nearest? (o : Outline) (q : Qualifier) (startLine startPos : Nat) : Option Location :=
  let n := min startLine (o.count - 1)
  let limit := Text.column (o.text n) startPos
  if o.dense n then
    match lastStructuralOpen q n (o.constructsBefore n (some limit)) with
    | some loc => some loc
    | none => match n with
      | 0 => none
      | k + 1 => o.walkSparse q k none
  else o.walkSparse q n (some limit)

theorem mem_of_lastWhere {p : Construct → Bool} :
    ∀ {cs : List Construct} {c : Construct} {rest : List Construct},
      lastWhere p cs = some (c, rest) → c ∈ cs
  | [], _, _, h => by simp [lastWhere] at h
  | d :: ds, c, rest, h => by
    unfold lastWhere at h
    cases hl : lastWhere p ds with
    | some r =>
      rw [hl] at h
      cases h
      exact List.mem_cons_of_mem _ (mem_of_lastWhere hl)
    | none =>
      rw [hl] at h
      by_cases hp : p d
      · simp [hp] at h
        rw [← h.1]
        exact List.mem_cons_self
      · simp [hp] at h

theorem unclosedStructural_mem {q : Qualifier} {cs : List Construct} {t : Tag} {s : Nat}
    (h : unclosedStructural q cs = some (t, s)) : ∃ c ∈ cs, c.start = s := by
  unfold unclosedStructural at h
  cases hl : lastWhere Construct.isOpening cs with
  | none => simp [hl] at h
  | some r =>
    obtain ⟨c, rest⟩ := r
    have hc := mem_of_lastWhere hl
    simp only [hl] at h
    split at h
    · cases h
    · split at h
      · cases h
      · split at h
        · cases h
        · cases h
          exact ⟨c, hc, rfl⟩

theorem start_lt_of_mem_constructsBefore {o : Outline} {n limit : Nat} {c : Construct}
    (h : c ∈ o.constructsBefore n (some limit)) : c.start < limit := by
  unfold constructsBefore at h
  have := List.all_eq_true.1 (List.all_takeWhile (l := o.constructs n)
    (p := fun c => (some limit).all (c.start < ·))) c h
  simpa using this

theorem sparseHit_at {o : Outline} {q : Qualifier} {n : Nat} {limit : Option Nat}
    {loc : Location} (h : o.sparseHit q n limit = some loc) :
    loc.line = n ∧ limit.all (loc.character < ·) := by
  unfold sparseHit at h
  split at h
  · cases h
  · obtain ⟨⟨t, s⟩, hu, rfl⟩ := Option.map_eq_some_iff.1 h
    obtain ⟨c, hc, rfl⟩ := unclosedStructural_mem hu
    refine ⟨rfl, ?_⟩
    cases limit with
    | none => rfl
    | some lim => simpa using start_lt_of_mem_constructsBefore hc

theorem walkSparse_le {o : Outline} {q : Qualifier} :
    ∀ {n : Nat} {limit : Option Nat} {loc : Location}, o.walkSparse q n limit = some loc →
      loc.line < n ∨ (loc.line = n ∧ limit.all (loc.character < ·)) := by
  intro n
  induction n with
  | zero =>
    intro limit loc h
    unfold walkSparse at h
    cases hh : o.sparseHit q 0 limit with
    | none => simp [hh] at h
    | some l =>
      rw [hh] at h
      cases h
      exact Or.inr (sparseHit_at hh)
  | succ k ih =>
    intro limit loc h
    unfold walkSparse at h
    cases hh : o.sparseHit q (k + 1) limit with
    | none =>
      rw [hh] at h
      rcases ih h with h1 | ⟨h1, _⟩ <;> left <;> omega
    | some l =>
      rw [hh] at h
      cases h
      exact Or.inr (sparseHit_at hh)

theorem lastStructuralOpen_at {q : Qualifier} {n : Nat} {cs : List Construct} {loc : Location}
    (h : lastStructuralOpen q n cs = some loc) :
    loc.line = n ∧ ∃ c ∈ cs, c.start = loc.character := by
  unfold lastStructuralOpen at h
  obtain ⟨c, hc, hf⟩ := List.exists_of_findSome?_eq_some h
  split at hf
  · obtain ⟨t, _, rfl⟩ := Option.map_eq_some_iff.1 hf
    exact ⟨rfl, c, List.mem_reverse.1 hc, rfl⟩
  · cases hf

theorem nearest?_lt {o : Outline} {q : Qualifier} {line pos : Nat} {loc : Location}
    (h : o.nearest? q line pos = some loc) :
    loc.line < line ∨ (loc.line = line ∧ loc.character < pos) := by
  have hcol : Text.column (o.text (min line (o.count - 1))) pos ≤ pos :=
    Text.width_takeWidth_le _ _
  have hmin : min line (o.count - 1) ≤ line := Nat.min_le_left _ _
  unfold nearest? at h
  simp only at h
  generalize min line (o.count - 1) = n at h hmin hcol
  split at h
  · cases hl : lastStructuralOpen q n (o.constructsBefore n (some (Text.column (o.text n) pos))) with
    | some l =>
      rw [hl] at h
      cases h
      obtain ⟨hline, c, hc, hstart⟩ := lastStructuralOpen_at hl
      have := start_lt_of_mem_constructsBefore hc
      omega
    | none =>
      rw [hl] at h
      cases n with
      | zero => cases h
      | succ k =>
        rcases walkSparse_le h with h1 | ⟨h1, _⟩ <;> omega
  · rcases walkSparse_le h with h1 | ⟨h1, h2⟩
    · omega
    · simp at h2
      omega

end TagContext.Markup.Outline
