import Mathlib.Data.List.Nodup
import TagContext.Proofs.Outline
import TagContext.Proofs.Scanner.Shape

namespace TagContext

-- The cursor as the resolver reads it: its column clamped to its line, on a character boundary.
def Document.cursorAt (d : Document) (pos : Position) : Position :=
  ⟨pos.line,Text.column (d.lineOrEmpty pos.line) pos.character⟩

theorem Document.cursorAt_character (d : Document) (pos : Position) :
    (d.cursorAt pos).character = Text.column (d.lineOrEmpty pos.line) pos.character := by
  rw [Document.cursorAt]

namespace Markup

theorem starts_increase {cs : List Construct} (ordered : cs.IsChain (fun a b => a.extent ≤ b.start))
    (owned : ∀ c ∈ cs, c.start < c.extent) : cs.Pairwise (fun a b => a.start < b.start) := by
  refine (extents_precede ordered fun c member => (owned c member).le).imp_of_mem ?_
  intro a b first _ before
  have := owned a first
  omega

theorem eq_of_start_eq {t : String} {carried : Bool} {c c' : Construct}
    (member : c ∈ constructs t carried) (member' : c' ∈ constructs t carried)
    (opens : c.isOpening = true) (same : c.start = c'.start) : c = c' := by
  have filled : t ≠ "" := by
    rintro rfl
    cases carried <;> simp_all [constructs,Mode.initial,Mode.run,Mode.atEnd,Construct.isOpening]
  have increasing := starts_increase (constructs_ordered t carried) (constructs_start_lt carried filled)
  have distinct : ((constructs t carried).map (·.start)).Nodup :=
    List.pairwise_map.mpr (increasing.imp Nat.ne_of_lt)
  exact List.inj_on_of_nodup_map distinct member member' same

theorem firstWhere_of_unique {p : Construct → Bool} {op : Construct} :
    ∀ {cs : List Construct}, op ∈ cs → p op = true → (∀ c ∈ cs, p c = true → c = op) →
      ∃ rest, firstWhere p cs = some (op,rest)
  | c :: cs,member,holds,unique => by
    rw [firstWhere]
    by_cases first : p c = true
    · rw [if_pos first,unique c List.mem_cons_self first]
      exact ⟨cs,rfl⟩
    · rw [if_neg first]
      rcases List.mem_cons.mp member with rfl | later
      · exact absurd holds first
      · exact firstWhere_of_unique later holds fun c' member' => unique c' (List.mem_cons_of_mem c member')

namespace Outline

theorem between_of_found {o : Outline} {pos : Position} {q : Qualifier} {loc : Location}
    {op : Construct} {rest : List Construct} (present : loc.line < o.count)
    (found : firstWhere (fun c => c.start == loc.character && c.opens (q.qualify loc.tag.localName))
      (o.constructs loc.line) = some (op,rest))
    (opening : op.kind = .opening) (apart : ¬(pos.line = loc.line ∧ o.dense loc.line = true)) :
    o.between pos q loc = true ↔
      (⟨loc.line,op.lastColumn⟩ : Position) < ⟨pos.line,Text.column (o.text pos.line) pos.character⟩ ∧
        ((∃ c, o.closeOf? q loc.tag loc.line loc.character = some c ∧
            (⟨pos.line,Text.column (o.text pos.line) pos.character⟩ : Position) ≤ c.position) ∨
          (loc.line < pos.line ∧ ∃ cl ∈ o.constructs pos.line, cl.kind = .closing ∧
            cl.name = q.qualify loc.tag.localName ∧ Text.column (o.text pos.line) pos.character ≤ cl.start)) := by
  have sparse : (pos.line == loc.line && o.dense loc.line) = false := by
    by_cases same : pos.line = loc.line <;> simp_all
  unfold between
  dsimp only
  rw [if_neg (by omega),found]
  generalize Text.column (o.text pos.line) pos.character = cursor
  simp only [sparse,opening,Bool.false_eq_true,if_false,beq_iff_eq,reduceCtorEq]
  simp only [Position.lt_iff,Position.le_iff]
  by_cases early : pos.line < loc.line ∨ (pos.line = loc.line ∧ cursor ≤ op.lastColumn)
  · rw [if_pos (by simpa [beq_iff_eq] using early)]
    simp only [Bool.false_eq_true,false_iff,not_and]
    intro after
    omega
  · rw [if_neg (by simpa [beq_iff_eq] using early)]
    have after : loc.line < pos.line ∨ (loc.line = pos.line ∧ op.lastColumn < cursor) := by omega
    by_cases shortcut : loc.line < pos.line ∧ ∃ cl ∈ o.constructs pos.line, cl.kind = .closing ∧
        cl.name = q.qualify loc.tag.localName ∧ cursor ≤ cl.start
    · rw [if_pos (by simpa [List.any_eq_true,and_assoc] using shortcut)]
      exact ⟨fun _ => ⟨after,.inr shortcut⟩,fun _ => rfl⟩
    · rw [if_neg (by simpa [List.any_eq_true,and_assoc] using shortcut)]
      cases closed : o.closeOf? q loc.tag loc.line loc.character with
      | none => simp [shortcut]
      | some c =>
        simp [Location.position,after,shortcut]
        exact decide_eq_true_iff

end Outline

end Markup

open Markup

-- Off the opening's dense line: before its matching close, or before a same-name close on a later
-- cursor line. The second way answers true even past the matching close.
theorem between_iff_past_open_and_before_close {d : Document} {o : Outline} (built : d.outline = .ok o)
    {pos : Position} {q : Qualifier} {loc : Location} {op : Construct}
    (present : loc.line < d.lineCount) (member : op ∈ o.constructs loc.line)
    (opening : op.kind = .opening) (named : op.name = q.qualify loc.tag.localName)
    (placed : op.start = loc.character) (apart : ¬(pos.line = loc.line ∧ o.dense loc.line = true)) :
    d.between pos q loc = .ok true ↔
      (⟨loc.line,op.lastColumn⟩ : Position) < d.cursorAt pos ∧
        ((∃ c, d.closeOf? q loc.tag loc.line loc.character = .ok (some c) ∧ d.cursorAt pos ≤ c.position) ∨
          (loc.line < pos.line ∧ ∃ cl ∈ o.constructs pos.line, cl.kind = .closing ∧
            cl.name = q.qualify loc.tag.localName ∧ (d.cursorAt pos).character ≤ cl.start)) := by
  obtain ⟨-,rfl⟩ := Document.outline_eq_ok built
  have counted : (⟨scannedLines false d.lines⟩ : Outline).count = d.lineCount := by
    rw [Outline.count_scannedLines,Document.lineCount_eq]
  have texts : ∀ n, (⟨scannedLines false d.lines⟩ : Outline).text n = d.lineOrEmpty n :=
    Document.text_scannedLines d
  -- the opening is the one construct of its line at its column
  have opens : op.isOpening = true := by simp [Construct.isOpening,opening]
  obtain ⟨rest,found⟩ : ∃ rest, firstWhere
      (fun c => c.start == loc.character && c.opens (q.qualify loc.tag.localName))
      ((⟨scannedLines false d.lines⟩ : Outline).constructs loc.line) = some (op,rest) := by
    refine firstWhere_of_unique member (by simp [placed,named,Construct.opens,opens]) ?_
    intro c member' holds
    simp only [Bool.and_eq_true,beq_iff_eq] at holds
    rw [Outline.constructs_scannedLines] at member member'
    exact (eq_of_start_eq member member' opens (placed.trans holds.1.symm)).symm
  have between := Outline.between_of_found (counted ▸ present) found opening apart
  rw [texts] at between
  unfold Document.between Document.closeOf? Document.cursorAt
  rw [if_neg (by omega),if_neg (by omega),built]
  simp only [Except.map,Except.ok.injEq]
  exact between

theorem between_past_matching_close :
    (⟨"<xs:sequence>\n</xs:sequence>\n</xs:sequence>"⟩ : Document).closeOf? ⟨"xs:"⟩ .sequence 0 0 =
      .ok (some ⟨.sequence,1,0⟩) ∧
    (⟨.sequence,1,0⟩ : Location).position <
      (⟨"<xs:sequence>\n</xs:sequence>\n</xs:sequence>"⟩ : Document).cursorAt ⟨2,0⟩ ∧
    (⟨"<xs:sequence>\n</xs:sequence>\n</xs:sequence>"⟩ : Document).between ⟨2,0⟩ ⟨"xs:"⟩
      ⟨.sequence,0,0⟩ = .ok true :=
  ⟨by decide,by decide,by decide⟩

theorem between_by_close_on_cursor_line :
    (⟨"<xs:sequence>\n</xs:sequence>\n</xs:sequence>"⟩ : Document).between ⟨2,0⟩ ⟨"xs:"⟩
      ⟨.sequence,0,0⟩ = .ok true := by
  have built := Document.outline_of_narrow (d := ⟨"<xs:sequence>\n</xs:sequence>\n</xs:sequence>"⟩)
    (by decide)
  have member : (⟨.opening,"xs:sequence",0,some 12,13⟩ : Construct) ∈
      (⟨scannedLines false (⟨"<xs:sequence>\n</xs:sequence>\n</xs:sequence>"⟩ : Document).lines⟩ :
        Outline).constructs 0 := by decide
  refine (between_iff_past_open_and_before_close built (by decide) member rfl rfl rfl (by decide)).mpr
    ⟨by decide,.inr ⟨by decide,⟨.closing,"xs:sequence",0,some 13,14⟩,by decide,rfl,rfl,by decide⟩⟩

end TagContext
