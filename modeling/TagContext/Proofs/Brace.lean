import TagContext.Cursor.Context
import TagContext.Proofs.Edit

namespace TagContext

-- The search reads the cursor line, then each line above, nearest first, and answers with the last
-- brace mark of the first that holds one: the last mark of all the text in front of the cursor.

theorem lastBraceMark_append (xs ys : List Char) :
    lastBraceMark (xs ++ ys) = (lastBraceMark ys).or (lastBraceMark xs) := by
  simp [lastBraceMark]

theorem findSome?_lastBraceMark (runs : List (List Char)) :
    runs.findSome? lastBraceMark = lastBraceMark runs.reverse.flatten := by
  induction runs with
  | nil => rfl
  | cons r rs ih =>
    rw [List.findSome?_cons,List.reverse_cons,List.flatten_append,lastBraceMark_append,ih]
    cases found : lastBraceMark r <;> simp [found]

theorem lastBraceMark_eq_some_iff {cs : List Char} {c : Char} :
    lastBraceMark cs = some c ↔
      isBraceMark c = true ∧ ∃ pre post, cs = pre ++ c :: post ∧ ∀ b ∈ post, isBraceMark b = false := by
  rw [lastBraceMark,List.find?_eq_some_iff_append]
  constructor
  · rintro ⟨mark,after,before,split,clear⟩
    refine ⟨mark,before.reverse,after.reverse,?_,by simpa using clear⟩
    rw [← List.reverse_reverse cs,split]
    simp
  · rintro ⟨mark,pre,post,rfl,clear⟩
    exact ⟨mark,post.reverse,pre.reverse,by simp,by simpa using clear⟩

theorem Document.flatten_take_lines (d : Document) (n : Nat) :
    ((d.lines.take n).map String.toList).flatten = (List.range n).flatMap fun i => (d.lineOrEmpty i).toList := by
  induction n with
  | zero => simp
  | succ n ih =>
    rw [List.take_add_one,List.range_succ,List.map_append,List.flatten_append,ih,List.flatMap_append]
    cases line : d.lines[n]? <;> simp [Document.lineOrEmpty,List.getD_eq_getElem?_getD,line]

theorem isBraceOpen_iff (lines : List String) (pos : Position) :
    isBraceOpen lines pos = true ↔
      (Text.takeWidth pos.character (lines.getD pos.line "").toList ::
        (lines.take pos.line).reverse.map String.toList).findSome? lastBraceMark = some '{' := by
  dsimp only [isBraceOpen]
  split
  · next c found => rw [found]; simp
  · next found => rw [found]; simp

theorem braceOpen_iff_last_mark_opens (d : Document) (pos : Position) :
    isBraceOpen d.lines pos = true ↔
      ∃ pre post, (List.range pos.line).flatMap (fun n => (d.lineOrEmpty n).toList) ++
          (Text.upTo (d.lineOrEmpty pos.line) (Text.column (d.lineOrEmpty pos.line) pos.character)).toList =
        pre ++ '{' :: post ∧ ∀ c ∈ post, isBraceMark c = false := by
  have typed : (Text.upTo (d.lineOrEmpty pos.line) (Text.column (d.lineOrEmpty pos.line) pos.character)).toList =
      Text.takeWidth pos.character (d.lineOrEmpty pos.line).toList := by
    rw [Text.upTo,String.toList_ofList,Text.takeWidth_column]
  have read : (Text.takeWidth pos.character (d.lineOrEmpty pos.line).toList ::
      (d.lines.take pos.line).reverse.map String.toList).findSome? lastBraceMark =
      lastBraceMark ((List.range pos.line).flatMap (fun n => (d.lineOrEmpty n).toList) ++
        Text.takeWidth pos.character (d.lineOrEmpty pos.line).toList) := by
    rw [findSome?_lastBraceMark,List.reverse_cons,List.map_reverse,List.reverse_reverse,
      List.flatten_append,Document.flatten_take_lines]
    simp
  rw [typed,← (lastBraceMark_eq_some_iff).trans (and_iff_right rfl),← read,isBraceOpen_iff]
  rfl

example : isBraceOpen ["<a b=\"\x7b","  ../c","  \x7d\">"] ⟨1,4⟩ = true ∧
    isBraceOpen ["<a b=\"\x7b","  ../c","  \x7d\">"] ⟨2,3⟩ = false := by decide

end TagContext
