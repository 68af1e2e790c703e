import Mathlib.Control.Monad.Basic
import TagContext.Proofs.AutoClose

namespace TagContext.Text

theorem takeWidth_longest {n : Nat} {cs rest : List Char} {c : Char} (next : dropWidth n cs = c :: rest) :
    n < width (takeWidth n cs) + c.utf8Size := by
  induction cs generalizing n with
  | nil => cases next
  | cons d ds ih =>
    unfold dropWidth at next
    unfold takeWidth
    split
    · next fits =>
      rw [if_pos fits] at next
      have := ih next
      simp only [width_cons]
      omega
    · next crosses =>
      rw [if_neg crosses] at next
      obtain ⟨rfl,-⟩ := List.cons.inj next
      simp only [width_nil]
      omega

theorem column_of_boundary {s : String} {xs ys : List Char} (split : s.toList = xs ++ ys) :
    column s (width xs) = width xs := by
  rw [column,split,takeWidth_width_append]

theorem takeWidth_column (s : String) (n : Nat) : takeWidth (column s n) s.toList = takeWidth n s.toList := by
  conv => lhs; rw [← takeWidth_append_dropWidth n s.toList]
  rw [column,← takeWidth_append_dropWidth n s.toList,takeWidth_width_append,takeWidth_append_dropWidth]

theorem cut_between {cs xs ys xs' ys' : List Char} (first : cs = xs ++ ys) (second : cs = xs' ++ ys') :
    ∃ pre mid post, cs = pre ++ mid ++ post ∧ width pre = min (width xs) (width xs') ∧
      width (pre ++ mid) = max (width xs) (width xs') ∧ takeWidth (min (width xs) (width xs')) cs = pre ∧
      dropWidth (max (width xs) (width xs')) cs = post := by
  by_cases le : width xs ≤ width xs'
  · obtain ⟨mid,rfl,rfl⟩ := prefix_of_width_le (first.symm.trans second) le
    refine ⟨xs,mid,ys',by rw [first,List.append_assoc],by omega,by simp,?_,?_⟩
    · rw [Nat.min_eq_left le,first,takeWidth_width_append]
    · rw [Nat.max_eq_right le,second,dropWidth_width_append]
  · obtain ⟨mid,rfl,rfl⟩ := prefix_of_width_le (second.symm.trans first) (by omega)
    refine ⟨xs',mid,ys,by rw [second,List.append_assoc],by omega,by simp,?_,?_⟩
    · rw [Nat.min_eq_right (by omega),second,takeWidth_width_append]
    · rw [Nat.max_eq_left (by omega),first,dropWidth_width_append]

end TagContext.Text

namespace TagContext.Document

-- The text in front of line `n` is the first `n` pieces, each with its line feed; its width is
-- where the line starts.

theorem intercalate_at (sep : List Char) {p : List Char} :
    ∀ (ps : List (List Char)) (n : Nat), ps[n]? = some p →
      ∃ rest, sep.intercalate ps = (ps.take n).flatMap (· ++ sep) ++ p ++ rest
  | [], _, found => by simp at found
  | q :: qs, 0, found => by
    obtain rfl : q = p := by simpa using found
    cases qs with
    | nil => exact ⟨[],by simp⟩
    | cons r rs => exact ⟨sep ++ sep.intercalate (r :: rs),by simp⟩
  | q :: qs, n + 1, found => by
    cases qs with
    | nil => simp at found
    | cons r rs =>
      obtain ⟨rest,joined⟩ := intercalate_at sep (r :: rs) n (by simpa using found)
      exact ⟨rest,by rw [List.intercalate_cons_cons,joined]; simp⟩

def Before (before : List Char) (n : Nat) : Prop :=
  before.count '\n' = n ∧ (before = [] ∨ before.getLast? = some '\n')

theorem before_pieces (qs : List (List Char)) (clear : ∀ p ∈ qs, '\n' ∉ p) :
    Before (qs.flatMap (· ++ ['\n'])) qs.length := by
  induction qs with
  | nil => exact ⟨rfl,.inl rfl⟩
  | cons p ps ih =>
    obtain ⟨count,last⟩ := ih fun q member => clear q (List.mem_cons_of_mem p member)
    refine ⟨?_,.inr ?_⟩
    · simp [List.count_append,count,List.count_eq_zero_of_not_mem (clear p List.mem_cons_self)]
    · rcases last with empty | last
      · simp [empty]
      · rw [List.flatMap_cons,List.getLast?_append,last]
        rfl

theorem width_before (qs : List (List Char)) :
    Text.width (qs.flatMap (· ++ ['\n'])) = (qs.map fun p => Text.width p + 1).foldr (· + ·) 0 := by
  induction qs with
  | nil => rfl
  | cons p ps ih =>
    simp [ih]
    omega

theorem lineOrEmpty_of_absent {d : Document} {n : Nat} (absent : d.lineCount ≤ n) : d.lineOrEmpty n = "" := by
  rw [lineOrEmpty,List.getD_eq_getElem?_getD,List.getElem?_eq_none (by rw [← lineCount_eq]; exact absent)]
  rfl

theorem line_in_content {d : Document} {n : Nat} (present : n < d.lineCount) :
    ∃ before, Before before n ∧ Text.width before = d.lineStart n ∧
      before ++ (d.lineOrEmpty n).toList <+: d.content.toList := by
  have bound : n < d.pieces.length := by rwa [← lineCount_eq_length_pieces]
  obtain ⟨rest,joined⟩ := intercalate_at ['\n'] d.pieces n (List.getElem?_eq_getElem bound)
  have text : (d.lineOrEmpty n).toList = dropTrailing '\r' d.pieces[n] := by
    rw [lineOrEmpty,lines_eq_pieces,List.getD_eq_getElem?_getD,List.getElem?_map,List.getElem?_eq_getElem bound]
    simp
  have clear : ∀ p ∈ d.pieces.take n, '\n' ∉ p := fun p member =>
    d.newline_not_mem_pieces p (List.mem_of_mem_take member)
  refine ⟨(d.pieces.take n).flatMap (· ++ ['\n']),?_,?_,?_⟩
  · have before := before_pieces _ clear
    rwa [List.length_take_of_le bound.le] at before
  · rw [width_before,lineStart]
  · rw [content_toList d,joined,text,List.append_assoc]
    exact List.prefix_append_right_inj _ |>.mpr ((dropTrailing_starts '\r' _).trans (List.prefix_append _ rest))

theorem offset_eq {d : Document} (p : Position) (present : p.line < d.lineCount) :
    d.offset p = some (d.lineStart p.line + Text.column (d.lineOrEmpty p.line) p.character) := by
  simp only [offset,LineIndex.bounds,lineStarts_getElem? present,lineText_of_present present]

theorem present_of_offset {d : Document} {p : Position} {o : Nat} (found : d.offset p = some o) :
    p.line < d.lineCount := by
  by_contra absent
  revert found
  rw [offset,lineText_of_absent (by omega)]
  cases d.index.bounds p.line <;> simp

-- A position lands past the text in front of its line and the longest run of whole characters
-- of the line's text that fits in its column: on a boundary, never in the line's terminator.
def Landing (d : Document) (p : Position) (o : Nat) : Prop :=
  ∃ before fits, Before before p.line ∧ before ++ (d.lineOrEmpty p.line).toList <+: d.content.toList ∧
    fits <+: (d.lineOrEmpty p.line).toList ∧ Text.width fits ≤ p.character ∧
    (∀ c, fits ++ [c] <+: (d.lineOrEmpty p.line).toList → p.character < Text.width fits + c.utf8Size) ∧
    o = Text.width before + Text.width fits

theorem landing_of_present {d : Document} {p : Position} (present : p.line < d.lineCount) :
    d.Landing p (d.lineStart p.line + Text.column (d.lineOrEmpty p.line) p.character) := by
  obtain ⟨before,front,starts,placed⟩ := line_in_content present
  have whole := Text.takeWidth_append_dropWidth p.character (d.lineOrEmpty p.line).toList
  refine ⟨before,Text.takeWidth p.character (d.lineOrEmpty p.line).toList,front,placed,⟨_,whole⟩,
    Text.width_takeWidth_le _ _,fun c longer => ?_,by rw [starts]; rfl⟩
  obtain ⟨rest,split⟩ := longer
  have after : Text.dropWidth p.character (d.lineOrEmpty p.line).toList = c :: rest := by
    have same := split.trans whole.symm
    rw [List.append_assoc,List.append_cancel_left_eq] at same
    exact same.symm
  exact Text.takeWidth_longest after

theorem Landing.boundary {d : Document} {p : Position} {o : Nat} (lands : d.Landing p o) :
    ∃ xs ys, d.content.toList = xs ++ ys ∧ Text.width xs = o := by
  obtain ⟨before,fits,-,⟨after,placed⟩,⟨rest,line⟩,-,-,rfl⟩ := lands
  refine ⟨before ++ fits,rest ++ after,?_,Text.width_append _ _⟩
  rw [← placed,← line]
  simp

theorem checkPosition_of_present {d : Document} {p : Position} (present : p.line < d.lineCount) :
    d.checkPosition p = .ok () := if_pos present

theorem checkPosition_of_absent {d : Document} {p : Position} (absent : d.lineCount ≤ p.line) :
    d.checkPosition p = .error (.lineOutOfRange p.line d.lineCount) := if_neg (by omega)

theorem replace_of_absent_start {d : Document} {r : Range} {x : String} (absent : d.lineCount ≤ r.start.line) :
    d.replace r x = .error (.lineOutOfRange r.start.line d.lineCount) := by
  unfold replace
  rw [checkPosition_of_absent absent]
  rfl

theorem replace_of_absent_stop {d : Document} {r : Range} {x : String} (present : r.start.line < d.lineCount)
    (absent : d.lineCount ≤ r.stop.line) : d.replace r x = .error (.lineOutOfRange r.stop.line d.lineCount) := by
  unfold replace
  rw [checkPosition_of_present present,checkPosition_of_absent absent]
  rfl

theorem replace_of_offsets {d : Document} {r : Range} (x : String) {a b : Nat} (start : d.offset r.start = some a)
    (stop : d.offset r.stop = some b) :
    d.replace r x = .ok ⟨String.ofList (Text.takeWidth (min a b) d.content.toList ++ x.toList ++
      Text.dropWidth (max a b) d.content.toList)⟩ := by
  unfold replace
  rw [checkPosition_of_present (present_of_offset start),checkPosition_of_present (present_of_offset stop)]
  simp only [start,stop]
  rfl

end TagContext.Document

namespace TagContext

open Document

theorem replace_checks_lines_then_splices (d : Document) (r : Range) (x : String) :
    (d.lineCount ≤ r.start.line → d.replace r x = .error (.lineOutOfRange r.start.line d.lineCount)) ∧
      (r.start.line < d.lineCount → d.lineCount ≤ r.stop.line →
        d.replace r x = .error (.lineOutOfRange r.stop.line d.lineCount)) ∧
      (r.start.line < d.lineCount → r.stop.line < d.lineCount →
        ∃ a b, d.offset r.start = some a ∧ d.offset r.stop = some b ∧ d.Landing r.start a ∧ d.Landing r.stop b ∧
          ∃ pre mid post, d.content.toList = pre ++ mid ++ post ∧ Text.width pre = min a b ∧
            Text.width (pre ++ mid) = max a b ∧ d.replace r x = .ok ⟨String.ofList (pre ++ x.toList ++ post)⟩) := by
  refine ⟨replace_of_absent_start,replace_of_absent_stop,fun start stop => ?_⟩
  have lowerLands := landing_of_present start
  have upperLands := landing_of_present stop
  obtain ⟨xs,ys,first,lower⟩ := lowerLands.boundary
  obtain ⟨xs',ys',second,upper⟩ := upperLands.boundary
  obtain ⟨pre,mid,post,cut,low,high,kept,dropped⟩ := Text.cut_between first second
  rw [lower,upper] at low high kept dropped
  refine ⟨_,_,offset_eq _ start,offset_eq _ stop,lowerLands,upperLands,pre,mid,post,cut,low,high,?_⟩
  rw [replace_of_offsets x (offset_eq _ start) (offset_eq _ stop),kept,dropped]

theorem reversed_range_splices_clamped_ends :
    1 < (⟨"ab\r\ncé\n"⟩ : Document).lineCount ∧ 0 < (⟨"ab\r\ncé\n"⟩ : Document).lineCount ∧
      (⟨"ab\r\ncé\n"⟩ : Document).replace ⟨⟨1,9⟩,⟨0,1⟩⟩ "X" = .ok ⟨"aX\n"⟩ := by
  have start : 1 < (⟨"ab\r\ncé\n"⟩ : Document).lineCount := by decide
  have stop : 0 < (⟨"ab\r\ncé\n"⟩ : Document).lineCount := by decide
  obtain ⟨a,b,lower,upper,-,-,pre,mid,post,cut,low,high,replaced⟩ :=
    (replace_checks_lines_then_splices ⟨"ab\r\ncé\n"⟩ ⟨⟨1,9⟩,⟨0,1⟩⟩ "X").2.2 start stop
  have clamped : (⟨"ab\r\ncé\n"⟩ : Document).offset ⟨1,9⟩ = some 7 := by decide +kernel
  have kept : (⟨"ab\r\ncé\n"⟩ : Document).offset ⟨0,1⟩ = some 1 := by decide +kernel
  obtain rfl := Option.some.inj (lower.symm.trans clamped)
  obtain rfl := Option.some.inj (upper.symm.trans kept)
  -- the lower end keeps the first character, the upper one the final line feed
  have whole : (⟨"ab\r\ncé\n"⟩ : Document).content.toList = ['a'] ++ ['b','\r','\n','c','é','\n'] := rfl
  obtain ⟨rfl,-⟩ := Text.eq_of_width_eq (whole.symm.trans (cut.trans (List.append_assoc _ _ _))) low.symm
  have whole' : (⟨"ab\r\ncé\n"⟩ : Document).content.toList = ['a','b','\r','\n','c','é'] ++ ['\n'] := rfl
  obtain ⟨-,rfl⟩ := Text.eq_of_width_eq (whole'.symm.trans cut) high.symm
  exact ⟨start,stop,replaced⟩

theorem typedBefore_toList (d : Document) (pos : Position) :
    (d.typedBefore pos).toList = Text.takeWidth pos.character (d.lineOrEmpty pos.line).toList := by
  rw [Document.typedBefore,Text.upTo,String.toList_ofList,Text.takeWidth_column]

theorem toList_of_endsWith {s : String} (ends : s.endsWith ">" = true) : ∃ typed, s.toList = typed ++ ['>'] := by
  have suffix : ">".toList <:+ s.toList := by
    simpa using (@String.Slice.endsWith_string_iff ">" s.toSlice).mp ends
  obtain ⟨typed,joined⟩ := suffix
  exact ⟨typed,joined.symm⟩

theorem replace_within_line {d : Document} {n : Nat} (present : n < d.lineCount) {xs mid ys : List Char}
    (line : (d.lineOrEmpty n).toList = xs ++ mid ++ ys) (x : String) :
    ∃ before after, Before before n ∧ Text.width before = d.lineStart n ∧
      d.content.toList = before ++ xs ++ mid ++ ys ++ after ∧
      d.replace ⟨⟨n,Text.width xs⟩,⟨n,Text.width (xs ++ mid)⟩⟩ x =
        .ok ⟨String.ofList (before ++ xs ++ x.toList ++ ys ++ after)⟩ := by
  obtain ⟨before,front,starts,after,placed⟩ := line_in_content present
  have content : d.content.toList = before ++ xs ++ mid ++ ys ++ after := by
    rw [← placed,line]
    simp
  have split : (d.lineOrEmpty n).toList = xs ++ (mid ++ ys) := by
    rw [line,List.append_assoc]
  have lower : d.offset ⟨n,Text.width xs⟩ = some (Text.width (before ++ xs)) := by
    rw [offset_eq ⟨n,Text.width xs⟩ present,Text.column_of_boundary split,← starts,Text.width_append]
  have upper : d.offset ⟨n,Text.width (xs ++ mid)⟩ = some (Text.width (before ++ xs ++ mid)) := by
    rw [offset_eq ⟨n,Text.width (xs ++ mid)⟩ present,Text.column_of_boundary line,← starts]
    simp
  have kept : Text.takeWidth (Text.width (before ++ xs)) d.content.toList = before ++ xs := by
    rw [content,show before ++ xs ++ mid ++ ys ++ after = (before ++ xs) ++ (mid ++ ys ++ after) by simp,
      Text.takeWidth_width_append]
  have dropped : Text.dropWidth (Text.width (before ++ xs ++ mid)) d.content.toList = ys ++ after := by
    rw [content,show before ++ xs ++ mid ++ ys ++ after = (before ++ xs ++ mid) ++ (ys ++ after) by simp,
      Text.dropWidth_width_append]
  refine ⟨before,after,front,starts,content,?_⟩
  rw [replace_of_offsets x lower upper,Nat.min_eq_left (by simp),Nat.max_eq_right (by simp),kept,dropped]
  simp

theorem cursorAt_back (d : Document) (pos : Position) (n : Nat) :
    (d.cursorAt pos).back n = ⟨pos.line,(d.cursorAt pos).character - n⟩ := by
  rw [Document.cursorAt,Position.back]

theorem greater_before_cursor {d : Document} {pos : Position} (ends : (d.typedBefore pos).endsWith ">" = true) :
    pos.line < d.lineCount ∧ ∃ typed following, (d.typedBefore pos).toList = typed ++ ['>'] ∧
      (d.lineOrEmpty pos.line).toList = typed ++ ['>'] ++ following ∧
      d.cursorAt pos = ⟨pos.line,Text.width (typed ++ ['>'])⟩ := by
  obtain ⟨typed,greater⟩ := toList_of_endsWith ends
  -- a missing line reads as empty, and nothing typed on it ends in `>`
  have present : pos.line < d.lineCount := by
    by_contra absent
    rw [typedBefore_toList,lineOrEmpty_of_absent (by omega)] at greater
    cases typed <;> cases greater
  have whole := Text.takeWidth_append_dropWidth pos.character (d.lineOrEmpty pos.line).toList
  rw [← typedBefore_toList,greater] at whole
  refine ⟨present,typed,_,greater,whole.symm,?_⟩
  rw [← greater,typedBefore_toList,Document.cursorAt,Text.column]

theorem close_edit_replaces_typed_greater {d : Document} {pos : Position} {q : Qualifier} {e : SnippetEdit}
    (answered : d.closeElement pos q = .ok (some e)) :
    pos.line < d.lineCount ∧ 1 ≤ (d.cursorAt pos).character ∧
      e.range = ⟨⟨pos.line,(d.cursorAt pos).character - 1⟩,d.cursorAt pos⟩ ∧
      ∃ before typed rest, (d.typedBefore pos).toList = typed ++ ['>'] ∧ Before before pos.line ∧
        Text.width before = d.lineStart pos.line ∧ Text.width typed = (d.cursorAt pos).character - 1 ∧
        d.content.toList = before ++ typed ++ '>' :: rest ∧
        d.apply e = .ok ⟨String.ofList (before ++ typed ++ (Snippet.render e.snippet).toList ++ rest)⟩ := by
  obtain ⟨o,built⟩ := outline_of_closeElement answered
  rw [closeElement_eq_outline built] at answered
  obtain ⟨ends,-,-,range,-⟩ := Markup.Outline.closeElement_eq_some answered
  rw [typedBefore_eq built] at ends
  rw [cursorAt_eq built,cursorAt_back] at range
  obtain ⟨present,typed,following,greater,line,cursor⟩ := greater_before_cursor ends
  have column : (d.cursorAt pos).character = Text.width typed + 1 := by
    rw [cursor]
    simp [show Char.utf8Size '>' = 1 from rfl]
  have back : (d.cursorAt pos).character - 1 = Text.width typed := by omega
  -- the edit covers the `>`, from the column before it to the cursor
  have covers : e.range = ⟨⟨pos.line,Text.width typed⟩,⟨pos.line,Text.width (typed ++ ['>'])⟩⟩ := by
    rw [range,back,cursor]
  obtain ⟨before,after,front,starts,content,replaced⟩ := replace_within_line present line (Snippet.render e.snippet)
  refine ⟨present,by omega,range,before,typed,following ++ after,greater,front,starts,back.symm,
    by simpa using content,?_⟩
  rw [Document.apply,covers,replaced]
  simp

theorem sequence_close_replaces_its_greater :
    (⟨"<xs:sequence>"⟩ : Document).closeElement ⟨0,13⟩ ⟨"xs:"⟩ =
        .ok (some ⟨⟨⟨0,12⟩,⟨0,13⟩⟩,Snippet.blockClose ⟨"xs:"⟩ .sequence ""⟩) ∧
      ∃ before typed rest, (⟨"<xs:sequence>"⟩ : Document).content.toList = before ++ typed ++ '>' :: rest ∧
        (⟨"<xs:sequence>"⟩ : Document).apply ⟨⟨⟨0,12⟩,⟨0,13⟩⟩,Snippet.blockClose ⟨"xs:"⟩ .sequence ""⟩ =
          .ok ⟨String.ofList (before ++ typed ++ (Snippet.render (Snippet.blockClose ⟨"xs:"⟩ .sequence "")).toList ++ rest)⟩ := by
  have answered : (⟨"<xs:sequence>"⟩ : Document).closeElement ⟨0,13⟩ ⟨"xs:"⟩ =
      .ok (some ⟨⟨⟨0,12⟩,⟨0,13⟩⟩,Snippet.blockClose ⟨"xs:"⟩ .sequence ""⟩) := by
    have listed : (⟨"<xs:sequence>"⟩ : Document).lines = ["<xs:sequence>"] := by
      rw [Document.lines_eq_pieces]
      decide +kernel
    rw [Document.closeElement,Document.lineOrEmpty,Document.outline,listed]
    decide +kernel
  obtain ⟨-,-,-,before,typed,rest,-,-,-,-,content,applied⟩ := close_edit_replaces_typed_greater answered
  exact ⟨answered,before,typed,rest,content,applied⟩

end TagContext
