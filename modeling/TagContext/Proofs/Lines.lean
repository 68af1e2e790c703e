import TagContext.Document.Basic

namespace TagContext.Text

theorem takeWidth_width_append (xs ys : List Char) : takeWidth (width xs) (xs ++ ys) = xs := by
  induction xs with
  | nil =>
    cases ys with
    | nil => rfl
    | cons c cs => simp [takeWidth,Nat.not_le.mpr c.utf8Size_pos]
  | cons c cs ih => simp [takeWidth,ih]

theorem dropWidth_width_append (xs ys : List Char) : dropWidth (width xs) (xs ++ ys) = ys := by
  induction xs with
  | nil =>
    cases ys with
    | nil => rfl
    | cons c cs => simp [dropWidth,Nat.not_le.mpr c.utf8Size_pos]
  | cons c cs ih => simp [dropWidth,ih]

theorem dropWidth_zero (cs : List Char) : dropWidth 0 cs = cs := by
  simpa using dropWidth_width_append [] cs

theorem takeWidth_width (cs : List Char) : takeWidth (width cs) cs = cs := by
  simpa using takeWidth_width_append cs []

@[simp] theorem utf8Size_line_feed : Char.utf8Size '\n' = 1 := rfl

theorem width_line_feed (p : List Char) : width (p ++ ['\n']) = width p + 1 := by
  simp

theorem dropWidth_width_add (xs ys : List Char) (n : Nat) :
    dropWidth (width xs + n) (xs ++ ys) = dropWidth n ys := by
  induction xs with
  | nil => simp
  | cons c cs ih =>
    rw [List.cons_append,dropWidth,if_pos (by simp only [width_cons]; omega)]
    rw [show width (c :: cs) + n - c.utf8Size = width cs + n by simp only [width_cons]; omega,ih]

end TagContext.Text

namespace TagContext

open Text

-- The index puts line 0 at offset 0 and every other line just past a line feed, so its lines are
-- the pieces of the content between line feeds, each less one carriage return.

def splitLines (acc : List Char) : List Char → List (List Char)
  | [] => [acc.reverse]
  | c :: cs => if c = '\n' then acc.reverse :: splitLines [] cs else splitLines (c :: acc) cs

def Document.pieces (d : Document) : List (List Char) := splitLines [] d.content.toList

def Document.lineStart (d : Document) (n : Nat) : Nat :=
  ((d.pieces.take n).map fun p => Text.width p + 1).foldr (· + ·) 0

theorem splitLines_eq_splitOnPPrepend (acc cs : List Char) :
    splitLines acc cs = cs.splitOnPPrepend (· == '\n') acc := by
  induction cs generalizing acc with
  | nil => rfl
  | cons c cs ih =>
    rw [splitLines,List.splitOnPPrepend_cons_eq_if]
    by_cases newline : c = '\n' <;> simp [newline,ih]

theorem length_splitLines (acc cs : List Char) : (splitLines acc cs).length = cs.count '\n' + 1 := by
  induction cs generalizing acc with
  | nil => rfl
  | cons c cs ih =>
    rw [splitLines,List.count_cons]
    by_cases newline : c = '\n' <;> simp [newline,ih]

theorem newline_not_mem_splitLines {acc : List Char} (clear : '\n' ∉ acc) (cs : List Char) :
    ∀ p ∈ splitLines acc cs, '\n' ∉ p := by
  induction cs generalizing acc with
  | nil => simpa [splitLines] using clear
  | cons c cs ih =>
    unfold splitLines
    split
    · intro p member
      rcases List.mem_cons.mp member with rfl | member
      · simpa using clear
      · exact ih (by simp) p member
    · next other => exact ih (by simp [clear,Ne.symm other])

theorem dropTrailing_of_getLast?_ne {c : Char} {cs : List Char} (plain : cs.getLast? ≠ some c) :
    dropTrailing c cs = cs := by
  simp [dropTrailing,plain]

theorem dropTrailing_of_not_mem {c : Char} {cs : List Char} (absent : c ∉ cs) : dropTrailing c cs = cs :=
  dropTrailing_of_getLast?_ne fun last => absent (List.mem_of_getLast? last)

theorem dropTrailing_append_self (c : Char) (cs : List Char) : dropTrailing c (cs ++ [c]) = cs := by
  simp [dropTrailing]

theorem dropTrailing_starts (c : Char) (cs : List Char) : dropTrailing c cs <+: cs := by
  unfold dropTrailing
  split
  · exact List.dropLast_prefix cs
  · exact List.prefix_refl cs

namespace LineIndex

def ofChars (cs : List Char) : LineIndex := ⟨0 :: breaks 0 cs,width cs⟩

-- Line `n` of a text as the index cuts it, less its line feed.
def lineOf (cs : List Char) (n : Nat) : Option (List Char) :=
  ((ofChars cs).bounds n).map fun ab => dropTrailing '\n' (takeWidth (ab.2 - ab.1) (dropWidth ab.1 cs))

theorem breaks_shift (pos k : Nat) (cs : List Char) :
    breaks (pos + k) cs = (breaks pos cs).map (· + k) := by
  induction cs generalizing pos with
  | nil => rfl
  | cons c cs ih =>
    have moved : pos + k + c.utf8Size = pos + c.utf8Size + k := by omega
    unfold breaks
    split <;> simp [moved,ih]

theorem breaks_of_clear {cs : List Char} (clear : '\n' ∉ cs) (pos : Nat) : breaks pos cs = [] := by
  induction cs generalizing pos with
  | nil => rfl
  | cons c cs ih =>
    rw [List.mem_cons,not_or] at clear
    rw [breaks,if_neg (Ne.symm clear.1),ih clear.2]

theorem breaks_append (pos : Nat) (xs ys : List Char) :
    breaks pos (xs ++ ys) = breaks pos xs ++ breaks (pos + width xs) ys := by
  induction xs generalizing pos with
  | nil => simp [breaks]
  | cons c cs ih =>
    rw [List.cons_append,breaks,breaks,ih,width_cons,← Nat.add_assoc]
    split <;> rfl

theorem length_breaks (pos : Nat) (cs : List Char) : (breaks pos cs).length = cs.count '\n' := by
  induction cs generalizing pos with
  | nil => rfl
  | cons c cs ih =>
    rw [breaks,List.count_cons]
    by_cases newline : c = '\n' <;> simp [newline,ih]

theorem ofChars_line_feed {p : List Char} (clear : '\n' ∉ p) (rest : List Char) :
    ofChars (p ++ '\n' :: rest) =
      ⟨0 :: (ofChars rest).lineStarts.map (· + (width p + 1)),width rest + (width p + 1)⟩ := by
  have shifted : breaks (width p + 1) rest = (breaks 0 rest).map (· + (width p + 1)) := by
    simpa using breaks_shift 0 (width p + 1) rest
  rw [ofChars,ofChars,breaks_append,breaks_of_clear clear,List.nil_append,Nat.zero_add,breaks,if_pos rfl,
    utf8Size_line_feed,shifted,width_append,width_cons,utf8Size_line_feed]
  simp only [List.map_cons,Nat.zero_add,LineIndex.mk.injEq,true_and]
  omega

theorem bounds_zero_line_feed {p : List Char} (clear : '\n' ∉ p) (rest : List Char) :
    (ofChars (p ++ '\n' :: rest)).bounds 0 = some (0,width p + 1) := by
  rw [ofChars_line_feed clear]
  simp [bounds,ofChars]

theorem bounds_succ_line_feed {p : List Char} (clear : '\n' ∉ p) (rest : List Char) (n : Nat) :
    (ofChars (p ++ '\n' :: rest)).bounds (n + 1) =
      ((ofChars rest).bounds n).map fun ab => (ab.1 + (width p + 1),ab.2 + (width p + 1)) := by
  rw [ofChars_line_feed clear]
  unfold bounds
  simp only [List.getElem?_cons_succ,List.getElem?_map]
  cases (ofChars rest).lineStarts[n]? with
  | none => rfl
  | some a => cases (ofChars rest).lineStarts[n + 1]? <;> simp [ofChars]

theorem lineOf_zero_line_feed {p : List Char} (clear : '\n' ∉ p) (rest : List Char) :
    lineOf (p ++ '\n' :: rest) 0 = some p := by
  have split : p ++ '\n' :: rest = (p ++ ['\n']) ++ rest := by simp
  rw [lineOf,bounds_zero_line_feed clear,Option.map_some,Nat.sub_zero,dropWidth_zero,split,← width_line_feed,
    takeWidth_width_append,dropTrailing_append_self]

theorem lineOf_succ_line_feed {p : List Char} (clear : '\n' ∉ p) (rest : List Char) (n : Nat) :
    lineOf (p ++ '\n' :: rest) (n + 1) = lineOf rest n := by
  unfold lineOf
  rw [bounds_succ_line_feed clear]
  cases (ofChars rest).bounds n with
  | none => rfl
  | some ab =>
    obtain ⟨a,b⟩ := ab
    have split : p ++ '\n' :: rest = (p ++ ['\n']) ++ rest := by simp
    simp only [Option.map_some]
    rw [split,← width_line_feed,Nat.add_comm a,dropWidth_width_add,
      show b + width (p ++ ['\n']) - (width (p ++ ['\n']) + a) = b - a by omega]

theorem ofChars_of_clear {p : List Char} (clear : '\n' ∉ p) : ofChars p = ⟨[0],width p⟩ := by
  simp [ofChars,breaks_of_clear clear]

theorem lineOf_of_clear {p : List Char} (clear : '\n' ∉ p) (n : Nat) : lineOf p n = [p][n]? := by
  cases n with
  | zero =>
    simp [lineOf,bounds,ofChars_of_clear clear,dropWidth_zero,takeWidth_width,dropTrailing_of_not_mem clear]
  | succ n => simp [lineOf,bounds,ofChars_of_clear clear]

theorem intercalate_line_feed (p q : List Char) (rest : List (List Char)) :
    ['\n'].intercalate (p :: q :: rest) = p ++ '\n' :: ['\n'].intercalate (q :: rest) := by
  simp [List.intercalate_cons_cons]

theorem lineOf_intercalate {ps : List (List Char)} (nonempty : ps ≠ []) (clear : ∀ p ∈ ps, '\n' ∉ p) (n : Nat) :
    lineOf (['\n'].intercalate ps) n = ps[n]? := by
  induction ps generalizing n with
  | nil => contradiction
  | cons p ps ih =>
    cases ps with
    | nil => simpa using lineOf_of_clear (clear p (by simp)) n
    | cons q rest =>
      rw [intercalate_line_feed]
      cases n with
      | zero => exact lineOf_zero_line_feed (clear p (by simp)) _
      | succ n =>
        rw [lineOf_succ_line_feed (clear p (by simp)),ih (by simp) (fun p' member => clear p' (by simp [member])) n]
        rfl

theorem lineStarts_intercalate {ps : List (List Char)} (nonempty : ps ≠ []) (clear : ∀ p ∈ ps, '\n' ∉ p) :
    ∀ n < ps.length, (ofChars (['\n'].intercalate ps)).lineStarts[n]? =
      some (((ps.take n).map fun p => width p + 1).foldr (· + ·) 0) := by
  induction ps with
  | nil => contradiction
  | cons p ps ih =>
    intro n bound
    cases ps with
    | nil =>
      obtain rfl : n = 0 := by simp at bound; omega
      simp [ofChars_of_clear (clear p (by simp))]
    | cons q rest =>
      rw [intercalate_line_feed,ofChars_line_feed (clear p (by simp))]
      cases n with
      | zero => rfl
      | succ n =>
        have tail := ih (by simp) (fun p' member => clear p' (by simp [member])) n
          (by simp at bound ⊢; omega)
        simp only [List.getElem?_cons_succ,List.getElem?_map,tail,Option.map_some,List.take_succ_cons,
          List.map_cons,List.foldr_cons,Option.some.injEq]
        omega

end LineIndex

namespace Document

open LineIndex

theorem index_eq (d : Document) : d.index = ofChars d.content.toList := rfl

theorem pieces_eq_splitOn (d : Document) : d.pieces = d.content.toList.splitOn '\n' :=
  splitLines_eq_splitOnPPrepend [] _

theorem pieces_ne_nil (d : Document) : d.pieces ≠ [] := by
  rw [pieces_eq_splitOn]
  exact List.splitOn_ne_nil _ _

theorem newline_not_mem_pieces (d : Document) : ∀ p ∈ d.pieces, '\n' ∉ p :=
  newline_not_mem_splitLines List.not_mem_nil _

theorem content_toList (d : Document) : d.content.toList = ['\n'].intercalate d.pieces := by
  rw [pieces_eq_splitOn,List.intercalate_splitOn]

theorem lineText_eq_lineOf (d : Document) (n : Nat) :
    d.lineText n = (lineOf d.content.toList n).map fun l => String.ofList (dropTrailing '\r' l) := by
  unfold lineText lineOf
  rw [index_eq]
  cases (ofChars d.content.toList).bounds n with
  | none => rfl
  | some ab => simp [Text.slice]

theorem lineText_eq (d : Document) (n : Nat) :
    d.lineText n = d.pieces[n]?.map fun p => String.ofList (dropTrailing '\r' p) := by
  rw [lineText_eq_lineOf,content_toList,lineOf_intercalate d.pieces_ne_nil d.newline_not_mem_pieces]

theorem lineCount_eq_count (d : Document) : d.lineCount = d.content.toList.count '\n' + 1 := by
  simp [lineCount,index_eq,LineIndex.lineCount,ofChars,length_breaks]

theorem lineCount_eq_length_pieces (d : Document) : d.lineCount = d.pieces.length := by
  rw [lineCount_eq_count,pieces,length_splitLines]

theorem lineCount_eq (d : Document) : d.lineCount = d.lines.length := by
  simp [lines]

theorem lines_eq_pieces (d : Document) : d.lines = d.pieces.map fun p => String.ofList (dropTrailing '\r' p) := by
  apply List.ext_getElem
  · simp [lines,lineCount_eq_length_pieces]
  · intro n inLines inPieces
    have text := d.lineText_eq n
    rw [List.getElem?_eq_getElem (by simpa using inPieces)] at text
    simp only [lines,List.getElem_map,List.getElem_range,text,Option.map_some,Option.getD_some]

theorem lineText_of_present {d : Document} {n : Nat} (present : n < d.lineCount) :
    d.lineText n = some (d.lineOrEmpty n) := by
  have bound : n < d.pieces.length := by rwa [← lineCount_eq_length_pieces]
  rw [lineText_eq,List.getElem?_eq_getElem bound,lineOrEmpty,lines_eq_pieces,List.getD_eq_getElem?_getD,
    List.getElem?_map,List.getElem?_eq_getElem bound]
  rfl

theorem lineText_of_absent {d : Document} {n : Nat} (absent : d.lineCount ≤ n) : d.lineText n = none := by
  rw [lineText_eq,List.getElem?_eq_none (by rw [← lineCount_eq_length_pieces]; exact absent)]
  rfl

theorem lineStarts_getElem? {d : Document} {n : Nat} (present : n < d.lineCount) :
    d.index.lineStarts[n]? = some (d.lineStart n) := by
  rw [index_eq,content_toList]
  exact lineStarts_intercalate d.pieces_ne_nil d.newline_not_mem_pieces n (by rwa [← lineCount_eq_length_pieces])

theorem pieces_ofLines {ls : List String} (nonempty : ls ≠ []) (clear : ∀ l ∈ ls, '\n' ∉ l.toList) :
    (ofLines ls).pieces = ls.map String.toList := by
  rw [pieces_eq_splitOn,ofLines,String.toList_intercalate]
  exact List.splitOn_intercalate '\n' (by simpa using clear) (by simpa using nonempty)

end Document

theorem lines_split_at_line_feeds :
    (∀ d : Document, d.lineCount = d.content.toList.count '\n' + 1 ∧
      ∀ i : Nat, d.lineText i = (d.content.toList.splitOn '\n')[i]?.map fun p => String.ofList (dropTrailing '\r' p)) ∧
    ∀ ls : List String, ls ≠ [] → (∀ l ∈ ls, '\n' ∉ l.toList ∧ l.toList.getLast? ≠ some '\r') →
      (Document.ofLines ls).lineCount = ls.length ∧
        ∀ i (present : i < ls.length), (Document.ofLines ls).lineText i = some ls[i] := by
  refine ⟨fun d => ⟨d.lineCount_eq_count,fun i => ?_⟩,fun ls nonempty plain => ?_⟩
  · rw [Document.lineText_eq,Document.pieces_eq_splitOn]
  · have split := Document.pieces_ofLines nonempty fun l member => (plain l member).1
    refine ⟨by rw [Document.lineCount_eq_length_pieces,split,List.length_map],fun i present => ?_⟩
    rw [Document.lineText_eq,split,List.getElem?_map,List.getElem?_eq_getElem present]
    simp [dropTrailing_of_getLast?_ne (plain _ (List.getElem_mem present)).2]

example : (⟨"<a>\r\n"⟩ : Document).lineCount = 2 ∧ (⟨"<a>\r\n"⟩ : Document).lineText 0 = some "<a>" ∧
    (⟨"<a>\r\n"⟩ : Document).lineText 1 = some "" ∧ (⟨"<a>\r\n"⟩ : Document).lineText 2 = none := by
  decide

theorem blank_line_read_back :
    ["<a>","","  <b/>"] ≠ [] ∧
      (∀ l ∈ ["<a>","","  <b/>"], '\n' ∉ l.toList ∧ l.toList.getLast? ≠ some '\r') ∧
      (Document.ofLines ["<a>","","  <b/>"]).lineCount = 3 ∧
      ∀ i (present : i < ["<a>","","  <b/>"].length),
        (Document.ofLines ["<a>","","  <b/>"]).lineText i = some ["<a>","","  <b/>"][i] :=
  have plain : ∀ l ∈ ["<a>","","  <b/>"], '\n' ∉ l.toList ∧ l.toList.getLast? ≠ some '\r' := by simp
  ⟨by simp,plain,lines_split_at_line_feeds.2 _ (by simp) plain⟩

end TagContext
