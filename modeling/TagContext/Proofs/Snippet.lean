import Mathlib.Control.Monad.Basic
import TagContext.Completion.Item
import TagContext.Edit.AutoClose
import TagContext.Proofs.Lines

namespace TagContext.Snippet

-- What a piece of a snippet writes depends only on where the reader stands when it begins; plain
-- text, a tab stop and a choice each begin and end in plain text, so a snippet renders piece by piece.

def opensField (b : Char) : Bool := b.isDigit || b = '{'

-- Text that renders as it stands: no backslash, and no `$` before a digit or a `{`.
def literal : List Char → Bool
  | [] => true
  | c :: cs => c != '\\' && (c != '$' || !cs.head?.any opensField) && literal cs

theorem literal_cons {c : Char} {cs : List Char} :
    literal (c :: cs) = true ↔ c ≠ '\\' ∧ (c = '$' → cs.head?.any opensField = false) ∧ literal cs = true := by
  simp [literal,Decidable.imp_iff_not_or,and_assoc]

theorem literal_of_plain {cs : List Char} (plain : ∀ c ∈ cs, c ≠ '\\' ∧ c ≠ '$') : literal cs = true := by
  induction cs with
  | nil => rfl
  | cons c cs ih =>
    have head := plain c List.mem_cons_self
    exact literal_cons.mpr ⟨head.1,fun dollar => absurd dollar head.2,ih fun d member => plain d (List.mem_cons_of_mem c member)⟩

theorem literal_append {xs ys : List Char} (hx : literal xs = true) (hy : literal ys = true)
    (join : xs.getLast? = some '$' → ys.head?.any opensField = false) : literal (xs ++ ys) = true := by
  induction xs with
  | nil => exact hy
  | cons c cs ih =>
    obtain ⟨notEscape,field,rest⟩ := literal_cons.mp hx
    refine literal_cons.mpr ⟨notEscape,fun dollar => ?_,ih rest fun last => join ?_⟩
    · cases cs with
      | nil => exact join (by simp [dollar])
      | cons b bs => simpa using field dollar
    · cases cs with
      | nil => cases last
      | cons b bs => simpa using last

theorem literal_between {pre mid post : List Char} (hpre : literal pre = true) (hmid : literal mid = true)
    (hpost : literal post = true) (after : pre.getLast? ≠ some '$') (before : post.head?.any opensField = false) :
    literal (pre ++ mid ++ post) = true :=
  literal_append (literal_append hpre hmid fun last => absurd last after) hpost fun _ => before

theorem plain_of_blank {c : Char} (blank : Text.isBlank c = true) : c ≠ '\\' ∧ c ≠ '$' := by
  constructor <;> rintro rfl <;> exact absurd blank (by decide)

namespace Reading

theorem run_cons (r : Reading) (c : Char) (cs : List Char) :
    r.run (c :: cs) = (r.step c).1 ++ (r.step c).2.run cs := rfl

@[simp] theorem run_text_nil (d : Nat) : (text d).run [] = [] := rfl

theorem step_text_other {c : Char} (notEscape : c ≠ '\\') (notDollar : c ≠ '$') :
    (text 0).step c = ([c],text 0) := by
  simp [step,textStep,notEscape,notDollar]

theorem step_text_dollar (d : Nat) : (text d).step '$' = ([],dollar d) := by
  simp [step,textStep]

theorem step_dollar_digit (d : Nat) {k : Char} (digit : k.isDigit = true) : (dollar d).step k = ([],stopDigits d) := by
  simp [step,digit]

theorem step_dollar_other (d : Nat) {b : Char} (plain : opensField b = false) :
    (dollar d).step b = ('$' :: ((text d).step b).1,((text d).step b).2) := by
  simp only [opensField,Bool.or_eq_false_iff,decide_eq_false_iff_not] at plain
  simp [step,plain.1,plain.2]

theorem step_stopDigits_other (d : Nat) {b : Char} (notDigit : b.isDigit = false) :
    (stopDigits d).step b = (text d).step b := by
  simp [step,notDigit]

theorem run_dollar {d : Nat} {cs : List Char} (plain : cs.head?.any opensField = false) :
    (dollar d).run cs = '$' :: (text d).run cs := by
  cases cs with
  | nil => rfl
  | cons b rest =>
    rw [run_cons,run_cons,step_dollar_other d (by simpa using plain)]
    rfl

theorem run_literal {xs : List Char} (lit : literal xs = true) {ys : List Char}
    (next : xs.getLast? = some '$' → ys.head?.any opensField = false) :
    (text 0).run (xs ++ ys) = xs ++ (text 0).run ys := by
  induction xs with
  | nil => rfl
  | cons c cs ih =>
    obtain ⟨notEscape,field,rest⟩ := literal_cons.mp lit
    have tail := ih rest fun last => next (by cases cs <;> simp_all)
    by_cases dollar : c = '$'
    · subst dollar
      have plain : (cs ++ ys).head?.any opensField = false := by
        cases cs with
        | nil => exact next rfl
        | cons b bs => simpa using field rfl
      rw [List.cons_append,run_cons,step_text_dollar]
      exact (run_dollar plain).trans (congrArg _ tail)
    · rw [List.cons_append,run_cons,step_text_other notEscape dollar,tail]
      rfl

theorem run_tabStop {d : Nat} {k : Char} (digit : k.isDigit = true) {rest : List Char}
    (next : rest.head?.any Char.isDigit = false) : (text d).run ('$' :: k :: rest) = (text d).run rest := by
  rw [run_cons,step_text_dollar,run_cons,step_dollar_digit d digit]
  cases rest with
  | nil => rfl
  | cons b bs =>
    rw [run_cons,step_stopDigits_other d (by simpa using next)]
    rfl

theorem run_around_stop {xs ys : List Char} (lx : literal xs = true) (ly : literal ys = true) {k : Char}
    (digit : k.isDigit = true) (next : ys.head?.any Char.isDigit = false) :
    (text 0).run (xs ++ '$' :: k :: ys) = xs ++ ys := by
  rw [run_literal lx fun _ => rfl,run_tabStop digit next]
  have whole : (text 0).run (ys ++ []) = ys ++ (text 0).run [] := run_literal ly fun _ => rfl
  rw [List.append_nil] at whole
  exact congrArg (xs ++ ·) (whole.trans (List.append_nil ys))

theorem run_braceDigits {d : Nat} {ds : List Char} (digits : ∀ c ∈ ds, c.isDigit = true) (rest : List Char) :
    (braceDigits d).run (ds ++ rest) = (braceDigits d).run rest := by
  induction ds with
  | nil => rfl
  | cons c cs ih =>
    rw [List.cons_append,run_cons]
    simp only [step,digits c List.mem_cons_self,if_true]
    exact ih fun d member => digits d (List.mem_cons_of_mem c member)

end Reading

def choiceValue (v : List Char) : List Char :=
  v.flatMap fun c => if c = '\\' || c = ',' || c = '|' || c = '$' || c = '}' then ['\\',c] else [c]

theorem choice_toList (n : Nat) (values : List String) :
    (choice n values).toList =
      '$' :: '{' :: (Nat.toDigits 10 n ++ '|' :: ([','].intercalate (values.map fun v => choiceValue v.toList) ++ ['|','}'])) := by
  simp only [choice,choiceValue,String.toList_append,String.toList_intercalate,List.map_map,Function.comp_def,
    String.toList_ofList]
  simp

namespace Reading

theorem step_choice_escape (d : Nat) (first : Bool) : (choice d first).step '\\' = ([],choiceEscape d first) := by
  simp [step,choiceStep]

theorem step_choice_comma (d : Nat) (first : Bool) : (choice d first).step ',' = ([],choice d false) := by
  simp [step,choiceStep]

theorem step_choice_other {d : Nat} {first : Bool} {c : Char} (notEscape : c ≠ '\\') (notBar : c ≠ '|')
    (notComma : c ≠ ',') : (choice d first).step c = (if first then [c] else [],choice d first) := by
  simp [step,choiceStep,notEscape,notBar,notComma]

theorem run_choice_end (d : Nat) (first : Bool) (rest : List Char) :
    (choice d first).run ('|' :: '}' :: rest) = (text d).run rest := by
  rw [run_cons,run_cons]
  simp [step,choiceStep]

theorem run_choiceValue (d : Nat) (first : Bool) (v rest : List Char) :
    (choice d first).run (choiceValue v ++ rest) = (if first then v else []) ++ (choice d first).run rest := by
  induction v with
  | nil => cases first <;> rfl
  | cons c cs ih =>
    have split : choiceValue (c :: cs) =
        (if c = '\\' || c = ',' || c = '|' || c = '$' || c = '}' then ['\\',c] else [c]) ++ choiceValue cs := by
      simp [choiceValue]
    rw [split]
    by_cases special : (c = '\\' || c = ',' || c = '|' || c = '$' || c = '}') = true
    · rw [if_pos special,List.append_assoc,List.cons_append,List.singleton_append,run_cons,step_choice_escape,
        run_cons]
      show [] ++ ((if first then [c] else []) ++ (choice d first).run (choiceValue cs ++ rest)) = _
      rw [ih]
      cases first <;> rfl
    · rw [if_neg special,List.append_assoc,List.singleton_append,run_cons]
      simp only [Bool.or_eq_true,decide_eq_true_eq,not_or] at special
      obtain ⟨⟨⟨⟨notEscape,notComma⟩,notBar⟩,-⟩,-⟩ := special
      rw [step_choice_other notEscape notBar notComma,ih]
      cases first <;> rfl

theorem run_choiceValues (d : Nat) (first : Bool) (vs : List (List Char)) (rest : List Char) :
    (choice d first).run ([','].intercalate (vs.map choiceValue) ++ '|' :: '}' :: rest) =
      (if first then vs.headD [] else []) ++ (text d).run rest := by
  induction vs generalizing first with
  | nil => cases first <;> exact run_choice_end d _ rest
  | cons v vs ih =>
    cases vs with
    | nil =>
      rw [List.map_singleton,List.intercalate_singleton,run_choiceValue,run_choice_end]
      cases first <;> rfl
    | cons w ws =>
      -- after the first value a comma turns the rest into options that are skipped
      have later := ih false
      rw [List.map_cons] at later
      rw [List.map_cons,List.map_cons,List.intercalate_cons_cons,List.append_assoc,List.append_assoc,
        run_choiceValue,List.singleton_append,run_cons,step_choice_comma]
      show _ ++ ([] ++ _) = _
      rw [later]
      cases first <;> simp

theorem run_choice (d n : Nat) (values : List String) (rest : List Char) :
    (text d).run ((Snippet.choice n values).toList ++ rest) = (values.headD "").toList ++ (text d).run rest := by
  have brace : (dollar d).step '{' = ([],braceDigits d) := by simp [step]
  have bar : (braceDigits d).step '|' = ([],choice d true) := by simp [step]
  have digits : ∀ c ∈ Nat.toDigits 10 n, c.isDigit = true := fun c member =>
    Nat.isDigit_of_mem_toDigits (by decide) (by decide) member
  have options : values.map (fun v => choiceValue v.toList) = (values.map String.toList).map choiceValue :=
    (List.map_map ..).symm
  rw [choice_toList,options]
  simp only [List.cons_append,List.append_assoc]
  rw [run_cons,step_text_dollar,run_cons,brace,run_braceDigits digits,run_cons,bar,run_choiceValues]
  cases values <;> simp

end Reading

theorem render_eq {s t : String} (rendered : (Reading.text 0).run s.toList = t.toList) : render s = t := by
  rw [render,rendered,String.ofList_toList]

theorem localName_literal (t : Tag) : literal t.localName.toList = true := by
  cases t <;> decide

theorem localName_head (t : Tag) : t.localName.toList.head?.any opensField = false := by
  cases t <;> decide

theorem qualify_literal {q : Qualifier} (lit : literal q.text.toList = true) (t : Tag) :
    literal (q.qualify t.localName).toList = true := by
  rw [Qualifier.qualify,String.toList_append]
  exact literal_append lit (localName_literal t) fun _ => localName_head t

theorem choice_renders_first_value (values : List String) :
    (∀ n, render (choice n values) = values.headD "") ∧
      ∀ q : Qualifier, values ≠ [] →
        render (Item.snippet q values .setVariable) = "<dfdl:setVariable ref=\"" ++ values.headD "" ++ "\" value=\"\"/>" := by
  refine ⟨fun n => render_eq ?_,fun q offered => render_eq ?_⟩
  · simpa using Reading.run_choice 0 n values []
  · have chosen : Item.snippet q values .setVariable =
        "<dfdl:setVariable ref=\"" ++ choice 1 values ++ "\" value=\"$2\"/>$0" := by
      cases values with
      | nil => exact absurd rfl offered
      | cons v vs => rfl
    have written : (Item.snippet q values .setVariable).toList =
        "<dfdl:setVariable ref=\"".toList ++ ((choice 1 values).toList ++ "\" value=\"$2\"/>$0".toList) := by
      rw [chosen,String.toList_append,String.toList_append,List.append_assoc]
    have head : literal "<dfdl:setVariable ref=\"".toList = true := by decide
    have tail : (Reading.text 0).run "\" value=\"$2\"/>$0".toList = "\" value=\"\"/>".toList := by decide
    rw [written,Reading.run_literal head fun _ => by rw [choice_toList]; rfl,Reading.run_choice,tail]
    simp

theorem set_variable_names_first_offered :
    ["count","a,b"] ≠ [] ∧
      render (Item.snippet ⟨"xs:"⟩ ["count","a,b"] .setVariable) = "<dfdl:setVariable ref=\"count\" value=\"\"/>" :=
  ⟨by decide,(choice_renders_first_value ["count","a,b"]).2 ⟨"xs:"⟩ (by decide)⟩

-- Every prefix the settings accept is literal text, so the closes write it as it stands.
theorem close_snippets_write_literal_qualifier {q : Qualifier} (lit : literal q.text.toList = true) (t : Tag)
    {indent : String} (blank : ∀ c ∈ indent.toList, Text.isBlank c = true) :
    render (inlineClose q t) = "></" ++ q.qualify t.localName ++ ">" ∧
      render (variableClose q t) = "></" ++ q.qualify t.localName ++ ">" ∧
      render (blockClose q t indent) = ">\n" ++ indent ++ "\t\n" ++ indent ++ "</" ++ q.qualify t.localName ++ ">" ∧
      render (Item.snippet q [] .sequence) = "<" ++ q.text ++ "sequence>\n\t\n</" ++ q.text ++ "sequence>" := by
  have qualified := qualify_literal lit t
  have indented : ∀ pre post : List Char, (∀ c ∈ pre ++ post, c ≠ '\\' ∧ c ≠ '$') →
      literal (pre ++ indent.toList ++ post) = true := fun pre post plain =>
    literal_of_plain fun c member => by
      simp only [List.mem_append] at member
      rcases member with (member | member) | member
      · exact plain c (List.mem_append_left post member)
      · exact plain_of_blank (blank c member)
      · exact plain c (List.mem_append_right pre member)
  refine ⟨render_eq ?_,render_eq ?_,render_eq ?_,render_eq ?_⟩
  · have written : (inlineClose q t).toList =
        ("></".toList ++ (q.qualify t.localName).toList ++ ">".toList) ++ ['$','0'] := by
      simp [inlineClose]
    rw [written,Reading.run_around_stop (literal_between (by decide) qualified (by decide) (by decide) (by decide))
      rfl (k := '0') rfl rfl]
    simp
  · have written : (variableClose q t).toList =
        ['>'] ++ '$' :: '0' :: ("</".toList ++ (q.qualify t.localName).toList ++ ">".toList) := by
      simp [variableClose]
    rw [written,Reading.run_around_stop (by decide)
      (literal_between (by decide) qualified (by decide) (by decide) (by decide)) (k := '0') rfl rfl]
    simp
  · have written : (blockClose q t indent).toList =
        (">\n".toList ++ indent.toList ++ "\t".toList) ++
          '$' :: '0' :: (("\n".toList ++ indent.toList ++ "</".toList) ++ (q.qualify t.localName).toList ++ ">".toList) := by
      simp [blockClose]
    have opening := indented ">\n".toList "\t".toList (by simp)
    have closing : literal (("\n".toList ++ indent.toList ++ "</".toList) ++ (q.qualify t.localName).toList ++
        ">".toList) = true :=
      literal_between (indented "\n".toList "</".toList (by simp)) qualified (by decide)
        (by rw [List.getLast?_append]; simp) (by decide)
    rw [written,Reading.run_around_stop opening closing (k := '0') rfl rfl]
    simp
  · have written : (Item.snippet q [] .sequence).toList =
        ("<".toList ++ q.text.toList ++ "sequence>\n\t".toList) ++
          '$' :: '0' :: ("\n</".toList ++ q.text.toList ++ "sequence>".toList) := by
      show (Item.container q.text "sequence").toList = _
      simp [Item.container]
    rw [written,Reading.run_around_stop (literal_between (by decide) lit (by decide) (by decide) (by decide))
      (literal_between (by decide) lit (by decide) (by decide) (by decide)) (k := '0') rfl rfl]
    simp

theorem dollar_before_letter_stays_in_close :
    literal "a$b:".toList = true ∧ (∀ c ∈ "\t".toList, Text.isBlank c = true) ∧
      render (blockClose ⟨"a$b:"⟩ .sequence "\t") = ">\n\t\t\n\t</a$b:sequence>" := by
  have lit : literal "a$b:".toList = true := by decide
  have blank : ∀ c ∈ "\t".toList, Text.isBlank c = true := by simp [Text.isBlank]
  refine ⟨lit,blank,?_⟩
  rw [(close_snippets_write_literal_qualifier (q := ⟨"a$b:"⟩) lit .sequence blank).2.2.1]
  decide

theorem rendered_close_drops_prefix_stop :
    (⟨"<a$1:schema>\n<a$1:sequence>\n</a$1:schema>"⟩ : Document).qualifierAt ⟨1,14⟩ Qualifier.defaultName = ⟨"a$1:"⟩ ∧
      (⟨"<a$1:schema>\n<a$1:sequence>\n</a$1:schema>"⟩ : Document).closeElement ⟨1,14⟩ ⟨"a$1:"⟩ =
        .ok (some ⟨⟨⟨1,13⟩,⟨1,14⟩⟩,blockClose ⟨"a$1:"⟩ .sequence ""⟩) ∧
      render (blockClose ⟨"a$1:"⟩ .sequence "") = ">\n\t\n</a:sequence>" ∧
      render (blockClose ⟨"a$1:"⟩ .sequence "") ≠
        ">\n" ++ "" ++ "\t\n" ++ "" ++ "</" ++ Qualifier.qualify ⟨"a$1:"⟩ Tag.sequence.localName ++ ">" := by
  have listed : (⟨"<a$1:schema>\n<a$1:sequence>\n</a$1:schema>"⟩ : Document).lines =
      ["<a$1:schema>","<a$1:sequence>","</a$1:schema>"] := by
    rw [Document.lines_eq_pieces]
    decide +kernel
  refine ⟨?_,?_,by decide,by decide⟩
  · rw [Document.qualifierAt,listed]
    decide +kernel
  · rw [Document.closeElement,Document.lineOrEmpty,Document.outline,listed]
    decide +kernel

end TagContext.Snippet
