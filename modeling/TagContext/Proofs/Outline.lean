import TagContext.Proofs.Scanner.Fault
import TagContext.Resolve
import TagContext.Proofs.Lines

namespace TagContext.Markup
open Text

-- Every line scanned with the flag the line above leaves, wide characters in comment bodies
-- stepped over: where the outline exists, these are its lines.
def scannedLines (carried : Bool) : List String → List ScannedLine
  | [] => []
  | t :: ts => ⟨t,carried,constructs t carried⟩ :: scannedLines (endsInComment (constructs t carried)) ts

def ScansNarrow (carried : Bool) : List String → Prop
  | [] => True
  | t :: ts => NarrowComments t carried ∧ ScansNarrow (endsInComment (constructs t carried)) ts

instance decScansNarrow : (carried : Bool) → (ts : List String) → Decidable (ScansNarrow carried ts)
  | _,[] => isTrue trivial
  | carried,t :: ts =>
    haveI := decScansNarrow (endsInComment (constructs t carried)) ts
    inferInstanceAs (Decidable (_ ∧ _))

theorem scanLines_of_narrow {carried : Bool} {ts : List String} (narrow : ScansNarrow carried ts) :
    scanLines carried ts = .ok (scannedLines carried ts) := by
  induction ts generalizing carried with
  | nil => rfl
  | cons t ts ih =>
    obtain ⟨line,rest⟩ := narrow
    simp only [scanLines,scan_of_narrow line,bind,Except.bind,ih rest]
    rfl

theorem scanLines_eq_ok {carried : Bool} {ts : List String} {ls : List ScannedLine}
    (scanned : scanLines carried ts = .ok ls) : ScansNarrow carried ts ∧ ls = scannedLines carried ts := by
  induction ts generalizing carried ls with
  | nil =>
    cases scanned
    exact ⟨trivial,rfl⟩
  | cons t ts ih =>
    cases line : scan t carried with
    | error f =>
      simp only [scanLines,line,bind,Except.bind] at scanned
      cases scanned
    | ok cs =>
      have cs_eq := scan_eq_ok line
      subst cs_eq
      cases rest : scanLines (endsInComment (constructs t carried)) ts with
      | error f =>
        simp only [scanLines,line,rest,bind,Except.bind] at scanned
        cases scanned
      | ok ls' =>
        simp only [scanLines,line,rest,bind,Except.bind,pure,Except.pure,Except.ok.injEq] at scanned
        subst scanned
        obtain ⟨narrow,rfl⟩ := ih rest
        refine ⟨⟨?_,narrow⟩,rfl⟩
        intro c member wide
        obtain ⟨f,failed⟩ := (scan_fails_iff t carried).mpr ⟨c,member,wide⟩
        rw [line] at failed
        cases failed

theorem scannedLines_length (carried : Bool) (ts : List String) :
    (scannedLines carried ts).length = ts.length := by
  induction ts generalizing carried with
  | nil => rfl
  | cons t ts ih => simp [scannedLines,ih]

theorem scannedLines_text (carried : Bool) (ts : List String) :
    (scannedLines carried ts).map (·.text) = ts := by
  induction ts generalizing carried with
  | nil => rfl
  | cons t ts ih => simp [scannedLines,ih]

namespace Outline

theorem count_scannedLines (carried : Bool) (ts : List String) :
    (⟨scannedLines carried ts⟩ : Outline).count = ts.length :=
  scannedLines_length carried ts

theorem text_scannedLines (carried : Bool) (ts : List String) (n : Nat) :
    (⟨scannedLines carried ts⟩ : Outline).text n = ts.getD n "" := by
  have texts := scannedLines_text carried ts
  unfold text
  cases line : (scannedLines carried ts)[n]? with
  | none =>
    have : ts.length ≤ n := by
      rw [← scannedLines_length carried ts]
      exact List.getElem?_eq_none_iff.mp line
    simp [List.getD_eq_getElem?_getD,List.getElem?_eq_none this]
  | some l =>
    have := congrArg (·[n]?) texts
    simp only [List.getElem?_map,line,Option.map_some] at this
    simp [List.getD_eq_getElem?_getD,← this]

theorem constructs_scannedLines (carried : Bool) (ts : List String) (n : Nat) :
    (⟨scannedLines carried ts⟩ : Outline).constructs n =
      Markup.constructs ((⟨scannedLines carried ts⟩ : Outline).text n)
        ((⟨scannedLines carried ts⟩ : Outline).startsInComment n) := by
  induction ts generalizing carried n with
  | nil => rfl
  | cons t ts ih =>
    cases n with
    | zero => rfl
    | succ n => exact ih _ n

theorem ofLines_of_narrow {ts : List String} (narrow : ScansNarrow false ts) :
    ofLines ts = .ok ⟨scannedLines false ts⟩ := by
  unfold ofLines
  rw [scanLines_of_narrow narrow]
  rfl

theorem ofLines_eq_ok {ts : List String} {o : Outline} (built : ofLines ts = .ok o) :
    ScansNarrow false ts ∧ o = ⟨scannedLines false ts⟩ := by
  unfold ofLines at built
  cases scanned : scanLines false ts with
  | error f =>
    rw [scanned] at built
    cases built
  | ok ls =>
    rw [scanned] at built
    cases built
    obtain ⟨narrow,rfl⟩ := scanLines_eq_ok scanned
    exact ⟨narrow,rfl⟩

end Outline

end TagContext.Markup

namespace TagContext.Document
open Markup

theorem outline_eq_ok {d : Document} {o : Outline} (built : d.outline = .ok o) :
    ScansNarrow false d.lines ∧ o = ⟨scannedLines false d.lines⟩ :=
  Outline.ofLines_eq_ok built

theorem outline_of_narrow {d : Document} (narrow : ScansNarrow false d.lines) :
    d.outline = .ok ⟨scannedLines false d.lines⟩ :=
  Outline.ofLines_of_narrow narrow

theorem text_scannedLines (d : Document) (n : Nat) :
    (⟨scannedLines false d.lines⟩ : Outline).text n = d.lineOrEmpty n :=
  Outline.text_scannedLines false d.lines n

end TagContext.Document
