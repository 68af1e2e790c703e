import TagContext.Edit.AutoClose
import TagContext.Cursor.Context

namespace TagContext

open Markup

structure SurveyRow where
  position : Position
  qualifier : Qualifier
  openTag : Option Tag
  enclosing : Option Location
  unmatched : Option Tag
  braceOpen : Bool
  closeSnippet : Option String
  deriving Repr

def SurveyRow.at (d : Document) (o : Outline) (default : String) (pos : Position) :
    Except ScanFault SurveyRow := do
  let q := d.qualifierAt pos default
  let edit ← o.closeElement pos q
  pure ⟨pos, q, o.openTag? pos q, o.enclosing? pos q, o.unclosed? pos q,
    isBraceOpen d.lines pos, edit.map (·.snippet)⟩

def surveyPositions (lines : List String) : List Position :=
  (List.range lines.length).flatMap fun l =>
    (List.range ((lines.getD l "").utf8ByteSize + 2)).map fun c => ⟨l, c⟩

def survey (d : Document) (default : String) : Except ScanFault (List SurveyRow) := do
  let o ← d.outline
  (surveyPositions d.lines).mapM (SurveyRow.at d o default)

end TagContext
