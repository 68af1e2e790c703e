import TagContext.Cli.Args
import TagContext.Settings.Basic
import TagContext.Report
import TagContext.Edit.AutoClose

namespace TagContext.Cli

inductive ReadError where
  | notFound
  | isDirectory
  | notDirectory
  | other (message : String)
  deriving DecidableEq, Repr

def ReadError.message : ReadError → String
  | .notFound => "No such file or directory (os error 2)"
  | .isDirectory => "Is a directory (os error 21)"
  | .notDirectory => "Not a directory (os error 20)"
  | .other m => m

structure FileSystem (m : Type → Type) where
  read : String → m (Except ReadError String)
  stdin : m String
  userSettings : m (Option String)

structure Outcome where
  code : Nat
  stdout : String
  stderr : String
  deriving DecidableEq, Repr

def failure (message : String) : Outcome := ⟨1, "", "error: " ++ message ++ "\n"⟩

def refused (f : Markup.ScanFault) : Outcome :=
  match f with
  | .wideInComment column =>
    ⟨101, "", "a comment holds a multi-byte character at column " ++ toString column ++ "\n"⟩

def printed (j : Json) : String := j.pretty 0 ++ "\n"

def answer (r : Request) (d : Document) (pos : Position) (q : Qualifier) : Outcome :=
  match r.command with
  | .context =>
    match CursorContext.analyze d pos q with
    | .ok c => ⟨0, printed c.toJson, ""⟩
    | .error f => refused f
  | .complete =>
    match completionsAt d pos q with
    | .ok items => ⟨0, printed (.arr (items.map Completion.toJson)), ""⟩
    | .error f => refused f
  | .close apply =>
    match d.closeElement pos q with
    | .error f => refused f
    | .ok edit =>
      let stdout := if apply then
          match edit with
          | some e => match d.apply e with
            | .ok d' => some d'.content
            | .error _ => none
          | none => some d.content
        else some (printed (Json.ofOption SnippetEdit.toJson edit))
      match stdout, edit with
      | none, _ => failure "Failed to apply edit"
      | some out, some _ => ⟨0, out, ""⟩
      | some out, none => ⟨1, out, if r.quiet then "" else "Nothing to close.\n"⟩

def run {m : Type → Type} [Monad m] (fs : FileSystem m) (args : List String) : m Outcome := do
  match parse args with
  | .usage => pure ⟨2, "", "error: invalid arguments\n"⟩
  | .help text => pure ⟨0, text, ""⟩
  | .version => pure ⟨0, versionText, ""⟩
  | .run r =>
    let user ← fs.userSettings
    let project ← Settings.projectFiles.mapM fun name => do
      match ← fs.read name with
      | .ok text => pure (name, some text)
      | .error _ => pure (name, none)
    match Settings.ofFiles user (fun name => (project.lookup name).join) with
    | .error e => pure (failure ("Failed to load settings: " ++ e.message))
    | .ok settings =>
      let source ← match r.path with
        | none | some "-" => Except.ok <$> fs.stdin
        | some p => do
          match ← fs.read p with
          | .ok text => pure (.ok text)
          | .error e => pure (.error ("Failed to read " ++ p ++ ": " ++ e.message))
      match source with
      | .error message => pure (failure message)
      | .ok text =>
        let d : Document := ⟨text⟩
        let pos : Position := ⟨r.line, d.byteColumn r.line r.character⟩
        match d.checkPosition pos with
        | .error e =>
          pure (failure ("Invalid cursor " ++ toString r.line ++ ":" ++ toString r.character ++
            ": " ++ e.message))
        | .ok () => pure (answer r d pos (d.qualifierAt pos settings.defaultPrefix))

end TagContext.Cli
