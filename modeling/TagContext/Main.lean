import TagContext.Cli.Run

open TagContext.Cli

def readFile (path : String) : IO (Except ReadError String) := do
  try
    return .ok (← IO.FS.readFile path)
  catch e =>
    match e with
    | .noFileOrDirectory .. => return .error .notFound
    | .inappropriateType _ 20 _ => return .error .notDirectory
    | .inappropriateType .. => return .error .isDirectory
    | other => return .error (.other (toString other))

def userSettings : IO (Option String) := do
  let base ← match ← IO.getEnv "XDG_CONFIG_HOME" with
    | some dir => pure (some dir)
    | none => pure ((← IO.getEnv "HOME").map (· ++ "/.config"))
  match base with
  | none => return none
  | some dir =>
    match ← readFile (dir ++ "/dfdls/dfdls.toml") with
    | .ok text => return some text
    | .error _ => return none

def realFileSystem : FileSystem IO :=
  ⟨readFile, do (← IO.getStdin).readToEnd, userSettings⟩

def main (args : List String) : IO UInt32 := do
  let outcome ← run realFileSystem args
  IO.print outcome.stdout
  IO.eprint outcome.stderr
  return outcome.code.toUInt32
