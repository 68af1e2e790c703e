namespace TagContext.Cli

inductive Command where
  | context
  | complete
  | close (apply : Bool)
  deriving DecidableEq, Repr

structure Request where
  command : Command
  path : Option String
  line : Nat
  character : Nat
  quiet : Bool
  verbose : Nat
  deriving DecidableEq, Repr

inductive Parsed where
  | run (r : Request)
  | help (text : String)
  | version
  | usage
  deriving DecidableEq, Repr

def versionText : String := "dfdls 0.1.0\n"

def programHelp : String :=
  "Lexical tag-context resolver and completion engine for DFDL schemas\n\n" ++
  "Usage: dfdls [OPTIONS] <COMMAND>\n\n" ++
  "Commands:\n" ++
  "  context   Print the tag context resolved at a cursor position\n" ++
  "  complete  Print the element completions offered at a cursor position\n" ++
  "  close     Print the auto-close edit for a `>` typed just before the cursor\n" ++
  "  help      Print this message or the help of the given subcommand(s)\n\n" ++
  "Options:\n" ++
  "  -q, --quiet       Do not print logs or status messages\n" ++
  "  -v, --verbose...  Use verbose output. Repeat for more detail\n" ++
  "  -h, --help        Print help\n" ++
  "  -V, --version     Print version\n"

def summary : String → String
  | "context" => "Print the tag context resolved at a cursor position"
  | "complete" => "Print the element completions offered at a cursor position"
  | _ => "Print the auto-close edit for a `>` typed just before the cursor"

def commandHelp (name : String) : String :=
  let apply := if name = "close" then
      "      --apply                  Print the document with the edit applied instead of the edit\n"
    else ""
  summary name ++ "\n\n" ++
  "Usage: dfdls " ++ name ++ " [OPTIONS] --line <LINE> --character <CHARACTER> [PATH]\n\n" ++
  "Arguments:\n" ++
  "  [PATH]  Schema file to read; `-` or nothing reads stdin\n\n" ++
  "Options:\n" ++
  "      --line <LINE>            Zero-based line of the cursor\n" ++
  "      --character <CHARACTER>  Zero-based column of the cursor, counted in characters\n" ++
  apply ++
  "  -q, --quiet                  Do not print logs or status messages\n" ++
  "  -v, --verbose...             Use verbose output. Repeat for more detail\n" ++
  "  -h, --help                   Print help\n"

def number? (s : String) : Option Nat :=
  let (negative, digits) := match s.toList with
    | '+' :: ds => (false, ds)
    | '-' :: ds => (true, ds)
    | ds => (false, ds)
  if !digits.isEmpty && digits.all Char.isDigit then
    let n := digits.foldl (fun acc c => acc * 10 + (c.toNat - 48)) 0
    if negative then (if n = 0 then some 0 else none)
    else if n < 4294967296 then some n else none
  else none

structure Options where
  command : Option String := none
  path : Option String := none
  line : Option Nat := none
  character : Option Nat := none
  apply : Bool := false
  quiet : Bool := false
  verbose : Nat := 0
  positionalOnly : Bool := false
  pending : Option String := none
  deriving Repr

inductive Next where
  | continue (o : Options)
  | stop (p : Parsed)

def shortFlag (o : Options) (c : Char) : Except Parsed Options :=
  if c = 'q' then (if o.quiet then .error .usage else .ok { o with quiet := true })
  else if c = 'v' then .ok { o with verbose := o.verbose + 1 }
  else if c = 'h' then .error (.help (match o.command with
    | some n => commandHelp n
    | none => programHelp))
  else if c = 'V' && o.command.isNone then .error .version
  else .error .usage

def setNumber (o : Options) (name v : String) : Except Parsed Options :=
  match number? v with
  | none => .error .usage
  | some n =>
    if name = "line" then
      if o.line.isSome then .error .usage else .ok { o with line := some n }
    else if o.character.isSome then .error .usage
    else .ok { o with character := some n }

def step (o : Options) (arg : String) (rest : List String) : Next :=
  if let some name := o.pending then
    if arg.startsWith "-" && arg != "-" then .stop .usage
    else match setNumber { o with pending := none } name arg with
      | .ok o' => .continue o'
      | .error p => .stop p
  else if o.positionalOnly then
    if o.command.isNone then .stop .usage
    else if o.path.isNone then .continue { o with path := some arg }
    else .stop .usage
  else if arg = "--" then .continue { o with positionalOnly := true }
  else if arg.startsWith "--" then
    let body := (arg.drop 2).toString
    let (name, inline) := match body.splitOn "=" with
      | [n] => (n, none)
      | n :: vs => (n, some ("=".intercalate vs))
      | [] => (body, none)
    let flag (set : Options → Except Parsed Options) : Next :=
      if inline.isSome then .stop .usage
      else match set o with
        | .ok o' => .continue o'
        | .error p => .stop p
    match name with
    | "quiet" => flag (shortFlag · 'q')
    | "verbose" => flag (shortFlag · 'v')
    | "help" => flag (shortFlag · 'h')
    | "version" => flag (shortFlag · 'V')
    | "apply" =>
      if o.command = some "close" && !o.apply then flag fun o => .ok { o with apply := true }
      else .stop .usage
    | "line" | "character" =>
      if o.command.isNone then .stop .usage
      else match inline with
        | none => .continue { o with pending := some name }
        | some v => match setNumber o name v with
          | .ok o' => .continue o'
          | .error p => .stop p
    | _ => .stop .usage
  else if arg.startsWith "-" && arg != "-" then
    let flags := (arg.drop 1).toString.toList
    match flags.foldlM shortFlag o with
    | .ok o' => .continue o'
    | .error p => .stop p
  else match o.command with
    | none =>
      if arg = "context" || arg = "complete" || arg = "close" then
        .continue { o with command := some arg }
      else if arg = "help" then
        match rest with
        | [] => .stop (.help programHelp)
        | [n] =>
          if n = "context" || n = "complete" || n = "close" then .stop (.help (commandHelp n))
          else if n = "help" then .stop (.help programHelp)
          else .stop .usage
        | _ => .stop .usage
      else .stop .usage
    | some _ => if o.path.isNone then .continue { o with path := some arg } else .stop .usage

def readArgs (o : Options) : List String → Parsed
  | [] =>
    if o.pending.isSome then .usage
    else match o.command, o.line, o.character with
      | some name, some line, some character =>
        if o.quiet && 0 < o.verbose then .usage
        else
          let command := if name = "context" then .context
            else if name = "complete" then .complete else .close o.apply
          .run ⟨command, o.path, line, character, o.quiet, o.verbose⟩
      | _, _, _ => .usage
  | arg :: rest =>
    match step o arg rest with
    | .continue o' => readArgs o' rest
    | .stop p => p

def parse (args : List String) : Parsed := readArgs {} args

end TagContext.Cli
