import TagContext.Settings.Toml
import TagContext.Text.Word

namespace TagContext

structure Settings where
  debug : Bool
  defaultPrefix : String
  deriving DecidableEq, Repr

def Settings.defaults : Settings := ⟨false, "xs"⟩

inductive SettingsError where
  | config
  | invalidPrefix (p : String)
  deriving DecidableEq, Repr

def SettingsError.message : SettingsError → String
  | .config => "Configuration build/deserialize error"
  | .invalidPrefix p =>
    "Invalid default_prefix '" ++ p ++ "': expected a bare namespace prefix such as 'xs'"

namespace Toml.Value

def lowerAscii (s : String) : String := String.ofList (s.toList.map Char.toLower)

def flagWord (s : String) : Option Bool :=
  match lowerAscii s with
  | "1" | "true" | "on" | "yes" => some true
  | "0" | "false" | "off" | "no" => some false
  | _ => none

def asFlag : Value → Option Bool
  | .boolean b => some b
  | .integer n => some (n != 0)
  | .float shown => some (shown != "0" && shown != "-0")
  | .string s | .datetime s => flagWord s
  | _ => none

def asText : Value → Option String
  | .string s | .datetime s => some s
  | .boolean b => some (if b then "true" else "false")
  | .integer n => some (toString n)
  | .float shown => some shown
  | _ => none

def isEmptyTable : Value → Bool
  | .table _ [] => true
  | _ => false

end Toml.Value

def layered (tables : List Toml.Fields) (k : String) : Option Toml.Value :=
  tables.foldl (fun acc t => match t.lookup k with
    | none => acc
    | some v => if v.isEmptyTable && acc.isSome then acc else some v) none

def isBarePrefix (p : String) : Bool :=
  let cs := p.toList
  let body := if cs.getLast? = some ':' then cs.dropLast else cs
  body.all fun c => Text.isAlphanumeric c || c = '_' || c = '-' || c = '.'

def Settings.load (sources : List String) : Except SettingsError Settings := do
  let tables ← sources.mapM fun s =>
    match Toml.parse (String.ofList (Toml.dropByteOrderMark s.toList)) with
    | some t => .ok t
    | none => .error .config
  let setting := layered tables
  let debug ← match setting "debug" with
    | none => pure Settings.defaults.debug
    | some v => match v.asFlag with
      | some b => pure b
      | none => throw .config
  let p ← match setting "default_prefix" with
    | none => pure Settings.defaults.defaultPrefix
    | some v => match v.asText with
      | some t => pure t
      | none => throw .config
  if isBarePrefix p then pure ⟨debug, p⟩ else throw (.invalidPrefix p)

def Settings.projectFiles : List String := [".dfdls.toml", "dfdls.toml"]

def Settings.ofFiles (user : Option String) (project : String → Option String) :
    Except SettingsError Settings :=
  Settings.load (user.toList ++ Settings.projectFiles.filterMap project)

end TagContext
