import TagContext.Document.Position

namespace TagContext

inductive Tag where
  | schema
  | element
  | elementRef
  | sequence
  | choice
  | group
  | groupRef
  | simpleType
  | complexType
  | annotation
  | appinfo
  | assert
  | discriminator
  | defineVariable
  | setVariable
  deriving DecidableEq, Repr, Inhabited

namespace Tag

def all : List Tag :=
  [.schema, .element, .elementRef, .sequence, .choice, .group, .groupRef, .simpleType,
    .complexType, Tag.annotation, .appinfo, .assert, .discriminator, .defineVariable,
    .setVariable]

def name : Tag → String
  | .schema => "schema"
  | .element => "element"
  | .elementRef => "element ref"
  | .sequence => "sequence"
  | .choice => "choice"
  | .group => "group"
  | .groupRef => "group ref"
  | .simpleType => "simpleType"
  | .complexType => "complexType"
  | Tag.annotation => "annotation"
  | .appinfo => "appinfo"
  | .assert => "assert"
  | .discriminator => "discriminator"
  | .defineVariable => "defineVariable"
  | .setVariable => "setVariable"

def ofName? (s : String) : Option Tag := all.find? (·.name == s)

def localName : Tag → String
  | .elementRef => "element"
  | .groupRef => "group"
  | t => t.name

def referenceVariant? : Tag → Option Tag
  | .element => some .elementRef
  | .group => some .groupRef
  | _ => none

def isReference : Tag → Bool
  | .elementRef | .groupRef => true
  | _ => false

def openPriority : List Tag :=
  [.element, .sequence, .choice, .group, .simpleType, .complexType, .defineVariable,
    .setVariable, .schema]

def structural : List Tag :=
  [.element, .sequence, .choice, .group, .simpleType, .complexType, .schema]

def balanceOrder : List Tag :=
  [ Tag.annotation, .appinfo, .schema, .element, .sequence, .choice, .group, .simpleType,
    .complexType, .assert, .discriminator, .defineVariable, .setVariable]

end Tag

-- The source keeps the column in u32, saturated at u32::MAX; Nat agrees below 2^32.
structure Location where
  tag : Tag
  line : Nat
  character : Nat
  deriving DecidableEq, Repr, Inhabited

def Location.position (l : Location) : Position := ⟨l.line, l.character⟩

end TagContext
