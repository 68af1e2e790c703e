import TagContext.Tag.Qualifier
import TagContext.Snippet.Render

namespace TagContext

inductive Item where
  | element
  | elementRef
  | sequence
  | choice
  | group
  | groupRef
  | complexType
  | simpleType
  | restriction
  | annotation
  | appinfo
  | assert
  | discriminator
  | defineVariable
  | setVariable
  deriving DecidableEq, Repr

namespace Item

def all : List Item :=
  [.element, .elementRef, .sequence, .choice, .group, .groupRef, .complexType, .simpleType,
    .restriction, Item.annotation, .appinfo, .assert, .discriminator, .defineVariable,
    .setVariable]

def name : Item → String
  | .element => "Element"
  | .elementRef => "ElementRef"
  | .sequence => "Sequence"
  | .choice => "Choice"
  | .group => "Group"
  | .groupRef => "GroupRef"
  | .complexType => "ComplexType"
  | .simpleType => "SimpleType"
  | .restriction => "Restriction"
  | Item.annotation => "Annotation"
  | .appinfo => "Appinfo"
  | .assert => "Assert"
  | .discriminator => "Discriminator"
  | .defineVariable => "DefineVariable"
  | .setVariable => "SetVariable"

def ofName? (s : String) : Option Item := all.find? (·.name == s)

def label (q : Qualifier) : Item → String
  | .element => q.qualify "element name"
  | .elementRef => q.qualify "element ref"
  | .sequence => q.qualify "sequence"
  | .choice => q.qualify "choice"
  | .group => q.qualify "group name"
  | .groupRef => q.qualify "group ref"
  | .complexType => q.qualify "complexType"
  | .simpleType => q.qualify "simpleType"
  | .restriction => q.qualify "restriction"
  | Item.annotation => q.qualify "annotation"
  | .appinfo => q.qualify "appinfo"
  | .assert => "dfdl:assert"
  | .discriminator => "dfdl:discriminator"
  | .defineVariable => "dfdl:defineVariable"
  | .setVariable => "dfdl:setVariable"

def documentation : Item → String
  | .element => "Declare a named element."
  | .elementRef => "Reference a global element declaration."
  | .sequence => "Children appear in order."
  | .choice => "Exactly one of the children appears."
  | .group => "Declare a named model group."
  | .groupRef => "Reference a global group definition."
  | .complexType => "Content model of an element with children."
  | .simpleType => "Value space of a simple element."
  | .restriction => "Restrict a built-in or named simple type."
  | Item.annotation => "Attach DFDL properties to the enclosing component."
  | .appinfo => "DFDL annotation container."
  | .assert => "Fail the parse unless the expression or pattern holds."
  | .discriminator => "Resolve a point of uncertainty when the test holds."
  | .defineVariable => "Declare a DFDL variable."
  | .setVariable => "Set the value of a declared DFDL variable."

def dfdlSource : String := "http://www.ogf.org/dfdl/"

def builtinTypes : List String := ["string", "int", "decimal", "boolean", "hexBinary", "dateTime"]

def container (p localName : String) : String :=
  "<" ++ p ++ localName ++ ">\n\t$0\n</" ++ p ++ localName ++ ">"

def snippet (q : Qualifier) (names : List String) : Item → String
  | .element => "<" ++ q.text ++ "element name=\"$" ++ "\x7b1:name\x7d\">\n\t$0\n</" ++ q.text ++ "element>"
  | .elementRef => "<" ++ q.text ++ "element ref=\"$" ++ "\x7b1:name\x7d\"/>$0"
  | .sequence => container q.text "sequence"
  | .choice => container q.text "choice"
  | .group => "<" ++ q.text ++ "group name=\"$" ++ "\x7b1:name\x7d\">\n\t$0\n</" ++ q.text ++ "group>"
  | .groupRef => "<" ++ q.text ++ "group ref=\"$" ++ "\x7b1:name\x7d\"/>$0"
  | .complexType => container q.text "complexType"
  | .simpleType => container q.text "simpleType"
  | .restriction =>
    "<" ++ q.text ++ "restriction base=\"" ++ Snippet.choice 1 (builtinTypes.map (q.text ++ ·)) ++
      "\"/>$0"
  | Item.annotation =>
    "<" ++ q.text ++ "annotation>\n\t<" ++ q.text ++ "appinfo source=\"" ++ dfdlSource ++
      "\">\n\t\t$0\n\t</" ++ q.text ++ "appinfo>\n</" ++ q.text ++ "annotation>"
  | .appinfo =>
    "<" ++ q.text ++ "appinfo source=\"" ++ dfdlSource ++ "\">\n\t$0\n</" ++ q.text ++ "appinfo>"
  | .assert =>
    "<dfdl:assert testKind=\"$" ++ "\x7b1|expression,pattern|\x7d\" test=\"\x7b $2 \x7d\" message=\"$3\"/>$0"
  | .discriminator => "<dfdl:discriminator test=\"\x7b $1 \x7d\"/>$0"
  | .defineVariable =>
    "<dfdl:defineVariable name=\"$" ++ "\x7b1:name\x7d\" type=\"" ++
      Snippet.choice 2 (builtinTypes.map (q.text ++ ·)) ++ "\"/>$0"
  | .setVariable =>
    let reference := if names.isEmpty then "$" ++ "\x7b1:name\x7d" else Snippet.choice 1 names
    "<dfdl:setVariable ref=\"" ++ reference ++ "\" value=\"$2\"/>$0"

end Item

def Tag.childItems : Tag → List Item
  | .element | .elementRef =>
    [.complexType, .simpleType, Item.annotation, .appinfo, .discriminator, .assert]
  | .sequence =>
    [.element, .elementRef, .sequence, .choice, Item.annotation, .appinfo, .discriminator, .assert]
  | .choice => [.element, .elementRef, .groupRef]
  | .group | .groupRef | .complexType => [.sequence]
  | .simpleType => [.restriction]
  | .schema =>
    [.element, .group, .complexType, .simpleType, Item.annotation, .appinfo, .defineVariable,
      .setVariable]
  | _ => []

end TagContext
