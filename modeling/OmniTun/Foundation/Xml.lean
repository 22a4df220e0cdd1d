import OmniTun.Foundation.Transport

/-! XML documents as trees, and the decoding of structs from them: an element of a struct field's
name is decoded over what the field holds, an element of a slice field's name is appended, and what
has no field is ignored. A text is given by the tree it denotes. -/

namespace OmniTun.Foundation.Xml

structure Name where
  space : Bytes
  name : Bytes
  deriving DecidableEq

structure Attr where
  name : Name
  value : Bytes
  deriving DecidableEq

inductive Node
  | text (s : Bytes)
  | element (name : Name) (attrs : List Attr) (children : List Node)

namespace Node

def attrs : Node → List Attr
  | .text _ => []
  | .element _ attrs _ => attrs

def children : Node → List Node
  | .text _ => []
  | .element _ _ children => children

def isNamed (space : Option Bytes) (name : Bytes) : Node → Bool
  | .text _ => false
  | .element n _ _ => n.name = name && space.all fun s => n.space = s

def elements (space : Option Bytes) (name : Bytes) (n : Node) : List Node :=
  n.children.filter (isNamed space name)

def chardata (n : Node) : Bytes :=
  n.children.flatMap fun
    | .text s => s
    | .element _ _ _ => []

def attrField (name : Bytes) (old : Bytes) (n : Node) : Bytes :=
  ((n.attrs.filter fun a => a.name.name = name).getLast?.map Attr.value).getD old

variable {σ : Type*}

def structField (space : Option Bytes) (name : Bytes) (unmarshal : σ → Node → σ) (old : σ)
    (n : Node) : σ :=
  (n.elements space name).foldl unmarshal old

def sliceField (space : Option Bytes) (name : Bytes) (unmarshal : Node → σ) (old : List σ)
    (n : Node) : List σ :=
  old ++ (n.elements space name).map unmarshal

end Node

end OmniTun.Foundation.Xml
