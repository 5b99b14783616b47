import Interdomain.Emulation
import Interdomain.Link.Registry

/-!
# Graphs of links

An undirected graph with its vertices in groups, and its text in the language of the GraphViz
tools: one cluster per group, then one line per edge. The graph of the declared links has a vertex
for every AS in a domain at which a link ends and an edge for every repetition of a link.
-/

namespace Interdomain

inductive Shape where
  | circle
  | doubleCircle
  deriving DecidableEq

def Shape.text : Shape → String
  | circle => "circle"
  | doubleCircle => "doublecircle"

inductive EdgeStyle where
  | solid
  | bold
  | dashed
  deriving DecidableEq

/-- A vertex is known by its group and its name. -/
structure Vertex where
  group : String
  /-- The name in the group. -/
  name : String
  deriving DecidableEq

structure Edge where
  /-- The first end. -/
  a : Vertex
  /-- The second end. -/
  b : Vertex
  /-- The label in the middle. -/
  label : Option String
  /-- The label at the first end. -/
  aLabel : Option String
  /-- The label at the second end. -/
  bLabel : Option String
  /-- How it is drawn. -/
  style : EdgeStyle
  deriving DecidableEq

structure Graph where
  /-- The title. -/
  name : String
  /-- The vertices with their shapes, in the order in which they first came. -/
  vertices : Roster Vertex Shape := ∅
  /-- The edges in order. -/
  edges : List Edge := []

namespace Graph

def addVertex (g : Graph) (v : Vertex) (shape : Shape) : Graph :=
  { g with vertices := g.vertices.insertNew v shape }

def addEdge (g : Graph) (e : Edge) : Graph := { g with edges := g.edges ++ [e] }

def addEdges (g : Graph) (es : List Edge) : Graph := { g with edges := g.edges ++ es }

/-! ## Text -/

/-- The groups in the order in which they first came. -/
def groups (g : Graph) : List String := (g.vertices.keys.map (·.group)).eraseDups

/-- The vertices of a group in order. -/
def members (g : Graph) (group : String) : List (Vertex × Shape) :=
  g.vertices.entries.filter (·.1.group = group)

/-- The name of a vertex in the whole graph. -/
def vertexId (v : Vertex) : String := "\"" ++ v.group ++ "_" ++ v.name ++ "\""

def vertexLine (v : Vertex × Shape) : String :=
  "        " ++ vertexId v.1 ++ " [label=\"" ++ v.1.name ++ "\", shape=" ++ v.2.text ++ "];\n"

/-- The lines of the group at a place in the list of groups. -/
def cluster (g : Graph) (group : String × Nat) : String :=
  "    subgraph cluster_" ++ Decimal.text group.2 ++ " \x7b\n" ++
    "        label=\"" ++ group.1 ++ "\";\n" ++
    String.join ((g.members group.1).map vertexLine) ++ "    \x7d\n"

/-- An attribute whose value is a text. -/
def textAttribute (name : String) : Option String → List String
  | some value => [name ++ "=\"" ++ value ++ "\""]
  | none => []

def styleAttribute : EdgeStyle → List String
  | .solid => []
  | .bold => ["style=bold"]
  | .dashed => ["style=dashed"]

def attributes (e : Edge) : List String :=
  textAttribute "label" e.label ++ textAttribute "taillabel" e.aLabel ++
    textAttribute "headlabel" e.bLabel ++ styleAttribute e.style

def edgeLine (e : Edge) : String :=
  let written := match attributes e with
    | [] => ""
    | list => " [" ++ String.intercalate ", " list ++ "]"
  "    " ++ vertexId e.a ++ " -- " ++ vertexId e.b ++ written ++ ";\n"

def text (g : Graph) : String :=
  "graph \"" ++ g.name ++ "\" \x7b\n" ++ "    label=\"" ++ g.name ++ "\";\n" ++
    "    labelloc=t;\n" ++ String.join (g.groups.zipIdx.map g.cluster) ++ "\n" ++
    String.join (g.edges.map edgeLine) ++ "\x7d\n"

/-! ## The graph of the declared links -/

def vertexOf (ia : IsdAsn) : Vertex := ⟨"ISD" ++ isdText ia.isd, "AS" ++ asnText ia.asn⟩

def shapeOf (e : Emulation) (ia : IsdAsn) : Shape :=
  if e.isCore ia then .doubleCircle else .circle

/-- The label of a link over an exchange. -/
def mediumLabel : Medium → Option String
  | .crossConnect => none
  | .exchange id => some ("IX" ++ asnText id)

/-- The edge of one repetition of a link. -/
def edgeOf (k : LinkKey) : Edge :=
  let edge : Edge :=
    ⟨vertexOf k.ends.a, vertexOf k.ends.b, mediumLabel k.medium, none, none, .solid⟩
  match k.ends.linkType with
  | .core => { edge with style := .bold }
  | .transit => { edge with aLabel := some "P", bLabel := some "C" }
  | .peer => { edge with style := .dashed }

/-- Add a declared link: its ends and an edge for every repetition. -/
def addLink (e : Emulation) (g : Graph) (link : LinkKey × UInt32) : Graph :=
  let ends := link.1.ends
  let g := g.addVertex (vertexOf ends.a) (shapeOf e ends.a)
  let g := g.addVertex (vertexOf ends.b) (shapeOf e ends.b)
  g.addEdges (List.replicate link.2.toNat (edgeOf link.1))

/-- The graph of the declared links, those over cross-connects first. -/
def ofLinks (links : LinkRegistry) (e : Emulation) : Graph :=
  links.declarations.foldl (addLink e) { name := "Scion Connections" }

end Graph

end Interdomain
