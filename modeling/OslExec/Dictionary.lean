import OslExec.Symbol

/-!
# The XML dictionary

`Dictionary` answers the shaders' `dict_find`, `dict_next` and `dict_value` calls. It reads each
XML document once (by file name, or from the text itself), and caches every answer under the
key (document, node, query or attribute name, requested type): a query for nodes under the
unknown type, its result the id of the first matching node or `0`; an attribute under the type
asked for, its result an offset into the float, int or string data it decoded. The nodes it
found are kept in one vector, whose entry `0` stands for "not found", each with the id of the
next node the same query matched.

The model follows the three vectors, the cache and the document map call by call. The parsed
XML is a parameter (`Xml`): loading, `select_nodes`, node values and attributes, and the
number parsers are outside the repository's files. The error reports to the shading context
are left out.
-/

namespace OslExec

/-- `TypeDesc::UNKNOWN`: the type a node query is cached under. -/
def TypeDesc.TypeUnknown : TypeDesc := { basetype := .unknown }

/-- Modelled from the spec: the parsed XML the dictionary reads (pugixml and OpenImageIO's
string parsers). A null node; loading a document from a file or from a string, with whether it
parsed; `select_nodes` from a node, `none` when the query throws; a node's value; the value of
its first attribute of a name; and `parse_int`, `parse_float` and `parse_char(',')` on the rest
of a string. `parse_int` and `parse_float` give the number and the rest of the text, or `none`
when the text does not start with a number: they then return `false` and leave both the text and
the variable they were to store into untouched. -/
structure Xml (ν : Type) where
  null : ν
  loadFile : String → ν × Bool
  loadString : String → ν × Bool
  selectNodes : ν → String → Option (List ν)
  value : ν → String
  firstAttribute : ν → String → Option String
  parseInt : String → Option (Word × String)
  parseFloat : String → Option (Word × String)
  parseComma : String → String

/-- `Dictionary::Query`: the key of a cached answer. -/
structure DictQuery where
  document : Nat
  node : Nat
  name : String
  type : TypeDesc
  deriving DecidableEq, Repr

/-- `Dictionary::QueryResult`: a node id or a data offset, and whether the query found
anything. -/
structure QueryResult where
  valueoffset : Nat
  isValid : Bool
  deriving DecidableEq, Repr

/-- `Dictionary::Node`: a node a query found, its document, and the next node the same query
found (`0` for none). -/
structure DictNode (ν : Type) where
  document : Nat
  node : ν
  next : Nat

/-- A number `dict_value` decoded into its local `v`: `some w` when `parse_int` or `parse_float`
stored `w` there, `none` for the indeterminate value of `v` when the parse failed and left it
unassigned. -/
abbrev Decoded := Option Word

/-- The state of a `Dictionary`. -/
structure Dictionary (ν : Type) where
  documents : List ν
  documentMap : String → Option Int
  cache : DictQuery → Option QueryResult
  nodes : List (DictNode ν)
  floatdata : List Decoded
  intdata : List Decoded
  stringdata : List String

/-- What `dict_value` writes to its `data` argument. -/
inductive DictValueData where
  | nothing
  | words (vs : List Decoded)
  | ustring (s : String)
  | ustringhash (s : String)
  deriving DecidableEq, Repr

/-- One call of a shader on the dictionary. -/
inductive DictCall where
  | find (dictionaryname query : String)
  | findNode (nodeID : Int) (query : String)
  | next (nodeID : Int)
  | value (nodeID : Int) (attribname : String) (type : TypeDesc) (treatUstringsAsHash : Bool)
  deriving DecidableEq, Repr

namespace Dictionary

variable {ν : Type} (xml : Xml ν)

/-- The constructor: no documents, an empty cache, and the placeholder node `0`. -/
def create : Dictionary ν where
  documents := []
  documentMap := fun _ => none
  cache := fun _ => none
  nodes := [⟨0, xml.null, 0⟩]
  floatdata := []
  intdata := []
  stringdata := []

/-- `Dictionary::get_document_index`: the index of a document read before, or `-1` if it failed
to parse; otherwise the document is read (from the file when the name ends in `.xml`, from the
name itself otherwise) and appended, and its index, or `-1` if it failed to parse, is recorded. -/
def getDocumentIndex (d : Dictionary ν) (dictionaryname : String) : Int × Dictionary ν :=
  match d.documentMap dictionaryname with
  | some dindex => (dindex, d)
  | none =>
    let dindex := d.documents.length
    let doc := if dictionaryname.endsWith ".xml" then xml.loadFile dictionaryname
      else xml.loadString dictionaryname
    let d := { d with documentMap := Function.update d.documentMap dictionaryname (some dindex),
                      documents := d.documents ++ [doc.1] }
    if doc.2 then (dindex, d)
    else (-1, { d with documentMap := Function.update d.documentMap dictionaryname (some (-1)) })

/-- The loop over the matches of a query `q`: each becomes a new node of `document`; the first
is cached as `q`'s result, and each later one becomes the `next` of the one before. -/
def addMatches (document : Nat) (q : DictQuery) : List ν → Int → Dictionary ν → Dictionary ν
  | [], _, d => d
  | m :: ms, last, d =>
    let d := { d with nodes := d.nodes ++ [({ document, node := m, next := 0 } : DictNode ν)] }
    let nodeid : Nat := d.nodes.length - 1
    let d := if last < 0 then { d with cache := Function.update d.cache q (some ⟨nodeid, true⟩) }
      else { d with nodes := d.nodes.modify (fun n => { n with next := nodeid }) last.toNat }
    addMatches document q ms nodeid d

/-- The part both `dict_find`s share: the cached result of `q`; otherwise the nodes
`select_nodes` finds from `context`. A query that throws gives `0` and caches nothing; no match
caches an invalid result `0`; matches become nodes, and the first one's id is the result. -/
def findFrom (d : Dictionary ν) (q : DictQuery) (context : ν) : Int × Dictionary ν :=
  match d.cache q with
  | some r => (r.valueoffset, d)
  | none =>
    match xml.selectNodes context q.name with
    | none => (0, d)
    | some [] => (0, { d with cache := Function.update d.cache q (some ⟨0, false⟩) })
    | some ms => (d.nodes.length, addMatches q.document q ms (-1) d)

/-- `Dictionary::dict_find(dictionaryname, query)`: a query from the root of a document;
`-1` when the document fails to parse. -/
def dictFind (d : Dictionary ν) (dictionaryname query : String) : Int × Dictionary ν :=
  let r := getDocumentIndex xml d dictionaryname
  if r.1 < 0 then r
  else findFrom xml r.2 ⟨r.1.toNat, 0, query, TypeDesc.TypeUnknown⟩
    (r.2.documents.getD r.1.toNat xml.null)

/-- `Dictionary::dict_find(nodeID, query)`: a query from a node found before; `0` for an
invalid node id. -/
def dictFindNode (d : Dictionary ν) (nodeID : Int) (query : String) : Int × Dictionary ν :=
  if nodeID ≤ 0 ∨ d.nodes.length ≤ nodeID then (0, d)
  else match d.nodes[nodeID.toNat]? with
    | some n => findFrom xml d ⟨n.document, nodeID.toNat, query, TypeDesc.TypeUnknown⟩ n.node
    | none => (0, d)

/-- `Dictionary::dict_next(nodeID)`: the next node of the same query, `0` for none or for an
invalid node id. -/
def dictNext (d : Dictionary ν) (nodeID : Int) : Int :=
  if nodeID ≤ 0 ∨ d.nodes.length ≤ nodeID then 0
  else match d.nodes[nodeID.toNat]? with
    | some n => n.next
    | none => 0

/-- The data a string value writes: the `ustring` or its hash. -/
def stringData (treatUstringsAsHash : Bool) (s : String) : DictValueData :=
  if treatUstringsAsHash then .ustringhash s else .ustring s

/-- `n` values decoded from a text: each parsed into the loop's local `v`, then a comma skipped.
`v` is declared without a value in every iteration, so a failed parse, which leaves the text as
it was, gives the indeterminate value `none`. -/
def parseValues (parse : String → Option (Word × String)) (comma : String → String) :
    Nat → String → List Decoded
  | 0, _ => []
  | n + 1, s =>
    match parse s with
    | some (w, rest) => some w :: parseValues parse comma n (comma rest)
    | none => none :: parseValues parse comma n (comma s)

/-- The text `dict_value` decodes: the node's value for an empty name, otherwise the value of
its first attribute of that name. -/
def nodeValue (n : ν) (attribname : String) : Option String :=
  if attribname.isEmpty then some (xml.value n) else xml.firstAttribute n attribname

/-- What a cached value reads back from `offset`: one string, or `numelements * aggregate`
ints or floats, from the data of the type's base type; `0` for another base type. -/
def cachedValue (d : Dictionary ν) (type : TypeDesc) (treatUstringsAsHash : Bool) (offset : Nat) :
    Int × DictValueData :=
  let n := type.numelements * type.aggregate.toNat
  if type.basetype = .string then
    (1, stringData treatUstringsAsHash (d.stringdata.getD offset ""))
  else if type.basetype = .int then (1, .words ((d.intdata.drop offset).take n))
  else if type.basetype = .float then (1, .words ((d.floatdata.drop offset).take n))
  else (0, .nothing)

/-- The decoding of the text `val` of a query `q` not in the cache: one string, or
`numelements * aggregate` ints or floats, appended to the data of `q`'s base type, whose offset
is cached under `q`; `0` for any other type. -/
def decodeValue (d : Dictionary ν) (q : DictQuery) (treatUstringsAsHash : Bool) (val : String) :
    Int × Dictionary ν × DictValueData :=
  let n := q.type.numelements * q.type.aggregate.toNat
  if q.type.basetype = .string ∧ n = 1 then
    (1, { d with stringdata := d.stringdata ++ [val],
                 cache := Function.update d.cache q (some ⟨d.stringdata.length, true⟩) },
      stringData treatUstringsAsHash val)
  else if q.type.basetype = .int then
    let vs := parseValues xml.parseInt xml.parseComma n val
    (1, { d with intdata := d.intdata ++ vs,
                 cache := Function.update d.cache q (some ⟨d.intdata.length, true⟩) },
      .words vs)
  else if q.type.basetype = .float then
    let vs := parseValues xml.parseFloat xml.parseComma n val
    (1, { d with floatdata := d.floatdata ++ vs,
                 cache := Function.update d.cache q (some ⟨d.floatdata.length, true⟩) },
      .words vs)
  else (0, d, .nothing)

/-- `Dictionary::dict_value(nodeID, attribname, type, data, treat_ustrings_as_hash)`: the
result (`1` when found), the dictionary, and what is written to `data`. A cached answer is read
back from the data of its base type; otherwise the node's value (for an empty name) or its
attribute is decoded and cached. -/
def dictValue (d : Dictionary ν) (nodeID : Int) (attribname : String) (type : TypeDesc)
    (treatUstringsAsHash : Bool) : Int × Dictionary ν × DictValueData :=
  if nodeID ≤ 0 ∨ d.nodes.length ≤ nodeID then (0, d, .nothing)
  else match d.nodes[nodeID.toNat]? with
  | none => (0, d, .nothing)
  | some node =>
    let q : DictQuery := ⟨node.document, nodeID.toNat, attribname, type⟩
    match d.cache q with
    | some r =>
      let a := cachedValue d type treatUstringsAsHash r.valueoffset
      (a.1, d, a.2)
    | none =>
      match nodeValue xml node.node attribname with
      | none => (0, d, .nothing)
      | some val => decodeValue xml d q treatUstringsAsHash val

/-- One call: its result, what it writes to `data`, and the dictionary after it. -/
def apply (d : Dictionary ν) : DictCall → (Int × DictValueData) × Dictionary ν
  | .find dictionaryname query =>
    let r := dictFind xml d dictionaryname query
    ((r.1, .nothing), r.2)
  | .findNode nodeID query =>
    let r := dictFindNode xml d nodeID query
    ((r.1, .nothing), r.2)
  | .next nodeID => ((dictNext d nodeID, .nothing), d)
  | .value nodeID attribname type asHash =>
    let r := dictValue xml d nodeID attribname type asHash
    ((r.1, r.2.2), r.2.1)

/-- The dictionary after a sequence of calls. -/
def run (d : Dictionary ν) (calls : List DictCall) : Dictionary ν :=
  calls.foldl (fun d c => (apply xml d c).2) d

end Dictionary

end OslExec
