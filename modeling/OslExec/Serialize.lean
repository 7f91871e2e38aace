import OslExec.Group
import OslExec.Unsized

/-!
# Serialization of a shader group

`ShaderGroup::serialize` writes, layer by layer, a `param` line for every parameter that has an
instance value, a `shader` line, and a `connect` line for every connection of the layer. A layer
that has not been specialized is read through its overrides and its master's symbols, where an
indefinite-length array takes the override's length and offset; a specialized layer is read
through its own symbols.

The text joins names and printed values with blanks and dots and quotes nothing but string
values. A `connect` line names the source as `layer.param`, so a layer name or a parameter name
with a dot in it (structure fields are parameters named `struct.field`) can make two different
connections print alike. And the two ways of reading a layer disagree where
`copy_code_from_master` drops an override's length of `0`.

## Key results

- `serialize_changes_with_specialization`: specializing a layer changes the type its `param` line
  prints
- `serialize_dotted_names_collide`: two groups with different connections serialize to the same
  text
-/

namespace OslExec

/-- Modelled from the spec: how the output stream (C locale, nine digits) prints what
`serialize` writes: a type (`TypeDesc`'s `operator<<`), an int and a float held in a pool word,
and `Strutil::escape_chars` of a string; their code is outside the repository's files. -/
structure Printer where
  typeName : TypeDesc → String
  int : Word → String
  float : Word → String
  escape : Word → String

namespace ShaderGroup

open ShaderInstance

/-- The values of a `param` line: each word after a blank, a string between double quotes;
`none` for a base type without a pool (`OSL_ASSERT_MSG(0, "unknown type for serialization:
...")`). -/
def valueText (pr : Printer) (t : BaseType) (vals : List Word) : Option String :=
  match t with
  | .int => some (String.join (vals.map fun v => " " ++ pr.int v))
  | .float => some (String.join (vals.map fun v => " " ++ pr.float v))
  | .string => some (String.join (vals.map fun v => " \"" ++ pr.escape v ++ "\""))
  | _ => none

/-- The `param` line `serialize` writes for slot `p` of layer `inst`, empty unless the slot is a
parameter with an instance value. Before specialization the value source and the hints are the
override's, and an indefinite-length array takes the override's length and offset. The values
are the type's base values from the pool at that offset; words past the end of the pool, which
the code would read, are not modelled. -/
def paramLine (pr : Printer) (inst : ShaderInstance) (p : Nat) : Option String :=
  let dstsymsExist := !inst.instsymbols.isEmpty
  let s := if dstsymsExist then inst.symbol p else inst.mastersymbol p
  let so := inst.override p
  if s.symtype ≠ .param ∧ s.symtype ≠ .outputParam then some "" else
  let vs := if dstsymsExist then s.valuesource else so.valuesource
  if vs ≠ .instanceVal then some "" else
  let fromOverride := s.typespec.simpletype.isUnsizedArray && !dstsymsExist
  let type := if fromOverride then { s.typespec.simpletype with arraylen := so.arraylen }
    else s.typespec.simpletype
  let offset := if fromOverride then so.dataoffset else s.dataoffset
  let vals := match type.basetype.pool with
    | some k => readWords (inst.pool k) offset type.basevalues
    | none => []
  let interpolated := if dstsymsExist then s.interpolated else so.interpolated
  let interactive := if dstsymsExist then s.interactive else so.interactive
  (valueText pr type.basetype vals).map fun v =>
    "param " ++ pr.typeName type ++ " " ++ s.name ++ v ++
      (if interpolated then " [[int interpolated=1]]" else "") ++
      (if interactive then " [[int interactive=1]]" else "") ++ " ;\n"

/-- The `connect` line of connection `con` of layer `inst`: the source layer's name and the
source parameter's, then the layer's and the destination parameter's, each pair joined by a dot.
`none` when an assertion fails: a negative layer or parameter index, a source layer the group
does not have, or a connection of one array element or channel. -/
def connectLine (g : ShaderGroup) (inst : ShaderInstance) (con : Connection) : Option String :=
  if con.srclayer < 0 ∨ con.src.param < 0 ∨ con.dst.param < 0 ∨ con.src.arrayindex ≠ -1 ∨
      con.src.channel ≠ -1 ∨ con.dst.arrayindex ≠ -1 ∨ con.dst.channel ≠ -1 then none
  else (g.layers[con.srclayer.toNat]?).map fun src =>
    let srcparam := if src.instsymbols.isEmpty then src.mastersymbol con.src.param.toNat
      else src.symbol con.src.param.toNat
    let dstparam := if inst.instsymbols.isEmpty then inst.mastersymbol con.dst.param.toNat
      else inst.symbol con.dst.param.toNat
    "connect " ++ src.layername ++ "." ++ srcparam.name ++ " " ++ inst.layername ++ "." ++
      dstparam.name ++ " ;\n"

/-- The text of one layer: its `param` lines, its `shader` line and its `connect` lines. -/
def layerText (pr : Printer) (g : ShaderGroup) (inst : ShaderInstance) : Option String := do
  let params ← (List.range inst.lastparam).mapM (paramLine pr inst)
  let conns ← inst.connections.mapM (connectLine g inst)
  pure (String.join params ++ "shader " ++ inst.master.shadername ++ " " ++ inst.layername ++
    " ;\n" ++ String.join conns)

/-- `ShaderGroup::serialize`: the layers' texts in order; `none` when an assertion fails. -/
def serialize (pr : Printer) (g : ShaderGroup) : Option String :=
  (g.layers.mapM (layerText pr g)).map String.join

/-! ### Specialization changes the text -/

/-- Modelled from the spec: the names `TypeDesc::c_str` gives the types below (the element type,
then `[n]` for an array of `n` elements and `[]` for one of indefinite length); words print as
the numbers they hold. -/
def cPrinter : Printer where
  typeName t :=
    let elem := match t.basetype, t.aggregate, t.vecsemantics with
      | .float, .vec3, .color => "color"
      | .float, .vec3, .point => "point"
      | .float, .vec3, .vector => "vector"
      | .float, .vec3, .normal => "normal"
      | .float, .matrix44, _ => "matrix"
      | .float, .scalar, _ => "float"
      | .int, .scalar, _ => "int"
      | .string, .scalar, _ => "string"
      | _, _, _ => "unknown"
    if t.arraylen > 0 then elem ++ "[" ++ toString t.arraylen ++ "]"
    else if t.arraylen < 0 then elem ++ "[]" else elem
  int w := toString w
  float w := toString w
  escape w := toString w

/-- The relaxed-mode `float[2]` of `color C[]`, serialized before and after its layer is
specialized: the unspecialized layer prints the override's length `0`, a `color`, the
specialized one the symbol's indefinite length, a `color[]`. (Both read the fresh storage the
override points at, which the binding did not fill: `param_storage` copied the value to the
master's offset.) -/
theorem serialize_changes_with_specialization :
    ∃ s', copyCodeFromMaster relaxedSystem
        (parameters relaxedSystem (create rampMaster "a") [(floatPair, {})]).1 = some s' ∧
      serialize cPrinter ⟨"g", [(parameters relaxedSystem (create rampMaster "a")
        [(floatPair, {})]).1], 0⟩ = some "param color C 0 0 ;\nshader ramp a ;\n" ∧
      serialize cPrinter ⟨"g", [s'], 0⟩ = some "param color[] C 0 0 ;\nshader ramp a ;\n" :=
  ⟨_, rfl, by decide, by decide⟩

/-! ### Different groups with the same text -/

/-- A master named `name` whose one parameter is the float `param`. -/
def oneParamMaster (name param : String) : ShaderMaster where
  shadername := name
  symbols := [{ name := param, typespec := { simpletype := TypeDesc.TypeFloat }, symtype := .param }]
  fdefaults := [0]
  firstparam := 0
  lastparam := 1

/-- A layer of `m` named `name`, after `parameters()` with no values. -/
def plainLayer (m : ShaderMaster) (name : String) : ShaderInstance :=
  (parameters (strictSystem false) (create m name) []).1

/-- Parameter `0` of a layer, a float, as a connection names it. -/
def floatParam : ConnectedParam := { param := 0, type := { simpletype := TypeDesc.TypeFloat } }

/-- Layers `a` (whose parameter is the structure field `b.x`), `a.b` (whose parameter is `x`)
and `c`, whose parameter `dst` is connected from parameter `0` of layer `src`. -/
def dottedGroup (src : Int) : ShaderGroup where
  name := "g"
  layers := [plainLayer (oneParamMaster "A" "b.x") "a", plainLayer (oneParamMaster "B" "x") "a.b",
    (plainLayer (oneParamMaster "C" "dst") "c").addConnection src floatParam floatParam]

/-- Connecting `c.dst` from `a`'s `b.x` or from `a.b`'s `x` gives the same text, whatever the
printer: `connect a.b.x c.dst ;`. -/
theorem serialize_dotted_names_collide (pr : Printer) :
    serialize pr (dottedGroup 0) =
        some "shader A a ;\nshader B a.b ;\nshader C c ;\nconnect a.b.x c.dst ;\n" ∧
      serialize pr (dottedGroup 1) =
        some "shader A a ;\nshader B a.b ;\nshader C c ;\nconnect a.b.x c.dst ;\n" ∧
      (dottedGroup 0).layers.map (·.connections) ≠ (dottedGroup 1).layers.map (·.connections) :=
  ⟨rfl, rfl, by decide⟩

end ShaderGroup

end OslExec
