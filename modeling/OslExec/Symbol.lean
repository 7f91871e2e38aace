import OslExec.TypeDesc

/-!
# Symbols, overrides, opcodes and connections

The records the instance code reads and writes:

* `Symbol`, the fields of OSL's `Symbol` that `instance.cpp` and the code generator consult;
* `SymOverrideInfo`, the per-parameter record an instance keeps before it is specialized;
* `Opcode` and `Connection`, compared element-wise by the merge test.

Pool contents are `Word`s: the bit pattern of an `int` or `float`, or the address of an
interned `ustring`. Comparing and copying words is what `memcmp` and `memcpy` do on pools of
one base type.
-/

namespace OslExec

/-- One pool entry: an `int` or `float` bit pattern, or a `ustring` address. -/
abbrev Word := Nat

/-- `SymType`. -/
inductive SymType where
  | param
  | outputParam
  | local
  | temp
  | global
  | const
  | function
  | type
  deriving DecidableEq, Repr

/-- `Symbol::ValueSource`. -/
inductive ValueSource where
  | defaultVal
  | instanceVal
  | geomVal
  | connectedVal
  deriving DecidableEq, Repr

/-- Is a value source `DefaultVal` or `InstanceVal`? -/
def ValueSource.isDefaultOrInstance (v : ValueSource) : Bool :=
  v = .defaultVal || v = .instanceVal

/-- The three parameter pools of an instance (and of its master's defaults). -/
inductive PoolKind where
  | int
  | float
  | string
  deriving DecidableEq, Repr

/-- The pool that holds values of a base type; `param_storage` returns `NULL` for the rest. -/
def BaseType.pool : BaseType → Option PoolKind
  | .int => some .int
  | .float => some .float
  | .string => some .string
  | _ => none

/-- Where a symbol's data pointer points: a master's default-value or constant pool, an
instance's parameter pool (`SymArena::Absolute` into `m_iparams`/`m_fparams`/`m_sparams`),
or nowhere. The pool is the one of the symbol's base type. -/
inductive DataPtr where
  | null
  | masterDefault (offset : Nat)
  | masterConst (offset : Nat)
  | instanceParam (offset : Nat)
  deriving DecidableEq, Repr

/-- The fields of OSL's `Symbol` that the modelled code reads or writes. -/
structure Symbol where
  name : String
  typespec : TypeSpec
  symtype : SymType
  valuesource : ValueSource := .defaultVal
  hasDerivs : Bool := false
  everread : Bool := false
  everwritten : Bool := false
  everusedInGroup : Bool := false
  interpolated : Bool := false
  interactive : Bool := false
  connectedDown : Bool := false
  rendererOutput : Bool := false
  fieldid : Int := -1
  initbegin : Nat := 0
  initend : Nat := 0
  initializers : Nat := 0
  dataoffset : Nat := 0
  dataptr : DataPtr := .null
  deriving DecidableEq, Repr

instance : Inhabited Symbol :=
  ⟨{ name := "", typespec := { simpletype := TypeDesc.TypeInt }, symtype := .temp }⟩

namespace Symbol

/-- `Symbol::everused`: read or written somewhere in the instance's code. -/
def everused (s : Symbol) : Bool := s.everread || s.everwritten

/-- `Symbol::lockgeom`: neither interpolated nor interactive. -/
def lockgeom (s : Symbol) : Bool := !s.interpolated && !s.interactive

/-- `Symbol::connected`: the value comes from an upstream layer. -/
def connected (s : Symbol) : Bool := s.valuesource = .connectedVal

/-- `Symbol::has_init_ops`. -/
def hasInitOps (s : Symbol) : Bool := s.initbegin ≠ s.initend

/-- `Symbol::is_constant`. -/
def isConstant (s : Symbol) : Bool := s.symtype = .const

/-- `Symbol::arraylen(n)`: the symbol's type becomes an array of `n`. -/
def setArraylen (s : Symbol) (n : Int) : Symbol := { s with typespec := s.typespec.makeArray n }

@[simp] theorem setArraylen_name (s : Symbol) (n : Int) : (s.setArraylen n).name = s.name := rfl

@[simp] theorem setArraylen_basetype (s : Symbol) (n : Int) :
    (s.setArraylen n).typespec.simpletype.basetype = s.typespec.simpletype.basetype := rfl

end Symbol

/-- `SymOverrideInfo`: what an unspecialized instance records about one parameter slot. -/
structure SymOverrideInfo where
  valuesource : ValueSource := .defaultVal
  connectedDown : Bool := false
  interpolated : Bool := false
  interactive : Bool := false
  arraylen : Int := 0
  dataoffset : Nat := 0
  deriving DecidableEq, Repr

instance : Inhabited SymOverrideInfo := ⟨{}⟩

namespace SymOverrideInfo

/-- `SymOverrideInfo::lockgeom`. -/
def lockgeom (s : SymOverrideInfo) : Bool := !s.interpolated && !s.interactive

/-- Modelled from the spec: `equivalent(SymOverrideInfo, SymOverrideInfo)` is declared outside
the repository's files. The spec (§4.3 step 3) compares the value source and the array
length; a function of the two records alone sees no stored bytes. -/
def equivalent (a b : SymOverrideInfo) : Bool :=
  a.valuesource = b.valuesource && a.arraylen = b.arraylen

end SymOverrideInfo

/-- An operation of a shader: its name, the range of its arguments in the argument list, up to
four jump targets (`-1` for none) and its source location. -/
structure Opcode where
  opname : String
  firstarg : Nat := 0
  nargs : Nat := 0
  jumps : List Int := []
  sourcefile : String := ""
  sourceline : Nat := 0
  deriving DecidableEq, Repr

namespace Opcode

/-- `Opcode::jump(k)`: the `k`-th jump target, `-1` when there is none. -/
def jump (op : Opcode) (k : Nat) : Int := op.jumps.getD k (-1)

/-- `Opcode::farthest_jump`: the largest jump target, `-1` when there is none. -/
def farthestJump (op : Opcode) : Int := op.jumps.foldl max (-1)

/-- Modelled from the spec: `equivalent(Opcode, Opcode)` is declared outside the repository's
files; the spec compares opcode streams "under the same rule" as symbols. Two opcodes are
equivalent when they agree on everything but their source location. -/
def equivalent (a b : Opcode) : Bool :=
  a.opname = b.opname && a.firstarg = b.firstarg && a.nargs = b.nargs && a.jumps = b.jumps

end Opcode

/-- `ConnectedParam`: one end of a connection. -/
structure ConnectedParam where
  param : Int
  arrayindex : Int := -1
  channel : Int := -1
  type : TypeSpec
  deriving DecidableEq, Repr

/-- `Connection`: an edge from a parameter of layer `srclayer` to a parameter of this layer.
Equality is `Connection::operator==`. -/
structure Connection where
  srclayer : Int
  src : ConnectedParam
  dst : ConnectedParam
  deriving DecidableEq, Repr

end OslExec
