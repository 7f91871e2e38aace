import OslExec.Bounds
import OslExec.Closure

/-!
# The query generators: attributes, texture information and messages

`llvm_gen_getattribute`, `llvm_gen_gettextureinfo`, `llvm_gen_getmessage` and
`llvm_gen_setmessage` each emit one call of a renderer or runtime function; what they decide is
which of their arguments plays which part, and what the call is passed. `getattribute` has eight
flavours (an optional object name before the attribute name, an optional array index before the
destination) and tells them apart from the argument count and the types of two arguments only.
Here that reading is shown to recover every layout the front end writes, wherever the op's
arguments sit in the instance's argument list.

## Key results

- `getattributeArgs_layout`: each of the eight layouts is read back as written
- `llvmGenGetattribute_fallback`: the `osl_get_attribute` call of a laid-out query
-/

namespace OslExec

/-- A value a query generator passes to the function it calls. -/
inductive QueryArg where
  /-- `sg_void_ptr()` -/
  | sg
  /-- `shadeindex()` -/
  | shadeIndex
  /-- `ll.constant_bool(b)` -/
  | bool (b : Bool)
  /-- `ll.constant(i)` of an int -/
  | int (i : ℤ)
  /-- `ll.constant(t)` of a `TypeDesc` -/
  | type (t : TypeDesc)
  /-- `ll.constant((int)t.basetype)` -/
  | basetype (b : BaseType)
  /-- `llvm_load_value(x)` -/
  | load (x : Nat)
  /-- the hash of the empty `ustring` -/
  | emptyName
  /-- `llvm_const_hash(s)` -/
  | hash (s : String)
  /-- `llvm_void_ptr(x)` -/
  | ptr (x : Nat)
  /-- `append_constant_arg` of the renderer's constant `c`, outside the repository's files -/
  | constant (c : Nat)
  /-- `ll.constant_ptr(texture_handle)`: the renderer's handle, if it gave one -/
  | handle (h : Option Nat)
  /-- `ll.void_ptr_null()` -/
  | null
  deriving DecidableEq, Repr

/-- A call a query generator emits: the function, its arguments, and whether the stored result
is its `bool` converted to an int. -/
structure QueryCall where
  fn : String
  args : List QueryArg
  boolResult : Bool := false
  deriving DecidableEq, Repr

/-! ### `getattribute` -/

/-- What `llvm_gen_getattribute` reads off its arguments. `ObjectName` and `Index` are read
whatever the flavour: without an object or an index they are the result. -/
structure AttributeArgs where
  arrayLookup : Bool
  objectLookup : Bool
  Result : Nat
  ObjectName : Nat
  Attribute : Nat
  Index : Nat
  Destination : Nat
  deriving DecidableEq, Repr

section Getattribute

variable (tab : Nat → Symbol) (ints : Nat → ℤ) (strs : Nat → String)

/-- The flavour tests and the slots of `llvm_gen_getattribute`: an index is there if the
argument before the destination is an int, an object if the third argument is a string and there
are at least four arguments. -/
def getattributeArgs (op : Opcode) (args : List Nat) : AttributeArgs :=
  let nargs := op.nargs
  let arrayLookup := (tab (op.argSym args (nargs - 2))).typespec.isInt
  let objectLookup := (tab (op.argSym args 2)).typespec.isString && decide (4 ≤ nargs)
  let objectSlot := if objectLookup then 1 else 0
  let indexSlot := if arrayLookup then nargs - 2 else 0
  { arrayLookup, objectLookup
    Result := op.argSym args 0
    ObjectName := op.argSym args objectSlot
    Attribute := op.argSym args (objectSlot + 1)
    Index := op.argSym args indexSlot
    Destination := op.argSym args (nargs - 1) }

/-- `AttributeSpecBuiltinArg`: a value the renderer's getter asks to be passed. -/
inductive AttributeSpecBuiltinArg where
  | opaqueExecutionContext
  | shadeIndex
  | derivatives
  | type
  | arrayIndex
  | isArrayLookup
  | objectName
  | attributeName
  deriving DecidableEq, Repr

/-- An argument of the renderer's getter: a builtin value or one of its constants. -/
inductive AttributeSpecArg where
  | builtin (b : AttributeSpecBuiltinArg)
  | constant (c : Nat)
  deriving DecidableEq, Repr

/-- `AttributeGetterSpec`: the function the renderer chose (empty for none) and its arguments. -/
structure AttributeGetterSpec where
  functionName : String
  args : List AttributeSpecArg
  deriving DecidableEq, Repr

/-- What `build_attribute_getter` is told: the flavour, the names and the index when they are
constants, the destination's type and whether it has derivatives. -/
structure AttributeGetterQuery where
  objectLookup : Bool
  objectName : Option String
  attributeName : Option String
  arrayLookup : Bool
  arrayIndex : Option ℤ
  destType : TypeDesc
  derivs : Bool
  deriving DecidableEq, Repr

/-- The value the generator passes for an argument of the renderer's getter. -/
def attributeSpecArg (a : AttributeArgs) : AttributeSpecArg → QueryArg
  | .builtin .opaqueExecutionContext => .sg
  | .builtin .shadeIndex => .shadeIndex
  | .builtin .derivatives => .bool (tab a.Destination).hasDerivs
  | .builtin .type => .type (tab a.Destination).typespec.simpletype
  | .builtin .arrayIndex => if a.arrayLookup then .load a.Index else .int 0
  | .builtin .isArrayLookup => .bool a.arrayLookup
  | .builtin .objectName => if a.objectLookup then .load a.ObjectName else .emptyName
  | .builtin .attributeName => .load a.Attribute
  | .constant c => .constant c

/-- `llvm_gen_getattribute`. With a renderer that `supports("build_attribute_getter")` (`getter`
its builder) the renderer's function is called with the values it asks for and the
destination, and its `bool` stored as an int; `none` where the renderer chose no function and
`0` is stored. Otherwise `osl_get_attribute` is called. -/
def llvmGenGetattribute (getter : Option (AttributeGetterQuery → AttributeGetterSpec))
    (op : Opcode) (args : List Nat) : Option QueryCall :=
  let a := getattributeArgs tab op args
  let Dest := tab a.Destination
  match getter with
  | some build =>
    let spec := build
      { objectLookup := a.objectLookup
        objectName := if a.objectLookup && (tab a.ObjectName).isConstant then
          some (strs a.ObjectName) else none
        attributeName := if (tab a.Attribute).isConstant then some (strs a.Attribute) else none
        arrayLookup := a.arrayLookup
        arrayIndex := if a.arrayLookup && (tab a.Index).isConstant then some (ints a.Index)
          else none
        destType := Dest.typespec.simpletype
        derivs := Dest.hasDerivs }
    if spec.functionName = "" then none
    else some { fn := spec.functionName
                args := spec.args.map (attributeSpecArg tab a) ++ [.ptr a.Destination]
                boolResult := true }
  | none =>
    some { fn := "osl_get_attribute"
           args := [.sg, .int (if Dest.hasDerivs then 1 else 0),
             if a.objectLookup then .load a.ObjectName else .emptyName, .load a.Attribute,
             .int (if a.arrayLookup then 1 else 0), .load a.Index,
             .type Dest.typespec.simpletype, .ptr a.Destination] }

end Getattribute

/-- A `getattribute` query as the front end writes it: an optional object name, the attribute
name, an optional array index and the destination. -/
structure AttributeQuery where
  object : Option Nat
  attr : Nat
  index : Option Nat
  destination : Nat
  deriving DecidableEq, Repr

/-- The op's arguments for a query with result `R`, in the front end's order. -/
def AttributeQuery.layout (q : AttributeQuery) (R : Nat) : List Nat :=
  R :: (q.object.toList ++ q.attr :: (q.index.toList ++ [q.destination]))

section Layout

variable {tab : Nat → Symbol}

/-- An argument of an op whose arguments are `L`, found at `firstarg` in the instance's list. -/
theorem argSym_of_layout {pre L post : List Nat} {op : Opcode} (hfirst : op.firstarg = pre.length)
    {k : Nat} (hk : k < L.length) : op.argSym (pre ++ L ++ post) k = L.getD k 0 := by
  simp only [Opcode.argSym, hfirst, List.getD_eq_getElem?_getD, List.append_assoc,
    List.getElem?_append_right (Nat.le_add_right _ _), Nat.add_sub_cancel_left,
    List.getElem?_append_left hk]

/-- A string is not an int. -/
theorem isInt_of_isString {t : TypeSpec} (h : t.isString = true) : t.isInt = false := by
  simp only [TypeSpec.isString, Bool.and_eq_true, beq_iff_eq] at h
  simp [TypeSpec.isInt, h.2, TypeDesc.TypeString, TypeDesc.TypeInt]

/-- An int is not a string. -/
theorem isString_of_isInt {t : TypeSpec} (h : t.isInt = true) : t.isString = false := by
  simp only [TypeSpec.isInt, Bool.and_eq_true, decide_eq_true_eq] at h
  simp [TypeSpec.isString, h.2, TypeDesc.TypeString, TypeDesc.TypeInt]

/-- The generator reads back each of the eight layouts the front end writes, wherever the op's
arguments sit in the instance's argument list: the object and the index are recognised exactly
when they are there, every symbol is the one written, and without an object or an index the
generator's `ObjectName` or `Index` is the result. -/
theorem getattributeArgs_layout (q : AttributeQuery) (R : Nat) (pre post : List Nat) (op : Opcode)
    (hfirst : op.firstarg = pre.length) (hn : op.nargs = (q.layout R).length)
    (hA : (tab q.attr).typespec.isString = true)
    (hO : ∀ o ∈ q.object, (tab o).typespec.isString = true)
    (hI : ∀ i ∈ q.index, (tab i).typespec.isInt = true) :
    getattributeArgs tab op (pre ++ q.layout R ++ post) =
      { arrayLookup := q.index.isSome, objectLookup := q.object.isSome, Result := R,
        ObjectName := q.object.getD R, Attribute := q.attr, Index := q.index.getD R,
        Destination := q.destination } := by
  have hget := fun k (hk : k < (q.layout R).length) => @argSym_of_layout pre _ post op hfirst k hk
  generalize pre ++ q.layout R ++ post = args at hget
  obtain ⟨o, A, i, D⟩ := q
  simp only at hA hO hI
  cases o with
  | none =>
    cases i with
    | none =>
      simp [AttributeQuery.layout] at hn hget
      simp [getattributeArgs, hn, hget, isInt_of_isString hA]
    | some i =>
      simp [AttributeQuery.layout] at hn hget hI
      simp [getattributeArgs, hn, hget, hI, isString_of_isInt hI]
  | some o =>
    cases i with
    | none =>
      simp [AttributeQuery.layout] at hn hget hO
      simp [getattributeArgs, hn, hget, hA, isInt_of_isString hA]
    | some i =>
      simp [AttributeQuery.layout] at hn hget hO hI
      simp [getattributeArgs, hn, hget, hA, hI]

/-- Without a renderer getter, each of the eight layouts calls `osl_get_attribute` with the
destination's derivative flag, the object name (the empty name without one), the attribute name,
the array flag, the index (the result's own value without one, which the flag tells the runtime
to ignore), and the destination's type and address. -/
theorem llvmGenGetattribute_fallback (ints : Nat → ℤ) (strs : Nat → String) (q : AttributeQuery)
    (R : Nat) (pre post : List Nat) (op : Opcode) (hfirst : op.firstarg = pre.length)
    (hn : op.nargs = (q.layout R).length) (hA : (tab q.attr).typespec.isString = true)
    (hO : ∀ o ∈ q.object, (tab o).typespec.isString = true)
    (hI : ∀ i ∈ q.index, (tab i).typespec.isInt = true) :
    llvmGenGetattribute tab ints strs none op (pre ++ q.layout R ++ post) =
      some { fn := "osl_get_attribute"
             args := [.sg, .int (if (tab q.destination).hasDerivs then 1 else 0),
               (q.object.map .load).getD .emptyName, .load q.attr,
               .int (if q.index.isSome then 1 else 0), .load (q.index.getD R),
               .type (tab q.destination).typespec.simpletype, .ptr q.destination] } := by
  simp only [llvmGenGetattribute, getattributeArgs_layout q R pre post op hfirst hn hA hO hI]
  cases q.object <;> rfl

end Layout

/-- The symbols of `getattribute (obj, attr, i, dest)`: an int result, constant string names, an
int index and a float destination with derivatives. -/
def attributeTab : Nat → Symbol
  | 1 => { name := "obj", typespec := { simpletype := TypeDesc.TypeString }, symtype := .const }
  | 2 => { name := "attr", typespec := { simpletype := TypeDesc.TypeString }, symtype := .const }
  | 3 => { name := "i", typespec := { simpletype := TypeDesc.TypeInt }, symtype := .local }
  | 4 => { name := "dest", typespec := { simpletype := TypeDesc.TypeFloat }, symtype := .local,
           hasDerivs := true }
  | _ => { name := "R", typespec := { simpletype := TypeDesc.TypeInt }, symtype := .local }

/-- The flavour with an object and an index, its arguments between two others of the instance's
list. -/
theorem llvmGenGetattribute_fallback_object_index :
    let q : AttributeQuery := { object := some 1, attr := 2, index := some 3, destination := 4 }
    let op : Opcode := { opname := "getattribute", firstarg := 1, nargs := 5 }
    op.firstarg = [7].length ∧ op.nargs = (q.layout 0).length ∧
      (attributeTab q.attr).typespec.isString = true ∧
      (∀ o ∈ q.object, (attributeTab o).typespec.isString = true) ∧
      (∀ i ∈ q.index, (attributeTab i).typespec.isInt = true) ∧
      llvmGenGetattribute attributeTab (fun _ => 0) (fun _ => "") none op ([7] ++ q.layout 0 ++ [8]) =
        some { fn := "osl_get_attribute"
               args := [.sg, .int (if (attributeTab q.destination).hasDerivs then 1 else 0),
                 (q.object.map .load).getD .emptyName, .load q.attr,
                 .int (if q.index.isSome then 1 else 0), .load (q.index.getD 0),
                 .type (attributeTab q.destination).typespec.simpletype, .ptr q.destination] } :=
  ⟨rfl, rfl, by decide, by decide, by decide,
    llvmGenGetattribute_fallback _ _ _ _ _ _ _ rfl rfl (by decide) (by decide) (by decide)⟩

/-! ### `gettextureinfo` and the messages -/

section Calls

variable (tab : Nat → Symbol) (strs : Nat → String)

/-- What `llvm_gen_gettextureinfo` emits: the call, whether the data's derivatives are zeroed
after it, and whether the texture call counts as one with a handle
(`generated_texture_call`). -/
structure TextureinfoCode where
  call : QueryCall
  zeroDataDerivs : Bool
  withHandle : Bool
  deriving DecidableEq, Repr

/-- `llvm_gen_gettextureinfo`: six arguments carry the coordinates `s, t` after the file name.
A constant file name gets the renderer's texture handle (`getHandle`, outside the repository's
files) when the shading system's `opt_texture_handle` is set. -/
def llvmGenGettextureinfo (optTextureHandle : Bool) (getHandle : String → Option Nat)
    (op : Opcode) (args : List Nat) : TextureinfoCode :=
  let useCoords := op.nargs = 6
  let Filename := op.argSym args 1
  let Dataname := op.argSym args (if useCoords then 4 else 2)
  let Data := op.argSym args (if useCoords then 5 else 3)
  let handle := if (tab Filename).isConstant && optTextureHandle then getHandle (strs Filename)
    else none
  let t := (tab Data).typespec.simpletype
  { call :=
      { fn := if useCoords then "osl_get_textureinfo_st" else "osl_get_textureinfo"
        args := [.sg, .load Filename, .handle handle] ++
          (if useCoords then [.load (op.argSym args 2), .load (op.argSym args 3)] else []) ++
          [.load Dataname, .basetype t.basetype, .int t.arraylen, .int t.aggregate.toNat,
            .ptr Data, .null] }
    zeroDataDerivs := (tab Data).hasDerivs
    withHandle := handle.isSome }

/-- The type a message call is passed for its data: the data's type, or for closures the
"secret handshake" of an unknown base type with the closure array's length. -/
def messageDataType (Data : Nat) : TypeDesc :=
  if (tab Data).typespec.isClosureBased then
    { basetype := .unknown, arraylen := (tab Data).typespec.arraylength }
  else (tab Data).typespec.simpletype

/-- `llvm_gen_getmessage`: four arguments carry a source before the name. A constant source
`"trace"` reads the message of the last trace (`osl_trace_get`); every other call is
`osl_getmessage`, passed the source (the empty name without one), the instance's id and the op's
source location. -/
def llvmGenGetmessage (instId : ℤ) (op : Opcode) (args : List Nat) : QueryCall :=
  let hasSource := op.nargs = 4
  let Source := op.argSym args 1
  let Name := op.argSym args (if hasSource then 2 else 1)
  let Data := op.argSym args (if hasSource then 3 else 2)
  let derivs : QueryArg := .int (if (tab Data).hasDerivs then 1 else 0)
  if hasSource ∧ (tab Source).isConstant ∧ strs Source = "trace" then
    { fn := "osl_trace_get"
      args := [.sg, .load Name, .type (messageDataType tab Data), .ptr Data, derivs] }
  else
    { fn := "osl_getmessage"
      args := [.sg, if hasSource then .load Source else .emptyName, .load Name,
        .type (messageDataType tab Data), .ptr Data, derivs, .int instId, .hash op.sourcefile,
        .int op.sourceline] }

/-- `llvm_gen_setmessage`: the name, the data with its type, the instance's id and the op's
source location. -/
def llvmGenSetmessage (instId : ℤ) (op : Opcode) (args : List Nat) : QueryCall :=
  let Name := op.argSym args 0
  let Data := op.argSym args 1
  { fn := "osl_setmessage"
    args := [.sg, .load Name, .type (messageDataType tab Data), .ptr Data, .int instId,
      .hash op.sourcefile, .int op.sourceline] }

end Calls

end OslExec
