import OslExec.Lowering
import Mathlib

/-!
# The arithmetic generators of `llvm_gen.cpp`

Every float-based symbol holds, component by component, a value and two derivative channels
(`dx`, `dy`); an int symbol holds values only. `Store` is that storage, one number per
(symbol, channel, component), integers and reals alike in an ordered field with a floor (the
int generators' results are integers of it).

A generator is modelled by what the code it emits does to the store when it runs: the loads,
arithmetic and stores, in the order the generator emits them, each load reading the store as
the earlier stores left it. The symbols an op names are `tab (op.argSym args k)`, so two
arguments naming one symbol share its storage, as they do in the emitted code.

The matrix and closure library calls, the colour and coordinate-space conversions and the
dictionary's XML parsing are outside the repository's files; the matrix calls and the
conversions are parameters, the dictionary's parsed attributes are the parameter `DictData`.
-/

namespace OslExec

/-- A place in the symbols' storage: symbol, channel (`0` the value, `1` and `2` the `dx` and
`dy` derivatives) and component (the components of an array's elements one after the other). -/
abbrev Slot := Nat × Nat × Nat

/-- The contents of the symbols' storage. -/
abbrev Store (α : Type) := Slot → α

/-- `for (int i = 0; i < n; ++i) st = body(st, i)`. -/
def forRange {σ : Type} (n : Nat) (body : σ → Nat → σ) (init : σ) : σ :=
  (List.range n).foldl body init

theorem forRange_succ {σ : Type} (n : Nat) (body : σ → Nat → σ) (init : σ) :
    forRange (n + 1) body init = body (forRange n body init) n := by
  simp [forRange, List.range_succ]

@[simp] theorem forRange_zero {σ : Type} (body : σ → Nat → σ) (init : σ) :
    forRange 0 body init = init := rfl

/-- A property that holds before the loop and is kept by every iteration holds after it. -/
theorem forRange_induct {σ : Type} {n : Nat} {body : σ → Nat → σ} {init : σ}
    (P : Nat → σ → Prop) (h0 : P 0 init) (hs : ∀ i < n, ∀ st, P i st → P (i + 1) (body st i)) :
    P n (forRange n body init) := by
  induction n with
  | zero => exact h0
  | succ n ih =>
    rw [forRange_succ]
    exact hs n (by omega) _ (ih fun i hi => hs i (by omega))

namespace TypeSpec

/-- `TypeSpec::is_matrix`: the type is `TypeMatrix` and not a closure. -/
def isMatrix (t : TypeSpec) : Bool := !t.closure && t.simpletype == TypeDesc.TypeMatrix

/-- `TypeSpec::is_float`: the type is `TypeFloat` and not a closure. -/
def isFloat (t : TypeSpec) : Bool := !t.closure && t.simpletype == TypeDesc.TypeFloat

/-- `TypeSpec::is_triple`: a float triple that is not an array or a closure. -/
def isTriple (t : TypeSpec) : Bool :=
  !t.closure && t.simpletype.basetype = .float && t.simpletype.aggregate = .vec3 &&
    !t.simpletype.isArray

end TypeSpec

/-- `type.aggregate`: the number of components of one element of the symbol's type. -/
def Symbol.ncomps (s : Symbol) : Nat := s.typespec.simpletype.aggregate.toNat

section Access

variable {α : Type} [LinearOrderedField α] [FloorRing α] (tab : Nat → Symbol)

/-- The component a load of component `i` of `x` reads: a scalar has only its first (the
broadcast of a scalar operand into a triple). -/
def compIdx (x i : Nat) : Nat := if (tab x).typespec.simpletype.aggregate = .scalar then 0 else i

/-- Does `x` lack channel `d`? A symbol without derivatives has only its value channel. -/
def noChannel (x d : Nat) : Prop := 0 < d ∧ (tab x).hasDerivs = false

instance (x d : Nat) : Decidable (noChannel tab x d) := inferInstanceAs (Decidable (_ ∧ _))

/-- Modelled from the spec: `BackendLLVM::llvm_load_value` is declared outside the repository's
files. Channel `d` of component `i` of `x`: a derivative channel of a symbol without
derivatives reads as zero, and a scalar is broadcast. -/
def loadValue (m : Store α) (x d i : Nat) : α :=
  if noChannel tab x d then 0 else m (x, d, compIdx tab x i)

/-- Modelled from the spec: `llvm_load_value` with an array index: component `c` of element
`e`. -/
def loadElement (m : Store α) (x d e c : Nat) : α :=
  if noChannel tab x d then 0 else m (x, d, e * (tab x).ncomps + c)

/-- Modelled from the spec: `llvm_load_component_value` with a component number computed at
run time. -/
def loadComponent (m : Store α) (x d : Nat) (c : ℤ) : α :=
  if noChannel tab x d then 0 else m (x, d, c.toNat)

/-- Modelled from the spec: `BackendLLVM::llvm_store_value`; a store into a derivative
channel of a symbol without derivatives does nothing. -/
def storeValue (m : Store α) (x d i : Nat) (v : α) : Store α :=
  if noChannel tab x d then m else Function.update m (x, d, i) v

/-- Modelled from the spec: `BackendLLVM::llvm_zero_derivs`: both derivative channels of every
component of a symbol with derivatives become zero. -/
def zeroDerivs (m : Store α) (x : Nat) : Store α := fun s =>
  if (tab x).hasDerivs ∧ s.1 = x ∧ 0 < s.2.1 ∧ s.2.1 < 3 ∧
      s.2.2 < (tab x).typespec.simpletype.basevalues then 0
  else m s

/-- Modelled from the spec: `rop.is_zero(B)` is declared outside the repository's files; it
holds for a constant all of whose components are zero. -/
def isZero (m : Store α) (x : Nat) : Bool :=
  (tab x).isConstant && (List.range (tab x).ncomps).all fun c => m (x, 0, c) = 0

/-- An int symbol's value. -/
def intValue (m : Store α) (x : Nat) : ℤ := ⌊m (x, 0, 0)⌋

end Access

/-- Modelled from the spec: `osl_range_check` reports an index outside `[0, length)` and
continues with it clamped. -/
def rangeCheck (i len : ℤ) : ℤ := max 0 (min i (len - 1))

section Ops

variable {α : Type} [LinearOrderedField α] [FloorRing α]

/-- C's division of the integers an int symbol holds: truncation toward zero. -/
def intDiv (a b : α) : α := ((⌊a⌋.tdiv ⌊b⌋ : ℤ) : α)

/-- `op_div` of the result's base type: `fdiv` for floats, `sdiv` for ints. -/
def opDiv (isFloat : Bool) (a b : α) : α := if isFloat then a / b else intDiv a b

/-- Modelled from the spec: `osl_safe_div_fff` and `osl_safe_div_iii` divide, and give zero
for a zero divisor. -/
def safeDiv (isFloat : Bool) (a b : α) : α := if b = 0 then 0 else opDiv isFloat a b

end Ops

/-- Modelled from the spec: the matrix library functions `osl_mul_mmm`, `osl_mul_mmf`,
`osl_div_mmm`, `osl_div_mmf` and `osl_div_mfm` (outside the repository's files), each giving
the 16 components of its result from its operands' values. -/
structure MatrixOps (α : Type) where
  mulMM : (Nat → α) → (Nat → α) → Nat → α
  mulMF : (Nat → α) → α → Nat → α
  divMM : (Nat → α) → (Nat → α) → Nat → α
  divMF : (Nat → α) → α → Nat → α
  divFM : α → (Nat → α) → Nat → α

section Generators

variable {α : Type} [LinearOrderedField α] [FloorRing α] (tab : Nat → Symbol)

/-- `llvm_call_function(name, Result, ...)` for a matrix function: the 16 value components of
the result. -/
def callMatrix (m : Store α) (R : Nat) (r : Nat → α) : Store α := fun s =>
  if s.1 = R ∧ s.2.1 = 0 ∧ s.2.2 < 16 then r s.2.2 else m s

/-- The matrix value of `x`. -/
def matrixOf (m : Store α) (x : Nat) : Nat → α := fun k => m (x, 0, k)

/-- The body of `llvm_gen_add` and `llvm_gen_sub` for results that are not closures, with
`f` the operation: the value channel component by component; then, if the result has
derivatives, both derivative channels the same way when an operand has derivatives, and zero
derivatives otherwise. -/
def linearBinary (f : α → α → α) (op : Opcode) (args : List Nat) (m : Store α) : Store α :=
  let R := op.argSym args 0
  let A := op.argSym args 1
  let B := op.argSym args 2
  let n := (tab R).ncomps
  let m := forRange n (fun m i =>
    storeValue tab m R 0 i (f (loadValue tab m A 0 i) (loadValue tab m B 0 i))) m
  if (tab R).hasDerivs then
    if (tab A).hasDerivs || (tab B).hasDerivs then
      forRange 2 (fun m d => forRange n (fun m i =>
        storeValue tab m R (d + 1) i
          (f (loadValue tab m A (d + 1) i) (loadValue tab m B (d + 1) i))) m) m
    else zeroDerivs tab m R
  else m

/-- `llvm_gen_add`. -/
def llvmGenAdd : Opcode → List Nat → Store α → Store α := linearBinary tab (· + ·)

/-- `llvm_gen_sub`. -/
def llvmGenSub : Opcode → List Nat → Store α → Store α := linearBinary tab (· - ·)

/-- `llvm_gen_mul` for results that are not closures. A matrix result is computed by the
matrix library and gets zero derivatives (an operand pairing the front end rejects is an
assertion failure, and leaves the store as it is). Otherwise, component by component: the
product's value, and, if the result and an operand have derivatives, the product rule;
zero derivatives if only the result has them. -/
def llvmGenMul (lib : MatrixOps α) (op : Opcode) (args : List Nat) (m : Store α) : Store α :=
  let R := op.argSym args 0
  let A := op.argSym args 1
  let B := op.argSym args 2
  if (tab R).typespec.isMatrix then
    let m :=
      if (tab A).typespec.isFloat then
        if (tab B).typespec.isMatrix then callMatrix m R (lib.mulMF (matrixOf m B) (m (A, 0, 0)))
        else m
      else if (tab A).typespec.isMatrix then
        if (tab B).typespec.isFloat then
          callMatrix m R (lib.mulMF (matrixOf m A) (m (B, 0, 0)))
        else if (tab B).typespec.isMatrix then
          callMatrix m R (lib.mulMM (matrixOf m A) (matrixOf m B))
        else m
      else m
    zeroDerivs tab m R
  else
    let derivs := (tab A).hasDerivs || (tab B).hasDerivs
    let m := forRange (tab R).ncomps (fun m i =>
      let a := loadValue tab m A 0 i
      let b := loadValue tab m B 0 i
      let m := storeValue tab m R 0 i (a * b)
      if (tab R).hasDerivs && derivs then
        let ax := loadValue tab m A 1 i
        let bx := loadValue tab m B 1 i
        let ay := loadValue tab m A 2 i
        let by' := loadValue tab m B 2 i
        let m := storeValue tab m R 1 i (a * bx + ax * b)
        storeValue tab m R 2 i (a * by' + ay * b)
      else m) m
    if (tab R).hasDerivs && !derivs then zeroDerivs tab m R else m

/-- `llvm_gen_div`. A matrix result as for `llvm_gen_mul`. Otherwise, component by component:
`a / b` (`op_div` when the divisor is a non-zero constant, else the safe division), and, if
the result and an operand have derivatives, `(1/b) * (ax - (a/b) * bx)` and its `y`
analogue, computed before the value is stored. -/
def llvmGenDiv (lib : MatrixOps α) (op : Opcode) (args : List Nat) (m : Store α) : Store α :=
  let R := op.argSym args 0
  let A := op.argSym args 1
  let B := op.argSym args 2
  let isFloat := (tab R).typespec.isFloatBased
  if (tab R).typespec.isMatrix then
    let m :=
      if (tab A).typespec.isFloat then
        if (tab B).typespec.isMatrix then callMatrix m R (lib.divFM (m (A, 0, 0)) (matrixOf m B))
        else m
      else if (tab A).typespec.isMatrix then
        if (tab B).typespec.isFloat then
          callMatrix m R (lib.divMF (matrixOf m A) (m (B, 0, 0)))
        else if (tab B).typespec.isMatrix then
          callMatrix m R (lib.divMM (matrixOf m A) (matrixOf m B))
        else m
      else m
    zeroDerivs tab m R
  else
    let derivs := (tab R).hasDerivs && ((tab A).hasDerivs || (tab B).hasDerivs)
    let direct := (tab B).isConstant && !isZero tab m B
    let m := forRange (tab R).ncomps (fun m i =>
      let a := loadValue tab m A 0 i
      let b := loadValue tab m B 0 i
      let q := if direct then opDiv isFloat a b else safeDiv isFloat a b
      let binv := if direct then opDiv isFloat 1 b else safeDiv isFloat 1 b
      let rx := binv * (loadValue tab m A 1 i - q * loadValue tab m B 1 i)
      let ry := binv * (loadValue tab m A 2 i - q * loadValue tab m B 2 i)
      let m := storeValue tab m R 0 i q
      if derivs then storeValue tab (storeValue tab m R 1 i rx) R 2 i ry else m) m
    if (tab R).hasDerivs && !((tab A).hasDerivs || (tab B).hasDerivs) then zeroDerivs tab m R
    else m

/-- `llvm_gen_neg`: the value channel, then, if the result has derivatives, the two derivative
channels, each component negated. -/
def llvmGenNeg (op : Opcode) (args : List Nat) (m : Store α) : Store α :=
  let R := op.argSym args 0
  let A := op.argSym args 1
  let chan (m : Store α) (d : Nat) : Store α :=
    forRange (tab R).ncomps (fun m i => storeValue tab m R d i (-loadValue tab m A d i)) m
  let m := chan m 0
  if (tab R).hasDerivs then chan (chan m 1) 2 else m

/-- `llvm_gen_clamp`: per component, `x < min` selects `min`, then `val > max` selects `max`;
the derivative channels follow the same selections. All loads come before the stores. -/
def llvmGenClamp (op : Opcode) (args : List Nat) (m : Store α) : Store α :=
  let R := op.argSym args 0
  let X := op.argSym args 1
  let Min := op.argSym args 2
  let Max := op.argSym args 3
  forRange (tab R).ncomps (fun m i =>
    let val := loadValue tab m X 0 i
    let lo := loadValue tab m Min 0 i
    let c1 := decide (val < lo)
    let val := if c1 then lo else val
    let valdx := if c1 then loadValue tab m Min 1 i else loadValue tab m X 1 i
    let valdy := if c1 then loadValue tab m Min 2 i else loadValue tab m X 2 i
    let hi := loadValue tab m Max 0 i
    let c2 := decide (hi < val)
    let val := if c2 then hi else val
    let valdx := if c2 then loadValue tab m Max 1 i else valdx
    let valdy := if c2 then loadValue tab m Max 2 i else valdy
    storeValue tab (storeValue tab (storeValue tab m R 0 i val) R 1 i valdx) R 2 i valdy) m

/-- `llvm_gen_mix`: `a * (1 - x) + b * x` per component. `x` and its derivatives are loaded
once before the loop from component `0` and reloaded (from the store as it then is) for the
later components only when `X` has more than one component. -/
def llvmGenMix (op : Opcode) (args : List Nat) (m : Store α) : Store α :=
  let R := op.argSym args 0
  let A := op.argSym args 1
  let B := op.argSym args 2
  let X := op.argSym args 3
  let xc := (tab X).ncomps
  let derivs := (tab R).hasDerivs && ((tab A).hasDerivs || (tab B).hasDerivs || (tab X).hasDerivs)
  let x0 := loadValue tab m X 0 0
  let xx0 := if derivs then loadValue tab m X 1 0 else 0
  let xy0 := if derivs then loadValue tab m X 2 0 else 0
  let st := forRange (tab R).ncomps (fun (st : Store α × α × α × α) i =>
    let m := st.1
    let a := loadValue tab m A 0 i
    let b := loadValue tab m B 0 i
    let x := if 0 < i ∧ 1 < xc then loadValue tab m X 0 i else st.2.1
    let m := storeValue tab m R 0 i (a * (1 - x) + b * x)
    if derivs then
      let ax := loadValue tab m A 1 i
      let bx := loadValue tab m B 1 i
      let xx := if 0 < i ∧ 1 < xc then loadValue tab m X 1 i else st.2.2.1
      let ay := loadValue tab m A 2 i
      let by' := loadValue tab m B 2 i
      let xy := if 0 < i ∧ 1 < xc then loadValue tab m X 2 i else st.2.2.2
      let m := storeValue tab m R 1 i (ax * (1 - x) - a * xx + b * xx + bx * x)
      (storeValue tab m R 2 i (ay * (1 - x) - a * xy + b * xy + by' * x), x, xx, xy)
    else (m, x, st.2.2.1, st.2.2.2)) (m, x0, xx0, xy0)
  if (tab R).hasDerivs && !derivs then zeroDerivs tab st.1 R else st.1

/-- `llvm_gen_select`: the conditions `X[k] != 0` are computed first; component `i` takes `b`
where its condition (the first one if `X` has fewer components) holds, else `a`; the derivative
channels follow, or are zero if no operand has derivatives. -/
def llvmGenSelect (op : Opcode) (args : List Nat) (m : Store α) : Store α :=
  let R := op.argSym args 0
  let A := op.argSym args 1
  let B := op.argSym args 2
  let X := op.argSym args 3
  let xc := (tab X).ncomps
  let derivs := (tab R).hasDerivs && ((tab A).hasDerivs || (tab B).hasDerivs)
  let cond : Nat → Bool := fun k => decide (loadValue tab m X 0 k ≠ 0)
  let m := forRange (tab R).ncomps (fun m i =>
    let c := if xc ≤ i then cond 0 else cond i
    let m := storeValue tab m R 0 i
      (if c then loadValue tab m B 0 i else loadValue tab m A 0 i)
    if derivs then
      forRange 2 (fun m d => storeValue tab m R (d + 1) i
        (if c then loadValue tab m B (d + 1) i else loadValue tab m A (d + 1) i)) m
    else m) m
  if (tab R).hasDerivs && !derivs then zeroDerivs tab m R else m

/-- `llvm_gen_minmax`: `min` selects `x` when `x <= y`, `max` when `x > y`; the derivative
channels follow the selection. -/
def llvmGenMinmax (op : Opcode) (args : List Nat) (m : Store α) : Store α :=
  let R := op.argSym args 0
  let x := op.argSym args 1
  let y := op.argSym args 2
  forRange (tab R).ncomps (fun m i =>
    let xv := loadValue tab m x 0 i
    let yv := loadValue tab m y 0 i
    let c := if op.opname = "min" then decide (xv ≤ yv) else decide (yv < xv)
    let m := storeValue tab m R 0 i (if c then xv else yv)
    if (tab R).hasDerivs then
      let xdx := loadValue tab m x 1 i
      let xdy := loadValue tab m x 2 i
      let ydx := loadValue tab m y 1 i
      let ydy := loadValue tab m y 2 i
      storeValue tab (storeValue tab m R 1 i (if c then xdx else ydx)) R 2 i
        (if c then xdy else ydy)
    else m) m

/-- `llvm_gen_compref`: component `Index` of `Val`, channel by channel (the derivative channels
only if the result has derivatives). A constant index is clamped to `[0, 2]`; a computed one
is range-checked (clamped after a report) when the shader asks for range checking. -/
def llvmGenCompref (rangeChecking : Bool) (op : Opcode) (args : List Nat) (m : Store α) :
    Store α :=
  let R := op.argSym args 0
  let Val := op.argSym args 1
  let Index := op.argSym args 2
  let i := intValue m Index
  let c := if rangeChecking && !((tab Index).isConstant && 0 ≤ i && i < 3) then rangeCheck i 3
    else i
  let chan (m : Store α) (d : Nat) : Store α :=
    storeValue tab m R d 0
      (if (tab Index).isConstant then loadValue tab m Val d (max 0 (min i 2)).toNat
        else loadComponent tab m Val d c)
  let m := chan m 0
  if (tab R).hasDerivs then chan (chan m 1) 2 else m

/-- `llvm_gen_aref`: element `Index` of the array `Src`, component by component and channel by
channel (the derivative channels only if the result has derivatives); the index is
range-checked when the shader asks for it and it is not a constant in range. -/
def llvmGenAref (rangeChecking : Bool) (op : Opcode) (args : List Nat) (m : Store α) :
    Store α :=
  let R := op.argSym args 0
  let Src := op.argSym args 1
  let Index := op.argSym args 2
  let len := (tab Src).typespec.arraylength
  let e := intValue m Index
  let e := if rangeChecking && !((tab Index).isConstant && 0 ≤ e && e < len) then
    rangeCheck e len else e
  let chan (m : Store α) (d : Nat) : Store α :=
    forRange (tab Src).ncomps (fun m c => storeValue tab m R d c (loadElement tab m Src d e.toNat c)) m
  let m := chan m 0
  if (tab R).hasDerivs then chan (chan m 1) 2 else m

/-- `llvm_gen_arraylength`: the length of the array `A` into the int `Result`; for a type still
of indefinite length, its initializer count. -/
def llvmGenArraylength (op : Opcode) (args : List Nat) (m : Store α) : Store α :=
  let A := tab (op.argSym args 1)
  let len : ℤ := if A.typespec.isUnsizedArray then A.initializers else A.typespec.arraylength
  storeValue tab m (op.argSym args 0) 0 0 len

/-- The first loop of `llvm_gen_construct_color` and `llvm_gen_construct_triple`: the three
float arguments (after the space name, if there is one) into the result's components, the
value channel and, if the result has derivatives, the derivative channels. -/
def constructComponents (op : Opcode) (args : List Nat) (m : Store α) : Store α :=
  let R := op.argSym args 0
  let usingSpace := op.nargs = 5
  forRange (if (tab R).hasDerivs then 3 else 1) (fun m d => forRange 3 (fun m c =>
    storeValue tab m R d c
      (loadValue tab m (op.argSym args (c + 1 + if usingSpace then 1 else 0)) d 0)) m) m

/-- `llvm_gen_construct_color`; with a space name the colour is converted by
`osl_prepend_color_from` (`convert`) and gets zero derivatives. -/
def llvmGenConstructColor (convert : Store α → Store α) (op : Opcode) (args : List Nat)
    (m : Store α) : Store α :=
  let m := constructComponents tab op args m
  if op.nargs = 5 then zeroDerivs tab (convert m) (op.argSym args 0) else m

/-- `llvm_gen_construct_triple`; with a space name the triple is transformed into common space
by `osl_transform_triple` (`transform`), unless the space is a constant naming common space
(`names` gives the string symbols' values, `synonym` the common space's synonym). -/
def llvmGenConstructTriple (names : Nat → String) (synonym : String)
    (transform : Store α → Store α) (op : Opcode) (args : List Nat) (m : Store α) : Store α :=
  let m := constructComponents tab op args m
  let Space := op.argSym args 1
  if op.nargs = 5 then
    if (tab Space).isConstant && (names Space = "common" || names Space = synonym) then m
    else transform m
  else m

end Generators

/-! ### Generators that write values only -/

section ValueOnly

variable {α : Type} [LinearOrderedField α] [FloorRing α] (tab : Nat → Symbol)

/-- The attribute values of the dictionary's nodes, as `Dictionary::dict_value` parses them
from the XML (outside this model): the numbers of attribute `name` of node `nodeID`, or
`none` if the node has no such attribute. -/
abbrev DictData (α : Type) := ℤ → String → Option (List α)

/-- `Dictionary::dict_value`: for a valid node whose attribute exists, a string is written to
the string's storage (outside this store), and `numelements * aggregate` parsed ints or floats
to the value channel of `x` from component `0`; the result is `1`. An invalid node, a missing
attribute or another type writes nothing and gives `0`. (The query cache returns what the
first parse wrote.) -/
def dictValue (dict : DictData α) (nnodes : Nat) (nodeID : ℤ) (name : String) (t : TypeDesc)
    (x : Nat) (m : Store α) : ℤ × Store α :=
  if nodeID ≤ 0 ∨ nnodes ≤ nodeID then (0, m)
  else match dict nodeID name with
    | none => (0, m)
    | some vals =>
      let n := t.numelements * t.aggregate.toNat
      if t.basetype = .string ∧ n = 1 then (1, m)
      else if t.basetype = .int ∨ t.basetype = .float then
        (1, fun s => if s.1 = x ∧ s.2.1 = 0 ∧ s.2.2 < n then vals.getD s.2.2 0 else m s)
      else (0, m)

/-- `llvm_gen_dict_value`: `osl_dict_value` is called with `Value`'s type and a pointer to
its value; its return value is stored in `Result`. `names` gives the string symbols' values. -/
def llvmGenDictValue (dict : DictData α) (nnodes : Nat) (names : Nat → String) (op : Opcode)
    (args : List Nat) (m : Store α) : Store α :=
  let Result := op.argSym args 0
  let NodeID := op.argSym args 1
  let Name := op.argSym args 2
  let Value := op.argSym args 3
  let (ret, m) := dictValue dict nnodes (intValue m NodeID) (names Name)
    (tab Value).typespec.simpletype Value m
  storeValue tab m Result 0 0 (ret : α)

/-- `llvm_gen_get_simple_SG_field`: the shader-globals field named by the op, loaded and stored
into the result's value. `sg` gives the fields' values. -/
def llvmGenGetSimpleSGField (sg : String → α) (op : Opcode) (args : List Nat) (m : Store α) :
    Store α :=
  storeValue tab m (op.argSym args 0) 0 0 (sg op.opname)

end ValueOnly

end OslExec
