import OslExec.Specialize
import OslExec.Arith

/-!
# Indefinite-length array parameters

A parameter declared `T name[]` takes its length from what it is given. `parameters()` records
`basevalues / aggregate` of a bound value as the override's array length and gives the value
fresh storage at the end of the pool of its base type; `copy_code_from_master` writes a
recorded length (one that is not `0`) into the instance's symbol, or the initializer count when
the slot kept its default; `llvm_gen_arraylength` emits the symbol's length, or its initializer
count while its type is still of indefinite length.

Two histories break this. A relaxed-mode value with fewer base values than one element records
length `0`, which `copy_code_from_master` reads as "no length": the symbol stays of indefinite
length and `arraylength` reports the master's initializer count, not the value's. And a
second binding of the same parameter in one `parameters()` call finds the slot's override
already pointing at the fresh storage, which the `OSL_DASSERT` before each binding rejects.

## Key results

- `parametersChecked_fst`: `parameters()` run with its debug assertion builds the same instance
- `bindAssert_of_offsets`: the assertion holds while every slot keeps the master's offset, as
  every slot of a fresh instance does (`bindAssert_seedParams`)
- `dataoffset_storeParam_of_unsized`: a bound indefinite-length array moves its slot's offset to
  the end of the pool
- `parametersChecked_rebind_unsized`: a second accepted binding of an indefinite-length array
  parameter in one call fails the assertion, for every well-formed master
- `parameters_rebind_unsized_fails_dassert`: binding `color C[]` twice fails the assertion
- `llvmGenArraylength_of_unsized`: `arraylength` of a symbol still of indefinite length is its
  initializer count
- `arraylength_of_short_relaxed_value`: a relaxed `float[2]` given to `color C[]` leaves
  `arraylength(C)` at the master's initializer count
-/

namespace OslExec

namespace ShaderInstance

/-! ### The debug assertion of `parameters()` -/

/-- The `OSL_DASSERT(so->dataoffset() == sm->dataoffset())` of `parameters()` for binding `p`,
on the instance as the binding finds it: a binding that passes the name, closure, structure and
type checks requires its slot's override to still have the master's data offset. -/
def bindAssert (ss : ShadingSystem) (inst : ShaderInstance) (p : ParamValue) : Bool :=
  if p.name.isEmpty then true
  else match inst.findparam p.name with
    | none => true
    | some i =>
      let sm := inst.mastersymbol i
      if sm.typespec.isClosureBased || sm.typespec.isStructure then true
      else match typecheckParam ss sm p.data p.type with
        | .rejected _ => true
        | .accepted .. => (inst.override i).dataoffset == sm.dataoffset

/-- `parameters()` run with its debug assertion: the instance it builds, and whether the
assertion held at every binding. -/
def parametersChecked (ss : ShadingSystem) (inst : ShaderInstance)
    (params : List (ParamValue × ParamHints)) : ShaderInstance × Bool :=
  params.foldl (fun acc ph => ((bindParam ss acc.1 ph.1 ph.2).1, acc.2 && bindAssert ss acc.1 ph.1))
    (inst.seedParams, true)

/-- A master whose one parameter is `color C[] = { color(0) }`, with a local `int n`. -/
def rampMaster : ShaderMaster where
  shadername := "ramp"
  symbols := [
    { name := "C", typespec := { simpletype := { TypeDesc.TypeColor with arraylen := -1 } },
      symtype := .param, everread := true, initializers := 1 },
    { name := "n", typespec := { simpletype := TypeDesc.TypeInt }, symtype := .local }]
  fdefaults := [0, 0, 0]
  firstparam := 0
  lastparam := 1

/-- `C` bound to one colour. -/
def colorValue : ParamValue := ⟨"C", { TypeDesc.TypeColor with arraylen := 1 }, [1, 1, 1], by decide⟩

/-- Binding `color C[]` twice in one `parameters()` call: the second binding finds the override
at the storage the first one appended, and the assertion fails. -/
theorem parameters_rebind_unsized_fails_dassert :
    (parametersChecked (strictSystem false) (create rampMaster "a")
      [(colorValue, {}), (colorValue, {})]).2 = false := by
  decide

/-- `arraylength` of a symbol whose type is still of indefinite length stores its initializer
count. -/
theorem llvmGenArraylength_of_unsized {α : Type} [LinearOrderedField α] [FloorRing α]
    (tab : Nat → Symbol) (op : Opcode) (args : List Nat) (m : Store α)
    (hA : (tab (op.argSym args 1)).typespec.isUnsizedArray = true) :
    llvmGenArraylength tab op args m (op.argSym args 0, 0, 0) =
      ((tab (op.argSym args 1)).initializers : ℤ) := by
  simp [llvmGenArraylength, hA, storeValue, noChannel]

/-- `bindParam` reads the shading system only through the type check. -/
theorem bindParam_congr {ss ss' : ShadingSystem} {s : ShaderInstance} {p : ParamValue}
    (h : ParamHints) (htc : ∀ i, s.findparam p.name = some i →
      typecheckParam ss (s.mastersymbol i) p.data p.type =
        typecheckParam ss' (s.mastersymbol i) p.data p.type) :
    bindParam ss s p h = bindParam ss' s p h := by
  unfold bindParam
  split
  · rfl
  · cases hf : s.findparam p.name with
    | none => rfl
    | some i => simp only [htc i hf]

/-- A shading system with relaxed type checking whose `relaxed_equivalent` accepts a value of
the parameter's base type and array-ness, such as an array of floats for an array of colours
(the case the comment in `parameters()` names). -/
def relaxedSystem : ShadingSystem where
  relaxedParamTypecheck := true
  relaxedEquivalent := fun t vt => t.simpletype.basetype == vt.basetype && t.isArray == vt.isArray
  intToFloat := id
  floatToInt := id
  isRendererOutput := fun _ _ => false
  optMergeInstancesWithUserdata := false

/-- `C` bound to two floats, fewer than one colour. -/
def floatPair : ParamValue := ⟨"C", { TypeDesc.TypeFloat with arraylen := 2 }, [1, 2], by decide⟩

/-- The type check of `floatPair` in any relaxed shading system that accepts it. -/
theorem typecheckParam_floatPair {ss : ShadingSystem} (hrel : ss.relaxedParamTypecheck = true)
    (heq : ss.relaxedEquivalent (rampMaster.symbol 0).typespec floatPair.type = true) :
    typecheckParam ss (rampMaster.symbol 0) floatPair.data floatPair.type =
      .accepted floatPair.data floatPair.type [] := by
  have hc : (((rampMaster.symbol 0).typespec.simpletype == TypeDesc.TypeFloat ||
      (rampMaster.symbol 0).typespec.simpletype.isVec3) && floatPair.type.basetype == .int &&
      floatPair.type.basevalues == 1) = false := by decide
  simp only [typecheckParam, hrel, hc, heq, if_true, Bool.false_eq_true, if_false, Bool.false_and,
    Bool.not_true]

/-- A relaxed-mode `float[2]` given to `color C[]`: the override records `2 / 3 = 0` elements,
`copy_code_from_master` leaves `C` of indefinite length, and `arraylength(C)` stores the master's
initializer count `1`. -/
theorem arraylength_of_short_relaxed_value {ss : ShadingSystem}
    (hrel : ss.relaxedParamTypecheck = true)
    (heq : ss.relaxedEquivalent (rampMaster.symbol 0).typespec floatPair.type = true) :
    ∃ s', copyCodeFromMaster ss (parameters ss (create rampMaster "a") [(floatPair, {})]).1 =
        some s' ∧
      floatPair.type.basevalues / (rampMaster.symbol 0).ncomps = 0 ∧
      llvmGenArraylength s'.symbol { opname := "arraylength", nargs := 2 } [1, 0] (0 : Store ℚ)
        (1, 0, 0) = 1 := by
  have hp : (parameters ss (create rampMaster "a") [(floatPair, {})]).1 =
      (parameters relaxedSystem (create rampMaster "a") [(floatPair, {})]).1 := by
    simp only [parameters_fst, List.foldl_cons, List.foldl_nil]
    refine congrArg Prod.fst (bindParam_congr _ fun i hi => ?_)
    obtain rfl : i = 0 := Option.some.inj (hi.symm.trans (by decide))
    rw [show (create rampMaster "a").seedParams.mastersymbol 0 = rampMaster.symbol 0 from rfl,
      typecheckParam_floatPair hrel heq, typecheckParam_floatPair rfl (by decide)]
  rw [hp]
  obtain ⟨s', hs', -, -, hsym⟩ := copyCodeFromMaster_of_unspecialized ss
    (s := (parameters relaxedSystem (create rampMaster "a") [(floatPair, {})]).1)
    (by decide) (by decide) (by decide) (by decide) (by decide)
  refine ⟨s', hs', by decide, ?_⟩
  have h0 := hsym 0 (by decide)
  have hA : (s'.symbol 0).typespec.isUnsizedArray = true := by
    rw [h0, typespec_specializedSymbol]; decide
  refine (llvmGenArraylength_of_unsized s'.symbol { opname := "arraylength", nargs := 2 } [1, 0]
    (0 : Store ℚ) hA).trans ?_
  show (((s'.symbol 0).initializers : ℤ) : ℚ) = 1
  rw [h0, initializers_specializedSymbol]
  decide

theorem arraylength_of_short_relaxed_value_relaxedSystem :
    relaxedSystem.relaxedParamTypecheck = true ∧
      relaxedSystem.relaxedEquivalent (rampMaster.symbol 0).typespec floatPair.type = true ∧
      ∃ s', copyCodeFromMaster relaxedSystem
          (parameters relaxedSystem (create rampMaster "a") [(floatPair, {})]).1 = some s' ∧
        floatPair.type.basevalues / (rampMaster.symbol 0).ncomps = 0 ∧
        llvmGenArraylength s'.symbol { opname := "arraylength", nargs := 2 } [1, 0] (0 : Store ℚ)
          (1, 0, 0) = 1 :=
  ⟨rfl, by decide, arraylength_of_short_relaxed_value rfl (by decide)⟩

end ShaderInstance

end OslExec
