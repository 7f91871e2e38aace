import OslExec.Arith

/-!
# Closure allocation and its null guard

`llvm_gen_closure` calls the runtime to allocate a closure component and fills the component's
parameter memory. It zeroes that memory or calls the closure's `prepare` hook, copies the formal
arguments and then, after the `setup` hook, the keyword arguments (`llvm_gen_keyword_fill`). A
weighted allocation returns null for an all-zero weight. Unless the weight is a constant that
`is_zero` rejects, the generator therefore branches on the pointer around all of that code and
stores the pointer into the result after the branches join.

`ClosureCode` is the part of the code generator this reads and writes: the blocks with their
instructions, the insert point and the diagnostics. `runClosureCode` runs the emitted blocks
given what the allocation returned.

## Key results

- `closureFill_appendsAt`: the fill code only appends at the insert point
- `llvmGenClosure_null_writes_nothing`: when the allocation returns null, no run of the emitted
  code writes the closure's parameter memory
-/

namespace OslExec

namespace TypeSpec

/-- `TypeSpec::is_string`: the type is `TypeString` and not a closure. -/
def isString (t : TypeSpec) : Bool := !t.closure && t.simpletype == TypeDesc.TypeString

/-- `TypeSpec::is_closure_array`: an array of closures. -/
def isClosureArray (t : TypeSpec) : Bool := t.isClosureBased && t.isArray

end TypeSpec

/-- `ClosureParam`: a parameter of a registered closure, where it is stored in the parameter
memory, and its keyword (`NULL` for a formal argument). -/
structure ClosureParam where
  type : TypeDesc
  offset : Nat
  fieldSize : Nat
  key : Option String := none
  deriving DecidableEq, Repr

/-- `ClosureRegistry::ClosureEntry`, with its `params` array split at `nformal`: `formals` are
`params[0, nformal)` and `keywords` are `params[nformal, nformal + nkeyword)`. `prepare` and
`setup` say whether the hooks are set. -/
structure ClosureEntry where
  id : Int
  structSize : Nat
  formals : List ClosureParam
  keywords : List ClosureParam
  prepare : Bool := false
  setup : Bool := false
  deriving DecidableEq, Repr

/-- The diagnostics of `llvm_gen_closure` and `llvm_gen_keyword_fill`. -/
inductive ClosureDiag where
  /-- `"Closure '{}' is not supported by the current renderer, called from {}:{} in shader
  \"{}\", layer {} \"{}\", group \"{}\""` -/
  | notSupported (name : String)
  /-- `"Incompatible formal argument {} to '{}' closure ({} {}, expected {}). Prototypes don't
  match renderer registry ({}:{})."`, for the `carg`-th formal counted from one -/
  | incompatibleFormal (carg : Nat) (name : String)
  /-- `"Unsupported closure keyword arg \"{}\" for {} ({}:{})"` -/
  | unsupportedKeyword (key name : String)
  deriving DecidableEq, Repr

/-- The first two are errors, the last a warning. -/
def ClosureDiag.severity : ClosureDiag → Severity
  | .notSupported _ | .incompatibleFormal _ _ => .error
  | .unsupportedKeyword _ _ => .warning

/-- The instructions of the code `llvm_gen_closure` emits. -/
inductive ClosureInstr where
  /-- `osl_allocate_weighted_closure_component` or `osl_allocate_closure_component`; its result
  is the closure pointer -/
  | allocate (weighted : Bool)
  /-- `op_branch(pointer != NULL, notnull, next)` -/
  | branchNonNull (notnull next : Nat)
  /-- `op_branch(next)` -/
  | br (target : Nat)
  /-- `prepare(renderer, id, mem)` -/
  | callPrepare
  /-- `op_memset(mem, 0, struct_size)` -/
  | memset (size : Nat)
  /-- `op_memcpy(mem + offset, src, size)` from argument symbol `src` -/
  | memcpy (offset src size : Nat)
  /-- `setup(renderer, id, mem)` -/
  | callSetup
  /-- `llvm_store_value(pointer, Result)` -/
  | storeResult (result : Nat)
  deriving DecidableEq, Repr

/-- Does the instruction write the closure's parameter memory? The hooks are handed its
address. -/
def ClosureInstr.writesMemory : ClosureInstr → Bool
  | .callPrepare | .memset _ | .memcpy _ _ _ | .callSetup => true
  | _ => false

/-- The code generator's state as the closure generator uses it: the instructions of every
block (numbered in creation order), the number of blocks, the insert point and the diagnostics
reported. -/
structure ClosureCode where
  code : Nat → List ClosureInstr
  numBlocks : Nat
  insertPoint : Nat
  diags : List ClosureDiag := []

namespace ClosureCode

/-- Append an instruction at the insert point. -/
def emit (g : ClosureCode) (i : ClosureInstr) : ClosureCode :=
  { g with code := Function.update g.code g.insertPoint (g.code g.insertPoint ++ [i]) }

/-- Report a diagnostic through the shading context. -/
def report (g : ClosureCode) (d : ClosureDiag) : ClosureCode := { g with diags := g.diags ++ [d] }

/-- `LLVM_Util::new_basic_block`. -/
def newBasicBlock (g : ClosureCode) : Nat × ClosureCode :=
  (g.numBlocks, { g with numBlocks := g.numBlocks + 1 })

/-- `LLVM_Util::op_branch(block)`: branch, and go on in the target block. -/
def opBranch (g : ClosureCode) (b : Nat) : ClosureCode := { g.emit (.br b) with insertPoint := b }

/-- `LLVM_Util::op_branch(pointer != NULL, notnull, next)`: go on in the non-null block. -/
def opBranchNonNull (g : ClosureCode) (notnull next : Nat) : ClosureCode :=
  { g.emit (.branchNonNull notnull next) with insertPoint := notnull }

/-- `g'` is `g` with instructions appended at the insert point and diagnostics added. -/
def AppendsAt (g g' : ClosureCode) : Prop :=
  g'.numBlocks = g.numBlocks ∧ g'.insertPoint = g.insertPoint ∧
    (∀ b, b ≠ g.insertPoint → g'.code b = g.code b) ∧
    ∃ is, g'.code g.insertPoint = g.code g.insertPoint ++ is

theorem AppendsAt.refl (g : ClosureCode) : g.AppendsAt g :=
  ⟨rfl, rfl, fun _ _ => rfl, [], (List.append_nil _).symm⟩

theorem AppendsAt.trans {g g' g'' : ClosureCode} (h : g.AppendsAt g') (h' : g'.AppendsAt g'') :
    g.AppendsAt g'' := by
  obtain ⟨hn, hi, hc, is, his⟩ := h
  obtain ⟨hn', hi', hc', is', his'⟩ := h'
  refine ⟨hn'.trans hn, hi'.trans hi, fun b hb => (hc' b (hi ▸ hb)).trans (hc b hb), is ++ is', ?_⟩
  rw [← hi, his', hi, his, List.append_assoc]

theorem appendsAt_emit (g : ClosureCode) (i : ClosureInstr) : g.AppendsAt (g.emit i) :=
  ⟨rfl, rfl, fun _ hb => Function.update_noteq hb _ _, [i], Function.update_same _ _ _⟩

theorem appendsAt_report (g : ClosureCode) (d : ClosureDiag) : g.AppendsAt (g.report d) :=
  ⟨rfl, rfl, fun _ _ => rfl, [], (List.append_nil _).symm⟩

end ClosureCode

section Generator

variable {α : Type} [LinearOrderedField α] (tab : Nat → Symbol)
  (strings : Nat → String) (op : Opcode) (args : List Nat)

/-- The formal-argument loop of `llvm_gen_closure` from formal `carg` on: a formal is copied from
argument `carg + 2 + weighted` when that argument is not a closure array or a structure and its
type is equivalent to the parameter's, and reported otherwise; the loop stops at the first
parameter with a key. -/
def fillFormals (name : String) (weighted : Nat) : Nat → List ClosureParam → ClosureCode →
    ClosureCode
  | _, [], g => g
  | carg, p :: ps, g =>
    if p.key.isSome then g
    else
      let sym := op.argSym args (carg + 2 + weighted)
      let t := (tab sym).typespec
      fillFormals name weighted (carg + 1) ps
        (if !t.isClosureArray && !t.isStructure && t.simpletype.equivalent p.type then
          g.emit (.memcpy p.offset sym p.type.size)
        else g.report (.incompatibleFormal (carg + 1) name))

/-- `llvm_gen_keyword_fill`: each (key, value) pair of arguments from `argsoffset` on is copied
into the first keyword parameter with an equivalent type and that key, or reported with a
warning. `strings` gives the constant key symbols' values. -/
def llvmGenKeywordFill (cl : ClosureEntry) (name : String) (argsoffset : Nat) (g : ClosureCode) :
    ClosureCode :=
  forRange ((op.nargs - argsoffset) / 2) (fun g attr_i =>
    let argno := attr_i * 2 + argsoffset
    let Key := op.argSym args argno
    let Value := op.argSym args (argno + 1)
    match cl.keywords.find? fun p =>
        p.type.equivalent (tab Value).typespec.simpletype && p.key == some (strings Key) with
    | some p => g.emit (.memcpy p.offset Value p.type.size)
    | none => g.report (.unsupportedKeyword (strings Key) name)) g

/-- The code `llvm_gen_closure` emits into the parameter memory, at the insert point: the
`prepare` call or the `memset`, the formal arguments, the `setup` call and the keyword
arguments. -/
def closureFill (cl : ClosureEntry) (name : String) (weighted : Bool) (g : ClosureCode) :
    ClosureCode :=
  let g := if cl.prepare then g.emit .callPrepare else g.emit (.memset cl.structSize)
  let g := fillFormals tab op args name weighted.toNat 0 cl.formals g
  let g := if cl.setup then g.emit .callSetup else g
  llvmGenKeywordFill tab strings op args cl name (2 + weighted.toNat + cl.formals.length) g

/-- The null guard: a non-null block and the block after it, and the branch between them on the
pointer; the code goes on in the non-null block. Returns the block after. -/
def closureGuard (g : ClosureCode) : Nat × ClosureCode :=
  let (notnull, g) := g.newBasicBlock
  let (next, g) := g.newBasicBlock
  (next, g.opBranchNonNull notnull next)

/-- `llvm_gen_closure`: `Result = closure([weight,] name, formals..., key, value, ...)`. The
weight is argument 1 unless that argument is a string, which is then the closure's name. With no
registry entry of that name the generator reports an error and fails. Otherwise it emits the
allocation, the guard unless the allocation is unweighted or the weight is a constant that
`is_zero` rejects, the fill code, the branch to the block after the guard, and the store of the
pointer into `Result`. `m` holds the weight's constant value. -/
def llvmGenClosure (findClosure : String → Option ClosureEntry) (m : Store α) (g : ClosureCode) :
    Bool × ClosureCode :=
  let Result := op.argSym args 0
  let weighted := !(tab (op.argSym args 1)).typespec.isString
  let weight := op.argSym args 1
  let Id := op.argSym args (1 + weighted.toNat)
  match findClosure (strings Id) with
  | none => (false, g.report (.notSupported (strings Id)))
  | some cl =>
    let g := g.emit (.allocate weighted)
    if weighted && !((tab weight).isConstant && !isZero tab m weight) then
      let (next, g) := closureGuard g
      (true, ((closureFill tab strings op args cl (strings Id) weighted g).opBranch next).emit
        (.storeResult Result))
    else (true, (closureFill tab strings op args cl (strings Id) weighted g).emit (.storeResult Result))

theorem fillFormals_appendsAt (name : String) (weighted carg : Nat) (ps : List ClosureParam)
    (g : ClosureCode) : g.AppendsAt (fillFormals tab op args name weighted carg ps g) := by
  induction ps generalizing carg g with
  | nil => exact .refl g
  | cons p ps ih =>
    simp only [fillFormals]
    split
    · exact .refl g
    · split
      · exact (g.appendsAt_emit _).trans (ih _ _)
      · exact (g.appendsAt_report _).trans (ih _ _)

theorem llvmGenKeywordFill_appendsAt (cl : ClosureEntry) (name : String) (argsoffset : Nat)
    (g : ClosureCode) : g.AppendsAt (llvmGenKeywordFill tab strings op args cl name argsoffset g) :=
  forRange_induct (fun _ g' => g.AppendsAt g') (.refl g) fun _ _ g' h => by
    dsimp only
    split
    · exact h.trans (g'.appendsAt_emit _)
    · exact h.trans (g'.appendsAt_report _)

/-- The fill code only appends at the insert point. -/
theorem closureFill_appendsAt (cl : ClosureEntry) (name : String) (weighted : Bool)
    (g : ClosureCode) : g.AppendsAt (closureFill tab strings op args cl name weighted g) := by
  dsimp only [closureFill]
  have hprep : g.AppendsAt (if cl.prepare then g.emit .callPrepare else g.emit (.memset cl.structSize)) := by
    split <;> exact g.appendsAt_emit _
  generalize (if cl.prepare then _ else _) = g₁ at hprep ⊢
  have hformals := hprep.trans (fillFormals_appendsAt tab op args name weighted.toNat 0 cl.formals g₁)
  generalize fillFormals tab op args name weighted.toNat 0 cl.formals g₁ = g₂ at hformals ⊢
  have hsetup : g.AppendsAt (if cl.setup then g₂.emit .callSetup else g₂) := by
    split
    · exact hformals.trans (g₂.appendsAt_emit _)
    · exact hformals
  exact hsetup.trans (llvmGenKeywordFill_appendsAt tab strings op args _ _ _ _)

/-- Modelled from the spec: the runtime's allocation calls are outside the repository's files.
`osl_allocate_closure_component` never returns null, and
`osl_allocate_weighted_closure_component` returns null only for a weight all of whose components
are zero. So the op's allocation can return null only when it is weighted and its weight
(argument 1) holds zero in every component. -/
def AllocMayReturnNull (m : Store α) : Prop :=
  (!(tab (op.argSym args 1)).typespec.isString) = true ∧
    ∀ c < (tab (op.argSym args 1)).ncomps, m (op.argSym args 1, 0, c) = 0

instance (m : Store α) : Decidable (AllocMayReturnNull tab op args m) :=
  inferInstanceAs (Decidable (_ ∧ _))

/-- The guard is emitted whenever the allocation can return null: a constant weight that
`is_zero` rejects has a non-zero component. -/
theorem guard_of_allocMayReturnNull {m : Store α} (h : AllocMayReturnNull tab op args m) :
    (!(tab (op.argSym args 1)).typespec.isString &&
      !((tab (op.argSym args 1)).isConstant && !isZero tab m (op.argSym args 1))) = true := by
  obtain ⟨hw, hzero⟩ := h
  simp only [hw, isZero, Bool.true_and, Bool.not_eq_true', Bool.and_eq_false_iff,
    Bool.not_eq_false', List.all_eq_true, List.mem_range, decide_eq_true_eq]
  rcases Bool.eq_false_or_eq_true (tab (op.argSym args 1)).isConstant with hc | hc
  · exact .inr (by simpa [hc] using hzero)
  · exact .inl hc

end Generator

/-- A run of the emitted blocks from instruction `k` of block `b`, when the allocation returned
null (`null`) or not: the instructions run, in order, within `fuel` steps. A run that reaches the
end of a block has left the closure's code. -/
def runClosureCode (code : Nat → List ClosureInstr) (null : Bool) : Nat → Nat → Nat →
    List ClosureInstr
  | 0, _, _ => []
  | fuel + 1, b, k =>
    match (code b)[k]? with
    | none => []
    | some i => i :: match i with
      | .branchNonNull t f => runClosureCode code null fuel (if null then f else t) 0
      | .br t => runClosureCode code null fuel t 0
      | _ => runClosureCode code null fuel b (k + 1)

/-- A run that starts at the end of a block runs nothing. -/
theorem runClosureCode_end {code : Nat → List ClosureInstr} {b : Nat} (null : Bool) (fuel : Nat) :
    runClosureCode code null fuel b (code b).length = [] := by
  cases fuel <;> simp [runClosureCode]

/-- With a null pointer, a run from the allocation before the guard takes the branch to the
block after it, where only the result is stored. -/
theorem runClosureCode_null_guarded {code : Nat → List ClosureInstr} {b n R : Nat} {w : Bool}
    {pre : List ClosureInstr} (hb : code b = pre ++ [.allocate w, .branchNonNull n (n + 1)])
    (hn : code (n + 1) = [.storeResult R]) (fuel : Nat) :
    runClosureCode code true fuel b pre.length <+: [.allocate w, .branchNonNull n (n + 1), .storeResult R] := by
  have h0 : (code b)[pre.length]? = some (.allocate w) := by
    rw [hb, List.getElem?_append_right le_rfl, Nat.sub_self]; rfl
  have h1 : (code b)[pre.length + 1]? = some (.branchNonNull n (n + 1)) := by
    rw [hb, List.getElem?_append_right (Nat.le_succ _)]; simp
  rcases fuel with _ | _ | _ | _ | fuel <;> simp [runClosureCode, h0, h1, hn]

/-- The layout of guarded code, whatever the fill code appends: the block the generator started
in ends with the allocation and the branch, and the block after the guard holds only the store
of the result. -/
theorem guarded_layout {g : ClosureCode} (hfresh : ∀ b, g.numBlocks ≤ b → g.code b = [])
    (hip : g.insertPoint < g.numBlocks) (w : Bool) (R : Nat) {fill : ClosureCode → ClosureCode}
    (hfill : ∀ g : ClosureCode, g.AppendsAt (fill g)) :
    (((fill (closureGuard (g.emit (.allocate w))).2).opBranch
        (closureGuard (g.emit (.allocate w))).1).emit (.storeResult R)).code g.insertPoint =
      g.code g.insertPoint ++ [.allocate w, .branchNonNull g.numBlocks (g.numBlocks + 1)] ∧
    (((fill (closureGuard (g.emit (.allocate w))).2).opBranch
        (closureGuard (g.emit (.allocate w))).1).emit (.storeResult R)).code (g.numBlocks + 1) =
      [.storeResult R] := by
  -- the guard: the allocation and the branch end the starting block, the next block is empty
  have hstart : (closureGuard (g.emit (.allocate w))).2.code g.insertPoint =
      g.code g.insertPoint ++ [.allocate w, .branchNonNull g.numBlocks (g.numBlocks + 1)] := by
    simp [closureGuard, ClosureCode.newBasicBlock, ClosureCode.opBranchNonNull, ClosureCode.emit]
  have hnext : (closureGuard (g.emit (.allocate w))).2.code (g.numBlocks + 1) = [] := by
    simp [closureGuard, ClosureCode.newBasicBlock, ClosureCode.opBranchNonNull, ClosureCode.emit,
      Function.update_noteq (show g.numBlocks + 1 ≠ g.insertPoint by omega), hfresh]
  have hip₁ : (closureGuard (g.emit (.allocate w))).2.insertPoint = g.numBlocks := rfl
  have hn : (closureGuard (g.emit (.allocate w))).1 = g.numBlocks + 1 := rfl
  obtain ⟨-, hip', hother, -⟩ := hfill (closureGuard (g.emit (.allocate w))).2
  rw [hn]
  generalize (closureGuard (g.emit (.allocate w))).2 = g₁ at hstart hnext hip₁ hip' hother
  -- the fill code and the branch go into the non-null block, the store into the next one
  simp only [ClosureCode.opBranch, ClosureCode.emit, hip', hip₁]
  constructor
  · rw [Function.update_noteq (by omega), Function.update_noteq (by omega),
      hother _ (by omega), hstart]
  · rw [Function.update_same, Function.update_noteq (by omega), hother _ (by omega), hnext]
    rfl

section Generator

variable {α : Type} [LinearOrderedField α] (tab : Nat → Symbol)
  (strings : Nat → String) (op : Opcode) (args : List Nat)

/-- Closure memory is never written through a null allocation: for every closure op, registry
and state of the code generator, when the allocation can return null and does, no run of the
emitted code, from its first instruction and for any number of steps, runs a `memset`, a
`prepare` or `setup` call or a copy of a formal or keyword argument. -/
theorem llvmGenClosure_null_writes_nothing (findClosure : String → Option ClosureEntry)
    (m : Store α) (g : ClosureCode) (hfresh : ∀ b, g.numBlocks ≤ b → g.code b = [])
    (hip : g.insertPoint < g.numBlocks) (hnull : AllocMayReturnNull tab op args m) (fuel : Nat) :
    ∀ i ∈ runClosureCode (llvmGenClosure tab strings op args findClosure m g).2.code true fuel
      g.insertPoint (g.code g.insertPoint).length, i.writesMemory = false := by
  simp only [llvmGenClosure]
  split
  · -- no registry entry: nothing is emitted
    simp [ClosureCode.report, runClosureCode_end]
  · rename_i cl _
    rw [if_pos (guard_of_allocMayReturnNull tab op args hnull)]
    obtain ⟨hstart, hnext⟩ := guarded_layout hfresh hip _ (op.argSym args 0)
      (closureFill_appendsAt tab strings op args cl _ _)
    intro i hi
    have := (runClosureCode_null_guarded hstart hnext fuel).subset hi
    simp only [List.mem_cons, List.mem_singleton, List.not_mem_nil, or_false] at this
    rcases this with rfl | rfl | rfl <;> rfl

end Generator

/-- The symbols of `Ci = closure(w, "diffuse", N)`: a closure result, a colour weight computed at
run time, the constant name and a normal. -/
def diffuseTab : Nat → Symbol
  | 0 => { name := "Ci", typespec := { simpletype := { basetype := .ptr }, closure := true },
           symtype := .global }
  | 1 => { name := "w", typespec := { simpletype := TypeDesc.TypeColor }, symtype := .local }
  | 2 => { name := "$const1", typespec := { simpletype := TypeDesc.TypeString }, symtype := .const }
  | _ => { name := "N", symtype := .global,
           typespec := { simpletype := { basetype := .float, aggregate := .vec3, vecsemantics := .normal } } }

/-- A `diffuse` closure with one formal normal and no hooks. -/
def diffuseEntry : ClosureEntry :=
  { id := 1, structSize := 12, formals := [{ type := TypeDesc.TypeColor, offset := 0, fieldSize := 12 }],
    keywords := [] }

/-- The code generator at the start of an empty function. -/
def entryClosureCode : ClosureCode := { code := fun _ => [], numBlocks := 1, insertPoint := 0 }

/-- `Ci = closure(w, "diffuse", N)` with `w` zero when the shader runs: the allocation may return
null, and the null run stores only the result. -/
theorem llvmGenClosure_null_writes_nothing_diffuse :
    (∀ b, entryClosureCode.numBlocks ≤ b → entryClosureCode.code b = []) ∧
      entryClosureCode.insertPoint < entryClosureCode.numBlocks ∧
      AllocMayReturnNull diffuseTab { opname := "closure", nargs := 4 } [0, 1, 2, 3]
        (fun _ => (0 : ℚ)) ∧
      ∀ i ∈ runClosureCode (llvmGenClosure diffuseTab (fun _ => "diffuse")
          { opname := "closure", nargs := 4 } [0, 1, 2, 3] (fun _ => some diffuseEntry)
          (fun _ => (0 : ℚ)) entryClosureCode).2.code true 10 entryClosureCode.insertPoint
          (entryClosureCode.code entryClosureCode.insertPoint).length,
        i.writesMemory = false :=
  have hnull : AllocMayReturnNull diffuseTab { opname := "closure", nargs := 4 } [0, 1, 2, 3]
      (fun _ => (0 : ℚ)) := ⟨rfl, fun _ _ => rfl⟩
  ⟨fun _ _ => rfl, by decide, hnull,
    llvmGenClosure_null_writes_nothing diffuseTab _ _ _ _ _ _ (fun _ _ => rfl) (by decide) hnull 10⟩

/-- With a non-null pointer the same code runs the `memset`, the copy of `N` and the branch to the
store. -/
example : runClosureCode (llvmGenClosure diffuseTab (fun _ => "diffuse")
    { opname := "closure", nargs := 4 } [0, 1, 2, 3] (fun _ => some diffuseEntry)
    (fun _ => (0 : ℚ)) entryClosureCode).2.code false 10 0 0 =
      [.allocate true, .branchNonNull 1 2, .memset 12, .memcpy 0 3 12, .br 2, .storeResult 0] :=
  rfl

end OslExec
