import OslExec.Symbol

/-!
# Control-flow lowering

`build_llvm_code(begin, end, bb)` lowers a range of an instance's ops into basic blocks: it
calls, op by op, the generator that the op descriptor table names. The generators of
`llvm_gen.cpp` that lower control flow (`llvm_gen_if`, `llvm_gen_loop_op`,
`llvm_gen_loopmod_op`, `llvm_gen_functioncall`, `llvm_gen_functioncall_nr` and
`llvm_gen_return`) create blocks, branch between them and lower the ranges nested in their op
by calling `build_llvm_code` again; every other generator emits straight-line code at the
insert point.

`CodeGen` holds the parts of `BackendLLVM` and its `LLVM_Util` that these generators read and
write: the instructions of every block, the insert point, the stacks of loop and return
blocks and the instance's exit block. `runCfg` gives the emitted blocks their meaning.

The code a straight-line generator emits is one instruction, `lowered opnum`. Whatever blocks
that code uses inside (a conditional layer call, say) are entered at its start and left at its
end, so for control-flow lowering it is one step. A generator that returns `false` emits none
of the op's code: `llvm_gen_printf_legacy` with a format that is not a constant warns and
returns before it emits anything.

## Key results

- `build_succeeds_despite_nested_failure`: a generator that fails inside the then-range of
  an `if` does not make `build_llvm_code` fail, because `llvm_gen_if` drops the results of
  its nested builds; the failing generator is `llvm_gen_printf_legacy`, which fails after
  reporting only a warning, and the then-block holds only the branch to the after block
-/

namespace OslExec

/-- The instructions of the emitted blocks that control-flow lowering tells apart. -/
inductive Instr where
  /-- the code the generator of straight-line op `opnum` emits -/
  | lowered (opnum : Nat)
  /-- `LLVM_Util::op_branch(block)` -/
  | br (target : Nat)
  /-- `LLVM_Util::op_branch(cond, trueblock, falseblock)` on `llvm_test_nonzero(cond)` -/
  | condbr (cond : Nat) (iftrue iffalse : Nat)
  /-- the return of the instance's function -/
  | ret
  deriving DecidableEq, Repr

/-- The state of the code generator that control-flow lowering reads and writes. Blocks are
numbered in creation order. `loops` is `m_loop_step_block` and `m_loop_after_block` zipped,
innermost first; `returnBlocks` is `m_return_block`, innermost first; `exitInstanceBlock` is
`m_exit_instance_block`. -/
structure CodeGen where
  code : Nat → List Instr
  numBlocks : Nat
  insertPoint : Nat
  loops : List (Nat × Nat)
  returnBlocks : List Nat
  exitInstanceBlock : Option Nat

namespace CodeGen

/-- The state when an instance's function is begun: its entry block, block `0`, and nothing
else. -/
def entry : CodeGen where
  code := fun _ => []
  numBlocks := 1
  insertPoint := 0
  loops := []
  returnBlocks := []
  exitInstanceBlock := none

/-- `LLVM_Util::new_basic_block`. -/
def newBasicBlock (g : CodeGen) : Nat × CodeGen :=
  (g.numBlocks, { g with numBlocks := g.numBlocks + 1 })

/-- Append an instruction at the insert point. -/
def emit (g : CodeGen) (i : Instr) : CodeGen :=
  { g with code := Function.update g.code g.insertPoint (g.code g.insertPoint ++ [i]) }

/-- `LLVM_Util::set_insert_point`. -/
def setInsertPoint (g : CodeGen) (b : Nat) : CodeGen := { g with insertPoint := b }

/-- `LLVM_Util::op_branch(block)`: branch, and go on in the target block. -/
def opBranch (g : CodeGen) (b : Nat) : CodeGen := (g.emit (.br b)).setInsertPoint b

/-- `LLVM_Util::op_branch(cond, trueblock, falseblock)`: go on in the true block. -/
def opCondBranch (g : CodeGen) (cond t f : Nat) : CodeGen :=
  (g.emit (.condbr cond t f)).setInsertPoint t

/-- `LLVM_Util::push_loop`. -/
def pushLoop (g : CodeGen) (step after : Nat) : CodeGen :=
  { g with loops := (step, after) :: g.loops }

/-- `LLVM_Util::pop_loop`. -/
def popLoop (g : CodeGen) : CodeGen := { g with loops := g.loops.tail }

/-- `LLVM_Util::loop_step_block`; the stack is not empty inside a loop. -/
def loopStepBlock (g : CodeGen) : Option Nat := g.loops.head?.map Prod.fst

/-- `LLVM_Util::loop_after_block`. -/
def loopAfterBlock (g : CodeGen) : Option Nat := g.loops.head?.map Prod.snd

/-- `LLVM_Util::push_function`: a new block where the inlined function returns to. -/
def pushFunction (g : CodeGen) : Nat × CodeGen :=
  (g.numBlocks, { g with numBlocks := g.numBlocks + 1, returnBlocks := g.numBlocks :: g.returnBlocks })

/-- `LLVM_Util::pop_function`. -/
def popFunction (g : CodeGen) : CodeGen := { g with returnBlocks := g.returnBlocks.tail }

/-- `LLVM_Util::return_block`; the stack is not empty inside an inlined function. -/
def returnBlock (g : CodeGen) : Option Nat := g.returnBlocks.head?

/-- `BackendLLVM::llvm_exit_instance_block`: the exit block, created when first asked for. -/
def llvmExitInstanceBlock (g : CodeGen) : Nat × CodeGen :=
  match g.exitInstanceBlock with
  | some b => (b, g)
  | none => (g.numBlocks, { g with numBlocks := g.numBlocks + 1, exitInstanceBlock := some g.numBlocks })

@[simp] theorem newBasicBlock_fst (g : CodeGen) : g.newBasicBlock.1 = g.numBlocks := rfl
@[simp] theorem newBasicBlock_code (g : CodeGen) : g.newBasicBlock.2.code = g.code := rfl
@[simp] theorem newBasicBlock_numBlocks (g : CodeGen) :
    g.newBasicBlock.2.numBlocks = g.numBlocks + 1 := rfl
@[simp] theorem newBasicBlock_insertPoint (g : CodeGen) :
    g.newBasicBlock.2.insertPoint = g.insertPoint := rfl
@[simp] theorem newBasicBlock_loops (g : CodeGen) : g.newBasicBlock.2.loops = g.loops := rfl
@[simp] theorem newBasicBlock_returnBlocks (g : CodeGen) :
    g.newBasicBlock.2.returnBlocks = g.returnBlocks := rfl
@[simp] theorem newBasicBlock_exitInstanceBlock (g : CodeGen) :
    g.newBasicBlock.2.exitInstanceBlock = g.exitInstanceBlock := rfl

@[simp] theorem emit_code (g : CodeGen) (i : Instr) :
    (g.emit i).code = Function.update g.code g.insertPoint (g.code g.insertPoint ++ [i]) := rfl
@[simp] theorem emit_numBlocks (g : CodeGen) (i : Instr) : (g.emit i).numBlocks = g.numBlocks :=
  rfl
@[simp] theorem emit_insertPoint (g : CodeGen) (i : Instr) :
    (g.emit i).insertPoint = g.insertPoint := rfl
@[simp] theorem emit_loops (g : CodeGen) (i : Instr) : (g.emit i).loops = g.loops := rfl
@[simp] theorem emit_returnBlocks (g : CodeGen) (i : Instr) :
    (g.emit i).returnBlocks = g.returnBlocks := rfl
@[simp] theorem emit_exitInstanceBlock (g : CodeGen) (i : Instr) :
    (g.emit i).exitInstanceBlock = g.exitInstanceBlock := rfl

@[simp] theorem setInsertPoint_code (g : CodeGen) (b : Nat) : (g.setInsertPoint b).code = g.code :=
  rfl
@[simp] theorem setInsertPoint_numBlocks (g : CodeGen) (b : Nat) :
    (g.setInsertPoint b).numBlocks = g.numBlocks := rfl
@[simp] theorem setInsertPoint_insertPoint (g : CodeGen) (b : Nat) :
    (g.setInsertPoint b).insertPoint = b := rfl
@[simp] theorem setInsertPoint_loops (g : CodeGen) (b : Nat) :
    (g.setInsertPoint b).loops = g.loops := rfl
@[simp] theorem setInsertPoint_returnBlocks (g : CodeGen) (b : Nat) :
    (g.setInsertPoint b).returnBlocks = g.returnBlocks := rfl
@[simp] theorem setInsertPoint_exitInstanceBlock (g : CodeGen) (b : Nat) :
    (g.setInsertPoint b).exitInstanceBlock = g.exitInstanceBlock := rfl

@[simp] theorem pushLoop_code (g : CodeGen) (s a : Nat) : (g.pushLoop s a).code = g.code := rfl
@[simp] theorem pushLoop_numBlocks (g : CodeGen) (s a : Nat) :
    (g.pushLoop s a).numBlocks = g.numBlocks := rfl
@[simp] theorem pushLoop_insertPoint (g : CodeGen) (s a : Nat) :
    (g.pushLoop s a).insertPoint = g.insertPoint := rfl
@[simp] theorem pushLoop_loops (g : CodeGen) (s a : Nat) :
    (g.pushLoop s a).loops = (s, a) :: g.loops := rfl
@[simp] theorem pushLoop_returnBlocks (g : CodeGen) (s a : Nat) :
    (g.pushLoop s a).returnBlocks = g.returnBlocks := rfl
@[simp] theorem pushLoop_exitInstanceBlock (g : CodeGen) (s a : Nat) :
    (g.pushLoop s a).exitInstanceBlock = g.exitInstanceBlock := rfl

@[simp] theorem popLoop_code (g : CodeGen) : g.popLoop.code = g.code := rfl
@[simp] theorem popLoop_numBlocks (g : CodeGen) : g.popLoop.numBlocks = g.numBlocks := rfl
@[simp] theorem popLoop_insertPoint (g : CodeGen) : g.popLoop.insertPoint = g.insertPoint := rfl
@[simp] theorem popLoop_loops (g : CodeGen) : g.popLoop.loops = g.loops.tail := rfl
@[simp] theorem popLoop_returnBlocks (g : CodeGen) : g.popLoop.returnBlocks = g.returnBlocks :=
  rfl
@[simp] theorem popLoop_exitInstanceBlock (g : CodeGen) :
    g.popLoop.exitInstanceBlock = g.exitInstanceBlock := rfl

@[simp] theorem pushFunction_fst (g : CodeGen) : g.pushFunction.1 = g.numBlocks := rfl
@[simp] theorem pushFunction_code (g : CodeGen) : g.pushFunction.2.code = g.code := rfl
@[simp] theorem pushFunction_numBlocks (g : CodeGen) :
    g.pushFunction.2.numBlocks = g.numBlocks + 1 := rfl
@[simp] theorem pushFunction_insertPoint (g : CodeGen) :
    g.pushFunction.2.insertPoint = g.insertPoint := rfl
@[simp] theorem pushFunction_loops (g : CodeGen) : g.pushFunction.2.loops = g.loops := rfl
@[simp] theorem pushFunction_returnBlocks (g : CodeGen) :
    g.pushFunction.2.returnBlocks = g.numBlocks :: g.returnBlocks := rfl
@[simp] theorem pushFunction_exitInstanceBlock (g : CodeGen) :
    g.pushFunction.2.exitInstanceBlock = g.exitInstanceBlock := rfl

@[simp] theorem popFunction_code (g : CodeGen) : g.popFunction.code = g.code := rfl
@[simp] theorem popFunction_numBlocks (g : CodeGen) : g.popFunction.numBlocks = g.numBlocks :=
  rfl
@[simp] theorem popFunction_insertPoint (g : CodeGen) :
    g.popFunction.insertPoint = g.insertPoint := rfl
@[simp] theorem popFunction_loops (g : CodeGen) : g.popFunction.loops = g.loops := rfl
@[simp] theorem popFunction_returnBlocks (g : CodeGen) :
    g.popFunction.returnBlocks = g.returnBlocks.tail := rfl
@[simp] theorem popFunction_exitInstanceBlock (g : CodeGen) :
    g.popFunction.exitInstanceBlock = g.exitInstanceBlock := rfl

@[simp] theorem opBranch_eq (g : CodeGen) (b : Nat) : g.opBranch b = (g.emit (.br b)).setInsertPoint b :=
  rfl

@[simp] theorem opCondBranch_eq (g : CodeGen) (c t f : Nat) :
    g.opCondBranch c t f = (g.emit (.condbr c t f)).setInsertPoint t := rfl

end CodeGen

/-- The generator the op descriptor table names for an op, told apart for the generators that
lower control flow; `straight` stands for every other generator, and for an op that has none. -/
inductive OpRole where
  | ifOp
  | loopOp
  | loopmodOp
  | functioncall
  | functioncallNr
  | returnOp
  | nop
  | endOp
  | straight
  deriving DecidableEq, Repr

namespace Opcode

/-- The op descriptor table's entries for the control-flow ops: `llvm_gen_if`,
`llvm_gen_loop_op`, `llvm_gen_loopmod_op`, `llvm_gen_functioncall`,
`llvm_gen_functioncall_nr`, `llvm_gen_return` (for `return` and `exit`), `llvm_gen_nop` and
`llvm_gen_end`. -/
def role (op : Opcode) : OpRole :=
  match op.opname with
  | "if" => .ifOp
  | "for" | "while" | "dowhile" => .loopOp
  | "break" | "continue" => .loopmodOp
  | "functioncall" => .functioncall
  | "functioncall_nr" => .functioncallNr
  | "return" | "exit" => .returnOp
  | "nop" => .nop
  | "end" => .endOp
  | _ => .straight

/-- `rop.opargsym(op, k)`: the symbol of the op's `k`-th argument, `args` being the
instance's argument list. -/
def argSym (op : Opcode) (args : List Nat) (k : Nat) : Nat := args.getD (op.firstarg + k) 0

/-- `op.jump(k)` as an op number. -/
def target (op : Opcode) (k : Nat) : Nat := (op.jump k).toNat

/-- The op `build_llvm_code` lowers after op `opnum`: the one at the farthest jump target if
the op jumps (its nested ranges were lowered by its generator), else the next one. -/
def nextOp (op : Opcode) (opnum : Nat) : Nat :=
  if 0 ≤ op.farthestJump then op.farthestJump.toNat else opnum + 1

end Opcode

/-- `build_llvm_code(begin, end, bb)` as the generators call it for their nested ranges: it
returns whether lowering succeeded, and the new state; `none` is a failed assertion. -/
abbrev BuildFn := Nat → Nat → Option Nat → CodeGen → Option (Bool × CodeGen)

/-! ### The control-flow generators -/

/-- `llvm_gen_if`: a three-block diamond on the condition, argument `0`. The results of the
two nested builds are not looked at. -/
def llvmGenIf (build : BuildFn) (args : List Nat) (opnum : Nat) (op : Opcode) (g : CodeGen) :
    Option (Bool × CodeGen) := do
  let cond := op.argSym args 0
  let (thenBlock, g) := g.newBasicBlock
  let (elseBlock, g) := g.newBasicBlock
  let (afterBlock, g) := g.newBasicBlock
  let g := g.opCondBranch cond thenBlock elseBlock
  let (_, g) ← build (opnum + 1) (op.target 0) (some thenBlock) g
  let g := g.opBranch afterBlock
  let (_, g) ← build (op.target 0) (op.target 1) (some elseBlock) g
  return (true, g.opBranch afterBlock)

/-- `llvm_gen_loop_op`: the init range at the insert point, then the condition, body and
step blocks; `do-while` enters the body first. The nested results are not looked at. -/
def llvmGenLoopOp (build : BuildFn) (args : List Nat) (opnum : Nat) (op : Opcode)
    (g : CodeGen) : Option (Bool × CodeGen) := do
  let cond := op.argSym args 0
  let (condBlock, g) := g.newBasicBlock
  let (bodyBlock, g) := g.newBasicBlock
  let (stepBlock, g) := g.newBasicBlock
  let (afterBlock, g) := g.newBasicBlock
  let g := g.pushLoop stepBlock afterBlock
  let (_, g) ← build (opnum + 1) (op.target 0) none g
  let g := g.opBranch (if op.opname = "dowhile" then bodyBlock else condBlock)
  let (_, g) ← build (op.target 0) (op.target 1) (some condBlock) g
  let g := g.opCondBranch cond bodyBlock afterBlock
  let (_, g) ← build (op.target 1) (op.target 2) (some bodyBlock) g
  let g := g.opBranch stepBlock
  let (_, g) ← build (op.target 2) (op.target 3) (some stepBlock) g
  let g := g.opBranch condBlock
  return (true, (g.setInsertPoint afterBlock).popLoop)

/-- `llvm_gen_loopmod_op`: `break` branches to the innermost loop's after block, `continue`
to its step block; what follows goes to a new, unreachable block. -/
def llvmGenLoopmodOp (op : Opcode) (g : CodeGen) : Option (Bool × CodeGen) := do
  let target ← if op.opname = "break" then g.loopAfterBlock else g.loopStepBlock
  let (nextBlock, g) := (g.opBranch target).newBasicBlock
  return (true, g.setInsertPoint nextBlock)

/-- `llvm_gen_functioncall`: the body at the insert point, then a branch to the block the
function's `return`s branch to. The body's result is not looked at. -/
def llvmGenFunctioncall (build : BuildFn) (opnum : Nat) (op : Opcode) (g : CodeGen) :
    Option (Bool × CodeGen) := do
  let (afterBlock, g) := g.pushFunction
  let (_, g) ← build (opnum + 1) (op.target 0) none g
  return (true, (g.opBranch afterBlock).popFunction)

/-- `llvm_gen_functioncall_nr`: the body at the insert point, with no return block. Its two
`OSL_ASSERT`s (debugging is on, and the body ends at the farthest jump) fail as `none`. -/
def llvmGenFunctioncallNr (build : BuildFn) (debug : Bool) (opnum : Nat) (op : Opcode)
    (g : CodeGen) : Option (Bool × CodeGen) :=
  if debug ∧ op.farthestJump = op.jump 0 then do
    let (_, g) ← build (opnum + 1) (op.target 0) none g
    return (true, g)
  else none

/-- `llvm_gen_return`: `exit` branches to the instance's exit block, `return` to the innermost
inlined function's return block; what follows goes to a new, unreachable block. -/
def llvmGenReturn (op : Opcode) (g : CodeGen) : Option (Bool × CodeGen) := do
  let (target, g) ← if op.opname = "exit" then some g.llvmExitInstanceBlock
    else g.returnBlock.map fun b => (b, g)
  let (nextBlock, g) := (g.opBranch target).newBasicBlock
  return (true, g.setInsertPoint nextBlock)

section Build

variable (ops : List Opcode) (args : List Nat) (debug : Bool) (lowerOp : Nat → Bool)

/-- The generator the op descriptor table names for op `opnum`, with `build` for its nested
ranges. A straight-line generator returns `lowerOp opnum` and emits the op's code when that is
`true`; `llvm_gen_nop` emits nothing and `llvm_gen_end` returns `false`. -/
def llvmGen (build : BuildFn) (opnum : Nat) (op : Opcode) (g : CodeGen) :
    Option (Bool × CodeGen) :=
  match op.role with
  | .ifOp => llvmGenIf build args opnum op g
  | .loopOp => llvmGenLoopOp build args opnum op g
  | .loopmodOp => llvmGenLoopmodOp op g
  | .functioncall => llvmGenFunctioncall build opnum op g
  | .functioncallNr => llvmGenFunctioncallNr build debug opnum op g
  | .returnOp => llvmGenReturn op g
  | .nop => some (true, g)
  | .endOp => some (false, g)
  | .straight => if lowerOp opnum then some (true, g.emit (.lowered opnum)) else some (false, g)

/-- Modelled from the spec: `BackendLLVM::build_llvm_code` is declared outside the
repository's files. It sets the insert point to `bb` if one is given, then calls the
generator of each op of `[beginop, endop)` in turn and returns `false` as soon as one does;
after an op that jumps it goes on at the op's farthest jump target. `fuel` bounds the ops
lowered along one chain of nested calls. -/
def buildLlvmCode : Nat → Nat → Nat → Option Nat → CodeGen → Option (Bool × CodeGen)
  | 0, _, _, _, _ => none
  | fuel + 1, beginop, endop, bb, g =>
    let g := match bb with
      | some b => g.setInsertPoint b
      | none => g
    if beginop < endop then
      match ops[beginop]? with
      | none => none
      | some op => do
        let (ok, g) ← llvmGen args debug lowerOp (buildLlvmCode fuel) beginop op g
        if ok then buildLlvmCode fuel (op.nextOp beginop) endop none g else some (false, g)
    else some (true, g)

/-- Modelled from the spec: the control flow of `BackendLLVM::build_llvm_instance`, which is
outside the repository's files. The main code is lowered from the entry block; then the
function branches to the exit block if an `exit` created one, and returns. The epilogue that
copies outputs to connected layers is not control flow and is left out. -/
def buildInstance (fuel beginop endop : Nat) : Option (Bool × (Nat → List Instr)) := do
  let (ok, g) ← buildLlvmCode ops args debug lowerOp fuel beginop endop none CodeGen.entry
  let g := match g.exitInstanceBlock with
    | some x => g.opBranch x
    | none => g
  return (ok, (g.emit .ret).code)

end Build

/-! ### Running the emitted blocks -/

section Run

variable {σ : Type} (exec : Nat → σ → σ) (test : Nat → σ → Bool) (code : Nat → List Instr)

/-- Run the emitted code from instruction `k` of block `b` on store `s`, one instruction per
unit of fuel: `exec n` is what op `n`'s code does to the store and `test c` whether symbol
`c` is non-zero. The result is the ops whose code ran, in order, and the final store;
`none` when the fuel runs out or control falls off the end of a block. -/
def runCfg : Nat → Nat → Nat → σ → Option (List Nat × σ)
  | 0, _, _, _ => none
  | fuel + 1, b, k, s =>
    match (code b)[k]? with
    | none => none
    | some (.lowered n) => (runCfg fuel b (k + 1) (exec n s)).map fun r => (n :: r.1, r.2)
    | some (.br t) => runCfg fuel t 0 s
    | some (.condbr c t f) => runCfg fuel (if test c s then t else f) 0 s
    | some .ret => some ([], s)

end Run

/-! ### Failures nested in control flow -/

/-- The diagnostic severities of the shading context. -/
inductive Severity where
  | warning
  | error
  deriving DecidableEq, Repr

/-- The first check of `llvm_gen_printf_legacy`: a format argument that is not a constant is
reported with a warning, and the generator returns `false`. The result is the generator's
verdict and what it reported. -/
def printfLegacyFormatCheck (format : Symbol) : Bool × List Severity :=
  if format.isConstant then (true, []) else (false, [.warning])

/-- An `if` at op `0` whose then-range is op `1`, a `printf` whose format (symbol `1`) is not
a constant. -/
def ifPrintfOps : List Opcode := [{ opname := "if", jumps := [2, 2] }, { opname := "printf", firstarg := 1 }]

/-- The printf's format symbol: a string local, not a constant. -/
def printfFormat : Symbol := { name := "fmt", typespec := { simpletype := TypeDesc.TypeString }, symtype := .local }

theorem build_succeeds_despite_nested_failure :
    printfLegacyFormatCheck printfFormat = (false, [.warning]) ∧
    (buildLlvmCode ifPrintfOps [0, 1] false (fun n => n ≠ 1 || (printfLegacyFormatCheck printfFormat).1)
        3 0 2 none CodeGen.entry).map (fun r => (r.1, r.2.code 1)) = some (true, [.br 3]) := by
  decide

end OslExec
