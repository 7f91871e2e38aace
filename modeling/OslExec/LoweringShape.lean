import OslExec.Lowering

/-!
# The shape of lowered control flow

`Emitted` says where the code of a range of ops sits in the emitted blocks: where it begins,
where control is once it finishes normally, and which branches link the blocks of each
control-flow op, exactly as the generators of `llvm_gen.cpp` lay them out. `WellNested`
describes the op streams the lowering is meant for: jump targets that delimit nested ranges,
and `break`, `continue` and `return` only where they have a target.

## Key results

- `buildLlvmCode_lowers`: on a well-nested range, `build_llvm_code` (with enough fuel and
  every straight-line generator succeeding) succeeds and lays the range's code out as
  `Emitted` says, whatever code is emitted after it
-/

namespace OslExec

/-! ### Op streams -/

namespace Opcode

/-- The jump targets of a loop op at `pc` delimit its four ranges in order. -/
def LoopNested (op : Opcode) (pc : Nat) : Prop :=
  pc < op.target 0 ∧ op.target 0 ≤ op.target 1 ∧ op.target 1 ≤ op.target 2 ∧
    op.target 2 ≤ op.target 3

instance (op : Opcode) (pc : Nat) : Decidable (op.LoopNested pc) :=
  inferInstanceAs (Decidable (_ ∧ _ ∧ _ ∧ _))

theorem nextOp_of_farthestJump_neg {op : Opcode} (h : op.farthestJump < 0) (pc : Nat) :
    op.nextOp pc = pc + 1 := by
  simp [nextOp, show ¬ 0 ≤ op.farthestJump by omega]

theorem nextOp_of_farthestJump_eq {op : Opcode} {k pc : Nat} (h : op.farthestJump = op.jump k)
    (hk : 0 < op.target k) : op.nextOp pc = op.target k := by
  simp only [target] at hk
  simp [nextOp, h, target, show 0 ≤ op.jump k by omega]

end Opcode

/-- The phases of a loop op: its init, condition, body and step ranges. -/
inductive LoopPhase where
  | init
  | cond
  | body
  | step
  deriving DecidableEq, Repr

namespace LoopPhase

/-- The first op of a phase of the loop op `op` at `pc`. -/
def first (op : Opcode) (pc : Nat) : LoopPhase → Nat
  | init => pc + 1
  | cond => op.target 0
  | body => op.target 1
  | step => op.target 2

/-- The end of a phase's range of ops. -/
def last (op : Opcode) : LoopPhase → Nat
  | init => op.target 0
  | cond => op.target 1
  | body => op.target 2
  | step => op.target 3

/-- The phase after one that finished normally, `none` to leave the loop: after the init
range a do-while runs its body and other loops their condition; a false condition (`c`)
leaves; the body is followed by the step and the step by the condition. -/
def next (dowhile c : Bool) : LoopPhase → Option LoopPhase
  | init => some (if dowhile then body else cond)
  | cond => if c then some body else none
  | body => some step
  | step => some cond

theorem bounds {op : Opcode} {pc : Nat} (h : op.LoopNested pc) (ph : LoopPhase) :
    pc + 1 ≤ ph.first op pc ∧ ph.first op pc ≤ ph.last op ∧ ph.last op ≤ op.target 3 := by
  obtain ⟨h0, h1, h2, h3⟩ := h
  cases ph <;> simp only [first, last] <;> omega

end LoopPhase

/-- The op streams the lowering is meant for, range by range. Every control-flow op's jump
targets delimit ranges nested in the range that holds it, its farthest jump ends its last
range, and other ops do not jump. `inLoop`: a loop encloses the range, so `break` and
`continue` have a target. `retOk`: the innermost enclosing inlined function was called by a
`functioncall`, so `return` has a return block (the body of a `functioncall_nr` has none).
`functioncall_nr` occurs only with debugging on. -/
inductive WellNested (ops : List Opcode) (debug : Bool) : Bool → Bool → Nat → Nat → Prop
  | done {l r pc e : _} : e ≤ pc → WellNested ops debug l r pc e
  | straight {l r pc e : _} {op : Opcode} : pc < e → ops[pc]? = some op →
      op.role = .straight → op.farthestJump < 0 →
      WellNested ops debug l r (pc + 1) e → WellNested ops debug l r pc e
  | nop {l r pc e : _} {op : Opcode} : pc < e → ops[pc]? = some op → op.role = .nop →
      op.farthestJump < 0 → WellNested ops debug l r (pc + 1) e → WellNested ops debug l r pc e
  | ifOp {l r pc e : _} {op : Opcode} : pc < e → ops[pc]? = some op → op.role = .ifOp →
      pc < op.target 0 → op.target 0 ≤ op.target 1 → op.target 1 ≤ e →
      op.farthestJump = op.jump 1 →
      WellNested ops debug l r (pc + 1) (op.target 0) →
      WellNested ops debug l r (op.target 0) (op.target 1) →
      WellNested ops debug l r (op.target 1) e → WellNested ops debug l r pc e
  | loopOp {l r pc e : _} {op : Opcode} : pc < e → ops[pc]? = some op → op.role = .loopOp →
      op.LoopNested pc → op.target 3 ≤ e → op.farthestJump = op.jump 3 →
      (∀ ph : LoopPhase, WellNested ops debug true r (ph.first op pc) (ph.last op)) →
      WellNested ops debug l r (op.target 3) e → WellNested ops debug l r pc e
  | loopmodOp {l r pc e : _} {op : Opcode} : pc < e → ops[pc]? = some op →
      op.role = .loopmodOp → op.farthestJump < 0 → l = true →
      WellNested ops debug l r (pc + 1) e → WellNested ops debug l r pc e
  | functioncall {l r pc e : _} {op : Opcode} : pc < e → ops[pc]? = some op →
      op.role = .functioncall → pc < op.target 0 → op.target 0 ≤ e →
      op.farthestJump = op.jump 0 → WellNested ops debug l true (pc + 1) (op.target 0) →
      WellNested ops debug l r (op.target 0) e → WellNested ops debug l r pc e
  | functioncallNr {l r pc e : _} {op : Opcode} : pc < e → ops[pc]? = some op →
      op.role = .functioncallNr → debug = true → pc < op.target 0 → op.target 0 ≤ e →
      op.farthestJump = op.jump 0 → WellNested ops debug l false (pc + 1) (op.target 0) →
      WellNested ops debug l r (op.target 0) e → WellNested ops debug l r pc e
  | returnOp {l r pc e : _} {op : Opcode} : pc < e → ops[pc]? = some op →
      op.role = .returnOp → op.farthestJump < 0 → (op.opname = "exit" ∨ r = true) →
      WellNested ops debug l r (pc + 1) e → WellNested ops debug l r pc e

/-! ### Where a range's code sits -/

/-- The instruction at a position (block, index) of the emitted code. -/
def instrAt (C : Nat → List Instr) (p : Nat × Nat) : Option Instr := (C p.1)[p.2]?

/-- The blocks `llvm_gen_loop_op` creates. -/
structure LoopBlocks where
  cond : Nat
  body : Nat
  step : Nat
  after : Nat

namespace LoopBlocks

/-- Where each phase's code begins: the init range at the loop op's own position `p`, the
others at the start of their block. -/
def entry (lb : LoopBlocks) (p : Nat × Nat) : LoopPhase → Nat × Nat
  | .init => p
  | .cond => (lb.cond, 0)
  | .body => (lb.body, 0)
  | .step => (lb.step, 0)

/-- The branch that ends each phase's code, `c` being the condition symbol. -/
def exitInstr (lb : LoopBlocks) (dowhile : Bool) (c : Nat) : LoopPhase → Instr
  | .init => .br (if dowhile then lb.body else lb.cond)
  | .cond => .condbr c lb.body lb.after
  | .body => .br lb.step
  | .step => .br lb.cond

end LoopBlocks

/-- Where the code of the ops `[pc, e)` sits in the emitted blocks `C`: it begins at position
`p`, and control is at `q` once the range finishes normally. `loops` and `rets` are the loop
and return-block stacks the range was lowered with, `X` the instance's exit block (if an `exit`
created one) and `r`
whether a `return` may occur. One constructor per generator, each laying out the blocks and
branches its generator emits. -/
inductive Emitted (ops : List Opcode) (args : List Nat) (C : Nat → List Instr) (X : Option Nat) :
    List (Nat × Nat) → List Nat → Bool → Nat → Nat → Nat × Nat → Nat × Nat → Prop
  | done {loops rets r pc e p} : e ≤ pc → Emitted ops args C X loops rets r pc e p p
  | straight {loops rets r pc e p q} {op : Opcode} : pc < e → ops[pc]? = some op →
      op.role = .straight → instrAt C p = some (.lowered pc) →
      Emitted ops args C X loops rets r (pc + 1) e (p.1, p.2 + 1) q →
      Emitted ops args C X loops rets r pc e p q
  | nop {loops rets r pc e p q} {op : Opcode} : pc < e → ops[pc]? = some op → op.role = .nop →
      Emitted ops args C X loops rets r (pc + 1) e p q →
      Emitted ops args C X loops rets r pc e p q
  | ifOp {loops rets r pc e p q tb eb ab pt pe} {op : Opcode} : pc < e → ops[pc]? = some op →
      op.role = .ifOp → pc < op.target 0 → op.target 0 ≤ op.target 1 → op.target 1 ≤ e →
      instrAt C p = some (.condbr (op.argSym args 0) tb eb) →
      Emitted ops args C X loops rets r (pc + 1) (op.target 0) (tb, 0) pt →
      instrAt C pt = some (.br ab) →
      Emitted ops args C X loops rets r (op.target 0) (op.target 1) (eb, 0) pe →
      instrAt C pe = some (.br ab) →
      Emitted ops args C X loops rets r (op.target 1) e (ab, 0) q →
      Emitted ops args C X loops rets r pc e p q
  | loopOp {loops rets r pc e p q} {op : Opcode} (lb : LoopBlocks) (pe : LoopPhase → Nat × Nat) :
      pc < e → ops[pc]? = some op → op.role = .loopOp → op.LoopNested pc → op.target 3 ≤ e →
      (∀ ph, Emitted ops args C X ((lb.step, lb.after) :: loops) rets r (ph.first op pc)
        (ph.last op) (lb.entry p ph) (pe ph)) →
      (∀ ph, instrAt C (pe ph) =
        some (lb.exitInstr (op.opname = "dowhile") (op.argSym args 0) ph)) →
      Emitted ops args C X loops rets r (op.target 3) e (lb.after, 0) q →
      Emitted ops args C X loops rets r pc e p q
  | loopmodOp {loops rets r pc e p q step after nb} {op : Opcode} : pc < e →
      ops[pc]? = some op → op.role = .loopmodOp → loops.head? = some (step, after) →
      instrAt C p = some (.br (if op.opname = "break" then after else step)) →
      Emitted ops args C X loops rets r (pc + 1) e (nb, 0) q →
      Emitted ops args C X loops rets r pc e p q
  | functioncall {loops rets r pc e p q rb pb} {op : Opcode} : pc < e → ops[pc]? = some op →
      op.role = .functioncall → pc < op.target 0 → op.target 0 ≤ e →
      Emitted ops args C X loops (rb :: rets) true (pc + 1) (op.target 0) p pb →
      instrAt C pb = some (.br rb) →
      Emitted ops args C X loops rets r (op.target 0) e (rb, 0) q →
      Emitted ops args C X loops rets r pc e p q
  | functioncallNr {loops rets r pc e p q pb} {op : Opcode} : pc < e → ops[pc]? = some op →
      op.role = .functioncallNr → pc < op.target 0 → op.target 0 ≤ e →
      Emitted ops args C X loops rets false (pc + 1) (op.target 0) p pb →
      Emitted ops args C X loops rets r (op.target 0) e pb q →
      Emitted ops args C X loops rets r pc e p q
  | returnOp {loops rets r pc e p q rb nb} {op : Opcode} : pc < e → ops[pc]? = some op →
      op.role = .returnOp → op.opname ≠ "exit" → r = true → rets.head? = some rb →
      instrAt C p = some (.br rb) →
      Emitted ops args C X loops rets r (pc + 1) e (nb, 0) q →
      Emitted ops args C X loops rets r pc e p q
  | exitOp {loops rets r pc e p q x nb} {op : Opcode} : pc < e → ops[pc]? = some op →
      op.role = .returnOp → op.opname = "exit" → X = some x → instrAt C p = some (.br x) →
      Emitted ops args C X loops rets r (pc + 1) e (nb, 0) q →
      Emitted ops args C X loops rets r pc e p q

/-! ### The generator state -/

namespace CodeGen

/-- The block and index where the next instruction goes. -/
def pos (g : CodeGen) : Nat × Nat := (g.insertPoint, (g.code g.insertPoint).length)

/-- The invariant of the generator state: blocks not created yet are empty, every block the
state names (the insert point, the loop and return blocks, the exit block) exists, and the exit
block is empty and not the insert point (code only branches to it). -/
structure Valid (g : CodeGen) : Prop where
  fresh : ∀ b, g.numBlocks ≤ b → g.code b = []
  insertPoint_lt : g.insertPoint < g.numBlocks
  loops_lt : ∀ p ∈ g.loops, p.1 < g.numBlocks ∧ p.2 < g.numBlocks
  returnBlocks_lt : ∀ b ∈ g.returnBlocks, b < g.numBlocks
  exit_lt : ∀ x, g.exitInstanceBlock = some x → x < g.numBlocks
  exit_code : ∀ x, g.exitInstanceBlock = some x → g.code x = [] ∧ x ≠ g.insertPoint

/-- What lowering a range does to the state: blocks are only added and code only appended;
the blocks that existed before, other than the insert point, are left alone; lowering ends
at the insert point or at a block it created; the stacks are as they were; an exit block
stays, and one it creates is new. -/
structure Grows (g g' : CodeGen) : Prop where
  numBlocks_le : g.numBlocks ≤ g'.numBlocks
  code_extends : ∀ b, g.code b <+: g'.code b
  code_frame : ∀ b < g.numBlocks, b ≠ g.insertPoint → g'.code b = g.code b
  insertPoint : g'.insertPoint = g.insertPoint ∨ g.numBlocks ≤ g'.insertPoint
  loops : g'.loops = g.loops
  returnBlocks : g'.returnBlocks = g.returnBlocks
  exit_mono : ∀ x, g.exitInstanceBlock = some x → g'.exitInstanceBlock = some x
  exit_fresh : ∀ x, g'.exitInstanceBlock = some x → g.exitInstanceBlock = some x ∨ g.numBlocks ≤ x

theorem Grows.refl (g : CodeGen) : g.Grows g :=
  ⟨le_rfl, fun _ => List.prefix_refl _, fun _ _ _ => rfl, .inl rfl, rfl, rfl, fun _ h => h,
    fun _ h => .inl h⟩

theorem Grows.trans {g g' g'' : CodeGen} (h : g.Grows g') (h' : g'.Grows g'') : g.Grows g'' where
  numBlocks_le := h.numBlocks_le.trans h'.numBlocks_le
  code_extends b := (h.code_extends b).trans (h'.code_extends b)
  code_frame b hb hne := by
    rw [h'.code_frame b (by have := h.numBlocks_le; omega), h.code_frame b hb hne]
    rcases h.insertPoint with h1 | h1 <;> omega
  insertPoint := by
    have := h.numBlocks_le
    rcases h.insertPoint with h1 | h1 <;> rcases h'.insertPoint with h2 | h2 <;> omega
  loops := h'.loops.trans h.loops
  returnBlocks := h'.returnBlocks.trans h.returnBlocks
  exit_mono x hx := h'.exit_mono x (h.exit_mono x hx)
  exit_fresh x hx := by
    have := h.numBlocks_le
    rcases h'.exit_fresh x hx with h1 | h1
    · exact h.exit_fresh x h1
    · exact .inr (by omega)

@[simp] theorem setInsertPoint_setInsertPoint (g : CodeGen) (a b : Nat) :
    (g.setInsertPoint a).setInsertPoint b = g.setInsertPoint b := rfl

theorem code_emit_of_ne {g : CodeGen} {b : Nat} (i : Instr) (h : b ≠ g.insertPoint) :
    (g.emit i).code b = g.code b := by
  simp [h]

@[simp] theorem popLoop_pos (g : CodeGen) : g.popLoop.pos = g.pos := rfl

theorem pos_emit (g : CodeGen) (i : Instr) :
    (g.emit i).pos = (g.insertPoint, (g.code g.insertPoint).length + 1) := by
  simp [pos]

/-- Emitting at the insert point keeps the state valid. -/
theorem Valid.emit {g : CodeGen} (hv : g.Valid) (i : Instr) : (g.emit i).Valid where
  fresh b hb := by
    rw [code_emit_of_ne i (by have := hv.insertPoint_lt; simp at hb; omega)]; exact hv.fresh b hb
  insertPoint_lt := hv.insertPoint_lt
  loops_lt := hv.loops_lt
  returnBlocks_lt := hv.returnBlocks_lt
  exit_lt := hv.exit_lt
  exit_code x hx := by
    obtain ⟨h1, h2⟩ := hv.exit_code x hx
    exact ⟨by rw [code_emit_of_ne i h2, h1], h2⟩

/-- Emitting at the insert point is a step of lowering. -/
theorem grows_emit (g : CodeGen) (i : Instr) : g.Grows (g.emit i) where
  numBlocks_le := le_rfl
  code_extends b := by
    by_cases h : b = g.insertPoint
    · subst h; simp
    · simp [h]
  code_frame _ _ hne := code_emit_of_ne _ hne
  insertPoint := .inl rfl
  loops := rfl
  returnBlocks := rfl
  exit_mono _ h := h
  exit_fresh _ h := .inl h

/-- An instruction emitted at the insert point sits at the insert point's position in any
code that extends the result. -/
theorem instrAt_emit {g : CodeGen} {i : Instr} {C : Nat → List Instr}
    (hC : (g.emit i).code g.insertPoint <+: C g.insertPoint) : instrAt C g.pos = some i := by
  obtain ⟨t, ht⟩ := hC
  simp only [instrAt, pos, ← ht, emit_code, Function.update_same, List.append_assoc]
  rw [List.getElem?_append_right (le_refl _)]
  simp

/-- The code after a branch: `op_branch(target)`, then a new block as the insert point. -/
theorem branch_then_new_block {g : CodeGen} (hv : g.Valid) (t : Nat) :
    let g1 := ((g.opBranch t).newBasicBlock.2).setInsertPoint (g.opBranch t).newBasicBlock.1
    g.Grows g1 ∧ g1.Valid ∧ g1.code g.insertPoint = g.code g.insertPoint ++ [.br t] ∧
      g1.pos = (g.numBlocks, 0) := by
  have hip := hv.insertPoint_lt
  refine ⟨⟨by simp, fun b => ?_, fun b _ hne => by simp [hne], by simp, rfl, rfl, fun _ h => h,
      fun _ h => .inl h⟩,
    ⟨fun b hb => ?_, by simp, fun p hp => ?_, fun b hb => ?_, fun x hx => ?_, fun x hx => ?_⟩,
    by simp, ?_⟩
  · by_cases h : b = g.insertPoint
    · subst h; simp
    · simp [h]
  · simp at hb; simp [show b ≠ g.insertPoint by omega, hv.fresh b (by omega)]
  · have := hv.loops_lt p hp; simp; omega
  · have := hv.returnBlocks_lt b hb; simp; omega
  · have := hv.exit_lt x hx; simp; omega
  · have := hv.exit_lt x hx
    obtain ⟨h1, h2⟩ := hv.exit_code x hx
    simp [h1, h2]; omega
  · simp [pos, show g.numBlocks ≠ g.insertPoint by omega, hv.fresh]

/-- The state an instance's function begins in is valid. -/
theorem entry_valid : entry.Valid where
  fresh _ _ := rfl
  insertPoint_lt := by decide
  loops_lt _ h := nomatch h
  returnBlocks_lt _ h := nomatch h
  exit_lt _ h := nomatch h
  exit_code _ h := nomatch h

/-- A new block keeps the state valid. -/
theorem Valid.newBasicBlock {g : CodeGen} (hv : g.Valid) : g.newBasicBlock.2.Valid where
  fresh b hb := hv.fresh b (by simp at hb; omega)
  insertPoint_lt := by have := hv.insertPoint_lt; simp; omega
  loops_lt p hp := by have := hv.loops_lt p hp; simp; omega
  returnBlocks_lt b hb := by have := hv.returnBlocks_lt b hb; simp; omega
  exit_lt x hx := by have := hv.exit_lt x hx; simp; omega
  exit_code := hv.exit_code

/-- Emitting a branch and moving to an existing block that is not the exit block keeps the
state valid. -/
theorem Valid.emit_setInsertPoint {g : CodeGen} (hv : g.Valid) (i : Instr) {b : Nat}
    (hb : b < g.numBlocks) (hbx : ∀ x, g.exitInstanceBlock = some x → x ≠ b) :
    ((g.emit i).setInsertPoint b).Valid :=
  have hv' := hv.emit i
  ⟨hv'.fresh, hb, hv'.loops_lt, hv'.returnBlocks_lt, hv'.exit_lt,
    fun x hx => ⟨(hv'.exit_code x hx).1, hbx x hx⟩⟩

/-- Pushing a loop whose blocks exist keeps the state valid. -/
theorem Valid.pushLoop {g : CodeGen} (hv : g.Valid) {s a : Nat} (hs : s < g.numBlocks)
    (ha : a < g.numBlocks) : (g.pushLoop s a).Valid where
  fresh := hv.fresh
  insertPoint_lt := hv.insertPoint_lt
  loops_lt p hp := by
    simp only [pushLoop_loops, List.mem_cons] at hp
    rcases hp with rfl | hp
    · exact ⟨hs, ha⟩
    · exact hv.loops_lt p hp
  returnBlocks_lt := hv.returnBlocks_lt
  exit_lt := hv.exit_lt
  exit_code := hv.exit_code

/-- Popping a loop keeps the state valid. -/
theorem Valid.popLoop {g : CodeGen} (hv : g.Valid) : g.popLoop.Valid :=
  ⟨hv.fresh, hv.insertPoint_lt, fun p hp => hv.loops_lt p (List.mem_of_mem_tail hp),
    hv.returnBlocks_lt, hv.exit_lt, hv.exit_code⟩

/-- `push_function` keeps the state valid. -/
theorem Valid.pushFunction {g : CodeGen} (hv : g.Valid) : g.pushFunction.2.Valid where
  fresh b hb := by simp at hb ⊢; exact hv.fresh b (by omega)
  insertPoint_lt := by have := hv.insertPoint_lt; simp; omega
  loops_lt p hp := by have := hv.loops_lt p (by simpa using hp); simp; omega
  returnBlocks_lt b hb := by
    simp only [pushFunction_returnBlocks, List.mem_cons] at hb
    rcases hb with rfl | hb
    · simp
    · have := hv.returnBlocks_lt b hb; simp; omega
  exit_lt x hx := by have := hv.exit_lt x (by simpa using hx); simp; omega
  exit_code x hx := by simpa using hv.exit_code x (by simpa using hx)

/-- Asking for the exit block: it exists afterwards, and nothing else changes but a new
block when it did not. -/
theorem llvmExitInstanceBlock_spec {g : CodeGen} (hv : g.Valid) :
    g.Grows g.llvmExitInstanceBlock.2 ∧ g.llvmExitInstanceBlock.2.Valid ∧
      g.llvmExitInstanceBlock.2.exitInstanceBlock = some g.llvmExitInstanceBlock.1 ∧
      g.llvmExitInstanceBlock.2.code = g.code ∧
      g.llvmExitInstanceBlock.2.insertPoint = g.insertPoint := by
  unfold llvmExitInstanceBlock
  split
  · next x hx => exact ⟨Grows.refl g, hv, hx, rfl, rfl⟩
  · next hx =>
    have := hv.insertPoint_lt
    refine ⟨⟨by simp, fun _ => List.prefix_refl _, fun _ _ _ => rfl, .inl rfl, rfl, rfl,
      fun x h => by simp [hx] at h, fun x h => .inr (by simp at h; omega)⟩,
      ⟨fun b hb => hv.fresh b (by simp at hb; omega), by simp; omega,
      fun p hp => ?_, fun b hb => ?_, fun x h => by simp at h ⊢; omega,
      fun x h => by simp at h ⊢; subst h; exact ⟨hv.fresh _ le_rfl, by omega⟩⟩, rfl, rfl, rfl⟩
    · have := hv.loops_lt p hp; simp; omega
    · have := hv.returnBlocks_lt b hb; simp; omega

/-- A state while an op's generator lays out its ranges: the op started from `g` and created
the blocks `[g.numBlocks, g.numBlocks + k)`, and those from `m` on are still unused, that is
empty and not the insert point. The state has grown from `g` as lowering does, but for its
stacks, and an exit block it made is none of the op's blocks. -/
structure Reserved (g : CodeGen) (k m : Nat) (S : CodeGen) : Prop where
  valid : S.Valid
  numBlocks_le : g.numBlocks + k ≤ S.numBlocks
  unused : ∀ b, m ≤ b → b < g.numBlocks + k → S.code b = [] ∧ b ≠ S.insertPoint
  code_extends : ∀ b, g.code b <+: S.code b
  code_frame : ∀ b < g.numBlocks, b ≠ g.insertPoint → S.code b = g.code b
  insertPoint : S.insertPoint = g.insertPoint ∨ g.numBlocks ≤ S.insertPoint
  exit_mono : ∀ x, g.exitInstanceBlock = some x → S.exitInstanceBlock = some x
  exit_fresh : ∀ x, S.exitInstanceBlock = some x →
    (g.exitInstanceBlock = some x ∧ x < g.numBlocks) ∨ g.numBlocks + k ≤ x

namespace Reserved

variable {g S S' : CodeGen} {k m : Nat}

/-- Right after creating its blocks, with the code, insert point and exit block of `g`, an
op has used none of them. -/
theorem start (hv : g.Valid) (hvS : S.Valid) (hc : S.code = g.code)
    (hn : S.numBlocks = g.numBlocks + k) (hip : S.insertPoint = g.insertPoint)
    (hx : S.exitInstanceBlock = g.exitInstanceBlock) : Reserved g k g.numBlocks S where
  valid := hvS
  numBlocks_le := hn.ge
  unused b hb _ := ⟨by rw [hc]; exact hv.fresh b hb, by have := hv.insertPoint_lt; omega⟩
  code_extends b := hc ▸ List.prefix_refl _
  code_frame b _ _ := by rw [hc]
  insertPoint := .inl hip
  exit_mono x h := hx.trans h
  exit_fresh x h := .inl ⟨hx ▸ h, hv.exit_lt x (hx ▸ h)⟩

/-- Lowering a range keeps the unused blocks unused. -/
theorem grows (h : Reserved g k m S) (hg : S.Grows S') (hv : S'.Valid) : Reserved g k m S' where
  valid := hv
  numBlocks_le := h.numBlocks_le.trans hg.numBlocks_le
  unused b hm hb := by
    obtain ⟨he, hne⟩ := h.unused b hm hb
    have := h.numBlocks_le
    refine ⟨by rw [hg.code_frame b (by omega) hne, he], ?_⟩
    rcases hg.insertPoint with h1 | h1 <;> omega
  code_extends b := (h.code_extends b).trans (hg.code_extends b)
  code_frame b hb hne := by
    have := h.numBlocks_le
    rw [hg.code_frame b (by omega) (by rcases h.insertPoint with h1 | h1 <;> omega),
      h.code_frame b hb hne]
  insertPoint := by
    have := h.numBlocks_le
    rcases h.insertPoint with h1 | h1 <;> rcases hg.insertPoint with h2 | h2 <;> omega
  exit_mono x hx := hg.exit_mono x (h.exit_mono x hx)
  exit_fresh x hx := by
    rcases hg.exit_fresh x hx with h1 | h1
    · exact h.exit_fresh x h1
    · exact .inr (by have := h.numBlocks_le; omega)

/-- Branching, then moving the insert point to the first unused block. -/
theorem enter (h : Reserved g k m S) (hm : g.numBlocks ≤ m) (hmk : m < g.numBlocks + k)
    (i : Instr) : Reserved g k (m + 1) ((S.emit i).setInsertPoint m) where
  valid := h.valid.emit_setInsertPoint i (by have := h.numBlocks_le; omega) fun x hx => by
    rcases h.exit_fresh x hx with ⟨_, h1⟩ | h1 <;> omega
  numBlocks_le := by simpa using h.numBlocks_le
  unused b hb1 hb2 := by
    obtain ⟨he, hne⟩ := h.unused b (by omega) hb2
    simp only [setInsertPoint_code, code_emit_of_ne i hne, he, setInsertPoint_insertPoint]
    exact ⟨trivial, by omega⟩
  code_extends b := (h.code_extends b).trans ((grows_emit S i).code_extends b)
  code_frame b hb hne := by
    rw [setInsertPoint_code, code_emit_of_ne i (by rcases h.insertPoint with h1 | h1 <;> omega),
      h.code_frame b hb hne]
  insertPoint := .inr hm
  exit_mono := h.exit_mono
  exit_fresh := h.exit_fresh

/-- Popping a loop changes only the loop stack. -/
theorem popLoop (h : Reserved g k m S) : Reserved g k m S.popLoop :=
  ⟨h.valid.popLoop, h.numBlocks_le, h.unused, h.code_extends, h.code_frame, h.insertPoint,
    h.exit_mono, h.exit_fresh⟩

/-- The block just entered is where the next range's code begins. -/
theorem pos_enter (h : Reserved g k m S) (hmk : m < g.numBlocks + k) (i : Instr) :
    ((S.emit i).setInsertPoint m).pos = (m, 0) := by
  obtain ⟨he, hne⟩ := h.unused m le_rfl hmk
  simp [pos, code_emit_of_ne i hne, he]

/-- Once its stacks are as they were, the op's final state grew from `g` as lowering does. -/
theorem toGrows (h : Reserved g k m S) (hl : S.loops = g.loops)
    (hr : S.returnBlocks = g.returnBlocks) : g.Grows S :=
  ⟨by have := h.numBlocks_le; omega, h.code_extends, h.code_frame, h.insertPoint, hl, hr,
    h.exit_mono, fun x hx => (h.exit_fresh x hx).imp And.left fun h1 => by omega⟩

end Reserved

end CodeGen

/-! ### `build_llvm_code` lays out well-nested ranges -/

section Lowering

open CodeGen

variable (ops : List Opcode) (args : List Nat) (debug : Bool) (lowerOp : Nat → Bool)

theorem buildLlvmCode_some_bb (F b e x : Nat) (g : CodeGen) :
    buildLlvmCode ops args debug lowerOp F b e (some x) g =
      buildLlvmCode ops args debug lowerOp F b e none (g.setInsertPoint x) := by
  cases F <;> rfl

theorem buildLlvmCode_done {F b e : Nat} (h : e ≤ b) (g : CodeGen) :
    buildLlvmCode ops args debug lowerOp (F + 1) b e none g = some (true, g) := by
  simp [buildLlvmCode, show ¬ b < e by omega]

theorem buildLlvmCode_step {F b e : Nat} {op : Opcode} {g g1 : CodeGen} (hlt : b < e)
    (hop : ops[b]? = some op)
    (hgen : llvmGen args debug lowerOp (buildLlvmCode ops args debug lowerOp F) b op g = some (true, g1)) :
    buildLlvmCode ops args debug lowerOp (F + 1) b e none g =
      buildLlvmCode ops args debug lowerOp F (op.nextOp b) e none g1 := by
  simp [buildLlvmCode, hlt, hop, hgen]

/-- `build_llvm_code` lowers `[pc, e)` from `g` successfully, to a state that grew from `g`
as lowering does, and lays the range's code out as `Emitted` says in any code extending the
final state. -/
def Lowers (F pc e : Nat) (r : Bool) (g : CodeGen) : Prop :=
  ∃ g', buildLlvmCode ops args debug lowerOp F pc e none g = some (true, g') ∧ g.Grows g' ∧
    g'.Valid ∧ ∀ C X, (∀ b, g'.code b <+: C b) → (∀ x, g'.exitInstanceBlock = some x → X = some x) →
      Emitted ops args C X g.loops g.returnBlocks r pc e g.pos g'.pos

/-- The generator of `op` at `pc` succeeds from `g`, and lays the range `[pc, e)` out as
`Emitted` says once the ops from `op.nextOp pc` on are laid out. -/
def GenLowers (F pc e : Nat) (r : Bool) (op : Opcode) (g : CodeGen) : Prop :=
  ∃ g1, llvmGen args debug lowerOp (buildLlvmCode ops args debug lowerOp F) pc op g =
      some (true, g1) ∧ g.Grows g1 ∧ g1.Valid ∧
    ∀ C X, (∀ b, g1.code b <+: C b) → (∀ x, g1.exitInstanceBlock = some x → X = some x) → ∀ q,
      Emitted ops args C X g.loops g.returnBlocks r (op.nextOp pc) e g1.pos q →
      Emitted ops args C X g.loops g.returnBlocks r pc e g.pos q

theorem lowers_succ {F pc e : Nat} {r : Bool} {op : Opcode} {g : CodeGen} (hlt : pc < e)
    (hop : ops[pc]? = some op) (hgen : GenLowers ops args debug lowerOp F pc e r op g)
    (hrest : ∀ g1, g1.Valid → g1.loops = g.loops → g1.returnBlocks = g.returnBlocks →
      Lowers ops args debug lowerOp F (op.nextOp pc) e r g1) :
    Lowers ops args debug lowerOp (F + 1) pc e r g := by
  obtain ⟨g1, hb1, hg1, hv1, he1⟩ := hgen
  obtain ⟨g', hb', hg', hv', he'⟩ := hrest g1 hv1 hg1.loops hg1.returnBlocks
  refine ⟨g', by rw [buildLlvmCode_step ops args debug lowerOp hlt hop hb1, hb'], hg1.trans hg', hv', ?_⟩
  intro C X hC hX
  refine he1 C X (fun b => (hg'.code_extends b).trans (hC b)) (fun x hx => hX x (hg'.exit_mono x hx)) _ ?_
  rw [← hg1.loops, ← hg1.returnBlocks]
  exact he' C X hC hX


variable {ops args debug lowerOp}

theorem genLowers_straight {F pc e : Nat} {r : Bool} {op : Opcode} {g : CodeGen} (hv : g.Valid)
    (hlt : pc < e) (hop : ops[pc]? = some op) (hrole : op.role = .straight)
    (hfar : op.farthestJump < 0) (hok : lowerOp pc = true) :
    GenLowers ops args debug lowerOp F pc e r op g := by
  refine ⟨g.emit (.lowered pc), by simp [llvmGen, hrole, hok], grows_emit g _, hv.emit _, ?_⟩
  intro C X hC _ q hrest
  rw [Opcode.nextOp_of_farthestJump_neg hfar, pos_emit] at hrest
  exact .straight hlt hop hrole (instrAt_emit (hC _)) hrest

theorem genLowers_nop {F pc e : Nat} {r : Bool} {op : Opcode} {g : CodeGen} (hv : g.Valid)
    (hlt : pc < e) (hop : ops[pc]? = some op) (hrole : op.role = .nop)
    (hfar : op.farthestJump < 0) : GenLowers ops args debug lowerOp F pc e r op g := by
  refine ⟨g, by simp [llvmGen, hrole], Grows.refl g, hv, fun C X _ _ q hrest => ?_⟩
  rw [Opcode.nextOp_of_farthestJump_neg hfar] at hrest
  exact .nop hlt hop hrole hrest

theorem genLowers_loopmod {F pc e : Nat} {r : Bool} {op : Opcode} {g : CodeGen} (hv : g.Valid)
    (hlt : pc < e) (hop : ops[pc]? = some op) (hrole : op.role = .loopmodOp)
    (hfar : op.farthestJump < 0) (hl : g.loops ≠ []) :
    GenLowers ops args debug lowerOp F pc e r op g := by
  obtain ⟨⟨s, a⟩, t, hL⟩ := List.exists_cons_of_ne_nil hl
  obtain ⟨hg, hv1, hcode, hpos⟩ := branch_then_new_block hv (if op.opname = "break" then a else s)
  refine ⟨_, ?_, hg, hv1, fun C X hC _ q hrest => ?_⟩
  · by_cases hb : op.opname = "break" <;>
      simp [llvmGen, hrole, llvmGenLoopmodOp, loopAfterBlock, loopStepBlock, hL, hb]
  · rw [Opcode.nextOp_of_farthestJump_neg hfar, hpos] at hrest
    have hhead : g.loops.head? = some (s, a) := by simp [hL]
    refine .loopmodOp hlt hop hrole hhead (instrAt_emit ?_) hrest
    simpa [hcode] using hC g.insertPoint


theorem genLowers_return {F pc e : Nat} {op : Opcode} {g : CodeGen} (hv : g.Valid)
    (hlt : pc < e) (hop : ops[pc]? = some op) (hrole : op.role = .returnOp)
    (hfar : op.farthestJump < 0) (hexit : op.opname ≠ "exit") (hr : g.returnBlocks ≠ []) :
    GenLowers ops args debug lowerOp F pc e true op g := by
  obtain ⟨rb, t, hR⟩ := List.exists_cons_of_ne_nil hr
  obtain ⟨hg, hv1, hcode, hpos⟩ := branch_then_new_block hv rb
  refine ⟨_, by simp [llvmGen, hrole, llvmGenReturn, returnBlock, hR, hexit], hg, hv1,
    fun C X hC _ q hrest => ?_⟩
  rw [Opcode.nextOp_of_farthestJump_neg hfar, hpos] at hrest
  have hhead : g.returnBlocks.head? = some rb := by simp [hR]
  refine .returnOp hlt hop hrole hexit rfl hhead (instrAt_emit ?_) hrest
  simpa [hcode] using hC g.insertPoint


theorem genLowers_exit {F pc e : Nat} {r : Bool} {op : Opcode} {g : CodeGen} (hv : g.Valid)
    (hlt : pc < e) (hop : ops[pc]? = some op) (hrole : op.role = .returnOp)
    (hfar : op.farthestJump < 0) (hexit : op.opname = "exit") :
    GenLowers ops args debug lowerOp F pc e r op g := by
  obtain ⟨hgx, hvx, hxx, hcx, hipx⟩ := llvmExitInstanceBlock_spec hv
  obtain ⟨hg, hv1, hcode, hpos⟩ := branch_then_new_block hvx g.llvmExitInstanceBlock.1
  refine ⟨_, by simp [llvmGen, hrole, llvmGenReturn, hexit], hgx.trans hg, hv1,
    fun C X hC hX q hrest => ?_⟩
  rw [Opcode.nextOp_of_farthestJump_neg hfar, hpos] at hrest
  have hx : X = some g.llvmExitInstanceBlock.1 := hX _ (by simpa using hxx)
  have hp : g.llvmExitInstanceBlock.2.pos = g.pos := by simp [pos, hcx, hipx]
  refine .exitOp hlt hop hrole hexit hx ?_ hrest
  rw [← hp]
  exact instrAt_emit (by simpa [hcode] using hC g.llvmExitInstanceBlock.2.insertPoint)



/-- `llvm_gen_functioncall`: the body at the insert point with a new return block pushed, then
a branch to that block, where the code after the call goes. -/
theorem genLowers_functioncall {F pc e : Nat} {r : Bool} {op : Opcode} {g : CodeGen}
    (hv : g.Valid) (hlt : pc < e) (hop : ops[pc]? = some op) (hrole : op.role = .functioncall)
    (ht : pc < op.target 0) (hte : op.target 0 ≤ e) (hfar : op.farthestJump = op.jump 0)
    (hbody : ∀ g', g'.Valid → g'.loops = g.loops → g'.returnBlocks ≠ [] →
      Lowers ops args debug lowerOp F (pc + 1) (op.target 0) true g') :
    GenLowers ops args debug lowerOp F pc e r op g := by
  have hip := hv.insertPoint_lt
  obtain ⟨g3, hb3, hg3, hv3, he3⟩ := hbody _ hv.pushFunction (by simp) (by simp)
  have hip3 : g3.insertPoint ≠ g.numBlocks := by
    have := hg3.numBlocks_le; rcases hg3.insertPoint with h | h <;> simp at h this <;> omega
  have hnb3 : g.numBlocks < g3.numBlocks := by have := hg3.numBlocks_le; simp at this; omega
  have hfresh : g3.code g.numBlocks = [] := by
    rw [hg3.code_frame _ (by simp) (by simp; omega)]; exact hv.fresh _ le_rfl
  -- an exit block at the end was there before, or is newer than the return block
  have hx3 : ∀ x, g3.exitInstanceBlock = some x →
      g.exitInstanceBlock = some x ∨ g.numBlocks < x := fun x hx => by
    rcases hg3.exit_fresh x hx with h | h
    · exact .inl (by simpa using h)
    · simp at h; exact .inr (by omega)
  refine ⟨(g3.opBranch g.numBlocks).popFunction, ?_, ⟨?_, fun b => ?_, fun b hb hne => ?_, by simp,
    by simp [hg3.loops], by simp [hg3.returnBlocks], fun x hx => by simpa using hg3.exit_mono x hx,
    fun x hx => (hx3 x (by simpa using hx)).imp id le_of_lt⟩,
    ⟨fun b hb => ?_, by simpa using hnb3, fun p hp => ?_, fun b hb => ?_, fun x hx => ?_,
      fun x hx => ?_⟩,
    fun C X hC hX q hrest => ?_⟩
  · simp only [pushFunction] at hb3
    simp [llvmGen, hrole, llvmGenFunctioncall, pushFunction, hb3]
  · simp; omega
  · simpa using (hg3.code_extends b).trans ((grows_emit g3 (.br g.numBlocks)).code_extends b)
  · have : b ≠ g3.insertPoint := by
      have := hg3.numBlocks_le; rcases hg3.insertPoint with h | h <;> simp at h this <;> omega
    simp [this, hg3.code_frame b (by simp; omega) (by simpa using hne)]
  · simp at hb; simp [show b ≠ g3.insertPoint by have := hv3.insertPoint_lt; omega, hv3.fresh b hb]
  · exact hv3.loops_lt p (by simpa using hp)
  · exact hv3.returnBlocks_lt b (List.mem_of_mem_tail (by simpa using hb))
  · exact hv3.exit_lt x (by simpa using hx)
  · simp only [popFunction_exitInstanceBlock, setInsertPoint_exitInstanceBlock,
      emit_exitInstanceBlock, opBranch_eq] at hx
    obtain ⟨h1, h2⟩ := hv3.exit_code x hx
    have : x ≠ g.numBlocks := by
      rcases hx3 x hx with h | h
      · have := hv.exit_lt x h; omega
      · omega
    simp only [popFunction_code, popFunction_insertPoint, setInsertPoint_code,
      setInsertPoint_insertPoint, opBranch_eq]
    exact ⟨by rw [code_emit_of_ne _ h2, h1], this⟩
  · rw [Opcode.nextOp_of_farthestJump_eq hfar (by omega)] at hrest
    have hpos : ((g3.opBranch g.numBlocks).popFunction).pos = (g.numBlocks, 0) := by
      simp [pos, Ne.symm hip3, hfresh]
    rw [hpos] at hrest
    have hC3 : ∀ b, g3.code b <+: C b := fun b =>
      ((grows_emit g3 (.br g.numBlocks)).code_extends b).trans (by simpa using hC b)
    have hbody := he3 C X hC3 (fun x hx => hX x (by simpa using hx))
    simp only [pushFunction_loops, pushFunction_returnBlocks] at hbody
    exact .functioncall hlt hop hrole ht hte hbody (instrAt_emit (by simpa using hC g3.insertPoint))
      hrest

theorem genLowers_functioncallNr {F pc e : Nat} {r : Bool} {op : Opcode} {g : CodeGen}
    (hlt : pc < e) (hop : ops[pc]? = some op) (hrole : op.role = .functioncallNr)
    (hdebug : debug = true) (ht : pc < op.target 0) (hte : op.target 0 ≤ e)
    (hfar : op.farthestJump = op.jump 0)
    (hbody : Lowers ops args debug lowerOp F (pc + 1) (op.target 0) false g) :
    GenLowers ops args debug lowerOp F pc e r op g := by
  subst hdebug
  obtain ⟨g3, hb3, hg3, hv3, he3⟩ := hbody
  refine ⟨g3, by simp [llvmGen, hrole, llvmGenFunctioncallNr, hfar, hb3], hg3, hv3,
    fun C X hC hX q hrest => ?_⟩
  rw [Opcode.nextOp_of_farthestJump_eq hfar (by omega)] at hrest
  exact .functioncallNr hlt hop hrole ht hte (he3 C X hC hX) hrest


theorem genLowers_if {F pc e : Nat} {r : Bool} {op : Opcode} {g : CodeGen} (hv : g.Valid)
    (hlt : pc < e) (hop : ops[pc]? = some op) (hrole : op.role = .ifOp) (ht0 : pc < op.target 0)
    (ht01 : op.target 0 ≤ op.target 1) (ht1 : op.target 1 ≤ e) (hfar : op.farthestJump = op.jump 1)
    (hthen : ∀ g', g'.Valid → g'.loops = g.loops → g'.returnBlocks = g.returnBlocks →
      Lowers ops args debug lowerOp F (pc + 1) (op.target 0) r g')
    (helse : ∀ g', g'.Valid → g'.loops = g.loops → g'.returnBlocks = g.returnBlocks →
      Lowers ops args debug lowerOp F (op.target 0) (op.target 1) r g') :
    GenLowers ops args debug lowerOp F pc e r op g := by
  -- the then, else and after blocks are `n`, `n + 1` and `n + 2`
  let g1 : CodeGen :=
    { code := g.code, numBlocks := g.numBlocks + 1 + 1 + 1, insertPoint := g.insertPoint,
      loops := g.loops, returnBlocks := g.returnBlocks, exitInstanceBlock := g.exitInstanceBlock }
  have R1 : Reserved g 3 g.numBlocks g1 :=
    .start hv hv.newBasicBlock.newBasicBlock.newBasicBlock rfl rfl rfl rfl
  let g2 := (g1.emit (.condbr (op.argSym args 0) g.numBlocks (g.numBlocks + 1))).setInsertPoint
    g.numBlocks
  have R2 : Reserved g 3 (g.numBlocks + 1) g2 := R1.enter le_rfl (by omega) _
  obtain ⟨g4, hb4, hg4, hv4, he4⟩ := hthen g2 R2.valid rfl rfl
  have R4 := R2.grows hg4 hv4
  let g5 := (g4.emit (.br (g.numBlocks + 1 + 1))).setInsertPoint (g.numBlocks + 1)
  have R5 : Reserved g 3 (g.numBlocks + 1 + 1) g5 := R4.enter (by omega) (by omega) _
  obtain ⟨g6, hb6, hg6, hv6, he6⟩ := helse g5 R5.valid (by simp [g5, hg4.loops, g2, g1])
    (by simp [g5, hg4.returnBlocks, g2, g1])
  have R6 := R5.grows hg6 hv6
  have Ra := R6.enter (by omega) (by omega) (.br (g.numBlocks + 1 + 1))
  refine ⟨(g6.emit (.br (g.numBlocks + 1 + 1))).setInsertPoint (g.numBlocks + 1 + 1), ?_,
    Ra.toGrows (hg6.loops.trans hg4.loops) (hg6.returnBlocks.trans hg4.returnBlocks), Ra.valid,
    fun C X hC hX q hrest => ?_⟩
  · simp only [llvmGen, hrole, llvmGenIf, newBasicBlock, opCondBranch_eq, opBranch_eq,
      buildLlvmCode_some_bb, setInsertPoint_setInsertPoint]
    simp only [g2, g1] at hb4
    simp only [g5] at hb6
    simp [hb4, hb6]
  · rw [Opcode.nextOp_of_farthestJump_eq hfar (by omega), R6.pos_enter (by omega)] at hrest
    have hC6 : ∀ b, g6.code b <+: C b := fun b => ((grows_emit g6 _).code_extends b).trans (hC b)
    have hC5 : ∀ b, g5.code b <+: C b := fun b => (hg6.code_extends b).trans (hC6 b)
    have hC4 : ∀ b, g4.code b <+: C b := fun b => ((grows_emit g4 _).code_extends b).trans (hC5 b)
    have hC2 : ∀ b, g2.code b <+: C b := fun b => (hg4.code_extends b).trans (hC4 b)
    have hthen := he4 C X hC4 fun x hx => hX x (hg6.exit_mono x hx)
    have helse := he6 C X hC6 hX
    rw [R1.pos_enter (by omega)] at hthen
    rw [R4.pos_enter (by omega), show g5.loops = g.loops from hg4.loops,
      show g5.returnBlocks = g.returnBlocks from hg4.returnBlocks] at helse
    exact .ifOp hlt hop hrole ht0 ht01 ht1 (instrAt_emit (hC2 g.insertPoint)) hthen
      (instrAt_emit (hC5 g4.insertPoint)) helse (instrAt_emit (hC g6.insertPoint)) hrest

theorem genLowers_loop {F pc e : Nat} {r : Bool} {op : Opcode} {g : CodeGen} (hv : g.Valid)
    (hlt : pc < e) (hop : ops[pc]? = some op) (hrole : op.role = .loopOp)
    (hnest : op.LoopNested pc) (ht3 : op.target 3 ≤ e) (hfar : op.farthestJump = op.jump 3)
    (hphase : ∀ ph : LoopPhase, ∀ g', g'.Valid →
      g'.loops = (g.numBlocks + 1 + 1, g.numBlocks + 1 + 1 + 1) :: g.loops →
      g'.returnBlocks = g.returnBlocks → Lowers ops args debug lowerOp F (ph.first op pc) (ph.last op) r g') :
    GenLowers ops args debug lowerOp F pc e r op g := by
  obtain ⟨h0, h1, h2, h3⟩ := hnest
  -- the condition, body, step and after blocks are `n` to `n + 3`
  let gi0 : CodeGen :=
    { code := g.code, numBlocks := g.numBlocks + 1 + 1 + 1 + 1, insertPoint := g.insertPoint,
      loops := (g.numBlocks + 1 + 1, g.numBlocks + 1 + 1 + 1) :: g.loops,
      returnBlocks := g.returnBlocks, exitInstanceBlock := g.exitInstanceBlock }
  have R0 : Reserved g 4 g.numBlocks gi0 := .start hv
    (hv.newBasicBlock.newBasicBlock.newBasicBlock.newBasicBlock.pushLoop (by simp) (by simp))
    rfl rfl rfl rfl
  -- the init range, at the insert point
  obtain ⟨gi, hbi, hgi, hvi, hei⟩ := hphase .init gi0 R0.valid rfl rfl
  have Ri := R0.grows hgi hvi
  -- the condition block
  let gc0 := (gi.emit (.br (if op.opname = "dowhile" then g.numBlocks + 1 else g.numBlocks))).setInsertPoint
    g.numBlocks
  have Rc0 : Reserved g 4 (g.numBlocks + 1) gc0 := Ri.enter le_rfl (by omega) _
  obtain ⟨gc, hbc, hgc, hvc, hec⟩ := hphase .cond gc0 Rc0.valid (by simp [gc0, hgi.loops, gi0])
    (by simp [gc0, hgi.returnBlocks, gi0])
  have Rc := Rc0.grows hgc hvc
  -- the body block
  let gb0 := (gc.emit (.condbr (op.argSym args 0) (g.numBlocks + 1) (g.numBlocks + 1 + 1 + 1))).setInsertPoint
    (g.numBlocks + 1)
  have Rb0 : Reserved g 4 (g.numBlocks + 1 + 1) gb0 := Rc.enter (by omega) (by omega) _
  obtain ⟨gb, hbb, hgb, hvb, heb⟩ := hphase .body gb0 Rb0.valid
    (by simp [gb0, hgc.loops, gc0, hgi.loops, gi0]) (by simp [gb0, hgc.returnBlocks, gc0, hgi.returnBlocks, gi0])
  have Rb := Rb0.grows hgb hvb
  -- the step block
  let gs0 := (gb.emit (.br (g.numBlocks + 1 + 1))).setInsertPoint (g.numBlocks + 1 + 1)
  have Rs0 : Reserved g 4 (g.numBlocks + 1 + 1 + 1) gs0 := Rb.enter (by omega) (by omega) _
  obtain ⟨gs, hbs, hgs, hvs, hes⟩ := hphase .step gs0 Rs0.valid
    (by simp [gs0, hgb.loops, gb0, hgc.loops, gc0, hgi.loops, gi0])
    (by simp [gs0, hgb.returnBlocks, gb0, hgc.returnBlocks, gc0, hgi.returnBlocks, gi0])
  have Rs := Rs0.grows hgs hvs
  -- the after block
  have Ra := (Rs.enter (by omega) (by omega) (.br g.numBlocks)).popLoop
  refine ⟨((gs.emit (.br g.numBlocks)).setInsertPoint (g.numBlocks + 1 + 1 + 1)).popLoop, ?_,
    Ra.toGrows (by simp [hgs.loops, gs0, hgb.loops, gb0, hgc.loops, gc0, hgi.loops, gi0])
      (by simp [hgs.returnBlocks, gs0, hgb.returnBlocks, gb0, hgc.returnBlocks, gc0, hgi.returnBlocks, gi0]),
    Ra.valid, fun C X hC hX q hrest => ?_⟩
  · simp only [llvmGen, hrole, llvmGenLoopOp, newBasicBlock, opCondBranch_eq, opBranch_eq,
      buildLlvmCode_some_bb, setInsertPoint_setInsertPoint]
    simp only [gi0, LoopPhase.first, LoopPhase.last] at hbi
    simp only [gc0, LoopPhase.first, LoopPhase.last] at hbc
    simp only [gb0, LoopPhase.first, LoopPhase.last] at hbb
    simp only [gs0, LoopPhase.first, LoopPhase.last] at hbs
    simp [pushLoop, hbi, hbc, hbb, hbs]
  · rw [Opcode.nextOp_of_farthestJump_eq hfar (by omega), popLoop_pos,
      Rs.pos_enter (by omega)] at hrest
    -- each range's code, and the exit block, stay in the code the later ranges extend
    have hCs : ∀ b, gs.code b <+: C b := fun b =>
      ((grows_emit gs _).code_extends b).trans (by simpa using hC b)
    have hCb : ∀ b, gb.code b <+: C b := fun b =>
      ((grows_emit gb _).code_extends b).trans ((hgs.code_extends b).trans (hCs b))
    have hCc : ∀ b, gc.code b <+: C b := fun b =>
      ((grows_emit gc _).code_extends b).trans ((hgb.code_extends b).trans (hCb b))
    have hCi : ∀ b, gi.code b <+: C b := fun b =>
      ((grows_emit gi _).code_extends b).trans ((hgc.code_extends b).trans (hCc b))
    have hXs : ∀ x, gs.exitInstanceBlock = some x → X = some x := fun x hx => hX x (by simpa using hx)
    have hXb : ∀ x, gb.exitInstanceBlock = some x → X = some x := fun x hx => hXs x (hgs.exit_mono x hx)
    have hXc : ∀ x, gc.exitInstanceBlock = some x → X = some x := fun x hx => hXb x (hgb.exit_mono x hx)
    have hXi : ∀ x, gi.exitInstanceBlock = some x → X = some x := fun x hx => hXc x (hgc.exit_mono x hx)
    have hlc : gc0.loops = gi0.loops := hgi.loops
    have hlb : gb0.loops = gi0.loops := hgc.loops.trans hlc
    have hls0 : gs0.loops = gi0.loops := hgb.loops.trans hlb
    have hrc : gc0.returnBlocks = g.returnBlocks := hgi.returnBlocks
    have hrb : gb0.returnBlocks = g.returnBlocks := hgc.returnBlocks.trans hrc
    have hrs0 : gs0.returnBlocks = g.returnBlocks := hgb.returnBlocks.trans hrb
    let lb : LoopBlocks := ⟨g.numBlocks, g.numBlocks + 1, g.numBlocks + 1 + 1, g.numBlocks + 1 + 1 + 1⟩
    refine .loopOp lb (fun | .init => gi.pos | .cond => gc.pos | .body => gb.pos | .step => gs.pos)
      hlt hop hrole ⟨h0, h1, h2, h3⟩ ht3 (fun ph => ?_) (fun ph => ?_) hrest
    · cases ph
      · exact hei C X hCi hXi
      · have := hec C X hCc hXc
        rwa [Ri.pos_enter (by omega), hlc, hrc] at this
      · have := heb C X hCb hXb
        rwa [Rc.pos_enter (by omega), hlb, hrb] at this
      · have := hes C X hCs hXs
        rwa [Rb.pos_enter (by omega), hls0, hrs0] at this
    · cases ph
      · simpa [lb, LoopBlocks.exitInstr] using
          instrAt_emit ((hgc.code_extends gi.insertPoint).trans (hCc gi.insertPoint))
      · exact instrAt_emit ((hgb.code_extends gc.insertPoint).trans (hCb gc.insertPoint))
      · exact instrAt_emit ((hgs.code_extends gb.insertPoint).trans (hCs gb.insertPoint))
      · exact instrAt_emit (by simpa using hC gs.insertPoint)


theorem buildLlvmCode_lowers (hgen : ∀ n, lowerOp n = true) {l r : Bool} {pc e : Nat}
    (hwn : WellNested ops debug l r pc e) :
    ∀ F g, e - pc < F → g.Valid → (l = true → g.loops ≠ []) → (r = true → g.returnBlocks ≠ []) →
      Lowers ops args debug lowerOp F pc e r g := by
  induction hwn with
  | done h =>
    intro F g hF hv _ _
    obtain ⟨F, rfl⟩ : ∃ F', F = F' + 1 := ⟨F - 1, by omega⟩
    exact ⟨g, buildLlvmCode_done ops args debug lowerOp h g, Grows.refl g, hv,
      fun _ _ _ _ => .done h⟩
  | straight hlt hop hrole hfar _ ih =>
    intro F g hF hv hl hr
    obtain ⟨F, rfl⟩ : ∃ F', F = F' + 1 := ⟨F - 1, by omega⟩
    refine lowers_succ ops args debug lowerOp hlt hop
      (genLowers_straight hv hlt hop hrole hfar (hgen _)) fun g1 hv1 hl1 hr1 => ?_
    rw [Opcode.nextOp_of_farthestJump_neg hfar]
    exact ih F g1 (by omega) hv1 (by rw [hl1]; exact hl) (by rw [hr1]; exact hr)
  | nop hlt hop hrole hfar _ ih =>
    intro F g hF hv hl hr
    obtain ⟨F, rfl⟩ : ∃ F', F = F' + 1 := ⟨F - 1, by omega⟩
    refine lowers_succ ops args debug lowerOp hlt hop (genLowers_nop hv hlt hop hrole hfar)
      fun g1 hv1 hl1 hr1 => ?_
    rw [Opcode.nextOp_of_farthestJump_neg hfar]
    exact ih F g1 (by omega) hv1 (by rw [hl1]; exact hl) (by rw [hr1]; exact hr)
  | ifOp hlt hop hrole ht0 ht01 ht1 hfar _ _ _ ihthen ihelse ihrest =>
    intro F g hF hv hl hr
    obtain ⟨F, rfl⟩ : ∃ F', F = F' + 1 := ⟨F - 1, by omega⟩
    refine lowers_succ ops args debug lowerOp hlt hop (genLowers_if hv hlt hop hrole ht0 ht01 ht1 hfar
      (fun g' hv' hl' hr' => ihthen F g' (by omega) hv' (by rw [hl']; exact hl) (by rw [hr']; exact hr))
      (fun g' hv' hl' hr' => ihelse F g' (by omega) hv' (by rw [hl']; exact hl) (by rw [hr']; exact hr)))
      fun g1 hv1 hl1 hr1 => ?_
    rw [Opcode.nextOp_of_farthestJump_eq hfar (by omega)]
    exact ihrest F g1 (by omega) hv1 (by rw [hl1]; exact hl) (by rw [hr1]; exact hr)
  | loopOp hlt hop hrole hnest ht3 hfar _ _ ihphase ihrest =>
    intro F g hF hv hl hr
    obtain ⟨F, rfl⟩ : ∃ F', F = F' + 1 := ⟨F - 1, by omega⟩
    have hb := LoopPhase.bounds hnest
    obtain ⟨h0, h1, h2, h3⟩ := id hnest
    refine lowers_succ ops args debug lowerOp hlt hop (genLowers_loop hv hlt hop hrole hnest ht3 hfar
      (fun ph g' hv' hl' hr' => ihphase ph F g' (by obtain ⟨_, _, _⟩ := hb ph; omega) hv'
        (by simp [hl']) (by rw [hr']; exact hr))) fun g1 hv1 hl1 hr1 => ?_
    rw [Opcode.nextOp_of_farthestJump_eq hfar (by omega)]
    exact ihrest F g1 (by omega) hv1 (by rw [hl1]; exact hl) (by rw [hr1]; exact hr)
  | loopmodOp hlt hop hrole hfar hl' _ ih =>
    intro F g hF hv hl hr
    obtain ⟨F, rfl⟩ : ∃ F', F = F' + 1 := ⟨F - 1, by omega⟩
    refine lowers_succ ops args debug lowerOp hlt hop (genLowers_loopmod hv hlt hop hrole hfar (hl hl'))
      fun g1 hv1 hl1 hr1 => ?_
    rw [Opcode.nextOp_of_farthestJump_neg hfar]
    exact ih F g1 (by omega) hv1 (by rw [hl1]; exact hl) (by rw [hr1]; exact hr)
  | functioncall hlt hop hrole ht0 ht0e hfar _ _ ihbody ihrest =>
    intro F g hF hv hl hr
    obtain ⟨F, rfl⟩ : ∃ F', F = F' + 1 := ⟨F - 1, by omega⟩
    refine lowers_succ ops args debug lowerOp hlt hop (genLowers_functioncall hv hlt hop hrole ht0 ht0e hfar
      (fun g' hv' hl' hr' => ihbody F g' (by omega) hv' (by rw [hl']; exact hl) fun _ => hr'))
      fun g1 hv1 hl1 hr1 => ?_
    rw [Opcode.nextOp_of_farthestJump_eq hfar (by omega)]
    exact ihrest F g1 (by omega) hv1 (by rw [hl1]; exact hl) (by rw [hr1]; exact hr)
  | functioncallNr hlt hop hrole hdebug ht0 ht0e hfar _ _ ihbody ihrest =>
    intro F g hF hv hl hr
    obtain ⟨F, rfl⟩ : ∃ F', F = F' + 1 := ⟨F - 1, by omega⟩
    refine lowers_succ ops args debug lowerOp hlt hop (genLowers_functioncallNr hlt hop hrole hdebug
      ht0 ht0e hfar (ihbody F g (by omega) hv hl (fun h => absurd h Bool.false_ne_true)))
      fun g1 hv1 hl1 hr1 => ?_
    rw [Opcode.nextOp_of_farthestJump_eq hfar (by omega)]
    exact ihrest F g1 (by omega) hv1 (by rw [hl1]; exact hl) (by rw [hr1]; exact hr)
  | @returnOp l r pc e op hlt hop hrole hfar hret _ ih =>
    intro F g hF hv hl hr
    obtain ⟨F, rfl⟩ : ∃ F', F = F' + 1 := ⟨F - 1, by omega⟩
    have hgen : GenLowers ops args debug lowerOp F pc e r op g := by
      by_cases hexit : op.opname = "exit"
      · exact genLowers_exit hv hlt hop hrole hfar hexit
      · obtain rfl := hret.resolve_left hexit
        exact genLowers_return hv hlt hop hrole hfar hexit (hr rfl)
    refine lowers_succ ops args debug lowerOp hlt hop hgen fun g1 hv1 hl1 hr1 => ?_
    rw [Opcode.nextOp_of_farthestJump_neg hfar]
    exact ih F g1 (by omega) hv1 (by rw [hl1]; exact hl) (by rw [hr1]; exact hr)


end Lowering

end OslExec
