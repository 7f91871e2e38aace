import OslExec.DerivOps

/-!
# Straight-line code refines a dual-number interpreter

The theorems of `ArithCorrect` and `DerivOps` say what one generator stores in its result. Here
they are carried over whole runs of straight-line code. The abstract side is an interpreter
that keeps one dual number per component of every symbol and sets an op's result to the
dual-number operation on its operands; the concrete side is the code the generators emit, run on
the symbols' storage. A store *represents* an environment when every component of every symbol
reads the environment's dual number (with zero derivatives for a symbol without them). Every
generator writes only its result (`DualGen.gen_frame`), so one op keeps the representation
(`DualGen.step_refines`) and so does a whole run (`runGen_refines`): the derivatives the code
keeps are the ones forward-mode differentiation of the op stream computes, and `Dx`/`Dy` read
them back.

## Key results

- `DualGen.gen_frame`: a generator writes no slot of a symbol other than its result
- `runGen_frame`: a run writes no slot of a symbol that is no op's result
- `DualGen.step_refines`: one op's code refines the interpreter's step
- `runGen_refines`: a run's code refines the interpreter's run
-/

namespace OslExec

/-! ### Slots another symbol's store leaves alone -/

section Frame

variable {α : Type} [LinearOrderedField α] {tab : Nat → Symbol}

omit [LinearOrderedField α] in
@[simp] theorem storeValue_apply_of_ne {m : Store α} {x d i : Nat} {v : α} {s : Slot}
    (h : s.1 ≠ x) : storeValue tab m x d i v s = m s := by
  rw [storeValue_apply, if_neg]
  rintro ⟨rfl, _⟩
  exact h rfl

@[simp] theorem zeroDerivs_apply_of_ne {m : Store α} {x : Nat} {s : Slot} (h : s.1 ≠ x) :
    zeroDerivs tab m x s = m s :=
  if_neg fun h' => h h'.2.1

omit [LinearOrderedField α] in
@[simp] theorem callMatrix_apply_of_ne {m : Store α} {R : Nat} {r : Nat → α} {s : Slot}
    (h : s.1 ≠ R) : callMatrix m R r s = m s :=
  if_neg fun h' => h h'.1

omit [LinearOrderedField α] in
/-- A loop none of whose iterations writes slot `s` leaves it alone. -/
theorem forRange_apply_of_keep {n : Nat} {body : Store α → Nat → Store α} {m : Store α}
    {s : Slot} (h : ∀ i (m : Store α), body m i s = m s) : forRange n body m s = m s :=
  forRange_induct (fun _ (M : Store α) => M s = m s) rfl fun i _ M hM => (h i M).trans hM

omit [LinearOrderedField α] in
/-- The same for a loop that carries values from one iteration to the next. -/
theorem forRange_fst_apply_of_keep {β : Type} {n : Nat} {body : Store α × β → Nat → Store α × β}
    {st : Store α × β} {s : Slot} (h : ∀ i (st : Store α × β), (body st i).1 s = st.1 s) :
    (forRange n body st).1 s = st.1 s :=
  forRange_induct (fun _ (M : Store α × β) => M.1 s = st.1 s) rfl fun i _ M hM => (h i M).trans hM

end Frame

/-! ### The generators of the dual-number ops -/

/-- The generators of the straight-line ops that compute one dual number per component of their
result, as the op descriptor table names them for an op: `llvm_gen_add`, `llvm_gen_sub`,
`llvm_gen_mul`, `llvm_gen_div`, `llvm_gen_neg`, `llvm_gen_mix`, `llvm_gen_clamp`,
`llvm_gen_minmax`, `llvm_gen_select`, `llvm_gen_modulus` and `llvm_gen_DxDy`. -/
inductive DualGen where
  | add | sub | mul | div | neg | mix | clamp | minmax | select | modulus | dxdy
  deriving DecidableEq, Repr

namespace DualGen

/-- The number of the op's arguments, the result first. -/
def arity : DualGen → Nat
  | neg | dxdy => 2
  | add | sub | mul | div | minmax | modulus => 3
  | mix | clamp | select => 4

section Gen

variable {α : Type} [LinearOrderedField α] [FloorRing α] (tab : Nat → Symbol)
  (lib : MatrixOps α) (useOptix : Bool)

/-- The generator's code, run on the symbols' storage. -/
def gen : DualGen → Opcode → List Nat → Store α → Store α
  | add => llvmGenAdd tab
  | sub => llvmGenSub tab
  | mul => llvmGenMul tab lib
  | div => llvmGenDiv tab lib
  | neg => llvmGenNeg tab
  | mix => llvmGenMix tab
  | clamp => llvmGenClamp tab
  | minmax => llvmGenMinmax tab
  | select => llvmGenSelect tab
  | modulus => llvmGenModulus tab useOptix
  | dxdy => llvmGenDxDy tab

/-- The dual number the op computes at component `i` of its result, from the dual numbers
`rd x j` of component `j` of its operands. -/
def eval (g : DualGen) (op : Opcode) (args : List Nat) (rd : Nat → Nat → Dual α) (i : Nat) :
    Dual α :=
  let R := op.argSym args 0
  let a := rd (op.argSym args 1) i
  let b := rd (op.argSym args 2) i
  let c := rd (op.argSym args 3) i
  match g with
  | add => a + b
  | sub => a - b
  | mul => a * b
  | div => if (tab R).typespec.isFloatBased then a / b else Dual.const (intDiv a.val b.val)
  | neg => -a
  | mix => Dual.mix a b c
  | clamp => Dual.clamp a b c
  | minmax => if op.opname = "min" then Dual.min a b else Dual.max a b
  | select =>
    if (rd (op.argSym args 3) (condComponent tab (op.argSym args 3) i)).val ≠ 0 then b else a
  | modulus => ⟨opMod (tab R).typespec.isFloatBased a.val b.val, a.dx, a.dy⟩
  | dxdy => Dual.const (a.chan (if op.opname = "Dx" then 1 else 2))

/-- What the generator needs to compute `eval`: a result that is not a matrix for `mul` and
`div`, a float-based result where `div` computes derivatives (as the code asserts), and a
divisor with no zero component for `div` and `mod`. -/
def Pre (g : DualGen) (op : Opcode) (args : List Nat) (rd : Nat → Nat → Dual α) : Prop :=
  let R := op.argSym args 0
  let nonzero := ∀ i < (tab R).ncomps, (rd (op.argSym args 2) i).val ≠ 0
  match g with
  | mul => (tab R).typespec.isMatrix = false
  | div => (tab R).typespec.isMatrix = false ∧
      (((tab R).hasDerivs && ((tab (op.argSym args 1)).hasDerivs ||
        (tab (op.argSym args 2)).hasDerivs)) → (tab R).typespec.isFloatBased) ∧ nonzero
  | modulus => nonzero
  | _ => True

end Gen

/-- Operand `x` can be read at every component of the result `R`: it is a scalar, broadcast, or
has at least as many components (what the front end's type checking guarantees). -/
def Fits (tab : Nat → Symbol) (R x : Nat) : Prop :=
  (tab x).typespec.simpletype.aggregate = .scalar ∨ (tab R).ncomps ≤ (tab x).ncomps

instance (tab : Nat → Symbol) (R x : Nat) : Decidable (Fits tab R x) :=
  inferInstanceAs (Decidable (_ ∨ _))

/-- Every operand of the op fits its result. -/
def OperandsFit (g : DualGen) (tab : Nat → Symbol) (op : Opcode) (args : List Nat) : Prop :=
  ∀ k < g.arity, 0 < k → Fits tab (op.argSym args 0) (op.argSym args k)

instance (g : DualGen) (tab : Nat → Symbol) (op : Opcode) (args : List Nat) :
    Decidable (g.OperandsFit tab op args) :=
  inferInstanceAs (Decidable (∀ k < g.arity, _))

section Correct

variable {α : Type} [LinearOrderedField α] [FloorRing α] {tab : Nat → Symbol}
  (lib : MatrixOps α) (useOptix : Bool)

/-- A generator writes no slot of a symbol other than its result. -/
theorem gen_frame (g : DualGen) (op : Opcode) (args : List Nat) (m : Store α) {s : Slot}
    (hs : s.1 ≠ op.argSym args 0) : g.gen tab lib useOptix op args m s = m s := by
  cases g <;>
    simp only [gen, llvmGenAdd, llvmGenSub, linearBinary, llvmGenMul, llvmGenDiv, llvmGenNeg,
      llvmGenMix, llvmGenClamp, llvmGenMinmax, llvmGenSelect, llvmGenModulus, llvmGenDxDy, ite_apply,
      apply_ite Prod.fst, forRange_apply_of_keep, forRange_fst_apply_of_keep,
      storeValue_apply_of_ne hs, zeroDerivs_apply_of_ne hs, callMatrix_apply_of_ne hs, ite_self,
      implies_true, forall_const]

/-- Each generator stores its `eval` at every component of its result. -/
theorem gen_holds (g : DualGen) (op : Opcode) (args : List Nat) (m : Store α)
    (hpre : g.Pre tab op args (operandDual tab m)) {i : Nat}
    (hi : i < (tab (op.argSym args 0)).ncomps) :
    Holds tab (g.gen tab lib useOptix op args m) (op.argSym args 0) i
      (g.eval tab op args (operandDual tab m) i) := by
  cases g with
  | add => exact llvmGenAdd_holds op args m hi
  | sub => exact llvmGenSub_holds op args m hi
  | mul => exact llvmGenMul_holds lib op args m hpre hi
  | div => exact llvmGenDiv_holds lib op args m hpre.1 hpre.2.1 (hpre.2.2 i hi) hi
  | neg => exact llvmGenNeg_holds op args m hi
  | mix => exact llvmGenMix_holds op args m hi
  | clamp => exact llvmGenClamp_holds op args m hi
  | minmax => exact llvmGenMinmax_holds op args m hi
  | select => exact llvmGenSelect_holds op args m hi
  | modulus => exact llvmGenModulus_holds useOptix op args m hi (hpre i hi)
  | dxdy => exact llvmGenDxDy_holds op args m hi

/-- The component of `select`'s condition a component reads comes no later than it. -/
theorem condComponent_le (X i : Nat) : condComponent tab X i ≤ i := by
  unfold condComponent
  split <;> omega

/-- `eval` reads the operands at components no later than the one it computes. -/
theorem eval_congr (g : DualGen) (op : Opcode) (args : List Nat) {rd₁ rd₂ : Nat → Nat → Dual α}
    {i : Nat} (h : ∀ k < g.arity, 0 < k → ∀ j ≤ i,
      rd₁ (op.argSym args k) j = rd₂ (op.argSym args k) j) :
    g.eval tab op args rd₁ i = g.eval tab op args rd₂ i := by
  have h1 := fun (hk : 1 < g.arity) => h 1 hk one_pos i le_rfl
  have h2 := fun (hk : 2 < g.arity) => h 2 hk two_pos i le_rfl
  have h3 := fun (hk : 3 < g.arity) (j : Nat) (hj : j ≤ i) => h 3 hk three_pos j hj
  cases g with
  | neg | dxdy => simp only [eval, h1 (by decide)]
  | add | sub | mul | div | minmax | modulus => simp only [eval, h1 (by decide), h2 (by decide)]
  | mix | clamp => simp only [eval, h1 (by decide), h2 (by decide), h3 (by decide) i le_rfl]
  | select =>
    simp only [eval, h1 (by decide), h2 (by decide), h3 (by decide) _ (condComponent_le _ i)]

omit [FloorRing α] in
/-- `Pre` reads the divisor at the components of the result only. -/
theorem pre_congr (g : DualGen) (op : Opcode) (args : List Nat) {rd₁ rd₂ : Nat → Nat → Dual α}
    (h : ∀ k < g.arity, 0 < k → ∀ j < (tab (op.argSym args 0)).ncomps,
      rd₁ (op.argSym args k) j = rd₂ (op.argSym args k) j) :
    g.Pre tab op args rd₁ ↔ g.Pre tab op args rd₂ := by
  have h2 := fun (hk : 2 < g.arity) => h 2 hk two_pos
  cases g with
  | div =>
    simp only [Pre]
    refine and_congr_right' (and_congr_right' (forall₂_congr fun j hj => ?_))
    rw [h2 (by decide) j hj]
  | modulus =>
    simp only [Pre]
    refine forall₂_congr fun j hj => ?_
    rw [h2 (by decide) j hj]
  | _ => exact Iff.rfl

end Correct

end DualGen

/-! ### The interpreter, and what a store represents -/

section Interp

variable {α : Type} [LinearOrderedField α] (tab : Nat → Symbol)

/-- The store holds the dual numbers `env`: component `c` of every symbol `x` reads `env x c`,
which has zero derivatives when `x` has none. -/
def Represents (m : Store α) (env : Nat → Nat → Dual α) : Prop :=
  ∀ x c, c < (tab x).ncomps → operandDual tab m x c = env x c

/-- What an op reads of operand `x` at component `j` of its result: a scalar is broadcast. -/
def envRead (env : Nat → Nat → Dual α) (x j : Nat) : Dual α := env x (compIdx tab x j)

/-- What a symbol keeps of a dual number: its derivatives only if it has them. -/
def keepDerivs (s : Symbol) (v : Dual α) : Dual α := if s.hasDerivs then v else Dual.const v.val

/-- The environment with the result `R` set to `v`, component by component. -/
def setResult (env : Nat → Nat → Dual α) (R : Nat) (v : Nat → Dual α) : Nat → Nat → Dual α :=
  fun x c => if x = R then keepDerivs (tab R) (v c) else env x c

variable {tab}

theorem compIdx_compIdx (x j : Nat) : compIdx tab x (compIdx tab x j) = compIdx tab x j := by
  unfold compIdx
  split <;> simp [*]

/-- A load of a component reads the component it stands for. -/
theorem operandDual_compIdx (m : Store α) (x j : Nat) :
    operandDual tab m x (compIdx tab x j) = operandDual tab m x j := by
  simp only [operandDual, compIdx_compIdx]

/-- An operand that fits the result is read, at a component of the result, where the store
represents the environment. -/
theorem Represents.read {m : Store α} {env : Nat → Nat → Dual α} (hm : Represents tab m env)
    {R x j : Nat} (hx : DualGen.Fits tab R x) (hj : j < (tab R).ncomps) :
    operandDual tab m x j = envRead tab env x j := by
  rw [← operandDual_compIdx]
  refine hm x _ ?_
  have hpos : 0 < (tab x).ncomps := Aggregate.toNat_pos _
  unfold compIdx
  split
  · exact hpos
  · rcases hx with hs | hle
    · contradiction
    · omega

/-- A store that changes only the slots of `R`, where it holds `v`, represents the environment
with `R` set to `v`. -/
theorem Represents.update {m m' : Store α} {env : Nat → Nat → Dual α} (hm : Represents tab m env)
    {R : Nat} {v : Nat → Dual α} (hw : ∀ s, s.1 ≠ R → m' s = m s)
    (hv : ∀ i < (tab R).ncomps, Holds tab m' R i (v i)) :
    Represents tab m' (setResult tab env R v) := by
  intro x c hc
  unfold setResult
  split_ifs with hx
  · subst hx
    obtain ⟨h0, h12⟩ := hv c hc
    unfold operandDual keepDerivs
    rw [compIdx_of_lt hc]
    by_cases hd : (tab x).hasDerivs
    · simp only [hd, if_true, h0, (h12 hd).1, (h12 hd).2]
    · simp only [hd, h0, Bool.false_eq_true, if_false]
  · have hx' : ∀ d c, m' (x, d, c) = m (x, d, c) := fun d c => hw (x, d, c) hx
    rw [← hm x c hc]
    simp only [operandDual, hx']

end Interp

namespace DualGen

section Step

variable {α : Type} [LinearOrderedField α] [FloorRing α] (tab : Nat → Symbol)
  (lib : MatrixOps α) (useOptix : Bool) (args : List Nat)

/-- The interpreter's step: the op's result set to its dual number at every component. -/
def step (g : DualGen) (op : Opcode) (env : Nat → Nat → Dual α) : Nat → Nat → Dual α :=
  setResult tab env (op.argSym args 0) (g.eval tab op args (envRead tab env))

variable {tab}

/-- One op's code refines the interpreter's step, for operands that fit and what the generator
needs read off the environment. -/
theorem step_refines (g : DualGen) (op : Opcode) {m : Store α} {env : Nat → Nat → Dual α}
    (hm : Represents tab m env) (hfit : g.OperandsFit tab op args)
    (hpre : g.Pre tab op args (envRead tab env)) :
    Represents tab (g.gen tab lib useOptix op args m) (g.step tab args op env) := by
  have hread : ∀ k < g.arity, 0 < k → ∀ j < (tab (op.argSym args 0)).ncomps,
      operandDual tab m (op.argSym args k) j = envRead tab env (op.argSym args k) j :=
    fun k hk hk0 _ hj => hm.read (hfit k hk hk0) hj
  have hpre' := (pre_congr g op args hread).mpr hpre
  refine hm.update (fun s hs => gen_frame lib useOptix g op args m hs) fun i hi => ?_
  rw [← eval_congr g op args fun k hk hk0 j hj => hread k hk hk0 j (lt_of_le_of_lt hj hi)]
  exact gen_holds lib useOptix g op args m hpre' hi

end Step

end DualGen

section Run

variable {α : Type} [LinearOrderedField α] [FloorRing α] (tab : Nat → Symbol)
  (lib : MatrixOps α) (useOptix : Bool) (args : List Nat)

/-- The code of the ops of a straight-line run, one after the other, on the symbols' storage. -/
def runGen (prog : List (DualGen × Opcode)) (m : Store α) : Store α :=
  prog.foldl (fun m p => p.1.gen tab lib useOptix p.2 args m) m

/-- The interpreter's run. -/
def evalRun (prog : List (DualGen × Opcode)) (env : Nat → Nat → Dual α) : Nat → Nat → Dual α :=
  prog.foldl (fun env p => p.1.step tab args p.2 env) env

/-- Along the interpreter's run, every op's operands fit and the generator has what it needs. -/
def PreRun : List (DualGen × Opcode) → (Nat → Nat → Dual α) → Prop
  | [], _ => True
  | (g, op) :: prog, env =>
    (g.OperandsFit tab op args ∧ g.Pre tab op args (envRead tab env)) ∧
      PreRun prog (g.step tab args op env)

variable {tab}

/-- A run writes no slot of a symbol that is no op's result. -/
theorem runGen_frame (prog : List (DualGen × Opcode)) (m : Store α) {s : Slot}
    (hs : ∀ p ∈ prog, s.1 ≠ p.2.argSym args 0) : runGen tab lib useOptix args prog m s = m s := by
  induction prog generalizing m with
  | nil => rfl
  | cons p prog ih =>
    simp only [List.mem_cons, forall_eq_or_imp] at hs
    simp only [runGen, List.foldl_cons] at ih ⊢
    rw [ih _ hs.2, DualGen.gen_frame lib useOptix _ _ _ _ hs.1]

/-- A run's code refines the interpreter's run: the store holds the environment the
interpreter computes, every component of every symbol. -/
theorem runGen_refines (prog : List (DualGen × Opcode)) {m : Store α}
    {env : Nat → Nat → Dual α} (hm : Represents tab m env) (hpre : PreRun tab args prog env) :
    Represents tab (runGen tab lib useOptix args prog m) (evalRun tab args prog env) := by
  induction prog generalizing m env with
  | nil => exact hm
  | cons p prog ih =>
    obtain ⟨g, op⟩ := p
    exact ih (g.step_refines lib useOptix args op hm hpre.1.1 hpre.1.2) hpre.2

end Run

/-- `mul T A B` then `Dx R T` of colours, the two ops' arguments one after the other in the
argument list. -/
def mulDxProg : List (DualGen × Opcode) :=
  [(.mul, { opname := "mul", nargs := 3 }), (.dxdy, { opname := "Dx", firstarg := 3, nargs := 2 })]

/-- The run of `mulDxProg` from a store read as its own dual numbers: the product rule's
derivative lands in `R`. -/
theorem runGen_refines_mulDx :
    let args := [3, 1, 2, 0, 3]
    let m : Store ℚ := fun s => s.2.1 + s.2.2
    let env := fun x c => operandDual derivTab m x c
    Represents derivTab m env ∧ PreRun derivTab args mulDxProg env ∧
      Represents derivTab (runGen derivTab noMatrixOps false args mulDxProg m)
        (evalRun derivTab args mulDxProg env) := by
  intro args m env
  have hm : Represents derivTab m env := fun _ _ _ => rfl
  have hpre : PreRun derivTab args mulDxProg env := ⟨⟨by decide, rfl⟩, ⟨by decide, trivial⟩, trivial⟩
  exact ⟨hm, hpre, runGen_refines noMatrixOps false args mulDxProg hm hpre⟩

/-- The run of `mulDxProg` leaves the operand `A` alone. -/
theorem runGen_frame_mulDx :
    let args := [3, 1, 2, 0, 3]
    let m : Store ℚ := fun s => s.2.1 + s.2.2
    (∀ p ∈ mulDxProg, (1, 0, 0).1 ≠ p.2.argSym args 0) ∧
      runGen derivTab noMatrixOps false args mulDxProg m (1, 0, 0) = m (1, 0, 0) := by
  intro args m
  have hs : ∀ p ∈ mulDxProg, (1, 0, 0).1 ≠ p.2.argSym args 0 := by decide
  exact ⟨hs, runGen_frame noMatrixOps false args mulDxProg m hs⟩

end OslExec
