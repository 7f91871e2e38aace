import OslExec.DualRun
import OslExec.LoweringCorrect

/-!
# Dual numbers through control flow

`runOps` is the reference interpreter of an instance's op stream, generic in what a
straight-line op does to the store and in how a condition is tested. Run on the symbols'
storage with the dual-number generators as its straight-line ops, and run on environments of
dual numbers with the interpreter's step of `DualRun`, it takes the same branches, runs the same
ops and finishes the same way, and the final store represents the final environment. So the
refinement of `DualRun` holds through `if`, loops, `break`, `continue`, inlined functions and
`return`: the emitted code of such an instance, which runs as `runOps` does, computes the
dual numbers of the interpreter.

## Key results

- `runOps_rel`: the interpreter keeps any relation between stores that each straight-line op
  keeps and on which the conditions agree
- `runOps_dual_refines`: the store-level run refines the dual-number run
-/

namespace OslExec

/-! ### Related runs -/

section Rel

variable {σ₁ σ₂ : Type} (R : σ₁ → σ₂ → Prop)

/-- Two results of the interpreter correspond: both out of fuel (or stopped at an `end`), or both
finished the same way after the same straight-line ops, on related stores. -/
def RunRel : Option (Run σ₁) → Option (Run σ₂) → Prop
  | none, none => True
  | some r₁, some r₂ => r₁.outcome = r₂.outcome ∧ r₁.trace = r₂.trace ∧ R r₁.store r₂.store
  | _, _ => False

variable {R}

theorem RunRel.some_mk (o : Outcome) (tr : List Nat) {s₁ : σ₁} {s₂ : σ₂} (h : R s₁ s₂) :
    RunRel R (some ⟨o, tr, s₁⟩) (some ⟨o, tr, s₂⟩) :=
  ⟨rfl, rfl, h⟩

theorem RunRel.prepend {x₁ : Option (Run σ₁)} {x₂ : Option (Run σ₂)} (h : RunRel R x₁ x₂)
    (tr : List Nat) : RunRel R (x₁.map (Run.prepend tr)) (x₂.map (Run.prepend tr)) := by
  match x₁, x₂, h with
  | none, none, _ => trivial
  | some _, some _, ⟨ho, ht, hs⟩ => exact ⟨ho, by simp [ht], hs⟩

theorem RunRel.andThen {x₁ : Option (Run σ₁)} {x₂ : Option (Run σ₂)} (h : RunRel R x₁ x₂)
    {k₁ : σ₁ → Option (Run σ₁)} {k₂ : σ₂ → Option (Run σ₂)}
    (hk : ∀ s₁ s₂, R s₁ s₂ → RunRel R (k₁ s₁) (k₂ s₂)) :
    RunRel R (Run.andThen x₁ k₁) (Run.andThen x₂ k₂) := by
  match x₁, x₂, h with
  | none, none, _ => trivial
  | some r₁, some r₂, ⟨ho, ht, hs⟩ =>
    simp only [Run.andThen, Option.some_bind, ho]
    split
    · rw [ht]
      exact (hk _ _ hs).prepend _
    · exact ⟨ho, ht, hs⟩

theorem RunRel.catchRet {x₁ : Option (Run σ₁)} {x₂ : Option (Run σ₂)} (h : RunRel R x₁ x₂) :
    RunRel R (Run.catchRet x₁) (Run.catchRet x₂) := by
  match x₁, x₂, h with
  | none, none, _ => trivial
  | some r₁, some r₂, ⟨ho, ht, hs⟩ =>
    simp only [Run.catchRet, Option.map_some', ho]
    split <;> exact ⟨by simp [ho], ht, hs⟩

end Rel

/-! ### The interpreter keeps a relation -/

section Interp

variable {σ₁ σ₂ : Type} (ops : List Opcode) (args : List Nat) (exec₁ : Nat → σ₁ → σ₁)
  (exec₂ : Nat → σ₂ → σ₂) (test₁ : Nat → σ₁ → Bool) (test₂ : Nat → σ₂ → Bool)
  (R : σ₁ → σ₂ → Prop)

/-- With fuel `F`, the ranges and the loops run on related stores give related results. -/
def InterpRel (F : Nat) : Prop :=
  (∀ pc e s₁ s₂, R s₁ s₂ →
    RunRel R (runOps ops args exec₁ test₁ F pc e s₁) (runOps ops args exec₂ test₂ F pc e s₂)) ∧
  (∀ op pc ph s₁ s₂, R s₁ s₂ →
    RunRel R (runLoop ops args exec₁ test₁ F op pc ph s₁)
      (runLoop ops args exec₂ test₂ F op pc ph s₂))

variable {ops args exec₁ exec₂ test₁ test₂ R}

section Step

variable (hexec : ∀ n op, ops[n]? = some op → op.role = .straight →
    ∀ s₁ s₂, R s₁ s₂ → R (exec₁ n s₁) (exec₂ n s₂))
  (htest : ∀ c s₁ s₂, R s₁ s₂ → test₁ c s₁ = test₂ c s₂)
include hexec htest

theorem runOps_rel_succ {F : Nat} (ih : InterpRel ops args exec₁ exec₂ test₁ test₂ R F) :
    ∀ pc e s₁ s₂, R s₁ s₂ → RunRel R (runOps ops args exec₁ test₁ (F + 1) pc e s₁)
      (runOps ops args exec₂ test₂ (F + 1) pc e s₂) := by
  intro pc e s₁ s₂ hs
  by_cases hpc : pc < e
  · cases hop : ops[pc]? with
    | none => simp only [runOps, hpc, hop, if_true]; trivial
    | some op =>
      -- the roles in the order `OpRole` lists them
      cases hrole : op.role <;> simp only [runOps, hpc, hop, hrole, if_true]
      · rw [htest _ _ _ hs]
        refine RunRel.andThen ?_ fun s₁ s₂ h => ih.1 _ _ s₁ s₂ h
        split
        · exact ih.1 _ _ _ _ hs
        · exact ih.1 _ _ _ _ hs
      · exact (ih.2 _ _ _ _ _ hs).andThen fun s₁ s₂ h => ih.1 _ _ s₁ s₂ h
      · exact RunRel.some_mk _ _ hs
      · exact (ih.1 _ _ _ _ hs).catchRet.andThen fun s₁ s₂ h => ih.1 _ _ s₁ s₂ h
      · exact (ih.1 _ _ _ _ hs).catchRet.andThen fun s₁ s₂ h => ih.1 _ _ s₁ s₂ h
      · exact RunRel.some_mk _ _ hs
      · exact ih.1 _ _ _ _ hs
      · trivial
      · exact (ih.1 _ _ _ _ (hexec pc op hop hrole _ _ hs)).prepend _
  · simp only [runOps, hpc, if_false]
    exact RunRel.some_mk _ _ hs

omit hexec in
theorem runLoop_rel_succ {F : Nat} (ih : InterpRel ops args exec₁ exec₂ test₁ test₂ R F) :
    ∀ op pc ph s₁ s₂, R s₁ s₂ → RunRel R (runLoop ops args exec₁ test₁ (F + 1) op pc ph s₁)
      (runLoop ops args exec₂ test₂ (F + 1) op pc ph s₂) := by
  intro op pc ph s₁ s₂ hs
  simp only [runLoop]
  match runOps ops args exec₁ test₁ F (ph.first op pc) (ph.last op) s₁,
    runOps ops args exec₂ test₂ F (ph.first op pc) (ph.last op) s₂,
    ih.1 (ph.first op pc) (ph.last op) s₁ s₂ hs with
  | none, none, _ => trivial
  | some ⟨o, tr, st₁⟩, some ⟨_, _, st₂⟩, ⟨rfl, rfl, hr⟩ =>
    -- both phases ended the same way; the next phase is chosen by the same test
    cases o <;> simp only
    · rw [htest _ _ _ hr]
      cases ph.next (op.opname = "dowhile") (test₂ (op.argSym args 0) st₂) with
      | some ph' => exact (ih.2 _ _ _ _ _ hr).prepend _
      | none => exact RunRel.some_mk _ _ hr
    · exact RunRel.some_mk _ _ hr
    · exact (ih.2 _ _ _ _ _ hr).prepend _
    · exact ⟨rfl, rfl, hr⟩
    · exact ⟨rfl, rfl, hr⟩

/-- The interpreter keeps any relation between stores that every straight-line op keeps and on
which the conditions agree: related stores give the same outcome, the same ops run and related
final stores, or both run out of fuel. -/
theorem runOps_rel (F : Nat) : InterpRel ops args exec₁ exec₂ test₁ test₂ R F := by
  induction F with
  | zero => exact ⟨fun _ _ _ _ _ => trivial, fun _ _ _ _ _ _ => trivial⟩
  | succ F ih =>
    exact ⟨runOps_rel_succ hexec htest ih, runLoop_rel_succ htest ih⟩

end Step

end Interp

/-! ### The dual-number generators through control flow -/

section Dual

variable {α : Type} [LinearOrderedField α] [FloorRing α] (tab : Nat → Symbol)
  (lib : MatrixOps α) (useOptix : Bool) (ops : List Opcode) (args : List Nat)
  (gens : Nat → DualGen)

/-- Straight-line op `n` on the symbols' storage: the code of its generator `gens n`. -/
def dualExec (n : Nat) (m : Store α) : Store α :=
  match ops[n]? with
  | some op => (gens n).gen tab lib useOptix op args m
  | none => m

/-- Straight-line op `n` in the dual-number interpreter: its step. -/
def dualStep (n : Nat) (env : Nat → Nat → Dual α) : Nat → Nat → Dual α :=
  match ops[n]? with
  | some op => (gens n).step tab args op env
  | none => env

/-- The code's test of a condition symbol: its value is not zero. -/
def storeTest (c : Nat) (m : Store α) : Bool := decide (m (c, 0, 0) ≠ 0)

/-- The interpreter's test: the value of the condition's dual number is not zero. -/
def envTest (c : Nat) (env : Nat → Nat → Dual α) : Bool := decide ((env c 0).val ≠ 0)

variable {tab lib useOptix ops args gens}

omit [FloorRing α] in
/-- A store that represents an environment agrees with it on every condition. -/
theorem storeTest_eq_envTest {m : Store α} {env : Nat → Nat → Dual α}
    (hm : Represents tab m env) (c : Nat) : storeTest c m = envTest c env := by
  have h0 : compIdx tab c 0 = 0 := by unfold compIdx; split <;> rfl
  have hv := congrArg Dual.val (hm c 0 (Aggregate.toNat_pos _))
  have hval : (operandDual tab m c 0).val = m (c, 0, 0) := by
    unfold operandDual
    split <;> simp [h0]
  rw [hval] at hv
  simp only [storeTest, envTest, hv]

/-- The code of an instance whose straight-line ops are dual-number generators refines the
dual-number interpreter through all its control flow: from a store that represents an
environment, the reference interpreter run on the store and run on the environment take the
same branches, run the same ops and end the same way, on a store that represents the final
environment; `Inv` is an invariant of the interpreter's runs under which every op's operands fit
and its generator has what it needs. -/
theorem runOps_dual_refines (Inv : (Nat → Nat → Dual α) → Prop)
    (hInv : ∀ n op env, ops[n]? = some op → op.role = .straight → Inv env →
      (gens n).OperandsFit tab op args ∧ (gens n).Pre tab op args (envRead tab env) ∧
        Inv ((gens n).step tab args op env))
    (F pc e : Nat) {m : Store α} {env : Nat → Nat → Dual α} (hm : Represents tab m env)
    (hI : Inv env) :
    RunRel (fun m env => Represents tab m env ∧ Inv env)
      (runOps ops args (dualExec tab lib useOptix ops args gens) storeTest F pc e m)
      (runOps ops args (dualStep tab ops args gens) envTest F pc e env) := by
  refine (runOps_rel (R := fun m env => Represents tab m env ∧ Inv env)
    (fun n op hop hrole m env h => ?_) (fun c m env h => storeTest_eq_envTest h.1 c) F).1
    pc e m env ⟨hm, hI⟩
  obtain ⟨hfit, hpre, hI'⟩ := hInv n op env hop hrole h.2
  simp only [dualExec, dualStep, hop]
  exact ⟨(gens n).step_refines lib useOptix args op h.1 hfit hpre, hI'⟩

end Dual

/-- `if B then mul R A B else mul R B A`, the three ops' arguments one after the other. -/
def ifMulOps : List Opcode :=
  [{ opname := "if", nargs := 1, jumps := [2, 3] }, { opname := "mul", firstarg := 1, nargs := 3 },
    { opname := "mul", firstarg := 4, nargs := 3 }]

/-- `ifMulOps` from a store read as its own dual numbers, with no invariant to keep. -/
theorem runOps_dual_refines_ifMul :
    let args := [2, 0, 1, 2, 0, 2, 1]
    let m : Store ℚ := fun s => s.2.1 + s.2.2
    let env := fun x c => operandDual derivTab m x c
    (∀ (n : Nat) (op : Opcode) (env : Nat → Nat → Dual ℚ), ifMulOps[n]? = some op →
      op.role = .straight → True → DualGen.mul.OperandsFit derivTab op args ∧
        DualGen.mul.Pre derivTab op args (envRead derivTab env) ∧ True) ∧
      Represents derivTab m env ∧ True ∧
      RunRel (fun m env => Represents derivTab m env ∧ True)
        (runOps ifMulOps args (dualExec derivTab noMatrixOps false ifMulOps args fun _ => .mul)
          storeTest 4 0 3 m)
        (runOps ifMulOps args (dualStep derivTab ifMulOps args fun _ => .mul) envTest 4 0 3 env) := by
  intro args m env
  have hInv : ∀ (n : Nat) (op : Opcode) (env : Nat → Nat → Dual ℚ), ifMulOps[n]? = some op →
      op.role = .straight → True → DualGen.mul.OperandsFit derivTab op args ∧
        DualGen.mul.Pre derivTab op args (envRead derivTab env) ∧ True := by
    intro n op _ hop hrole _
    rcases n with _ | _ | _ | n <;> simp only [ifMulOps, List.getElem?_cons_zero,
      List.getElem?_cons_succ, Option.some.injEq] at hop
    · subst hop; exact absurd hrole (by decide)
    · subst hop; exact ⟨by decide, rfl, trivial⟩
    · subst hop; exact ⟨by decide, rfl, trivial⟩
    · simp at hop
  exact ⟨hInv, fun _ _ _ => rfl, trivial,
    runOps_dual_refines (fun _ => True) hInv 4 0 3 (fun _ _ _ => rfl) trivial⟩

end OslExec
