import OslExec.Compare

/-!
# The modulus and the derivative generators

`llvm_gen_modulus` stores `a mod b` component by component and copies the dividend's
derivatives, the remainder having the derivatives of its dividend where the quotient's integer
part is locally constant. `llvm_gen_DxDy`, `llvm_gen_Dz` and `llvm_gen_filterwidth` store a
derivative (or the filter width computed from both) as a value, with zero derivatives: there are
no second derivatives.

In the dual-number reading of `ArithCorrect`, each of these stores at every component a dual
number computed from its operands' ones, and the derivative ops read back exactly the
derivatives the arithmetic generators maintain.

## Key results

- `llvmGenModulus_holds`: the remainder with the dividend's derivatives
- `llvmGenDxDy_holds`, `llvmGenFilterwidth_holds`: a derivative as a value, with zero
  derivatives
- `llvmGenDxDy_after_mul`: `Dx` of a product reads the product rule's derivative
-/

namespace OslExec

section Defs

variable {α : Type} [LinearOrderedField α] [FloorRing α] (tab : Nat → Symbol)

/-- Modelled from the spec: `op_mod` of the result's base type, LLVM's `frem` (the remainder of
the quotient truncated toward zero) for floats and `srem` for ints. -/
def opMod (isFloat : Bool) (a b : α) : α :=
  if isFloat then a - b * (truncToInt (a / b) : α) else ((⌊a⌋.tmod ⌊b⌋ : ℤ) : α)

/-- Modelled from the spec: `osl_fmod_fff` and `osl_safe_mod_iii`, zero for a zero divisor. -/
def safeMod (isFloat : Bool) (a b : α) : α := if b = 0 then 0 else opMod isFloat a b

/-- `llvm_gen_modulus`: component by component, `op_mod` when the divisor is a constant that is
not zero (and the target is not OptiX), else the safe call; then, if the result has derivatives,
the dividend's, or zero ones when it has none. -/
def llvmGenModulus (useOptix : Bool) (op : Opcode) (args : List Nat) (m : Store α) : Store α :=
  let R := op.argSym args 0
  let A := op.argSym args 1
  let B := op.argSym args 2
  let isFloat := (tab R).typespec.isFloatBased
  let direct := !useOptix && (tab B).isConstant && !isZero tab m B
  let m := forRange (tab R).ncomps (fun m i =>
    let a := loadValue tab m A 0 i
    let b := loadValue tab m B 0 i
    storeValue tab m R 0 i (if direct then opMod isFloat a b else safeMod isFloat a b)) m
  if (tab R).hasDerivs then
    if (tab A).hasDerivs then
      forRange 2 (fun m d => forRange (tab R).ncomps (fun m i =>
        storeValue tab m R (d + 1) i (loadValue tab m A (d + 1) i)) m) m
    else zeroDerivs tab m R
  else m

/-- `llvm_gen_DxDy`: `Src`'s `x` derivative (`Dx`) or `y` derivative (`Dy`) into the result's
value, component by component, then zero derivatives. -/
def llvmGenDxDy (op : Opcode) (args : List Nat) (m : Store α) : Store α :=
  let R := op.argSym args 0
  let Src := op.argSym args 1
  let deriv := if op.opname = "Dx" then 1 else 2
  zeroDerivs tab (forRange (tab R).ncomps (fun m i =>
    storeValue tab m R 0 i (loadValue tab m Src deriv i)) m) R

/-- Modelled from the spec: `BackendLLVM::llvm_assign_zero`, zero in every value and derivative
of the symbol. -/
def assignZero (m : Store α) (x : Nat) : Store α := fun s =>
  if s.1 = x ∧ s.2.1 < (if (tab x).hasDerivs then 3 else 1) ∧
      s.2.2 < (tab x).typespec.simpletype.basevalues then 0
  else m s

/-- `llvm_gen_Dz`: for the instance's `P` (`Psym`, `none` when it has none), its `dPdz`, held
as its channel `3`, into the result's value, then zero derivatives; zero for every other
source. -/
def llvmGenDz (Psym : Option Nat) (op : Opcode) (args : List Nat) (m : Store α) : Store α :=
  let R := op.argSym args 0
  let Src := op.argSym args 1
  if some Src = Psym then
    zeroDerivs tab (forRange (tab R).ncomps (fun m i =>
      storeValue tab m R 0 i (loadValue tab m Src 3 i)) m) R
  else assignZero tab m R

/-- `llvm_gen_filterwidth`, with `fw` the filter width the runtime computes from the two
derivatives (`osl_filterwidth_fdf` for a float, `osl_filterwidth_vdv` component by component
for a triple, outside the repository's files); zero for a source without derivatives. -/
def llvmGenFilterwidth (fw : α → α → α) (op : Opcode) (args : List Nat) (m : Store α) :
    Store α :=
  let R := op.argSym args 0
  let Src := op.argSym args 1
  if (tab Src).hasDerivs then
    let m := if (tab Src).typespec.isFloat then
        storeValue tab m R 0 0 (fw (m (Src, 1, 0)) (m (Src, 2, 0)))
      else forRange 3 (fun m i => storeValue tab m R 0 i (fw (m (Src, 1, i)) (m (Src, 2, i)))) m
    zeroDerivs tab m R
  else assignZero tab m R

end Defs

/-! ### What each generator stores -/

section Correct

variable {α : Type} [LinearOrderedField α] [FloorRing α] {tab : Nat → Symbol}

/-- A component of one element reads itself: a scalar has only the component `0`. -/
theorem compIdx_of_lt {x i : Nat} (hi : i < (tab x).ncomps) : compIdx tab x i = i := by
  unfold compIdx
  split
  · next hs => simp only [Symbol.ncomps, hs, Aggregate.toNat] at hi; omega
  · rfl

omit [LinearOrderedField α] [FloorRing α] in
/-- A store into slot `(R, d, i)`, in the shape `forRange_writes` takes. -/
theorem storeValue_apply_slot (m : Store α) (R d i : Nat) (v : α) (s : Slot) :
    storeValue tab m R d i v s =
      if s.1 = R ∧ s.2.2 = i ∧ (s.2.1 = d ∧ ¬ noChannel tab R d) then v else m s := by
  obtain ⟨x, d', c⟩ := s
  rw [storeValue_apply]
  simp only [Prod.mk.injEq]
  congr 1
  apply propext
  constructor
  · rintro ⟨⟨rfl, rfl, rfl⟩, h⟩; exact ⟨rfl, rfl, rfl, h⟩
  · rintro ⟨rfl, rfl, rfl, h⟩; exact ⟨⟨rfl, rfl, rfl⟩, h⟩

omit [LinearOrderedField α] [FloorRing α] in
/-- One channel of a loop over the components of `R`, with values read from the other
channels, of any symbol. -/
theorem forRange_storeValue_offChannel {R d n : Nat} {f : Store α → Nat → α}
    (hf : ∀ i < n, ∀ m m', (∀ s, s.2.1 ≠ d → m s = m' s) → f m i = f m' i)
    (m : Store α) (s : Slot) :
    forRange n (fun m i => storeValue tab m R d i (f m i)) m s =
      if s.1 = R ∧ s.2.2 < n ∧ (s.2.1 = d ∧ ¬ noChannel tab R d) then f m s.2.2 else m s :=
  forRange_writes (C := fun d' => d' = d ∧ ¬ noChannel tab R d) (V := fun m _ i => f m i)
    (fun i _ m s => storeValue_apply_slot m R d i _ s)
    (fun i hi m m' h _ _ => hf i hi m m' fun s hs => h s fun h' => hs h'.2.2.1) m s

omit [FloorRing α] in
/-- `llvm_assign_zero`: every component holds zero, with zero derivatives. -/
theorem assignZero_holds (m : Store α) {x i : Nat} (hi : i < (tab x).ncomps) :
    Holds tab (assignZero tab m x) x i (Dual.const 0) := by
  unfold Holds assignZero
  by_cases hx : (tab x).hasDerivs <;> simp [hx, lt_basevalues hi]

/-- `llvm_gen_modulus` where the divisor is not zero: the remainder, with the dividend's
derivatives (zero ones when it has none); the fast and the safe path agree there. -/
theorem llvmGenModulus_holds (useOptix : Bool) (op : Opcode) (args : List Nat) (m : Store α)
    {i : Nat} (hi : i < (tab (op.argSym args 0)).ncomps)
    (hb : (operandDual tab m (op.argSym args 2) i).val ≠ 0) :
    Holds tab (llvmGenModulus tab useOptix op args m) (op.argSym args 0) i
      ⟨opMod (tab (op.argSym args 0)).typespec.isFloatBased
          (operandDual tab m (op.argSym args 1) i).val (operandDual tab m (op.argSym args 2) i).val,
        (operandDual tab m (op.argSym args 1) i).dx, (operandDual tab m (op.argSym args 1) i).dy⟩ := by
  unfold llvmGenModulus
  dsimp only
  generalize op.argSym args 0 = R at hi ⊢
  generalize op.argSym args 1 = A
  generalize op.argSym args 2 = B at hb ⊢
  generalize (tab R).typespec.isFloatBased = isF
  generalize (!useOptix && (tab B).isConstant && !isZero tab m B) = direct
  have vloop : ∀ s, forRange (tab R).ncomps (fun m i => storeValue tab m R 0 i
      (if direct then opMod isF (loadValue tab m A 0 i) (loadValue tab m B 0 i)
        else safeMod isF (loadValue tab m A 0 i) (loadValue tab m B 0 i))) m s =
      if s.1 = R ∧ s.2.2 < (tab R).ncomps ∧ (s.2.1 = 0 ∧ ¬ noChannel tab R 0) then
        (if direct then opMod isF (loadValue tab m A 0 s.2.2) (loadValue tab m B 0 s.2.2)
          else safeMod isF (loadValue tab m A 0 s.2.2) (loadValue tab m B 0 s.2.2)) else m s :=
    forRange_storeValue le_rfl (fun i _ m m' h => by simp only [h]) m
  have dloop : ∀ (d : Nat) (M : Store α) (s : Slot), forRange (tab R).ncomps (fun m i =>
      storeValue tab m R d i (loadValue tab m A d i)) M s =
      if s.1 = R ∧ s.2.2 < (tab R).ncomps ∧ (s.2.1 = d ∧ ¬ noChannel tab R d) then
        loadValue tab M A d s.2.2 else M s :=
    fun d M s => forRange_storeValue le_rfl (fun i _ m m' h => h A d) M s
  have hval : (if direct then opMod isF (loadValue tab m A 0 i) (loadValue tab m B 0 i)
      else safeMod isF (loadValue tab m A 0 i) (loadValue tab m B 0 i)) =
      opMod isF (operandDual tab m A i).val (operandDual tab m B i).val := by
    rw [loadValue_eq_chan m A i (by omega), loadValue_eq_chan m B i (by omega)]
    cases direct
    · exact if_neg hb
    · rfl
  have hdx : loadValue tab m A 1 i = (operandDual tab m A i).dx := loadValue_eq_chan m A i (by omega)
  have hdy : loadValue tab m A 2 i = (operandDual tab m A i).dy := loadValue_eq_chan m A i (by omega)
  refine ⟨?_, fun hR => ?_⟩
  · by_cases hR : (tab R).hasDerivs <;> by_cases hA : (tab A).hasDerivs <;>
      simp [hR, hA, forRange_succ, dloop, vloop, zeroDerivs_apply, hi, noChannel, hval]
  · by_cases hA : (tab A).hasDerivs
    · simp [hR, hA, forRange_succ, dloop, hi, noChannel, loadValue_forRange_storeValue_of_ne, hdx,
        hdy]
    · simp [hR, hA, zeroDerivs_apply, lt_basevalues hi]

omit [FloorRing α] in
/-- Channel `d` of `Src` into the value of `R`, component by component, then zero derivatives:
the body of `llvm_gen_DxDy` and of `llvm_gen_Dz` for `P`. -/
theorem channelToValue_holds (m : Store α) {R Src d i : Nat} (hi : i < (tab R).ncomps) :
    Holds tab (zeroDerivs tab (forRange (tab R).ncomps (fun m i =>
      storeValue tab m R 0 i (loadValue tab m Src d i)) m) R) R i
      (Dual.const (loadValue tab m Src d i)) := by
  have loop := @forRange_storeValue _ _ tab R 0 _ le_rfl (fun m i => loadValue tab m Src d i)
    (fun i _ m m' h => h Src d) m
  refine ⟨?_, fun hR => ?_⟩
  · simp [zeroDerivs_apply, loop, hi, noChannel]
  · simp [zeroDerivs_apply, hR, lt_basevalues hi]

omit [FloorRing α] in
/-- `llvm_gen_DxDy`: the source's `x` (`Dx`) or `y` (`Dy`) derivative, as a value that does
not vary. -/
theorem llvmGenDxDy_holds (op : Opcode) (args : List Nat) (m : Store α) {i : Nat}
    (hi : i < (tab (op.argSym args 0)).ncomps) :
    Holds tab (llvmGenDxDy tab op args m) (op.argSym args 0) i
      (Dual.const ((operandDual tab m (op.argSym args 1) i).chan
        (if op.opname = "Dx" then 1 else 2))) := by
  have hd : (if op.opname = "Dx" then 1 else 2) < 3 := by split <;> omega
  rw [← loadValue_eq_chan m _ i hd]
  exact channelToValue_holds m hi

/-- A float has one component. -/
theorem ncomps_of_isFloat {x : Nat} (h : (tab x).typespec.isFloat = true) : (tab x).ncomps = 1 := by
  simp only [TypeSpec.isFloat, Bool.and_eq_true, beq_iff_eq] at h
  simp [Symbol.ncomps, h.2, TypeDesc.TypeFloat, Aggregate.toNat]

/-- A triple has three components. -/
theorem ncomps_of_isTriple {x : Nat} (h : (tab x).typespec.isTriple = true) : (tab x).ncomps = 3 := by
  simp only [TypeSpec.isTriple, Bool.and_eq_true, decide_eq_true_eq] at h
  simp [Symbol.ncomps, h.1.2, Aggregate.toNat]

omit [FloorRing α] in
/-- `llvm_gen_filterwidth` for a float or triple result of the source's type: the filter width of
the source's derivatives, as a value that does not vary; zero for a source without
derivatives. -/
theorem llvmGenFilterwidth_holds (fw : α → α → α) (op : Opcode) (args : List Nat) (m : Store α)
    {i : Nat} (hS : (tab (op.argSym args 1)).typespec.isFloat = true ∨
      (tab (op.argSym args 1)).typespec.isTriple = true)
    (hn : (tab (op.argSym args 0)).ncomps = (tab (op.argSym args 1)).ncomps)
    (hi : i < (tab (op.argSym args 0)).ncomps) :
    Holds tab (llvmGenFilterwidth tab fw op args m) (op.argSym args 0) i
      (Dual.const (if (tab (op.argSym args 1)).hasDerivs then
        fw (operandDual tab m (op.argSym args 1) i).dx (operandDual tab m (op.argSym args 1) i).dy
        else 0)) := by
  unfold llvmGenFilterwidth
  dsimp only
  generalize op.argSym args 0 = R at hi hn ⊢
  generalize op.argSym args 1 = Src at hS hn ⊢
  by_cases hd : (tab Src).hasDerivs
  · have hc : compIdx tab Src i = i := compIdx_of_lt (hn ▸ hi)
    simp only [hd, if_true, operandDual, hc]
    refine ⟨?_, fun hR => by simp [zeroDerivs_apply, hR, lt_basevalues hi]⟩
    by_cases hf : (tab Src).typespec.isFloat
    · have hi0 : i = 0 := by rw [hn, ncomps_of_isFloat hf] at hi; omega
      subst hi0
      simp [zeroDerivs_apply, hf, storeValue_apply, noChannel]
    · have hi3 : i < 3 := by rw [hn, ncomps_of_isTriple (hS.resolve_left hf)] at hi; exact hi
      have loop := @forRange_storeValue_offChannel _ tab R 0 3
        (fun m i => fw (m (Src, 1, i)) (m (Src, 2, i)))
        (fun i _ m m' h => by simp only [h (Src, 1, i) (by simp), h (Src, 2, i) (by simp)]) m
      simp [zeroDerivs_apply, hf, loop, hi3, noChannel]
  · simp only [hd, if_false]
    exact assignZero_holds m hi

omit [FloorRing α] in
/-- `Dx` or `Dy` of a symbol that holds the dual number `v` (and has derivatives) reads `v`'s
derivative. -/
theorem llvmGenDxDy_of_holds (op : Opcode) (args : List Nat) {m : Store α} {v : Dual α}
    {i : Nat} (hi : i < (tab (op.argSym args 0)).ncomps)
    (hT : (tab (op.argSym args 1)).hasDerivs = true)
    (hc : compIdx tab (op.argSym args 1) i = i)
    (hv : Holds tab m (op.argSym args 1) i v) :
    Holds tab (llvmGenDxDy tab op args m) (op.argSym args 0) i
      (Dual.const (v.chan (if op.opname = "Dx" then 1 else 2))) := by
  have h := llvmGenDxDy_holds op args m hi
  have hv' : operandDual tab m (op.argSym args 1) i = v := by
    obtain ⟨h0, h12⟩ := hv
    simp only [operandDual, hT, if_true, hc, h0, (h12 hT).1, (h12 hT).2]
  rwa [hv'] at h

omit [FloorRing α] in
/-- `Dx` of a product the code has just computed (`mul T A B`, then `Dx R T`) reads the
product rule's derivative `a bx + ax b`, whatever the operands' kinds. -/
theorem llvmGenDxDy_after_mul (lib : MatrixOps α) (mop dop : Opcode) (args : List Nat)
    (m : Store α) {i : Nat} (hM : (tab (mop.argSym args 0)).typespec.isMatrix = false)
    (hT : (tab (mop.argSym args 0)).hasDerivs = true)
    (hsrc : dop.argSym args 1 = mop.argSym args 0) (hdx : dop.opname = "Dx")
    (hi : i < (tab (dop.argSym args 0)).ncomps) (hiT : i < (tab (mop.argSym args 0)).ncomps) :
    Holds tab (llvmGenDxDy tab dop args (llvmGenMul tab lib mop args m)) (dop.argSym args 0) i
      (Dual.const ((operandDual tab m (mop.argSym args 1) i).val *
          (operandDual tab m (mop.argSym args 2) i).dx +
        (operandDual tab m (mop.argSym args 1) i).dx *
          (operandDual tab m (mop.argSym args 2) i).val)) := by
  have h := llvmGenDxDy_of_holds dop args hi (hsrc ▸ hT) (hsrc ▸ compIdx_of_lt hiT)
    (hsrc ▸ llvmGenMul_holds lib mop args m hM hiT)
  simpa [hdx] using h

end Correct

/-- The symbols of `mod R A B` and of `mul T A B; Dx R T`: colours, all with derivatives but the
divisor `B`. -/
def derivTab : Nat → Symbol
  | 2 => { name := "B", typespec := { simpletype := TypeDesc.TypeColor }, symtype := .local }
  | 1 => { name := "A", typespec := { simpletype := TypeDesc.TypeColor }, symtype := .local,
           hasDerivs := true }
  | 3 => { name := "T", typespec := { simpletype := TypeDesc.TypeColor }, symtype := .local,
           hasDerivs := true }
  | _ => { name := "R", typespec := { simpletype := TypeDesc.TypeColor }, symtype := .local,
           hasDerivs := true }

/-- The matrix library of a program without matrices. -/
def noMatrixOps : MatrixOps ℚ := ⟨fun _ _ _ => 0, fun _ _ _ => 0, fun _ _ _ => 0, fun _ _ _ => 0,
  fun _ _ _ => 0⟩

/-- `mod R A B` at the second component, from a store holding `3` in every value and `1` in
every derivative. -/
theorem llvmGenModulus_holds_colour :
    let m : Store ℚ := fun s => if s.2.1 = 0 then 3 else 1
    1 < (derivTab 0).ncomps ∧ (operandDual derivTab m 2 1).val ≠ 0 ∧
      Holds derivTab (llvmGenModulus derivTab false { opname := "mod", nargs := 3 } [0, 1, 2] m) 0 1
        ⟨opMod true (operandDual derivTab m 1 1).val (operandDual derivTab m 2 1).val,
          (operandDual derivTab m 1 1).dx, (operandDual derivTab m 1 1).dy⟩ :=
  ⟨by decide, by decide, llvmGenModulus_holds false _ _ _ (by decide) (by decide)⟩

/-- `mul T A B` then `Dx R T`, the two ops' arguments one after the other in the argument list,
at the third component. -/
theorem llvmGenDxDy_after_mul_colour :
    let mop : Opcode := { opname := "mul", nargs := 3 }
    let dop : Opcode := { opname := "Dx", firstarg := 3, nargs := 2 }
    let args := [3, 1, 2, 0, 3]
    let m : Store ℚ := fun s => s.2.1 + s.2.2
    (derivTab (mop.argSym args 0)).typespec.isMatrix = false ∧
      (derivTab (mop.argSym args 0)).hasDerivs = true ∧ dop.argSym args 1 = mop.argSym args 0 ∧
      dop.opname = "Dx" ∧ 2 < (derivTab (dop.argSym args 0)).ncomps ∧
      2 < (derivTab (mop.argSym args 0)).ncomps ∧
      Holds derivTab (llvmGenDxDy derivTab dop args (llvmGenMul derivTab noMatrixOps mop args m))
        (dop.argSym args 0) 2
        (Dual.const ((operandDual derivTab m (mop.argSym args 1) 2).val *
            (operandDual derivTab m (mop.argSym args 2) 2).dx +
          (operandDual derivTab m (mop.argSym args 1) 2).dx *
            (operandDual derivTab m (mop.argSym args 2) 2).val)) :=
  ⟨by decide, rfl, rfl, rfl, by decide, by decide,
    llvmGenDxDy_after_mul noMatrixOps _ _ _ _ (by decide) rfl rfl rfl (by decide) (by decide)⟩

/-- `filterwidth R A` of a colour with derivatives, at the third component. -/
theorem llvmGenFilterwidth_holds_colour :
    let op : Opcode := { opname := "filterwidth", nargs := 2 }
    let m : Store ℚ := fun s => s.2.1 + s.2.2
    let fw : ℚ → ℚ → ℚ := fun dx dy => |dx| + |dy|
    ((derivTab 1).typespec.isFloat = true ∨ (derivTab 1).typespec.isTriple = true) ∧
      (derivTab 0).ncomps = (derivTab 1).ncomps ∧ 2 < (derivTab 0).ncomps ∧
      Holds derivTab (llvmGenFilterwidth derivTab fw op [0, 1] m) 0 2
        (Dual.const (if (derivTab 1).hasDerivs then
          fw (operandDual derivTab m 1 2).dx (operandDual derivTab m 1 2).dy else 0)) :=
  ⟨Or.inr (by decide), by decide, by decide,
    llvmGenFilterwidth_holds _ _ _ _ (Or.inr (by decide)) (by decide) (by decide)⟩

end OslExec
