import OslExec.ArithCorrect
import OslExec.Bounds
import OslExec.Closure

/-!
# The comparison, logic and matrix-construction generators

`llvm_gen_compare_op` compares its operands component by component (a scalar broadcast, an int
read as a float next to a float) and combines the component results with `and` for `lt`, `le`,
`eq`, `ge` and `gt`, with `or` for `neq`; a matrix compared with a scalar compares its diagonal
with the scalar and the rest with zero. A closure is compared with the null pointer, which the
store holds as `0` in the closure's value. `llvm_gen_andor` computes `and` and `or` of two ints
as the old bitcode did. `llvm_gen_matrix` builds a matrix from one float (on the diagonal) or
from sixteen, converted from a named space by the runtime.

## Key results

- `llvmGenCompareOp_value`: the stored result is one exactly when every component satisfies the
  relation (some component, for `neq`)
- `llvmGenCompareOp_neq_eq`: `neq` stores the complement of what `eq` stores
- `llvmGenMatrix_compare_eq`: a matrix made from a float compares equal to that float
-/

namespace OslExec

section Compare

variable {α : Type} [LinearOrderedField α] (tab : Nat → Symbol)

/-- The relation `llvm_gen_compare_op` emits for an op name; `none` for any other name, where it
asserts. -/
def compareRel (opname : String) : Option (α → α → Bool) :=
  if opname = "lt" then some fun a b => decide (a < b)
  else if opname = "le" then some fun a b => decide (a ≤ b)
  else if opname = "eq" then some fun a b => decide (a = b)
  else if opname = "ge" then some fun a b => decide (b ≤ a)
  else if opname = "gt" then some fun a b => decide (b < a)
  else if opname = "neq" then some fun a b => decide (a ≠ b)
  else none

/-- Component `i` of the compared operands: the loads of component `i`, with the scalar side of
a matrix compared with a scalar replaced by zero off the diagonal. -/
def compareOperands (m : Store α) (A B i : Nat) : α × α :=
  let a := loadValue tab m A 0 i
  let b := loadValue tab m B 0 i
  let off := decide (i / 4 ≠ i % 4)
  let b := if (tab A).typespec.isMatrix && !(tab B).typespec.isMatrix && off then 0 else b
  let a := if !(tab A).typespec.isMatrix && (tab B).typespec.isMatrix && off then 0 else a
  (a, b)

/-- The combination loop: the first component's result, then `final_result &= result` (`|=`
for `neq`); `none` before the first component. -/
def compareFold (m : Store α) (neq : Bool) (rel : α → α → Bool) (A B n : Nat) : Option Bool :=
  forRange n (fun acc i =>
    let ab := compareOperands tab m A B i
    let r := rel ab.1 ab.2
    some (match acc with
      | none => r
      | some f => if neq then f || r else f && r)) none

/-- `llvm_gen_compare_op`: the comparison's truth, as an int, into the result's value; `none`
where it asserts (a closure compared with something other than an int, an unknown op name, no
component). -/
def llvmGenCompareOp (op : Opcode) (args : List Nat) (m : Store α) : Option (Store α) :=
  let R := op.argSym args 0
  let A := op.argSym args 1
  let B := op.argSym args 2
  if (tab A).typespec.isClosure then
    if (tab B).typespec.isInt then
      let r := if op.opname = "eq" then decide (m (A, 0, 0) = 0) else decide (m (A, 0, 0) ≠ 0)
      some (storeValue tab m R 0 0 (if r then 1 else 0))
    else none
  else
    match compareRel op.opname with
    | none => none
    | some rel =>
      (compareFold tab m (op.opname = "neq") rel A B (max (tab A).ncomps (tab B).ncomps)).map
        fun f => storeValue tab m R 0 0 (if f then 1 else 0)

variable {tab}

omit [LinearOrderedField α] in
@[simp] theorem argSym_with_opname (op : Opcode) (name : String) (args : List Nat) (k : Nat) :
    ({ op with opname := name } : Opcode).argSym args k = op.argSym args k := rfl

/-- The loop's result: the `and` of the component results over the components, their `or` for
`neq`. -/
theorem compareFold_eq (m : Store α) (neq : Bool) (rel : α → α → Bool) (A B : Nat) {n : Nat}
    (hn : 0 < n) :
    compareFold tab m neq rel A B n = some (if neq then
        (List.range n).any fun i => rel (compareOperands tab m A B i).1 (compareOperands tab m A B i).2
      else
        (List.range n).all fun i => rel (compareOperands tab m A B i).1 (compareOperands tab m A B i).2) := by
  induction n with
  | zero => exact absurd hn (lt_irrefl 0)
  | succ n ih =>
    unfold compareFold at ih ⊢
    rw [forRange_succ]
    rcases Nat.eq_zero_or_pos n with rfl | hn'
    · cases neq <;> simp [List.range_succ]
    · rw [ih hn']
      cases neq <;> simp [List.range_succ, List.any_append, List.all_append]

/-- `llvm_gen_compare_op` on operands that are not closures stores one exactly when every
component satisfies the op's relation (when some component does, for `neq`), and zero
otherwise; nothing else changes. -/
theorem llvmGenCompareOp_value {op : Opcode} {args : List Nat} (m : Store α)
    {rel : α → α → Bool} (hA : (tab (op.argSym args 1)).typespec.isClosure = false)
    (hrel : compareRel op.opname = some rel) :
    let A := op.argSym args 1
    let B := op.argSym args 2
    let n := max (tab A).ncomps (tab B).ncomps
    let holds i := rel (compareOperands tab m A B i).1 (compareOperands tab m A B i).2
    llvmGenCompareOp tab op args m = some (storeValue tab m (op.argSym args 0) 0 0
      (if (if op.opname = "neq" then (List.range n).any holds else (List.range n).all holds)
        then 1 else 0)) := by
  have hn : 0 < max (tab (op.argSym args 1)).ncomps (tab (op.argSym args 2)).ncomps :=
    lt_max_of_lt_left (Aggregate.toNat_pos _)
  simp only [llvmGenCompareOp, hA, Bool.false_eq_true, if_false, hrel, compareFold_eq _ _ _ _ _ hn,
    Option.map_some', decide_eq_true_eq]

/-- `neq` stores the complement of what `eq` stores, for every pair of operands (closures
included): the component results are combined with `or` for one and `and` for the other. -/
theorem llvmGenCompareOp_neq_eq {op : Opcode} {args : List Nat} {m m₁ : Store α}
    (h : llvmGenCompareOp tab { op with opname := "eq" } args m = some m₁) :
    ∃ m₂, llvmGenCompareOp tab { op with opname := "neq" } args m = some m₂ ∧
      m₁ (op.argSym args 0, 0, 0) + m₂ (op.argSym args 0, 0, 0) = 1 ∧
      ∀ s, s ≠ (op.argSym args 0, 0, 0) → m₁ s = m s ∧ m₂ s = m s := by
  have hR (v : α) :
      storeValue tab m (op.argSym args 0) 0 0 v = Function.update m (op.argSym args 0, 0, 0) v := by
    simp [storeValue, noChannel]
  have frame (v w : α) (s : Slot) (hs : s ≠ (op.argSym args 0, 0, 0)) :
      Function.update m (op.argSym args 0, 0, 0) v s = m s ∧
        Function.update m (op.argSym args 0, 0, 0) w s = m s :=
    ⟨Function.update_noteq hs _ _, Function.update_noteq hs _ _⟩
  by_cases hA : (tab (op.argSym args 1)).typespec.isClosure
  · by_cases hB : (tab (op.argSym args 2)).typespec.isInt
    · simp only [llvmGenCompareOp, argSym_with_opname, hA, hB, if_true, Option.some.injEq] at h ⊢
      subst h
      refine ⟨_, rfl, ?_, fun s hs => ?_⟩
      · simp only [hR, Function.update_same]
        split_ifs <;> simp_all
      · simp only [hR]; exact frame _ _ s hs
    · simp [llvmGenCompareOp, hA, hB] at h
  · rw [Bool.not_eq_true] at hA
    rw [@llvmGenCompareOp_value _ _ _ { op with opname := "eq" } args m (fun a b => decide (a = b))
      hA (by simp [compareRel])] at h
    rw [@llvmGenCompareOp_value _ _ _ { op with opname := "neq" } args m (fun a b => decide (a ≠ b))
      hA (by simp [compareRel])]
    simp only [argSym_with_opname, Option.some.injEq, hR] at h ⊢
    subst h
    refine ⟨_, rfl, ?_, fun s hs => frame _ _ s hs⟩
    have hne : ("eq" : String) ≠ "neq" := by decide
    simp only [Function.update_same, List.all_eq_not_any_not, decide_not, Bool.not_not, if_true,
      hne, if_false]
    cases List.any _ _ <;> norm_num

end Compare

/-- The symbols of `eq R A B` on two colours: an int result, then colours. -/
def colourCompareTab : Nat → Symbol
  | 0 => { name := "R", typespec := { simpletype := TypeDesc.TypeInt }, symtype := .local }
  | _ => { name := "C", typespec := { simpletype := TypeDesc.TypeColor }, symtype := .local }

/-- `eq` and `neq` of the colours `(0, 1, 2)` and `(0, 1, 2)` read from one store: the two
results add up to one. -/
theorem llvmGenCompareOp_neq_eq_colour :
    let op : Opcode := { opname := "eq", nargs := 3 }
    let m : Store ℚ := fun s => s.2.2
    ∃ m₁, llvmGenCompareOp colourCompareTab { op with opname := "eq" } [0, 1, 2] m = some m₁ ∧
      ∃ m₂, llvmGenCompareOp colourCompareTab { op with opname := "neq" } [0, 1, 2] m = some m₂ ∧
        m₁ (op.argSym [0, 1, 2] 0, 0, 0) + m₂ (op.argSym [0, 1, 2] 0, 0, 0) = 1 ∧
        ∀ s, s ≠ (op.argSym [0, 1, 2] 0, 0, 0) → m₁ s = m s ∧ m₂ s = m s :=
  ⟨_, rfl, llvmGenCompareOp_neq_eq rfl⟩

/-! ### `llvm_gen_matrix` and its comparison with a scalar -/

section Matrix

variable {α : Type} [LinearOrderedField α] (tab : Nat → Symbol)

/-- `llvm_gen_matrix`. With two space names (three arguments, the second a string) the runtime's
`osl_get_from_to_matrix` (`getFromTo`) fills the result. Otherwise the result's value components
are the float on the diagonal and zero elsewhere (one float) or the sixteen floats, converted by
`osl_prepend_matrix_from` (`prependFrom`) when a space is named. A result with derivatives gets
zero ones. `none` for another number of floats, where the code asserts. -/
def llvmGenMatrix (getFromTo prependFrom : Store α → Store α) (op : Opcode) (args : List Nat)
    (m : Store α) : Option (Store α) :=
  let R := op.argSym args 0
  let usingSpace := op.nargs = 3 ∨ op.nargs = 18
  let usingTwoSpaces := op.nargs = 3 ∧ (tab (op.argSym args 2)).typespec.isString
  let sp := if usingSpace then 1 else 0
  let nfloats := op.nargs - 1 - sp
  let m? :=
    if usingTwoSpaces then some (getFromTo m)
    else
      let m? :=
        if nfloats = 1 then
          some (forRange 16 (fun m i => storeValue tab m R 0 i
            (if i % 4 = i / 4 then loadValue tab m (op.argSym args (1 + sp)) 0 0 else 0)) m)
        else if nfloats = 16 then
          some (forRange 16 (fun m i => storeValue tab m R 0 i
            (loadValue tab m (op.argSym args (i + 1 + sp)) 0 0)) m)
        else none
      m?.map fun m => if usingSpace then prependFrom m else m
  m?.map fun m => if (tab R).hasDerivs then zeroDerivs tab m R else m

variable {tab}

/-- A load of a symbol's first value is its first value slot. -/
@[simp] theorem loadValue_zero_zero (m : Store α) (x : Nat) : loadValue tab m x 0 0 = m (x, 0, 0) := by
  simp [loadValue, noChannel, compIdx]

/-- `matrix M F`, one float and no space: `M` holds `F` on its diagonal and zero elsewhere, and
no other symbol's value changes. -/
theorem llvmGenMatrix_diag (getFromTo prependFrom : Store α → Store α) {op : Opcode}
    {args : List Nat} (m : Store α) (hn : op.nargs = 2) (hF : op.argSym args 1 ≠ op.argSym args 0) :
    ∃ m', llvmGenMatrix tab getFromTo prependFrom op args m = some m' ∧
      (∀ i < 16, m' (op.argSym args 0, 0, i) =
        if i % 4 = i / 4 then m (op.argSym args 1, 0, 0) else 0) ∧
      ∀ x c, x ≠ op.argSym args 0 → m' (x, 0, c) = m (x, 0, c) := by
  -- the loop that fills the diagonal
  let L := forRange 16 (fun m i => storeValue tab m (op.argSym args 0) 0 i
    (if i % 4 = i / 4 then loadValue tab m (op.argSym args 1) 0 0 else 0)) m
  have hloop : ∀ s, L s = _ := @forRange_storeValue_other _ tab (op.argSym args 0) 0 16
    (fun m i => if i % 4 = i / 4 then loadValue tab m (op.argSym args 1) 0 0 else 0)
    (fun i _ m m' h => by simp only [loadValue_congr_of_ne h hF]) m
  have hm : llvmGenMatrix tab getFromTo prependFrom op args m = some
      (if (tab (op.argSym args 0)).hasDerivs then zeroDerivs tab L (op.argSym args 0) else L) := by
    simp [llvmGenMatrix, hn, L]
  refine ⟨_, hm, fun i hi => ?_, fun x c hx => ?_⟩
  · split <;> simp [zeroDerivs_apply, hloop, hi, noChannel]
  · split <;> simp [zeroDerivs_apply, hloop, hx]

/-- A matrix built from one float compares equal to that float: `matrix M F` followed by
`eq R M F` stores one in `R`, whatever the store held. The matrix holds `F` on its diagonal and
zero elsewhere, and a comparison of a matrix with a scalar reads the scalar on the diagonal and
zero elsewhere. -/
theorem llvmGenMatrix_compare_eq (getFromTo prependFrom : Store α → Store α) (mop cop : Opcode)
    (args : List Nat) (m : Store α) (hn : mop.nargs = 2)
    (hM : (tab (mop.argSym args 0)).typespec.isMatrix = true)
    (hF : (tab (mop.argSym args 1)).typespec.isFloat = true)
    (hA : cop.argSym args 1 = mop.argSym args 0) (hB : cop.argSym args 2 = mop.argSym args 1)
    (hop : cop.opname = "eq") :
    ∃ m'', (llvmGenMatrix tab getFromTo prependFrom mop args m).bind
      (llvmGenCompareOp tab cop args) = some m'' ∧ m'' (cop.argSym args 0, 0, 0) = 1 := by
  simp only [TypeSpec.isMatrix, TypeSpec.isFloat, Bool.and_eq_true, Bool.not_eq_true',
    beq_iff_eq] at hM hF
  have hne : mop.argSym args 1 ≠ mop.argSym args 0 := fun h => by
    rw [h, hM.2] at hF
    exact absurd hF.2 (by decide)
  obtain ⟨m', hm, hdiag, hother⟩ := llvmGenMatrix_diag getFromTo prependFrom m hn hne
  have hAc : (tab (cop.argSym args 1)).typespec.isClosure = false := by
    simp [hA, TypeSpec.isClosure, hM.1]
  rw [hm, Option.some_bind, @llvmGenCompareOp_value _ _ _ cop args m' (fun a b => decide (a = b))
    hAc (by simp [compareRel, hop])]
  refine ⟨_, rfl, ?_⟩
  -- every component of the matrix equals the scalar as the comparison reads it
  have hall : ∀ i < 16, (compareOperands tab m' (cop.argSym args 1) (cop.argSym args 2) i).1 =
      (compareOperands tab m' (cop.argSym args 1) (cop.argSym args 2) i).2 := by
    intro i hi
    simp only [compareOperands, hA, hB, loadValue, noChannel, compIdx, hM.1, hM.2, hF.1, hF.2,
      TypeSpec.isMatrix, lt_irrefl, false_and, if_false]
    by_cases hd : i % 4 = i / 4 <;> simp [-Prod.mk_zero_zero, hd, eq_comm (a := i / 4),
      TypeDesc.TypeMatrix, TypeDesc.TypeFloat, hdiag i hi, hother _ _ hne]
  have hn16 : max (tab (cop.argSym args 1)).ncomps (tab (cop.argSym args 2)).ncomps = 16 := by
    simp [Symbol.ncomps, hA, hB, hM.2, hF.2, TypeDesc.TypeMatrix, TypeDesc.TypeFloat,
      Aggregate.toNat]
  simp only [hop, hn16, storeValue, noChannel, lt_irrefl, false_and, if_false,
    Function.update_same]
  rw [if_pos (by simpa using hall)]

end Matrix

/-- The symbols of `matrix M F` then `eq R M F`: an int `R`, a matrix `M`, a float `F`. -/
def matrixCompareTab : Nat → Symbol
  | 1 => { name := "M", typespec := { simpletype := TypeDesc.TypeMatrix }, symtype := .local }
  | 2 => { name := "F", typespec := { simpletype := TypeDesc.TypeFloat }, symtype := .local,
           hasDerivs := true }
  | _ => { name := "R", typespec := { simpletype := TypeDesc.TypeInt }, symtype := .local }

/-- `matrix M F` then `eq R M F`, the two ops' arguments one after the other in the argument
list, from a store holding `2` everywhere. -/
theorem llvmGenMatrix_compare_eq_diag :
    let mop : Opcode := { opname := "matrix", nargs := 2 }
    let cop : Opcode := { opname := "eq", firstarg := 2, nargs := 3 }
    let args := [1, 2, 0, 1, 2]
    mop.nargs = 2 ∧ (matrixCompareTab (mop.argSym args 0)).typespec.isMatrix = true ∧
      (matrixCompareTab (mop.argSym args 1)).typespec.isFloat = true ∧
      cop.argSym args 1 = mop.argSym args 0 ∧ cop.argSym args 2 = mop.argSym args 1 ∧
      cop.opname = "eq" ∧
      ∃ m'', (llvmGenMatrix matrixCompareTab id id mop args fun _ => (2 : ℚ)).bind
        (llvmGenCompareOp matrixCompareTab cop args) = some m'' ∧
        m'' (cop.argSym args 0, 0, 0) = 1 :=
  ⟨rfl, by decide, by decide, rfl, rfl, rfl,
    llvmGenMatrix_compare_eq id id _ _ _ _ rfl (by decide) (by decide) rfl rfl rfl⟩

/-! ### `llvm_gen_andor` -/

section Andor

variable {α : Type} [LinearOrderedField α] [FloorRing α] (tab : Nat → Symbol)

/-- `fptosi`: a float converted to an int toward zero. -/
def truncToInt (v : α) : ℤ := if 0 ≤ v then ⌊v⌋ else ⌈v⌉

/-- `llvm_load_value(x, 0, 0, TypeInt)`: an int's value, a float-based value converted toward
zero. -/
def loadIntValue (m : Store α) (x : Nat) : ℤ :=
  if (tab x).typespec.isFloatBased then truncToInt (m (x, 0, 0)) else intValue m x

/-- `llvm_gen_andor`, as the old bitcode computed it: `and` is `b != 0 && a != 0`, `or` is
`(a | b) != 0`; the truth goes to the result's value as an int. -/
def llvmGenAndor (op : Opcode) (args : List Nat) (m : Store α) : Store α :=
  let a := loadIntValue tab m (op.argSym args 1)
  let b := loadIntValue tab m (op.argSym args 2)
  let r := if op.opname = "and" then decide (b ≠ 0) && decide (a ≠ 0)
    else decide (Int.lor a b ≠ 0)
  storeValue tab m (op.argSym args 0) 0 0 (if r then 1 else 0)

end Andor

end OslExec
