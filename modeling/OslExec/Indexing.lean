import OslExec.DualRun

/-!
# Component, element and matrix-entry assignment, read back

`llvm_gen_compassign`, `llvm_gen_aassign` and `llvm_gen_mxcompassign` store into one component
of a triple, one element of an array and one entry of a matrix; `llvm_gen_compref`,
`llvm_gen_aref` and `llvm_gen_mxcompref` read one back. Each computes the place from its index
operands as `OslExec.Bounds` gives it: a constant component, row or column is clamped, an index
that is not a constant in range goes through `osl_range_check` when the master asks for range
checking (here the clamp `rangeCheck`), and otherwise the index is used as it is.

Wherever the access is defined (with range checking, with a constant component, row and column,
or with indices in range) the place is the index clamped into its range. So the stores behave as
a memory addressed by clamped indices: a read after an assignment gets the assigned value when
the two clamped places agree, and the old value otherwise, for every value the indices hold
when the code runs, out of range ones included when the master checks ranges.

## Key results

- `componentIndex_rangeCheck`, `checkedIndex_rangeCheck`, `matrixIndex_rangeCheck`: a defined
  access addresses the clamped index
- `llvmGenCompref_compassign`: `compref` after `compassign`
- `llvmGenAref_aassign`: `aref` after `aassign`
- `llvmGenMxcompref_mxcompassign`: `mxcompref` after `mxcompassign`
-/

namespace OslExec

/-! ### The assignment generators -/

section Assign

variable {α : Type} [LinearOrderedField α] [FloorRing α] (tab : Nat → Symbol)

/-- Modelled from the spec: `llvm_store_component_value`, a store into a component computed at
run time. -/
def storeComponent (m : Store α) (x d : Nat) (c : ℤ) (v : α) : Store α :=
  storeValue tab m x d c.toNat v

/-- Modelled from the spec: `llvm_store_value` with an array index, component `c` of element
`e`. -/
def storeElement (m : Store α) (x d e c : Nat) (v : α) : Store α :=
  storeValue tab m x d (e * (tab x).ncomps + c) v

/-- `llvm_gen_compassign`: `Result[Index] = Val`, channel by channel (the derivatives only when
`Result` has them), each from the same channel of `Val`'s first component. -/
def llvmGenCompassign (rangeChecking : Bool) (op : Opcode) (args : List Nat) (m : Store α) :
    Store α :=
  let R := op.argSym args 0
  let Index := op.argSym args 1
  let Val := op.argSym args 2
  let c := llvmGenCompassignIndex tab rangeCheck rangeChecking (intValue m) op args
  let chan (m : Store α) (d : Nat) : Store α :=
    let val := loadValue tab m Val d 0
    if (tab Index).isConstant then storeValue tab m R d c.toNat val
    else storeComponent tab m R d c val
  let m := chan m 0
  if (tab R).hasDerivs then chan (chan m 1) 2 else m

/-- The conversion `llvm_gen_aassign` loads `Src` with: for a one-component numeric `Result` the
result's type, so that a float stored into an int is converted toward zero (`fptosi`) and an int
stored into a float keeps its value; otherwise none. -/
def aassignCast (R Src : Nat) (v : α) : α :=
  let cast := ((tab R).ncomps == 1) && !(tab R).typespec.isClosure &&
    !(tab Src).typespec.isClosure &&
    ((tab R).typespec.isIntBased || (tab R).typespec.isFloatBased) &&
    ((tab Src).typespec.isIntBased || (tab Src).typespec.isFloatBased)
  if cast && (tab R).typespec.isIntBased && (tab Src).typespec.isFloatBased then
    (truncToInt v : α)
  else v

/-- `llvm_gen_aassign`: `Result[Index] = Src`, channel by channel (the derivatives only when
`Result` has them), component by component of the element. -/
def llvmGenAassign (rangeChecking : Bool) (op : Opcode) (args : List Nat) (m : Store α) :
    Store α :=
  let R := op.argSym args 0
  let Src := op.argSym args 2
  let e := llvmGenAassignIndex tab rangeCheck rangeChecking (intValue m) op args
  let chan (m : Store α) (d : Nat) : Store α :=
    forRange (tab R).ncomps (fun m c =>
      storeElement tab m R d e.toNat c (aassignCast tab R Src (loadValue tab m Src d c))) m
  let m := chan m 0
  if (tab R).hasDerivs then chan (chan m 1) 2 else m

/-- `llvm_gen_mxcompref`: `Result = M[Row][Col]`, the entry `4 * row + col`; `Result`'s
derivatives are zeroed. -/
def llvmGenMxcompref (rangeChecking : Bool) (op : Opcode) (args : List Nat) (m : Store α) :
    Store α :=
  let R := op.argSym args 0
  let M := op.argSym args 1
  let Row := op.argSym args 2
  let Col := op.argSym args 3
  let rc := llvmGenMxcomprefIndex tab rangeCheck rangeChecking (intValue m) op args
  let val := if (tab Row).isConstant && (tab Col).isConstant then
      loadValue tab m M 0 (4 * rc.1 + rc.2).toNat
    else loadComponent tab m M 0 (rc.1 * 4 + rc.2)
  zeroDerivs tab (storeValue tab m R 0 0 val) R

/-- `llvm_gen_mxcompassign`: `Result[Row][Col] = Val`, the value only. -/
def llvmGenMxcompassign (rangeChecking : Bool) (op : Opcode) (args : List Nat) (m : Store α) :
    Store α :=
  let R := op.argSym args 0
  let Row := op.argSym args 1
  let Col := op.argSym args 2
  let Val := op.argSym args 3
  let rc := llvmGenMxcompassignIndex tab rangeCheck rangeChecking (intValue m) op args
  let val := loadValue tab m Val 0 0
  if (tab Row).isConstant && (tab Col).isConstant then
    storeValue tab m R 0 (4 * rc.1 + rc.2).toNat val
  else storeComponent tab m R 0 (rc.1 * 4 + rc.2) val

end Assign

/-! ### Defined accesses address the clamped index -/

section Clamp

variable {tab : Nat → Symbol} {rangeChecking : Bool} {v : Nat → ℤ}

/-- An array index with range checking, or in range, is the index clamped into the array. -/
theorem checkedIndex_rangeCheck {x : Nat} {len : ℤ}
    (h : rangeChecking = true ∨ (0 ≤ v x ∧ v x < len)) :
    checkedIndex tab rangeCheck rangeChecking v x len = max 0 (min (v x) (len - 1)) := by
  unfold checkedIndex rangeCheck
  split_ifs with hc
  · rfl
  · rcases h with rfl | h
    · simp only [Bool.true_and, Bool.not_eq_true', Bool.not_eq_false', Bool.not_eq_false,
        Bool.and_eq_true, decide_eq_true_eq] at hc
      omega
    · omega

/-- A component index of a triple that is a constant, range-checked or in range is the index
clamped into `[0, 2]`. -/
theorem componentIndex_rangeCheck {x : Nat}
    (h : rangeChecking = true ∨ (tab x).isConstant = true ∨ (0 ≤ v x ∧ v x < 3)) :
    componentIndex tab rangeCheck rangeChecking v x = max 0 (min (v x) 2) := by
  unfold componentIndex
  split
  · rfl
  · next hc =>
    rw [checkedIndex_rangeCheck (by simpa [hc] using h)]
    rfl

/-- A row or column that `llvm_gen_mxcompref` checks whenever it is not known to be in range
is its clamp into `[0, 3]`. -/
theorem ite_rangeCheck_eq {c : Bool} {i : ℤ} (h : c = false → 0 ≤ i ∧ i < 4) :
    (if c = true then rangeCheck i 4 else i) = max 0 (min i 3) := by
  cases c
  · have := h rfl
    simp only [Bool.false_eq_true, if_false]
    omega
  · simp only [if_true, rangeCheck]
    omega

/-- A matrix row and column that are both constants, range-checked or both in range are
clamped into `[0, 3]`. -/
theorem matrixIndex_rangeCheck {Row Col : Nat}
    (h : rangeChecking = true ∨ ((tab Row).isConstant = true ∧ (tab Col).isConstant = true) ∨
      (0 ≤ v Row ∧ v Row < 4 ∧ 0 ≤ v Col ∧ v Col < 4)) :
    matrixIndex tab rangeCheck rangeChecking v Row Col =
      (max 0 (min (v Row) 3), max 0 (min (v Col) 3)) := by
  unfold matrixIndex
  split_ifs with hc
  · rfl
  · -- not both constants: each is checked unless known to be in range
    have hb : ¬ ((tab Row).isConstant = true ∧ (tab Col).isConstant = true) := by simpa using hc
    rcases h with rfl | h | h
    · refine Prod.ext (ite_rangeCheck_eq fun hf => ?_) (ite_rangeCheck_eq fun hf => ?_) <;>
        cases hr : (tab Row).isConstant <;> cases hl : (tab Col).isConstant <;> simp_all
    · exact absurd h hb
    · exact Prod.ext (ite_rangeCheck_eq fun _ => ⟨h.1, h.2.1⟩)
        (ite_rangeCheck_eq fun _ => ⟨h.2.2.1, h.2.2.2⟩)

end Clamp

section Reads

variable {α : Type} [LinearOrderedField α] {tab : Nat → Symbol}

@[simp] theorem keepDerivs_val (s : Symbol) (v : Dual α) : (keepDerivs s v).val = v.val := by
  unfold keepDerivs
  split <;> rfl

theorem keepDerivs_of_hasDerivs {s : Symbol} (h : s.hasDerivs = true) (v : Dual α) :
    keepDerivs s v = v :=
  if_pos h

@[simp] theorem elementDual_val (m : Store α) (x e c : Nat) :
    (elementDual tab m x e c).val = m (x, 0, e * (tab x).ncomps + c) := by
  unfold elementDual
  split <;> rfl

end Reads

/-! ### The channel loop and the element loop -/

section Loops

variable {α : Type} [LinearOrderedField α] {tab : Nat → Symbol}

omit [LinearOrderedField α] in
/-- The channel loop of the indexing generators: channel `0`, then the two derivative channels
when `R` has them. If pass `d` writes the slots `P` selects of channel `d` of `R`, with values
that read no slot of `R`, the loop writes those slots of every channel `R` has. -/
theorem derivChannels_apply {R : Nat} {chan : Store α → Nat → Store α} {P : Slot → Prop}
    [DecidablePred P] {F : Store α → Slot → α}
    (hchan : ∀ d M s, chan M d s =
      if s.1 = R ∧ s.2.1 = d ∧ ¬ noChannel tab R d ∧ P s then F M s else M s)
    (hF : ∀ M M' s, (∀ s', s'.1 ≠ R → M s' = M' s') → F M s = F M' s) (m : Store α) (s : Slot) :
    (if (tab R).hasDerivs then chan (chan (chan m 0) 1) 2 else chan m 0) s =
      if s.1 = R ∧ s.2.1 < 3 ∧ ¬ noChannel tab R s.2.1 ∧ P s then F m s else m s := by
  -- each pass leaves the other symbols alone, so every pass computes its values from `m`
  have hkeep : ∀ d M s', s'.1 ≠ R → chan M d s' = M s' := fun d M s' h => by
    rw [hchan, if_neg fun h' => h h'.1]
  have hF1 : F (chan m 0) s = F m s := hF _ _ s (hkeep 0 m)
  have hF2 : F (chan (chan m 0) 1) s = F m s :=
    hF _ _ s fun s' h => (hkeep 1 _ s' h).trans (hkeep 0 m s' h)
  obtain ⟨x, d, c⟩ := s
  split
  · next hd =>
    simp only [hchan, hF1, hF2]
    rcases d with _ | _ | _ | d <;> simp [noChannel, hd, Nat.succ_lt_succ_iff]
  · next hd =>
    simp only [hchan]
    rcases d with _ | d <;> simp [noChannel, hd]

omit [LinearOrderedField α] in
/-- The element loop of `llvm_gen_aassign`: the components `c < n` of channel `d` of `R` from
`base` on get `f m c`, values that read no slot of `R`. -/
theorem forRange_storeValue_offset {R d n base : Nat} {f : Store α → Nat → α} (m : Store α)
    (hf : ∀ c M, (∀ s, s.1 ≠ R → M s = m s) → f M c = f m c) (s : Slot) :
    forRange n (fun m c => storeValue tab m R d (base + c) (f m c)) m s =
      if s.1 = R ∧ s.2.1 = d ∧ ¬ noChannel tab R d ∧ (base ≤ s.2.2 ∧ s.2.2 < base + n) then
        f m (s.2.2 - base) else m s := by
  revert s
  refine forRange_induct (fun k (M : Store α) => ∀ s, M s =
    if s.1 = R ∧ s.2.1 = d ∧ ¬ noChannel tab R d ∧ (base ≤ s.2.2 ∧ s.2.2 < base + k) then
      f m (s.2.2 - base) else m s)
    (fun s => (if_neg fun ⟨_, _, _, h1, h2⟩ => absurd h2 (by omega)).symm) fun c _ M hM s => ?_
  have hfM : f M c = f m c := hf c M fun s hs => by rw [hM, if_neg fun h => hs h.1]
  obtain ⟨x, d', k⟩ := s
  rw [storeValue_apply, hM, hfM]
  simp only [Prod.mk.injEq]
  rcases lt_trichotomy k (base + c) with h | rfl | h
  · simp only [h.ne, and_false, false_and, if_false]
    congr 1
    apply propext
    constructor <;> rintro ⟨h1, h2, h3, h4, _⟩ <;> exact ⟨h1, h2, h3, h4, by omega⟩
  · by_cases hx : x = R <;> by_cases hd : d' = d <;> by_cases hn : noChannel tab R d <;>
      simp [hx, hd, hn]
  · simp only [h.ne', and_false, false_and, if_false]
    rw [if_neg fun h' => by omega, if_neg fun h' => by omega]

end Loops

/-! ### Reading back a component of a triple -/

section Triple

variable {α : Type} [LinearOrderedField α] [FloorRing α] {tab : Nat → Symbol}

/-- A defined `compassign` stores each channel `Result` has of its clamped component: that
channel of `Val`'s first component, read before the stores. -/
theorem llvmGenCompassign_eq (rangeChecking : Bool) (op : Opcode) (args : List Nat) (m : Store α)
    (hI : rangeChecking = true ∨ (tab (op.argSym args 1)).isConstant = true ∨
      (0 ≤ intValue m (op.argSym args 1) ∧ intValue m (op.argSym args 1) < 3)) :
    llvmGenCompassign tab rangeChecking op args m =
      forRange (if (tab (op.argSym args 0)).hasDerivs then 3 else 1)
        (fun m' d => storeValue tab m' (op.argSym args 0) d
          (max 0 (min (intValue m (op.argSym args 1)) 2)).toNat
          (loadValue tab m (op.argSym args 2) d 0)) m := by
  simp only [llvmGenCompassign, storeComponent, ite_self, llvmGenCompassignIndex,
    componentIndex_rangeCheck hI]
  split
  · simp only [loadValue_storeValue_of_ne (Nat.zero_ne_one), loadValue_storeValue_of_ne
      (Nat.succ_ne_self 1).symm, loadValue_storeValue_of_ne (Nat.zero_ne_add_one 1)]
    rfl
  · rfl

/-- A defined `compref` reads the clamped component of the triple `Val`. -/
theorem llvmGenCompref_holds_clamp (rangeChecking : Bool) (op : Opcode) (args : List Nat)
    (m : Store α) (hVal : (tab (op.argSym args 1)).typespec.simpletype.aggregate ≠ .scalar)
    (hJ : rangeChecking = true ∨ (tab (op.argSym args 2)).isConstant = true ∨
      (0 ≤ intValue m (op.argSym args 2) ∧ intValue m (op.argSym args 2) < 3)) :
    Holds tab (llvmGenCompref tab rangeChecking op args m) (op.argSym args 0) 0
      (operandDual tab m (op.argSym args 1)
        (max 0 (min (intValue m (op.argSym args 2)) 2)).toNat) := by
  -- the constant and the computed index read the same component
  have hread : ∀ (m' : Store α) d, (if (tab (op.argSym args 2)).isConstant then
      loadValue tab m' (op.argSym args 1) d (max 0 (min (intValue m (op.argSym args 2)) 2)).toNat
      else loadComponent tab m' (op.argSym args 1) d
        (checkedIndex tab rangeCheck rangeChecking (intValue m) (op.argSym args 2) 3)) =
      loadValue tab m' (op.argSym args 1) d
        (max 0 (min (intValue m (op.argSym args 2)) 2)).toNat := by
    intro m' d
    split
    · rfl
    · next hc =>
      rw [checkedIndex_rangeCheck (by simpa [hc] using hJ)]
      simp [loadValue, loadComponent, compIdx, hVal]
  simp only [checkedIndex] at hread
  unfold llvmGenCompref
  simp only [hread]
  rw [operandDual_eq_loads]
  refine ⟨?_, fun hR => ?_⟩
  · split_ifs <;> simp [storeValue_apply, noChannel, -Prod.mk_zero_zero]
  · simp [storeValue_apply, noChannel, hR, loadValue_storeValue_of_ne, -Prod.mk_zero_zero]

/-- The triple after a defined `compassign`, read at a clamped component: the assigned channels
of `Val` where the components agree, the old triple elsewhere. -/
theorem operandDual_compassign (rangeChecking : Bool) (op : Opcode) (args : List Nat)
    (m : Store α) (hvec : (tab (op.argSym args 0)).typespec.simpletype.aggregate ≠ .scalar)
    (hI : rangeChecking = true ∨ (tab (op.argSym args 1)).isConstant = true ∨
      (0 ≤ intValue m (op.argSym args 1) ∧ intValue m (op.argSym args 1) < 3)) (j : ℤ) :
    operandDual tab (llvmGenCompassign tab rangeChecking op args m) (op.argSym args 0)
        (max 0 (min j 2)).toNat =
      if max 0 (min (intValue m (op.argSym args 1)) 2) = max 0 (min j 2) then
        keepDerivs (tab (op.argSym args 0)) (operandDual tab m (op.argSym args 2) 0)
      else operandDual tab m (op.argSym args 0) (max 0 (min j 2)).toNat := by
  rw [llvmGenCompassign_eq rangeChecking op args m hI, operandDual_eq_loads, operandDual_eq_loads,
    operandDual_eq_loads]
  generalize op.argSym args 0 = R at hvec ⊢
  generalize op.argSym args 2 = V
  have hki : 0 ≤ max 0 (min (intValue m (op.argSym args 1)) 2) := le_max_left _ _
  generalize max 0 (min (intValue m (op.argSym args 1)) 2) = ki at hki
  have hkj : 0 ≤ max 0 (min j 2) := le_max_left _ _
  generalize max 0 (min j 2) = kj at hkj ⊢
  -- each channel of the component read
  have hload : ∀ d, d < 3 → loadValue tab (forRange (if (tab R).hasDerivs then 3 else 1)
      (fun m' d => storeValue tab m' R d ki.toNat (loadValue tab m V d 0)) m) R d kj.toNat =
      if ki = kj ∧ ¬ noChannel tab R d then loadValue tab m V d 0
      else loadValue tab m R d kj.toNat := fun d hd => by
    have hk : kj.toNat = ki.toNat ↔ ki = kj := by omega
    have hK : ¬ noChannel tab R d → d < (if (tab R).hasDerivs then 3 else 1) := fun h => by
      unfold noChannel at h
      split <;> simp_all
    unfold loadValue
    rw [forRange_storeChannels]
    simp only [compIdx, hvec, if_false, true_and, hk]
    by_cases hn : noChannel tab R d <;> by_cases heq : ki = kj <;> simp [hn, heq, hK, hd]
  rw [hload 0 (by norm_num), hload 1 (by norm_num), hload 2 (by norm_num)]
  by_cases heq : ki = kj
  · by_cases hd : (tab R).hasDerivs <;> simp [heq, hd, keepDerivs, noChannel, loadValue, Dual.const]
  · simp only [heq, false_and, if_false]

/-- `compref` after `compassign` on the same triple, both defined: the result gets `Val`'s first
component (with derivatives where the triple has them) when the two indices clamp to the same
component, and the triple's old component otherwise, for every value the indices hold. -/
theorem llvmGenCompref_compassign (rangeChecking : Bool) (op₁ op₂ : Opcode) (args : List Nat)
    (m : Store α) (hR : op₂.argSym args 1 = op₁.argSym args 0)
    (hJR : op₂.argSym args 2 ≠ op₁.argSym args 0)
    (hvec : (tab (op₁.argSym args 0)).typespec.simpletype.aggregate ≠ .scalar)
    (hI : rangeChecking = true ∨ (tab (op₁.argSym args 1)).isConstant = true ∨
      (0 ≤ intValue m (op₁.argSym args 1) ∧ intValue m (op₁.argSym args 1) < 3))
    (hJ : rangeChecking = true ∨ (tab (op₂.argSym args 2)).isConstant = true ∨
      (0 ≤ intValue m (op₂.argSym args 2) ∧ intValue m (op₂.argSym args 2) < 3)) :
    Holds tab (llvmGenCompref tab rangeChecking op₂ args
        (llvmGenCompassign tab rangeChecking op₁ args m)) (op₂.argSym args 0) 0
      (if max 0 (min (intValue m (op₁.argSym args 1)) 2) =
          max 0 (min (intValue m (op₂.argSym args 2)) 2) then
        keepDerivs (tab (op₁.argSym args 0)) (operandDual tab m (op₁.argSym args 2) 0)
      else operandDual tab m (op₁.argSym args 0)
        (max 0 (min (intValue m (op₂.argSym args 2)) 2)).toNat) := by
  -- `compassign` leaves the index of `compref` alone
  have hJ₁ : intValue (llvmGenCompassign tab rangeChecking op₁ args m) (op₂.argSym args 2) =
      intValue m (op₂.argSym args 2) := by
    simp only [intValue, llvmGenCompassign_eq rangeChecking op₁ args m hI, forRange_storeChannels]
    rw [if_neg fun h => hJR h.1]
  have h := llvmGenCompref_holds_clamp rangeChecking op₂ args _ (hR ▸ hvec) (by rwa [hJ₁])
  rwa [hJ₁, hR, operandDual_compassign rangeChecking op₁ args m hvec hI] at h

/-- A colour `C` with derivatives, an int `i` that is not a constant, a float `f` with
derivatives and a float `r` with derivatives. -/
def compTab : Nat → Symbol
  | 0 => { name := "C", typespec := { simpletype := TypeDesc.TypeColor }, symtype := .local,
           hasDerivs := true }
  | 1 => { name := "i", typespec := { simpletype := TypeDesc.TypeInt }, symtype := .local }
  | 2 => { name := "f", typespec := { simpletype := TypeDesc.TypeFloat }, symtype := .local,
           hasDerivs := true }
  | _ => { name := "r", typespec := { simpletype := TypeDesc.TypeFloat }, symtype := .local,
           hasDerivs := true }

/-- `C[i] = f` then `r = C[i]` with range checking, where `i` holds `5`: both clamp to the
last component, and `r` gets `f`. -/
theorem llvmGenCompref_compassign_clamped :
    let m : Store ℚ := fun s => if s.1 = 1 then 5 else s.2.1 + s.2.2
    let op₁ : Opcode := { opname := "compassign", nargs := 3 }
    let op₂ : Opcode := { opname := "compref", firstarg := 3, nargs := 3 }
    let args := [0, 1, 2, 3, 0, 1]
    op₂.argSym args 1 = op₁.argSym args 0 ∧ op₂.argSym args 2 ≠ op₁.argSym args 0 ∧
      (compTab (op₁.argSym args 0)).typespec.simpletype.aggregate ≠ .scalar ∧
      Holds compTab (llvmGenCompref compTab true op₂ args
          (llvmGenCompassign compTab true op₁ args m)) (op₂.argSym args 0) 0
        (if max 0 (min (intValue m (op₁.argSym args 1)) 2) =
            max 0 (min (intValue m (op₂.argSym args 2)) 2) then
          keepDerivs (compTab (op₁.argSym args 0)) (operandDual compTab m (op₁.argSym args 2) 0)
        else operandDual compTab m (op₁.argSym args 0)
          (max 0 (min (intValue m (op₂.argSym args 2)) 2)).toNat) :=
  ⟨rfl, by decide, by decide, llvmGenCompref_compassign true _ _ _ _ rfl (by decide) (by decide)
    (Or.inl rfl) (Or.inl rfl)⟩

end Triple

/-! ### Reading back an element of an array -/

/-- The components of element `e` of an array of `w`-component elements are the slots from
`e * w` on: component `c` of element `f` is one of them exactly when `f = e`. -/
theorem mul_add_mem_iff {e f w c : Nat} (hc : c < w) :
    (e * w ≤ f * w + c ∧ f * w + c < e * w + w) ↔ e = f := by
  constructor
  · rintro ⟨h1, h2⟩
    have h3 : e * w < (f + 1) * w := by rw [Nat.succ_mul]; omega
    have h4 : f * w < (e + 1) * w := by rw [Nat.succ_mul]; omega
    have := Nat.lt_of_mul_lt_mul_right h3
    have := Nat.lt_of_mul_lt_mul_right h4
    omega
  · rintro rfl
    omega

section Array

variable {α : Type} [LinearOrderedField α] [FloorRing α] {tab : Nat → Symbol}

/-- A defined `aassign` stores, into each channel `Result` has of the clamped element, that
channel of `Src`'s components, cast; nothing else changes. -/
theorem llvmGenAassign_apply (rangeChecking : Bool) (op : Opcode) (args : List Nat) (m : Store α)
    (hSR : op.argSym args 2 ≠ op.argSym args 0)
    (hI : rangeChecking = true ∨ (0 ≤ intValue m (op.argSym args 1) ∧
      intValue m (op.argSym args 1) < (tab (op.argSym args 0)).typespec.arraylength))
    (s : Slot) :
    let R := op.argSym args 0
    let base := (max 0 (min (intValue m (op.argSym args 1))
      ((tab R).typespec.arraylength - 1))).toNat * (tab R).ncomps
    llvmGenAassign tab rangeChecking op args m s =
      if s.1 = R ∧ s.2.1 < 3 ∧ ¬ noChannel tab R s.2.1 ∧
          (base ≤ s.2.2 ∧ s.2.2 < base + (tab R).ncomps) then
        aassignCast tab R (op.argSym args 2) (loadValue tab m (op.argSym args 2) s.2.1 (s.2.2 - base))
      else m s := by
  intro R base
  have he : llvmGenAassignIndex tab rangeCheck rangeChecking (intValue m) op args =
      max 0 (min (intValue m (op.argSym args 1)) ((tab R).typespec.arraylength - 1)) :=
    checkedIndex_rangeCheck hI
  -- a load of `Src` reads no slot of `R`
  have hload : ∀ (M M' : Store α) d c, (∀ s, s.1 ≠ R → M s = M' s) →
      loadValue tab M (op.argSym args 2) d c = loadValue tab M' (op.argSym args 2) d c :=
    fun M M' d c h => by
      have hS : ∀ d c, M (op.argSym args 2, d, c) = M' (op.argSym args 2, d, c) :=
        fun d c => h (_, d, c) hSR
      simp only [loadValue, hS]
  refine @derivChannels_apply α tab R (fun M d => forRange (tab R).ncomps (fun M c =>
      storeElement tab M R d
        (llvmGenAassignIndex tab rangeCheck rangeChecking (intValue m) op args).toNat c
        (aassignCast tab R (op.argSym args 2) (loadValue tab M (op.argSym args 2) d c))) M)
    (fun s => base ≤ s.2.2 ∧ s.2.2 < base + (tab R).ncomps) _
    (fun M s => aassignCast tab R (op.argSym args 2)
      (loadValue tab M (op.argSym args 2) s.2.1 (s.2.2 - base)))
    (fun d M s => ?_) (fun M M' s h => by simp only [hload M M' _ _ h]) m s
  simp only [storeElement, he]
  rw [forRange_storeValue_offset M (fun c M' h => by simp only [hload M' M _ _ h]) s]
  split_ifs with h
  · rw [h.2.1]
  · rfl

/-- A defined `aref` copies, into each channel `Result` has, that channel of the clamped element
of `Src`; nothing else changes. -/
theorem llvmGenAref_apply (rangeChecking : Bool) (op : Opcode) (args : List Nat) (m : Store α)
    (hSR : op.argSym args 1 ≠ op.argSym args 0)
    (hJ : rangeChecking = true ∨ (0 ≤ intValue m (op.argSym args 2) ∧
      intValue m (op.argSym args 2) < (tab (op.argSym args 1)).typespec.arraylength))
    (s : Slot) :
    let R := op.argSym args 0
    let Src := op.argSym args 1
    llvmGenAref tab rangeChecking op args m s =
      if s.1 = R ∧ s.2.1 < 3 ∧ ¬ noChannel tab R s.2.1 ∧ s.2.2 < (tab Src).ncomps then
        loadElement tab m Src s.2.1 (max 0 (min (intValue m (op.argSym args 2))
          ((tab Src).typespec.arraylength - 1))).toNat s.2.2
      else m s := by
  intro R Src
  have he : checkedIndex tab rangeCheck rangeChecking (intValue m) (op.argSym args 2)
      (tab Src).typespec.arraylength =
      max 0 (min (intValue m (op.argSym args 2)) ((tab Src).typespec.arraylength - 1)) :=
    checkedIndex_rangeCheck hJ
  -- a load of `Src` reads no slot of `R`
  have hload : ∀ (M M' : Store α) d e c, (∀ s, s.1 ≠ R → M s = M' s) →
      loadElement tab M Src d e c = loadElement tab M' Src d e c := fun M M' d e c h => by
    have hS : ∀ d c, M (Src, d, c) = M' (Src, d, c) := fun d c => h (_, d, c) hSR
    simp only [loadElement, hS]
  refine @derivChannels_apply α tab R (fun M d => forRange (tab Src).ncomps (fun M c =>
      storeValue tab M R d c (loadElement tab M Src d (checkedIndex tab rangeCheck rangeChecking
        (intValue m) (op.argSym args 2) (tab Src).typespec.arraylength).toNat c)) M)
    (fun s => s.2.2 < (tab Src).ncomps) _
    (fun M s => loadElement tab M Src s.2.1 (max 0 (min (intValue m (op.argSym args 2))
      ((tab Src).typespec.arraylength - 1))).toNat s.2.2)
    (fun d M s => ?_) (fun M M' s h => hload M M' _ _ _ h) m s
  simp only [he]
  rw [forRange_storeValue_other (fun c _ M M' h => hload M M' d _ c h)]
  by_cases h : s.1 = R ∧ s.2.1 = d ∧ ¬ noChannel tab R d ∧ s.2.2 < (tab Src).ncomps
  · rw [if_pos ⟨h.1, h.2.2.2, h.2.1, h.2.2.1⟩, if_pos h, h.2.1]
  · rw [if_neg fun h' => h ⟨h'.1, h'.2.2.1, h'.2.2.2, h'.2.1⟩, if_neg h]

/-- `aref` after `aassign` on the same array, both defined: component `c` of the result gets
`Src`'s component `c`, cast (with derivatives where the array has them), when the two indices
clamp to the same element, and the array's old component otherwise, for every value the indices
hold. -/
theorem llvmGenAref_aassign (rangeChecking : Bool) (op₁ op₂ : Opcode) (args : List Nat)
    (m : Store α) (hR : op₂.argSym args 1 = op₁.argSym args 0)
    (hSR : op₁.argSym args 2 ≠ op₁.argSym args 0) (hXR : op₂.argSym args 0 ≠ op₁.argSym args 0)
    (hJR : op₂.argSym args 2 ≠ op₁.argSym args 0)
    (hI : rangeChecking = true ∨ (0 ≤ intValue m (op₁.argSym args 1) ∧
      intValue m (op₁.argSym args 1) < (tab (op₁.argSym args 0)).typespec.arraylength))
    (hJ : rangeChecking = true ∨ (0 ≤ intValue m (op₂.argSym args 2) ∧
      intValue m (op₂.argSym args 2) < (tab (op₁.argSym args 0)).typespec.arraylength))
    {c : Nat} (hc : c < (tab (op₁.argSym args 0)).ncomps) :
    let R := op₁.argSym args 0
    let Src := op₁.argSym args 2
    let e := max 0 (min (intValue m (op₁.argSym args 1)) ((tab R).typespec.arraylength - 1))
    let f := max 0 (min (intValue m (op₂.argSym args 2)) ((tab R).typespec.arraylength - 1))
    let a := operandDual tab m Src c
    Holds tab (llvmGenAref tab rangeChecking op₂ args
        (llvmGenAassign tab rangeChecking op₁ args m)) (op₂.argSym args 0) c
      (if e = f then keepDerivs (tab R) ⟨aassignCast tab R Src a.val,
          aassignCast tab R Src a.dx, aassignCast tab R Src a.dy⟩
        else elementDual tab m R f.toNat c) := by
  dsimp only
  have hm₁ := llvmGenAassign_apply rangeChecking op₁ args m hSR hI
  dsimp only at hm₁
  -- `aassign` leaves the index of `aref` alone
  have hJ₁ : intValue (llvmGenAassign tab rangeChecking op₁ args m) (op₂.argSym args 2) =
      intValue m (op₂.argSym args 2) := by
    simp only [intValue]
    rw [hm₁, if_neg fun h => hJR h.1]
  have hm₂ := llvmGenAref_apply rangeChecking op₂ args (llvmGenAassign tab rangeChecking op₁ args m)
    (by rw [hR]; exact hXR.symm) (by rw [hJ₁, hR]; exact hJ)
  dsimp only at hm₂
  simp only [hJ₁, hR] at hm₂
  -- the two clamped elements
  have he0 := le_max_left 0 (min (intValue m (op₁.argSym args 1))
    ((tab (op₁.argSym args 0)).typespec.arraylength - 1))
  have hf0 := le_max_left 0 (min (intValue m (op₂.argSym args 2))
    ((tab (op₁.argSym args 0)).typespec.arraylength - 1))
  generalize max 0 (min (intValue m (op₁.argSym args 1))
    ((tab (op₁.argSym args 0)).typespec.arraylength - 1)) = e at hm₁ he0 ⊢
  generalize max 0 (min (intValue m (op₂.argSym args 2))
    ((tab (op₁.argSym args 0)).typespec.arraylength - 1)) = f at hm₂ hf0 ⊢
  -- channel `d` of the result's component `c`
  have hread : ∀ d, d < 3 → ¬ noChannel tab (op₂.argSym args 0) d →
      llvmGenAref tab rangeChecking op₂ args (llvmGenAassign tab rangeChecking op₁ args m)
        (op₂.argSym args 0, d, c) =
      if noChannel tab (op₁.argSym args 0) d then 0
      else if e = f then aassignCast tab (op₁.argSym args 0) (op₁.argSym args 2)
        (loadValue tab m (op₁.argSym args 2) d c)
      else m (op₁.argSym args 0, d, f.toNat * (tab (op₁.argSym args 0)).ncomps + c) := by
    intro d hd hn
    rw [hm₂, if_pos ⟨rfl, hd, hn, hc⟩]
    unfold loadElement
    split_ifs with hnc hef
    · rfl
    · rw [hm₁, if_pos ⟨rfl, hd, hnc, (mul_add_mem_iff hc).mpr (by rw [hef])⟩, hef]
      simp only [Nat.add_sub_cancel_left]
    · have hne : e.toNat ≠ f.toNat := fun h => hef (by omega)
      rw [hm₁, if_neg fun h => hne ((mul_add_mem_iff hc).mp h.2.2.2)]
  clear hm₁ hm₂
  have hnc0 : ¬ noChannel tab (op₂.argSym args 0) 0 := fun h => lt_irrefl 0 h.1
  refine ⟨?_, fun hX => ?_⟩
  · rw [hread 0 (by norm_num) hnc0, if_neg fun h => lt_irrefl 0 h.1]
    split_ifs
    · simp only [keepDerivs_val, loadValue_eq_chan m _ _ (by norm_num : (0 : Nat) < 3), Dual.chan_zero]
    · simp only [elementDual_val]
  · have hn : ∀ d, ¬ noChannel tab (op₂.argSym args 0) d := fun _ h => by simp [h.2] at hX
    rw [hread 1 (by norm_num) (hn 1), hread 2 (by norm_num) (hn 2)]
    by_cases hd : (tab (op₁.argSym args 0)).hasDerivs
    · -- the array has derivatives: they are the cast ones of `Src`, or the old ones
      have hnc : ∀ d, ¬ noChannel tab (op₁.argSym args 0) d := fun _ h => by simp [h.2] at hd
      simp only [hnc, if_false]
      split_ifs
      · simp only [keepDerivs_of_hasDerivs hd, loadValue_eq_chan m _ _ (by norm_num : (1 : Nat) < 3),
          loadValue_eq_chan m _ _ (by norm_num : (2 : Nat) < 3), Dual.chan_one, Dual.chan_two,
          and_self]
      · simp only [elementDual, hd, if_true, and_self]
    · -- it has none: the result reads zero derivatives
      have hnc : ∀ d, 0 < d → noChannel tab (op₁.argSym args 0) d :=
        fun d hd' => ⟨hd', by simpa using hd⟩
      rw [if_pos (hnc 1 one_pos), if_pos (hnc 2 two_pos)]
      split_ifs <;> simp [keepDerivs, elementDual, hd, Dual.const]

/-- An array `A` of three colours with derivatives, an int `i` that is not a constant, and
colours `s` and `r` with derivatives. -/
def arrayTab : Nat → Symbol
  | 0 => { name := "A", typespec := { simpletype := { TypeDesc.TypeColor with arraylen := 3 } },
           symtype := .local, hasDerivs := true }
  | 1 => { name := "i", typespec := { simpletype := TypeDesc.TypeInt }, symtype := .local }
  | 2 => { name := "s", typespec := { simpletype := TypeDesc.TypeColor }, symtype := .local,
           hasDerivs := true }
  | _ => { name := "r", typespec := { simpletype := TypeDesc.TypeColor }, symtype := .local,
           hasDerivs := true }

/-- `A[i] = s` then `r = A[i]` with range checking, where `i` holds `7`: both clamp to the last
element, and the second component of `r` gets that of `s`. -/
theorem llvmGenAref_aassign_clamped :
    let m : Store ℚ := fun s => if s.1 = 1 then 7 else s.2.1 + s.2.2
    let op₁ : Opcode := { opname := "aassign", nargs := 3 }
    let op₂ : Opcode := { opname := "aref", firstarg := 3, nargs := 3 }
    let args := [0, 1, 2, 3, 0, 1]
    let R := op₁.argSym args 0
    let Src := op₁.argSym args 2
    let e := max 0 (min (intValue m (op₁.argSym args 1)) ((arrayTab R).typespec.arraylength - 1))
    let f := max 0 (min (intValue m (op₂.argSym args 2)) ((arrayTab R).typespec.arraylength - 1))
    let a := operandDual arrayTab m Src 1
    op₂.argSym args 1 = op₁.argSym args 0 ∧ op₁.argSym args 2 ≠ op₁.argSym args 0 ∧
      op₂.argSym args 0 ≠ op₁.argSym args 0 ∧ op₂.argSym args 2 ≠ op₁.argSym args 0 ∧
      1 < (arrayTab (op₁.argSym args 0)).ncomps ∧
      Holds arrayTab (llvmGenAref arrayTab true op₂ args
          (llvmGenAassign arrayTab true op₁ args m)) (op₂.argSym args 0) 1
        (if e = f then keepDerivs (arrayTab R) ⟨aassignCast arrayTab R Src a.val,
            aassignCast arrayTab R Src a.dx, aassignCast arrayTab R Src a.dy⟩
          else elementDual arrayTab m R f.toNat 1) :=
  ⟨rfl, by decide, by decide, by decide, by decide,
    llvmGenAref_aassign true _ _ _ _ rfl (by decide) (by decide) (by decide) (Or.inl rfl)
      (Or.inl rfl) (by decide)⟩

end Array

/-! ### Reading back an entry of a matrix -/

section Matrix

variable {α : Type} [LinearOrderedField α] [FloorRing α] {tab : Nat → Symbol}

/-- A defined `mxcompassign` stores `Val`'s value into the entry `4 * row + col` of the clamped
row and column, and changes nothing else. -/
theorem llvmGenMxcompassign_eq (rangeChecking : Bool) (op : Opcode) (args : List Nat)
    (m : Store α)
    (hI : rangeChecking = true ∨
      ((tab (op.argSym args 1)).isConstant = true ∧ (tab (op.argSym args 2)).isConstant = true) ∨
      (0 ≤ intValue m (op.argSym args 1) ∧ intValue m (op.argSym args 1) < 4 ∧
        0 ≤ intValue m (op.argSym args 2) ∧ intValue m (op.argSym args 2) < 4)) :
    llvmGenMxcompassign tab rangeChecking op args m =
      storeValue tab m (op.argSym args 0) 0
        (4 * max 0 (min (intValue m (op.argSym args 1)) 3) +
          max 0 (min (intValue m (op.argSym args 2)) 3)).toNat
        (loadValue tab m (op.argSym args 3) 0 0) := by
  simp only [llvmGenMxcompassign, storeComponent, llvmGenMxcompassignIndex,
    matrixIndex_rangeCheck hI]
  split
  · rfl
  · rw [mul_comm]

/-- A defined `mxcompref` reads the value of the entry of the clamped row and column of the
matrix `M`, with zero derivatives. -/
theorem llvmGenMxcompref_holds_clamp (rangeChecking : Bool) (op : Opcode) (args : List Nat)
    (m : Store α) (hM : (tab (op.argSym args 1)).typespec.simpletype.aggregate ≠ .scalar)
    (hJ : rangeChecking = true ∨
      ((tab (op.argSym args 2)).isConstant = true ∧ (tab (op.argSym args 3)).isConstant = true) ∨
      (0 ≤ intValue m (op.argSym args 2) ∧ intValue m (op.argSym args 2) < 4 ∧
        0 ≤ intValue m (op.argSym args 3) ∧ intValue m (op.argSym args 3) < 4)) :
    Holds tab (llvmGenMxcompref tab rangeChecking op args m) (op.argSym args 0) 0
      (Dual.const (loadValue tab m (op.argSym args 1) 0
        (4 * max 0 (min (intValue m (op.argSym args 2)) 3) +
          max 0 (min (intValue m (op.argSym args 3)) 3)).toNat)) := by
  simp only [llvmGenMxcompref, llvmGenMxcomprefIndex, matrixIndex_rangeCheck hJ]
  -- the constant and the computed entry are the same load
  have hval : ∀ a b : ℤ, loadComponent tab m (op.argSym args 1) 0 (a * 4 + b) =
      loadValue tab m (op.argSym args 1) 0 (4 * a + b).toNat := fun a b => by
    simp only [loadComponent, loadValue, compIdx, hM, if_false, mul_comm]
  rw [hval, ite_self]
  refine ⟨?_, fun hR => ?_⟩
  · simp [zeroDerivs_apply, storeValue_apply, noChannel, -Prod.mk_zero_zero, Dual.const]
  · have h0 : 0 < (tab (op.argSym args 0)).typespec.simpletype.basevalues :=
      lt_basevalues (Aggregate.toNat_pos _)
    simp [zeroDerivs_apply, hR, h0, Dual.const]

/-- `mxcompref` after `mxcompassign` on the same matrix, both defined: the result gets `Val`'s
value when the two clamped rows and columns name the same entry, and the matrix's old entry
otherwise, for every value the row and column operands hold; its derivatives are zero. -/
theorem llvmGenMxcompref_mxcompassign (rangeChecking : Bool) (op₁ op₂ : Opcode)
    (args : List Nat) (m : Store α) (hM : op₂.argSym args 1 = op₁.argSym args 0)
    (hRow : op₂.argSym args 2 ≠ op₁.argSym args 0) (hCol : op₂.argSym args 3 ≠ op₁.argSym args 0)
    (hmat : (tab (op₁.argSym args 0)).typespec.simpletype.aggregate ≠ .scalar)
    (hI : rangeChecking = true ∨
      ((tab (op₁.argSym args 1)).isConstant = true ∧ (tab (op₁.argSym args 2)).isConstant = true) ∨
      (0 ≤ intValue m (op₁.argSym args 1) ∧ intValue m (op₁.argSym args 1) < 4 ∧
        0 ≤ intValue m (op₁.argSym args 2) ∧ intValue m (op₁.argSym args 2) < 4))
    (hJ : rangeChecking = true ∨
      ((tab (op₂.argSym args 2)).isConstant = true ∧ (tab (op₂.argSym args 3)).isConstant = true) ∨
      (0 ≤ intValue m (op₂.argSym args 2) ∧ intValue m (op₂.argSym args 2) < 4 ∧
        0 ≤ intValue m (op₂.argSym args 3) ∧ intValue m (op₂.argSym args 3) < 4)) :
    let rowI := max 0 (min (intValue m (op₁.argSym args 1)) 3)
    let colI := max 0 (min (intValue m (op₁.argSym args 2)) 3)
    let rowJ := max 0 (min (intValue m (op₂.argSym args 2)) 3)
    let colJ := max 0 (min (intValue m (op₂.argSym args 3)) 3)
    Holds tab (llvmGenMxcompref tab rangeChecking op₂ args
        (llvmGenMxcompassign tab rangeChecking op₁ args m)) (op₂.argSym args 0) 0
      (Dual.const (if (rowI, colI) = (rowJ, colJ) then loadValue tab m (op₁.argSym args 3) 0 0
        else loadValue tab m (op₁.argSym args 0) 0 (4 * rowJ + colJ).toNat)) := by
  dsimp only
  have hm₁ := llvmGenMxcompassign_eq rangeChecking op₁ args m hI
  -- `mxcompassign` leaves the row and column of `mxcompref` alone
  have hv : ∀ x, x ≠ op₁.argSym args 0 →
      intValue (llvmGenMxcompassign tab rangeChecking op₁ args m) x = intValue m x :=
    fun x hx => by simp only [intValue, hm₁, storeValue_apply_of_ne (s := (x, 0, 0)) hx]
  have h := llvmGenMxcompref_holds_clamp rangeChecking op₂ args _ (hM ▸ hmat)
    (by rwa [hv _ hRow, hv _ hCol])
  rw [hv _ hRow, hv _ hCol, hM, hm₁] at h
  convert h using 2
  -- the two entries agree exactly when the clamped rows and columns do
  have hb : ∀ x : ℤ, 0 ≤ max 0 (min x 3) ∧ max 0 (min x 3) ≤ 3 := fun x => by omega
  have := hb (intValue m (op₁.argSym args 1))
  have := hb (intValue m (op₁.argSym args 2))
  have := hb (intValue m (op₂.argSym args 2))
  have := hb (intValue m (op₂.argSym args 3))
  simp only [loadValue, compIdx, hmat, if_false, ite_self, storeValue_apply, Prod.mk.injEq,
    true_and, noChannel, lt_irrefl, false_and, not_false_eq_true, and_true]
  split_ifs <;> first | rfl | omega

/-- A matrix `M`, ints `r` and `c` that are not constants, and floats `v` and `x`. -/
def matrixTab : Nat → Symbol
  | 0 => { name := "M", typespec := { simpletype := TypeDesc.TypeMatrix }, symtype := .local }
  | 1 => { name := "r", typespec := { simpletype := TypeDesc.TypeInt }, symtype := .local }
  | 2 => { name := "c", typespec := { simpletype := TypeDesc.TypeInt }, symtype := .local }
  | _ => { name := "v", typespec := { simpletype := TypeDesc.TypeFloat }, symtype := .local }

/-- `M[r][c] = v` then `x = M[c][r]` with range checking, where `r` holds `9` and `c` holds
`3`: both clamp to the last row and column. -/
theorem llvmGenMxcompref_mxcompassign_clamped :
    let m : Store ℚ := fun s => if s.1 = 1 then 9 else if s.1 = 2 then 3 else s.2.1 + s.2.2
    let op₁ : Opcode := { opname := "mxcompassign", nargs := 4 }
    let op₂ : Opcode := { opname := "mxcompref", firstarg := 4, nargs := 4 }
    let args := [0, 1, 2, 3, 4, 0, 2, 1]
    let rowI := max 0 (min (intValue m (op₁.argSym args 1)) 3)
    let colI := max 0 (min (intValue m (op₁.argSym args 2)) 3)
    let rowJ := max 0 (min (intValue m (op₂.argSym args 2)) 3)
    let colJ := max 0 (min (intValue m (op₂.argSym args 3)) 3)
    op₂.argSym args 1 = op₁.argSym args 0 ∧ op₂.argSym args 2 ≠ op₁.argSym args 0 ∧
      op₂.argSym args 3 ≠ op₁.argSym args 0 ∧
      (matrixTab (op₁.argSym args 0)).typespec.simpletype.aggregate ≠ .scalar ∧
      Holds matrixTab (llvmGenMxcompref matrixTab true op₂ args
          (llvmGenMxcompassign matrixTab true op₁ args m)) (op₂.argSym args 0) 0
        (Dual.const (if (rowI, colI) = (rowJ, colJ) then loadValue matrixTab m (op₁.argSym args 3) 0 0
          else loadValue matrixTab m (op₁.argSym args 0) 0 (4 * rowJ + colJ).toNat)) :=
  ⟨rfl, by decide, by decide, by decide,
    llvmGenMxcompref_mxcompassign true _ _ _ _ rfl (by decide) (by decide) (by decide)
      (Or.inl rfl) (Or.inl rfl)⟩

end Matrix

end OslExec
