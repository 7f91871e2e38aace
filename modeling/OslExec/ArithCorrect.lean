import OslExec.Arith

/-!
# The arithmetic generators compute dual numbers

`Dual` is a value with its two screen-space derivatives; its operations are the dual-number
extensions of the real ones (sum, product and quotient rules). `operandDual` reads an operand
the way the spec says an op sees it: a scalar is the same at every component, and an operand
without derivatives has zero ones. `Holds` says what a result holds at a component: the value,
and the derivatives if the result has them.

The generators store component by component, and an op's result may be one of its operands
(`add x x y`); the emitted code reads each component before it overwrites it. `forRange_writes`
says once what such a loop computes: every slot it writes gets the value computed from the
store before the loop.

## Key results

- `forRange_writes`: a loop whose iterations read nothing an earlier iteration wrote writes
  what the first store gives
- `forRange_components`: a loop over the components whose iterations load before they store
- `llvmGenAdd_holds`, `llvmGenMul_holds`, `llvmGenDiv_holds`, `llvmGenClamp_holds`, ...: each
  generator's result is the dual-number operation on its operands, component by component
-/

namespace OslExec

/-! ### Dual numbers -/

/-- A value and its derivatives along the two screen directions. -/
@[ext] structure Dual (α : Type) where
  val : α
  dx : α
  dy : α
  deriving DecidableEq, Repr

namespace Dual

variable {α : Type} [LinearOrderedField α]

/-- A value that does not vary. -/
def const (v : α) : Dual α := ⟨v, 0, 0⟩

instance : Add (Dual α) := ⟨fun a b => ⟨a.val + b.val, a.dx + b.dx, a.dy + b.dy⟩⟩
instance : Sub (Dual α) := ⟨fun a b => ⟨a.val - b.val, a.dx - b.dx, a.dy - b.dy⟩⟩
instance : Neg (Dual α) := ⟨fun a => ⟨-a.val, -a.dx, -a.dy⟩⟩

/-- The product rule. -/
instance : Mul (Dual α) :=
  ⟨fun a b => ⟨a.val * b.val, a.val * b.dx + a.dx * b.val, a.val * b.dy + a.dy * b.val⟩⟩

/-- The quotient rule. -/
instance : Div (Dual α) :=
  ⟨fun a b => ⟨a.val / b.val, (a.dx * b.val - a.val * b.dx) / b.val ^ 2,
    (a.dy * b.val - a.val * b.dy) / b.val ^ 2⟩⟩

instance : One (Dual α) := ⟨const 1⟩

/-- `mix(a, b, x) = a * (1 - x) + b * x`, extended to dual numbers. -/
def mix (a b x : Dual α) : Dual α := a * (1 - x) + b * x

/-- `clamp(x, lo, hi)`: `lo` where `x < lo`, then `hi` where the result so far exceeds it; the
derivatives are those of the value chosen. -/
def clamp (x lo hi : Dual α) : Dual α :=
  let v := if x.val < lo.val then lo else x
  if hi.val < v.val then hi else v

/-- `min(a, b)`: `a` where `a ≤ b`, so that a tie takes the first operand's derivatives. -/
def min (a b : Dual α) : Dual α := if a.val ≤ b.val then a else b

/-- `max(a, b)`: `a` where `a > b`, so that a tie takes the second operand's derivatives. -/
def max (a b : Dual α) : Dual α := if b.val < a.val then a else b

/-- Channel `d` of a dual number: `0` the value, `1` and `2` the derivatives. -/
def chan (v : Dual α) : Nat → α
  | 0 => v.val
  | 1 => v.dx
  | _ => v.dy

@[simp] theorem add_val (a b : Dual α) : (a + b).val = a.val + b.val := rfl
@[simp] theorem add_dx (a b : Dual α) : (a + b).dx = a.dx + b.dx := rfl
@[simp] theorem add_dy (a b : Dual α) : (a + b).dy = a.dy + b.dy := rfl
@[simp] theorem sub_val (a b : Dual α) : (a - b).val = a.val - b.val := rfl
@[simp] theorem sub_dx (a b : Dual α) : (a - b).dx = a.dx - b.dx := rfl
@[simp] theorem sub_dy (a b : Dual α) : (a - b).dy = a.dy - b.dy := rfl
@[simp] theorem neg_val (a : Dual α) : (-a).val = -a.val := rfl
@[simp] theorem neg_dx (a : Dual α) : (-a).dx = -a.dx := rfl
@[simp] theorem neg_dy (a : Dual α) : (-a).dy = -a.dy := rfl
@[simp] theorem mul_val (a b : Dual α) : (a * b).val = a.val * b.val := rfl
@[simp] theorem mul_dx (a b : Dual α) : (a * b).dx = a.val * b.dx + a.dx * b.val := rfl
@[simp] theorem mul_dy (a b : Dual α) : (a * b).dy = a.val * b.dy + a.dy * b.val := rfl
@[simp] theorem div_val (a b : Dual α) : (a / b).val = a.val / b.val := rfl
@[simp] theorem div_dx (a b : Dual α) : (a / b).dx = (a.dx * b.val - a.val * b.dx) / b.val ^ 2 :=
  rfl
@[simp] theorem div_dy (a b : Dual α) : (a / b).dy = (a.dy * b.val - a.val * b.dy) / b.val ^ 2 :=
  rfl
@[simp] theorem one_val : (1 : Dual α).val = 1 := rfl
@[simp] theorem one_dx : (1 : Dual α).dx = 0 := rfl
@[simp] theorem one_dy : (1 : Dual α).dy = 0 := rfl
@[simp] theorem const_val (v : α) : (const v).val = v := rfl
@[simp] theorem const_dx (v : α) : (const v).dx = 0 := rfl
@[simp] theorem const_dy (v : α) : (const v).dy = 0 := rfl
omit [LinearOrderedField α] in
@[simp] theorem chan_zero (v : Dual α) : v.chan 0 = v.val := rfl
omit [LinearOrderedField α] in
@[simp] theorem chan_one (v : Dual α) : v.chan 1 = v.dx := rfl
omit [LinearOrderedField α] in
@[simp] theorem chan_two (v : Dual α) : v.chan 2 = v.dy := rfl

/-- The value and derivatives of `mix`, in the order the generated code computes them. -/
@[simp] theorem mix_val (a b x : Dual α) : (mix a b x).val = a.val * (1 - x.val) + b.val * x.val :=
  rfl
@[simp] theorem mix_dx (a b x : Dual α) :
    (mix a b x).dx = a.dx * (1 - x.val) - a.val * x.dx + b.val * x.dx + b.dx * x.val := by
  simp only [mix, add_dx, mul_dx, sub_dx, sub_val, one_dx, one_val]; ring
@[simp] theorem mix_dy (a b x : Dual α) :
    (mix a b x).dy = a.dy * (1 - x.val) - a.val * x.dy + b.val * x.dy + b.dy * x.val := by
  simp only [mix, add_dy, mul_dy, sub_dy, sub_val, one_dy, one_val]; ring

end Dual

/-! ### Reading operands, and what a result holds -/

section Reading

variable {α : Type} [LinearOrderedField α] (tab : Nat → Symbol)

/-- Operand `x` at component `i`, as the dual-number rules see it: a scalar is the same at
every component, and an operand without derivatives has zero derivatives. -/
def operandDual (m : Store α) (x i : Nat) : Dual α :=
  let c := compIdx tab x i
  if (tab x).hasDerivs then ⟨m (x, 0, c), m (x, 1, c), m (x, 2, c)⟩ else Dual.const (m (x, 0, c))

/-- What `x` holds at component `i` is `v`: its value, and its derivatives if it has them. -/
def Holds (m : Store α) (x i : Nat) (v : Dual α) : Prop :=
  m (x, 0, i) = v.val ∧ ((tab x).hasDerivs = true → m (x, 1, i) = v.dx ∧ m (x, 2, i) = v.dy)

/-- The component of `select`'s condition `X` that governs component `i` of the result: `X`'s
component `i`, or its first when `X` has fewer components. -/
def condComponent (X i : Nat) : Nat := if (tab X).ncomps ≤ i then 0 else i

/-- Component `c` of element `e` of the array `x`, with zero derivatives if `x` has none. -/
def elementDual (m : Store α) (x e c : Nat) : Dual α :=
  let k := e * (tab x).ncomps + c
  if (tab x).hasDerivs then ⟨m (x, 0, k), m (x, 1, k), m (x, 2, k)⟩ else Dual.const (m (x, 0, k))

variable {tab}

/-- A load reads the operand's dual number, channel by channel. -/
theorem loadValue_eq_chan (m : Store α) (x i : Nat) {d : Nat} (hd : d < 3) :
    loadValue tab m x d i = (operandDual tab m x i).chan d := by
  unfold loadValue noChannel operandDual
  match d, hd with
  | 0, _ => by_cases h : (tab x).hasDerivs <;> simp [h]
  | 1, _ => by_cases h : (tab x).hasDerivs <;> simp [h]
  | 2, _ => by_cases h : (tab x).hasDerivs <;> simp [h]

/-- The operand's dual number is what the three loads of its component read. -/
theorem operandDual_eq_loads (m : Store α) (x i : Nat) :
    operandDual tab m x i = ⟨loadValue tab m x 0 i, loadValue tab m x 1 i, loadValue tab m x 2 i⟩ := by
  ext <;> simp [loadValue_eq_chan]

@[simp] theorem operandDual_dx_of_not {m : Store α} {x : Nat} (h : (tab x).hasDerivs = false)
    (i : Nat) : (operandDual tab m x i).dx = 0 := by
  simp [operandDual, h]

@[simp] theorem operandDual_dy_of_not {m : Store α} {x : Nat} (h : (tab x).hasDerivs = false)
    (i : Nat) : (operandDual tab m x i).dy = 0 := by
  simp [operandDual, h]

omit [LinearOrderedField α] in
theorem storeValue_apply (m : Store α) (x d i : Nat) (v : α) (s : Slot) :
    storeValue tab m x d i v s = if s = (x, d, i) ∧ ¬ noChannel tab x d then v else m s := by
  unfold storeValue
  by_cases h : noChannel tab x d
  · simp [h]
  · simp only [h, if_false, not_false_eq_true, and_true, Function.update_apply]

/-- A load of another channel does not see a store. -/
theorem loadValue_storeValue_of_ne {m : Store α} {x d i y d' j : Nat} {v : α} (h : d ≠ d') :
    loadValue tab (storeValue tab m x d i v) y d' j = loadValue tab m y d' j := by
  unfold loadValue
  split
  · rfl
  · rw [storeValue_apply]
    simp [h.symm]

end Reading

/-! ### Loops over components -/

section Loops

variable {α : Type} [LinearOrderedField α] {tab : Nat → Symbol}

omit [LinearOrderedField α] in
/-- A loop over the components `i < n` of `R` whose iteration `i` writes component `i` of the
channels `C` of `R` with the values `V m d i` computed from the store `m` it starts with, and
whose values do not depend on the components an earlier iteration wrote, writes every one of
those slots with its value computed from the store before the loop, and nothing else. -/
theorem forRange_writes {R n : Nat} {C : Nat → Prop} [DecidablePred C]
    {body : Store α → Nat → Store α} {V : Store α → Nat → Nat → α}
    (hbody : ∀ i < n, ∀ m s, body m i s =
      if s.1 = R ∧ s.2.2 = i ∧ C s.2.1 then V m s.2.1 i else m s)
    (hdep : ∀ i < n, ∀ m m', (∀ s, ¬ (s.1 = R ∧ s.2.2 < i ∧ C s.2.1) → m s = m' s) →
      ∀ d, C d → V m d i = V m' d i)
    (m : Store α) (s : Slot) :
    forRange n body m s = if s.1 = R ∧ s.2.2 < n ∧ C s.2.1 then V m s.2.1 s.2.2 else m s := by
  revert s
  refine forRange_induct (fun k (M : Store α) => ∀ s, M s =
    if s.1 = R ∧ s.2.2 < k ∧ C s.2.1 then V m s.2.1 s.2.2 else m s) (fun s => by simp)
    fun i hi M hM s => ?_
  rw [hbody i hi]
  by_cases hw : s.1 = R ∧ s.2.2 = i ∧ C s.2.1
  · rw [if_pos hw, if_pos ⟨hw.1, by omega, hw.2.2⟩, hw.2.1]
    refine hdep i hi M m (fun s' hs' => ?_) _ hw.2.2
    rw [hM, if_neg hs']
  · rw [if_neg hw, hM]
    by_cases hk : s.1 = R ∧ s.2.2 < i ∧ C s.2.1
    · rw [if_pos hk, if_pos ⟨hk.1, by omega, hk.2.2⟩]
    · rw [if_neg hk, if_neg]
      rintro ⟨h1, h2, h3⟩
      rcases Nat.lt_succ_iff_lt_or_eq.mp h2 with h | h
      · exact hk ⟨h1, h, h3⟩
      · exact hw ⟨h1, h, h3⟩

/-- A load of component `i` in a loop over the components of `R` reads what it read before
the loop, whatever earlier iterations wrote to the components before `i`. -/
theorem loadValue_agree {R n i : Nat} (hi : i < n) (hn : n ≤ (tab R).ncomps) {C : Nat → Prop}
    {m m' : Store α} (h : ∀ s, ¬ (s.1 = R ∧ s.2.2 < i ∧ C s.2.1) → m s = m' s) (x d : Nat) :
    loadValue tab m x d i = loadValue tab m' x d i := by
  unfold loadValue
  split
  · rfl
  · refine h _ fun ⟨hx, hlt, _⟩ => ?_
    dsimp only at hx hlt
    subst hx
    unfold compIdx at hlt
    split at hlt
    · next hs =>
      simp only [Symbol.ncomps, hs, Aggregate.toNat] at hn
      omega
    · omega

/-- One channel of a loop over the components of `R`: component `i` of channel `d` of `R`
gets `f m i`, a value computed from loads of component `i`. -/
theorem forRange_storeValue {R d n : Nat} (hn : n ≤ (tab R).ncomps) {f : Store α → Nat → α}
    (hf : ∀ i < n, ∀ m m', (∀ x d', loadValue tab m x d' i = loadValue tab m' x d' i) →
      f m i = f m' i)
    (m : Store α) (s : Slot) :
    forRange n (fun m i => storeValue tab m R d i (f m i)) m s =
      if s.1 = R ∧ s.2.2 < n ∧ (s.2.1 = d ∧ ¬ noChannel tab R d) then f m s.2.2 else m s := by
  refine forRange_writes (C := fun d' => d' = d ∧ ¬ noChannel tab R d) (V := fun m _ i => f m i)
    (fun i _ m s => ?_) (fun i hi m m' h d' _ => hf i hi m m'
      (loadValue_agree (C := fun d' => d' = d ∧ ¬ noChannel tab R d) hi hn h)) m s
  obtain ⟨x, d', c⟩ := s
  rw [storeValue_apply]
  simp only [Prod.mk.injEq]
  congr 1
  apply propext
  constructor
  · rintro ⟨⟨rfl, rfl, rfl⟩, h⟩; exact ⟨rfl, rfl, rfl, h⟩
  · rintro ⟨rfl, rfl, rfl, h⟩; exact ⟨⟨rfl, rfl, rfl⟩, h⟩

omit [LinearOrderedField α] in
/-- Stores into the channels `d < k` of component `i` of `R`, of values computed beforehand:
each slot gets its value, except the derivative channels of a symbol without them. -/
theorem forRange_storeChannels {R i k : Nat} (v : Nat → α) (m : Store α) (s : Slot) :
    forRange k (fun m d => storeValue tab m R d i (v d)) m s =
      if s.1 = R ∧ s.2.2 = i ∧ s.2.1 < k ∧ ¬ noChannel tab R s.2.1 then v s.2.1 else m s := by
  revert s
  refine forRange_induct (fun k (M : Store α) => ∀ s, M s =
    if s.1 = R ∧ s.2.2 = i ∧ s.2.1 < k ∧ ¬ noChannel tab R s.2.1 then v s.2.1 else m s)
    (fun s => by simp) fun d _ M hM s => ?_
  obtain ⟨x, d', c⟩ := s
  rw [storeValue_apply, hM]
  simp only [Prod.mk.injEq]
  rcases lt_trichotomy d' d with h | rfl | h
  · simp [h.ne, h, Nat.lt_succ_of_lt h]
  · simp [and_assoc]
  · simp [h.ne', h.not_lt, Nat.succ_le_of_lt h, Nat.not_lt.mpr (Nat.succ_le_of_lt h)]

/-- A loop over the components of `R` whose iteration `i` stores channels `d < k` of component
`i` with values computed from the loads of component `i`, all made before the stores. -/
theorem forRange_components {R n k : Nat} (hn : n ≤ (tab R).ncomps)
    {body : Store α → Nat → Store α} (V : (Nat → Nat → α) → Nat → Nat → α)
    (hbody : ∀ i < n, ∀ m, body m i =
      forRange k (fun m' d => storeValue tab m' R d i (V (fun x d => loadValue tab m x d i) i d)) m)
    (m : Store α) :
    forRange n body m = fun s => if s.1 = R ∧ s.2.2 < n ∧ s.2.1 < k ∧ ¬ noChannel tab R s.2.1
      then V (fun x d => loadValue tab m x d s.2.2) s.2.2 s.2.1 else m s :=
  funext <| forRange_writes (R := R) (C := fun d => d < k ∧ ¬ noChannel tab R d)
    (V := fun m d i => V (fun x d => loadValue tab m x d i) i d)
    (fun i hi m s => by rw [hbody i hi, forRange_storeChannels])
    (fun i hi m m' h _ _ => by
      simp only [loadValue_agree (C := fun d => d < k ∧ ¬ noChannel tab R d) hi hn h]) m

omit [LinearOrderedField α] in
/-- One channel of a loop over the components `i < n` of `R`, with values read from symbols
other than `R`. -/
theorem forRange_storeValue_other {R d n : Nat} {f : Store α → Nat → α}
    (hf : ∀ i < n, ∀ m m', (∀ s, s.1 ≠ R → m s = m' s) → f m i = f m' i)
    (m : Store α) (s : Slot) :
    forRange n (fun m i => storeValue tab m R d i (f m i)) m s =
      if s.1 = R ∧ s.2.2 < n ∧ (s.2.1 = d ∧ ¬ noChannel tab R d) then f m s.2.2 else m s := by
  refine forRange_writes (C := fun d' => d' = d ∧ ¬ noChannel tab R d) (V := fun m _ i => f m i)
    (fun i _ m s => ?_) (fun i hi m m' h _ _ => hf i hi m m' fun s hs => h s fun h' => hs h'.1) m s
  obtain ⟨x, d', c⟩ := s
  rw [storeValue_apply]
  simp only [Prod.mk.injEq]
  congr 1
  apply propext
  constructor
  · rintro ⟨⟨rfl, rfl, rfl⟩, h⟩; exact ⟨rfl, rfl, rfl, h⟩
  · rintro ⟨rfl, rfl, rfl, h⟩; exact ⟨⟨rfl, rfl, rfl⟩, h⟩

/-- A loop that stores into channel `d` leaves the loads of every other channel as they were. -/
theorem loadValue_forRange_storeValue_of_ne {R d d' n : Nat} {g : Store α → Nat → α}
    (h : d ≠ d') (M : Store α) (x j : Nat) :
    loadValue tab (forRange n (fun m i => storeValue tab m R d i (g m i)) M) x d' j =
      loadValue tab M x d' j :=
  forRange_induct (fun _ st => loadValue tab st x d' j = loadValue tab M x d' j) rfl
    fun _ _ _ hst => (loadValue_storeValue_of_ne h).trans hst

/-- A loop that stores into `R` leaves the loads of the elements of another symbol as they
were. -/
theorem loadElement_forRange_storeValue {R S d n : Nat} {g : Store α → Nat → α} (h : S ≠ R)
    (M : Store α) (d' e c : Nat) :
    loadElement tab (forRange n (fun m i => storeValue tab m R d i (g m i)) M) S d' e c =
      loadElement tab M S d' e c :=
  forRange_induct (fun _ st => loadElement tab st S d' e c = loadElement tab M S d' e c) rfl
    fun _ _ _ hst => by
      unfold loadElement at hst ⊢
      simpa [storeValue_apply, h] using hst

omit [LinearOrderedField α] in
/-- A loop that carries values from one iteration to the next computes the store of a loop
without them, when an invariant `I` of the carried values makes each iteration agree. -/
theorem forRange_fst_of_step {β : Type} {n : Nat} {body : Store α × β → Nat → Store α × β}
    {body' : Store α → Nat → Store α} {init : Store α × β} (I : Nat → β → Prop) (h0 : I 0 init.2)
    (hstep : ∀ i < n, ∀ st : Store α × β, I i st.2 → st.1 = forRange i body' init.1 →
      (body st i).1 = body' st.1 i ∧ I (i + 1) (body st i).2) :
    (forRange n body init).1 = forRange n body' init.1 :=
  (forRange_induct (fun k (st : Store α × β) => I k st.2 ∧ st.1 = forRange k body' init.1)
    ⟨h0, rfl⟩ fun i hi st ⟨hI, h1⟩ => by
      obtain ⟨h, hI'⟩ := hstep i hi st hI h1
      exact ⟨hI', by rw [h, forRange_succ, h1]⟩).2

/-- A load of `x` sees none of the stores into another symbol. -/
theorem loadValue_congr_of_ne {m m' : Store α} {R x : Nat} (h : ∀ s, s.1 ≠ R → m s = m' s)
    (hx : x ≠ R) (d i : Nat) : loadValue tab m x d i = loadValue tab m' x d i := by
  unfold loadValue
  split
  · rfl
  · exact h _ hx

end Loops

/-! ### Each generator computes its dual-number operation -/

section Generators

variable {α : Type} [LinearOrderedField α] [FloorRing α] {tab : Nat → Symbol}

omit [FloorRing α] in
theorem zeroDerivs_apply (m : Store α) (x : Nat) (s : Slot) :
    zeroDerivs tab m x s = if (tab x).hasDerivs ∧ s.1 = x ∧ 0 < s.2.1 ∧ s.2.1 < 3 ∧
      s.2.2 < (tab x).typespec.simpletype.basevalues then 0 else m s := rfl

/-- A component of one element is one of the symbol's base values. -/
theorem lt_basevalues {x i : Nat} (hi : i < (tab x).ncomps) :
    i < (tab x).typespec.simpletype.basevalues := by
  unfold TypeDesc.basevalues
  have := (tab x).typespec.simpletype.numelements_pos
  unfold Symbol.ncomps at hi
  calc i < (tab x).typespec.simpletype.aggregate.toNat := hi
    _ ≤ _ := Nat.le_mul_of_pos_left _ this

omit [FloorRing α] in
/-- The code's derivative of a quotient, `(1/b) (ax - (a/b) bx)`, is the quotient rule's. -/
theorem inv_mul_sub_div_mul {a b ax bx : α} (hb : b ≠ 0) :
    b⁻¹ * (ax - a / b * bx) = (ax * b - a * bx) / b ^ 2 := by
  rw [eq_div_iff (pow_ne_zero 2 hb), sq]
  calc b⁻¹ * (ax - a / b * bx) * (b * b) = (b⁻¹ * b) * (ax * b - (a / b * b) * bx) := by ring
    _ = ax * b - a * bx := by rw [inv_mul_cancel₀ hb, div_mul_cancel₀ a hb, one_mul]

omit [FloorRing α] in
/-- The body of `llvm_gen_add` and `llvm_gen_sub`: component `i` of the result is `f` of the
operands' dual numbers, channel by channel. -/
theorem linearBinary_holds {f : α → α → α} {fd : Dual α → Dual α → Dual α}
    (hfd : ∀ a b d, d < 3 → (fd a b).chan d = f (a.chan d) (b.chan d)) (hf0 : f 0 0 = 0)
    (op : Opcode) (args : List Nat) (m : Store α) {i : Nat}
    (hi : i < (tab (op.argSym args 0)).ncomps) :
    Holds tab (linearBinary tab f op args m) (op.argSym args 0) i
      (fd (operandDual tab m (op.argSym args 1) i) (operandDual tab m (op.argSym args 2) i)) := by
  unfold linearBinary
  dsimp only
  generalize op.argSym args 0 = R at hi ⊢
  generalize op.argSym args 1 = A
  generalize op.argSym args 2 = B
  have loop : ∀ (d : Nat) (M : Store α) (s : Slot), forRange (tab R).ncomps (fun m i =>
      storeValue tab m R d i (f (loadValue tab m A d i) (loadValue tab m B d i))) M s =
      if s.1 = R ∧ s.2.2 < (tab R).ncomps ∧ (s.2.1 = d ∧ ¬ noChannel tab R d) then
        f (loadValue tab M A d s.2.2) (loadValue tab M B d s.2.2) else M s :=
    fun d M s => forRange_storeValue le_rfl (fun i _ m m' h => by simp only [h]) M s
  have hval : ∀ d, d < 3 → f (loadValue tab m A d i) (loadValue tab m B d i) =
      (fd (operandDual tab m A i) (operandDual tab m B i)).chan d := fun d hd => by
    rw [hfd _ _ d hd, loadValue_eq_chan m A i hd, loadValue_eq_chan m B i hd]
  refine ⟨?_, fun hR => ?_⟩
  · split_ifs <;> simp [forRange_succ, loop, zeroDerivs_apply, hi, noChannel, hval 0 (by omega)]
  · have hA : ∀ d, 0 < d → ¬ noChannel tab R d := fun d _ h => by simp [noChannel, hR] at h
    simp only [hR, if_true]
    split_ifs with hAB
    · simp only [forRange_succ, forRange_zero, loop]
      simp [hi, hA, loadValue_forRange_storeValue_of_ne, hval 1 (by omega), hval 2 (by omega)]
    · have hz : ∀ d, 0 < d → d < 3 → (fd (operandDual tab m A i) (operandDual tab m B i)).chan d = 0 :=
        fun d hd hd3 => by
          simp only [Bool.or_eq_true, not_or, Bool.not_eq_true] at hAB
          rw [← hval d hd3]
          simp [loadValue, noChannel, hd, hAB, hf0]
      simp [zeroDerivs_apply, hR, lt_basevalues hi, ← Dual.chan_one, ← Dual.chan_two, hz]

omit [FloorRing α] in
theorem llvmGenAdd_holds (op : Opcode) (args : List Nat) (m : Store α) {i : Nat}
    (hi : i < (tab (op.argSym args 0)).ncomps) :
    Holds tab (llvmGenAdd tab op args m) (op.argSym args 0) i
      (operandDual tab m (op.argSym args 1) i + operandDual tab m (op.argSym args 2) i) :=
  linearBinary_holds (fun _ _ d _ => by rcases d with _ | _ | _ <;> rfl) (add_zero 0) op args m hi

omit [FloorRing α] in
theorem llvmGenSub_holds (op : Opcode) (args : List Nat) (m : Store α) {i : Nat}
    (hi : i < (tab (op.argSym args 0)).ncomps) :
    Holds tab (llvmGenSub tab op args m) (op.argSym args 0) i
      (operandDual tab m (op.argSym args 1) i - operandDual tab m (op.argSym args 2) i) :=
  linearBinary_holds (fun _ _ d _ => by rcases d with _ | _ | _ <;> rfl) (sub_zero 0) op args m hi

omit [FloorRing α] in
theorem llvmGenNeg_holds (op : Opcode) (args : List Nat) (m : Store α) {i : Nat}
    (hi : i < (tab (op.argSym args 0)).ncomps) :
    Holds tab (llvmGenNeg tab op args m) (op.argSym args 0) i
      (-operandDual tab m (op.argSym args 1) i) := by
  unfold llvmGenNeg
  dsimp only
  generalize op.argSym args 0 = R at hi ⊢
  generalize op.argSym args 1 = A
  have loop : ∀ (d : Nat) (M : Store α) (s : Slot), forRange (tab R).ncomps (fun m i =>
      storeValue tab m R d i (-loadValue tab m A d i)) M s =
      if s.1 = R ∧ s.2.2 < (tab R).ncomps ∧ (s.2.1 = d ∧ ¬ noChannel tab R d) then
        -loadValue tab M A d s.2.2 else M s :=
    fun d M s => forRange_storeValue le_rfl (fun i _ m m' h => by simp only [h]) M s
  rw [operandDual_eq_loads]
  refine ⟨?_, fun hR => ?_⟩
  · split_ifs <;> simp [loop, hi, noChannel]
  · simp [loop, hR, hi, noChannel, loadValue_forRange_storeValue_of_ne]

omit [FloorRing α] in
/-- `llvm_gen_mul` for a result that is not a matrix: the product rule. -/
theorem llvmGenMul_holds (lib : MatrixOps α) (op : Opcode) (args : List Nat) (m : Store α)
    {i : Nat} (hM : (tab (op.argSym args 0)).typespec.isMatrix = false)
    (hi : i < (tab (op.argSym args 0)).ncomps) :
    Holds tab (llvmGenMul tab lib op args m) (op.argSym args 0) i
      (operandDual tab m (op.argSym args 1) i * operandDual tab m (op.argSym args 2) i) := by
  unfold llvmGenMul
  simp only [hM, Bool.false_eq_true, if_false]
  generalize op.argSym args 0 = R at hi ⊢
  generalize op.argSym args 1 = A
  generalize op.argSym args 2 = B
  generalize hd : ((tab A).hasDerivs || (tab B).hasDerivs) = derivs
  rw [forRange_components (R := R) (k := if (tab R).hasDerivs && derivs then 3 else 1) le_rfl
    (fun L _ d => ((⟨L A 0, L A 1, L A 2⟩ : Dual α) * ⟨L B 0, L B 1, L B 2⟩).chan d) ?hb]
  case hb =>
    intro i _ m
    cases (tab R).hasDerivs && derivs <;> simp [forRange_succ, loadValue_storeValue_of_ne]
  simp only [← operandDual_eq_loads]
  refine ⟨?_, fun hR => ?_⟩
  · have hk : 0 < if (tab R).hasDerivs && derivs then 3 else 1 := by split <;> omega
    simp only [ite_apply, zeroDerivs_apply, lt_irrefl, false_and, and_false, if_false, ite_self]
    rw [if_pos ⟨trivial, hi, hk, fun h => lt_irrefl 0 h.1⟩]
    rfl
  · cases derivs
    · simp only [Bool.or_eq_false_iff] at hd
      simp [zeroDerivs_apply, hR, hi, lt_basevalues hi, hd]
    · simp [hR, hi, noChannel]

/-- `llvm_gen_div` for a result that is not a matrix, by a non-zero divisor component: the
quotient rule for a float result, C's truncating division for an int one. The code asserts that
a result whose derivatives it computes is float-based. -/
theorem llvmGenDiv_holds (lib : MatrixOps α) (op : Opcode) (args : List Nat) (m : Store α)
    {i : Nat} (hM : (tab (op.argSym args 0)).typespec.isMatrix = false)
    (hwf : ((tab (op.argSym args 0)).hasDerivs &&
      ((tab (op.argSym args 1)).hasDerivs || (tab (op.argSym args 2)).hasDerivs)) →
      (tab (op.argSym args 0)).typespec.isFloatBased)
    (hb : (operandDual tab m (op.argSym args 2) i).val ≠ 0)
    (hi : i < (tab (op.argSym args 0)).ncomps) :
    Holds tab (llvmGenDiv tab lib op args m) (op.argSym args 0) i
      (if (tab (op.argSym args 0)).typespec.isFloatBased then
        operandDual tab m (op.argSym args 1) i / operandDual tab m (op.argSym args 2) i
      else Dual.const (intDiv (operandDual tab m (op.argSym args 1) i).val
        (operandDual tab m (op.argSym args 2) i).val)) := by
  unfold llvmGenDiv
  simp only [hM, Bool.false_eq_true, if_false]
  generalize op.argSym args 0 = R at hi hwf ⊢
  generalize op.argSym args 1 = A at hwf ⊢
  generalize op.argSym args 2 = B at hb hwf ⊢
  generalize hd : ((tab A).hasDerivs || (tab B).hasDerivs) = derivs at hwf
  generalize ((tab B).isConstant && !isZero tab m B) = direct
  rw [forRange_components (R := R) (k := if (tab R).hasDerivs && derivs then 3 else 1) le_rfl
    (fun L _ d => (⟨if direct then opDiv (tab R).typespec.isFloatBased (L A 0) (L B 0) else safeDiv (tab R).typespec.isFloatBased (L A 0) (L B 0),
      (if direct then opDiv (tab R).typespec.isFloatBased 1 (L B 0) else safeDiv (tab R).typespec.isFloatBased 1 (L B 0)) *
        (L A 1 - (if direct then opDiv (tab R).typespec.isFloatBased (L A 0) (L B 0) else safeDiv (tab R).typespec.isFloatBased (L A 0) (L B 0)) * L B 1),
      (if direct then opDiv (tab R).typespec.isFloatBased 1 (L B 0) else safeDiv (tab R).typespec.isFloatBased 1 (L B 0)) *
        (L A 2 - (if direct then opDiv (tab R).typespec.isFloatBased (L A 0) (L B 0) else safeDiv (tab R).typespec.isFloatBased (L A 0) (L B 0)) * L B 2)⟩
      : Dual α).chan d) ?hb]
  case hb =>
    intro i _ m
    cases (tab R).hasDerivs && derivs <;> simp [forRange_succ]
  refine ⟨?_, fun hR => ?_⟩
  · -- the value channel: `llvm_zero_derivs` leaves it, and both quotients agree by a non-zero
    -- divisor
    have hk : 0 < if (tab R).hasDerivs && derivs then 3 else 1 := by split <;> omega
    simp only [ite_apply, zeroDerivs_apply, lt_irrefl, false_and, and_false, if_false, ite_self]
    rw [if_pos ⟨trivial, hi, hk, fun h => lt_irrefl 0 h.1⟩, Dual.chan_zero]
    cases direct <;> cases (tab R).typespec.isFloatBased <;>
      simp [safeDiv, opDiv, hb, loadValue_eq_chan]
  · cases derivs
    · simp only [Bool.or_eq_false_iff] at hd
      cases (tab R).typespec.isFloatBased <;>
        simp [zeroDerivs_apply, hR, hi, lt_basevalues hi, hd]
    · simp [hR, hwf (by simp [hR]), hi, noChannel, loadValue_eq_chan, safeDiv, opDiv, hb]
      exact ⟨inv_mul_sub_div_mul hb, inv_mul_sub_div_mul hb⟩

omit [FloorRing α] in
theorem llvmGenClamp_holds (op : Opcode) (args : List Nat) (m : Store α) {i : Nat}
    (hi : i < (tab (op.argSym args 0)).ncomps) :
    Holds tab (llvmGenClamp tab op args m) (op.argSym args 0) i
      (Dual.clamp (operandDual tab m (op.argSym args 1) i) (operandDual tab m (op.argSym args 2) i)
        (operandDual tab m (op.argSym args 3) i)) := by
  unfold llvmGenClamp
  generalize op.argSym args 0 = R at hi ⊢
  generalize op.argSym args 1 = X
  generalize op.argSym args 2 = Lo
  generalize op.argSym args 3 = Hi
  rw [forRange_components (R := R) (k := 3) le_rfl (fun L _ d => (Dual.clamp ⟨L X 0, L X 1, L X 2⟩
    ⟨L Lo 0, L Lo 1, L Lo 2⟩ ⟨L Hi 0, L Hi 1, L Hi 2⟩).chan d) ?hb]
  case hb =>
    intro i _ m
    simp only [forRange_succ, forRange_zero, Dual.clamp, decide_eq_true_eq, apply_ite Dual.val]
    split_ifs <;> rfl
  simp only [← operandDual_eq_loads]
  exact ⟨by simp [hi, noChannel], fun hR => by simp [hi, noChannel, hR]⟩

omit [FloorRing α] in
theorem llvmGenMinmax_holds (op : Opcode) (args : List Nat) (m : Store α) {i : Nat}
    (hi : i < (tab (op.argSym args 0)).ncomps) :
    Holds tab (llvmGenMinmax tab op args m) (op.argSym args 0) i
      (if op.opname = "min" then
        Dual.min (operandDual tab m (op.argSym args 1) i) (operandDual tab m (op.argSym args 2) i)
      else
        Dual.max (operandDual tab m (op.argSym args 1) i) (operandDual tab m (op.argSym args 2) i)) := by
  unfold llvmGenMinmax
  generalize op.argSym args 0 = R at hi ⊢
  generalize op.argSym args 1 = X
  generalize op.argSym args 2 = Y
  rw [forRange_components (R := R) (k := if (tab R).hasDerivs then 3 else 1) le_rfl
    (fun L _ d => (if op.opname = "min" then Dual.min ⟨L X 0, L X 1, L X 2⟩ ⟨L Y 0, L Y 1, L Y 2⟩
      else Dual.max ⟨L X 0, L X 1, L X 2⟩ ⟨L Y 0, L Y 1, L Y 2⟩).chan d) ?hb]
  case hb =>
    intro i _ m
    cases (tab R).hasDerivs <;>
      simp [forRange_succ, Dual.min, Dual.max, loadValue_storeValue_of_ne, apply_ite Dual.val] <;>
      split_ifs <;> rfl
  simp only [← operandDual_eq_loads]
  refine ⟨?_, fun hR => ?_⟩
  · have hk : 0 < if (tab R).hasDerivs then 3 else 1 := by split <;> omega
    exact if_pos ⟨rfl, hi, hk, fun h => lt_irrefl 0 h.1⟩
  · simp [hi, noChannel, hR]

/-- A scalar is read at its first component, whatever the component asked for. -/
theorem compIdx_of_ncomps_le_one {x : Nat} (h : (tab x).ncomps ≤ 1) (i : Nat) :
    compIdx tab x i = 0 := by
  unfold compIdx Symbol.ncomps at *
  cases hx : (tab x).typespec.simpletype.aggregate <;> simp_all [Aggregate.toNat]

omit [FloorRing α] in
/-- `llvm_gen_mix`: `a * (1 - x) + b * x` and its dual-number derivatives. The code carries `x`
from one component to the next when `X` is a scalar; the carried value is the one a load of the
component reads. -/
theorem llvmGenMix_holds (op : Opcode) (args : List Nat) (m : Store α) {i : Nat}
    (hi : i < (tab (op.argSym args 0)).ncomps) :
    Holds tab (llvmGenMix tab op args m) (op.argSym args 0) i
      (Dual.mix (operandDual tab m (op.argSym args 1) i) (operandDual tab m (op.argSym args 2) i)
        (operandDual tab m (op.argSym args 3) i)) := by
  unfold llvmGenMix
  dsimp only
  generalize op.argSym args 0 = R at hi ⊢
  generalize op.argSym args 1 = A
  generalize op.argSym args 2 = B
  generalize op.argSym args 3 = X
  generalize hd : ((tab R).hasDerivs && ((tab A).hasDerivs || (tab B).hasDerivs ||
    (tab X).hasDerivs)) = derivs
  let V : (Nat → Nat → α) → Nat → Nat → α := fun L _ d =>
    (Dual.mix ⟨L A 0, L A 1, L A 2⟩ ⟨L B 0, L B 1, L B 2⟩ ⟨L X 0, L X 1, L X 2⟩).chan d
  let k := if derivs then 3 else 1
  have hloop := forRange_components (R := R) (k := k) (n := (tab R).ncomps) le_rfl V
    (fun _ _ _ => rfl) m
  let body' : Store α → Nat → Store α := fun M i =>
    forRange k (fun M' d => storeValue tab M' R d i (V (fun x d => loadValue tab M x d i) i d)) M
  -- the `x` carried from the previous component is the one a load of this component reads
  rw [@forRange_fst_of_step α _ _ _ body' _ (fun i c => i = 0 ∨ (tab X).ncomps ≤ 1 →
      c = (loadValue tab m X 0 0, if derivs then loadValue tab m X 1 0 else 0,
        if derivs then loadValue tab m X 2 0 else 0)) (fun _ => rfl) ?step, hloop]
  case step =>
    intro j hj ⟨M, x, xx, xy⟩ hI hst
    dsimp only at hI hst ⊢
    -- a component that reuses the carried `x` reads what a load of it would
    have hload : ∀ d, ¬(0 < j ∧ 1 < (tab X).ncomps) →
        loadValue tab M X d j = loadValue tab m X d 0 := by
      intro d hc
      rw [hst]
      rcases Nat.eq_zero_or_pos j with rfl | hj0
      · rfl
      · have hX1 : (tab X).ncomps ≤ 1 := by omega
        have hXR : X ≠ R := by rintro rfl; omega
        have hother : ∀ s, s.1 ≠ R → forRange j body' m s = m s := fun s hs => by
          rw [congrFun (forRange_components (n := j) hj.le V (fun _ _ _ => rfl) m) s,
            if_neg fun h => hs h.1]
        rw [loadValue_congr_of_ne hother hXR]
        simp only [loadValue, compIdx_of_ncomps_le_one hX1]
    have hcarry : ∀ d c, (¬(0 < j ∧ 1 < (tab X).ncomps) → c = loadValue tab m X d 0) →
        (if 0 < j ∧ 1 < (tab X).ncomps then loadValue tab M X d j else c) =
          loadValue tab M X d j := by
      intro d c hc
      split_ifs with h
      · rfl
      · rw [hc h, hload d h]
    have hinit : ¬(0 < j ∧ 1 < (tab X).ncomps) → x = loadValue tab m X 0 0 ∧
        xx = (if derivs then loadValue tab m X 1 0 else 0) ∧
        xy = (if derivs then loadValue tab m X 2 0 else 0) :=
      fun h => by simpa only [Prod.mk.injEq] using hI (by omega)
    have hnext : j + 1 = 0 ∨ (tab X).ncomps ≤ 1 → ¬(0 < j ∧ 1 < (tab X).ncomps) := by omega
    rw [hcarry 0 x fun h => (hinit h).1]
    simp only [loadValue_storeValue_of_ne (by decide : (0 : Nat) ≠ 1),
      loadValue_storeValue_of_ne (by decide : (0 : Nat) ≠ 2),
      loadValue_storeValue_of_ne (by decide : (1 : Nat) ≠ 2)]
    cases derivs
    · simp only [Bool.false_eq_true, if_false] at hinit ⊢
      refine ⟨rfl, fun h => ?_⟩
      obtain ⟨-, rfl, rfl⟩ := hinit (hnext h)
      rw [hload 0 (hnext h)]
    · simp only [if_true] at hinit ⊢
      rw [hcarry 1 xx fun h => (hinit h).2.1, hcarry 2 xy fun h => (hinit h).2.2]
      refine ⟨by simp only [body', k, if_true, forRange_succ, forRange_zero, V, Dual.chan_zero,
        Dual.chan_one, Dual.chan_two, Dual.mix_val, Dual.mix_dx, Dual.mix_dy], fun h => ?_⟩
      rw [hload 0 (hnext h), hload 1 (hnext h), hload 2 (hnext h)]
  have hk : k ≠ 0 := by simp only [k]; split <;> decide
  refine ⟨?_, fun hR => ?_⟩
  · split_ifs <;> simp [zeroDerivs_apply, hi, noChannel, Nat.pos_of_ne_zero hk, V,
      ← operandDual_eq_loads]
  · cases derivs
    · simp only [hR, Bool.true_and, Bool.or_eq_false_iff] at hd
      simp [zeroDerivs_apply, hR, hi, lt_basevalues hi, hd]
    · simp [hR, hi, noChannel, k, V, ← operandDual_eq_loads]

omit [FloorRing α] in
/-- `llvm_gen_select`: component `i` is `b` where its condition is non-zero, and `a`
elsewhere, derivatives included. -/
theorem llvmGenSelect_holds (op : Opcode) (args : List Nat) (m : Store α) {i : Nat}
    (hi : i < (tab (op.argSym args 0)).ncomps) :
    Holds tab (llvmGenSelect tab op args m) (op.argSym args 0) i
      (if (operandDual tab m (op.argSym args 3) (condComponent tab (op.argSym args 3) i)).val ≠ 0
      then
        operandDual tab m (op.argSym args 2) i
      else operandDual tab m (op.argSym args 1) i) := by
  unfold llvmGenSelect
  dsimp only
  generalize op.argSym args 0 = R at hi ⊢
  generalize op.argSym args 1 = A
  generalize op.argSym args 2 = B
  generalize op.argSym args 3 = X
  generalize hd : ((tab A).hasDerivs || (tab B).hasDerivs) = derivs
  rw [forRange_components (R := R) (k := if (tab R).hasDerivs && derivs then 3 else 1) le_rfl
    (fun L i d => (if (operandDual tab m X (condComponent tab X i)).val ≠ 0 then
      (⟨L B 0, L B 1, L B 2⟩ : Dual α) else ⟨L A 0, L A 1, L A 2⟩).chan d) ?hb]
  case hb =>
    intro i _ m'
    have hc : (if (tab X).ncomps ≤ i then decide (loadValue tab m X 0 0 ≠ 0)
        else decide (loadValue tab m X 0 i ≠ 0)) =
        decide ((operandDual tab m X (condComponent tab X i)).val ≠ 0) := by
      unfold condComponent
      split_ifs <;> simp [loadValue_eq_chan]
    rw [hc]
    cases (tab R).hasDerivs && derivs <;>
      simp [forRange_succ, loadValue_storeValue_of_ne] <;> split_ifs <;> rfl
  simp only [← operandDual_eq_loads]
  refine ⟨?_, fun hR => ?_⟩
  · have hk : 0 < if (tab R).hasDerivs && derivs then 3 else 1 := by split <;> omega
    simp only [ite_apply, zeroDerivs_apply, lt_irrefl, false_and, and_false, if_false, ite_self]
    rw [if_pos ⟨trivial, hi, hk, fun h => lt_irrefl 0 h.1⟩]
    split_ifs <;> rfl
  · cases derivs
    · simp only [Bool.or_eq_false_iff] at hd
      simp [zeroDerivs_apply, hR, hi, lt_basevalues hi, hd, apply_ite Dual.dx, apply_ite Dual.dy]
    · simp [hR, hi, noChannel]

/-- `llvm_gen_compref` by an index in range: component `Index` of the triple `Val`. -/
theorem llvmGenCompref_holds (rangeChecking : Bool) (op : Opcode) (args : List Nat) (m : Store α)
    (hVal : (tab (op.argSym args 1)).typespec.simpletype.aggregate ≠ .scalar)
    (h0 : 0 ≤ intValue m (op.argSym args 2)) (h3 : intValue m (op.argSym args 2) < 3) :
    Holds tab (llvmGenCompref tab rangeChecking op args m) (op.argSym args 0) 0
      (operandDual tab m (op.argSym args 1) (intValue m (op.argSym args 2)).toNat) := by
  unfold llvmGenCompref
  dsimp only
  generalize op.argSym args 0 = R
  generalize op.argSym args 1 = V at hVal ⊢
  generalize hk : intValue m (op.argSym args 2) = k at h0 h3 ⊢
  -- in range, the constant index is not clamped and the range check passes it through
  have hread : ∀ (m' : Store α) d, (if (tab (op.argSym args 2)).isConstant then
      loadValue tab m' V d (max 0 (min k 2)).toNat else loadComponent tab m' V d
        (if (rangeChecking && !((tab (op.argSym args 2)).isConstant && decide (0 ≤ k) &&
          decide (k < 3))) = true then rangeCheck k 3 else k)) = loadValue tab m' V d k.toNat := by
    intro m' d
    have hc : max 0 (min k 2) = k := by omega
    have hr : rangeCheck k 3 = k := by unfold rangeCheck; omega
    split_ifs <;> simp [hc, hr, loadValue, loadComponent, compIdx, hVal]
  simp only [hread]
  rw [operandDual_eq_loads]
  refine ⟨?_, fun hR => ?_⟩
  · split_ifs <;> simp [storeValue_apply, noChannel, -Prod.mk_zero_zero]
  · simp [storeValue_apply, noChannel, hR, loadValue_storeValue_of_ne, -Prod.mk_zero_zero]

/-- `llvm_gen_aref` by an index in range: element `Index` of the array `Src`, into a result that
is not an array. -/
theorem llvmGenAref_holds (rangeChecking : Bool) (op : Opcode) (args : List Nat) (m : Store α)
    {c : Nat} (hSrc : (tab (op.argSym args 1)).typespec.isArray = true)
    (hR : (tab (op.argSym args 0)).typespec.isArray = false)
    (h0 : 0 ≤ intValue m (op.argSym args 2))
    (hlen : intValue m (op.argSym args 2) < (tab (op.argSym args 1)).typespec.arraylength)
    (hc : c < (tab (op.argSym args 1)).ncomps) :
    Holds tab (llvmGenAref tab rangeChecking op args m) (op.argSym args 0) c
      (elementDual tab m (op.argSym args 1) (intValue m (op.argSym args 2)).toNat c) := by
  have hSR : op.argSym args 1 ≠ op.argSym args 0 := fun h => by simp [h, hR] at hSrc
  unfold llvmGenAref
  dsimp only
  generalize op.argSym args 0 = R at hSR ⊢
  generalize op.argSym args 1 = S at hSR hlen hc ⊢
  generalize hk : intValue m (op.argSym args 2) = k at h0 hlen ⊢
  have he : (if (rangeChecking && !((tab (op.argSym args 2)).isConstant && decide (0 ≤ k) &&
      decide (k < (tab S).typespec.arraylength))) = true then rangeCheck k (tab S).typespec.arraylength
      else k) = k := by
    have : rangeCheck k (tab S).typespec.arraylength = k := by unfold rangeCheck; omega
    split_ifs <;> simp [this]
  rw [he]
  have loop : ∀ d (M : Store α) s, forRange (tab S).ncomps (fun m c =>
      storeValue tab m R d c (loadElement tab m S d k.toNat c)) M s =
      if s.1 = R ∧ s.2.2 < (tab S).ncomps ∧ (s.2.1 = d ∧ ¬ noChannel tab R d) then
        loadElement tab M S d k.toNat s.2.2 else M s :=
    fun d M s => forRange_storeValue_other (fun i _ m m' h => by
      have hS : ∀ d c, m (S, d, c) = m' (S, d, c) := fun d c => h (S, d, c) hSR
      simp only [loadElement, hS]) M s
  refine ⟨?_, fun hd => ?_⟩
  · split_ifs <;> simp only [loop, loadElement_forRange_storeValue hSR] <;>
      simp [hc, noChannel, loadElement, elementDual, apply_ite Dual.val]
  · simp only [hd, if_true, loop, loadElement_forRange_storeValue hSR]
    by_cases hS : (tab S).hasDerivs <;> simp [hc, hd, hS, noChannel, loadElement, elementDual]

omit [FloorRing α] in
/-- The first loop of the triple and colour constructors without a space name: component `c` of
the triple `R` is the float argument `c + 1`, derivatives included. -/
theorem constructComponents_holds (op : Opcode) (args : List Nat) (m : Store α) {c : Nat}
    (hc : c < 3) (hsp : op.nargs ≠ 5)
    (hR : (tab (op.argSym args 0)).typespec.simpletype.aggregate = .vec3)
    (hargs : ∀ j < 3, (tab (op.argSym args (j + 1))).typespec.simpletype.aggregate = .scalar) :
    Holds tab (constructComponents tab op args m) (op.argSym args 0) c
      (operandDual tab m (op.argSym args (c + 1)) 0) := by
  unfold constructComponents
  simp only [hsp, if_false, Nat.add_zero]
  have hne : ∀ j < 3, op.argSym args (j + 1) ≠ op.argSym args 0 := fun j hj h => by
    simpa [h, hR] using hargs j hj
  generalize op.argSym args 0 = R at hR hne ⊢
  -- after the channels `d < k`, the slots `(R, d, j)` hold the loads of the arguments
  have key : ∀ (K : Nat) (s : Slot), forRange K (fun m d => forRange 3 (fun m c =>
      storeValue tab m R d c (loadValue tab m (op.argSym args (c + 1)) d 0)) m) m s =
      if s.1 = R ∧ s.2.1 < K ∧ s.2.2 < 3 ∧ ¬ noChannel tab R s.2.1 then
        loadValue tab m (op.argSym args (s.2.2 + 1)) s.2.1 0 else m s := by
    intro K
    refine forRange_induct (fun k (M : Store α) => ∀ s, M s =
      if s.1 = R ∧ s.2.1 < k ∧ s.2.2 < 3 ∧ ¬ noChannel tab R s.2.1 then
        loadValue tab m (op.argSym args (s.2.2 + 1)) s.2.1 0 else m s) (fun s => by simp)
      fun d _ M hM s => ?_
    rw [forRange_storeValue_other (fun j hj M1 M2 h => loadValue_congr_of_ne h (hne j hj) d 0)]
    obtain ⟨x, d', j⟩ := s
    rw [hM]
    dsimp only
    by_cases hx : x = R
    · subst hx
      rcases lt_trichotomy d' d with h | rfl | h
      · simp [h, h.ne, Nat.lt_succ_of_lt h]
      · by_cases hj : j < 3
        · rw [loadValue_congr_of_ne (fun s hs => by rw [hM, if_neg fun h => hs h.1]) (hne j hj)]
          simp [hj]
        · simp [hj]
      · simp [h.ne', h.not_lt, Nat.not_lt.mpr (Nat.succ_le_of_lt h)]
    · simp [hx]
  refine ⟨?_, fun hd => ?_⟩
  · have hK : 0 < if (tab R).hasDerivs then 3 else 1 := by split <;> omega
    rw [key, if_pos ⟨rfl, hK, hc, fun h => lt_irrefl 0 h.1⟩]
    exact loadValue_eq_chan (d := 0) _ _ _ (by decide)
  · simp only [hd, if_true, key]
    simp [hc, hd, noChannel, loadValue_eq_chan]

omit [FloorRing α] in
theorem llvmGenConstructColor_of_no_space (convert : Store α → Store α) {op : Opcode}
    (hsp : op.nargs ≠ 5) (args : List Nat) (m : Store α) :
    llvmGenConstructColor tab convert op args m = constructComponents tab op args m := by
  simp [llvmGenConstructColor, hsp]

omit [FloorRing α] in
theorem llvmGenConstructTriple_of_no_space (names : Nat → String) (synonym : String)
    (transform : Store α → Store α) {op : Opcode} (hsp : op.nargs ≠ 5) (args : List Nat)
    (m : Store α) :
    llvmGenConstructTriple tab names synonym transform op args m =
      constructComponents tab op args m := by
  simp [llvmGenConstructTriple, hsp]

/-- A matrix has 16 base values. -/
theorem basevalues_of_isMatrix {t : TypeSpec} (h : t.isMatrix = true) :
    t.simpletype.basevalues = 16 := by
  simp only [TypeSpec.isMatrix, Bool.and_eq_true, beq_iff_eq] at h
  rw [h.2]
  rfl

omit [FloorRing α] in
/-- A matrix product gets zero derivatives. -/
theorem llvmGenMul_matrix_derivs (lib : MatrixOps α) (op : Opcode) (args : List Nat)
    (m : Store α) (hM : (tab (op.argSym args 0)).typespec.isMatrix = true)
    (hR : (tab (op.argSym args 0)).hasDerivs = true) {k : Nat} (hk : k < 16) :
    llvmGenMul tab lib op args m (op.argSym args 0, 1, k) = 0 ∧
      llvmGenMul tab lib op args m (op.argSym args 0, 2, k) = 0 := by
  simp [llvmGenMul, hM, zeroDerivs_apply, hR, basevalues_of_isMatrix hM, hk]

/-- A matrix quotient gets zero derivatives. -/
theorem llvmGenDiv_matrix_derivs (lib : MatrixOps α) (op : Opcode) (args : List Nat)
    (m : Store α) (hM : (tab (op.argSym args 0)).typespec.isMatrix = true)
    (hR : (tab (op.argSym args 0)).hasDerivs = true) {k : Nat} (hk : k < 16) :
    llvmGenDiv tab lib op args m (op.argSym args 0, 1, k) = 0 ∧
      llvmGenDiv tab lib op args m (op.argSym args 0, 2, k) = 0 := by
  simp [llvmGenDiv, hM, zeroDerivs_apply, hR, basevalues_of_isMatrix hM, hk]

end Generators

/-! ### The constant-divisor fast path -/

section FastPath

variable {α : Type} [LinearOrderedField α] [FloorRing α]

/-- Modelled from the spec: what the `fdiv` or `sdiv` instruction that `op_div` emits gives when
it runs. By a zero divisor it gives an infinity or a NaN (`fdiv`) or is undefined (`sdiv`), no
number of the field: `none`. -/
def rawDiv (isFloat : Bool) (a b : α) : Option α :=
  if b = 0 then none else some (opDiv isFloat a b)

/-- The raw divide gives what the safe function gives exactly when the divisor is not zero. -/
theorem rawDiv_eq_safeDiv_iff (isFloat : Bool) (a b : α) :
    rawDiv isFloat a b = some (safeDiv isFloat a b) ↔ b ≠ 0 := by
  by_cases hb : b = 0 <;> simp [rawDiv, safeDiv, hb]

omit [FloorRing α] in
/-- The fast-path test looks at the divisor as a whole: a constant passes it when one of its
components is not zero. -/
theorem isZero_eq_false_iff (tab : Nat → Symbol) (m : Store α) {x : Nat}
    (hc : (tab x).isConstant = true) :
    isZero tab m x = false ↔ ∃ c < (tab x).ncomps, m (x, 0, c) ≠ 0 := by
  simp [isZero, hc]

end FastPath

/-- The symbols of `div R A B`: colours, `B` a constant. -/
def constDivTab : Nat → Symbol
  | 2 => { name := "B", typespec := { simpletype := TypeDesc.TypeColor }, symtype := .const }
  | 1 => { name := "A", typespec := { simpletype := TypeDesc.TypeColor }, symtype := .local }
  | _ => { name := "R", typespec := { simpletype := TypeDesc.TypeColor }, symtype := .local }

/-- Every component is `1` but the second of the divisor `B = (1, 0, 1)`. -/
def constDivStore : Store ℚ := fun s => if s = (2, 0, 1) then 0 else 1

/-- `div R A B` by the constant `(1, 0, 1)`: `is_zero(B)` is false, so every component takes
`op_div`, and the second divides by zero where the safe function gives zero. -/
theorem llvmGenDiv_fast_path_divides_by_zero :
    let op : Opcode := { opname := "div", nargs := 3 }
    let args := [0, 1, 2]
    let R := op.argSym args 0
    let A := op.argSym args 1
    let B := op.argSym args 2
    ((constDivTab B).isConstant && !isZero constDivTab constDivStore B) = true ∧
      1 < (constDivTab R).ncomps ∧
      rawDiv (constDivTab R).typespec.isFloatBased (loadValue constDivTab constDivStore A 0 1)
          (loadValue constDivTab constDivStore B 0 1) ≠
        some (safeDiv (constDivTab R).typespec.isFloatBased
          (loadValue constDivTab constDivStore A 0 1) (loadValue constDivTab constDivStore B 0 1)) := by
  intro op args R A B
  -- `B`'s first component is not zero, so the fast-path test passes for the whole colour
  have hB : isZero constDivTab constDivStore B = false :=
    (isZero_eq_false_iff constDivTab constDivStore (x := B) rfl).mpr ⟨0, by decide, by decide⟩
  -- but its second component is, where the raw divide is not the safe one
  exact ⟨by rw [hB]; rfl, by decide,
    (rawDiv_eq_safeDiv_iff _ _ _).not.mpr (not_not.mpr (by decide))⟩

/-! ### The lowering of the arithmetic ops -/

section Lowering

variable {α : Type} [LinearOrderedField α] [FloorRing α]

/-- Every arithmetic generator stores, at each component of its result, the dual-number extension
of its operation on its operands' dual numbers: the value always, the derivatives when the result
has them. A quotient needs a non-zero divisor component, and a float-based result where it
computes derivatives (as the code asserts); a component or element read needs an index in range; the constructors take three
scalars; a matrix result gets zero derivatives. -/
theorem llvmGen_dual_numbers (tab : Nat → Symbol) (lib : MatrixOps α) (rangeChecking : Bool)
    (convert : Store α → Store α) (names : Nat → String) (synonym : String)
    (transform : Store α → Store α) (op : Opcode) (args : List Nat) (m : Store α) :
    let R := op.argSym args 0
    let a := operandDual tab m (op.argSym args 1)
    let b := operandDual tab m (op.argSym args 2)
    let c := operandDual tab m (op.argSym args 3)
    let index := intValue m (op.argSym args 2)
    (∀ i < (tab R).ncomps,
      Holds tab (llvmGenAdd tab op args m) R i (a i + b i) ∧
      Holds tab (llvmGenSub tab op args m) R i (a i - b i) ∧
      Holds tab (llvmGenNeg tab op args m) R i (-a i) ∧
      Holds tab (llvmGenMix tab op args m) R i (Dual.mix (a i) (b i) (c i)) ∧
      Holds tab (llvmGenClamp tab op args m) R i (Dual.clamp (a i) (b i) (c i)) ∧
      Holds tab (llvmGenMinmax tab op args m) R i
        (if op.opname = "min" then Dual.min (a i) (b i) else Dual.max (a i) (b i)) ∧
      Holds tab (llvmGenSelect tab op args m) R i
        (if (c (condComponent tab (op.argSym args 3) i)).val ≠ 0 then b i else a i) ∧
      ((tab R).typespec.isMatrix = false →
        Holds tab (llvmGenMul tab lib op args m) R i (a i * b i)) ∧
      ((tab R).typespec.isMatrix = false →
        ((tab R).hasDerivs && ((tab (op.argSym args 1)).hasDerivs ||
          (tab (op.argSym args 2)).hasDerivs) → (tab R).typespec.isFloatBased) → (b i).val ≠ 0 →
        Holds tab (llvmGenDiv tab lib op args m) R i
          (if (tab R).typespec.isFloatBased then a i / b i
          else Dual.const (intDiv (a i).val (b i).val)))) ∧
    ((tab R).typespec.isMatrix = true → (tab R).hasDerivs = true → ∀ k < 16,
      (llvmGenMul tab lib op args m (R, 1, k) = 0 ∧ llvmGenMul tab lib op args m (R, 2, k) = 0) ∧
      (llvmGenDiv tab lib op args m (R, 1, k) = 0 ∧ llvmGenDiv tab lib op args m (R, 2, k) = 0)) ∧
    ((tab (op.argSym args 1)).typespec.simpletype.aggregate ≠ .scalar → 0 ≤ index → index < 3 →
      Holds tab (llvmGenCompref tab rangeChecking op args m) R 0 (a index.toNat)) ∧
    ((tab (op.argSym args 1)).typespec.isArray = true → (tab R).typespec.isArray = false →
      0 ≤ index → index < (tab (op.argSym args 1)).typespec.arraylength →
      ∀ k < (tab (op.argSym args 1)).ncomps,
        Holds tab (llvmGenAref tab rangeChecking op args m) R k
          (elementDual tab m (op.argSym args 1) index.toNat k)) ∧
    (op.nargs ≠ 5 → (tab R).typespec.simpletype.aggregate = .vec3 →
      (∀ j < 3, (tab (op.argSym args (j + 1))).typespec.simpletype.aggregate = .scalar) →
      ∀ k < 3,
        Holds tab (llvmGenConstructColor tab convert op args m) R k
          (operandDual tab m (op.argSym args (k + 1)) 0) ∧
        Holds tab (llvmGenConstructTriple tab names synonym transform op args m) R k
          (operandDual tab m (op.argSym args (k + 1)) 0)) :=
  ⟨fun _ hi => ⟨llvmGenAdd_holds op args m hi, llvmGenSub_holds op args m hi,
      llvmGenNeg_holds op args m hi, llvmGenMix_holds op args m hi, llvmGenClamp_holds op args m hi,
      llvmGenMinmax_holds op args m hi, llvmGenSelect_holds op args m hi,
      fun hM => llvmGenMul_holds lib op args m hM hi,
      fun hM hwf hb => llvmGenDiv_holds lib op args m hM hwf hb hi⟩,
    fun hM hR _ hk => ⟨llvmGenMul_matrix_derivs lib op args m hM hR hk,
      llvmGenDiv_matrix_derivs lib op args m hM hR hk⟩,
    fun hV h0 h3 => llvmGenCompref_holds rangeChecking op args m hV h0 h3,
    fun hS hR h0 hlen _ hk => llvmGenAref_holds rangeChecking op args m hS hR h0 hlen hk,
    fun hsp hR hargs _ hk => ⟨llvmGenConstructColor_of_no_space convert hsp args m ▸
      constructComponents_holds op args m hk hsp hR hargs,
      llvmGenConstructTriple_of_no_space names synonym transform hsp args m ▸
      constructComponents_holds op args m hk hsp hR hargs⟩⟩

/-- `div R A B` of colours by the constant `(1, 0, 1)`, at the first component: the quotient
rule's value, the divisor's component there being `1`. -/
theorem llvmGen_dual_numbers_div_colour :
    Holds constDivTab (llvmGenDiv constDivTab ⟨fun _ _ _ => 0, fun _ _ _ => 0, fun _ _ _ => 0,
        fun _ _ _ => 0, fun _ _ _ => 0⟩ { opname := "div", nargs := 3 } [0, 1, 2] constDivStore) 0 0
      (if (constDivTab 0).typespec.isFloatBased then
        operandDual constDivTab constDivStore 1 0 / operandDual constDivTab constDivStore 2 0
      else Dual.const (intDiv (operandDual constDivTab constDivStore 1 0).val
        (operandDual constDivTab constDivStore 2 0).val)) :=
  ((llvmGen_dual_numbers constDivTab ⟨fun _ _ _ => 0, fun _ _ _ => 0, fun _ _ _ => 0,
      fun _ _ _ => 0, fun _ _ _ => 0⟩ false id (fun _ => "") "" id
    { opname := "div", nargs := 3 } [0, 1, 2] constDivStore).1 0 (by decide)).2.2.2.2.2.2.2.2
    rfl (by decide) (by decide)

end Lowering

/-! ### Generators that write the value only -/

section ValueOnly

variable {α : Type} [LinearOrderedField α] [FloorRing α] {tab : Nat → Symbol}

omit [FloorRing α] in
/-- `Dictionary::dict_value` writes value channels only. -/
theorem dictValue_derivs (dict : DictData α) (nnodes : Nat) (nodeID : ℤ) (name : String)
    (t : TypeDesc) (x : Nat) (m : Store α) {s : Slot} (hs : 0 < s.2.1) :
    (dictValue dict nnodes nodeID name t x m).2 s = m s := by
  unfold dictValue
  split
  · rfl
  · split
    · rfl
    · dsimp only
      split_ifs <;> simp only [hs.ne', false_and, and_false, if_false]

/-- `llvm_gen_dict_value` writes no derivative channel: whatever `Value` and `Result` held
there before the op, they hold after it. -/
theorem llvmGenDictValue_derivs (dict : DictData α) (nnodes : Nat) (names : Nat → String)
    (op : Opcode) (args : List Nat) (m : Store α) {s : Slot} (hs : 0 < s.2.1) :
    llvmGenDictValue tab dict nnodes names op args m s = m s := by
  have hne : s ≠ (op.argSym args 0, 0, 0) := by rintro rfl; exact absurd hs (lt_irrefl 0)
  simp only [llvmGenDictValue, storeValue]
  split_ifs
  · exact dictValue_derivs _ _ _ _ _ _ _ hs
  · rw [Function.update_noteq hne, dictValue_derivs _ _ _ _ _ _ _ hs]

end ValueOnly

/-- The symbols of `dict_value Result NodeID Name Value`: an int result and node id, a string
name, and a float `Value` with derivatives. -/
def dictValueTab : Nat → Symbol
  | 3 => { name := "Value", typespec := { simpletype := TypeDesc.TypeFloat }, symtype := .local,
           hasDerivs := true }
  | 2 => { name := "Name", typespec := { simpletype := TypeDesc.TypeString }, symtype := .const }
  | 1 => { name := "NodeID", typespec := { simpletype := TypeDesc.TypeInt }, symtype := .local }
  | _ => { name := "Result", typespec := { simpletype := TypeDesc.TypeInt }, symtype := .local }

/-- Node `1` of a dictionary of two nodes has the attribute `3`. -/
def dictValueData : DictData ℚ := fun id _ => if id = 1 then some [3] else none

/-- `NodeID` holds `1`, and `Value`'s x derivative holds `7` from before the op. -/
def dictValueStore : Store ℚ := fun s => if s = (3, 1, 0) then 7 else 1

/-- `dict_value` reads the attribute `3` into a float `Value` that has derivatives: its value
becomes `3`, and its x derivative keeps the `7` it held before the op, neither zero nor the
derivative of a value read from the dictionary. -/
theorem llvmGenDictValue_keeps_stale_derivs :
    let op : Opcode := { opname := "dict_value", nargs := 4 }
    let m' := llvmGenDictValue dictValueTab dictValueData 2 (fun _ => "name") op [0, 1, 2, 3]
      dictValueStore
    (dictValueTab 3).hasDerivs = true ∧ m' (3, 0, 0) = 3 ∧ m' (3, 1, 0) = 7 :=
  -- the value comes from the dictionary; no derivative channel is written at all
  ⟨rfl, by decide, (llvmGenDictValue_derivs _ _ _ _ _ _ (by decide)).trans (by decide)⟩

end OslExec
