import OslExec.Closure
import OslExec.Bounds

/-!
# The names of the runtime functions the generators call

`llvm_gen_generic`, `llvm_gen_sincos` and `llvm_gen_noise` call a function of the runtime
library whose name they build from the op and its arguments: `osl_`, the op's (or the noise
type's) name, `_`, then one code per argument, the letter of its type (`f`, `v`, `m`, `s`, `i`)
after a `d` when the argument is passed with its derivatives. The library has one function per
name, so a name must say which op, which argument types and which derivatives it is for.

`ArgCode` is one argument's code and `mangle` the name; `decodeCodes` reads the codes back.
`llvmGenGeneric` and `llvmGenSincos` are the two generators' calls: the name, the arguments and
how they are passed, and whether the result's derivatives are zeroed afterwards.

## Key results

- `decodeCodes_encodeCodes`: the codes of a name read back as the codes they were made from
- `mangle_inj`: a name determines the op's name and the argument codes
- `llvmGenGeneric_name_inj`: two ops that `llvm_gen_generic` lowers to the same function have
  the same name and the same code for every argument
- `llvmGenGeneric_derivs`: the function is called with derivatives exactly when its name marks
  one, and then the marked arguments are those with derivatives
-/

namespace OslExec

/-! ### Codes and names -/

/-- The letter of a type in a runtime function's name. -/
inductive TypeCode where
  | f
  | v
  | m
  | s
  | i
  deriving DecidableEq, Repr

namespace TypeCode

/-- The letter itself. -/
def letter : TypeCode → Char
  | f => 'f'
  | v => 'v'
  | m => 'm'
  | s => 's'
  | i => 'i'

/-- The type code a letter stands for. -/
def ofLetter : Char → Option TypeCode
  | 'f' => some f
  | 'v' => some v
  | 'm' => some m
  | 's' => some s
  | 'i' => some i
  | _ => none

@[simp] theorem ofLetter_letter (c : TypeCode) : ofLetter c.letter = some c := by
  cases c <;> rfl

@[simp] theorem letter_ne_d (c : TypeCode) : c.letter ≠ 'd' := by
  cases c <;> decide

@[simp] theorem letter_ne_underscore (c : TypeCode) : c.letter ≠ '_' := by
  cases c <;> decide

end TypeCode

/-- One argument's code: its type's letter, after a `d` if it is passed with derivatives. -/
structure ArgCode where
  derivs : Bool
  code : TypeCode
  deriving DecidableEq, Repr

/-- The characters of one argument's code. -/
def ArgCode.chars (a : ArgCode) : List Char :=
  if a.derivs then ['d', a.code.letter] else [a.code.letter]

/-- The codes of the arguments, one after the other. -/
def encodeCodes (cs : List ArgCode) : List Char := cs.flatMap ArgCode.chars

/-- Read the codes of a name back: a `d` marks the next letter as passed with derivatives. -/
def decodeCodes : List Char → Option (List ArgCode)
  | [] => some []
  | 'd' :: c :: rest =>
    match TypeCode.ofLetter c, decodeCodes rest with
    | some t, some r => some (⟨true, t⟩ :: r)
    | _, _ => none
  | c :: rest =>
    match TypeCode.ofLetter c, decodeCodes rest with
    | some t, some r => some (⟨false, t⟩ :: r)
    | _, _ => none

@[simp] theorem encodeCodes_nil : encodeCodes [] = [] := rfl

@[simp] theorem encodeCodes_cons (a : ArgCode) (cs : List ArgCode) :
    encodeCodes (a :: cs) = a.chars ++ encodeCodes cs := List.flatMap_cons _ _ _

/-- The codes read back as the codes they were made from. -/
theorem decodeCodes_encodeCodes (cs : List ArgCode) : decodeCodes (encodeCodes cs) = some cs := by
  induction cs with
  | nil => rfl
  | cons a cs ih =>
    rw [encodeCodes_cons]
    obtain ⟨_ | _, t⟩ := a <;>
      simp only [ArgCode.chars, Bool.false_eq_true, if_true, if_false, List.cons_append,
        List.nil_append]
    · cases t <;> simp only [TypeCode.letter, decodeCodes, ih, TypeCode.ofLetter]
    · simp only [decodeCodes, ih, TypeCode.ofLetter_letter]

/-- No code holds the `_` that ends the name before them. -/
theorem underscore_not_mem_encodeCodes (cs : List ArgCode) : '_' ∉ encodeCodes cs := by
  simp only [encodeCodes, List.mem_flatMap, not_exists, not_and]
  intro a _
  unfold ArgCode.chars
  split <;> simp [(TypeCode.letter_ne_underscore _).symm]

/-- The codes hold a `d` exactly when some argument is marked as passed with derivatives. -/
theorem d_mem_encodeCodes (cs : List ArgCode) : 'd' ∈ encodeCodes cs ↔ ∃ c ∈ cs, c.derivs = true := by
  simp only [encodeCodes, List.mem_flatMap]
  refine exists_congr fun c => and_congr_right fun _ => ?_
  unfold ArgCode.chars
  split <;> simp_all [(TypeCode.letter_ne_d _).symm]

/-- `std::string("osl_") + base + "_"`, then the argument codes. -/
def mangle (base : String) (cs : List ArgCode) : String :=
  "osl_" ++ base ++ "_" ++ String.mk (encodeCodes cs)

/-- A separator that occurs in neither tail splits two joined lists at the same place. -/
theorem append_sep_inj {a b c d : List Char} {x : Char} (hc : x ∉ c) (hd : x ∉ d)
    (h : a ++ x :: c = b ++ x :: d) : a = b ∧ c = d := by
  induction a generalizing b with
  | nil =>
    cases b with
    | nil => simpa using h
    | cons y b => simp only [List.nil_append, List.cons_append, List.cons.injEq] at h
                  exact absurd (h.2 ▸ List.mem_append_right b (List.mem_cons_self x d)) hc
  | cons y a ih =>
    cases b with
    | nil => simp only [List.nil_append, List.cons_append, List.cons.injEq] at h
             exact absurd (h.2.symm ▸ List.mem_append_right a (List.mem_cons_self x c)) hd
    | cons z b =>
      simp only [List.cons_append, List.cons.injEq] at h
      obtain ⟨rfl, rfl⟩ := ih h.2
      exact ⟨by rw [h.1], rfl⟩

/-- A name determines the op's name and the argument codes. -/
theorem mangle_inj {b₁ b₂ : String} {cs₁ cs₂ : List ArgCode} (h : mangle b₁ cs₁ = mangle b₂ cs₂) :
    b₁ = b₂ ∧ cs₁ = cs₂ := by
  have hd := congrArg String.data h
  simp only [mangle, String.data_append] at hd
  have hsplit := append_sep_inj (underscore_not_mem_encodeCodes cs₁)
    (underscore_not_mem_encodeCodes cs₂) (by simpa using hd)
  refine ⟨String.ext hsplit.1, ?_⟩
  have := congrArg decodeCodes hsplit.2
  rwa [decodeCodes_encodeCodes, decodeCodes_encodeCodes, Option.some.injEq] at this

/-! ### `llvm_gen_generic` -/

/-- The letter `llvm_gen_generic` writes for an argument's type, tested in its order; `none`
where it asserts. -/
def genericTypeCode (t : TypeSpec) : Option TypeCode :=
  if t.isFloat then some .f
  else if t.isTriple then some .v
  else if t.isMatrix then some .m
  else if t.isString then some .s
  else if t.isInt then some .i
  else none

/-- `arg_typecode(sym, derivs)`, the codes of `llvm_gen_noise`: `i`, `m` or `s` with no mark,
else `d` if `derivs` and then `f` or `v`; `none` where it asserts. Unlike `llvm_gen_generic`, it
never marks an int, a matrix or a string. -/
def argTypecode (t : TypeSpec) (derivs : Bool) : Option ArgCode :=
  if t.isInt then some ⟨false, .i⟩
  else if t.isMatrix then some ⟨false, .m⟩
  else if t.isString then some ⟨false, .s⟩
  else if t.isFloat then some ⟨derivs, .f⟩
  else if t.isTriple then some ⟨derivs, .v⟩
  else none

/-- The ops whose runtime functions have no derivatives. -/
def noDerivOps : List String := ["logb", "floor", "ceil", "round", "step", "trunc", "sign"]

section Generic

variable (tab : Nat → Symbol)

/-- `any_deriv_args`: an argument after the result has derivatives and is not a matrix, and the
op is not one whose function has none. -/
def anyDerivArgs (op : Opcode) (args : List Nat) : Bool :=
  (List.range op.nargs).any (fun i => 0 < i && (tab (op.argSym args i)).hasDerivs &&
    !(tab (op.argSym args i)).typespec.isMatrix) && !noDerivOps.contains op.opname

/-- The code of argument `i`: `d` when derivatives are asked for, the result has them and so
does the argument (a matrix never), then its type's letter. -/
def genericArgCode (op : Opcode) (args : List Nat) (i : Nat) : Option ArgCode :=
  let s := tab (op.argSym args i)
  (genericTypeCode s.typespec).map fun c =>
    ⟨anyDerivArgs tab op args && (tab (op.argSym args 0)).hasDerivs && s.hasDerivs &&
      !s.typespec.isMatrix, c⟩

/-- How the function is called. -/
inductive GenericCall where
  /-- a scalar result is the function's return value, the other arguments its arguments -/
  | returns (name : String) (args : List Nat)
  /-- all arguments, the result first, by pointer; with `derivs` the pointers carry their
  derivatives -/
  | pointers (name : String) (args : List Nat) (derivs : Bool)
  deriving DecidableEq, Repr

/-- The function a call names. -/
def GenericCall.name : GenericCall → String
  | .returns name _ | .pointers name _ _ => name

/-- Does the call pass derivatives? -/
def GenericCall.derivs : GenericCall → Bool
  | .returns _ _ => false
  | .pointers _ _ d => d

/-- The codes `llvm_gen_generic` writes into the name, argument by argument; `none` when an
argument's type has no letter (`OSL_ASSERT(0)`). -/
def genericCodes (op : Opcode) (args : List Nat) : Option (List ArgCode) :=
  (List.range op.nargs).mapM (genericArgCode tab op args)

/-- `llvm_gen_generic`: the call, and whether `llvm_zero_derivs(Result)` follows it. -/
def llvmGenGeneric (op : Opcode) (args : List Nat) : Option (GenericCall × Bool) :=
  let Result := tab (op.argSym args 0)
  let syms := (List.range op.nargs).map (op.argSym args)
  (genericCodes tab op args).map fun cs =>
    let name := mangle op.opname cs
    if !Result.hasDerivs || !anyDerivArgs tab op args then
      if Result.typespec.simpletype.aggregate = .scalar then (.returns name syms.tail, true)
      else (.pointers name syms false, true)
    else (.pointers name syms true, false)

variable {tab}

/-- What `mapM` gives in `Option`: one result per element, each the function's value there. -/
theorem mapM_option_getElem {β : Type} {f : Nat → Option β} :
    ∀ {l : List Nat} {cs : List β}, l.mapM f = some cs →
      cs.length = l.length ∧ ∀ i (h : i < cs.length) (h' : i < l.length), f l[i] = some cs[i]
  | [], cs, h => by
    simp only [List.mapM_nil, pure, Option.some.injEq] at h
    subst h
    simp
  | a :: l, cs, h => by
    simp only [List.mapM_cons, bind, Option.bind_eq_some, pure, Option.some.injEq] at h
    obtain ⟨b, hb, bs, hbs, rfl⟩ := h
    obtain ⟨hlen, hget⟩ := mapM_option_getElem hbs
    refine ⟨by simp [hlen], fun i h h' => ?_⟩
    cases i with
    | zero => exact hb
    | succ i => exact hget i (by simpa using h) (by simpa using h')

/-- The codes give argument `i` the code `genericArgCode` computes for it. -/
theorem genericCodes_getElem {op : Opcode} {args : List Nat} {cs : List ArgCode}
    (h : genericCodes tab op args = some cs) :
    cs.length = op.nargs ∧ ∀ i (hi : i < cs.length), genericArgCode tab op args i = some cs[i] := by
  obtain ⟨hlen, hget⟩ := mapM_option_getElem h
  rw [List.length_range] at hlen
  refine ⟨hlen, fun i hi => ?_⟩
  have := hget i hi (by rw [List.length_range]; omega)
  rwa [List.getElem_range] at this

/-- The generator's call is named by its codes, and zeroes the result's derivatives exactly
when it does not pass derivatives. -/
theorem llvmGenGeneric_eq {op : Opcode} {args : List Nat} {g : GenericCall × Bool}
    (h : llvmGenGeneric tab op args = some g) :
    ∃ cs, genericCodes tab op args = some cs ∧ g.1.name = mangle op.opname cs ∧
      g.1.derivs = ((tab (op.argSym args 0)).hasDerivs && anyDerivArgs tab op args) ∧
      g.2 = !g.1.derivs := by
  simp only [llvmGenGeneric, Option.map_eq_some'] at h
  obtain ⟨cs, hcs, rfl⟩ := h
  refine ⟨cs, hcs, ?_⟩
  cases (tab (op.argSym args 0)).hasDerivs <;> cases anyDerivArgs tab op args <;>
    simp only [Bool.not_true, Bool.not_false, Bool.or_true, Bool.or_false, if_true, if_false,
      Bool.false_eq_true] <;> (try split_ifs) <;> exact ⟨rfl, rfl, rfl⟩

/-- Two ops that `llvm_gen_generic` lowers to calls of the same runtime function, in one shader
or two, have the same name, the same number of arguments and, argument by argument, the same
type letter and derivative mark: the function name is a dispatch key that determines the op and
its signature. -/
theorem llvmGenGeneric_name_inj (tab₁ tab₂ : Nat → Symbol) {op₁ op₂ : Opcode}
    {args₁ args₂ : List Nat} {g₁ g₂ : GenericCall × Bool}
    (h₁ : llvmGenGeneric tab₁ op₁ args₁ = some g₁) (h₂ : llvmGenGeneric tab₂ op₂ args₂ = some g₂)
    (h : g₁.1.name = g₂.1.name) :
    op₁.opname = op₂.opname ∧ op₁.nargs = op₂.nargs ∧
      ∀ i < op₁.nargs, genericArgCode tab₁ op₁ args₁ i = genericArgCode tab₂ op₂ args₂ i := by
  obtain ⟨cs₁, hc₁, hn₁, -⟩ := llvmGenGeneric_eq h₁
  obtain ⟨cs₂, hc₂, hn₂, -⟩ := llvmGenGeneric_eq h₂
  obtain ⟨hop, rfl⟩ := mangle_inj (hn₁.symm.trans (h.trans hn₂))
  obtain ⟨hl₁, hg₁⟩ := genericCodes_getElem hc₁
  obtain ⟨hl₂, hg₂⟩ := genericCodes_getElem hc₂
  refine ⟨hop, hl₁.symm.trans hl₂, fun i hi => ?_⟩
  rw [hg₁ i (hl₁ ▸ hi), hg₂ i (hl₁ ▸ hi)]

/-- `llvm_gen_generic` calls the function with derivatives exactly when the function's name
marks a derivative; the marked arguments are then exactly those that have derivatives and are
not matrices; and the result's derivatives are zeroed exactly when none are passed. -/
theorem llvmGenGeneric_derivs {op : Opcode} {args : List Nat} {g : GenericCall × Bool}
    (h : llvmGenGeneric tab op args = some g) :
    ∃ cs, g.1.name = mangle op.opname cs ∧ (g.1.derivs = true ↔ 'd' ∈ encodeCodes cs) ∧
      (g.1.derivs = true → ∀ i (hi : i < cs.length),
        cs[i].derivs = ((tab (op.argSym args i)).hasDerivs &&
          !(tab (op.argSym args i)).typespec.isMatrix)) ∧
      g.2 = !g.1.derivs := by
  obtain ⟨cs, hcs, hname, hd, hz⟩ := llvmGenGeneric_eq h
  obtain ⟨hlen, hget⟩ := genericCodes_getElem hcs
  -- the mark of argument `i` is the generator's condition for it
  have mark (i : Nat) (hi : i < cs.length) : cs[i].derivs = (anyDerivArgs tab op args &&
      (tab (op.argSym args 0)).hasDerivs && (tab (op.argSym args i)).hasDerivs &&
      !(tab (op.argSym args i)).typespec.isMatrix) := by
    have := hget i hi
    simp only [genericArgCode, Option.map_eq_some'] at this
    obtain ⟨c, -, hc⟩ := this
    rw [← hc]
  refine ⟨cs, hname, ?_, fun hder i hi => ?_, hz⟩
  · rw [d_mem_encodeCodes, hd]
    constructor
    · intro hRa
      simp only [Bool.and_eq_true] at hRa
      obtain ⟨hR, ha⟩ := hRa
      have ha' := ha
      simp only [anyDerivArgs, Bool.and_eq_true, List.any_eq_true, List.mem_range] at ha'
      obtain ⟨⟨i, hi, hi'⟩, -⟩ := ha'
      have hic : i < cs.length := hlen ▸ hi
      refine ⟨cs[i], List.getElem_mem _, ?_⟩
      simp only [Bool.and_eq_true, decide_eq_true_eq] at hi'
      rw [mark, ha, hR, hi'.1.2, hi'.2]
      rfl
    · rintro ⟨c, hc, hcd⟩
      obtain ⟨i, hi, rfl⟩ := List.getElem_of_mem hc
      rw [mark] at hcd
      simp only [Bool.and_eq_true] at hcd ⊢
      exact ⟨hcd.1.1.2, hcd.1.1.1⟩
  · rw [hd, Bool.and_eq_true] at hder
    rw [mark, hder.1, hder.2, Bool.true_and, Bool.true_and]

end Generic

/-- Float symbols with derivatives. -/
def derivFloatTab : Nat → Symbol
  | _ => { name := "x", typespec := { simpletype := TypeDesc.TypeFloat }, symtype := .local,
           hasDerivs := true }

/-- `sin` on float arguments with derivatives, in two places of the argument list: both call
`osl_sin_dfdf`, and their codes agree. -/
theorem llvmGenGeneric_name_inj_sin :
    llvmGenGeneric derivFloatTab { opname := "sin", nargs := 2 } [0, 1] =
        some (.pointers "osl_sin_dfdf" [0, 1] true, false) ∧
      llvmGenGeneric derivFloatTab { opname := "sin", firstarg := 2, nargs := 2 } [0, 1, 1, 0] =
        some (.pointers "osl_sin_dfdf" [1, 0] true, false) ∧
      ("sin" = "sin" ∧ 2 = 2 ∧ ∀ i < 2,
        genericArgCode derivFloatTab { opname := "sin", nargs := 2 } [0, 1] i =
          genericArgCode derivFloatTab { opname := "sin", firstarg := 2, nargs := 2 } [0, 1, 1, 0] i) :=
  have h₁ : llvmGenGeneric derivFloatTab { opname := "sin", nargs := 2 } [0, 1] =
      some (.pointers "osl_sin_dfdf" [0, 1] true, false) := by decide
  have h₂ : llvmGenGeneric derivFloatTab { opname := "sin", firstarg := 2, nargs := 2 } [0, 1, 1, 0] =
      some (.pointers "osl_sin_dfdf" [1, 0] true, false) := by decide
  ⟨h₁, h₂, llvmGenGeneric_name_inj derivFloatTab derivFloatTab h₁ h₂ rfl⟩

/-- `floor` of a float with derivatives: its function has none, so `osl_floor_ff` returns the
value, no code is marked, and the result's derivatives are zeroed. -/
theorem llvmGenGeneric_derivs_floor :
    llvmGenGeneric derivFloatTab { opname := "floor", nargs := 2 } [0, 1] =
        some (.returns "osl_floor_ff" [1], true) ∧
      ∃ cs, (GenericCall.returns "osl_floor_ff" [1]).name = mangle "floor" cs ∧
        ((GenericCall.returns "osl_floor_ff" [1]).derivs = true ↔ 'd' ∈ encodeCodes cs) ∧
        ((GenericCall.returns "osl_floor_ff" [1]).derivs = true → ∀ i (hi : i < cs.length),
          cs[i].derivs = ((derivFloatTab (Opcode.argSym { opname := "floor", nargs := 2 } [0, 1] i)).hasDerivs &&
            !(derivFloatTab (Opcode.argSym { opname := "floor", nargs := 2 } [0, 1] i)).typespec.isMatrix)) ∧
        true = !(GenericCall.returns "osl_floor_ff" [1]).derivs :=
  have h : llvmGenGeneric derivFloatTab { opname := "floor", nargs := 2 } [0, 1] =
      some (.returns "osl_floor_ff" [1], true) := by decide
  ⟨h, llvmGenGeneric_derivs h⟩

/-! ### `llvm_gen_sincos` -/

/-- How `llvm_gen_sincos` calls `osl_sincos_<codes>`: the name, whether `Theta` is passed by
pointer (else by value), and which outputs get `llvm_zero_derivs` after the call. -/
structure SincosCall where
  name : String
  thetaPtr : Bool
  zeroSin : Bool
  zeroCos : Bool
  deriving DecidableEq, Repr

/-- `llvm_gen_sincos`: every argument is a float (`f`) or a triple (`v`), marked `d` when it has
derivatives, an output has them and so does `Theta`; `none` where the code asserts. -/
def llvmGenSincos (tab : Nat → Symbol) (op : Opcode) (args : List Nat) : Option SincosCall :=
  let Theta := tab (op.argSym args 0)
  let Sin := tab (op.argSym args 1)
  let Cos := tab (op.argSym args 2)
  let thetaDeriv := Theta.hasDerivs
  let resultDerivs := Sin.hasDerivs || Cos.hasDerivs
  let code (i : Nat) : Option ArgCode :=
    let s := tab (op.argSym args i)
    (if s.typespec.isFloat then some TypeCode.f else if s.typespec.isTriple then some .v
      else none).map fun c => ⟨s.hasDerivs && resultDerivs && thetaDeriv, c⟩
  ((List.range op.nargs).mapM code).map fun cs =>
    { name := mangle "sincos" cs
      thetaPtr := (thetaDeriv && resultDerivs) || Theta.typespec.isTriple
      zeroSin := Sin.hasDerivs && !thetaDeriv
      zeroCos := Cos.hasDerivs && !thetaDeriv }

end OslExec
