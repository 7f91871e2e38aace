import OslExec.Mangle
import OslExec.TextureOptions

/-!
# The trace and noise generators

`llvm_gen_trace_options` and `llvm_gen_noise_options` sweep the optional `(name, value)`
arguments of a `trace` or noise op the way the texture sweep does, with no default elided: a
recognised name with a value of the expected type becomes one setter call, anything else one
diagnostic. The setters are outside the repository's files; each assigns its field
(`runOptions`).

`llvm_gen_noise` reads the op's arguments (an optional noise-type name, the coordinates `S` and
`T` and, for the periodic ops, their periods), resolves the noise type, and calls the runtime
function `osl_<type>_<codes>`. Only the types that take options (a name known only when the
shader runs, and `gabor`) sweep the optional arguments.

## Key results

- `runOptions_sweep_last`, `runOptions_sweep_none`: after an option sweep each field holds the
  value of the last pair that names it, or its initial value
- `llvmGenTraceOptions_fields`: the trace options a `trace` call runs with
- `noiseCoords_truncate`: the arguments read do not change when the op is cut after them
- `llvmGenNoise_options_unread`: a noise type that takes no options reads no optional argument
-/

namespace OslExec

/-! ### Option sweeps -/

/-- A value an option setter is passed. -/
inductive OptVal (α : Type) where
  | int (i : ℤ)
  | float (x : α)
  | string (s : String)
  /-- a triple passed by pointer, read by the setter -/
  | triple (x y z : α)
  deriving DecidableEq, Repr

/-- The diagnostics of the trace and noise generators. -/
inductive CallDiag where
  /-- `"Unknown trace() optional argument: \"{}\", <{}> ({}:{})"` -/
  | unknownTraceOption (name : String) (valtype : TypeDesc) (file : String) (line : Nat)
  /-- `"Unknown {} optional argument: \"{}\", <{}> ({}:{})"`, after the op's name -/
  | unknownNoiseOption (opname name : String) (valtype : TypeDesc) (file : String) (line : Nat)
  deriving DecidableEq, Repr

/-- The setter calls an option sweep emits after its `osl_init_*_options` call, and its
diagnostics. -/
structure OptionGen (F α : Type) where
  calls : List (F × OptVal α) := []
  diags : List CallDiag := []

/-- The positions of the option names: from `first`, `a` steps by two while `a < nargs`. -/
def optionPositions (op : Opcode) (first : Nat) : List Nat :=
  (List.range ((op.nargs - first + 1) / 2)).map (first + 2 * ·)

section Sweep

variable {F α : Type} (strs : Nat → String) (classify : String → Nat → Option F)
  (value : F → Nat → OptVal α) (skipEmpty : Bool) (unknown : String → Nat → CallDiag)

/-- The setter call of the pair whose name is at `a`: the field its name and value select and
the value, or `none` when the pair is skipped or not recognised. -/
def optionGiven (op : Opcode) (args : List Nat) (a : Nat) : Option (F × OptVal α) :=
  let name := strs (op.argSym args a)
  let Val := op.argSym args (a + 1)
  if skipEmpty && name = "" then none else (classify name Val).map fun f => (f, value f Val)

/-- The diagnostic of the pair at `a`: an unrecognised pair that is not skipped. -/
def optionReported (op : Opcode) (args : List Nat) (a : Nat) : Option CallDiag :=
  let name := strs (op.argSym args a)
  let Val := op.argSym args (a + 1)
  if skipEmpty && name = "" then none
  else match classify name Val with
    | some _ => none
    | none => some (unknown name Val)

/-- One pair of a sweep, the name at `a`: skipped, a setter call, or a diagnostic. -/
def optionStep (op : Opcode) (args : List Nat) (g : OptionGen F α) (a : Nat) : OptionGen F α :=
  let name := strs (op.argSym args a)
  let Val := op.argSym args (a + 1)
  if skipEmpty && name = "" then g
  else match classify name Val with
    | some f => { g with calls := g.calls ++ [(f, value f Val)] }
    | none => { g with diags := g.diags ++ [unknown name Val] }

/-- The sweep over the pairs from argument `first` on. -/
def optionSweep (op : Opcode) (args : List Nat) (first : Nat) : OptionGen F α :=
  (optionPositions op first).foldl (optionStep strs classify value skipEmpty unknown op args) {}

/-- A run of the sweep appends the setter calls and the diagnostics of its pairs, in order. -/
theorem foldl_optionStep (op : Opcode) (args : List Nat) (ps : List Nat) (g : OptionGen F α) :
    (ps.foldl (optionStep strs classify value skipEmpty unknown op args) g).calls =
        g.calls ++ ps.filterMap (optionGiven strs classify value skipEmpty op args) ∧
      (ps.foldl (optionStep strs classify value skipEmpty unknown op args) g).diags =
        g.diags ++ ps.filterMap (optionReported strs classify skipEmpty unknown op args) := by
  induction ps generalizing g with
  | nil => simp
  | cons a ps ih =>
    rw [List.foldl_cons, (ih _).1, (ih _).2]
    simp only [optionStep, optionGiven, optionReported, List.filterMap_cons]
    split
    · simp
    · cases classify (strs (op.argSym args a)) (op.argSym args (a + 1)) <;> simp

theorem optionSweep_calls (op : Opcode) (args : List Nat) (first : Nat) :
    (optionSweep strs classify value skipEmpty unknown op args first).calls =
      (optionPositions op first).filterMap (optionGiven strs classify value skipEmpty op args) :=
  (foldl_optionStep strs classify value skipEmpty unknown op args _ {}).1

theorem optionSweep_diags (op : Opcode) (args : List Nat) (first : Nat) :
    (optionSweep strs classify value skipEmpty unknown op args first).diags =
      (optionPositions op first).filterMap (optionReported strs classify skipEmpty unknown op args) :=
  (foldl_optionStep strs classify value skipEmpty unknown op args _ {}).2

end Sweep

section Run

variable {F α : Type} [DecidableEq F]

/-- Modelled from the spec: the runtime setters (outside the repository's files) each assign
their field of the options. -/
def runOptions (init : F → OptVal α) (calls : List (F × OptVal α)) : F → OptVal α :=
  calls.foldl (fun o c => Function.update o c.1 c.2) init

theorem runOptions_append (init : F → OptVal α) (cs ds : List (F × OptVal α)) :
    runOptions init (cs ++ ds) = runOptions (runOptions init cs) ds :=
  List.foldl_append _ _ _ _

/-- Calls that assign other fields leave a field as it was. -/
theorem runOptions_of_forall_ne (init : F → OptVal α) {cs : List (F × OptVal α)} {f : F}
    (h : ∀ c ∈ cs, c.1 ≠ f) : runOptions init cs f = init f := by
  induction cs generalizing init with
  | nil => rfl
  | cons c cs ih =>
    simp only [List.mem_cons, forall_eq_or_imp] at h
    exact (ih _ h.2).trans (Function.update_noteq h.1.symm _ _)

/-- The last call that assigns a field gives its value. -/
theorem runOptions_last (init : F → OptVal α) (cs ds : List (F × OptVal α)) {f : F}
    (v : OptVal α) (h : ∀ c ∈ ds, c.1 ≠ f) : runOptions init (cs ++ (f, v) :: ds) f = v := by
  rw [runOptions_append]
  show runOptions (Function.update (runOptions init cs) f v) ds f = v
  rw [runOptions_of_forall_ne _ h]
  exact Function.update_same _ _ _

end Run

section SweepRun

variable {F α : Type} [DecidableEq F] (strs : Nat → String) (classify : String → Nat → Option F)
  (value : F → Nat → OptVal α) (skipEmpty : Bool) (unknown : String → Nat → CallDiag)
  (init : F → OptVal α) {op : Opcode} {args : List Nat} {first : Nat} {f : F}

/-- A field no pair names keeps its initial value. -/
theorem runOptions_sweep_none
    (h : ∀ a ∈ optionPositions op first, ∀ c, optionGiven strs classify value skipEmpty op args a = some c → c.1 ≠ f) :
    runOptions init (optionSweep strs classify value skipEmpty unknown op args first).calls f =
      init f := by
  refine runOptions_of_forall_ne init fun c hc => ?_
  rw [optionSweep_calls, List.mem_filterMap] at hc
  obtain ⟨a, ha, hac⟩ := hc
  exact h a ha c hac

/-- A field holds the value of the last pair that names it. -/
theorem runOptions_sweep_last {P₁ P₂ : List Nat} {a : Nat} {v : OptVal α}
    (hpos : optionPositions op first = P₁ ++ a :: P₂)
    (ha : optionGiven strs classify value skipEmpty op args a = some (f, v))
    (hlater : ∀ b ∈ P₂, ∀ c, optionGiven strs classify value skipEmpty op args b = some c → c.1 ≠ f) :
    runOptions init (optionSweep strs classify value skipEmpty unknown op args first).calls f = v := by
  rw [optionSweep_calls, hpos, List.filterMap_append, List.filterMap_cons_some ha]
  refine runOptions_last init _ _ v fun c hc => ?_
  obtain ⟨b, hb, hbc⟩ := List.mem_filterMap.1 hc
  exact hlater b hb c hbc

end SweepRun

/-! ### `llvm_gen_trace_options` -/

/-- The fields of `TraceOpt` the trace setters assign. -/
inductive TraceField where
  | mindist
  | maxdist
  | shade
  | traceset
  deriving DecidableEq, Repr

section Trace

variable {α : Type} (tab : Nat → Symbol) (ints : Nat → ℤ) (floats : Nat → Nat → α)
  (strs : Nat → String)

/-- The trace option a pair sets: the name, and the value's type compared with `==` to
`TypeDesc::FLOAT`, `INT` or `STRING`. -/
def classifyTraceOption (name : String) (Val : Nat) : Option TraceField :=
  let valtype := (tab Val).typespec.simpletype
  if name = "mindist" ∧ valtype = TypeDesc.TypeFloat then some .mindist
  else if name = "maxdist" ∧ valtype = TypeDesc.TypeFloat then some .maxdist
  else if name = "shade" ∧ valtype = TypeDesc.TypeInt then some .shade
  else if name = "traceset" ∧ valtype = TypeDesc.TypeString then some .traceset
  else none

/-- The value `llvm_load_value(Val)` passes to a trace setter. -/
def traceValue (f : TraceField) (Val : Nat) : OptVal α :=
  match f with
  | .mindist | .maxdist => .float (floats Val 0)
  | .shade => .int (ints Val)
  | .traceset => .string (strs Val)

/-- `llvm_gen_trace_options`: the sweep from argument `first`, no pair skipped. -/
def llvmGenTraceOptions (op : Opcode) (args : List Nat) (first : Nat) : OptionGen TraceField α :=
  optionSweep strs (classifyTraceOption tab) (traceValue ints floats strs) false
    (fun name Val => .unknownTraceOption name (tab Val).typespec.simpletype op.sourcefile
      op.sourceline) op args first

/-- `llvm_gen_trace`: the options from argument `3` on (after the result, the position and the
direction); `osl_trace` is then called with them. -/
def llvmGenTrace (op : Opcode) (args : List Nat) : OptionGen TraceField α :=
  llvmGenTraceOptions tab ints floats strs op args 3

/-- The trace options a `trace` call runs with: a field holds the value of the last pair that
names it with its exact type (a float `mindist` or `maxdist`, an int `shade`, a string
`traceset`), and what `osl_init_trace_options` set if no pair does; every other pair is
reported, in order, with its name, its type and the op's source location. -/
theorem llvmGenTraceOptions_fields (init : TraceField → OptVal α) (op : Opcode) (args : List Nat)
    (first : Nat) (f : TraceField) :
    let opts := llvmGenTraceOptions tab ints floats strs op args first
    let sel a := classifyTraceOption tab (strs (op.argSym args a)) (op.argSym args (a + 1))
    ((∀ a ∈ optionPositions op first, sel a ≠ some f) → runOptions init opts.calls f = init f) ∧
    (∀ P₁ P₂ a, optionPositions op first = P₁ ++ a :: P₂ → sel a = some f →
      (∀ b ∈ P₂, sel b ≠ some f) →
      runOptions init opts.calls f = traceValue ints floats strs f (op.argSym args (a + 1))) ∧
    opts.diags = (optionPositions op first).filterMap fun a =>
      if sel a = none then
        some (.unknownTraceOption (strs (op.argSym args a))
          (tab (op.argSym args (a + 1))).typespec.simpletype op.sourcefile op.sourceline)
      else none := by
  have given (a : Nat) : optionGiven strs (classifyTraceOption tab) (traceValue ints floats strs)
      false op args a = (classifyTraceOption tab (strs (op.argSym args a))
        (op.argSym args (a + 1))).map fun f => (f, traceValue ints floats strs f (op.argSym args (a + 1))) := by
    simp [optionGiven]
  refine ⟨fun h => runOptions_sweep_none _ _ _ _ _ _ fun a ha c hc => ?_,
    fun P₁ P₂ a hpos ha hlater => runOptions_sweep_last _ _ _ _ _ _ hpos (by simp [given, ha])
      fun b hb c hc => ?_, ?_⟩
  · rw [given, Option.map_eq_some'] at hc
    obtain ⟨f', hf', rfl⟩ := hc
    exact fun e => h a ha (e ▸ hf')
  · rw [given, Option.map_eq_some'] at hc
    obtain ⟨f', hf', rfl⟩ := hc
    exact fun e => hlater b hb (e ▸ hf')
  · rw [llvmGenTraceOptions, optionSweep_diags]
    congr 1
    funext a
    simp only [optionReported, Bool.false_and, Bool.false_eq_true, if_false]
    split <;> simp_all

end Trace

/-! ### `llvm_gen_noise_options` -/

/-- The fields of `NoiseParams` the noise setters assign. -/
inductive NoiseField where
  | anisotropic
  | doFilter
  | direction
  | bandwidth
  | impulses
  deriving DecidableEq, Repr

section NoiseOptions

variable {α : Type} [Field α] (tab : Nat → Symbol) (ints : Nat → ℤ)
  (floats : Nat → Nat → α) (strs : Nat → String)

/-- The noise option a pair sets, by its name and the type of its value. -/
def classifyNoiseOption (name : String) (Val : Nat) : Option NoiseField :=
  let t := (tab Val).typespec
  if name = "anisotropic" ∧ t.isInt then some .anisotropic
  else if name = "do_filter" ∧ t.isInt then some .doFilter
  else if name = "direction" ∧ t.isTriple then some .direction
  else if name = "bandwidth" ∧ (t.isFloat || t.isInt) then some .bandwidth
  else if name = "impulses" ∧ (t.isFloat || t.isInt) then some .impulses
  else none

/-- The value a noise setter is passed: an int loaded, the direction by pointer, the bandwidth
and impulses loaded as floats (an int converted). -/
def noiseValue (f : NoiseField) (Val : Nat) : OptVal α :=
  match f with
  | .anisotropic | .doFilter => .int (ints Val)
  | .direction => .triple (floats Val 0) (floats Val 1) (floats Val 2)
  | .bandwidth | .impulses => .float (floatArg tab ints floats Val)

/-- `llvm_gen_noise_options`: the sweep from argument `first`, a pair with an empty name skipped
without a diagnostic. -/
def llvmGenNoiseOptions (op : Opcode) (args : List Nat) (first : Nat) : OptionGen NoiseField α :=
  optionSweep strs (classifyNoiseOption tab) (noiseValue tab ints floats) true
    (fun name Val => .unknownNoiseOption op.opname name (tab Val).typespec.simpletype
      op.sourcefile op.sourceline) op args first

end NoiseOptions

/-! ### `llvm_gen_noise` -/

/-- The periodic noise ops, `pnoise` and `psnoise`. -/
def isPeriodicNoise (opname : String) : Bool := opname = "pnoise" || opname = "psnoise"

/-- The coordinates `llvm_gen_noise` reads: `S`, the optional `T`, the periods `Sper` and `Tper`
of a periodic op, and the argument after the last one read, where the options begin. -/
structure NoiseCoords where
  S : Nat
  T : Option Nat
  Sper : Option Nat
  Tper : Option Nat
  next : Nat
  deriving DecidableEq, Repr

/-- The noise type's symbol and name, and the argument after them: a string argument `1` names
the type (the empty name unless it is a constant); otherwise the op's own name does. -/
def noiseTypeArg (tab : Nat → Symbol) (strs : Nat → String) (op : Opcode) (args : List Nat) :
    Option Nat × String × Nat :=
  let N := op.argSym args 1
  if (tab N).typespec.isString then (some N, if (tab N).isConstant then strs N else "", 2)
  else (none, op.opname, 1)

section Coords

variable (tab : Nat → Symbol)

/-- The coordinates from argument `arg`. A periodic op has a `T` when the argument after the
next one is a float or a triple (the next one is then `T`, not `Sper`), and a `Tper` when its
input has two or four dimensions; a non-periodic op has a `T` when the next argument is a
float. -/
def noiseCoords (op : Opcode) (args : List Nat) (periodic : Bool) (arg : Nat) : NoiseCoords :=
  let S := op.argSym args arg
  let arg := arg + 1
  let indim := if (tab S).typespec.isTriple then 3 else 1
  if periodic then
    let t := (tab (op.argSym args (arg + 1))).typespec
    let hasT := decide (arg + 1 < op.nargs) && (t.isFloat || t.isTriple)
    let T := if hasT then some (op.argSym args arg) else none
    let arg := if hasT then arg + 1 else arg
    let indim := if hasT then indim + 1 else indim
    let hasTper := indim == 2 || indim == 4
    { S, T, Sper := some (op.argSym args arg),
      Tper := if hasTper then some (op.argSym args (arg + 1)) else none,
      next := if hasTper then arg + 2 else arg + 1 }
  else
    let hasT := decide (arg < op.nargs) && (tab (op.argSym args arg)).typespec.isFloat
    { S, T := if hasT then some (op.argSym args arg) else none, Sper := none, Tper := none,
      next := if hasT then arg + 1 else arg }

/-- `derivs`: `S` or `T` has derivatives. -/
def NoiseCoords.derivs (c : NoiseCoords) : Bool :=
  (tab c.S).hasDerivs || c.T.any fun t => (tab t).hasDerivs

omit tab in
@[simp] theorem argSym_with_nargs (op : Opcode) (n : Nat) (args : List Nat) (k : Nat) :
    ({ op with nargs := n } : Opcode).argSym args k = op.argSym args k := rfl

/-- The coordinates read do not change when the op is cut after them: nothing past them is
looked at. -/
theorem noiseCoords_truncate (op : Opcode) (args : List Nat) (periodic : Bool) (arg : Nat) :
    noiseCoords tab { op with nargs := (noiseCoords tab op args periodic arg).next } args periodic
      arg = noiseCoords tab op args periodic arg := by
  cases periodic <;> simp only [noiseCoords, argSym_with_nargs, Bool.false_eq_true, if_true,
    if_false]
  · by_cases h : arg + 1 < op.nargs ∧ (tab (op.argSym args (arg + 1))).typespec.isFloat = true
    · simp [h]
    · simp only [Bool.and_eq_true, decide_eq_true_eq] at h ⊢
      simp [h]
  · cases ht : ((tab (op.argSym args (arg + 1 + 1))).typespec.isFloat ||
        (tab (op.argSym args (arg + 1 + 1))).typespec.isTriple) <;>
      cases hS : (tab (op.argSym args arg)).typespec.isTriple <;>
      by_cases hn : arg + 1 + 1 < op.nargs <;> simp [hn]

end Coords

/-- The noise type a name selects: the runtime function's name; whether the type name, the
shader globals and the options are passed (the three flags are set together); and what becomes
of `derivs`, `none` keeping the coordinates'. The names are the values of the `Strings::`
constants, declared outside the repository's files. -/
structure NoiseType where
  name : String
  passAll : Bool := false
  derivs : Option Bool := none
  deriving DecidableEq, Repr

/-- The chain of tests on the noise type's name; `none` for a name it does not know. -/
def resolveNoise (periodic : Bool) (name : String) : Option NoiseType :=
  if name = "" then
    some { name := if periodic then "genericpnoise" else "genericnoise", passAll := true,
           derivs := some true }
  else if name = "perlin" ∨ name = "snoise" ∨ name = "psnoise" then
    some { name := if periodic then "psnoise" else "snoise" }
  else if name = "uperlin" ∨ name = "noise" ∨ name = "pnoise" then
    some { name := if periodic then "pnoise" else "noise" }
  else if name = "cell" ∨ name = "cellnoise" then
    some { name := if periodic then "pcellnoise" else "cellnoise", derivs := some false }
  else if name = "hash" ∨ name = "hashnoise" then
    some { name := if periodic then "phashnoise" else "hashnoise", derivs := some false }
  else if name = "simplex" ∧ periodic = false then some { name := "simplexnoise" }
  else if name = "usimplex" ∧ periodic = false then some { name := "usimplexnoise" }
  else if name = "gabor" then
    some { name := if periodic then "gaborpnoise" else "gabornoise", passAll := true,
           derivs := some true }
  else none

/-- A test of the chain whose type does not pass everything leaves a type that does to the
rest of the chain. -/
theorem ite_some_of_passAll {c : Prop} [Decidable c] {x : NoiseType} {r : Option NoiseType}
    {nt : NoiseType} (h : (if c then some x else r) = some nt) (hp : nt.passAll = true)
    (hx : x.passAll = false) : r = some nt := by
  split at h
  · cases h
    exact absurd hp (hx ▸ Bool.false_ne_true)
  · exact h

/-- Only the type known when the shader runs and `gabor` take the name, the shader globals and
the options. -/
theorem resolveNoise_passAll {periodic : Bool} {name : String} {nt : NoiseType}
    (h : resolveNoise periodic name = some nt) (hp : nt.passAll = true) :
    name = "" ∨ name = "gabor" := by
  by_contra hn
  rw [not_or] at hn
  unfold resolveNoise at h
  rw [if_neg hn.1] at h
  -- the six tests between the first and `gabor` select types that pass nothing
  iterate 6 replace h := ite_some_of_passAll h hp rfl
  rw [if_neg hn.2] at h
  cases h

/-- The function that replaces a noise type under the renderer's `no_noise` option: the
unsigned null noise for the names in its list, the signed one for the others. -/
def nullNoise (name : String) : String :=
  if name ∈ ["uperlin", "noise", "usimplexnoise", "usimplex", "cell", "cellnoise", "hash",
    "hashnoise", "pcellnoise", "pnoise"] then "unullnoise" else "nullnoise"

/-- An argument of the noise call, in the order the generator pushes them. -/
inductive NoiseArg where
  /-- `llvm_load_value(*Name)` -/
  | name (Name : Option Nat)
  /-- `llvm_void_ptr(Result)` -/
  | result (R : Nat)
  /-- `llvm_load_arg(Result, true)`: a temporary with derivatives for a result without them -/
  | tempResult
  /-- `llvm_load_arg(x, derivs)` -/
  | coord (x : Nat) (derivs : Bool)
  /-- `sg_void_ptr()` -/
  | sg
  /-- the options `llvm_gen_noise_options` filled -/
  | options
  deriving DecidableEq, Repr

/-- How the result is stored after the call. -/
inductive NoiseStore where
  /-- a float without derivatives: the return value -/
  | returned
  /-- the temporary's values, component by component -/
  | fromTemp
  /-- the function wrote the result through its pointer -/
  | inPlace
  deriving DecidableEq, Repr

/-- Why `llvm_gen_noise` gives no call. -/
inductive NoiseFailure where
  /-- `"{}noise type \"{}\" is unknown, called from ({}:{})"`, `periodic ` first for a periodic
  op; the generator returns `false` -/
  | unknownType (periodic : Bool) (name : String) (file : String) (line : Nat)
  /-- `OSL_ASSERT(0)` in `arg_typecode` -/
  | assertion
  deriving DecidableEq, Repr

/-- What `llvm_gen_noise` emits: the option sweep, if the options are passed; the function
called and its arguments; the store of the result; whether the result's derivatives are zeroed;
and whether `osl_count_noise` follows (the profile option). -/
structure NoiseGen (α : Type) where
  options : Option (OptionGen NoiseField α)
  funcname : String
  args : List NoiseArg
  store : NoiseStore
  zeroDerivs : Bool
  countNoise : Bool

section Noise

variable {α : Type} [Field α] (tab : Nat → Symbol) (ints : Nat → ℤ)
  (floats : Nat → Nat → α) (strs : Nat → String) (noNoise profile : Bool)

/-- The call from the parsed arguments: `periodic`, the type's symbol and name, the
coordinates, and the sweep of the options (used only when they are passed). -/
def noiseCall (op : Opcode) (args : List Nat) (periodic : Bool) (Name : Option Nat)
    (name : String) (c : NoiseCoords) (opts : OptionGen NoiseField α) :
    Except NoiseFailure (NoiseGen α) :=
  let R := op.argSym args 0
  let outdim := if (tab R).typespec.isTriple then 3 else 1
  let derivs := c.derivs tab && (tab R).hasDerivs
  match resolveNoise periodic name with
  | none => .error (.unknownType periodic name op.sourcefile op.sourceline)
  | some nt =>
    let derivs := nt.derivs.getD derivs
    let name := if noNoise then nullNoise nt.name else nt.name
    let pass := !noNoise && nt.passAll
    let periodic := !noNoise && periodic
    -- the coordinates in the call's order, each with whether it is loaded with derivatives
    let coords := (c.S, derivs) :: c.T.toList.map (·, derivs) ++
      (if periodic then c.Sper.toList.map (·, false) ++ c.Tper.toList.map (·, false) else [])
    match ((R, derivs) :: coords).mapM fun x => argTypecode (tab x.1).typespec x.2 with
    | none => .error .assertion
    | some cs =>
      let result : List NoiseArg :=
        if outdim = 3 || derivs then
          if derivs && !(tab R).hasDerivs then [.tempResult] else [.result R]
        else []
      .ok { options := if pass then some opts else none
            funcname := mangle name cs
            args := (if pass then [.name Name] else []) ++ result ++
              coords.map (fun x => .coord x.1 x.2) ++ (if pass then [.sg, .options] else [])
            store := if outdim = 1 && !derivs then .returned
              else if derivs && !(tab R).hasDerivs then .fromTemp else .inPlace
            zeroDerivs := (tab R).hasDerivs && !derivs
            countNoise := profile }

/-- `llvm_gen_noise`. -/
def llvmGenNoise (op : Opcode) (args : List Nat) : Except NoiseFailure (NoiseGen α) :=
  let periodic := isPeriodicNoise op.opname
  let (Name, name, arg) := noiseTypeArg tab strs op args
  let c := noiseCoords tab op args periodic arg
  noiseCall tab noNoise profile op args periodic Name name c
    (llvmGenNoiseOptions tab ints floats strs op args c.next)

omit [Field α] in
/-- A call that passes no options does not depend on the sweep. -/
theorem noiseCall_opts {op : Opcode} {args : List Nat} {periodic : Bool} {Name : Option Nat}
    {name : String} (c : NoiseCoords) (h : noNoise = true ∨ (name ≠ "" ∧ name ≠ "gabor"))
    (opts₁ opts₂ : OptionGen NoiseField α) :
    noiseCall tab noNoise profile op args periodic Name name c opts₁ =
      noiseCall tab noNoise profile op args periodic Name name c opts₂ := by
  unfold noiseCall
  split
  · rfl
  · rename_i nt hnt
    have hpass : (!noNoise && nt.passAll) = false := by
      rcases h with h | ⟨h₁, h₂⟩
      · simp [h]
      · cases hp : nt.passAll
        · simp
        · exact ((resolveNoise_passAll hnt hp).elim h₁ h₂).elim
    simp only [hpass, Bool.false_eq_true, if_false]

/-- A noise op whose type takes no options (a constant name other than `gabor`, or any under
`no_noise`) reads none of its optional arguments: its call, arguments and diagnostics are those
of the same op cut after its coordinates. An unknown option is not reported, a known one not
set. -/
theorem llvmGenNoise_options_unread (op : Opcode) (args : List Nat)
    (h : noNoise = true ∨ ((noiseTypeArg tab strs op args).2.1 ≠ "" ∧
      (noiseTypeArg tab strs op args).2.1 ≠ "gabor")) :
    llvmGenNoise tab ints floats strs noNoise profile op args =
      llvmGenNoise tab ints floats strs noNoise profile
        { op with nargs := (noiseCoords tab op args (isPeriodicNoise op.opname)
          (noiseTypeArg tab strs op args).2.2).next } args := by
  unfold llvmGenNoise
  set p := isPeriodicNoise op.opname
  set t := noiseTypeArg tab strs op args
  set c := noiseCoords tab op args p t.2.2
  show noiseCall tab noNoise profile op args p t.1 t.2.1 c _ =
    noiseCall tab noNoise profile op args p t.1 t.2.1
      (noiseCoords tab { op with nargs := c.next } args p t.2.2) _
  rw [noiseCoords_truncate]
  exact noiseCall_opts tab noNoise profile c h _ _

end Noise

/-- The symbols of `noise Result Name S Key Value`: a constant string type name, a float `S`,
then the pair `("octaves", 4)`. -/
def noiseTab : Nat → Symbol
  | 1 => { name := "$const1", typespec := { simpletype := TypeDesc.TypeString }, symtype := .const }
  | 3 => { name := "$const2", typespec := { simpletype := TypeDesc.TypeString }, symtype := .const }
  | 4 => { name := "$const3", typespec := { simpletype := TypeDesc.TypeInt }, symtype := .const }
  | _ => { name := "x", typespec := { simpletype := TypeDesc.TypeFloat }, symtype := .local }

/-- The strings of `noiseTab`: the type `perlin` and the option name `octaves`. -/
def noiseStrs : Nat → String
  | 1 => "perlin"
  | _ => "octaves"

/-- `noise("perlin", S, "octaves", 4)` emits what `noise("perlin", S)` does: the unknown option
`octaves` is neither set nor reported. -/
theorem llvmGenNoise_options_unread_perlin :
    let op : Opcode := { opname := "noise", nargs := 5 }
    (false = true ∨ ((noiseTypeArg noiseTab noiseStrs op [0, 1, 2, 3, 4]).2.1 ≠ "" ∧
      (noiseTypeArg noiseTab noiseStrs op [0, 1, 2, 3, 4]).2.1 ≠ "gabor")) ∧
    llvmGenNoise noiseTab (fun _ => 4) (fun _ _ => (0 : ℚ)) noiseStrs false false op [0, 1, 2, 3, 4] =
      llvmGenNoise noiseTab (fun _ => 4) (fun _ _ => (0 : ℚ)) noiseStrs false false
        { op with nargs := (noiseCoords noiseTab op [0, 1, 2, 3, 4] (isPeriodicNoise op.opname)
          (noiseTypeArg noiseTab noiseStrs op [0, 1, 2, 3, 4]).2.2).next } [0, 1, 2, 3, 4] :=
  ⟨Or.inr (by decide), llvmGenNoise_options_unread noiseTab (fun _ => 4) (fun _ _ => (0 : ℚ))
    noiseStrs false false _ _ (Or.inr (by decide))⟩

end OslExec
