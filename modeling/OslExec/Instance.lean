import OslExec.Symbol

/-!
# Shader masters and instances

`ShaderInstance` before and after specialization, and the operations of `instance.cpp` that
build it:

* `ShaderInstance.parameters`: seed the pools from the master's defaults and bind a list of
  named values (`ShaderInstance::parameters`);
* `ShaderInstance.addConnection` (`ShaderInstance::add_connection`);
* `ShaderInstance.copyCodeFromMaster` (`ShaderInstance::copy_code_from_master`), which ends
  with `evaluateWritesGlobalsAndUserdataParams`;
* `ShaderInstance.paramStorage` (`ShaderInstance::param_storage`), the pointer every reader of
  a parameter's value goes through.

`evaluateWritesGlobalsAndUserdataParams_full_scan` shows that the symbol scan's stop at the
first temporary loses nothing on a table whose globals and parameters come first.

An instance is unspecialized while `instsymbols` is empty; its per-parameter state then lives
in `instoverrides`. Debug-only assertions (`OSL_DASSERT`) are not modelled; the release
assertions of `copy_code_from_master` make it return `none`.
-/

namespace OslExec

/-- The hint bits `parameters()` reads for each binding (`ParamHints`). -/
structure ParamHints where
  interpolated : Bool := false
  interactive : Bool := false
  deriving DecidableEq, Repr

/-- One entry of the `ParamValueList` given to `parameters()`: a name and at least one value of
type `type`. -/
structure ParamValue where
  name : String
  type : TypeDesc
  data : List Word
  hdata : type.basevalues ≤ data.length

/-- The diagnostics `parameters()` emits, one constructor per message of the source. -/
inductive ParamDiag where
  /-- warning `"skipping assignment of closure: {}"` -/
  | skipClosure (name : String)
  /-- error `"attempting to set parameter from wrong type would change the value: {} (set {:.9g}
  from {})"` -/
  | lossyConversion (name : String) (conv val : Word)
  /-- error `"attempting to set parameter from incompatible type: {} (expected '{}', received
  '{}')"` -/
  | incompatibleType (name : String) (expected received : TypeDesc)
  /-- warning `"attempting to set parameter with wrong type: {} (expected '{}', received '{}')"` -/
  | wrongType (name : String) (expected received : TypeDesc)
  /-- warning `"attempting to set nonexistent parameter: {}"` -/
  | nonexistent (name : String)
  deriving DecidableEq, Repr

/-- The parts of `ShadingSystemImpl` the instance code consults. Their source is outside the
repository's files, so each is a parameter of the model: the relaxed type-check switch and
its `relaxed_equivalent` test, the `float(int)` and `int(float)` conversions on bit patterns,
the renderer-output designation of the group being compiled (`is_renderer_output(layername,
symname, group)`) and `m_opt_merge_instances_with_userdata`. -/
structure ShadingSystem where
  relaxedParamTypecheck : Bool
  relaxedEquivalent : TypeSpec → TypeDesc → Bool
  intToFloat : Word → Word
  floatToInt : Word → Word
  isRendererOutput : String → String → Bool
  optMergeInstancesWithUserdata : Bool

/-- `n` words of a pool starting at `off` (what `memcmp` and `memcpy` see). -/
def readWords (l : List Word) (off n : Nat) : List Word := (l.drop off).take n

/-- `memcpy` of `w` into a pool at `off`; words past the end of the pool are dropped. -/
def writeWords (l : List Word) (off : Nat) (w : List Word) : List Word :=
  l.mapIdx fun j x => if off ≤ j then w.getD (j - off) x else x

@[simp] theorem length_writeWords (l : List Word) (off : Nat) (w : List Word) :
    (writeWords l off w).length = l.length := by
  simp [writeWords]

theorem getElem?_writeWords (l : List Word) (off : Nat) (w : List Word) (j : Nat) :
    (writeWords l off w)[j]? = l[j]?.map fun x => if off ≤ j then w.getD (j - off) x else x := by
  simp [writeWords, List.getElem?_mapIdx]

/-- Writing a region leaves the words of a disjoint region unchanged. -/
theorem readWords_writeWords_of_disjoint (l : List Word) (off off' n : Nat) (w : List Word)
    (h : off' + n ≤ off ∨ off + w.length ≤ off') :
    readWords (writeWords l off w) off' n = readWords l off' n := by
  apply List.ext_getElem?
  intro t
  simp only [readWords, List.getElem?_take, List.getElem?_drop, getElem?_writeWords]
  split
  · cases l[off' + t]? with
    | none => rfl
    | some x =>
      have : ¬ off ≤ off' + t ∨ w.length ≤ off' + t - off := by omega
      rcases this with h1 | h1
      · simp [h1]
      · simp [List.getD_eq_getElem?_getD, List.getElem?_eq_none h1]
  · rfl

/-- Reading back a region just written inside the pool gives the words written. -/
theorem readWords_writeWords_self (l : List Word) (off : Nat) (w : List Word)
    (h : off + w.length ≤ l.length) :
    readWords (writeWords l off w) off w.length = w := by
  apply List.ext_getElem?
  intro t
  simp only [readWords, List.getElem?_take, List.getElem?_drop, getElem?_writeWords]
  split
  · rename_i ht
    rw [List.getElem?_eq_getElem (by omega)]
    simp [List.getD_eq_getElem?_getD, List.getElem?_eq_getElem ht]
  · exact (List.getElem?_eq_none (by omega)).symm

/-- Appending to a pool leaves the words of a region inside it unchanged. -/
theorem readWords_append_of_le (l r : List Word) (off n : Nat) (h : off + n ≤ l.length) :
    readWords (l ++ r) off n = readWords l off n := by
  simp only [readWords, List.drop_append_of_le_length (by omega : off ≤ l.length)]
  rw [List.take_append_of_le_length (by simp; omega)]

/-- `std::vector::resize(n)` with value-initialised new entries. -/
def resizeList {α : Type} (l : List α) (n : Nat) (d : α) : List α :=
  l.take n ++ List.replicate (n - l.length) d

/-- A shared, immutable shader master: its symbol table, code, default and constant pools,
and the ranges of its parameters and main code. -/
structure ShaderMaster where
  shadername : String
  symbols : List Symbol
  ops : List Opcode := []
  args : List Nat := []
  idefaults : List Word := []
  fdefaults : List Word := []
  sdefaults : List Word := []
  iconsts : List Word := []
  fconsts : List Word := []
  sconsts : List Word := []
  firstparam : Nat
  lastparam : Nat
  maincodebegin : Nat := 0
  maincodeend : Nat := 0
  deriving DecidableEq, Repr

namespace ShaderMaster

/-- `ShaderMaster::symbol(i)`. -/
def symbol (m : ShaderMaster) (i : Nat) : Symbol := m.symbols.getD i default

/-- The master's default pool of a kind. -/
def defaults (m : ShaderMaster) : PoolKind → List Word
  | .int => m.idefaults
  | .float => m.fdefaults
  | .string => m.sdefaults

/-- The first index of a symbol named `name`, `-1` when there is none
(`ShaderMaster::findsymbol`). -/
def findsymbol (m : ShaderMaster) (name : String) : Int :=
  match m.symbols.findIdx? (·.name = name) with
  | some i => i
  | none => -1

/-- `ShaderMaster::param_default_storage(i)`: the words of parameter `i`'s default value, read
from the default pool of its base type at its data offset; empty for other base types. -/
def paramDefaultWords (m : ShaderMaster) (i n : Nat) : List Word :=
  match (m.symbol i).typespec.simpletype.basetype.pool with
  | some k => readWords (m.defaults k) (m.symbol i).dataoffset n
  | none => []

/-- `ShaderInstance::findparam` before an instance has symbols of its own: the first slot of
`[firstparam, lastparam)` whose master symbol has that name. -/
def findparam (m : ShaderMaster) (name : String) : Option Nat :=
  (List.range' m.firstparam (m.lastparam - m.firstparam)).find? fun i => (m.symbol i).name = name

/-- Where parameter `i`'s default value lives: its pool, data offset and word count. -/
def region (m : ShaderMaster) (i : Nat) : Option (PoolKind × Nat × Nat) :=
  (m.symbol i).typespec.simpletype.basetype.pool.map fun k =>
    (k, (m.symbol i).dataoffset, (m.symbol i).typespec.simpletype.basevalues)

/-- What the loader guarantees of a master: its symbol table covers its parameters, and the
parameters' default values lie inside their pools without overlapping. -/
structure WellFormed (m : ShaderMaster) : Prop where
  lastparam_le : m.lastparam ≤ m.symbols.length
  region_le : ∀ i, m.firstparam ≤ i → i < m.lastparam → ∀ k off n,
    m.region i = some (k, off, n) → off + n ≤ (m.defaults k).length
  region_disjoint : ∀ i j, m.firstparam ≤ i → i < m.lastparam → m.firstparam ≤ j →
    j < m.lastparam → i ≠ j → ∀ k oi ni oj nj, m.region i = some (k, oi, ni) →
    m.region j = some (k, oj, nj) → oi + ni ≤ oj ∨ oj + nj ≤ oi

theorem findparam_mem {m : ShaderMaster} {name : String} {k : Nat}
    (h : m.findparam name = some k) : m.firstparam ≤ k ∧ k < m.lastparam := by
  have := List.mem_of_find?_eq_some h
  simp [List.mem_range'] at this
  omega

end ShaderMaster

/-- A pointer into one of an instance's parameter pools. -/
structure ParamPtr where
  pool : PoolKind
  offset : Nat
  deriving DecidableEq, Repr

/-- A `ShaderInstance`: the fields the modelled functions read and write. -/
structure ShaderInstance where
  master : ShaderMaster
  layername : String
  instsymbols : List Symbol := []
  instops : List Opcode := []
  instargs : List Nat := []
  instoverrides : List SymOverrideInfo := []
  iparams : List Word := []
  fparams : List Word := []
  sparams : List Word := []
  connections : List Connection := []
  firstparam : Nat
  lastparam : Nat
  maincodebegin : Nat
  maincodeend : Nat
  Psym : Int
  Nsym : Int
  writesGlobals : Bool := false
  userdataParams : Bool := false
  rendererOutputs : Bool := false
  runLazily : Bool := false
  entryLayer : Bool := false
  deriving DecidableEq, Repr

namespace ShaderInstance

/-- The constructor `ShaderInstance(master, layername)`: nothing is copied from the master but
its parameter and code ranges, and the `P` and `N` symbols are looked up. -/
def create (master : ShaderMaster) (layername : String) : ShaderInstance where
  master := master
  layername := layername
  firstparam := master.firstparam
  lastparam := master.lastparam
  maincodebegin := master.maincodebegin
  maincodeend := master.maincodeend
  Psym := master.findsymbol "P"
  Nsym := master.findsymbol "N"

/-- `ShaderInstance::symbol(i)`: the instance's own copy (meaningful once specialized). -/
def symbol (inst : ShaderInstance) (i : Nat) : Symbol := inst.instsymbols.getD i default

/-- `ShaderInstance::mastersymbol(i)`. -/
def mastersymbol (inst : ShaderInstance) (i : Nat) : Symbol := inst.master.symbol i

/-- The override record of slot `i` (`m_instoverrides[i]`). -/
def override (inst : ShaderInstance) (i : Nat) : SymOverrideInfo :=
  inst.instoverrides.getD i default

/-- Has the instance been specialized (`m_instsymbols.size() != 0`)? -/
def specialized (inst : ShaderInstance) : Bool := !inst.instsymbols.isEmpty

/-- The parameter pool of a kind. -/
def pool (inst : ShaderInstance) : PoolKind → List Word
  | .int => inst.iparams
  | .float => inst.fparams
  | .string => inst.sparams

/-- Replace the parameter pool of a kind. -/
def setPool (inst : ShaderInstance) : PoolKind → List Word → ShaderInstance
  | .int, l => { inst with iparams := l }
  | .float, l => { inst with fparams := l }
  | .string, l => { inst with sparams := l }

/-- `expand(pool, n)`: append `n` value-initialised words. -/
def expand (inst : ShaderInstance) (k : PoolKind) (n : Nat) : ShaderInstance :=
  inst.setPool k (inst.pool k ++ List.replicate n 0)

/-- Replace the override record of slot `i`. -/
def setOverride (inst : ShaderInstance) (i : Nat) (so : SymOverrideInfo) : ShaderInstance :=
  { inst with instoverrides := inst.instoverrides.set i so }

/-- Replace the instance's symbol `i`. -/
def setSymbol (inst : ShaderInstance) (i : Nat) (s : Symbol) : ShaderInstance :=
  { inst with instsymbols := inst.instsymbols.set i s }

/-- `ShaderInstance::findsymbol`: search the instance's symbols, or the master's before they
are copied. -/
def findsymbol (inst : ShaderInstance) (name : String) : Int :=
  match inst.instsymbols.findIdx? (·.name = name) with
  | some i => i
  | none => if inst.instsymbols.isEmpty then inst.master.findsymbol name else -1

/-- `ShaderInstance::findparam(name, search_master)`: the first parameter slot in
`[firstparam, lastparam)` with that name, in the instance's symbols and then in the master's. -/
def findparam (inst : ShaderInstance) (name : String) (searchMaster : Bool := true) :
    Option Nat :=
  let slots := List.range' inst.firstparam (inst.lastparam - inst.firstparam)
  let own := if inst.instsymbols.isEmpty then none
    else slots.find? fun i => (inst.symbol i).name = name
  own.orElse fun _ => if searchMaster then slots.find? fun i => (inst.mastersymbol i).name = name
    else none

theorem findparam_lt {inst : ShaderInstance} {name : String} {b : Bool} {i : Nat}
    (h : inst.findparam name b = some i) : i < inst.lastparam := by
  have hmem : ∀ p, List.find? p (List.range' inst.firstparam (inst.lastparam - inst.firstparam)) =
      some i → i < inst.lastparam := fun p hp => by
    have := List.mem_of_find?_eq_some hp
    simp [List.mem_range'] at this
    omega
  simp only [findparam, Option.orElse] at h
  split at h
  · rename_i x _ hx
    cases h
    split at hx
    · cases hx
    · exact hmem _ hx
  · split at h
    · exact hmem _ h
    · cases h

/-- `ShaderInstance::param_storage(index)`: where parameter `index`'s value lives. The offset
is the override's when the override records an array length (an indefinite-length array
given a concrete length), the symbol's otherwise; the pool is that of the symbol's base
type, and there is none (`NULL`) for other base types. -/
def paramStorage (inst : ShaderInstance) (index : Nat) : Option ParamPtr :=
  let sym := if inst.instsymbols.isEmpty then inst.mastersymbol index else inst.symbol index
  let offset :=
    if !inst.instoverrides.isEmpty && (inst.override index).arraylen ≠ 0 then
      (inst.override index).dataoffset
    else sym.dataoffset
  sym.typespec.simpletype.basetype.pool.map fun k => ⟨k, offset⟩

/-- The `n` words at a parameter pointer (`memcmp`'s view); nothing at `NULL`. -/
def readParam (inst : ShaderInstance) (p : Option ParamPtr) (n : Nat) : List Word :=
  match p with
  | some p => readWords (inst.pool p.pool) p.offset n
  | none => []

/-- The words a symbol's data pointer addresses, `n` of them (`Symbol::data()`). -/
def readData (inst : ShaderInstance) (s : Symbol) (n : Nat) : List Word :=
  match s.typespec.simpletype.basetype.pool, s.dataptr with
  | some k, .masterDefault off => readWords (inst.master.defaults k) off n
  | some .int, .masterConst off => readWords inst.master.iconsts off n
  | some .float, .masterConst off => readWords inst.master.fconsts off n
  | some .string, .masterConst off => readWords inst.master.sconsts off n
  | some k, .instanceParam off => readWords (inst.pool k) off n
  | _, _ => []

/-- `memcpy(p, data, n words)`; a copy to `NULL` is not modelled and changes nothing. -/
def memcpy (inst : ShaderInstance) (p : Option ParamPtr) (data : List Word) (n : Nat) :
    ShaderInstance :=
  match p with
  | some p => inst.setPool p.pool (writeWords (inst.pool p.pool) p.offset (data.take n))
  | none => inst

/-! ### What each primitive changes -/

@[simp] theorem pool_setPool_self (s : ShaderInstance) (k : PoolKind) (l : List Word) :
    (s.setPool k l).pool k = l := by cases k <;> rfl

theorem pool_setPool_of_ne (s : ShaderInstance) {k k' : PoolKind} (l : List Word) (h : k ≠ k') :
    (s.setPool k l).pool k' = s.pool k' := by
  cases k <;> cases k' <;> first | rfl | exact absurd rfl h

@[simp] theorem master_setPool (s : ShaderInstance) (k : PoolKind) (l : List Word) :
    (s.setPool k l).master = s.master := by cases k <;> rfl

@[simp] theorem instsymbols_setPool (s : ShaderInstance) (k : PoolKind) (l : List Word) :
    (s.setPool k l).instsymbols = s.instsymbols := by cases k <;> rfl

@[simp] theorem instoverrides_setPool (s : ShaderInstance) (k : PoolKind) (l : List Word) :
    (s.setPool k l).instoverrides = s.instoverrides := by cases k <;> rfl

@[simp] theorem instops_setPool (s : ShaderInstance) (k : PoolKind) (l : List Word) :
    (s.setPool k l).instops = s.instops := by cases k <;> rfl

@[simp] theorem instargs_setPool (s : ShaderInstance) (k : PoolKind) (l : List Word) :
    (s.setPool k l).instargs = s.instargs := by cases k <;> rfl

@[simp] theorem firstparam_setPool (s : ShaderInstance) (k : PoolKind) (l : List Word) :
    (s.setPool k l).firstparam = s.firstparam := by cases k <;> rfl

@[simp] theorem lastparam_setPool (s : ShaderInstance) (k : PoolKind) (l : List Word) :
    (s.setPool k l).lastparam = s.lastparam := by cases k <;> rfl

@[simp] theorem override_setPool (s : ShaderInstance) (k : PoolKind) (l : List Word) (i : Nat) :
    (s.setPool k l).override i = s.override i := by simp [override]

@[simp] theorem mastersymbol_setPool (s : ShaderInstance) (k : PoolKind) (l : List Word)
    (i : Nat) : (s.setPool k l).mastersymbol i = s.mastersymbol i := by simp [mastersymbol]

@[simp] theorem paramStorage_setPool (s : ShaderInstance) (k : PoolKind) (l : List Word)
    (i : Nat) : (s.setPool k l).paramStorage i = s.paramStorage i := by
  simp [paramStorage, symbol]

@[simp] theorem master_expand (s : ShaderInstance) (k : PoolKind) (n : Nat) :
    (s.expand k n).master = s.master := by simp [expand]

@[simp] theorem instsymbols_expand (s : ShaderInstance) (k : PoolKind) (n : Nat) :
    (s.expand k n).instsymbols = s.instsymbols := by simp [expand]

@[simp] theorem instoverrides_expand (s : ShaderInstance) (k : PoolKind) (n : Nat) :
    (s.expand k n).instoverrides = s.instoverrides := by simp [expand]

@[simp] theorem instops_expand (s : ShaderInstance) (k : PoolKind) (n : Nat) :
    (s.expand k n).instops = s.instops := by simp [expand]

@[simp] theorem instargs_expand (s : ShaderInstance) (k : PoolKind) (n : Nat) :
    (s.expand k n).instargs = s.instargs := by simp [expand]

@[simp] theorem firstparam_expand (s : ShaderInstance) (k : PoolKind) (n : Nat) :
    (s.expand k n).firstparam = s.firstparam := by simp [expand]

@[simp] theorem lastparam_expand (s : ShaderInstance) (k : PoolKind) (n : Nat) :
    (s.expand k n).lastparam = s.lastparam := by simp [expand]

@[simp] theorem override_expand (s : ShaderInstance) (k : PoolKind) (n i : Nat) :
    (s.expand k n).override i = s.override i := by simp [expand]

theorem length_pool_expand (s : ShaderInstance) (k k' : PoolKind) (n : Nat) :
    ((s.expand k n).pool k').length = (s.pool k').length + if k = k' then n else 0 := by
  simp only [expand]
  by_cases hk : k = k'
  · subst hk; simp
  · rw [pool_setPool_of_ne _ _ hk]; simp [hk]

@[simp] theorem master_setOverride (s : ShaderInstance) (i : Nat) (so : SymOverrideInfo) :
    (s.setOverride i so).master = s.master := rfl

@[simp] theorem instsymbols_setOverride (s : ShaderInstance) (i : Nat) (so : SymOverrideInfo) :
    (s.setOverride i so).instsymbols = s.instsymbols := rfl

@[simp] theorem instops_setOverride (s : ShaderInstance) (i : Nat) (so : SymOverrideInfo) :
    (s.setOverride i so).instops = s.instops := rfl

@[simp] theorem instargs_setOverride (s : ShaderInstance) (i : Nat) (so : SymOverrideInfo) :
    (s.setOverride i so).instargs = s.instargs := rfl

@[simp] theorem firstparam_setOverride (s : ShaderInstance) (i : Nat) (so : SymOverrideInfo) :
    (s.setOverride i so).firstparam = s.firstparam := rfl

@[simp] theorem lastparam_setOverride (s : ShaderInstance) (i : Nat) (so : SymOverrideInfo) :
    (s.setOverride i so).lastparam = s.lastparam := rfl

@[simp] theorem length_instoverrides_setOverride (s : ShaderInstance) (i : Nat)
    (so : SymOverrideInfo) :
    (s.setOverride i so).instoverrides.length = s.instoverrides.length := by simp [setOverride]

@[simp] theorem mastersymbol_setOverride (s : ShaderInstance) (i : Nat) (so : SymOverrideInfo)
    (j : Nat) : (s.setOverride i so).mastersymbol j = s.mastersymbol j := rfl

@[simp] theorem pool_setOverride (s : ShaderInstance) (i : Nat) (so : SymOverrideInfo)
    (k : PoolKind) : (s.setOverride i so).pool k = s.pool k := by cases k <;> rfl

theorem override_setOverride (s : ShaderInstance) (i : Nat) (so : SymOverrideInfo) (j : Nat)
    (hi : i < s.instoverrides.length) :
    (s.setOverride i so).override j = if i = j then so else s.override j := by
  simp only [override, setOverride, List.getD_eq_getElem?_getD, List.getElem?_set]
  split <;> simp_all

theorem override_setOverride_of_ne (s : ShaderInstance) {i j : Nat} (so : SymOverrideInfo)
    (h : i ≠ j) : (s.setOverride i so).override j = s.override j := by
  simp [override, setOverride, List.getD_eq_getElem?_getD, List.getElem?_set_ne h]

theorem override_setOverride_self (s : ShaderInstance) {i : Nat} (so : SymOverrideInfo)
    (hi : i < s.instoverrides.length) : (s.setOverride i so).override i = so := by
  simp [override_setOverride _ _ _ _ hi]

@[simp] theorem readParam_setOverride (s : ShaderInstance) (i : Nat) (so : SymOverrideInfo)
    (p : Option ParamPtr) (n : Nat) : (s.setOverride i so).readParam p n = s.readParam p n := by
  cases p <;> simp [readParam]

@[simp] theorem master_memcpy (s : ShaderInstance) (p : Option ParamPtr) (data : List Word)
    (n : Nat) : (s.memcpy p data n).master = s.master := by cases p <;> simp [memcpy]

@[simp] theorem instsymbols_memcpy (s : ShaderInstance) (p : Option ParamPtr) (data : List Word)
    (n : Nat) : (s.memcpy p data n).instsymbols = s.instsymbols := by cases p <;> simp [memcpy]

@[simp] theorem instoverrides_memcpy (s : ShaderInstance) (p : Option ParamPtr)
    (data : List Word) (n : Nat) : (s.memcpy p data n).instoverrides = s.instoverrides := by
  cases p <;> simp [memcpy]

@[simp] theorem instops_memcpy (s : ShaderInstance) (p : Option ParamPtr) (data : List Word)
    (n : Nat) : (s.memcpy p data n).instops = s.instops := by cases p <;> simp [memcpy]

@[simp] theorem instargs_memcpy (s : ShaderInstance) (p : Option ParamPtr) (data : List Word)
    (n : Nat) : (s.memcpy p data n).instargs = s.instargs := by cases p <;> simp [memcpy]

@[simp] theorem firstparam_memcpy (s : ShaderInstance) (p : Option ParamPtr) (data : List Word)
    (n : Nat) : (s.memcpy p data n).firstparam = s.firstparam := by cases p <;> simp [memcpy]

@[simp] theorem lastparam_memcpy (s : ShaderInstance) (p : Option ParamPtr) (data : List Word)
    (n : Nat) : (s.memcpy p data n).lastparam = s.lastparam := by cases p <;> simp [memcpy]

@[simp] theorem override_memcpy (s : ShaderInstance) (p : Option ParamPtr) (data : List Word)
    (n i : Nat) : (s.memcpy p data n).override i = s.override i := by cases p <;> simp [memcpy]

@[simp] theorem mastersymbol_memcpy (s : ShaderInstance) (p : Option ParamPtr)
    (data : List Word) (n i : Nat) : (s.memcpy p data n).mastersymbol i = s.mastersymbol i := by
  cases p <;> simp [memcpy]

@[simp] theorem paramStorage_memcpy (s : ShaderInstance) (p : Option ParamPtr)
    (data : List Word) (n i : Nat) : (s.memcpy p data n).paramStorage i = s.paramStorage i := by
  cases p <;> simp [memcpy]

theorem length_pool_memcpy (s : ShaderInstance) (p : Option ParamPtr) (data : List Word)
    (n : Nat) (k : PoolKind) : ((s.memcpy p data n).pool k).length = (s.pool k).length := by
  cases p with
  | none => rfl
  | some p =>
    simp only [memcpy]
    by_cases hk : p.pool = k
    · subst hk; simp
    · rw [pool_setPool_of_ne _ _ hk]

@[simp] theorem master_setSymbol (s : ShaderInstance) (i : Nat) (sym : Symbol) :
    (s.setSymbol i sym).master = s.master := rfl

@[simp] theorem layername_setSymbol (s : ShaderInstance) (i : Nat) (sym : Symbol) :
    (s.setSymbol i sym).layername = s.layername := rfl

@[simp] theorem instoverrides_setSymbol (s : ShaderInstance) (i : Nat) (sym : Symbol) :
    (s.setSymbol i sym).instoverrides = s.instoverrides := rfl

@[simp] theorem override_setSymbol (s : ShaderInstance) (i : Nat) (sym : Symbol) (j : Nat) :
    (s.setSymbol i sym).override j = s.override j := rfl

@[simp] theorem pool_setSymbol (s : ShaderInstance) (i : Nat) (sym : Symbol) (k : PoolKind) :
    (s.setSymbol i sym).pool k = s.pool k := by cases k <;> rfl

@[simp] theorem length_instsymbols_setSymbol (s : ShaderInstance) (i : Nat) (sym : Symbol) :
    (s.setSymbol i sym).instsymbols.length = s.instsymbols.length := by simp [setSymbol]

theorem symbol_setSymbol (s : ShaderInstance) {i : Nat} (sym : Symbol) (j : Nat)
    (hi : i < s.instsymbols.length) :
    (s.setSymbol i sym).symbol j = if i = j then sym else s.symbol j := by
  simp only [symbol, setSymbol, List.getD_eq_getElem?_getD, List.getElem?_set]
  split <;> simp_all

theorem symbol_setSymbol_self (s : ShaderInstance) {i : Nat} (sym : Symbol)
    (hi : i < s.instsymbols.length) : (s.setSymbol i sym).symbol i = sym := by
  simp [symbol_setSymbol _ _ _ hi]

/-- A copy leaves every region of the pools that it does not overlap as it was. -/
theorem readParam_memcpy_of_disjoint (s : ShaderInstance) (p q : ParamPtr) (data : List Word)
    (n len : Nat) (h : p.pool ≠ q.pool ∨ q.offset + len ≤ p.offset ∨ p.offset + n ≤ q.offset) :
    (s.memcpy (some p) data n).readParam (some q) len = s.readParam (some q) len := by
  simp only [memcpy, readParam]
  by_cases hpq : p.pool = q.pool
  · rw [← hpq, pool_setPool_self, readWords_writeWords_of_disjoint]
    simp only [List.length_take]
    rcases h with h | h
    · exact absurd hpq h
    · omega
  · rw [pool_setPool_of_ne _ _ hpq]

/-- A copy of `n` words inside its pool reads back as those words. -/
theorem readParam_memcpy_self (s : ShaderInstance) (p : ParamPtr) (data : List Word) (n : Nat)
    (hn : n ≤ data.length) (h : p.offset + n ≤ (s.pool p.pool).length) :
    (s.memcpy (some p) data n).readParam (some p) n = data.take n := by
  simp only [memcpy, readParam, pool_setPool_self]
  have := readWords_writeWords_self (s.pool p.pool) p.offset (data.take n) (by simp; omega)
  simpa [Nat.min_eq_left hn] using this

/-- Growing a pool leaves every region inside it as it was. -/
theorem readParam_expand_of_le (s : ShaderInstance) (k : PoolKind) (n : Nat) (q : ParamPtr)
    (len : Nat) (h : q.offset + len ≤ (s.pool q.pool).length) :
    (s.expand k n).readParam (some q) len = s.readParam (some q) len := by
  simp only [expand, readParam]
  by_cases hk : k = q.pool
  · subst hk; rw [pool_setPool_self, readWords_append_of_le _ _ _ _ h]
  · rw [pool_setPool_of_ne _ _ hk]

/-- Before specialization `param_storage` reads the master's symbol, and the override's offset
exactly when the override records an array length. -/
theorem paramStorage_of_unspecialized {s : ShaderInstance} (h : s.instsymbols = []) (i : Nat) :
    s.paramStorage i = (s.mastersymbol i).typespec.simpletype.basetype.pool.map fun k =>
      ⟨k, if (s.override i).arraylen ≠ 0 then (s.override i).dataoffset
        else (s.mastersymbol i).dataoffset⟩ := by
  simp only [paramStorage, h, List.isEmpty_nil, if_true]
  congr 1
  funext k
  by_cases hz : (s.override i).arraylen = 0
  · simp [hz]
  · have : s.instoverrides ≠ [] := by
      intro he; simp [override, he] at hz; exact hz rfl
    simp [hz, List.isEmpty_iff, this]

/-- Before specialization a slot's storage depends only on its override and the master. -/
theorem paramStorage_congr {s t : ShaderInstance} {i : Nat} (hs : s.instsymbols = [])
    (ht : t.instsymbols = []) (hm : s.master = t.master) (ho : s.override i = t.override i) :
    s.paramStorage i = t.paramStorage i := by
  rw [paramStorage_of_unspecialized hs, paramStorage_of_unspecialized ht, ho]
  simp [mastersymbol, hm]

theorem isSome_paramStorage {s : ShaderInstance} (hs : s.instsymbols = []) (i : Nat) :
    (s.paramStorage i).isSome = (s.mastersymbol i).typespec.simpletype.basetype.pool.isSome := by
  rw [paramStorage_of_unspecialized hs]
  cases (s.mastersymbol i).typespec.simpletype.basetype.pool <;> rfl

/-! ### `parameters()` -/

/-- The outcome of the type check of one binding. -/
inductive TypeCheck where
  | rejected (diags : List ParamDiag)
  | accepted (data : List Word) (valuetype : TypeDesc) (diags : List ParamDiag)

/-- The type check of `parameters()` for a value of type `valuetype` given to the master's
parameter `sm`. In relaxed mode a single `int` given to a float or a triple is first converted
to a float (with an error if the conversion changes it), then `relaxed_equivalent` decides;
otherwise `compatible_param` does. -/
def typecheckParam (ss : ShadingSystem) (sm : Symbol) (data : List Word)
    (valuetype : TypeDesc) : TypeCheck :=
  let paramtype := sm.typespec.simpletype
  if ss.relaxedParamTypecheck then
    let convert := (paramtype == TypeDesc.TypeFloat || paramtype.isVec3) &&
      valuetype.basetype == .int && valuetype.basevalues == 1
    let val := data.headD 0
    let conv := ss.intToFloat val
    let data := if convert then [conv] else data
    let diags := if convert && ss.floatToInt conv ≠ val then [.lossyConversion sm.name conv val]
      else []
    let valuetype := if convert then TypeDesc.TypeFloat else valuetype
    if !ss.relaxedEquivalent sm.typespec valuetype then
      .rejected (diags ++ [.incompatibleType sm.name paramtype valuetype])
    else .accepted data valuetype diags
  else if !compatibleParam paramtype valuetype then
    .rejected [.wrongType sm.name paramtype valuetype]
  else .accepted data valuetype []

theorem typecheckParam_of_strict {ss : ShadingSystem} (hstrict : ss.relaxedParamTypecheck = false)
    (sm : Symbol) (data : List Word) (vt : TypeDesc) :
    typecheckParam ss sm data vt = if compatibleParam sm.typespec.simpletype vt then
      .accepted data vt [] else .rejected [.wrongType sm.name sm.typespec.simpletype vt] := by
  simp only [typecheckParam, hstrict]
  cases compatibleParam sm.typespec.simpletype vt <;> rfl

/-- The override of a slot once a binding is accepted: instance-valued, the master's
interpolated flag or the hint's, the hint's interactive flag, and the master's data offset. -/
def hintedOverride (so : SymOverrideInfo) (sm : Symbol) (hint : ParamHints) : SymOverrideInfo :=
  { so with valuesource := .instanceVal, interpolated := sm.interpolated || hint.interpolated,
            interactive := hint.interactive, dataoffset := sm.dataoffset }

@[simp] theorem lockgeom_hintedOverride (so : SymOverrideInfo) (sm : Symbol) (h : ParamHints) :
    (hintedOverride so sm h).lockgeom = (!(sm.interpolated || h.interpolated) && !h.interactive) :=
  rfl

/-- A single float given to a non-array triple is replicated into three (`tmpdata`), and the
value then has the parameter's type. -/
def broadcastValue (paramtype : TypeDesc) (data : List Word) (valuetype : TypeDesc) :
    List Word × TypeDesc :=
  if paramtype.isVec3 && valuetype == TypeDesc.TypeFloat then
    (List.replicate 3 (data.headD 0), paramtype)
  else (data, valuetype)

theorem broadcastValue_self (t : TypeDesc) (data : List Word) :
    broadcastValue t data t = (data, t) := by
  unfold broadcastValue
  split
  · rename_i h
    simp only [Bool.and_eq_true, beq_iff_eq] at h
    exact absurd (h.2 ▸ h.1) (by decide)
  · rfl

/-- An indefinite-length array given `n` words: the override records `n / aggregate` as its
length and fresh storage at the end of the pool of its base type, which grows by `n`. -/
def allocUnsized (inst : ShaderInstance) (so : SymOverrideInfo) (paramtype : TypeDesc)
    (n : Nat) : ShaderInstance × SymOverrideInfo :=
  let so := { so with arraylen := ↑(n / paramtype.aggregate.toNat) }
  match paramtype.basetype.pool with
  | some k => (inst.expand k n, { so with dataoffset := (inst.pool k).length })
  | none => (inst, so)

theorem allocUnsized_of_pool {t : TypeDesc} {k : PoolKind} (h : t.basetype.pool = some k)
    (s : ShaderInstance) (so : SymOverrideInfo) (n : Nat) :
    allocUnsized s so t n = (s.expand k n,
      { so with arraylen := ↑(n / t.aggregate.toNat), dataoffset := (s.pool k).length }) := by
  simp [allocUnsized, h]

theorem allocUnsized_of_no_pool {t : TypeDesc} (h : t.basetype.pool = none)
    (s : ShaderInstance) (so : SymOverrideInfo) (n : Nat) :
    allocUnsized s so t n = (s, { so with arraylen := ↑(n / t.aggregate.toNat) }) := by
  simp [allocUnsized, h]

/-- The accepted branch of one binding of `parameters()`: mark slot `i` instance-valued and
pass on the hints; replicate a float given to a triple; give an indefinite-length array fresh
storage; otherwise revert the value source to default when the parameter is lockgeom, has no
init ops and the value equals the master's default; then copy the value to
`param_storage(i)`. -/
def storeParam (inst : ShaderInstance) (i : Nat) (sm : Symbol) (hint : ParamHints)
    (data : List Word) (valuetype : TypeDesc) : ShaderInstance :=
  let paramtype := sm.typespec.simpletype
  let so := hintedOverride (inst.override i) sm hint
  let value := broadcastValue paramtype data valuetype
  let n := value.2.basevalues
  let r :=
    if paramtype.arraylen < 0 then allocUnsized inst so paramtype n
    else if so.lockgeom && !sm.hasInitOps &&
        inst.master.paramDefaultWords i n == value.1.take n then
      (inst, { so with valuesource := .defaultVal })
    else (inst, so)
  let inst := r.1.setOverride i r.2
  inst.memcpy (inst.paramStorage i) value.1 n

theorem storeParam_of_sized {s : ShaderInstance} {i : Nat} {sm : Symbol} {h : ParamHints}
    {data : List Word} {vt : TypeDesc} (ht : ¬ sm.typespec.simpletype.arraylen < 0) :
    storeParam s i sm h data vt =
      let v := broadcastValue sm.typespec.simpletype data vt
      let so := hintedOverride (s.override i) sm h
      let s' := s.setOverride i (if so.lockgeom && !sm.hasInitOps &&
          s.master.paramDefaultWords i v.2.basevalues == v.1.take v.2.basevalues then
        { so with valuesource := .defaultVal } else so)
      s'.memcpy (s'.paramStorage i) v.1 v.2.basevalues := by
  simp only [storeParam, if_neg ht]
  split <;> rfl

theorem storeParam_of_unsized {s : ShaderInstance} {i : Nat} {sm : Symbol} {h : ParamHints}
    {data : List Word} {vt : TypeDesc} (ht : sm.typespec.simpletype.arraylen < 0) :
    storeParam s i sm h data vt =
      let v := broadcastValue sm.typespec.simpletype data vt
      let r := allocUnsized s (hintedOverride (s.override i) sm h) sm.typespec.simpletype
        v.2.basevalues
      let s' := r.1.setOverride i r.2
      s'.memcpy (s'.paramStorage i) v.1 v.2.basevalues := by
  simp only [storeParam, if_pos ht]

/-- One iteration of the binding loop of `parameters()`. -/
def bindParam (ss : ShadingSystem) (inst : ShaderInstance) (p : ParamValue) (hint : ParamHints) :
    ShaderInstance × List ParamDiag :=
  if p.name.isEmpty then (inst, []) else
  match inst.findparam p.name with
  | none => (inst, [.nonexistent p.name])
  | some i =>
    let sm := inst.mastersymbol i
    if sm.typespec.isClosureBased then (inst, [.skipClosure sm.name])
    else if sm.typespec.isStructure then (inst, [])
    else match typecheckParam ss sm p.data p.type with
      | .rejected d => (inst, d)
      | .accepted data valuetype d => (storeParam inst i sm hint data valuetype, d)

/-- The start of `parameters()`: the pools become copies of the master's defaults, the override
vector is resized to `lastparam` and every slot takes the master's interpolated and interactive
flags and data offset. -/
def seedParams (inst : ShaderInstance) : ShaderInstance :=
  { inst with
    iparams := inst.master.idefaults
    fparams := inst.master.fdefaults
    sparams := inst.master.sdefaults
    instoverrides := (resizeList inst.instoverrides inst.lastparam default).mapIdx fun i so =>
      { so with interpolated := (inst.master.symbol i).interpolated,
                interactive := (inst.master.symbol i).interactive,
                dataoffset := (inst.master.symbol i).dataoffset } }

/-- `ShaderInstance::parameters(params, hints)`, each value paired with its hints: the instance
after binding every value in order, and the diagnostics emitted. -/
def parameters (ss : ShadingSystem) (inst : ShaderInstance)
    (params : List (ParamValue × ParamHints)) : ShaderInstance × List ParamDiag :=
  params.foldl (fun acc ph =>
      let r := bindParam ss acc.1 ph.1 ph.2
      (r.1, acc.2 ++ r.2))
    (inst.seedParams, [])

/-! ### `add_connection()` -/

/-- `ShaderInstance::add_connection`: a destination of unsized-array type takes the source's
array length and fresh storage of the source type's `size()` at the end of its pool, and the
connection is appended. -/
def addConnection (inst : ShaderInstance) (srclayer : Int) (srccon dstcon : ConnectedParam) :
    ShaderInstance :=
  let inst :=
    if dstcon.type.isUnsizedArray then
      let i := dstcon.param.toNat
      let so := { inst.override i with arraylen := srccon.type.arraylength }
      let type := srccon.type.simpletype
      match type.basetype.pool with
      | some k =>
        (inst.expand k type.size).setOverride i { so with dataoffset := (inst.pool k).length }
      | none => inst.setOverride i so
    else inst
  { inst with connections := inst.connections ++ [⟨srclayer, srccon, dstcon⟩] }

/-! ### `copy_code_from_master()` -/

/-- The scan of `evaluate_writes_globals_and_userdata_params` over the symbol table: a global
ever written sets `writes_globals`, a parameter that is neither lockgeom nor connected sets
`userdata_params`, and the scan stops at the first temporary. -/
def scanSymbols : List Symbol → Bool → Bool → Bool × Bool
  | [], wg, ud => (wg, ud)
  | s :: ss, wg, ud =>
    let wg := wg || (s.symtype = .global && s.everwritten)
    let ud := ud || ((s.symtype = .param || s.symtype = .outputParam) && !s.lockgeom &&
      !s.connected)
    if s.symtype = .temp then (wg, ud) else scanSymbols ss wg ud

/-- `ShaderInstance::evaluate_writes_globals_and_userdata_params`: the symbol scan, then any
interpolated override also sets `userdata_params`. -/
def evaluateWritesGlobalsAndUserdataParams (inst : ShaderInstance) : ShaderInstance :=
  let r := scanSymbols inst.instsymbols false false
  { inst with writesGlobals := r.1,
              userdataParams := r.2 || inst.instoverrides.any (·.interpolated) }

/-- Over a table whose globals and parameters all come before its first temporary, the scan
that stops at that temporary computes both flags over the whole table. -/
theorem scanSymbols_eq_any {l : List Symbol}
    (hord : l.Pairwise fun s t => s.symtype = .temp →
      t.symtype ≠ .global ∧ t.symtype ≠ .param ∧ t.symtype ≠ .outputParam) (wg ud : Bool) :
    scanSymbols l wg ud = (wg || l.any (fun s => s.symtype = .global && s.everwritten),
      ud || l.any (fun s => (s.symtype = .param || s.symtype = .outputParam) && !s.lockgeom &&
        !s.connected)) := by
  induction l generalizing wg ud with
  | nil => simp [scanSymbols]
  | cons s ss ih =>
    obtain ⟨hs, hss⟩ := List.pairwise_cons.mp hord
    by_cases ht : s.symtype = .temp
    · -- nothing after the first temporary is a global or a parameter
      have hrest := fun t (h : t ∈ ss) => hs t h ht
      simp only [scanSymbols, ht, if_true, List.any_cons]
      rw [List.any_eq_false.mpr fun t h => by simp [(hrest t h).1],
        List.any_eq_false.mpr fun t h => by simp [(hrest t h).2.1, (hrest t h).2.2]]
      simp
    · simp only [scanSymbols, ht, if_false, ih hss, List.any_cons, Bool.or_assoc]

/-- The early exit of `evaluate_writes_globals_and_userdata_params` loses nothing when no
global or parameter follows a temporary: `writes_globals` is whether some global is ever
written, and `userdata_params` whether some parameter is neither lockgeom nor connected or some
override is interpolated, over the whole table. -/
theorem evaluateWritesGlobalsAndUserdataParams_full_scan (inst : ShaderInstance)
    (hord : inst.instsymbols.Pairwise fun s t => s.symtype = .temp →
      t.symtype ≠ .global ∧ t.symtype ≠ .param ∧ t.symtype ≠ .outputParam) :
    inst.evaluateWritesGlobalsAndUserdataParams.writesGlobals =
        inst.instsymbols.any (fun s => s.symtype = .global && s.everwritten) ∧
      inst.evaluateWritesGlobalsAndUserdataParams.userdataParams =
        (inst.instsymbols.any (fun s => (s.symtype = .param || s.symtype = .outputParam) &&
          !s.lockgeom && !s.connected) || inst.instoverrides.any (·.interpolated)) := by
  simp only [evaluateWritesGlobalsAndUserdataParams, scanSymbols_eq_any hord, Bool.false_or,
    and_self]

/-- A specialized layer whose table is a written global, an interpolated parameter and a
temporary, in that order. -/
def globalsFirstLayer : ShaderInstance :=
  { create { shadername := "s", symbols := [], firstparam := 1, lastparam := 2 } "l" with
    instsymbols := [
      { name := "P", typespec := { simpletype := TypeDesc.TypeFloat }, symtype := .global,
        everwritten := true },
      { name := "Kd", typespec := { simpletype := TypeDesc.TypeFloat }, symtype := .param,
        interpolated := true },
      { name := "t", typespec := { simpletype := TypeDesc.TypeFloat }, symtype := .temp }] }

theorem evaluateWritesGlobalsAndUserdataParams_globalsFirst :
    globalsFirstLayer.instsymbols.Pairwise (fun s t => s.symtype = .temp →
      t.symtype ≠ .global ∧ t.symtype ≠ .param ∧ t.symtype ≠ .outputParam) ∧
    globalsFirstLayer.evaluateWritesGlobalsAndUserdataParams.writesGlobals =
        globalsFirstLayer.instsymbols.any (fun s => s.symtype = .global && s.everwritten) ∧
      globalsFirstLayer.evaluateWritesGlobalsAndUserdataParams.userdataParams =
        (globalsFirstLayer.instsymbols.any (fun s => (s.symtype = .param ||
          s.symtype = .outputParam) && !s.lockgeom && !s.connected) ||
          globalsFirstLayer.instoverrides.any (·.interpolated)) :=
  have hord : globalsFirstLayer.instsymbols.Pairwise (fun s t => s.symtype = .temp →
      t.symtype ≠ .global ∧ t.symtype ≠ .param ∧ t.symtype ≠ .outputParam) := by decide
  ⟨hord, evaluateWritesGlobalsAndUserdataParams_full_scan globalsFirstLayer hord⟩

/-- One slot of the override loop of `copy_code_from_master`, before the renderer-output test.
A default-valued slot only fixes an indefinite array's length to its initializer count; any
other slot takes the override's array length (when set), value source, connection, hint flags
and data offset, and its data pointer becomes `param_storage(i)`. -/
def applyOverride (inst : ShaderInstance) (i : Nat) : ShaderInstance :=
  let so := inst.override i
  let si := inst.symbol i
  if so.valuesource = .defaultVal then
    inst.setSymbol i (if si.typespec.isUnsizedArray then si.setArraylen si.initializers else si)
  else
    let si := if so.arraylen ≠ 0 then si.setArraylen so.arraylen else si
    let inst := inst.setSymbol i { si with
      valuesource := so.valuesource, connectedDown := so.connectedDown,
      interpolated := so.interpolated, interactive := so.interactive,
      dataoffset := so.dataoffset }
    let ptr : DataPtr := match inst.paramStorage i with
      | some p => .instanceParam p.offset
      | none => .null
    inst.setSymbol i { inst.symbol i with dataptr := ptr }

/-- The end of the loop body: a slot the group designates as a renderer output is flagged, and
so is the instance. -/
def markRendererOutput (ss : ShadingSystem) (inst : ShaderInstance) (i : Nat) : ShaderInstance :=
  if ss.isRendererOutput inst.layername (inst.symbol i).name then
    { inst.setSymbol i { inst.symbol i with rendererOutput := true } with rendererOutputs := true }
  else inst

/-- One slot of the override loop of `copy_code_from_master`. -/
def specializeParam (ss : ShadingSystem) (inst : ShaderInstance) (i : Nat) : ShaderInstance :=
  markRendererOutput ss (applyOverride inst i) i

/-- `ShaderInstance::copy_code_from_master`: copy the master's code and symbols, apply every
parameter slot's override, recompute the global and userdata flags and drop the overrides.
`none` when one of its `OSL_ASSERT`s fails (already specialized, or an override vector that
does not have `lastparam` entries, or a master with fewer symbols). -/
def copyCodeFromMaster (ss : ShadingSystem) (inst : ShaderInstance) : Option ShaderInstance :=
  if !inst.instops.isEmpty || !inst.instargs.isEmpty || !inst.instsymbols.isEmpty ||
      inst.instoverrides.length ≠ inst.lastparam ||
      inst.master.symbols.length < inst.lastparam then none
  else
    let inst := { inst with instops := inst.master.ops, instargs := inst.master.args,
                            instsymbols := inst.master.symbols }
    let inst := if inst.instoverrides.isEmpty then inst
      else (List.range inst.lastparam).foldl (specializeParam ss) inst
    some { inst.evaluateWritesGlobalsAndUserdataParams with instoverrides := [] }

end ShaderInstance

end OslExec
