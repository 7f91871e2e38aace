import OslExec.Specialize
import Mathlib.Tactic.Ring

/-!
# Memory statistics over an instance's life

The instance code keeps the shading system's memory counters in step with the vectors it
allocates. The constructor and `parameters()` add the bytes of the vectors they fill;
`add_connection`, `make_symbol_room` and `copy_code_from_master` add what they change; the
destructor subtracts what the instance still holds. The bytes of a vector are `vectorbytes`, its
capacity times the size of an element, so the model follows each vector's capacity, set by an
arbitrary vector implementation (`VecPolicy`).

Between construction and destruction the counters keep their books (`Books`): one instance
more than at the start, the connection counter holding the connection vector's bytes, and the
instance and total counters moving with the three detail counters. Every call keeps them, so
the instance and connection counters come back to their start. The symbol and parameter
counters need not: each call's excess over the bytes it changes is known
(`excess_lifeParameters`, `symsExcess_lifeMakeSymbolRoom`, `symsExcess_lifeCopyCode`), and
`copy_code_from_master` adds the bytes of the symbol table it copies as if the table had held
none before, while room `make_symbol_room` reserved earlier was already counted.

## Key results

- `books_lifeStep`, `books_calls`: every call keeps the books
- `lifecycle_books`: over every lifecycle the instance and connection counters are conserved,
  and the instance and total counters move as the symbol and parameter counters do together
- `symsExcess_lifeCopyCode`: `copy_code_from_master` counts the symbol table's earlier capacity
  again
- `lifecycle_symbol_room_before_copy`: `make_symbol_room(1)` before `copy_code_from_master`
  leaves `11 * sizeof(Symbol)` bytes in the symbol, instance and total memory counters, whatever
  the vector implementation
-/

namespace OslExec

/-- Modelled from the spec: the sizes `sizeof` gives the elements of the instance's vectors and
the instance itself; a size is at least one byte. -/
structure Sizes where
  int : Nat
  float : Nat
  string : Nat
  symbol : Nat
  override : Nat
  connection : Nat
  shaderInstance : Nat
  symbol_pos : 0 < symbol

/-- Modelled from the spec: the capacities a `std::vector` implementation chooses when a
vector of capacity `c` grows past it to `n` elements, is copy-assigned `n` elements, or is asked
to `reserve(n)`. The results below hold for any choice. -/
structure VecPolicy where
  grow : Nat → Nat → Nat
  assign : Nat → Nat → Nat
  reserve : Nat → Nat → Nat

/-- The capacity after a resize to `n` elements: unchanged while they fit. -/
def VecPolicy.resize (p : VecPolicy) (c n : Nat) : Nat := if n ≤ c then c else p.grow c n

/-- The capacities of an instance's vectors. -/
structure Caps where
  iparams : Nat := 0
  fparams : Nat := 0
  sparams : Nat := 0
  overrides : Nat := 0
  symbols : Nat := 0
  connections : Nat := 0
  deriving DecidableEq, Repr

/-- The shading system's counters the instance code adjusts. -/
structure Stats where
  instances : Int
  paramvals : Int
  syms : Int
  connections : Int
  inst : Int
  memory : Int
  deriving DecidableEq, Repr

/-- One instance's life: the model of the instance, its vectors' capacities and the counters. -/
structure Life where
  inst : ShaderInstance
  caps : Caps
  stats : Stats

/-- A call between `parameters()` and `copy_code_from_master`. -/
inductive LifeCall where
  | addConnection (srclayer : Int) (src dst : ConnectedParam)
  | makeSymbolRoom (moresyms : Nat)

section Lifecycle

variable (sz : Sizes) (p : VecPolicy)

/-- `vectorbytes` of the three parameter pools. -/
def paramBytes (c : Caps) : Int := c.iparams * sz.int + c.fparams * sz.float + c.sparams * sz.string

/-- `vectorbytes` of the symbol table and of the overrides. -/
def symBytes (c : Caps) : Int := c.symbols * sz.symbol + c.overrides * sz.override

/-- `vectorbytes` of the connections. -/
def connBytes (c : Caps) : Int := c.connections * sz.connection

/-- The pools' capacities once the pools have the lengths `inst` gives them (`expand`). -/
def growPools (c : Caps) (inst : ShaderInstance) : Caps :=
  { c with iparams := p.resize c.iparams inst.iparams.length,
           fparams := p.resize c.fparams inst.fparams.length,
           sparams := p.resize c.sparams inst.sparams.length }

/-- One binding of `parameters()`, with the pools' capacities following their lengths. -/
def bindGrow (ss : ShadingSystem) (acc : ShaderInstance × Caps) (ph : ParamValue × ParamHints) :
    ShaderInstance × Caps :=
  let inst := (ShaderInstance.bindParam ss acc.1 ph.1 ph.2).1
  (inst, growPools p acc.2 inst)

/-- `ShaderInstance(master, layername)`: one more instance, and the bytes of its (empty) pools
and of the instance itself. -/
def construct (m : ShaderMaster) (name : String) (st : Stats) : Life :=
  let parammem := paramBytes sz {}
  let totalmem := parammem + sz.shaderInstance
  { inst := ShaderInstance.create m name, caps := {},
    stats := { st with instances := st.instances + 1, paramvals := st.paramvals + parammem,
                       inst := st.inst + totalmem, memory := st.memory + totalmem } }

/-- `parameters()`: the pools are copy-assigned the master's defaults and the overrides resized
to `lastparam`, the binding loop grows the pools, and at the end the bytes of the overrides and
of the pools are added. -/
def lifeParameters (ss : ShadingSystem) (l : Life) (P : List (ParamValue × ParamHints)) : Life :=
  let seeded := l.inst.seedParams
  let caps := { l.caps with
    iparams := p.assign l.caps.iparams seeded.iparams.length,
    fparams := p.assign l.caps.fparams seeded.fparams.length,
    sparams := p.assign l.caps.sparams seeded.sparams.length,
    overrides := p.resize l.caps.overrides seeded.instoverrides.length }
  let r := P.foldl (bindGrow p ss) (seeded, caps)
  let symmem : Int := r.2.overrides * sz.override
  let parammem := paramBytes sz r.2
  { inst := r.1, caps := r.2,
    stats := { l.stats with syms := l.stats.syms + symmem,
                            paramvals := l.stats.paramvals + parammem,
                            inst := l.stats.inst + (symmem + parammem),
                            memory := l.stats.memory + (symmem + parammem) } }

/-- `add_connection`: an indefinite-length destination grows a pool, which no counter sees;
the connection vector's growth is added to the connection, instance and total counters. -/
def lifeAddConnection (l : Life) (srclayer : Int) (src dst : ConnectedParam) : Life :=
  let inst := l.inst.addConnection srclayer src dst
  let caps := growPools p l.caps inst
  let conncap := p.resize caps.connections inst.connections.length
  let mem : Int := conncap * sz.connection - connBytes sz caps
  { inst, caps := { caps with connections := conncap },
    stats := { l.stats with connections := l.stats.connections + mem,
                            inst := l.stats.inst + mem, memory := l.stats.memory + mem } }

/-- `make_symbol_room(moresyms)`: when the symbol table's capacity is short of `moresyms` more
symbols, it reserves ten more than asked and adds the difference in capacity it asked for. -/
def lifeMakeSymbolRoom (l : Life) (moresyms : Nat) : Life :=
  let oldsize := l.caps.symbols
  let size := l.inst.instsymbols.length
  if oldsize < size + moresyms then
    let newsize := size + moresyms + 10
    let mem : Int := (newsize - oldsize : Nat) * sz.symbol
    { l with caps := { l.caps with symbols := p.reserve oldsize newsize },
             stats := { l.stats with syms := l.stats.syms + mem, inst := l.stats.inst + mem,
                                     memory := l.stats.memory + mem } }
  else l

/-- One call of a lifecycle. -/
def lifeStep (l : Life) : LifeCall → Life
  | .addConnection srclayer src dst => lifeAddConnection sz p l srclayer src dst
  | .makeSymbolRoom moresyms => lifeMakeSymbolRoom sz p l moresyms

/-- `copy_code_from_master`: the symbol table is copy-assigned the master's, the overrides are
freed, and the counters get the table's bytes less the overrides'. `none` when an assertion
fails. -/
def lifeCopyCode (ss : ShadingSystem) (l : Life) : Option Life :=
  (ShaderInstance.copyCodeFromMaster ss l.inst).map fun inst =>
    let symcap := p.assign l.caps.symbols inst.instsymbols.length
    let symmem : Int := symcap * sz.symbol - l.caps.overrides * sz.override
    { inst, caps := { l.caps with symbols := symcap, overrides := 0 },
      stats := { l.stats with syms := l.stats.syms + symmem, inst := l.stats.inst + symmem,
                              memory := l.stats.memory + symmem } }

/-- `~ShaderInstance`: one instance fewer, and the bytes of every vector it holds and of the
instance itself are subtracted. (Its `OSL_DASSERT` that the instance holds no code changes no
counter and is left out.) -/
def destroy (l : Life) : Stats :=
  let symmem := symBytes sz l.caps
  let parammem := paramBytes sz l.caps
  let connectionmem := connBytes sz l.caps
  let totalmem := symmem + parammem + connectionmem + sz.shaderInstance
  { instances := l.stats.instances - 1, paramvals := l.stats.paramvals - parammem,
    syms := l.stats.syms - symmem, connections := l.stats.connections - connectionmem,
    inst := l.stats.inst - totalmem, memory := l.stats.memory - totalmem }

/-- A lifecycle: construction, one `parameters()` call, the calls in order, `copy_code_from_master`
if `copy`, and destruction; the counters at the end, `none` if an assertion fails. -/
def lifecycle (ss : ShadingSystem) (m : ShaderMaster) (name : String)
    (P : List (ParamValue × ParamHints)) (calls : List LifeCall) (copy : Bool) (st : Stats) :
    Option Stats :=
  let l := calls.foldl (lifeStep sz p) (lifeParameters sz p ss (construct sz m name st) P)
  ((if copy then lifeCopyCode sz p ss l else some l).map (destroy sz))

/-! ### What each call does to the counters -/

@[simp] theorem growPools_overrides (c : Caps) (inst : ShaderInstance) :
    (growPools p c inst).overrides = c.overrides := rfl

@[simp] theorem growPools_symbols (c : Caps) (inst : ShaderInstance) :
    (growPools p c inst).symbols = c.symbols := rfl

@[simp] theorem growPools_connections (c : Caps) (inst : ShaderInstance) :
    (growPools p c inst).connections = c.connections := rfl

/-- The binding loop changes only the pools' capacities, and builds the instance
`parameters()` builds. -/
theorem foldl_bindGrow (ss : ShadingSystem) (P : List (ParamValue × ParamHints))
    (acc : ShaderInstance × Caps) :
    (P.foldl (bindGrow p ss) acc).1 = P.foldl (fun s ph => (ShaderInstance.bindParam ss s ph.1 ph.2).1) acc.1 ∧
      (P.foldl (bindGrow p ss) acc).2.overrides = acc.2.overrides ∧
      (P.foldl (bindGrow p ss) acc).2.symbols = acc.2.symbols ∧
      (P.foldl (bindGrow p ss) acc).2.connections = acc.2.connections := by
  induction P generalizing acc with
  | nil => exact ⟨rfl, rfl, rfl, rfl⟩
  | cons ph P ih => simpa [bindGrow] using ih (bindGrow p ss acc ph)

theorem inst_lifeParameters (ss : ShadingSystem) (l : Life) (P : List (ParamValue × ParamHints)) :
    (lifeParameters sz p ss l P).inst = (ShaderInstance.parameters ss l.inst P).1 := by
  rw [ShaderInstance.parameters_fst]
  exact (foldl_bindGrow p ss P _).1

@[simp] theorem inst_lifeMakeSymbolRoom (l : Life) (moresyms : Nat) :
    (lifeMakeSymbolRoom sz p l moresyms).inst = l.inst := by
  simp only [lifeMakeSymbolRoom]; split <;> rfl

/-- The counters between construction and destruction, against their values `st` before it:
one instance more; the connection counter holds the bytes of the connection vector; and the
instance and total counters have moved by what the three detail counters moved, plus the size
of the instance itself. -/
structure Books (st : Stats) (l : Life) : Prop where
  instances : l.stats.instances = st.instances + 1
  connections : l.stats.connections = st.connections + connBytes sz l.caps
  inst : l.stats.inst = st.inst + (l.stats.syms - st.syms) + (l.stats.paramvals - st.paramvals) +
    (l.stats.connections - st.connections) + sz.shaderInstance
  memory : l.stats.memory - st.memory = l.stats.inst - st.inst

/-- A call that adds `a`, `b` and `c` bytes to the symbol, parameter and connection counters and
their sum to the instance and total counters, and that grows the connection vector by `c` bytes,
keeps the books. -/
theorem Books.update {st : Stats} {l l' : Life} (h : Books sz st l) (a b c : Int)
    (hi : l'.stats.instances = l.stats.instances) (hs : l'.stats.syms = l.stats.syms + a)
    (hp : l'.stats.paramvals = l.stats.paramvals + b)
    (hc : l'.stats.connections = l.stats.connections + c)
    (hcb : connBytes sz l'.caps = connBytes sz l.caps + c)
    (hin : l'.stats.inst = l.stats.inst + (a + b + c))
    (hm : l'.stats.memory = l.stats.memory + (a + b + c)) : Books sz st l' where
  instances := hi.trans h.instances
  connections := by rw [hc, hcb, h.connections]; ring
  inst := by rw [hin, hs, hp, hc, h.inst]; ring
  memory := by have := h.memory; rw [hm, hin]; omega

theorem books_construct (m : ShaderMaster) (name : String) (st : Stats) :
    Books sz st (construct sz m name st) where
  instances := rfl
  connections := by simp [construct, connBytes]
  inst := by simp [construct, paramBytes]
  memory := by simp [construct]

theorem books_lifeParameters {st : Stats} {l : Life} (h : Books sz st l) (ss : ShadingSystem)
    (P : List (ParamValue × ParamHints)) : Books sz st (lifeParameters sz p ss l P) := by
  have hc : ∀ acc, (P.foldl (bindGrow p ss) acc).2.connections = acc.2.connections :=
    fun acc => (foldl_bindGrow p ss P acc).2.2.2
  refine h.update sz _ _ 0 rfl rfl rfl (by simp [lifeParameters]) ?_ (by simp [lifeParameters])
    (by simp [lifeParameters])
  simp [lifeParameters, connBytes, hc]

theorem books_lifeStep {st : Stats} {l : Life} (h : Books sz st l) :
    ∀ c, Books sz st (lifeStep sz p l c)
  | .addConnection srclayer src dst =>
    h.update sz 0 0 _ rfl (by simp [lifeStep, lifeAddConnection])
      (by simp [lifeStep, lifeAddConnection]) rfl
      (by simp only [lifeStep, lifeAddConnection, connBytes, growPools_connections]; ring)
      (by simp [lifeStep, lifeAddConnection]) (by simp [lifeStep, lifeAddConnection])
  | .makeSymbolRoom moresyms => by
    simp only [lifeStep, lifeMakeSymbolRoom]
    split
    · exact h.update sz _ 0 0 rfl rfl (by simp) (by simp) (by simp [connBytes]) (by simp) (by simp)
    · exact h

/-- Every sequence of calls keeps the books. -/
theorem books_calls {st : Stats} {l : Life} (h : Books sz st l) (calls : List LifeCall) :
    Books sz st (calls.foldl (lifeStep sz p) l) := by
  induction calls generalizing l with
  | nil => exact h
  | cons c calls ih => exact ih (books_lifeStep sz p h c)

theorem books_lifeCopyCode {st : Stats} {l l' : Life} (h : Books sz st l) {ss : ShadingSystem}
    (hl : lifeCopyCode sz p ss l = some l') : Books sz st l' := by
  unfold lifeCopyCode at hl
  obtain ⟨inst, -, rfl⟩ := Option.map_eq_some'.mp hl
  exact h.update sz _ 0 0 rfl rfl (by simp) (by simp) (by simp [connBytes]) (by simp) (by simp)

/-- The destructor undoes what the books count: the instance and connection counters are back
at their start, and the instance and total counters have moved by what the symbol and parameter
counters moved. -/
theorem destroy_of_books {st : Stats} {l : Life} (h : Books sz st l) :
    (destroy sz l).instances = st.instances ∧ (destroy sz l).connections = st.connections ∧
      (destroy sz l).inst - st.inst =
        ((destroy sz l).syms - st.syms) + ((destroy sz l).paramvals - st.paramvals) ∧
      (destroy sz l).memory - st.memory = (destroy sz l).inst - st.inst := by
  simp only [destroy, h.instances, h.connections]
  refine ⟨by ring, by ring, ?_, ?_⟩
  · rw [h.inst, h.connections]; ring
  · have := h.memory; omega

/-- The books of a lifecycle up to its destruction. -/
theorem books_before_destroy (ss : ShadingSystem) (m : ShaderMaster) (name : String)
    (P : List (ParamValue × ParamHints)) (calls : List LifeCall) (copy : Bool) (st : Stats)
    {l : Life} (hl : (if copy then lifeCopyCode sz p ss
      (calls.foldl (lifeStep sz p) (lifeParameters sz p ss (construct sz m name st) P))
      else some (calls.foldl (lifeStep sz p) (lifeParameters sz p ss (construct sz m name st) P)))
        = some l) : Books sz st l := by
  have h := books_calls sz p (books_lifeParameters sz p (books_construct sz m name st) ss P) calls
  cases copy
  · cases hl; exact h
  · exact books_lifeCopyCode sz p h hl

/-- Over every lifecycle that completes, the instance and connection counters come back to
their start, and the instance and total memory counters move exactly as the symbol and parameter
counters do together. -/
theorem lifecycle_books (ss : ShadingSystem) (m : ShaderMaster) (name : String)
    (P : List (ParamValue × ParamHints)) (calls : List LifeCall) (copy : Bool) (st : Stats) :
    ∀ st' ∈ lifecycle sz p ss m name P calls copy st,
      st'.instances = st.instances ∧ st'.connections = st.connections ∧
      st'.inst - st.inst = (st'.syms - st.syms) + (st'.paramvals - st.paramvals) ∧
      st'.memory - st.memory = st'.inst - st.inst := by
  intro st' hst
  simp only [lifecycle, Option.mem_def, Option.map_eq_some'] at hst
  obtain ⟨l, hl, rfl⟩ := hst
  exact destroy_of_books sz (books_before_destroy sz p ss m name P calls copy st hl)

/-! ### The symbol and parameter counters -/

/-- What the symbol counter has gained beyond the bytes the symbol table and the overrides
hold. -/
def symsExcess (st : Stats) (l : Life) : Int := l.stats.syms - st.syms - symBytes sz l.caps

/-- What the parameter counter has gained beyond the bytes the pools hold. -/
def paramvalsExcess (st : Stats) (l : Life) : Int :=
  l.stats.paramvals - st.paramvals - paramBytes sz l.caps

theorem excess_construct (m : ShaderMaster) (name : String) (st : Stats) :
    symsExcess sz st (construct sz m name st) = 0 ∧
      paramvalsExcess sz st (construct sz m name st) = 0 := by
  simp [symsExcess, paramvalsExcess, construct, symBytes, paramBytes]

/-- `parameters()` counts the overrides' and the pools' bytes in full, as if the vectors had held
nothing before. -/
theorem excess_lifeParameters (st : Stats) (l : Life) (ss : ShadingSystem)
    (P : List (ParamValue × ParamHints)) :
    symsExcess sz st (lifeParameters sz p ss l P) =
        symsExcess sz st l + l.caps.overrides * sz.override ∧
      paramvalsExcess sz st (lifeParameters sz p ss l P) =
        paramvalsExcess sz st l + paramBytes sz l.caps := by
  have ho : ∀ acc, (P.foldl (bindGrow p ss) acc).2.overrides = acc.2.overrides :=
    fun acc => (foldl_bindGrow p ss P acc).2.1
  have hs : ∀ acc, (P.foldl (bindGrow p ss) acc).2.symbols = acc.2.symbols :=
    fun acc => (foldl_bindGrow p ss P acc).2.2.1
  simp only [symsExcess, paramvalsExcess, lifeParameters, symBytes, ho, hs]
  constructor <;> ring

/-- `make_symbol_room` counts the capacity it asks for, whatever it gets. -/
theorem symsExcess_lifeMakeSymbolRoom (st : Stats) (l : Life) {moresyms : Nat}
    (h : l.caps.symbols < l.inst.instsymbols.length + moresyms) :
    symsExcess sz st (lifeMakeSymbolRoom sz p l moresyms) = symsExcess sz st l +
      ((l.inst.instsymbols.length + moresyms + 10 : Nat) -
        (p.reserve l.caps.symbols (l.inst.instsymbols.length + moresyms + 10) : Int)) * sz.symbol := by
  simp only [symsExcess, lifeMakeSymbolRoom, if_pos h, symBytes]
  rw [Nat.cast_sub (by omega)]
  ring

/-- `copy_code_from_master` counts the copied table's bytes as if the table had held none:
whatever the table's capacity was before is counted again. -/
theorem symsExcess_lifeCopyCode (st : Stats) {l l' : Life} {ss : ShadingSystem}
    (hl : lifeCopyCode sz p ss l = some l') :
    symsExcess sz st l' = symsExcess sz st l + l.caps.symbols * sz.symbol := by
  unfold lifeCopyCode at hl
  obtain ⟨inst, -, rfl⟩ := Option.map_eq_some'.mp hl
  simp only [symsExcess, symBytes]
  ring

theorem paramvalsExcess_lifeCopyCode (st : Stats) {l l' : Life} {ss : ShadingSystem}
    (hl : lifeCopyCode sz p ss l = some l') : paramvalsExcess sz st l' = paramvalsExcess sz st l := by
  unfold lifeCopyCode at hl
  obtain ⟨inst, -, rfl⟩ := Option.map_eq_some'.mp hl
  rfl

/-- The destructor leaves in the symbol and parameter counters exactly their excess. -/
theorem destroy_excess (st : Stats) (l : Life) :
    (destroy sz l).syms = st.syms + symsExcess sz st l ∧
      (destroy sz l).paramvals = st.paramvals + paramvalsExcess sz st l := by
  simp only [destroy, symsExcess, paramvalsExcess]
  constructor <;> ring

/-- From a fresh instance of a well-formed master bound under strict type checking,
`copy_code_from_master` succeeds. -/
theorem lifeCopyCode_isSome {ss : ShadingSystem} (hstrict : ss.relaxedParamTypecheck = false)
    {m : ShaderMaster} (hwf : m.WellFormed) (name : String) (P : List (ParamValue × ParamHints))
    {l : Life} (hl : l.inst = (ShaderInstance.parameters ss (ShaderInstance.create m name) P).1) :
    ∃ l', lifeCopyCode sz p ss l = some l' := by
  have hs : ShaderInstance.SpecReady m (ShaderInstance.parameters ss (ShaderInstance.create m name) P).1 :=
    ShaderInstance.specReady_parameters (fun h => by simp [hstrict] at h) hwf name P
  obtain ⟨s', hs', -⟩ := ShaderInstance.copyCodeFromMaster_of_specReady ss hs
  exact ⟨_, by rw [lifeCopyCode, hl, hs']; rfl⟩

end Lifecycle

/-- A layer of `plastic` that asks for room for one symbol before `copy_code_from_master`: the
room is counted when reserved and again when the master's symbols are copied into it, so the
symbol, instance and total counters end `11 * sizeof(Symbol)` bytes above their start, whatever
the vector implementation. -/
theorem lifecycle_symbol_room_before_copy (sz : Sizes) (p : VecPolicy) (st : Stats) :
    ∃ st', lifecycle sz p (ShaderInstance.strictSystem false) ShaderInstance.kdMaster "a" []
        [.makeSymbolRoom 1] true st = some st' ∧
      st'.syms = st.syms + 11 * sz.symbol ∧ st'.inst = st.inst + 11 * sz.symbol ∧
      st'.memory = st.memory + 11 * sz.symbol ∧ st'.syms ≠ st.syms := by
  set ss := ShaderInstance.strictSystem false
  set l₀ := construct sz ShaderInstance.kdMaster "a" st
  set l₁ := lifeParameters sz p ss l₀ []
  set l₂ := lifeMakeSymbolRoom sz p l₁ 1
  obtain ⟨e₀, f₀⟩ := excess_construct sz ShaderInstance.kdMaster "a" st
  obtain ⟨e₁, f₁⟩ := excess_lifeParameters sz p st l₀ ss []
  have hc₁ : l₁.caps.symbols = 0 := rfl
  have hi₁ : l₁.inst.instsymbols = [] := rfl
  have hcond : l₁.caps.symbols < l₁.inst.instsymbols.length + 1 := by rw [hc₁, hi₁]; decide
  have e₂ := symsExcess_lifeMakeSymbolRoom sz p st l₁ hcond
  have hc₂ : l₂.caps.symbols = p.reserve 0 11 := by
    simp only [l₂, lifeMakeSymbolRoom, if_pos hcond, hc₁, hi₁]; rfl
  obtain ⟨l₃, h₃⟩ := lifeCopyCode_isSome sz p (rfl : ss.relaxedParamTypecheck = false)
    ShaderInstance.kdMaster_wellFormed "a" [] (l := l₂)
    (by rw [inst_lifeMakeSymbolRoom, inst_lifeParameters]; rfl)
  have e₃ := symsExcess_lifeCopyCode sz p st h₃
  have f₃ := paramvalsExcess_lifeCopyCode sz p st h₃
  have hl : lifecycle sz p ss ShaderInstance.kdMaster "a" [] [.makeSymbolRoom 1] true st =
      some (destroy sz l₃) := by
    simp only [lifecycle, List.foldl_cons, List.foldl_nil, lifeStep, if_true]
    rw [h₃]; rfl
  obtain ⟨-, -, hinst, hmem⟩ := lifecycle_books sz p ss ShaderInstance.kdMaster "a" [] _ true st _ hl
  obtain ⟨hs, hp⟩ := destroy_excess sz st l₃
  have hp₂ : paramvalsExcess sz st l₂ = paramvalsExcess sz st l₁ := by
    simp only [l₂, lifeMakeSymbolRoom, if_pos hcond]
    rfl
  have hsyms : (destroy sz l₃).syms = st.syms + 11 * sz.symbol := by
    rw [hs, e₃, e₂, e₁, e₀, hc₂, hc₁, hi₁, show l₀.caps.overrides = 0 from rfl]
    simp only [List.length_nil, Nat.zero_add, Nat.reduceAdd]
    push_cast
    ring
  have hparam : (destroy sz l₃).paramvals = st.paramvals := by
    rw [hp, f₃, hp₂, f₁, f₀]
    simp [l₀, construct, paramBytes]
  refine ⟨_, hl, hsyms, by omega, by omega, ?_⟩
  rw [hsyms]
  have := sz.symbol_pos
  omega

end OslExec
