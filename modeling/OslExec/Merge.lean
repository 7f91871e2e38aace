import OslExec.Binding

/-!
# The instance merge test

`ShaderInstance.mergeable` models `ShaderInstance::mergeable(b, group)`: the test the merge
pass runs on pairs of layers of one master before and after specialization. It short-circuits
on the first mismatch, so here it is the conjunction of its checks, in the source's order;
its release assertions (an unspecialized pair with override vectors of one length) make it
return `none`.

## Key results

- `mergeable_self`: an instance is mergeable with itself, before or after specialization, when
  it has no renderer outputs, no default-or-instance parameter used in the group whose symbol
  the test reads is interactive, and no userdata that the shading system keeps from merging

The theorems at the end evaluate the test on layers of `kdMaster`:

- `mergeable_interactive_before_specialization`: before specialization the test reads the
  interactive flag of the master's symbol, so two layers that both bind `Kd` interactively
  are merged
- `mergeable_lost_after_specialization`: the same pair is not merged once specialized, where
  the flag is read from the instance's own symbol
- `mergeable_asymmetric`: after specialization only the second argument's flag is read, so
  the answer depends on the order of the arguments
- `mergeable_self_reads_master_interactive`: before specialization the symbol the test reads
  is the master's, so a layer whose own binding of an interactive master parameter is not
  interactive is not mergeable with itself
-/

namespace OslExec

namespace ShaderInstance

/-- `equivalent(const Symbol&, const Symbol&)` for symbol `a` of instance `A` and `b` of `B`:
unused on both sides, or the same kind, type, name (unless a temporary or constant), value
(for a constant), derivatives, lockgeom, value source, field id and init-op range. -/
def symbolEquivalent (A B : ShaderInstance) (a b : Symbol) : Bool :=
  if !a.everused && !b.everused then true
  else if a.symtype ≠ b.symtype || a.typespec ≠ b.typespec then false
  else if a.symtype ≠ .temp && a.symtype ≠ .const && a.name ≠ b.name then false
  else if a.symtype = .const && A.readData a a.typespec.simpletype.basevalues ≠
      B.readData b a.typespec.simpletype.basevalues then false
  else a.hasDerivs = b.hasDerivs && a.lockgeom = b.lockgeom && a.valuesource = b.valuesource &&
    a.fieldid = b.fieldid && a.initbegin = b.initbegin && a.initend = b.initend

/-- The template `equivalent(const std::vector<T>&, const std::vector<T>&)`: same length and
element-wise equivalent. -/
def listEquivalent {α : Type} (eqv : α → α → Bool) (a b : List α) : Bool :=
  a.length = b.length && (a.zip b).all fun p => eqv p.1 p.2

/-- The override loop of `mergeable`, slot `i`: both default-or-instance slots are left to the
value check; other slots must be equivalent (unless neither master symbol is used in the
group) and agree on the interpolated and interactive flags. -/
def overrideSlotMergeable (A B : ShaderInstance) (i : Nat) : Bool :=
  let a := A.override i
  let b := B.override i
  if a.valuesource.isDefaultOrInstance && b.valuesource.isDefaultOrInstance then true
  else if !a.equivalent b then
    !(A.mastersymbol i).everusedInGroup && !(B.mastersymbol i).everusedInGroup
  else a.interpolated = b.interpolated && a.interactive = b.interactive

/-- The parameter-value loop of `mergeable`, parameter `i`: a parameter used in the group that
is not a closure and whose value source (read from `A`'s symbol) is default or instance must
hold the same words in both instances, and `B`'s symbol must not be interactive. -/
def paramSlotMergeable (A B : ShaderInstance) (optimized : Bool) (i : Nat) : Bool :=
  let sym := if optimized then A.symbol i else A.mastersymbol i
  let bsym := if optimized then B.symbol i else B.mastersymbol i
  if !sym.everusedInGroup then true
  else if sym.typespec.isClosure then true
  else !(sym.valuesource.isDefaultOrInstance &&
    (A.readParam (A.paramStorage i) sym.typespec.simpletype.basevalues ≠
        B.readParam (B.paramStorage i) sym.typespec.simpletype.basevalues || bsym.interactive))

/-- Has the instance its own symbols or code (`optimized` in `mergeable`)? -/
def optimized (A : ShaderInstance) : Bool := !A.instsymbols.isEmpty || !A.instops.isEmpty

/-- `ShaderInstance::mergeable(b, group)`. -/
def mergeable (ss : ShadingSystem) (A B : ShaderInstance) : Option Bool :=
  if A.master ≠ B.master then some false
  else if A.rendererOutputs || B.rendererOutputs then some false
  else if (!A.instoverrides.isEmpty || !B.instoverrides.isEmpty) &&
      (A.optimized || A.instoverrides.length ≠ B.instoverrides.length) then none
  else some (
    ((A.instoverrides.isEmpty && B.instoverrides.isEmpty) ||
      (List.range A.instoverrides.length).all (overrideSlotMergeable A B)) &&
    (List.range' A.firstparam (A.lastparam - A.firstparam)).all
      (paramSlotMergeable A B A.optimized) &&
    A.runLazily = B.runLazily &&
    A.connections = B.connections &&
    (ss.optMergeInstancesWithUserdata || (!A.userdataParams && !B.userdataParams)) &&
    (!A.optimized ||
      (listEquivalent (symbolEquivalent A B) A.instsymbols B.instsymbols &&
        listEquivalent Opcode.equivalent A.instops B.instops &&
        A.instargs = B.instargs &&
        A.firstparam = B.firstparam && A.lastparam = B.lastparam &&
        A.maincodebegin = B.maincodebegin && A.maincodeend = B.maincodeend &&
        A.Psym = B.Psym && A.Nsym = B.Nsym)))

/-! ### Reflexivity -/

theorem symbolEquivalent_self (A : ShaderInstance) (a : Symbol) :
    symbolEquivalent A A a a = true := by
  simp [symbolEquivalent]

theorem listEquivalent_self {α : Type} {eqv : α → α → Bool} {l : List α}
    (h : ∀ a ∈ l, eqv a a = true) : listEquivalent eqv l l = true := by
  simp only [listEquivalent, Bool.and_eq_true, decide_eq_true_eq, List.all_eq_true, true_and]
  intro p hp
  obtain ⟨i, hi, rfl⟩ := List.getElem_of_mem hp
  simpa using h _ (List.getElem_mem (by simpa using hi))

theorem overrideSlotMergeable_self (A : ShaderInstance) (i : Nat) :
    overrideSlotMergeable A A i = true := by
  simp [overrideSlotMergeable, SymOverrideInfo.equivalent]

/-- `copy_code_from_master` leaves no override vector behind. -/
theorem instoverrides_copyCodeFromMaster {ss : ShadingSystem} {A₀ A : ShaderInstance}
    (h : copyCodeFromMaster ss A₀ = some A) : A.instoverrides = [] := by
  simp only [copyCodeFromMaster] at h
  split at h
  · cases h
  · cases h
    rfl

theorem paramSlotMergeable_self (A : ShaderInstance) (opt : Bool) (i : Nat)
    (h : let sym := if opt then A.symbol i else A.mastersymbol i
      sym.everusedInGroup = true → sym.typespec.isClosure = false →
      sym.valuesource.isDefaultOrInstance = true → sym.interactive = false) :
    paramSlotMergeable A A opt i = true := by
  simp only [paramSlotMergeable] at h ⊢
  generalize (if opt then A.symbol i else A.mastersymbol i) = sym at h ⊢
  cases h1 : sym.everusedInGroup <;> cases h2 : sym.typespec.isClosure <;>
    cases h3 : sym.valuesource.isDefaultOrInstance <;> simp_all

/-- Merging is reflexive on the instances it can be asked about: an unspecialized instance, or
one `copy_code_from_master` made, is mergeable with itself when it feeds no renderer output,
no parameter used in the group with a default or instance value has an interactive symbol
where the test reads it (the instance's own after specialization, the master's before), and
merging with userdata is allowed or the instance reads none. -/
theorem mergeable_self (ss : ShadingSystem) (A : ShaderInstance)
    (hA : A.optimized = false ∨ ∃ ss' A₀, copyCodeFromMaster ss' A₀ = some A)
    (hro : A.rendererOutputs = false)
    (hint : ∀ i, A.firstparam ≤ i → i < A.lastparam →
      let sym := if A.optimized then A.symbol i else A.mastersymbol i
      sym.everusedInGroup = true → sym.typespec.isClosure = false →
      sym.valuesource.isDefaultOrInstance = true → sym.interactive = false)
    (hud : ss.optMergeInstancesWithUserdata = true ∨ A.userdataParams = false) :
    mergeable ss A A = some true := by
  -- a specialized instance has dropped its overrides, so the assertion holds
  have hassert : (!A.instoverrides.isEmpty && A.optimized) = false := by
    rcases hA with h | ⟨ss', A₀, h⟩
    · simp [h]
    · simp [instoverrides_copyCodeFromMaster h]
  have hparams : (List.range' A.firstparam (A.lastparam - A.firstparam)).all
      (paramSlotMergeable A A A.optimized) = true := List.all_eq_true.mpr fun i hi => by
    obtain ⟨h1, h2⟩ := List.mem_range'_1.mp hi
    exact paramSlotMergeable_self A A.optimized i (hint i h1 (by omega))
  simpa [mergeable, hro, hassert, hparams, overrideSlotMergeable_self,
    listEquivalent_self fun a _ => symbolEquivalent_self A a,
    listEquivalent_self fun (o : Opcode) _ => show o.equivalent o = true by simp [Opcode.equivalent]] using hud

/-! ### Two layers of one master -/

/-- Layer `name` of `kdMaster` with `Kd` bound to `5` under the hints `h`. -/
def kdLayer (name : String) (h : ParamHints) : ShaderInstance :=
  (parameters (strictSystem false) (create kdMaster name) [(kdValue 5, h)]).1

theorem mergeable_interactive_before_specialization :
    mergeable (strictSystem false) (kdLayer "a" { interactive := true })
      (kdLayer "b" { interactive := true }) = some true ∧
    ((kdLayer "a" { interactive := true }).override 0).interactive = true := by
  decide

theorem mergeable_lost_after_specialization :
    mergeable (strictSystem false) (kdLayer "a" { interactive := true })
      (kdLayer "b" { interactive := true }) = some true ∧
    ((copyCodeFromMaster (strictSystem false) (kdLayer "a" { interactive := true })).bind
      fun a => (copyCodeFromMaster (strictSystem false) (kdLayer "b" { interactive := true })).bind
        fun b => mergeable (strictSystem false) a b) = some false := by
  decide

theorem mergeable_asymmetric :
    ((copyCodeFromMaster (strictSystem true) (kdLayer "c" { interpolated := true })).bind
      fun c => (copyCodeFromMaster (strictSystem true) (kdLayer "b" { interactive := true })).bind
        fun b => mergeable (strictSystem true) c b) = some false ∧
    ((copyCodeFromMaster (strictSystem true) (kdLayer "c" { interpolated := true })).bind
      fun c => (copyCodeFromMaster (strictSystem true) (kdLayer "b" { interactive := true })).bind
        fun b => mergeable (strictSystem true) b c) = some true := by
  decide

/-- A layer of `kdMaster` bound without hints is mergeable with itself. -/
theorem mergeable_self_kdLayer :
    mergeable (strictSystem false) (kdLayer "a" {}) (kdLayer "a" {}) = some true :=
  mergeable_self _ _ (.inl (by decide)) (by decide) (by decide) (.inr (by decide))

/-- Layer `a` of `kdLiveMaster` with `Kd` bound to `5` without hints. -/
def kdLiveLayer : ShaderInstance :=
  (parameters (strictSystem false) (create kdLiveMaster "a") [(kdValue 5, {})]).1

/-- The unspecialized layer `kdLiveLayer` feeds no renderer output and reads no userdata, and
its own record of `Kd`, the parameter's instance value, is not interactive; but the test reads
the master's symbol, which is, and the layer is not mergeable with itself. -/
theorem mergeable_self_reads_master_interactive :
    kdLiveMaster.WellFormed ∧ kdLiveLayer.optimized = false ∧
    kdLiveLayer.rendererOutputs = false ∧ kdLiveLayer.userdataParams = false ∧
    (kdLiveLayer.override 0).valuesource = .instanceVal ∧
    (kdLiveLayer.override 0).interactive = false ∧
    (kdLiveLayer.mastersymbol 0).interactive = true ∧
    mergeable (strictSystem false) kdLiveLayer kdLiveLayer = some false :=
  ⟨kdLiveMaster_wellFormed, by decide⟩

end ShaderInstance

end OslExec
