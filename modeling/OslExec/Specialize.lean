import OslExec.Binding

/-!
# Specialization

What `ShaderInstance::copy_code_from_master` makes of the state `parameters()` and
`add_connection` recorded. The override loop handles each parameter slot once and touches no
other slot's symbol (`symbol_foldl_specializeParam`), so slot `i`'s symbol is what
`specializedSymbol` says: a default-valued slot keeps the master's symbol, with an
indefinite length fixed to its initializer count; any other slot takes the override's value
source, flags, array length and data offset, and its data pointer addresses
`param_storage(i)`.

The words there are the ones `param_storage(i)` addressed before specialization as long as an
override that records no array length still has the master's data offset (`SpecReady`).
`parameters()` keeps that unless an indefinite-length array is given fewer values than one
element, and `add_connection` keeps it unless an indefinite-length destination is connected
to a source that is not an array.

## Key results

- `specReady_parameters`, `specReady_addConnection`: `parameters()` on a new instance of a
  well-formed master keeps `SpecReady` when relaxed type checking admits no value shorter than
  one element of an indefinite-length array, and `add_connection` keeps it when the source of
  an indefinite-length destination is an array
- `symbol_foldl_specializeParam`: the override loop, slot by slot
- `copyCodeFromMaster_keeps_recorded_state`: what each slot's symbol carries afterwards
-/

namespace OslExec

namespace ShaderInstance

variable {s : ShaderInstance} {m : ShaderMaster}

/-! ### The instances specialization starts from -/

/-- An unspecialized instance of `m` with one override per parameter slot, each of which keeps
the master's data offset unless it records an array length. -/
structure SpecReady (m : ShaderMaster) (s : ShaderInstance) : Prop where
  master : s.master = m
  instsymbols : s.instsymbols = []
  instops : s.instops = []
  instargs : s.instargs = []
  lastparam : s.lastparam = m.lastparam
  length_overrides : s.instoverrides.length = m.lastparam
  lastparam_le : m.lastparam ≤ m.symbols.length
  offset : ∀ i, i < m.lastparam → (s.override i).arraylen = 0 →
    (s.override i).dataoffset = (m.symbol i).dataoffset

theorem specReady_seedParams (hwf : m.WellFormed) (name : String) :
    SpecReady m (create m name).seedParams where
  master := rfl
  instsymbols := rfl
  instops := rfl
  instargs := rfl
  lastparam := rfl
  length_overrides := by simp [seedParams, create, resizeList]
  lastparam_le := hwf.lastparam_le
  offset i hi _ := by simp [override_seedParams m name hi]

/-- Changing one slot's override keeps the invariant when the new override keeps it. -/
theorem SpecReady.update (hs : SpecReady m s) {j : Nat} {r : ShaderInstance}
    (hmaster : r.master = m) (hsym : r.instsymbols = []) (hops : r.instops = [])
    (hargs : r.instargs = []) (hlast : r.lastparam = m.lastparam)
    (hlen : r.instoverrides.length = m.lastparam) (hother : ∀ i, i ≠ j → r.override i = s.override i)
    (hj : j < m.lastparam → (r.override j).arraylen = 0 →
      (r.override j).dataoffset = (m.symbol j).dataoffset) :
    SpecReady m r where
  master := hmaster
  instsymbols := hsym
  instops := hops
  instargs := hargs
  lastparam := hlast
  length_overrides := hlen
  lastparam_le := hs.lastparam_le
  offset i hi h0 := by
    by_cases hij : i = j
    · subst hij; exact hj hi h0
    · rw [hother i hij] at h0 ⊢; exact hs.offset i hi h0

/-- The override a binding leaves in its own slot keeps the master's offset unless it records
an array length, provided an indefinite-length array gets at least one element. -/
theorem storeParam_keeps_offset (hs : SpecReady m s) {i : Nat} (hi : i < m.lastparam)
    (h : ParamHints) (data : List Word) {vt : TypeDesc}
    (hfill : (m.symbol i).typespec.simpletype.arraylen < 0 →
      (m.symbol i).typespec.simpletype.aggregate.toNat ≤ vt.basevalues) :
    SpecReady m (storeParam s i (m.symbol i) h data vt) := by
  have hlen : i < s.instoverrides.length := hs.length_overrides ▸ hi
  by_cases ht : (m.symbol i).typespec.simpletype.arraylen < 0
  · have hb : broadcastValue (m.symbol i).typespec.simpletype data vt = (data, vt) := by
      simp [broadcastValue, TypeDesc.isVec3, TypeDesc.isArray]; omega
    rw [storeParam_of_unsized ht]
    simp only [hb]
    cases hpool : (m.symbol i).typespec.simpletype.basetype.pool with
    | none =>
      rw [allocUnsized_of_no_pool hpool]
      refine hs.update (j := i) (by simp [hs.master]) (by simp [hs.instsymbols])
        (by simp [hs.instops]) (by simp [hs.instargs]) (by simp [hs.lastparam])
        (by simp [hs.length_overrides])
        (fun k hk => by simp [override_setOverride _ _ _ _ hlen, Ne.symm hk])
        (fun _ _ => by simp [override_setOverride_self _ _ hlen, hintedOverride, mastersymbol,
          hs.master])
    | some kk =>
      rw [allocUnsized_of_pool hpool]
      have hlen' : i < (s.expand kk vt.basevalues).instoverrides.length := by simpa using hlen
      have hpos : 0 < vt.basevalues / (m.symbol i).typespec.simpletype.aggregate.toNat :=
        Nat.div_pos (hfill ht) (Aggregate.toNat_pos _)
      refine hs.update (j := i) (by simp [hs.master]) (by simp [hs.instsymbols])
        (by simp [hs.instops]) (by simp [hs.instargs]) (by simp [hs.lastparam])
        (by simp [hs.length_overrides])
        (fun k hk => by simp [override_setOverride _ _ _ _ hlen', Ne.symm hk])
        (fun _ h0 => ?_)
      simp only [override_memcpy, override_setOverride_self _ _ hlen', mastersymbol, hs.master]
        at h0
      simp at h0
      omega
  · rw [storeParam_of_sized ht]
    refine hs.update (j := i) (by simp [hs.master]) (by simp [hs.instsymbols])
      (by simp [hs.instops]) (by simp [hs.instargs]) (by simp [hs.lastparam])
      (by simp [hs.length_overrides])
      (fun k hk => by simp [override_setOverride _ _ _ _ hlen, Ne.symm hk])
      (fun _ _ => ?_)
    simp only [override_memcpy, override_setOverride_self _ _ hlen]
    split <;> simp [hintedOverride]

/-- A value the type check accepts for an indefinite-length array has at least one element:
under strict checking by `compatible_param`, under relaxed checking when `relaxed_equivalent`
promises it. -/
theorem aggregate_le_of_accepted {ss : ShadingSystem}
    (hrelax : ss.relaxedParamTypecheck = true → ∀ t vt, ss.relaxedEquivalent t vt = true →
      t.simpletype.arraylen < 0 → t.simpletype.aggregate.toNat ≤ vt.basevalues)
    {sm : Symbol} {data data' : List Word} {vt vt' : TypeDesc} {d : List ParamDiag}
    (h : typecheckParam ss sm data vt = .accepted data' vt' d)
    (ht : sm.typespec.simpletype.arraylen < 0) :
    sm.typespec.simpletype.aggregate.toNat ≤ vt'.basevalues := by
  have hnc : ((sm.typespec.simpletype == TypeDesc.TypeFloat || sm.typespec.simpletype.isVec3) &&
      vt.basetype == .int && vt.basevalues == 1) = false := by
    simp [TypeDesc.TypeFloat, TypeDesc.isVec3, TypeDesc.isArray]
    intro h1; exfalso; cases h1 <;> rename_i h1 <;> first | omega | (rw [h1] at ht; simp at ht)
  cases hr : ss.relaxedParamTypecheck
  · rw [typecheckParam_of_strict hr] at h
    split at h
    · rename_i hc
      cases h
      simp only [compatibleParam, Bool.or_eq_true, TypeDesc.equivalent, Bool.and_eq_true,
        decide_eq_true_eq] at hc
      rcases hc with ⟨⟨-, hagg⟩, -⟩ | hv
      · rw [TypeDesc.basevalues, ← hagg]
        exact Nat.le_mul_of_pos_left _ (TypeDesc.numelements_pos _)
      · simp [TypeDesc.isVec3, TypeDesc.isArray] at hv; omega
    · cases h
  · simp only [typecheckParam, hr, if_true, hnc, Bool.false_eq_true, if_false] at h
    split at h
    · cases h
    · rename_i he
      cases h
      exact hrelax hr _ _ (by simpa using he) ht

theorem specReady_bindParam {ss : ShadingSystem}
    (hrelax : ss.relaxedParamTypecheck = true → ∀ t vt, ss.relaxedEquivalent t vt = true →
      t.simpletype.arraylen < 0 → t.simpletype.aggregate.toNat ≤ vt.basevalues)
    (hs : SpecReady m s) (p : ParamValue) (h : ParamHints) : SpecReady m (bindParam ss s p h).1 := by
  unfold bindParam
  split
  · exact hs
  · cases hf : s.findparam p.name with
    | none => exact hs
    | some i =>
      have hi : i < m.lastparam := hs.lastparam ▸ findparam_lt hf
      have hms : s.mastersymbol i = m.symbol i := by simp [mastersymbol, hs.master]
      simp only [hms]
      split
      · exact hs
      · split
        · exact hs
        · split
          · exact hs
          · rename_i hacc
            exact storeParam_keeps_offset hs hi h _ (aggregate_le_of_accepted hrelax hacc)

theorem SpecReady.expand (hs : SpecReady m s) (k : PoolKind) (n : Nat) :
    SpecReady m (s.expand k n) :=
  hs.update (j := 0) (by simp [hs.master]) (by simp [hs.instsymbols]) (by simp [hs.instops])
    (by simp [hs.instargs]) (by simp [hs.lastparam]) (by simp [hs.length_overrides])
    (fun _ _ => by simp) (fun hj h0 => by simpa using hs.offset 0 hj (by simpa using h0))

/-- An override that records an array length may carry any offset. -/
theorem SpecReady.setOverride (hs : SpecReady m s) (i : Nat) {so : SymOverrideInfo}
    (h : so.arraylen ≠ 0) : SpecReady m (s.setOverride i so) :=
  hs.update (j := i) (by simp [hs.master]) (by simp [hs.instsymbols]) (by simp [hs.instops])
    (by simp [hs.instargs]) (by simp [hs.lastparam]) (by simp [hs.length_overrides])
    (fun _ hk => override_setOverride_of_ne _ _ (Ne.symm hk))
    (fun hj h0 => absurd (by rwa [override_setOverride_self _ _ (hs.length_overrides ▸ hj)] at h0) h)

theorem specReady_addConnection (hs : SpecReady m s) (srclayer : Int) (src dst : ConnectedParam)
    (hc : dst.type.isUnsizedArray → src.type.arraylength ≠ 0) :
    SpecReady m (s.addConnection srclayer src dst) := by
  have hconn : ∀ t : ShaderInstance, SpecReady m t →
      SpecReady m { t with connections := t.connections ++ [⟨srclayer, src, dst⟩] } :=
    fun t ht => ht.update (j := 0) ht.master ht.instsymbols ht.instops ht.instargs ht.lastparam
      ht.length_overrides (fun _ _ => rfl) (fun hj h0 => ht.offset 0 hj h0)
  unfold addConnection
  apply hconn
  split
  · rename_i hu
    simp only []
    split
    · exact (hs.expand _ _).setOverride _ (hc hu)
    · exact hs.setOverride _ (hc hu)
  · exact hs

theorem specReady_parameters {ss : ShadingSystem}
    (hrelax : ss.relaxedParamTypecheck = true → ∀ t vt, ss.relaxedEquivalent t vt = true →
      t.simpletype.arraylen < 0 → t.simpletype.aggregate.toNat ≤ vt.basevalues)
    (hwf : m.WellFormed) (name : String) (P : List (ParamValue × ParamHints)) :
    SpecReady m (parameters ss (create m name) P).1 := by
  rw [parameters_fst]
  suffices ∀ t, SpecReady m t → SpecReady m (P.foldl (fun s ph => (bindParam ss s ph.1 ph.2).1) t)
    from this _ (specReady_seedParams hwf name)
  induction P with
  | nil => exact fun _ ht => ht
  | cons ph P ih => exact fun t ht => ih _ (specReady_bindParam hrelax ht ph.1 ph.2)

theorem specReady_connections (hs : SpecReady m s)
    (cs : List (Int × ConnectedParam × ConnectedParam))
    (hcs : ∀ c ∈ cs, c.2.2.type.isUnsizedArray → c.2.1.type.arraylength ≠ 0) :
    SpecReady m (cs.foldl (fun s c => s.addConnection c.1 c.2.1 c.2.2) s) := by
  induction cs generalizing s with
  | nil => exact hs
  | cons c cs ih =>
    exact ih (specReady_addConnection hs c.1 c.2.1 c.2.2 (hcs c (by simp)))
      (fun c' hc' => hcs c' (by simp [hc']))

/-! ### The override loop -/

/-- What slot `i`'s symbol `si` becomes in `applyOverride`, given the slot's override `so`:
the length fix of a default-valued slot, or the override applied and the data pointer set to
`param_storage(i)`, which by then is the override's offset. -/
def overrideSymbol (so : SymOverrideInfo) (si : Symbol) : Symbol :=
  if so.valuesource = .defaultVal then
    if si.typespec.isUnsizedArray then si.setArraylen si.initializers else si
  else
    { (if so.arraylen ≠ 0 then si.setArraylen so.arraylen else si) with
      valuesource := so.valuesource, connectedDown := so.connectedDown,
      interpolated := so.interpolated, interactive := so.interactive,
      dataoffset := so.dataoffset,
      dataptr := match si.typespec.simpletype.basetype.pool with
        | some _ => .instanceParam so.dataoffset
        | none => .null }

/-- What slot `i`'s symbol becomes in one iteration of the override loop. -/
def specializedSymbol (ss : ShadingSystem) (layername : String) (so : SymOverrideInfo)
    (si : Symbol) : Symbol :=
  if ss.isRendererOutput layername (overrideSymbol so si).name then
    { overrideSymbol so si with rendererOutput := true }
  else overrideSymbol so si

/-- The type a slot's symbol has after the override loop does not depend on the renderer
outputs. -/
@[simp] theorem typespec_specializedSymbol (ss : ShadingSystem) (layername : String)
    (so : SymOverrideInfo) (si : Symbol) :
    (specializedSymbol ss layername so si).typespec = (overrideSymbol so si).typespec := by
  unfold specializedSymbol; split <;> rfl

/-- The override loop keeps a symbol's initializer count. -/
@[simp] theorem initializers_specializedSymbol (ss : ShadingSystem) (layername : String)
    (so : SymOverrideInfo) (si : Symbol) :
    (specializedSymbol ss layername so si).initializers = si.initializers := by
  unfold specializedSymbol overrideSymbol
  split <;> split_ifs <;> rfl

@[simp] theorem layername_applyOverride (t : ShaderInstance) (i : Nat) :
    (applyOverride t i).layername = t.layername := by
  unfold applyOverride; simp only []; split <;> simp

@[simp] theorem master_applyOverride (t : ShaderInstance) (i : Nat) :
    (applyOverride t i).master = t.master := by
  unfold applyOverride; simp only []; split <;> simp

@[simp] theorem instoverrides_applyOverride (t : ShaderInstance) (i : Nat) :
    (applyOverride t i).instoverrides = t.instoverrides := by
  unfold applyOverride; simp only []; split <;> simp

@[simp] theorem pool_applyOverride (t : ShaderInstance) (i : Nat) (k : PoolKind) :
    (applyOverride t i).pool k = t.pool k := by
  unfold applyOverride; simp only []; split <;> simp

@[simp] theorem length_instsymbols_applyOverride (t : ShaderInstance) (i : Nat) :
    (applyOverride t i).instsymbols.length = t.instsymbols.length := by
  unfold applyOverride; simp only []; split <;> simp

theorem symbol_applyOverride (t : ShaderInstance) {i : Nat} (hi : i < t.instsymbols.length)
    (hov : t.instoverrides ≠ []) (j : Nat) :
    (applyOverride t i).symbol j =
      if i = j then overrideSymbol (t.override i) (t.symbol i) else t.symbol j := by
  have hi' : ∀ sym : Symbol, i < (t.setSymbol i sym).instsymbols.length := fun _ => by simpa using hi
  unfold applyOverride overrideSymbol
  by_cases hd : (t.override i).valuesource = .defaultVal
  · simp only [hd, if_true]
    rw [symbol_setSymbol _ _ _ hi]
  · simp only [hd, if_false]
    have hne : ∀ sym : Symbol, (t.setSymbol i sym).instsymbols ≠ [] := fun sym =>
      List.ne_nil_of_length_pos (by simp; omega)
    rw [symbol_setSymbol _ _ _ (hi' _), symbol_setSymbol_self _ _ hi, symbol_setSymbol _ _ _ hi]
    split
    · rename_i hij
      subst hij
      simp only [paramStorage, hne, List.isEmpty_iff, hov, symbol_setSymbol_self _ _ hi]
      by_cases ha : (t.override i).arraylen = 0 <;>
        cases hp : (t.symbol i).typespec.simpletype.basetype.pool <;>
        simp [ha, hp, Symbol.setArraylen, List.isEmpty_iff, hov]
    · rfl

theorem symbol_markRendererOutput (ss : ShadingSystem) (t : ShaderInstance) {i : Nat}
    (hi : i < t.instsymbols.length) (j : Nat) :
    (markRendererOutput ss t i).symbol j =
      if i = j ∧ ss.isRendererOutput t.layername (t.symbol i).name then
        { t.symbol i with rendererOutput := true }
      else t.symbol j := by
  unfold markRendererOutput
  split
  · show (t.setSymbol i _).symbol j = _
    rw [symbol_setSymbol _ _ _ hi]
    split <;> simp_all
  · simp_all

/-- The loop body sets slot `i`'s symbol and no other. -/
theorem symbol_specializeParam (ss : ShadingSystem) (t : ShaderInstance) {i : Nat}
    (hi : i < t.instsymbols.length) (hov : t.instoverrides ≠ []) (j : Nat) :
    (specializeParam ss t i).symbol j =
      if i = j then specializedSymbol ss t.layername (t.override i) (t.symbol i) else t.symbol j := by
  unfold specializeParam specializedSymbol
  rw [symbol_markRendererOutput _ _ (by simpa using hi), symbol_applyOverride _ hi hov,
    layername_applyOverride, symbol_applyOverride _ hi hov]
  by_cases hij : i = j <;> simp [hij]

@[simp] theorem layername_specializeParam (ss : ShadingSystem) (t : ShaderInstance) (i : Nat) :
    (specializeParam ss t i).layername = t.layername := by
  unfold specializeParam markRendererOutput; split <;> simp

@[simp] theorem master_specializeParam (ss : ShadingSystem) (t : ShaderInstance) (i : Nat) :
    (specializeParam ss t i).master = t.master := by
  unfold specializeParam markRendererOutput; split <;> simp

@[simp] theorem instoverrides_specializeParam (ss : ShadingSystem) (t : ShaderInstance) (i : Nat) :
    (specializeParam ss t i).instoverrides = t.instoverrides := by
  unfold specializeParam markRendererOutput; split <;> simp

@[simp] theorem pool_specializeParam (ss : ShadingSystem) (t : ShaderInstance) (i : Nat)
    (k : PoolKind) : (specializeParam ss t i).pool k = t.pool k := by
  rw [← pool_applyOverride t i k]
  unfold specializeParam markRendererOutput; split <;> cases k <;> rfl

@[simp] theorem length_instsymbols_specializeParam (ss : ShadingSystem) (t : ShaderInstance)
    (i : Nat) : (specializeParam ss t i).instsymbols.length = t.instsymbols.length := by
  unfold specializeParam markRendererOutput; split <;> simp

/-- The override loop changes no pool, override or name, and no length of the symbol table. -/
theorem foldl_specializeParam_frame (ss : ShadingSystem) (t : ShaderInstance) (n : Nat) :
    ((List.range n).foldl (specializeParam ss) t).layername = t.layername ∧
    ((List.range n).foldl (specializeParam ss) t).master = t.master ∧
    ((List.range n).foldl (specializeParam ss) t).instoverrides = t.instoverrides ∧
    (∀ k, ((List.range n).foldl (specializeParam ss) t).pool k = t.pool k) ∧
    ((List.range n).foldl (specializeParam ss) t).instsymbols.length = t.instsymbols.length := by
  induction n with
  | zero => simp
  | succ n ih =>
    simp only [List.range_succ, List.foldl_append, List.foldl_cons, List.foldl_nil,
      layername_specializeParam, master_specializeParam, instoverrides_specializeParam,
      pool_specializeParam, length_instsymbols_specializeParam]
    exact ih

/-- The override loop over the first `n` slots sets each of their symbols from its own override
and the symbol it started with. -/
theorem symbol_foldl_specializeParam (ss : ShadingSystem) (t : ShaderInstance)
    (hov : t.instoverrides ≠ []) (n : Nat) (hn : n ≤ t.instsymbols.length) (j : Nat) :
    ((List.range n).foldl (specializeParam ss) t).symbol j =
      if j < n then specializedSymbol ss t.layername (t.override j) (t.symbol j) else t.symbol j := by
  induction n generalizing j with
  | zero => simp
  | succ n ih =>
    obtain ⟨hlay, -, hovs, -, hlen⟩ := foldl_specializeParam_frame ss t n
    have hov' : ((List.range n).foldl (specializeParam ss) t).instoverrides ≠ [] := hovs ▸ hov
    rw [List.range_succ, List.foldl_append, List.foldl_cons, List.foldl_nil,
      symbol_specializeParam _ _ (by omega) hov', ih (by omega), ih (by omega), hlay]
    have hovn : ((List.range n).foldl (specializeParam ss) t).override n = t.override n := by
      simp [override, hovs]
    rw [hovn]
    by_cases hj : j = n
    · subst hj; simp
    · have h1 : j < n ↔ j < n + 1 := by omega
      simp [Ne.symm hj, h1]

/-! ### `copy_code_from_master` -/

/-- From an unspecialized instance with one override per parameter slot, `copy_code_from_master`
succeeds, gives every parameter slot the symbol `specializedSymbol` describes and leaves the
pools as they were. -/
theorem copyCodeFromMaster_of_unspecialized (ss : ShadingSystem) (hops : s.instops = [])
    (hargs : s.instargs = []) (hsyms : s.instsymbols = [])
    (hlen : s.instoverrides.length = s.lastparam) (hle : s.lastparam ≤ s.master.symbols.length) :
    ∃ s', copyCodeFromMaster ss s = some s' ∧ s'.master = s.master ∧ (∀ k, s'.pool k = s.pool k) ∧
      ∀ i, i < s.lastparam →
        s'.symbol i = specializedSymbol ss s.layername (s.override i) (s.master.symbol i) := by
  have hcond : (!s.instops.isEmpty || !s.instargs.isEmpty || !s.instsymbols.isEmpty ||
      decide (s.instoverrides.length ≠ s.lastparam) ||
      decide (s.master.symbols.length < s.lastparam)) = false := by
    simp [hops, hargs, hsyms, hlen, hle]
  unfold copyCodeFromMaster
  rw [if_neg (by simp only [hcond]; decide)]
  refine ⟨_, rfl, ?_⟩
  split
  · rename_i hemp
    have h0 : s.lastparam = 0 := by rw [← hlen, (by simpa using hemp : s.instoverrides = [])]; rfl
    refine ⟨rfl, fun k => ?_, fun i hi => absurd hi (by omega)⟩
    cases k <;> rfl
  · rename_i hne
    obtain ⟨-, hmas, -, hpool, -⟩ := foldl_specializeParam_frame ss
      { s with instops := s.master.ops, instargs := s.master.args,
               instsymbols := s.master.symbols } s.lastparam
    refine ⟨hmas, fun k => ?_, fun i hi => ?_⟩
    · have := hpool k
      cases k <;> exact this
    · have := symbol_foldl_specializeParam ss
        { s with instops := s.master.ops, instargs := s.master.args,
                 instsymbols := s.master.symbols } (by simpa using hne) s.lastparam hle i
      rwa [if_pos hi] at this

/-- From an instance that is ready for it, `copy_code_from_master` succeeds, gives every
parameter slot the symbol `specializedSymbol` describes and leaves the pools as they were. -/
theorem copyCodeFromMaster_of_specReady (ss : ShadingSystem) (hs : SpecReady m s) :
    ∃ s', copyCodeFromMaster ss s = some s' ∧ s'.master = m ∧ (∀ k, s'.pool k = s.pool k) ∧
      ∀ i, i < m.lastparam →
        s'.symbol i = specializedSymbol ss s.layername (s.override i) (m.symbol i) := by
  obtain rfl := hs.master
  have := copyCodeFromMaster_of_unspecialized ss hs.instops hs.instargs hs.instsymbols
    (by rw [hs.length_overrides, hs.lastparam]) (by rw [hs.lastparam]; exact hs.lastparam_le)
  rwa [hs.lastparam] at this

/-- The words a specialized non-default slot's data pointer addresses are those
`param_storage(i)` addressed before specialization. -/
theorem readData_specializedSymbol {ss : ShadingSystem} (hs : SpecReady m s) {s' : ShaderInstance}
    (hpool : ∀ k, s'.pool k = s.pool k) {i : Nat} (hi : i < m.lastparam)
    (hd : (s.override i).valuesource ≠ .defaultVal) (n : Nat) :
    s'.readData (specializedSymbol ss s.layername (s.override i) (m.symbol i)) n =
      s.readParam (s.paramStorage i) n := by
  have hoff := hs.offset i hi
  rw [paramStorage_of_unspecialized hs.instsymbols]
  simp only [mastersymbol, hs.master]
  unfold specializedSymbol
  cases hp : (m.symbol i).typespec.simpletype.basetype.pool <;>
    by_cases ha : (s.override i).arraylen = 0 <;> split <;>
    simp [overrideSymbol, hd, hp, ha, readData, readParam, hpool, Symbol.setArraylen, hoff]

/-- Specialization keeps the state `parameters()` and `add_connection` recorded: a slot with an
instance value or a connection carries the override's value source, connection and hint flags
and effective array length, and its data pointer addresses the words `param_storage(i)`
addressed before; a default-valued slot keeps the master's symbol, with an indefinite length
fixed to its initializer count. -/
theorem copyCodeFromMaster_keeps_recorded_state {ss : ShadingSystem} {m : ShaderMaster}
    (hwf : m.WellFormed)
    (hrelax : ss.relaxedParamTypecheck = true → ∀ t vt, ss.relaxedEquivalent t vt = true →
      t.simpletype.arraylen < 0 → t.simpletype.aggregate.toNat ≤ vt.basevalues)
    (name : String) (P : List (ParamValue × ParamHints))
    (cs : List (Int × ConnectedParam × ConnectedParam))
    (hcs : ∀ c ∈ cs, c.2.2.type.isUnsizedArray → c.2.1.type.arraylength ≠ 0) :
    let s := cs.foldl (fun s c => s.addConnection c.1 c.2.1 c.2.2) (parameters ss (create m name) P).1
    ∃ s', copyCodeFromMaster ss s = some s' ∧ ∀ i, i < m.lastparam →
      ((s.override i).valuesource ≠ .defaultVal →
        (s'.symbol i).valuesource = (s.override i).valuesource ∧
        (s'.symbol i).connectedDown = (s.override i).connectedDown ∧
        (s'.symbol i).interpolated = (s.override i).interpolated ∧
        (s'.symbol i).interactive = (s.override i).interactive ∧
        (s'.symbol i).typespec.arraylength = s.effArraylen i ∧
        ∀ n, s'.readData (s'.symbol i) n = s.readParam (s.paramStorage i) n) ∧
      ((s.override i).valuesource = .defaultVal →
        (s'.symbol i).valuesource = (m.symbol i).valuesource ∧
        (s'.symbol i).connectedDown = (m.symbol i).connectedDown ∧
        (s'.symbol i).interpolated = (m.symbol i).interpolated ∧
        (s'.symbol i).interactive = (m.symbol i).interactive ∧
        (s'.symbol i).dataptr = (m.symbol i).dataptr ∧
        (s'.symbol i).typespec.arraylength = if (m.symbol i).typespec.isUnsizedArray then
          ↑(m.symbol i).initializers else (m.symbol i).typespec.arraylength) := by
  intro s
  have hs : SpecReady m s :=
    specReady_connections (specReady_parameters hrelax hwf name P) cs hcs
  obtain ⟨s', hcopy, -, hpool, hsym⟩ := copyCodeFromMaster_of_specReady ss hs
  refine ⟨s', hcopy, fun i hi => ⟨fun hd => ?_, fun hd => ?_⟩⟩
  · refine ⟨?_, ?_, ?_, ?_, ?_, fun n => by rw [hsym i hi]; exact readData_specializedSymbol hs hpool hi hd n⟩ <;>
      rw [hsym i hi] <;> unfold specializedSymbol <;> split <;>
      by_cases ha : (s.override i).arraylen = 0 <;>
      simp [overrideSymbol, hd, ha, effArraylen, mastersymbol, hs.master, Symbol.setArraylen,
        TypeSpec.arraylength]
  · rw [hsym i hi]
    unfold specializedSymbol
    split <;> by_cases hu : (m.symbol i).typespec.isUnsizedArray <;>
      simp [overrideSymbol, hd, hu, Symbol.setArraylen, TypeSpec.arraylength]

/-- `Kd` bound to `5` is still instance-valued once specialized. -/
theorem copyCodeFromMaster_keeps_recorded_state_kd :
    ∃ s', copyCodeFromMaster (strictSystem false)
        (([] : List (Int × ConnectedParam × ConnectedParam)).foldl
          (fun s c => s.addConnection c.1 c.2.1 c.2.2)
          (parameters (strictSystem false) (create kdMaster "a")
            [(kdValue 5, ({} : ParamHints))]).1) = some s' ∧
      (s'.symbol 0).valuesource = .instanceVal := by
  obtain ⟨s', hcopy, h⟩ := @copyCodeFromMaster_keeps_recorded_state (strictSystem false) kdMaster
    kdMaster_wellFormed (fun h => absurd h (by decide)) "a" [(kdValue 5, ({} : ParamHints))] []
    (by simp)
  exact ⟨s', hcopy, ((h 0 (by decide)).1 (by decide)).1.trans (by decide)⟩

/-- An interactive parameter re-bound without hints to its default reverts to default-valued
with an override that is not interactive, but its specialized symbol is the master's, which
is. -/
theorem specialize_default_keeps_master_interactive :
    ((parameters (strictSystem false) (create kdLiveMaster "a")
        [(kdValue 8, ({} : ParamHints))]).1.override 0).valuesource = .defaultVal ∧
    ((parameters (strictSystem false) (create kdLiveMaster "a")
        [(kdValue 8, ({} : ParamHints))]).1.override 0).interactive = false ∧
    ((copyCodeFromMaster (strictSystem false) (parameters (strictSystem false)
        (create kdLiveMaster "a") [(kdValue 8, ({} : ParamHints))]).1).map
      fun s' => (s'.symbol 0).interactive) = some true := by
  decide

end ShaderInstance

end OslExec
