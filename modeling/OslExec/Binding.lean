import OslExec.Instance

/-!
# Parameter binding

What `ShaderInstance::parameters` leaves in each parameter slot. The observable state of a
slot (`paramState`) is what later stages read of it before specialization: the override's
value source and hints, the effective array length and the words `param_storage` addresses
over that length.

Under strict type checking the binding loop keeps an invariant (`BindInv`): the instance stays
unspecialized, a slot of definite length records no array length, and the values of distinct
parameters lie inside their pools without overlapping. From it, one binding accepted for a
slot sets that slot to a state that depends on the binding alone and leaves every other slot
as it was.

## Key results

- `bindInv_storeParam`, `bindInv_foldl`: the loop keeps the invariant
- `paramState_storeParam_self`, `paramState_storeParam_of_ne`: what one accepted binding
  changes
- `paramState_foldl`: on each slot the last accepted binding wins
- `parameters_last_accepted_wins`: the same for `parameters()` on a fresh instance, with the
  no-op and frame properties and the re-binding of a default value
-/

namespace OslExec

namespace ShaderInstance

variable {s : ShaderInstance} {m : ShaderMaster} {i k : Nat}

/-! ### The observable state of a parameter -/

/-- What later stages read of a parameter slot before specialization: the override's value
source and hints, the effective array length, and the words `param_storage` addresses over
that length. -/
structure ParamState where
  valuesource : ValueSource
  arraylen : Int
  interpolated : Bool
  interactive : Bool
  value : List Word
  deriving DecidableEq, Repr

/-- The array length slot `k` has: the override's when it records one, the master's type's
otherwise. -/
def effArraylen (s : ShaderInstance) (k : Nat) : Int :=
  if (s.override k).arraylen ≠ 0 then (s.override k).arraylen
  else (s.mastersymbol k).typespec.arraylength

/-- The words of slot `k`'s value: its master type at its effective length. -/
def valueLen (s : ShaderInstance) (k : Nat) : Nat :=
  { (s.mastersymbol k).typespec.simpletype with arraylen := s.effArraylen k }.basevalues

/-- The observable state of parameter slot `k`. -/
def paramState (s : ShaderInstance) (k : Nat) : ParamState where
  valuesource := (s.override k).valuesource
  arraylen := s.effArraylen k
  interpolated := (s.override k).interpolated
  interactive := (s.override k).interactive
  value := s.readParam (s.paramStorage k) (s.valueLen k)

theorem effArraylen_congr {s t : ShaderInstance} (hm : s.master = t.master)
    (ho : s.override i = t.override i) : s.effArraylen i = t.effArraylen i := by
  simp [effArraylen, ho, mastersymbol, hm]

theorem valueLen_congr {s t : ShaderInstance} (hm : s.master = t.master)
    (ho : s.override i = t.override i) : s.valueLen i = t.valueLen i := by
  simp [valueLen, effArraylen_congr hm ho, mastersymbol, hm]

theorem valueLen_of_arraylen_zero (h : (s.override i).arraylen = 0) :
    s.valueLen i = (s.mastersymbol i).typespec.simpletype.basevalues := by
  simp [valueLen, effArraylen, h, TypeSpec.arraylength]

theorem valueLen_of_arraylen_ne (h : (s.override i).arraylen ≠ 0) :
    s.valueLen i = ({ (s.mastersymbol i).typespec.simpletype with
      arraylen := (s.override i).arraylen } : TypeDesc).basevalues := by
  simp [valueLen, effArraylen, h]

theorem paramStorage_of_arraylen_zero (hs : s.instsymbols = []) (h : (s.override i).arraylen = 0) :
    s.paramStorage i = (s.mastersymbol i).typespec.simpletype.basetype.pool.map fun k =>
      ⟨k, (s.mastersymbol i).dataoffset⟩ := by
  simp [paramStorage_of_unspecialized hs, h]

@[simp] theorem effArraylen_memcpy (s : ShaderInstance) (p : Option ParamPtr) (data : List Word)
    (n i : Nat) : (s.memcpy p data n).effArraylen i = s.effArraylen i :=
  effArraylen_congr (by simp) (by simp)

/-- Writing a slot of definite length: a new override that records no array length, then a
copy to the slot's storage, which has not moved. -/
@[simp] theorem valueLen_memcpy (s : ShaderInstance) (p : Option ParamPtr) (data : List Word)
    (n i : Nat) : (s.memcpy p data n).valueLen i = s.valueLen i :=
  valueLen_congr (by simp) (by simp)

/-! ### Strict-mode acceptance -/

/-- The slot a binding of `p` is stored in under strict type checking, if it passes every
check of `parameters()`: a non-empty name of a parameter that is neither a closure nor a
structure and whose type is compatible with the value's. -/
def acceptedSlot (m : ShaderMaster) (p : ParamValue) : Option Nat :=
  if p.name.isEmpty then none
  else (m.findparam p.name).filter fun k =>
    !(m.symbol k).typespec.isClosureBased && !(m.symbol k).typespec.isStructure &&
      compatibleParam (m.symbol k).typespec.simpletype p.type

theorem acceptedSlot_mem {m : ShaderMaster} {p : ParamValue} {k : Nat}
    (h : acceptedSlot m p = some k) : m.firstparam ≤ k ∧ k < m.lastparam := by
  unfold acceptedSlot at h
  split at h
  · cases h
  · obtain ⟨h1, -⟩ := Option.filter_eq_some.mp h
    exact ShaderMaster.findparam_mem h1

theorem acceptedSlot_compatible {m : ShaderMaster} {p : ParamValue} {k : Nat}
    (h : acceptedSlot m p = some k) : compatibleParam (m.symbol k).typespec.simpletype p.type := by
  unfold acceptedSlot at h
  split at h
  · cases h
  · simp only [Option.filter_eq_some, Bool.and_eq_true] at h
    exact h.2.2

/-- What a binding `p` with hints `h` accepted for slot `k` leaves there. -/
def boundState (m : ShaderMaster) (k : Nat) (p : ParamValue) (h : ParamHints) : ParamState :=
  let sm := m.symbol k
  let t := sm.typespec.simpletype
  let value := broadcastValue t p.data p.type
  let n := value.2.basevalues
  let so := hintedOverride default sm h
  { valuesource := if !(t.arraylen < 0) && so.lockgeom && !sm.hasInitOps &&
        m.paramDefaultWords k n == value.1.take n then .defaultVal else .instanceVal
    arraylen := if t.arraylen < 0 then ↑(n / t.aggregate.toNat) else t.arraylen
    interpolated := so.interpolated
    interactive := so.interactive
    value := if t.basetype.pool.isSome then value.1.take n else [] }

/-- The last binding of `P` that `parameters()` accepts for slot `k`. -/
def lastBinding (m : ShaderMaster) (k : Nat) (P : List (ParamValue × ParamHints)) :
    Option (ParamValue × ParamHints) :=
  (P.filter fun ph => acceptedSlot m ph.1 == some k).getLast?

theorem mem_of_lastBinding {m : ShaderMaster} {k : Nat} {P : List (ParamValue × ParamHints)}
    {ph : ParamValue × ParamHints} (h : lastBinding m k P = some ph) :
    ph ∈ P ∧ acceptedSlot m ph.1 = some k := by
  simpa using List.mem_filter.mp (List.mem_of_getLast?_eq_some h)

theorem lastBinding_toList (m : ShaderMaster) (k : Nat) (P : List (ParamValue × ParamHints)) :
    lastBinding m k (lastBinding m k P).toList = lastBinding m k P := by
  cases h : lastBinding m k P with
  | none => rfl
  | some ph => simp [lastBinding, (mem_of_lastBinding h).2]

/-! ### Facts about an accepted value -/

theorem broadcastValue_length (t vt : TypeDesc) (data : List Word) (h : vt.basevalues ≤ data.length) :
    (broadcastValue t data vt).2.basevalues ≤ (broadcastValue t data vt).1.length := by
  unfold broadcastValue
  split
  · rename_i hb
    simp only [Bool.and_eq_true, TypeDesc.isVec3, decide_eq_true_eq, Bool.not_eq_true'] at hb
    simp [TypeDesc.basevalues, TypeDesc.numelements, hb.1.1.1, Aggregate.toNat, TypeDesc.isArray] at hb ⊢
    simp_all
  · exact h

/-- A value accepted for a parameter of definite length fills exactly the parameter's words,
unless an indefinite-length value is given to a sized array. -/
theorem broadcastValue_basevalues_of_sized {t vt : TypeDesc} (data : List Word)
    (hc : compatibleParam t vt) (ht : ¬ t.arraylen < 0) (hfit : vt.isUnsizedArray → t.isUnsizedArray) :
    (broadcastValue t data vt).2.basevalues = t.basevalues := by
  unfold broadcastValue
  split
  · rfl
  · rename_i hb
    simp only [compatibleParam, Bool.or_eq_true, hb, Bool.false_eq_true, or_false] at hc
    simp only [TypeDesc.equivalent, Bool.and_eq_true, decide_eq_true_eq, Bool.or_eq_true] at hc
    obtain ⟨⟨-, hagg⟩, hlen⟩ := hc
    simp only [TypeDesc.isUnsizedArray, TypeDesc.isSizedArray, decide_eq_true_eq] at hlen hfit
    simp only [TypeDesc.basevalues, TypeDesc.numelements, hagg]
    rcases hlen with (h | h) | h
    · rw [h]
    · omega
    · exact absurd (hfit h.2) ht

/-- A value accepted for a parameter of definite length never has more words than it. -/
theorem broadcastValue_basevalues_le_of_sized {t vt : TypeDesc} (data : List Word)
    (hc : compatibleParam t vt) (ht : ¬ t.arraylen < 0) :
    (broadcastValue t data vt).2.basevalues ≤ t.basevalues := by
  unfold broadcastValue
  split
  · exact le_rfl
  · rename_i hb
    simp only [compatibleParam, Bool.or_eq_true, hb, Bool.false_eq_true, or_false,
      TypeDesc.equivalent, Bool.and_eq_true, decide_eq_true_eq] at hc
    obtain ⟨⟨-, hagg⟩, hlen⟩ := hc
    simp only [TypeDesc.isUnsizedArray, TypeDesc.isSizedArray, decide_eq_true_eq] at hlen
    simp only [TypeDesc.basevalues, TypeDesc.numelements, hagg]
    apply Nat.mul_le_mul_right
    split <;> split <;> omega

/-- A value accepted for an indefinite-length array has a positive whole number of elements. -/
theorem broadcastValue_basevalues_of_unsized {t vt : TypeDesc} (data : List Word)
    (hc : compatibleParam t vt) (ht : t.arraylen < 0) :
    (broadcastValue t data vt) = (data, vt) ∧ 0 < vt.basevalues / t.aggregate.toNat ∧
      vt.basevalues / t.aggregate.toNat * t.aggregate.toNat = vt.basevalues := by
  have hnv : ¬ (t.isVec3 && vt == TypeDesc.TypeFloat) = true := by
    simp [TypeDesc.isVec3, TypeDesc.isArray]; omega
  simp only [compatibleParam, Bool.or_eq_true, hnv, Bool.false_eq_true, or_false, TypeDesc.equivalent,
    Bool.and_eq_true, decide_eq_true_eq] at hc
  refine ⟨by simp [broadcastValue, hnv], ?_⟩
  rw [TypeDesc.basevalues, hc.1.2, Nat.mul_div_cancel _ (Aggregate.toNat_pos _)]
  exact ⟨TypeDesc.numelements_pos _, rfl⟩

theorem basevalues_with_arraylen (t : TypeDesc) {a : Nat} (h : 0 < a) :
    ({ t with arraylen := (a : Int) } : TypeDesc).basevalues = a * t.aggregate.toNat := by
  have h1 : (1 : Int) ≤ a := by omega
  simp [TypeDesc.basevalues, TypeDesc.numelements, h1]

/-! ### The binding invariant -/

/-- What holds of every instance `parameters()` builds from master `m`, before and after each
binding: it is unspecialized, with `m`'s ranges and one override per slot; a slot of definite
length records no array length; and the values of distinct parameters lie inside their pools
without overlapping. -/
structure BindInv (m : ShaderMaster) (s : ShaderInstance) : Prop where
  master : s.master = m
  unspecialized : s.instsymbols = []
  firstparam : s.firstparam = m.firstparam
  lastparam : s.lastparam = m.lastparam
  length_overrides : s.instoverrides.length = m.lastparam
  sized : ∀ i, ¬ (m.symbol i).typespec.simpletype.arraylen < 0 → (s.override i).arraylen = 0
  inBounds : ∀ i, m.firstparam ≤ i → i < m.lastparam → ∀ p, s.paramStorage i = some p →
    p.offset + s.valueLen i ≤ (s.pool p.pool).length
  disjoint : ∀ i j, m.firstparam ≤ i → i < m.lastparam → m.firstparam ≤ j → j < m.lastparam →
    i ≠ j → ∀ p q, s.paramStorage i = some p → s.paramStorage j = some q → p.pool = q.pool →
    p.offset + s.valueLen i ≤ q.offset ∨ q.offset + s.valueLen j ≤ p.offset

@[simp] theorem override_arraylen_seedParams (m : ShaderMaster) (name : String) (i : Nat) :
    ((create m name).seedParams.override i).arraylen = 0 := by
  simp only [override, seedParams, create, resizeList, List.take_nil, List.nil_append,
    List.length_nil, Nat.sub_zero, List.getD_eq_getElem?_getD, List.getElem?_mapIdx,
    List.getElem?_replicate]
  split <;> rfl

theorem override_seedParams (m : ShaderMaster) (name : String) {k : Nat} (hk : k < m.lastparam) :
    (create m name).seedParams.override k =
      { interpolated := (m.symbol k).interpolated, interactive := (m.symbol k).interactive,
        dataoffset := (m.symbol k).dataoffset } := by
  simp [override, seedParams, create, resizeList, List.getElem?_mapIdx, hk]
  exact ⟨rfl, rfl, rfl⟩

@[simp] theorem pool_seedParams (m : ShaderMaster) (name : String) (k : PoolKind) :
    (create m name).seedParams.pool k = m.defaults k := by
  cases k <;> rfl

@[simp] theorem mastersymbol_seedParams (m : ShaderMaster) (name : String) (i : Nat) :
    (create m name).seedParams.mastersymbol i = m.symbol i := rfl

/-- Seeding a fresh instance of a well-formed master establishes the invariant. -/
theorem bindInv_seedParams (hwf : m.WellFormed) (name : String) :
    BindInv m (create m name).seedParams where
  master := rfl
  unspecialized := rfl
  firstparam := rfl
  lastparam := rfl
  length_overrides := by simp [seedParams, create, resizeList]
  sized i _ := override_arraylen_seedParams m name i
  inBounds i h1 h2 p hp := by
    rw [paramStorage_of_arraylen_zero rfl (by simp)] at hp
    rw [valueLen_of_arraylen_zero (by simp), pool_seedParams]
    obtain ⟨k, hk, rfl⟩ := Option.map_eq_some'.mp hp
    exact hwf.region_le i h1 h2 k _ _ (by simp [ShaderMaster.region]; exact hk)
  disjoint i j h1 h2 h3 h4 hij p q hp hq hpq := by
    rw [paramStorage_of_arraylen_zero rfl (by simp)] at hp hq
    rw [valueLen_of_arraylen_zero (by simp), valueLen_of_arraylen_zero (by simp)]
    obtain ⟨k, hk, rfl⟩ := Option.map_eq_some'.mp hp
    obtain ⟨k', hk', rfl⟩ := Option.map_eq_some'.mp hq
    cases hpq
    exact hwf.region_disjoint i j h1 h2 h3 h4 hij k _ _ _ _ (by simp [ShaderMaster.region]; exact hk)
      (by simp [ShaderMaster.region]; exact hk')

/-- Before any binding a parameter shows its master's default state. -/
theorem paramState_seedParams (m : ShaderMaster) (name : String) {k : Nat} (hk : k < m.lastparam) :
    (create m name).seedParams.paramState k =
      { valuesource := .defaultVal, arraylen := (m.symbol k).typespec.simpletype.arraylen,
        interpolated := (m.symbol k).interpolated, interactive := (m.symbol k).interactive,
        value := m.paramDefaultWords k (m.symbol k).typespec.simpletype.basevalues } := by
  have hz := override_arraylen_seedParams m name k
  simp only [paramState, effArraylen, hz, valueLen_of_arraylen_zero hz,
    paramStorage_of_arraylen_zero rfl hz, override_seedParams m name hk, mastersymbol_seedParams,
    ShaderMaster.paramDefaultWords]
  cases (m.symbol k).typespec.simpletype.basetype.pool <;> simp [readParam, TypeSpec.arraylength]

/-- The invariant survives any change that keeps the instance unspecialized, touches only slot
`k`'s override, only grows the pools, and gives slot `k` storage inside its pool apart from
every other parameter's. -/
theorem BindInv.update (hinv : BindInv m s) {k : Nat} {r : ShaderInstance}
    (hmaster : r.master = m) (hsym : r.instsymbols = []) (hfirst : r.firstparam = m.firstparam)
    (hlast : r.lastparam = m.lastparam) (hlen : r.instoverrides.length = m.lastparam)
    (hother : ∀ j, j ≠ k → r.override j = s.override j)
    (hgrow : ∀ kk, (s.pool kk).length ≤ (r.pool kk).length)
    (hsized : ¬ (m.symbol k).typespec.simpletype.arraylen < 0 → (r.override k).arraylen = 0)
    (hbound : ∀ p, r.paramStorage k = some p → p.offset + r.valueLen k ≤ (r.pool p.pool).length)
    (hsep : ∀ j, m.firstparam ≤ j → j < m.lastparam → j ≠ k → ∀ p q, r.paramStorage k = some p →
      s.paramStorage j = some q → p.pool = q.pool →
      p.offset + r.valueLen k ≤ q.offset ∨ q.offset + s.valueLen j ≤ p.offset) :
    BindInv m r := by
  have hm : r.master = s.master := hmaster.trans hinv.master.symm
  have hst : ∀ j, j ≠ k → r.paramStorage j = s.paramStorage j := fun j hj =>
    paramStorage_congr hsym hinv.unspecialized hm (hother j hj)
  have hvl : ∀ j, j ≠ k → r.valueLen j = s.valueLen j := fun j hj => valueLen_congr hm (hother j hj)
  refine ⟨hmaster, hsym, hfirst, hlast, hlen, fun i hi => ?_, fun i h1 h2 p hp => ?_,
    fun i j h1 h2 h3 h4 hij p q hp hq hpq => ?_⟩
  · by_cases hik : i = k
    · subst hik; exact hsized hi
    · rw [hother i hik]; exact hinv.sized i hi
  · by_cases hik : i = k
    · subst hik; exact hbound p hp
    · rw [hst i hik] at hp
      rw [hvl i hik]
      exact (hinv.inBounds i h1 h2 p hp).trans (hgrow _)
  · by_cases hik : i = k
    · subst hik
      rw [hst j (Ne.symm hij)] at hq
      rw [hvl j (Ne.symm hij)]
      exact hsep j h3 h4 (Ne.symm hij) p q hp hq hpq
    · by_cases hjk : j = k
      · subst hjk
        rw [hst i hik] at hp
        rw [hvl i hik]
        exact (hsep i h1 h2 hik q p hq hp hpq.symm).symm
      · rw [hst i hik] at hp
        rw [hst j hjk] at hq
        rw [hvl i hik, hvl j hjk]
        exact hinv.disjoint i j h1 h2 h3 h4 hij p q hp hq hpq

/-! ### One accepted binding: the invariant -/

theorem paramStorage_setOverride_of_sized (hinv : BindInv m s) (hk : k < m.lastparam)
    (ht : ¬ (m.symbol k).typespec.simpletype.arraylen < 0) {so : SymOverrideInfo}
    (hso : so.arraylen = 0) : (s.setOverride k so).paramStorage k = s.paramStorage k := by
  have hlen : k < s.instoverrides.length := hinv.length_overrides ▸ hk
  have hz : ((s.setOverride k so).override k).arraylen = 0 := by
    rw [override_setOverride_self s so hlen, hso]
  rw [paramStorage_of_arraylen_zero hinv.unspecialized (hinv.sized k ht),
    paramStorage_of_arraylen_zero (s := s.setOverride k so) hinv.unspecialized hz]
  rfl

theorem bindInv_setOverride_memcpy_of_sized (hinv : BindInv m s) (hk0 : m.firstparam ≤ k)
    (hk : k < m.lastparam)
    (ht : ¬ (m.symbol k).typespec.simpletype.arraylen < 0) {so : SymOverrideInfo}
    (hso : so.arraylen = 0) (d : List Word) (n : Nat) :
    BindInv m ((s.setOverride k so).memcpy ((s.setOverride k so).paramStorage k) d n) := by
  have hlen : k < s.instoverrides.length := hinv.length_overrides ▸ hk
  have hz : ((s.setOverride k so).override k).arraylen = 0 := by
    rw [override_setOverride_self s so hlen, hso]
  have hst : (s.setOverride k so).paramStorage k = s.paramStorage k := by
    rw [paramStorage_of_arraylen_zero hinv.unspecialized (hinv.sized k ht),
      paramStorage_of_arraylen_zero (s := s.setOverride k so) hinv.unspecialized hz]
    rfl
  have hvl : (s.setOverride k so).valueLen k = s.valueLen k := by
    rw [valueLen_of_arraylen_zero (hinv.sized k ht), valueLen_of_arraylen_zero hz]
    rfl
  refine hinv.update (k := k) (by simp [hinv.master]) (by simp [hinv.unspecialized])
    (by simp [hinv.firstparam]) (by simp [hinv.lastparam]) (by simp [hinv.length_overrides])
    (fun j hj => by simp [override_setOverride _ _ _ _ hlen, Ne.symm hj])
    (fun kk => by simp [length_pool_memcpy]) (fun _ => by simpa using hz)
    (fun p hp => ?_) (fun j h1 h2 hj p q hp hq hpq => ?_)
  · rw [paramStorage_memcpy, hst] at hp
    rw [length_pool_memcpy, pool_setOverride, valueLen_memcpy, hvl]
    exact hinv.inBounds k hk0 hk p hp
  · rw [paramStorage_memcpy, hst] at hp
    rw [valueLen_memcpy, hvl]
    exact hinv.disjoint k j hk0 hk h1 h2 (Ne.symm hj) p q hp hq hpq

/-- A slot whose override records an array length is stored at the override's offset. -/
theorem paramStorage_setOverride_of_arraylen_ne {x : ShaderInstance} (hm : x.master = m)
    (hs : x.instsymbols = []) (hk : k < x.instoverrides.length) {kk : PoolKind}
    (hpool : (m.symbol k).typespec.simpletype.basetype.pool = some kk) {so : SymOverrideInfo}
    (hne : so.arraylen ≠ 0) : (x.setOverride k so).paramStorage k = some ⟨kk, so.dataoffset⟩ := by
  have ho := override_setOverride_self x so hk
  rw [paramStorage_of_unspecialized (by simp [hs]), ho]
  simp [mastersymbol, hm, hpool, hne]

theorem valueLen_setOverride_self {x : ShaderInstance} {j : Nat} (hj : j < x.instoverrides.length)
    {so : SymOverrideInfo} {n : Nat}
    (hso : so.arraylen = ↑(n / (x.mastersymbol j).typespec.simpletype.aggregate.toNat))
    (hpos : 0 < n / (x.mastersymbol j).typespec.simpletype.aggregate.toNat)
    (hmul : n / (x.mastersymbol j).typespec.simpletype.aggregate.toNat *
      (x.mastersymbol j).typespec.simpletype.aggregate.toNat = n) :
    (x.setOverride j so).valueLen j = n := by
  have hne : ((x.setOverride j so).override j).arraylen ≠ 0 := by
    rw [override_setOverride_self _ _ hj, hso]; omega
  rw [valueLen_of_arraylen_ne hne, override_setOverride_self _ _ hj, hso, mastersymbol_setOverride,
    basevalues_with_arraylen _ hpos, hmul]

/-- Writing an indefinite-length slot: its `n` words go to fresh storage at the end of its
pool, which lies past every other parameter's. -/
theorem bindInv_expand_setOverride_memcpy (hinv : BindInv m s) (hk : k < m.lastparam) (ht : (m.symbol k).typespec.simpletype.arraylen < 0) {kk : PoolKind}
    (hpool : (m.symbol k).typespec.simpletype.basetype.pool = some kk) (so : SymOverrideInfo)
    {n : Nat} (hpos : 0 < n / (m.symbol k).typespec.simpletype.aggregate.toNat)
    (hmul : n / (m.symbol k).typespec.simpletype.aggregate.toNat *
      (m.symbol k).typespec.simpletype.aggregate.toNat = n) (d : List Word) :
    let s' := (s.expand kk n).setOverride k { so with
      arraylen := ↑(n / (m.symbol k).typespec.simpletype.aggregate.toNat),
      dataoffset := (s.pool kk).length }
    BindInv m (s'.memcpy (s'.paramStorage k) d n) := by
  intro s'
  have hlen : k < s.instoverrides.length := hinv.length_overrides ▸ hk
  have hms : s'.mastersymbol k = m.symbol k := by simp [s', mastersymbol, hinv.master]
  have hlen' : k < (s.expand kk n).instoverrides.length := by simpa using hlen
  have ho : s'.override k = { so with
      arraylen := ↑(n / (m.symbol k).typespec.simpletype.aggregate.toNat),
      dataoffset := (s.pool kk).length } := override_setOverride_self _ _ hlen'
  have hne : (s'.override k).arraylen ≠ 0 := by rw [ho]; simp; omega
  have hps : s'.paramStorage k = some ⟨kk, (s.pool kk).length⟩ :=
    paramStorage_setOverride_of_arraylen_ne (by simp [hinv.master]) (by simp [hinv.unspecialized])
      hlen' hpool (ho ▸ hne)
  have hvl : s'.valueLen k = n := by
    rw [valueLen_of_arraylen_ne hne, hms, ho]
    simp only []
    rw [basevalues_with_arraylen _ hpos, hmul]
  refine hinv.update (k := k) (by simp [s', hinv.master])
    (by simp [s', hinv.unspecialized]) (by simp [s', hinv.firstparam])
    (by simp [s', hinv.lastparam]) (by simp [s', hinv.length_overrides])
    (fun j hj => by simp [s', override_setOverride _ _ _ _ hlen', Ne.symm hj])
    (fun kk' => by simp [s', length_pool_memcpy, length_pool_expand])
    (fun h => absurd ht h) (fun p hp => ?_) (fun j h1 h2 hj p q hp hq hpq => ?_)
  · rw [paramStorage_memcpy, hps] at hp
    cases hp
    rw [valueLen_memcpy, hvl, length_pool_memcpy, pool_setOverride, length_pool_expand, if_pos rfl]
  · rw [paramStorage_memcpy, hps] at hp
    cases hp
    right
    have := hinv.inBounds j h1 h2 q hq
    rw [← hpq] at this
    exact this

/-- Writing an indefinite-length slot whose base type has no pool stores nothing. -/
theorem bindInv_setOverride_of_no_pool (hinv : BindInv m s) (hk : k < m.lastparam)
    (ht : (m.symbol k).typespec.simpletype.arraylen < 0)
    (hpool : (m.symbol k).typespec.simpletype.basetype.pool = none) (so : SymOverrideInfo)
    (d : List Word) (n : Nat) :
    BindInv m ((s.setOverride k so).memcpy ((s.setOverride k so).paramStorage k) d n) := by
  have hlen : k < s.instoverrides.length := hinv.length_overrides ▸ hk
  have hps : (s.setOverride k so).paramStorage k = none := by
    rw [paramStorage_of_unspecialized (by simp [hinv.unspecialized])]
    simp [mastersymbol, hinv.master, hpool]
  rw [hps]
  refine hinv.update (k := k) (by simp [hinv.master]) (by simp [hinv.unspecialized])
    (by simp [hinv.firstparam]) (by simp [hinv.lastparam]) (by simp [hinv.length_overrides])
    (fun j hj => by simp [override_setOverride _ _ _ _ hlen, Ne.symm hj]) (fun kk => by simp [memcpy])
    (fun h => absurd ht h) (fun p hp => ?_) (fun j _ _ _ p q hp => ?_)
  all_goals simp [memcpy, hps] at hp

/-- One accepted binding keeps the invariant. -/
theorem bindInv_storeParam (hinv : BindInv m s) (hk0 : m.firstparam ≤ k) (hk : k < m.lastparam)
    (h : ParamHints) (data : List Word) {vt : TypeDesc}
    (hc : compatibleParam (m.symbol k).typespec.simpletype vt) :
    BindInv m (storeParam s k (m.symbol k) h data vt) := by
  by_cases ht : (m.symbol k).typespec.simpletype.arraylen < 0
  · obtain ⟨hb, hpos, hmul⟩ := broadcastValue_basevalues_of_unsized data hc ht
    rw [storeParam_of_unsized ht]
    simp only [hb]
    cases hpool : (m.symbol k).typespec.simpletype.basetype.pool with
    | none =>
      rw [allocUnsized_of_no_pool hpool]
      exact bindInv_setOverride_of_no_pool hinv hk ht hpool _ _ _
    | some kk =>
      rw [allocUnsized_of_pool hpool]
      exact bindInv_expand_setOverride_memcpy hinv hk ht hpool _ hpos hmul _
  · rw [storeParam_of_sized ht]
    exact bindInv_setOverride_memcpy_of_sized hinv hk0 hk ht
      (by split <;> simp [hintedOverride, hinv.sized k ht]) _ _

/-! ### One accepted binding: the other slots -/

/-- After a copy into slot `j`'s storage of at most its length, every other parameter reads what
it read before: the invariant of the result keeps the two regions apart. -/
theorem readParam_memcpy_of_ne {y : ShaderInstance} (d : List Word) {n j k : Nat}
    (hr : BindInv m (y.memcpy (y.paramStorage j) d n)) (hj0 : m.firstparam ≤ j)
    (hj : j < m.lastparam) (hk0 : m.firstparam ≤ k) (hk : k < m.lastparam) (hjk : j ≠ k)
    (hn : n ≤ y.valueLen j) :
    (y.memcpy (y.paramStorage j) d n).readParam (y.paramStorage k) (y.valueLen k) =
      y.readParam (y.paramStorage k) (y.valueLen k) := by
  cases hp : y.paramStorage j with
  | none => rfl
  | some p =>
    cases hq : y.paramStorage k with
    | none => rfl
    | some q =>
      apply readParam_memcpy_of_disjoint
      by_cases hpq : p.pool = q.pool
      · have := hr.disjoint j k hj0 hj hk0 hk hjk p q (by simp [hp]) (by simp [hq]) hpq
        simp only [valueLen_memcpy] at this
        omega
      · exact Or.inl hpq

theorem paramStorage_setOverride_of_ne (hs : s.instsymbols = []) {j k : Nat} (hjk : j ≠ k)
    (hj : j < s.instoverrides.length) (so : SymOverrideInfo) :
    (s.setOverride j so).paramStorage k = s.paramStorage k :=
  paramStorage_congr hs hs rfl (by simp [override_setOverride _ _ _ _ hj, hjk])

theorem valueLen_setOverride_of_ne {j k : Nat} (hjk : j ≠ k) (hj : j < s.instoverrides.length)
    (so : SymOverrideInfo) : (s.setOverride j so).valueLen k = s.valueLen k :=
  valueLen_congr rfl (by simp [override_setOverride _ _ _ _ hj, hjk])

theorem paramState_setOverride_memcpy_of_ne (hs : s.instsymbols = []) {j k : Nat}
    (hjk : j ≠ k) (hj : j < s.instoverrides.length) (so : SymOverrideInfo) (d : List Word)
    (n : Nat) (hr : BindInv m ((s.setOverride j so).memcpy ((s.setOverride j so).paramStorage j) d n))
    (hj0 : m.firstparam ≤ j) (hjl : j < m.lastparam) (hk0 : m.firstparam ≤ k) (hk : k < m.lastparam)
    (hn : n ≤ (s.setOverride j so).valueLen j) :
    ((s.setOverride j so).memcpy ((s.setOverride j so).paramStorage j) d n).paramState k =
      s.paramState k := by
  have hv := readParam_memcpy_of_ne d hr hj0 hjl hk0 hk hjk hn
  rw [paramStorage_setOverride_of_ne hs hjk hj, valueLen_setOverride_of_ne hjk hj,
    readParam_setOverride] at hv
  simp only [paramState, override_memcpy, paramStorage_memcpy, valueLen_memcpy,
    paramStorage_setOverride_of_ne hs hjk hj, valueLen_setOverride_of_ne hjk hj, hv,
    override_setOverride _ _ _ _ hj, if_neg hjk]
  simp [effArraylen, override_setOverride _ _ _ _ hj, hjk, mastersymbol]

theorem paramState_expand (kk : PoolKind) (n : Nat)
    (hb : ∀ p, s.paramStorage i = some p → p.offset + s.valueLen i ≤ (s.pool p.pool).length) :
    (s.expand kk n).paramState i = s.paramState i := by
  have hst : (s.expand kk n).paramStorage i = s.paramStorage i := by simp [expand]
  have hvl : (s.expand kk n).valueLen i = s.valueLen i := valueLen_congr (by simp) (by simp)
  have hef : (s.expand kk n).effArraylen i = s.effArraylen i := effArraylen_congr (by simp) (by simp)
  simp only [paramState, hst, hvl, hef, override_expand]
  cases hp : s.paramStorage i with
  | none => rfl
  | some p => rw [readParam_expand_of_le _ _ _ _ _ (hb p hp)]

/-- An accepted binding of slot `j` leaves the observable state of every other parameter as it
was. -/
theorem paramState_storeParam_of_ne (hinv : BindInv m s) {j k : Nat} (hj0 : m.firstparam ≤ j)
    (hj : j < m.lastparam) (hk0 : m.firstparam ≤ k) (hk : k < m.lastparam) (hjk : j ≠ k)
    (h : ParamHints) (data : List Word) {vt : TypeDesc}
    (hc : compatibleParam (m.symbol j).typespec.simpletype vt) :
    (storeParam s j (m.symbol j) h data vt).paramState k = s.paramState k := by
  have hr := bindInv_storeParam hinv hj0 hj h data hc
  have hlen : j < s.instoverrides.length := hinv.length_overrides ▸ hj
  have hms : ∀ x : ShaderInstance, x.master = m → x.mastersymbol j = m.symbol j := by
    intro x hx; simp [mastersymbol, hx]
  by_cases ht : (m.symbol j).typespec.simpletype.arraylen < 0
  · obtain ⟨hb, hpos, hmul⟩ := broadcastValue_basevalues_of_unsized data hc ht
    rw [storeParam_of_unsized ht] at hr ⊢
    simp only [hb] at hr ⊢
    cases hpool : (m.symbol j).typespec.simpletype.basetype.pool with
    | none =>
      rw [allocUnsized_of_no_pool hpool] at hr ⊢
      refine paramState_setOverride_memcpy_of_ne hinv.unspecialized hjk hlen _ _ _ hr hj0 hj hk0 hk
        (valueLen_setOverride_self hlen ?_ ?_ ?_).ge <;> simp [hms s hinv.master, hpos, hmul]
    | some kk =>
      rw [allocUnsized_of_pool hpool] at hr ⊢
      have hlen' : j < (s.expand kk vt.basevalues).instoverrides.length := by simpa using hlen
      rw [paramState_setOverride_memcpy_of_ne (by simp [hinv.unspecialized]) hjk hlen' _ _ _ hr hj0
        hj hk0 hk, paramState_expand _ _ (hinv.inBounds k hk0 hk)]
      have hm' := hms (s.expand kk vt.basevalues) (by simp [hinv.master])
      exact (valueLen_setOverride_self hlen' (by simp [hm']) (by simp [hm', hpos])
        (by simp [hm', hmul])).ge
  · rw [storeParam_of_sized ht] at hr ⊢
    refine paramState_setOverride_memcpy_of_ne hinv.unspecialized hjk hlen _ _ _ hr hj0 hj hk0 hk ?_
    rw [valueLen_of_arraylen_zero (by split <;> simp [override_setOverride_self _ _ hlen,
      hintedOverride, hinv.sized j ht]), mastersymbol_setOverride, hms s hinv.master]
    exact broadcastValue_basevalues_le_of_sized data hc ht

/-! ### One accepted binding: its own slot -/

/-- Copying a slot's own words into its storage: the slot then reads them. -/
theorem paramState_memcpy_self {y : ShaderInstance} {d : List Word} {n : Nat}
    (hn : y.valueLen i = n) (hd : n ≤ d.length)
    (hb : ∀ p, y.paramStorage i = some p → p.offset + n ≤ (y.pool p.pool).length) :
    (y.memcpy (y.paramStorage i) d n).paramState i =
      { y.paramState i with value := if (y.paramStorage i).isSome then d.take n else [] } := by
  simp only [paramState, override_memcpy, paramStorage_memcpy, valueLen_memcpy, effArraylen_memcpy, hn]
  cases hp : y.paramStorage i with
  | none => rfl
  | some p => simp [readParam_memcpy_self _ _ _ _ hd (hb p hp)]

/-- A write of `n` words to a slot of definite length `n`: the slot then shows the new
override's flags and the written words. -/
theorem paramState_setOverride_memcpy_of_sized (hinv : BindInv m s) (hk0 : m.firstparam ≤ k)
    (hk : k < m.lastparam) (ht : ¬ (m.symbol k).typespec.simpletype.arraylen < 0)
    {so : SymOverrideInfo} (hso : so.arraylen = 0) {d : List Word} {n : Nat}
    (hn : (m.symbol k).typespec.simpletype.basevalues = n) (hd : n ≤ d.length) :
    ((s.setOverride k so).memcpy ((s.setOverride k so).paramStorage k) d n).paramState k =
      { valuesource := so.valuesource, arraylen := (m.symbol k).typespec.simpletype.arraylen,
        interpolated := so.interpolated, interactive := so.interactive,
        value := if (m.symbol k).typespec.simpletype.basetype.pool.isSome then d.take n else [] } := by
  have hlen : k < s.instoverrides.length := hinv.length_overrides ▸ hk
  have hms : (s.setOverride k so).mastersymbol k = m.symbol k := by simp [mastersymbol, hinv.master]
  have ho := override_setOverride_self s so hlen
  have hvl : (s.setOverride k so).valueLen k = n := by
    rw [valueLen_of_arraylen_zero (by rw [ho, hso]), hms, hn]
  have hb : ∀ q, (s.setOverride k so).paramStorage k = some q →
      q.offset + n ≤ ((s.setOverride k so).pool q.pool).length := by
    intro q hq
    rw [paramStorage_setOverride_of_sized hinv hk ht hso] at hq
    have := hinv.inBounds k hk0 hk q hq
    rw [valueLen_of_arraylen_zero (hinv.sized k ht)] at this
    simpa [mastersymbol, hinv.master, hn] using this
  rw [paramState_memcpy_self hvl hd hb, isSome_paramStorage (by simp [hinv.unspecialized]), hms]
  simp [paramState, effArraylen, ho, hso, hms, TypeSpec.arraylength]

/-- A write of `n` words to an indefinite-length slot given `n / aggregate` elements. -/
theorem paramState_setOverride_memcpy_of_unsized {x : ShaderInstance} (hm : x.master = m)
    (hs : x.instsymbols = []) (hk : k < x.instoverrides.length) {so : SymOverrideInfo}
    {d : List Word} {n : Nat}
    (hso : so.arraylen = ↑(n / (m.symbol k).typespec.simpletype.aggregate.toNat))
    (hpos : 0 < n / (m.symbol k).typespec.simpletype.aggregate.toNat)
    (hmul : n / (m.symbol k).typespec.simpletype.aggregate.toNat *
      (m.symbol k).typespec.simpletype.aggregate.toNat = n) (hd : n ≤ d.length)
    (hb : ∀ q, (x.setOverride k so).paramStorage k = some q → q.offset + n ≤ (x.pool q.pool).length) :
    ((x.setOverride k so).memcpy ((x.setOverride k so).paramStorage k) d n).paramState k =
      { valuesource := so.valuesource, arraylen := so.arraylen,
        interpolated := so.interpolated, interactive := so.interactive,
        value := if (m.symbol k).typespec.simpletype.basetype.pool.isSome then d.take n else [] } := by
  have hms : ∀ y : ShaderInstance, y.master = m → y.mastersymbol k = m.symbol k := by
    intro y hy; simp [mastersymbol, hy]
  have ho := override_setOverride_self x so hk
  have hvl : (x.setOverride k so).valueLen k = n :=
    valueLen_setOverride_self hk (by rw [hso, hms x hm]) (by rwa [hms x hm]) (by rwa [hms x hm])
  have hne : so.arraylen ≠ 0 := by rw [hso]; omega
  rw [paramState_memcpy_self hvl hd (by simpa using hb), isSome_paramStorage (by simp [hs]),
    hms _ (by simp [hm])]
  simp [paramState, effArraylen, ho, hne]

/-- What an accepted binding of slot `k` leaves in slot `k` depends on that binding alone. -/
theorem paramState_storeParam_self (hinv : BindInv m s) (hk0 : m.firstparam ≤ k)
    (hk : k < m.lastparam) (p : ParamValue) (h : ParamHints)
    (hc : compatibleParam (m.symbol k).typespec.simpletype p.type)
    (hfit : p.type.isUnsizedArray → (m.symbol k).typespec.simpletype.isUnsizedArray) :
    (storeParam s k (m.symbol k) h p.data p.type).paramState k = boundState m k p h := by
  have hd := broadcastValue_length (m.symbol k).typespec.simpletype p.type p.data p.hdata
  have hlen : k < s.instoverrides.length := hinv.length_overrides ▸ hk
  by_cases ht : (m.symbol k).typespec.simpletype.arraylen < 0
  · obtain ⟨hb, hpos, hmul⟩ := broadcastValue_basevalues_of_unsized p.data hc ht
    rw [storeParam_of_unsized ht]
    simp only [hb] at hd ⊢
    cases hpool : (m.symbol k).typespec.simpletype.basetype.pool with
    | none =>
      rw [allocUnsized_of_no_pool hpool, paramState_setOverride_memcpy_of_unsized hinv.master
        hinv.unspecialized hlen rfl hpos hmul hd]
      · simp [boundState, ht, hb, hpool, hintedOverride]
      · intro q hq
        rw [paramStorage_of_unspecialized (by simp [hinv.unspecialized])] at hq
        simp [mastersymbol, hinv.master, hpool] at hq
    | some kk =>
      rw [allocUnsized_of_pool hpool, paramState_setOverride_memcpy_of_unsized (by simp [hinv.master])
        (by simp [hinv.unspecialized]) (by simpa using hlen) rfl hpos hmul hd]
      · simp [boundState, ht, hb, hpool, hintedOverride]
      · intro q hq
        rw [paramStorage_setOverride_of_arraylen_ne (by simp [hinv.master])
          (by simp [hinv.unspecialized]) (by simpa using hlen) hpool (by simp; omega)] at hq
        cases hq
        simp [length_pool_expand]
  · have hn := broadcastValue_basevalues_of_sized p.data hc ht hfit
    rw [storeParam_of_sized ht]
    simp only []
    rw [paramState_setOverride_memcpy_of_sized hinv hk0 hk ht
      (by split <;> simp [hintedOverride, hinv.sized k ht]) hn.symm hd]
    simp only [boundState, hinv.master, ht, lockgeom_hintedOverride, decide_False, Bool.not_false,
      Bool.true_and]
    split <;> simp_all [hintedOverride]

/-! ### The binding loop -/

theorem findparam_of_bindInv (hinv : BindInv m s) (name : String) :
    s.findparam name = m.findparam name := by
  simp [findparam, hinv.unspecialized, hinv.firstparam, hinv.lastparam, ShaderMaster.findparam,
    mastersymbol, hinv.master]

/-- Under strict type checking a binding either stores its value in the slot `acceptedSlot`
names, or changes nothing. -/
theorem bindParam_fst {ss : ShadingSystem} (hstrict : ss.relaxedParamTypecheck = false)
    (hinv : BindInv m s) (p : ParamValue) (h : ParamHints) :
    (bindParam ss s p h).1 = match acceptedSlot m p with
      | some k => storeParam s k (m.symbol k) h p.data p.type
      | none => s := by
  unfold bindParam acceptedSlot
  split
  · rfl
  · rw [findparam_of_bindInv hinv]
    cases m.findparam p.name with
    | none => rfl
    | some k =>
      simp only [mastersymbol, hinv.master, Option.filter_some, typecheckParam_of_strict hstrict]
      by_cases h1 : (m.symbol k).typespec.isClosureBased <;>
        by_cases h2 : (m.symbol k).typespec.isStructure <;>
        by_cases h3 : compatibleParam (m.symbol k).typespec.simpletype p.type <;>
        simp [h1, h2, h3]

/-- The instance `parameters()` returns is the fold of the binding loop over the seeded
instance; the diagnostics ride along. -/
theorem parameters_fst (inst : ShaderInstance) (P : List (ParamValue × ParamHints)) :
    (parameters ss inst P).1 = P.foldl (fun s ph => (bindParam ss s ph.1 ph.2).1) inst.seedParams := by
  suffices ∀ acc : ShaderInstance × List ParamDiag, (P.foldl (fun acc ph =>
      let r := bindParam ss acc.1 ph.1 ph.2
      (r.1, acc.2 ++ r.2)) acc).1 = P.foldl (fun s ph => (bindParam ss s ph.1 ph.2).1) acc.1 from
    this _
  induction P with
  | nil => intro acc; rfl
  | cons ph P ih => intro acc; exact ih _

section Strict

variable {ss : ShadingSystem} (hstrict : ss.relaxedParamTypecheck = false)
include hstrict

/-- One iteration of the loop keeps the invariant. -/
theorem bindInv_bindParam (hinv : BindInv m s) (p : ParamValue) (h : ParamHints) :
    BindInv m (bindParam ss s p h).1 := by
  rw [bindParam_fst hstrict hinv]
  cases hacc : acceptedSlot m p with
  | none => exact hinv
  | some k =>
    obtain ⟨hk0, hk⟩ := acceptedSlot_mem hacc
    exact bindInv_storeParam hinv hk0 hk h p.data (acceptedSlot_compatible hacc)

/-- A binding that is not accepted for slot `k` leaves slot `k` as it was. -/
theorem paramState_bindParam_of_ne (hinv : BindInv m s) {p : ParamValue} (h : ParamHints)
    {k : Nat} (hk0 : m.firstparam ≤ k) (hk : k < m.lastparam) (hne : acceptedSlot m p ≠ some k) :
    (bindParam ss s p h).1.paramState k = s.paramState k := by
  rw [bindParam_fst hstrict hinv]
  cases hacc : acceptedSlot m p with
  | none => rfl
  | some j =>
    obtain ⟨hj0, hj⟩ := acceptedSlot_mem hacc
    exact paramState_storeParam_of_ne hinv hj0 hj hk0 hk (fun e => hne (e ▸ hacc)) h p.data
      (acceptedSlot_compatible hacc)

/-- A binding accepted for slot `k` sets it to what that binding alone gives. -/
theorem paramState_bindParam_self (hinv : BindInv m s) {p : ParamValue} (h : ParamHints)
    {k : Nat} (hacc : acceptedSlot m p = some k)
    (hfit : p.type.isUnsizedArray → (m.symbol k).typespec.simpletype.isUnsizedArray) :
    (bindParam ss s p h).1.paramState k = boundState m k p h := by
  obtain ⟨hk0, hk⟩ := acceptedSlot_mem hacc
  rw [bindParam_fst hstrict hinv, hacc]
  exact paramState_storeParam_self hinv hk0 hk p h (acceptedSlot_compatible hacc) hfit

/-- The whole loop keeps the invariant. -/
theorem bindInv_foldl (hinv : BindInv m s) (P : List (ParamValue × ParamHints)) :
    BindInv m (P.foldl (fun s ph => (bindParam ss s ph.1 ph.2).1) s) := by
  induction P generalizing s with
  | nil => exact hinv
  | cons ph P ih => exact ih (bindInv_bindParam hstrict hinv ph.1 ph.2)

/-- The binding loop is last-accepted-write-wins on each slot. -/
theorem paramState_foldl (hinv : BindInv m s) (P : List (ParamValue × ParamHints))
    (hfit : ∀ ph ∈ P, ph.1.type.isUnsizedArray → ∀ j, acceptedSlot m ph.1 = some j →
      (m.symbol j).typespec.simpletype.isUnsizedArray)
    {k : Nat} (hk0 : m.firstparam ≤ k) (hk : k < m.lastparam) :
    (P.foldl (fun s ph => (bindParam ss s ph.1 ph.2).1) s).paramState k =
      match lastBinding m k P with
      | some ph => boundState m k ph.1 ph.2
      | none => s.paramState k := by
  induction P using List.reverseRecOn with
  | nil => rfl
  | append_singleton P ph ih =>
    rw [List.foldl_append, List.foldl_cons, List.foldl_nil]
    have hinv' := bindInv_foldl hstrict hinv P
    by_cases hacc : acceptedSlot m ph.1 = some k
    · rw [paramState_bindParam_self hstrict hinv' ph.2 hacc
        (fun hu => hfit ph (by simp) hu k hacc)]
      simp [lastBinding, hacc]
    · rw [paramState_bindParam_of_ne hstrict hinv' ph.2 hk0 hk hacc,
        ih (fun q hq => hfit q (by simp [hq]))]
      simp [lastBinding, hacc]

end Strict

/-! ### Last accepted binding wins -/

/-- A master with one float parameter `Kd`, default `8`, read by its code. -/
def kdMaster : ShaderMaster where
  shadername := "plastic"
  symbols := [{ name := "Kd", typespec := { simpletype := TypeDesc.TypeFloat }, symtype := .param,
                everread := true, everusedInGroup := true }]
  fdefaults := [8]
  firstparam := 0
  lastparam := 1

/-- The same master with `Kd` declared interpolated. -/
def kdLerpMaster : ShaderMaster :=
  { kdMaster with
    symbols := [{ name := "Kd", typespec := { simpletype := TypeDesc.TypeFloat },
                  symtype := .param, everread := true, everusedInGroup := true,
                  interpolated := true }] }

/-- The same master with `Kd` declared interactive; the overrides of its layers start from that
flag, and a binding without the interactive hint clears it. -/
def kdLiveMaster : ShaderMaster :=
  { kdMaster with
    symbols := [{ name := "Kd", typespec := { simpletype := TypeDesc.TypeFloat },
                  symtype := .param, everread := true, everusedInGroup := true,
                  interactive := true }] }

/-- A binding of `Kd` to one float. -/
def kdValue (v : Word) : ParamValue := ⟨"Kd", TypeDesc.TypeFloat, [v], le_of_eq rfl⟩

/-- A shading system with strict type checking and no renderer outputs; `ud` says whether
instances with userdata may be merged. -/
def strictSystem (ud : Bool) : ShadingSystem where
  relaxedParamTypecheck := false
  relaxedEquivalent := fun _ _ => false
  intToFloat := id
  floatToInt := id
  isRendererOutput := fun _ _ => false
  optMergeInstancesWithUserdata := ud

theorem kdMaster_wellFormed : kdMaster.WellFormed where
  lastparam_le := by decide
  region_le i h1 h2 k off n h := by
    obtain rfl : i = 0 := by simp [kdMaster] at h1 h2; omega
    simp only [ShaderMaster.region, kdMaster] at h
    cases h
    decide
  region_disjoint i j h1 h2 h3 h4 hij := by simp [kdMaster] at h1 h2 h3 h4; omega

theorem kdLiveMaster_wellFormed : kdLiveMaster.WellFormed where
  lastparam_le := by decide
  region_le i h1 h2 k off n h := by
    obtain rfl : i = 0 := by simp [kdLiveMaster, kdMaster] at h1 h2; omega
    simp only [ShaderMaster.region, kdLiveMaster, kdMaster] at h
    cases h
    decide
  region_disjoint i j h1 h2 h3 h4 hij := by simp [kdLiveMaster, kdMaster] at h1 h2 h3 h4; omega

/-- Parameter binding under strict type checking: on each parameter the last accepted binding
wins; a rejected binding changes nothing; a binding changes no other parameter; and a
parameter that is lockgeom in its master, without init ops and not an array, re-bound without
hints to its default words looks as if it had never been bound. -/
theorem parameters_last_accepted_wins {ss : ShadingSystem}
    (hstrict : ss.relaxedParamTypecheck = false) {m : ShaderMaster} (hwf : m.WellFormed)
    (name : String) (P : List (ParamValue × ParamHints))
    (hfit : ∀ ph ∈ P, ph.1.type.isUnsizedArray → ∀ j, acceptedSlot m ph.1 = some j →
      (m.symbol j).typespec.simpletype.isUnsizedArray) :
    (∀ k, m.firstparam ≤ k → k < m.lastparam →
      (parameters ss (create m name) P).1.paramState k =
        (parameters ss (create m name) (lastBinding m k P).toList).1.paramState k) ∧
    (∀ p h, acceptedSlot m p = none →
      (parameters ss (create m name) (P ++ [(p, h)])).1 = (parameters ss (create m name) P).1) ∧
    (∀ p h j k, acceptedSlot m p = some j → j ≠ k → m.firstparam ≤ k → k < m.lastparam →
      (parameters ss (create m name) (P ++ [(p, h)])).1.paramState k =
        (parameters ss (create m name) P).1.paramState k) ∧
    (∀ p k, acceptedSlot m p = some k → p.type = (m.symbol k).typespec.simpletype →
      (m.symbol k).typespec.simpletype.arraylen = 0 → (m.symbol k).hasInitOps = false →
      (m.symbol k).lockgeom = true →
      p.data.take p.type.basevalues = m.paramDefaultWords k p.type.basevalues →
      (parameters ss (create m name) (P ++ [(p, ({} : ParamHints))])).1.paramState k =
        (create m name).seedParams.paramState k) := by
  have hseed := bindInv_seedParams hwf name
  have hinv := bindInv_foldl hstrict hseed P
  refine ⟨fun k hk0 hk => ?_, fun p h hacc => ?_, fun p h j k hacc hjk hk0 hk => ?_,
    fun p k hacc hty harr hinit hlock hdef => ?_⟩
  · rw [parameters_fst, parameters_fst, paramState_foldl hstrict hseed P hfit hk0 hk,
      paramState_foldl hstrict hseed _ (fun ph hph => hfit ph
        (mem_of_lastBinding (by simpa using hph)).1) hk0 hk,
      lastBinding_toList]
  · rw [parameters_fst, parameters_fst, List.foldl_append, List.foldl_cons, List.foldl_nil,
      bindParam_fst hstrict hinv, hacc]
  · rw [parameters_fst, parameters_fst, List.foldl_append, List.foldl_cons, List.foldl_nil,
      paramState_bindParam_of_ne hstrict hinv h hk0 hk (by rw [hacc]; simpa using hjk)]
  · obtain ⟨hk0, hk⟩ := acceptedSlot_mem hacc
    have hfit' : p.type.isUnsizedArray → (m.symbol k).typespec.simpletype.isUnsizedArray := by
      simp [hty, harr, TypeDesc.isUnsizedArray]
    rw [parameters_fst, List.foldl_append, List.foldl_cons, List.foldl_nil,
      paramState_bindParam_self hstrict hinv _ hacc hfit', paramState_seedParams m name hk]
    rw [hty] at hdef
    simp only [Symbol.lockgeom, Bool.and_eq_true, Bool.not_eq_true'] at hlock
    simp only [boundState, hty, broadcastValue_self, harr, hinit, lockgeom_hintedOverride, hlock, hdef]
    cases hp : (m.symbol k).typespec.simpletype.basetype.pool <;>
      simp [hintedOverride, hlock, ShaderMaster.paramDefaultWords, hp]

/-- `Kd` bound once keeps that binding, and re-bound to its default it reads as never bound. -/
theorem parameters_last_accepted_wins_kd :
    (parameters (strictSystem false) (create kdMaster "a")
      [(kdValue 5, ({} : ParamHints))]).1.paramState 0 =
      (parameters (strictSystem false) (create kdMaster "a")
        (lastBinding kdMaster 0 [(kdValue 5, ({} : ParamHints))]).toList).1.paramState 0 ∧
    (parameters (strictSystem false) (create kdMaster "a")
      ([(kdValue 5, ({} : ParamHints))] ++ [(kdValue 8, ({} : ParamHints))])).1.paramState 0 =
      (create kdMaster "a").seedParams.paramState 0 :=
  have h := parameters_last_accepted_wins rfl kdMaster_wellFormed "a"
    [(kdValue 5, ({} : ParamHints))] (by simp [kdValue, TypeDesc.isUnsizedArray, TypeDesc.TypeFloat])
  ⟨h.1 0 le_rfl (by decide),
    h.2.2.2 (kdValue 8) 0 (by decide) rfl rfl (by decide) (by decide) (by decide)⟩

/-- Re-binding an interpolated parameter to its default words does not give back the state it
had before any binding: the value source stays instance-valued. -/
theorem rebind_default_interpolated :
    (parameters (strictSystem false) (create kdLerpMaster "a")
      [(kdValue 5, ({} : ParamHints)), (kdValue 8, ({} : ParamHints))]).1.paramState 0 ≠
      (parameters (strictSystem false) (create kdLerpMaster "a") []).1.paramState 0 := by
  decide

end ShaderInstance

end OslExec
