import OslExec.Dictionary

/-!
# The dictionary's invariant and its cache

Every call only adds to a dictionary: documents, nodes and decoded data are appended, and the
document map and the cache gain entries but never change one (`Extends`). Over that, every
reachable dictionary keeps an invariant (`Inv`): each node's `next` is `0` or a later node; each
cached node query holds what `select_nodes` gives from the query's context, as a chain of nodes
that `dict_next` walks in order; and each cached value lies inside the data of its base type.

## Key results

- `inv_run`: every dictionary the calls reach keeps the invariant
- `iterate_dictNext_eq_zero`: from any id, `dict_next` reaches `0` within as many steps as there
  are nodes
- `run_dictionary_in_bounds`: the bounds the invariant gives every reachable dictionary
- `apply_repeat`: a call whose node id was valid gives, on any invariant dictionary that extends
  the one it left, the answer it gave the first time
- `apply_repeat_of_argValid`: so a repeated call gives its first answer, and a positive
  `dict_find` result starts a `dict_next` chain over exactly the query's matches
- `dictNext_repeat_after_find`: an id that was not yet a node when first asked can be one later
- `dictValue_stores_unparsed`: a number `dict_value` decodes from text that does not start with
  one is the indeterminate value of an unassigned local, written to the caller and cached
-/

namespace OslExec

namespace Dictionary

variable {ν : Type} (xml : Xml ν)

/-! ### Helpers on lists and updates -/

/-- An entry of a list is the entry of every list it is a prefix of. -/
theorem prefix_getElem? {l l' : List α} (h : l <+: l') {i : Nat} (hi : i < l.length) :
    l'[i]? = l[i]? := by
  obtain ⟨t, rfl⟩ := h
  exact List.getElem?_append_left hi

/-- `List.modify` at the length of a prefix changes the entry right after it. -/
theorem modify_append_length (f : α → α) (pre : List α) (a : α) (rest : List α) :
    (pre ++ a :: rest).modify f pre.length = pre ++ f a :: rest := by
  induction pre <;> simp [*]

/-- An entry a function gains from `Function.update` at `a`, where it had none, is the update's
own. -/
theorem eq_of_update_eq_some {f : α → Option β} [DecidableEq α] {a x : α} {b : Option β} {y : β}
    (h : Function.update f a b x = some y) (hx : f x = none) : x = a ∧ b = some y := by
  by_cases hxa : x = a
  · subst hxa
    exact ⟨rfl, by simpa using h⟩
  · rw [Function.update_noteq hxa, hx] at h
    cases h

/-- An update at a key without an entry keeps every entry. -/
theorem update_eq_some_of_none {f : α → Option β} [DecidableEq α] {a x : α} {y : β}
    (ha : f a = none) (b : Option β) (h : f x = some y) : Function.update f a b x = some y := by
  rw [Function.update_noteq (by rintro rfl; simp_all)]
  exact h

/-! ### Dictionaries only grow -/

/-- `d'` is `d` with more: the documents, the nodes and the data only grow, and the document
map and the cache gain entries but keep the ones they have. -/
structure Extends (d d' : Dictionary ν) : Prop where
  documents : d.documents <+: d'.documents
  documentMap : ∀ name i, d.documentMap name = some i → d'.documentMap name = some i
  cache : ∀ q r, d.cache q = some r → d'.cache q = some r
  nodes : d.nodes <+: d'.nodes
  floatdata : d.floatdata <+: d'.floatdata
  intdata : d.intdata <+: d'.intdata
  stringdata : d.stringdata <+: d'.stringdata

theorem Extends.refl (d : Dictionary ν) : Extends d d :=
  ⟨List.prefix_refl _, fun _ _ => id, fun _ _ => id, List.prefix_refl _, List.prefix_refl _,
    List.prefix_refl _, List.prefix_refl _⟩

theorem Extends.trans {d₁ d₂ d₃ : Dictionary ν} (h₁ : Extends d₁ d₂) (h₂ : Extends d₂ d₃) :
    Extends d₁ d₃ :=
  ⟨h₁.documents.trans h₂.documents, fun n i h => h₂.documentMap n i (h₁.documentMap n i h),
    fun q r h => h₂.cache q r (h₁.cache q r h), h₁.nodes.trans h₂.nodes,
    h₁.floatdata.trans h₂.floatdata, h₁.intdata.trans h₂.intdata,
    h₁.stringdata.trans h₂.stringdata⟩

/-! ### The nodes of a query's matches -/

/-- The nodes `addMatches` appends for the matches `m :: ms` from id `i` on: each of
`document`, each linked to the next id, the last to `0`. -/
def link (document : Nat) : Nat → ν → List ν → List (DictNode ν)
  | _, m, [] => [⟨document, m, 0⟩]
  | i, m, m' :: ms => ⟨document, m, i + 1⟩ :: link document (i + 1) m' ms

@[simp] theorem length_link (document i : Nat) (m : ν) (ms : List ν) :
    (link document i m ms).length = ms.length + 1 := by
  induction ms generalizing i m <;> simp [link, *]

/-- A linked node's `next` is `0` or the id after its own. -/
theorem next_of_getElem?_link (document : Nat) (ms : List ν) :
    ∀ i m j n, (link document i m ms)[j]? = some n →
      n.next = 0 ∨ n.next = i + j + 1 ∧ j < ms.length := by
  induction ms with
  | nil =>
    intro i m j n h
    cases j <;> simp [link] at h
    simp [← h]
  | cons m' ms ih =>
    intro i m j n h
    cases j with
    | zero =>
      simp only [link, List.getElem?_cons_zero, Option.some.injEq] at h
      subst h
      simp
    | succ j =>
      rcases ih (i + 1) m' j n (by simpa [link] using h) with h | ⟨h, hj⟩
      · exact .inl h
      · exact .inr ⟨by omega, by simp; omega⟩

/-- After the first match, `addMatches` appends the rest of the matches and links them from the
node `last`, the last one appended. -/
theorem addMatches_of_last (document : Nat) (q : DictQuery) (ms : List ν) :
    ∀ (pre : List (DictNode ν)) (m : ν) (d : Dictionary ν), d.nodes = pre ++ [⟨document, m, 0⟩] →
      addMatches document q ms pre.length d = { d with nodes := pre ++ link document pre.length m ms } := by
  induction ms with
  | nil =>
    intro pre m d hd
    simp [addMatches, link, ← hd]
  | cons m' ms ih =>
    intro pre m d hd
    have hmod : (pre ++ [(⟨document, m, 0⟩ : DictNode ν), ⟨document, m', 0⟩]).modify
        (fun n : DictNode ν => { n with next := pre.length + 1 }) pre.length =
        pre ++ [⟨document, m, pre.length + 1⟩, ⟨document, m', 0⟩] := by
      simp [modify_append_length]
    have hrest := ih (pre ++ [⟨document, m, pre.length + 1⟩]) m'
      { d with nodes := pre ++ [⟨document, m, pre.length + 1⟩, ⟨document, m', 0⟩] } (by simp)
    simp only [List.length_append, List.length_singleton] at hrest
    simp only [addMatches, hd, List.length_append, List.length_singleton, Nat.add_sub_cancel,
      if_neg (show ¬((pre.length : Int) < 0) by omega), Int.toNat_ofNat]
    simp only [List.append_assoc, List.singleton_append]
    rw [hmod, hrest]
    simp [link]

/-- The whole loop: the matches `m :: ms` become nodes from the next id on, linked in order, and
the first one's id is cached as `q`'s result. -/
theorem addMatches_first (document : Nat) (q : DictQuery) (m : ν) (ms : List ν)
    (d : Dictionary ν) :
    addMatches document q (m :: ms) (-1) d =
      { d with nodes := d.nodes ++ link document d.nodes.length m ms,
               cache := Function.update d.cache q (some ⟨d.nodes.length, true⟩) } := by
  simp only [addMatches, List.length_append, List.length_singleton, Nat.add_sub_cancel,
    if_pos (show (-1 : Int) < 0 by omega)]
  rw [addMatches_of_last document q ms d.nodes m _ rfl]

/-! ### Chains of `dict_next` -/

variable {xml}

/-- An entry of a list is at an index below its length. -/
theorem lt_length_of_getElem? {l : List α} {i : Nat} {a : α} (h : l[i]? = some a) :
    i < l.length :=
  (List.getElem?_eq_some_iff.mp h).1

/-- `dict_next` of a valid id is the node's `next`. -/
theorem dictNext_of_getElem? {d : Dictionary ν} {i : Int} {n : DictNode ν} (hi : 0 < i)
    (h : d.nodes[i.toNat]? = some n) : dictNext d i = n.next := by
  have := lt_length_of_getElem? h
  simp only [dictNext, h, if_neg (show ¬(i ≤ 0 ∨ d.nodes.length ≤ i) by omega)]

/-- From node `i`, `dict_next` visits nodes with increasing ids whose XML nodes are `ms`, in
order, and then gives `0`. -/
inductive Walks (d : Dictionary ν) : Int → List ν → Prop
  | last {i : Int} {n : DictNode ν} : 0 < i → d.nodes[i.toNat]? = some n → dictNext d i = 0 →
      Walks d i [n.node]
  | cons {i : Int} {n : DictNode ν} {ms : List ν} : 0 < i → d.nodes[i.toNat]? = some n →
      i < dictNext d i → Walks d (dictNext d i) ms → Walks d i (n.node :: ms)

/-- A walk starts at a valid node id. -/
theorem Walks.valid {d : Dictionary ν} {i : Int} {ms : List ν} (h : Walks d i ms) :
    0 < i ∧ i < d.nodes.length := by
  cases h with
  | last hi hn => have := lt_length_of_getElem? hn; omega
  | cons hi hn => have := lt_length_of_getElem? hn; omega

/-- Appending nodes keeps every walk. -/
theorem Walks.mono {d d' : Dictionary ν} (hn : d.nodes <+: d'.nodes) {i : Int} {ms : List ν}
    (h : Walks d i ms) : Walks d' i ms := by
  have hnode : ∀ {i : Int} {n}, 0 < i → d.nodes[i.toNat]? = some n →
      d'.nodes[i.toNat]? = some n ∧ dictNext d' i = dictNext d i := fun hi h => by
    have h' := (prefix_getElem? hn (lt_length_of_getElem? h)).trans h
    exact ⟨h', by rw [dictNext_of_getElem? hi h, dictNext_of_getElem? hi h']⟩
  induction h with
  | last hi hn hz => exact .last hi (hnode hi hn).1 ((hnode hi hn).2.trans hz)
  | cons hi hn hlt _ ih =>
    rw [← (hnode hi hn).2] at hlt ih
    exact .cons hi (hnode hi hn).1 hlt ih

/-- The linked nodes of a query's matches, appended after `pre`, are a walk over the matches
from the first of them. -/
theorem walks_link (document : Nat) (ms : List ν) :
    ∀ (pre : List (DictNode ν)) (m : ν) (d : Dictionary ν), 0 < pre.length →
      d.nodes = pre ++ link document pre.length m ms → Walks d pre.length (m :: ms) := by
  induction ms with
  | nil =>
    intro pre m d hpos hd
    have hn : d.nodes[(pre.length : Int).toNat]? = some ⟨document, m, 0⟩ := by simp [hd, link]
    exact .last (by omega) hn (by rw [dictNext_of_getElem? (by omega) hn]; rfl)
  | cons m' ms ih =>
    intro pre m d hpos hd
    have hn : d.nodes[(pre.length : Int).toNat]? = some ⟨document, m, pre.length + 1⟩ := by
      rw [hd, Int.toNat_ofNat, List.getElem?_append_right (Nat.le_refl _), Nat.sub_self]
      simp [link]
    have hnext : dictNext d pre.length = (pre.length + 1 : Nat) := dictNext_of_getElem? (by omega) hn
    refine .cons (by omega) hn (by omega) ?_
    rw [hnext]
    have h := ih (pre ++ [⟨document, m, pre.length + 1⟩]) m' d (by simp) (by simp [hd, link])
    simp only [List.length_append, List.length_singleton] at h
    exact_mod_cast h

/-! ### The invariant -/

variable (xml)

/-- Where a node query searches: the root of its document for node `0`, otherwise the node
found before. -/
def context (d : Dictionary ν) (q : DictQuery) : Option ν :=
  if q.node = 0 then d.documents[q.document]? else (d.nodes[q.node]?).map DictNode.node

/-- The cached result `r` of the node query `q` is what `select_nodes` gives from `q`'s context:
`0` for no match, otherwise the id of a node from which `dict_next` walks the matches. -/
def Found (d : Dictionary ν) (q : DictQuery) (r : Nat) : Prop :=
  ∃ c ms, context d q = some c ∧ xml.selectNodes c q.name = some ms ∧
    (ms = [] ∧ r = 0 ∨ Walks d r ms)

/-- A value cached for type `t` at offset `off` lies inside the data of `t`'s base type: one
string, or `numelements * aggregate` ints or floats. No other base type has cached values. -/
def InPool (d : Dictionary ν) (t : TypeDesc) (off : Nat) : Prop :=
  match t.basetype with
  | .string => t.numelements * t.aggregate.toNat = 1 ∧ off < d.stringdata.length
  | .int => off + t.numelements * t.aggregate.toNat ≤ d.intdata.length
  | .float => off + t.numelements * t.aggregate.toNat ≤ d.floatdata.length
  | _ => False

/-- What every dictionary the calls reach keeps: the placeholder node; each node's `next` is `0`
or a later node; the document map gives `-1` or a document; each cached node query holds what
`select_nodes` gives; and each cached value lies in its data, decoded from a node that has the
value. -/
structure Inv (d : Dictionary ν) : Prop where
  placeholder : d.nodes ≠ []
  next_lt : ∀ i n, d.nodes[i]? = some n → 0 < i →
    n.next = 0 ∨ i < n.next ∧ n.next < d.nodes.length
  documentMap : ∀ name i, d.documentMap name = some i →
    i = -1 ∨ 0 ≤ i ∧ i < d.documents.length
  nodeResult : ∀ q r, d.cache q = some r → q.type = TypeDesc.TypeUnknown →
    Found xml d q r.valueoffset
  valueResult : ∀ q r, d.cache q = some r → q.type ≠ TypeDesc.TypeUnknown →
    InPool d q.type r.valueoffset ∧
      ∃ n, d.nodes[q.node]? = some n ∧ (nodeValue xml n.node q.name).isSome

variable {xml}

theorem context_mono {d d' : Dictionary ν} (he : Extends d d') {q : DictQuery} {c : ν}
    (h : context d q = some c) : context d' q = some c := by
  unfold context at *
  split at h
  · rw [if_pos ‹_›, prefix_getElem? he.documents (lt_length_of_getElem? h), h]
  · obtain ⟨n, hn, rfl⟩ := Option.map_eq_some'.mp h
    rw [if_neg ‹_›, prefix_getElem? he.nodes (lt_length_of_getElem? hn), hn]
    rfl

theorem Found.mono {d d' : Dictionary ν} (he : Extends d d') {q : DictQuery} {r : Nat}
    (h : Found xml d q r) : Found xml d' q r := by
  obtain ⟨c, ms, hc, hs, hr⟩ := h
  exact ⟨c, ms, context_mono he hc, hs, hr.imp_right (Walks.mono he.nodes)⟩

theorem InPool.mono {d d' : Dictionary ν} (he : Extends d d') {t : TypeDesc} {off : Nat}
    (h : InPool d t off) : InPool d' t off := by
  have := he.stringdata.length_le
  have := he.intdata.length_le
  have := he.floatdata.length_le
  unfold InPool at *
  cases hb : t.basetype <;> simp only [hb] at h ⊢ <;> omega

/-- The invariant of a dictionary that extends an invariant one, given the invariant for what
it adds: nodes past the old ones, document names and cache entries the old one did not have. -/
theorem Inv.of_extends {d d' : Dictionary ν} (h : Inv xml d) (he : Extends d d')
    (hnodes : ∀ i n, d'.nodes[i]? = some n → d.nodes.length ≤ i →
      n.next = 0 ∨ i < n.next ∧ n.next < d'.nodes.length)
    (hmap : ∀ name i, d'.documentMap name = some i → d.documentMap name = none →
      i = -1 ∨ 0 ≤ i ∧ i < d'.documents.length)
    (hcache : ∀ q r, d'.cache q = some r → d.cache q = none →
      (q.type = TypeDesc.TypeUnknown → Found xml d' q r.valueoffset) ∧
      (q.type ≠ TypeDesc.TypeUnknown → InPool d' q.type r.valueoffset ∧
        ∃ n, d'.nodes[q.node]? = some n ∧ (nodeValue xml n.node q.name).isSome)) :
    Inv xml d' where
  placeholder := List.ne_nil_of_length_pos
    ((List.length_pos.mpr h.placeholder).trans_le he.nodes.length_le)
  next_lt i n hn hi := by
    by_cases hlt : i < d.nodes.length
    · have := he.nodes.length_le
      exact (h.next_lt i n ((prefix_getElem? he.nodes hlt).symm.trans hn) hi).imp_right
        fun h => ⟨h.1, by omega⟩
    · exact hnodes i n hn (by omega)
  documentMap name i hi := by
    cases hm : d.documentMap name with
    | none => exact hmap name i hi hm
    | some j =>
      have := he.documents.length_le
      rw [he.documentMap name j hm, Option.some.injEq] at hi
      subst hi
      exact (h.documentMap name j hm).imp_right fun h => ⟨h.1, by omega⟩
  nodeResult q r hr hq := by
    cases hc : d.cache q with
    | none => exact (hcache q r hr hc).1 hq
    | some r₀ =>
      rw [he.cache q r₀ hc, Option.some.injEq] at hr
      exact hr ▸ (h.nodeResult q r₀ hc hq).mono he
  valueResult q r hr hq := by
    cases hc : d.cache q with
    | none => exact (hcache q r hr hc).2 hq
    | some r₀ =>
      rw [he.cache q r₀ hc, Option.some.injEq] at hr
      subst hr
      obtain ⟨hp, n, hn, hv⟩ := h.valueResult q r₀ hc hq
      exact ⟨hp.mono he, n, (prefix_getElem? he.nodes (lt_length_of_getElem? hn)).trans hn, hv⟩

/-! ### Documents -/

variable (xml)

/-- What `get_document_index` can do: give the index recorded for the name, or read the document,
append it, and record for its name the index it returns, its own or `-1`. -/
theorem getDocumentIndex_cases (d : Dictionary ν) (name : String) :
    (d.documentMap name = some (getDocumentIndex xml d name).1 ∧
      (getDocumentIndex xml d name).2 = d) ∨
    ∃ doc, d.documentMap name = none ∧
      ((getDocumentIndex xml d name).1 = -1 ∨
        (getDocumentIndex xml d name).1 = d.documents.length) ∧
      (getDocumentIndex xml d name).2 =
        { d with documents := d.documents ++ [doc]
                 documentMap :=
                  Function.update d.documentMap name (some (getDocumentIndex xml d name).1) } := by
  unfold getDocumentIndex
  split
  · exact .inl ⟨‹_›, rfl⟩
  · refine .inr ⟨(if name.endsWith ".xml" then xml.loadFile name else xml.loadString name).1,
      ‹_›, ?_⟩
    by_cases hb : (if name.endsWith ".xml" then xml.loadFile name else xml.loadString name).2 <;>
      simp [hb]

/-- `get_document_index` only adds a document and the map entry of its name. -/
theorem extends_getDocumentIndex (d : Dictionary ν) (name : String) :
    Extends d (getDocumentIndex xml d name).2 := by
  rcases getDocumentIndex_cases xml d name with ⟨-, h⟩ | ⟨doc, hm, -, h⟩
  · rw [h]
    exact .refl d
  · rw [h]
    exact ⟨List.prefix_append _ _, fun n i h => update_eq_some_of_none hm _ h, fun _ _ => id,
      List.prefix_refl _, List.prefix_refl _, List.prefix_refl _, List.prefix_refl _⟩

variable {xml}

theorem inv_getDocumentIndex {d : Dictionary ν} (h : Inv xml d) (name : String) :
    Inv xml (getDocumentIndex xml d name).2 := by
  rcases getDocumentIndex_cases xml d name with ⟨-, he⟩ | ⟨doc, hm, hr, he⟩
  · rw [he]
    exact h
  · refine h.of_extends (extends_getDocumentIndex xml d name) (fun i n hn hi => ?_)
      (fun n i hi hn => ?_) (fun q r hr hc => ?_) <;> rw [he] at * <;> dsimp only at *
    · exact absurd (lt_length_of_getElem? hn) (by omega)
    · obtain ⟨rfl, hs⟩ := eq_of_update_eq_some hi hn
      simp only [Option.some.injEq, List.length_append, List.length_singleton] at hs ⊢
      omega
    · simp [hc] at hr

/-! ### Node queries -/

variable (xml)

/-- What the shared part of `dict_find` can do: answer from the cache; give `0` when the query
throws; cache `0` for no match; or append the matches as linked nodes and cache and return the
first one's id. -/
theorem findFrom_cases (d : Dictionary ν) (q : DictQuery) (c : ν) :
    (∃ r, d.cache q = some r ∧ findFrom xml d q c = ((r.valueoffset : Int), d)) ∨
    (d.cache q = none ∧ xml.selectNodes c q.name = none ∧ findFrom xml d q c = (0, d)) ∨
    (d.cache q = none ∧ xml.selectNodes c q.name = some [] ∧
      findFrom xml d q c = (0, { d with cache := Function.update d.cache q (some ⟨0, false⟩) })) ∨
    ∃ m ms, d.cache q = none ∧ xml.selectNodes c q.name = some (m :: ms) ∧
      findFrom xml d q c = ((d.nodes.length : Int),
        { d with nodes := d.nodes ++ link q.document d.nodes.length m ms
                 cache := Function.update d.cache q (some ⟨d.nodes.length, true⟩) }) := by
  unfold findFrom
  split
  · exact .inl ⟨_, ‹_›, rfl⟩
  · split
    · exact .inr (.inl ⟨‹_›, ‹_›, rfl⟩)
    · exact .inr (.inr (.inl ⟨‹_›, ‹_›, rfl⟩))
    · rename_i ms hms _
      obtain ⟨m, ms, rfl⟩ := List.exists_cons_of_ne_nil hms
      exact .inr (.inr (.inr ⟨m, ms, ‹_›, ‹_›, by rw [addMatches_first]⟩))

/-- A node query only adds its matches and its cache entry. -/
theorem extends_findFrom (d : Dictionary ν) (q : DictQuery) (c : ν) :
    Extends d (findFrom xml d q c).2 := by
  rcases findFrom_cases xml d q c with ⟨r, -, h⟩ | ⟨-, -, h⟩ | ⟨hc, -, h⟩ | ⟨m, ms, hc, -, h⟩ <;>
    rw [h]
  · exact .refl d
  · exact .refl d
  · exact ⟨List.prefix_refl _, fun _ _ => id, fun _ _ => update_eq_some_of_none hc _,
      List.prefix_refl _, List.prefix_refl _, List.prefix_refl _, List.prefix_refl _⟩
  · exact ⟨List.prefix_refl _, fun _ _ => id, fun _ _ => update_eq_some_of_none hc _,
      List.prefix_append _ _, List.prefix_refl _, List.prefix_refl _, List.prefix_refl _⟩

variable {xml}

/-- A node query from its own context keeps the invariant: what it caches is what
`select_nodes` gives from that context. -/
theorem inv_findFrom {d : Dictionary ν} (h : Inv xml d) {q : DictQuery} {c : ν}
    (hc : context d q = some c) (hq : q.type = TypeDesc.TypeUnknown) :
    Inv xml (findFrom xml d q c).2 := by
  have he := extends_findFrom xml d q c
  rcases findFrom_cases xml d q c with ⟨r, -, hf⟩ | ⟨-, -, hf⟩ | ⟨hn, hs, hf⟩ | ⟨m, ms, hn, hs, hf⟩ <;>
    rw [hf] at he ⊢
  · exact h
  · exact h
  · refine h.of_extends he (fun i n hi hl => ?_) (fun n i hi hm => ?_) (fun q' r hr hc' => ?_)
    · exact absurd (lt_length_of_getElem? hi) (by simp only at hl ⊢; omega)
    · simp [hm] at hi
    · obtain ⟨rfl, hb⟩ := eq_of_update_eq_some hr hc'
      obtain rfl := Option.some.inj hb
      exact ⟨fun _ => ⟨c, [], context_mono he hc, hs, .inl ⟨rfl, rfl⟩⟩, fun h => absurd hq h⟩
  · have hpos := List.length_pos.mpr h.placeholder
    refine h.of_extends he (fun i n hi hl => ?_) (fun n i hi hm => ?_) (fun q' r hr hc' => ?_)
    · dsimp only at hi hl ⊢
      rw [List.getElem?_append_right hl] at hi
      have := next_of_getElem?_link q.document ms _ m _ n hi
      simp only [List.length_append, length_link]
      omega
    · simp [hm] at hi
    · obtain ⟨rfl, hb⟩ := eq_of_update_eq_some hr hc'
      obtain rfl := Option.some.inj hb
      exact ⟨fun _ => ⟨c, m :: ms, context_mono he hc, hs,
        .inr (walks_link q'.document ms d.nodes m _ hpos rfl)⟩, fun h => absurd hq h⟩

/-! ### The two `dict_find`s -/

variable (xml) in
/-- After `get_document_index`, the name maps to the index it returned. -/
theorem documentMap_getDocumentIndex (d : Dictionary ν) (name : String) :
    (getDocumentIndex xml d name).2.documentMap name = some (getDocumentIndex xml d name).1 := by
  rcases getDocumentIndex_cases xml d name with ⟨hm, he⟩ | ⟨doc, -, -, he⟩ <;> rw [he]
  · exact hm
  · simp

/-- A document index `get_document_index` returns is `-1` or a document's. -/
theorem getDocumentIndex_lt {d : Dictionary ν} (h : Inv xml d) (name : String)
    (hr : 0 ≤ (getDocumentIndex xml d name).1) :
    (getDocumentIndex xml d name).1 < (getDocumentIndex xml d name).2.documents.length := by
  have := (inv_getDocumentIndex h name).documentMap name _ (documentMap_getDocumentIndex xml d name)
  omega

/-- The context `dict_find` searches from a document is the context of its query. -/
theorem context_dictFind {d : Dictionary ν} (h : Inv xml d) (name query : String)
    (hr : 0 ≤ (getDocumentIndex xml d name).1) :
    context (getDocumentIndex xml d name).2
        ⟨(getDocumentIndex xml d name).1.toNat, 0, query, TypeDesc.TypeUnknown⟩ =
      some ((getDocumentIndex xml d name).2.documents.getD
        (getDocumentIndex xml d name).1.toNat xml.null) := by
  have hlt : (getDocumentIndex xml d name).1.toNat <
      (getDocumentIndex xml d name).2.documents.length := by
    have := getDocumentIndex_lt h name hr
    omega
  simp [context, List.getD_eq_getElem?_getD, List.getElem?_eq_getElem hlt]

variable (xml) in
theorem extends_dictFind (d : Dictionary ν) (name query : String) :
    Extends d (dictFind xml d name query).2 := by
  dsimp only [dictFind]
  split
  · exact extends_getDocumentIndex xml d name
  · exact (extends_getDocumentIndex xml d name).trans (extends_findFrom xml _ _ _)

theorem inv_dictFind {d : Dictionary ν} (h : Inv xml d) (name query : String) :
    Inv xml (dictFind xml d name query).2 := by
  dsimp only [dictFind]
  split
  · exact inv_getDocumentIndex h name
  · exact inv_findFrom (inv_getDocumentIndex h name) (context_dictFind h name query (by omega)) rfl

variable (xml) in
theorem extends_dictFindNode (d : Dictionary ν) (nodeID : Int) (query : String) :
    Extends d (dictFindNode xml d nodeID query).2 := by
  unfold dictFindNode
  split
  · exact .refl d
  · split
    · exact extends_findFrom xml _ _ _
    · exact .refl d

/-- The context `dict_find` searches from a node is the context of its query. -/
theorem context_of_getElem? {d : Dictionary ν} {nodeID : Int} {n : DictNode ν} (hi : 0 < nodeID)
    (hn : d.nodes[nodeID.toNat]? = some n) (document : Nat) (name : String) (type : TypeDesc) :
    context d ⟨document, nodeID.toNat, name, type⟩ = some n.node := by
  simp [context, hn, show nodeID.toNat ≠ 0 by omega]

theorem inv_dictFindNode {d : Dictionary ν} (h : Inv xml d) (nodeID : Int) (query : String) :
    Inv xml (dictFindNode xml d nodeID query).2 := by
  unfold dictFindNode
  split
  · exact h
  · split
    · exact inv_findFrom h (context_of_getElem? (by omega) ‹_› _ _ _) rfl
    · exact h

/-! ### Values -/

@[simp] theorem length_parseValues (parse : String → Option (Word × String))
    (comma : String → String) (n : Nat) (s : String) : (parseValues parse comma n s).length = n := by
  induction n generalizing s with
  | zero => rfl
  | succ n ih => simp only [parseValues]; split <;> simp [ih]

/-- A type with a cached value is not the type of node queries. -/
theorem ne_typeUnknown_of_inPool {d : Dictionary ν} {t : TypeDesc} {off : Nat}
    (h : InPool d t off) : t ≠ TypeDesc.TypeUnknown := by
  rintro rfl
  exact h

variable (xml)

/-- A list read at an index of a prefix reads the prefix. -/
theorem prefix_getD {l l' : List α} (h : l <+: l') {i : Nat} (hi : i < l.length) (x : α) :
    l'.getD i x = l.getD i x := by
  simp only [List.getD_eq_getElem?_getD, prefix_getElem? h hi]

/-- A slice inside a prefix is the prefix's slice. -/
theorem prefix_take_drop {l l' : List α} (h : l <+: l') {off n : Nat}
    (hi : off + n ≤ l.length) : (l'.drop off).take n = (l.drop off).take n := by
  obtain ⟨t, rfl⟩ := h
  rw [List.drop_append_of_le_length (by omega), List.take_append_of_le_length (by simp; omega)]

/-- Reading a cached value back gives the same on every extension, once it lies in its data. -/
theorem cachedValue_of_extends {d d' : Dictionary ν} (he : Extends d d') {t : TypeDesc}
    {off : Nat} (hp : InPool d t off) (asHash : Bool) :
    cachedValue d' t asHash off = cachedValue d t asHash off := by
  unfold InPool at hp
  unfold cachedValue
  cases hb : t.basetype <;> simp only [hb] at hp
  case int => simp [hb, prefix_take_drop he.intdata hp]
  case float => simp [hb, prefix_take_drop he.floatdata hp]
  case string =>
    simp only [hb, if_true]
    rw [prefix_getD he.stringdata hp.2]

@[simp] theorem cachedValue_typeUnknown (d : Dictionary ν) (asHash : Bool) (off : Nat) :
    cachedValue d TypeDesc.TypeUnknown asHash off = (0, .nothing) := rfl

/-- What decoding can do: nothing, for a type no data holds; or append the decoded values to
the data of the type and cache their offset under `q`, where every extension reads back what it
returned. -/
theorem decodeValue_cases (d : Dictionary ν) (q : DictQuery) (asHash : Bool) (val : String) :
    let r := decodeValue xml d q asHash val
    (r = (0, d, .nothing) ∧ ∀ (e : Dictionary ν) off, ¬InPool e q.type off) ∨
    ∃ off, r.2.1.cache = Function.update d.cache q (some ⟨off, true⟩) ∧
      r.2.1.documents = d.documents ∧ r.2.1.documentMap = d.documentMap ∧
      r.2.1.nodes = d.nodes ∧ d.floatdata <+: r.2.1.floatdata ∧ d.intdata <+: r.2.1.intdata ∧
      d.stringdata <+: r.2.1.stringdata ∧ InPool r.2.1 q.type off ∧
      ∀ d', Extends r.2.1 d' → cachedValue d' q.type asHash off = (r.1, r.2.2) := by
  dsimp only [decodeValue]
  split_ifs with h₁ h₂ h₃
  · refine .inr ⟨_, rfl, rfl, rfl, rfl, List.prefix_refl _, List.prefix_refl _,
      List.prefix_append _ _, by simp [InPool, h₁.1, h₁.2], fun d' he => ?_⟩
    have hi : d.stringdata.length < (d.stringdata ++ [val]).length := by simp
    simp only [cachedValue, if_pos h₁.1]
    rw [prefix_getD he.stringdata hi]
    simp
  · refine .inr ⟨_, rfl, rfl, rfl, rfl, List.prefix_refl _, List.prefix_append _ _,
      List.prefix_refl _, by simp [InPool, h₂], fun d' he => ?_⟩
    have h₀ : q.type.basetype ≠ .string := by simp [h₂]
    have hi : d.intdata.length + q.type.numelements * q.type.aggregate.toNat ≤ (d.intdata ++
        parseValues xml.parseInt xml.parseComma (q.type.numelements * q.type.aggregate.toNat)
          val).length := by simp
    simp only [cachedValue, if_neg h₀, if_pos h₂]
    rw [prefix_take_drop he.intdata hi]
    simp
  · refine .inr ⟨_, rfl, rfl, rfl, rfl, List.prefix_append _ _, List.prefix_refl _,
      List.prefix_refl _, by simp [InPool, h₃], fun d' he => ?_⟩
    have h₀ : q.type.basetype ≠ .string := by simp [h₃]
    have h₀' : q.type.basetype ≠ .int := by simp [h₃]
    have hi : d.floatdata.length + q.type.numelements * q.type.aggregate.toNat ≤ (d.floatdata ++
        parseValues xml.parseFloat xml.parseComma (q.type.numelements * q.type.aggregate.toNat)
          val).length := by simp
    simp only [cachedValue, if_neg h₀, if_neg h₀', if_pos h₃]
    rw [prefix_take_drop he.floatdata hi]
    simp
  · refine .inl ⟨rfl, fun e off hp => ?_⟩
    unfold InPool at hp
    cases hb : q.type.basetype <;> simp only [hb] at hp <;> simp_all

/-- What `dict_value` can do to the dictionary: nothing, or decode the value of a node that has
one into the data of the type's base type, and cache its offset under a key it had none for. -/
theorem dictValue_cases {d d' : Dictionary ν} {nodeID : Int} {attribname : String}
    {type : TypeDesc} {asHash : Bool} (hd : (dictValue xml d nodeID attribname type asHash).2.1 = d') :
    d' = d ∨
    ∃ q r, d.cache q = none ∧ q.type = type ∧ d'.documents = d.documents ∧
      d'.documentMap = d.documentMap ∧ d'.nodes = d.nodes ∧
      d'.cache = Function.update d.cache q (some r) ∧ d.floatdata <+: d'.floatdata ∧
      d.intdata <+: d'.intdata ∧ d.stringdata <+: d'.stringdata ∧ InPool d' type r.valueoffset ∧
      ∃ n, d.nodes[q.node]? = some n ∧ (nodeValue xml n.node q.name).isSome := by
  subst hd
  dsimp only [dictValue]
  split
  · exact .inl rfl
  split
  · exact .inl rfl
  rename_i n hn
  split
  · exact .inl rfl
  rename_i hc
  split
  · exact .inl rfl
  rename_i v hv
  rcases decodeValue_cases xml d _ asHash v with ⟨hr, -⟩ | ⟨off, h₁, h₂, h₃, h₄, h₅, h₆, h₇, hp, -⟩
  · exact .inl (by rw [hr])
  · exact .inr ⟨_, ⟨off, true⟩, hc, rfl, h₂, h₃, h₄, h₁, h₅, h₆, h₇, hp, n, hn, by simp [hv]⟩

theorem extends_dictValue (d : Dictionary ν) (nodeID : Int) (attribname : String)
    (type : TypeDesc) (asHash : Bool) :
    Extends d (dictValue xml d nodeID attribname type asHash).2.1 := by
  rcases dictValue_cases xml (rfl : (dictValue xml d nodeID attribname type asHash).2.1 = _) with
    h | ⟨q, r, hc, -, hdoc, hmap, hnodes, hcache, hf, hi, hs, -⟩
  · rw [h]
    exact .refl d
  · exact ⟨hdoc ▸ List.prefix_refl _, fun _ _ h => hmap ▸ h,
      fun _ _ h => hcache ▸ update_eq_some_of_none hc _ h, hnodes ▸ List.prefix_refl _, hf, hi, hs⟩

variable {xml}

theorem inv_dictValue {d : Dictionary ν} (h : Inv xml d) (nodeID : Int) (attribname : String)
    (type : TypeDesc) (asHash : Bool) :
    Inv xml (dictValue xml d nodeID attribname type asHash).2.1 := by
  have he := extends_dictValue xml d nodeID attribname type asHash
  rcases dictValue_cases xml (rfl : (dictValue xml d nodeID attribname type asHash).2.1 = _) with
    hd | ⟨q, r, hc, rfl, -, hmap, hnodes, hcache, -, -, -, hp, n, hn, hv⟩
  · rw [hd]
    exact h
  · refine h.of_extends he (fun i n hi hl => ?_) (fun n i hi hm => ?_) (fun q' r' hr hc' => ?_)
    · rw [hnodes] at hi
      exact absurd (lt_length_of_getElem? hi) (by omega)
    · simp [hmap, hm] at hi
    · rw [hcache] at hr
      obtain ⟨rfl, hb⟩ := eq_of_update_eq_some hr hc'
      obtain rfl := Option.some.inj hb
      exact ⟨fun h => absurd h (ne_typeUnknown_of_inPool hp), fun _ => ⟨hp, n, hnodes ▸ hn, hv⟩⟩

/-! ### Runs of calls -/

variable (xml)

@[simp] theorem run_nil (d : Dictionary ν) : run xml d [] = d := rfl

@[simp] theorem run_cons (d : Dictionary ν) (c : DictCall) (cs : List DictCall) :
    run xml d (c :: cs) = run xml (apply xml d c).2 cs := rfl

/-- Every call only adds to the dictionary. -/
theorem extends_apply (d : Dictionary ν) : ∀ c, Extends d (apply xml d c).2
  | .find name query => extends_dictFind xml d name query
  | .findNode nodeID query => extends_dictFindNode xml d nodeID query
  | .next _ => .refl d
  | .value nodeID attribname type asHash => extends_dictValue xml d nodeID attribname type asHash

theorem extends_run (d : Dictionary ν) (calls : List DictCall) : Extends d (run xml d calls) := by
  induction calls generalizing d with
  | nil => exact .refl d
  | cons c cs ih => exact (extends_apply xml d c).trans (ih _)

theorem inv_create : Inv xml (create xml) where
  placeholder := by simp [create]
  next_lt i n hn hi := by
    have := lt_length_of_getElem? hn
    simp only [create, List.length_singleton] at this
    omega
  documentMap := by simp [create]
  nodeResult := by simp [create]
  valueResult := by simp [create]

variable {xml}

/-- Every call keeps the invariant. -/
theorem inv_apply {d : Dictionary ν} (h : Inv xml d) : ∀ c, Inv xml (apply xml d c).2
  | .find name query => inv_dictFind h name query
  | .findNode nodeID query => inv_dictFindNode h nodeID query
  | .next _ => h
  | .value nodeID attribname type asHash => inv_dictValue h nodeID attribname type asHash

/-- Every dictionary the calls reach keeps the invariant. -/
theorem inv_run {d : Dictionary ν} (h : Inv xml d) (calls : List DictCall) :
    Inv xml (run xml d calls) := by
  induction calls generalizing d with
  | nil => exact h
  | cons c cs ih => exact ih (inv_apply h c)

/-! ### `dict_next` chains end -/

theorem dictNext_of_nonpos (d : Dictionary ν) {i : Int} (hi : i ≤ 0) : dictNext d i = 0 := by
  simp [dictNext, hi]

/-- `dict_next` of any id is `0` or a later node's id. -/
theorem dictNext_eq_zero_or {d : Dictionary ν} (h : Inv xml d) (i : Int) :
    dictNext d i = 0 ∨ i < dictNext d i ∧ dictNext d i < d.nodes.length := by
  unfold dictNext
  split
  · exact .inl rfl
  · split
    · rename_i n hn
      rcases h.next_lt _ n hn (by omega) with h | h
      · exact .inl (by simp [h])
      · exact .inr (by omega)
    · exact .inl rfl

/-- After the step from `i`, `k` more steps reach `0` when there are at most `i + k + 1`
nodes. -/
theorem iterate_dictNext_of_le {d : Dictionary ν} (h : Inv xml d) :
    ∀ (k : Nat) (i : Int), (d.nodes.length : Int) ≤ i + k + 1 → (dictNext d)^[k] (dictNext d i) = 0
  | 0, i, hk => by
    rcases dictNext_eq_zero_or h i with h | h
    · exact h
    · omega
  | k + 1, i, hk => by
    rw [Function.iterate_succ_apply]
    rcases dictNext_eq_zero_or h i with h₀ | h₁
    · rw [h₀]
      exact Function.iterate_fixed (dictNext_of_nonpos d (Int.le_refl 0)) k
    · exact iterate_dictNext_of_le h k _ (by omega)

/-- From any id, `dict_next` reaches `0` within as many steps as there are nodes. -/
theorem iterate_dictNext_eq_zero {d : Dictionary ν} (h : Inv xml d) (i : Int) :
    (dictNext d)^[d.nodes.length] i = 0 := by
  obtain ⟨k, hk⟩ := Nat.exists_eq_succ_of_ne_zero (List.length_pos.mpr h.placeholder).ne'
  rw [hk, Function.iterate_succ_apply]
  by_cases hi : i ≤ 0
  · rw [dictNext_of_nonpos d hi]
    exact Function.iterate_fixed (dictNext_of_nonpos d (Int.le_refl 0)) k
  · exact iterate_dictNext_of_le h k i (by omega)

/-- A cached node result is `0` or a node's id. -/
theorem Found.valid {d : Dictionary ν} {q : DictQuery} {r : Nat} (h : Found xml d q r) :
    r = 0 ∨ 0 < r ∧ r < d.nodes.length := by
  obtain ⟨_, _, -, -, ⟨-, rfl⟩ | hw⟩ := h
  · exact .inl rfl
  · have := hw.valid
    exact .inr (by omega)

variable (xml)

/-- In every dictionary any calls reach, with any arguments: each node's `next` is `0` or a
later node; each cached node result is `0` or a node; each cached value lies inside the data of
its type's base type; and so every `dict_next` chain reaches `0` within as many steps as there
are nodes. -/
theorem run_dictionary_in_bounds (calls : List DictCall) :
    let d := run xml (create xml) calls
    (∀ i n, d.nodes[i]? = some n → 0 < i → n.next = 0 ∨ i < n.next ∧ n.next < d.nodes.length) ∧
    (∀ q r, d.cache q = some r → q.type = TypeDesc.TypeUnknown →
      r.valueoffset = 0 ∨ 0 < r.valueoffset ∧ r.valueoffset < d.nodes.length) ∧
    (∀ q r, d.cache q = some r → q.type ≠ TypeDesc.TypeUnknown → InPool d q.type r.valueoffset) ∧
    ∀ i, (dictNext d)^[d.nodes.length] i = 0 := by
  have h := inv_run (inv_create xml) calls
  exact ⟨h.next_lt, fun q r hr hq => (h.nodeResult q r hr hq).valid,
    fun q r hr hq => (h.valueResult q r hr hq).1, iterate_dictNext_eq_zero h⟩

/-! ### The cache is transparent -/

variable {xml}

theorem findFrom_of_cache {d : Dictionary ν} {q : DictQuery} {r : QueryResult} (c : ν)
    (h : d.cache q = some r) : findFrom xml d q c = ((r.valueoffset : Int), d) := by
  simp [findFrom, h]

/-- A node query asked again from the same context, on an invariant dictionary that extends the
one it left, gives the same answer: from the cache, or again from a query that throws. -/
theorem findFrom_repeat {d d' : Dictionary ν} {q : DictQuery} {c : ν}
    (hc : context d q = some c) (hq : q.type = TypeDesc.TypeUnknown)
    (he : Extends (findFrom xml d q c).2 d') (h' : Inv xml d') :
    (findFrom xml d' q c).1 = (findFrom xml d q c).1 := by
  have hd' := (extends_findFrom xml d q c).trans he
  rcases findFrom_cases xml d q c with ⟨r, hr, hf⟩ | ⟨-, hs, hf⟩ | ⟨-, -, hf⟩ | ⟨m, ms, -, -, hf⟩ <;>
    rw [hf] at he ⊢
  · rw [findFrom_of_cache c (he.cache q r hr)]
  · cases hc' : d'.cache q with
    | none => simp [findFrom, hc', hs]
    | some r' =>
      obtain ⟨c', ms, hctx, hsel, -⟩ := h'.nodeResult q r' hc' hq
      rw [context_mono hd' hc, Option.some.injEq] at hctx
      rw [← hctx, hs] at hsel
      cases hsel
  · rw [findFrom_of_cache c (he.cache q ⟨0, false⟩ (by simp))]
    rfl
  · rw [findFrom_of_cache c (he.cache q ⟨d.nodes.length, true⟩ (by simp))]

/-- `dict_value` on a node with a cached answer reads it back. -/
theorem dictValue_of_cache {d : Dictionary ν} {nodeID : Int} {n : DictNode ν} (hi : 0 < nodeID)
    (hn : d.nodes[nodeID.toNat]? = some n) {attribname : String} {type : TypeDesc}
    {r : QueryResult} (hc : d.cache ⟨n.document, nodeID.toNat, attribname, type⟩ = some r)
    (asHash : Bool) :
    dictValue xml d nodeID attribname type asHash =
      ((cachedValue d type asHash r.valueoffset).1, d,
        (cachedValue d type asHash r.valueoffset).2) := by
  have := lt_length_of_getElem? hn
  simp [dictValue, hn, hc, show ¬(nodeID ≤ 0 ∨ d.nodes.length ≤ nodeID) by omega]

/-- `dict_value` on a node without a cached answer decodes the node's value, or gives `0` when
the node has none. -/
theorem dictValue_of_not_cache {d : Dictionary ν} {nodeID : Int} {n : DictNode ν}
    (hi : 0 < nodeID) (hn : d.nodes[nodeID.toNat]? = some n) {attribname : String}
    {type : TypeDesc} (hc : d.cache ⟨n.document, nodeID.toNat, attribname, type⟩ = none)
    (asHash : Bool) :
    dictValue xml d nodeID attribname type asHash =
      match nodeValue xml n.node attribname with
      | none => (0, d, .nothing)
      | some val => decodeValue xml d ⟨n.document, nodeID.toNat, attribname, type⟩ asHash val := by
  have := lt_length_of_getElem? hn
  cases hv : nodeValue xml n.node attribname <;>
    simp [dictValue, hn, hc, hv, show ¬(nodeID ≤ 0 ∨ d.nodes.length ≤ nodeID) by omega]

theorem parseValues_of_fail {parse : String → Option (Word × String)} {comma : String → String}
    {s : String} (h : parse s = none) (n : Nat) :
    parseValues parse comma (n + 1) s = none :: parseValues parse comma n (comma s) := by
  simp [parseValues, h]

/-- `dict_value` can hand back, and cache, an indeterminate number: when the text of an int or
float attribute it decodes does not start with a number, `parse_int` or `parse_float` leaves the
loop's local `v` unassigned, and that value is the first one stored into the caller's buffer and
appended to the data of the type. -/
theorem dictValue_stores_unparsed {d : Dictionary ν} {nodeID : Int} {n : DictNode ν}
    (hi : 0 < nodeID) (hn : d.nodes[nodeID.toNat]? = some n) {attribname : String}
    {type : TypeDesc} (hc : d.cache ⟨n.document, nodeID.toNat, attribname, type⟩ = none)
    {val : String} (hv : nodeValue xml n.node attribname = some val)
    (hcount : 0 < type.numelements * type.aggregate.toNat)
    (hfail : type.basetype = .int ∧ xml.parseInt val = none ∨
      type.basetype = .float ∧ xml.parseFloat val = none) (asHash : Bool) :
    ∃ vs, (dictValue xml d nodeID attribname type asHash).2.2 = .words (none :: vs) ∧
      ((dictValue xml d nodeID attribname type asHash).2.1.intdata = d.intdata ++ none :: vs ∨
        (dictValue xml d nodeID attribname type asHash).2.1.floatdata =
          d.floatdata ++ none :: vs) := by
  rw [dictValue_of_not_cache hi hn hc, hv]
  obtain ⟨k, hk⟩ : ∃ k, type.numelements * type.aggregate.toNat = k + 1 :=
    ⟨_, (Nat.succ_pred_eq_of_pos hcount).symm⟩
  rcases hfail with ⟨hb, hp⟩ | ⟨hb, hp⟩
  · refine ⟨parseValues xml.parseInt xml.parseComma k (xml.parseComma val), ?_, .inl ?_⟩ <;>
      simp [decodeValue, hb, hk, parseValues_of_fail hp]
  · refine ⟨parseValues xml.parseFloat xml.parseComma k (xml.parseComma val), ?_, .inr ?_⟩ <;>
      simp [decodeValue, hb, hk, parseValues_of_fail hp]

/-- `dict_value` asked again on a node it saw, on an invariant dictionary that extends the one it
left, gives the same result and the same data: the value it cached is read back, and a value it
did not cache is not cached later. -/
theorem dictValue_repeat {d d' : Dictionary ν} (h : Inv xml d) {nodeID : Int}
    (hv : 0 < nodeID ∧ nodeID < d.nodes.length) (attribname : String) (type : TypeDesc)
    (asHash : Bool) (he : Extends (dictValue xml d nodeID attribname type asHash).2.1 d')
    (h' : Inv xml d') :
    ((dictValue xml d' nodeID attribname type asHash).1,
        (dictValue xml d' nodeID attribname type asHash).2.2) =
      ((dictValue xml d nodeID attribname type asHash).1,
        (dictValue xml d nodeID attribname type asHash).2.2) := by
  obtain ⟨n, hn⟩ : ∃ n, d.nodes[nodeID.toNat]? = some n :=
    ⟨_, List.getElem?_eq_getElem (show nodeID.toNat < d.nodes.length by omega)⟩
  have hn' := (prefix_getElem? ((extends_dictValue xml d nodeID attribname type
    asHash).trans he).nodes (lt_length_of_getElem? hn)).trans hn
  let q : DictQuery := ⟨n.document, nodeID.toNat, attribname, type⟩
  -- an answer cached later is a node query's, or a value of the node in its data
  have hlater : ∀ r', d'.cache q = some r' → type = TypeDesc.TypeUnknown ∨
      (nodeValue xml n.node attribname).isSome ∧ InPool d' type r'.valueoffset := by
    intro r' hc'
    by_cases ht : type = TypeDesc.TypeUnknown
    · exact .inl ht
    · obtain ⟨hp, n', hn'', hsome⟩ := h'.valueResult q r' hc' ht
      obtain rfl : n' = n := Option.some.inj (hn''.symm.trans hn')
      exact .inr ⟨hsome, hp⟩
  cases hc : d.cache q with
  | some r =>
    rw [dictValue_of_cache hv.1 hn hc] at he ⊢
    rw [dictValue_of_cache hv.1 hn' (he.cache q r hc)]
    by_cases ht : type = TypeDesc.TypeUnknown
    · subst ht
      simp
    · rw [cachedValue_of_extends he (h.valueResult q r hc ht).1]
  | none =>
    rw [dictValue_of_not_cache hv.1 hn hc] at he ⊢
    cases hval : nodeValue xml n.node attribname with
    | none =>
      simp only [hval] at he ⊢
      cases hc' : d'.cache q with
      | none => simp only [dictValue_of_not_cache hv.1 hn' hc', hval]
      | some r' =>
        rw [dictValue_of_cache hv.1 hn' hc']
        rcases hlater r' hc' with rfl | ⟨hsome, -⟩
        · simp
        · simp [hval] at hsome
    | some v =>
      simp only [hval] at he ⊢
      rcases decodeValue_cases xml d q asHash v with ⟨hr, hno⟩ |
        ⟨off, hcache, -, -, -, -, -, -, -, hread⟩
      · rw [hr] at he ⊢
        cases hc' : d'.cache q with
        | none =>
          simp only [dictValue_of_not_cache hv.1 hn' hc', hval]
          rcases decodeValue_cases xml d' q asHash v with ⟨hr', -⟩ | ⟨_, -, -, -, -, -, -, -, hp', -⟩
          · rw [hr']
          · exact absurd hp' (hno _ _)
        | some r' =>
          rw [dictValue_of_cache hv.1 hn' hc']
          rcases hlater r' hc' with rfl | ⟨-, hp⟩
          · simp
          · exact absurd hp (hno _ _)
      · rw [dictValue_of_cache hv.1 hn' (he.cache q ⟨off, true⟩ (by rw [hcache]; simp))]
        exact hread d' he

theorem getDocumentIndex_of_map {d : Dictionary ν} {name : String} {i : Int}
    (h : d.documentMap name = some i) : getDocumentIndex xml d name = (i, d) := by
  simp [getDocumentIndex, h]

/-- `dict_find` by document name asked again, on an invariant dictionary that extends the one
it left, gives the same result: the name keeps its document, and the query its answer. -/
theorem dictFind_repeat {d d' : Dictionary ν} (h : Inv xml d) (name query : String)
    (he : Extends (dictFind xml d name query).2 d') (h' : Inv xml d') :
    (dictFind xml d' name query).1 = (dictFind xml d name query).1 := by
  have hmap := documentMap_getDocumentIndex xml d name
  dsimp only [dictFind] at he ⊢
  split at he
  · rw [getDocumentIndex_of_map (he.documentMap _ _ hmap)]
    simp [*]
  · rename_i hr
    have he₁ := (extends_findFrom xml _ _ _).trans he
    have hlt := getDocumentIndex_lt h name (by omega)
    have hdoc : d'.documents.getD (getDocumentIndex xml d name).1.toNat xml.null =
        (getDocumentIndex xml d name).2.documents.getD (getDocumentIndex xml d name).1.toNat
          xml.null := prefix_getD he₁.documents (by omega) _
    rw [getDocumentIndex_of_map (he₁.documentMap _ _ hmap)]
    simp only [hr, if_false, hdoc]
    exact findFrom_repeat (context_dictFind h name query (by omega)) rfl he h'

theorem dictFindNode_of_getElem? {d : Dictionary ν} {nodeID : Int} {n : DictNode ν}
    (hi : 0 < nodeID) (hn : d.nodes[nodeID.toNat]? = some n) (query : String) :
    dictFindNode xml d nodeID query =
      findFrom xml d ⟨n.document, nodeID.toNat, query, TypeDesc.TypeUnknown⟩ n.node := by
  have := lt_length_of_getElem? hn
  simp [dictFindNode, hn, show ¬(nodeID ≤ 0 ∨ d.nodes.length ≤ nodeID) by omega]

/-- `dict_find` from a node it saw, asked again on an invariant dictionary that extends the one it
left, gives the same result. -/
theorem dictFindNode_repeat {d d' : Dictionary ν} {nodeID : Int}
    (hv : 0 < nodeID ∧ nodeID < d.nodes.length) (query : String)
    (he : Extends (dictFindNode xml d nodeID query).2 d') (h' : Inv xml d') :
    (dictFindNode xml d' nodeID query).1 = (dictFindNode xml d nodeID query).1 := by
  obtain ⟨n, hn⟩ : ∃ n, d.nodes[nodeID.toNat]? = some n :=
    ⟨_, List.getElem?_eq_getElem (show nodeID.toNat < d.nodes.length by omega)⟩
  have hn' := (prefix_getElem? ((extends_dictFindNode xml d nodeID query).trans he).nodes
    (lt_length_of_getElem? hn)).trans hn
  rw [dictFindNode_of_getElem? hv.1 hn] at he ⊢
  rw [dictFindNode_of_getElem? hv.1 hn']
  exact findFrom_repeat (context_of_getElem? hv.1 hn _ _ _) rfl he h'

/-- `dict_next` of a node it saw gives the same on every extension. -/
theorem dictNext_of_extends {d d' : Dictionary ν} (he : Extends d d') {nodeID : Int}
    (hv : 0 < nodeID ∧ nodeID < d.nodes.length) : dictNext d' nodeID = dictNext d nodeID := by
  obtain ⟨n, hn⟩ : ∃ n, d.nodes[nodeID.toNat]? = some n :=
    ⟨_, List.getElem?_eq_getElem (show nodeID.toNat < d.nodes.length by omega)⟩
  rw [dictNext_of_getElem? hv.1 hn,
    dictNext_of_getElem? hv.1 ((prefix_getElem? he.nodes (lt_length_of_getElem? hn)).trans hn)]

/-! ### Repeated calls -/

/-- The node id a call names is a node of `d`; a `dict_find` by document name names none. -/
def argValid (d : Dictionary ν) : DictCall → Prop
  | .find _ _ => True
  | .findNode nodeID _ | .next nodeID | .value nodeID _ _ _ => 0 < nodeID ∧ nodeID < d.nodes.length

instance (d : Dictionary ν) : DecidablePred (argValid d) := fun c =>
  match c with
  | .find _ _ => inferInstanceAs (Decidable True)
  | .findNode nodeID _ | .next nodeID | .value nodeID _ _ _ =>
    inferInstanceAs (Decidable (0 < nodeID ∧ nodeID < d.nodes.length))

/-- A call whose node id was valid, asked again on an invariant dictionary that extends the one
it left, gives the same result and writes the same data. -/
theorem apply_repeat {d d' : Dictionary ν} (h : Inv xml d) {c : DictCall} (hc : argValid d c)
    (he : Extends (apply xml d c).2 d') (h' : Inv xml d') :
    (apply xml d' c).1 = (apply xml d c).1 := by
  cases c with
  | find name query =>
    simp only [apply] at he ⊢
    rw [dictFind_repeat h name query he h']
  | findNode nodeID query =>
    simp only [apply] at he ⊢
    rw [dictFindNode_repeat hc query he h']
  | next nodeID =>
    simp only [apply] at he ⊢
    rw [dictNext_of_extends he hc]
  | value nodeID attribname type asHash => exact dictValue_repeat h hc attribname type asHash he h'

/-! ### Chains of a query's matches -/

/-- Whether a call is a `dict_find`. -/
def isFind : DictCall → Bool
  | .find _ _ | .findNode _ _ => true
  | _ => false

/-- The XML node a `dict_find` searches from, with its query: the root of the document its name
maps to, or the node with its id. -/
def findContext (d : Dictionary ν) : DictCall → Option (ν × String)
  | .find name query =>
    match d.documentMap name with
    | some i => if 0 ≤ i then (d.documents[i.toNat]?).map (·, query) else none
    | none => none
  | .findNode nodeID query =>
    if 0 < nodeID then (d.nodes[nodeID.toNat]?).map (·.node, query) else none
  | _ => none

/-- A positive answer of a node query is the first of nodes `dict_next` walks over the matches
of the query from its context. -/
theorem walks_findFrom {d : Dictionary ν} (h : Inv xml d) {q : DictQuery} {c : ν}
    (hc : context d q = some c) (hq : q.type = TypeDesc.TypeUnknown)
    (hpos : 0 < (findFrom xml d q c).1) :
    ∃ ms, xml.selectNodes c q.name = some ms ∧ Walks (findFrom xml d q c).2 (findFrom xml d q c).1 ms := by
  rcases findFrom_cases xml d q c with ⟨r, hr, hf⟩ | ⟨-, -, hf⟩ | ⟨-, -, hf⟩ | ⟨m, ms, -, hs, hf⟩ <;>
    rw [hf] at hpos ⊢
  · obtain ⟨c', ms, hctx, hsel, ⟨-, h0⟩ | hw⟩ := h.nodeResult q r hr hq
    · simp [h0] at hpos
    · rw [hc, Option.some.injEq] at hctx
      subst hctx
      exact ⟨ms, hsel, hw⟩
  · simp at hpos
  · simp at hpos
  · exact ⟨m :: ms, hs, walks_link q.document ms d.nodes m _ (List.length_pos.mpr h.placeholder) rfl⟩

/-- A positive answer of a `dict_find` is the first of nodes `dict_next` walks over what
`select_nodes` gives for its query from its context. -/
theorem walks_apply {d : Dictionary ν} (h : Inv xml d) {c : DictCall} (hc : isFind c = true)
    (hpos : 0 < (apply xml d c).1.1) :
    ∃ ctx ms, findContext (apply xml d c).2 c = some ctx ∧ xml.selectNodes ctx.1 ctx.2 = some ms ∧
      Walks (apply xml d c).2 (apply xml d c).1.1 ms := by
  cases c with
  | find name query =>
    simp only [apply, dictFind] at hpos ⊢
    split at hpos
    · omega
    · rename_i hr
      rw [if_neg hr]
      have he := extends_findFrom xml (getDocumentIndex xml d name).2
        ⟨(getDocumentIndex xml d name).1.toNat, 0, query, TypeDesc.TypeUnknown⟩
        ((getDocumentIndex xml d name).2.documents.getD (getDocumentIndex xml d name).1.toNat xml.null)
      obtain ⟨ms, hs, hw⟩ := walks_findFrom (inv_getDocumentIndex h name)
        (context_dictFind h name query (by omega)) rfl hpos
      have hctx := context_mono he (context_dictFind h name query (by omega))
      refine ⟨(_, query), ms, ?_, hs, hw⟩
      simp only [context, if_true] at hctx
      rw [findContext, he.documentMap _ _ (documentMap_getDocumentIndex xml d name)]
      dsimp only
      rw [if_pos (by omega), hctx]
      rfl
  | findNode nodeID query =>
    simp only [apply] at hpos ⊢
    by_cases hv : 0 < nodeID ∧ nodeID < d.nodes.length
    · obtain ⟨n, hn⟩ : ∃ n, d.nodes[nodeID.toNat]? = some n :=
        ⟨_, List.getElem?_eq_getElem (show nodeID.toNat < d.nodes.length by omega)⟩
      rw [dictFindNode_of_getElem? hv.1 hn] at hpos ⊢
      have hc := context_of_getElem? hv.1 hn n.document query TypeDesc.TypeUnknown
      obtain ⟨ms, hs, hw⟩ := walks_findFrom h hc rfl hpos
      have hn' := (prefix_getElem? (extends_findFrom xml d
        ⟨n.document, nodeID.toNat, query, TypeDesc.TypeUnknown⟩ n.node).nodes
        (lt_length_of_getElem? hn)).trans hn
      refine ⟨(n.node, query), ms, ?_, hs, hw⟩
      rw [findContext, if_pos hv.1, hn']
      rfl
    · simp [dictFindNode, show nodeID ≤ 0 ∨ d.nodes.length ≤ nodeID by omega] at hpos
  | next => cases hc
  | value => cases hc

/-! ### The cache is transparent to valid calls -/

variable (xml)

/-- After any calls, a call whose node id is valid, asked again after any further calls, gives
the result and writes the data it gave the first time; and a positive `dict_find` result starts
a `dict_next` chain, in any later dictionary, over exactly the matches `select_nodes` gives from
the call's document or node, in order and with increasing ids, ending in `0`. -/
theorem apply_repeat_of_argValid (pre mid : List DictCall) (c : DictCall) :
    let d := run xml (create xml) pre
    let first := apply xml d c
    let later := run xml first.2 mid
    (argValid d c → (apply xml later c).1 = first.1) ∧
      (isFind c = true → 0 < first.1.1 → ∃ ctx ms, findContext first.2 c = some ctx ∧
        xml.selectNodes ctx.1 ctx.2 = some ms ∧ Walks later first.1.1 ms) := by
  intro d first later
  have h := inv_run (inv_create xml) pre
  have he := extends_run xml first.2 mid
  refine ⟨fun hc => apply_repeat h hc he (inv_run (inv_apply h c) mid), fun hf hpos => ?_⟩
  obtain ⟨ctx, ms, hctx, hs, hw⟩ := walks_apply h hf hpos
  exact ⟨ctx, ms, hctx, hs, hw.mono he.nodes⟩

/-- A parsed document whose root has the matches `1` and `2` for every query: every document
parses, and nodes have no attributes. -/
def twoMatchXml : Xml Nat where
  null := 0
  loadFile _ := (0, true)
  loadString _ := (0, true)
  selectNodes n _ := if n = 0 then some [1, 2] else some []
  value _ := ""
  firstAttribute _ _ := none
  parseInt s := some (0, s)
  parseFloat s := some (0, s)
  parseComma s := s

/-- `dict_find` on a document, asked twice with a find in between, gives the same node. -/
theorem apply_repeat_of_argValid_find :
    (apply twoMatchXml (run twoMatchXml (apply twoMatchXml (run twoMatchXml (create twoMatchXml) [])
        (.find "doc" "q")).2 [.find "doc" "r"]) (.find "doc" "q")).1 =
      (apply twoMatchXml (run twoMatchXml (create twoMatchXml) []) (.find "doc" "q")).1 :=
  (apply_repeat_of_argValid twoMatchXml [] [.find "doc" "r"] (.find "doc" "q")).1 trivial

/-- `dict_next(1)` before any node exists gives `0`; asked again after a `dict_find` whose
matches became nodes `1` and `2`, it gives `2`. -/
theorem dictNext_repeat_after_find :
    (apply twoMatchXml (create twoMatchXml) (.next 1)).1 = (0, .nothing) ∧
      (apply twoMatchXml (run twoMatchXml (apply twoMatchXml (create twoMatchXml) (.next 1)).2
        [.find "doc" "q"]) (.next 1)).1 = (2, .nothing) := by
  decide

/-- A document whose root matches every query with nodes `1` and `2`, each with the text
`"many"` for every attribute, and number parsers that read a number only from a text that
starts with a digit. -/
def wordyXml : Xml Nat where
  null := 0
  loadFile _ := (0, true)
  loadString _ := (0, true)
  selectNodes n _ := if n = 0 then some [1, 2] else some []
  value _ := ""
  firstAttribute _ _ := some "many"
  parseInt s := if s.data.head?.any Char.isDigit then some (0, "") else none
  parseFloat s := if s.data.head?.any Char.isDigit then some (0, "") else none
  parseComma s := s

theorem dictValue_stores_unparsed_many :
    ∃ vs, (dictValue wordyXml (run wordyXml (create wordyXml) [.find "doc" "q"]) 1 "count"
        TypeDesc.TypeInt false).2.2 = .words (none :: vs) ∧
      ((dictValue wordyXml (run wordyXml (create wordyXml) [.find "doc" "q"]) 1 "count"
          TypeDesc.TypeInt false).2.1.intdata =
          (run wordyXml (create wordyXml) [.find "doc" "q"]).intdata ++ none :: vs ∨
        (dictValue wordyXml (run wordyXml (create wordyXml) [.find "doc" "q"]) 1 "count"
          TypeDesc.TypeInt false).2.1.floatdata =
          (run wordyXml (create wordyXml) [.find "doc" "q"]).floatdata ++ none :: vs) :=
  dictValue_stores_unparsed (n := ⟨0, 1, 2⟩) (by decide) (by rfl) (by rfl) (by rfl)
    (by decide) (.inl ⟨rfl, by decide⟩) false

end Dictionary

end OslExec
