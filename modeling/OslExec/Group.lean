import OslExec.Instance

/-!
# Shader groups and their entry layers

A `ShaderGroup` is its layers in order, and the count `m_num_entry_layers` of the layers the
host calls directly. The flag itself lives in each layer (`ShaderInstance::entry_layer`);
`clear_entry_layers` and `mark_entry_layer` change the flags and the count together.

The count stays the number of flagged layers over every sequence of calls, whatever the
arguments: `mark_entry_layer` only counts a layer it flags, and ignores an index outside the
group and a layer already flagged.

## Key results

- `entryConsistent_step`: each call keeps the count equal to the number of flagged layers
- `entryConsistent_run`: so does every sequence of calls
-/

namespace OslExec

/-- The fields of `ShaderGroup` the modelled functions read and write. -/
structure ShaderGroup where
  name : String
  layers : List ShaderInstance
  numEntryLayers : Int := 0
  deriving DecidableEq, Repr

/-- One call on a group's entry layers. -/
inductive EntryCall where
  /-- `mark_entry_layer(layer)` -/
  | mark (layer : Int)
  /-- `clear_entry_layers()` -/
  | clear
  deriving DecidableEq, Repr

namespace ShaderGroup

/-- `ShaderGroup::nlayers`. -/
def nlayers (g : ShaderGroup) : Nat := g.layers.length

/-- `ShaderGroup::clear_entry_layers`: every layer's flag is cleared and the count reset. -/
def clearEntryLayers (g : ShaderGroup) : ShaderGroup :=
  { g with layers := g.layers.map ({ · with entryLayer := false }), numEntryLayers := 0 }

/-- `ShaderGroup::mark_entry_layer(layer)`: a layer of the group not yet flagged is flagged
and counted; any other index changes nothing. -/
def markEntryLayer (g : ShaderGroup) (layer : Int) : ShaderGroup :=
  match g.layers[layer.toNat]? with
  | some l =>
    if 0 ≤ layer ∧ !l.entryLayer then
      { g with layers := g.layers.set layer.toNat { l with entryLayer := true },
               numEntryLayers := g.numEntryLayers + 1 }
    else g
  | none => g

/-- One call. -/
def step (g : ShaderGroup) : EntryCall → ShaderGroup
  | .mark layer => g.markEntryLayer layer
  | .clear => g.clearEntryLayers

/-- A sequence of calls, in order. -/
def run (g : ShaderGroup) (calls : List EntryCall) : ShaderGroup := calls.foldl step g

/-- The number of layers whose entry-layer flag is set. -/
def entryCount (g : ShaderGroup) : Nat := g.layers.countP (·.entryLayer)

/-- The count the group keeps is the number of flagged layers. -/
def EntryConsistent (g : ShaderGroup) : Prop := g.numEntryLayers = g.entryCount

instance (g : ShaderGroup) : Decidable g.EntryConsistent := inferInstanceAs (Decidable (_ = _))

/-- Setting an element that fails `p` to one that satisfies it adds one to the count. -/
theorem countP_set_of_false {α : Type} {p : α → Bool} :
    ∀ {l : List α} {i : Nat} {a b : α}, l[i]? = some a → p a = false → p b = true →
      (l.set i b).countP p = l.countP p + 1
  | [], _, _, _, h, _, _ => by simp at h
  | x :: l, 0, a, b, h, ha, hb => by
    simp only [List.getElem?_cons_zero, Option.some.injEq] at h
    subst h
    simp [List.countP_cons, ha, hb]
  | x :: l, i + 1, a, b, h, ha, hb => by
    simp only [List.getElem?_cons_succ] at h
    simp only [List.set_cons_succ, List.countP_cons, countP_set_of_false h ha hb]
    omega

theorem entryConsistent_clearEntryLayers (g : ShaderGroup) : g.clearEntryLayers.EntryConsistent := by
  simp [EntryConsistent, clearEntryLayers, entryCount, Function.comp_def]

theorem entryConsistent_markEntryLayer {g : ShaderGroup} (hg : g.EntryConsistent) (layer : Int) :
    (g.markEntryLayer layer).EntryConsistent := by
  unfold markEntryLayer
  split
  · next l hl =>
    split
    · next h =>
      simp only [Bool.not_eq_true'] at h
      simp only [EntryConsistent, entryCount] at hg ⊢
      rw [countP_set_of_false hl h.2 rfl, hg]
      push_cast
      rfl
    · exact hg
  · exact hg

theorem entryConsistent_step {g : ShaderGroup} (hg : g.EntryConsistent) :
    ∀ c, (g.step c).EntryConsistent
  | .mark layer => entryConsistent_markEntryLayer hg layer
  | .clear => entryConsistent_clearEntryLayers g

/-- Every sequence of `mark_entry_layer` and `clear_entry_layers` calls, with any arguments,
keeps the count equal to the number of flagged layers. -/
theorem entryConsistent_run (g : ShaderGroup) (hg : g.EntryConsistent) (calls : List EntryCall) :
    (g.run calls).EntryConsistent := by
  induction calls generalizing g with
  | nil => exact hg
  | cons c calls ih => exact ih (g.step c) (entryConsistent_step hg c)

/-- A master with no symbols. -/
def emptyMaster : ShaderMaster where
  shadername := "m"
  symbols := []
  firstparam := 0
  lastparam := 0

/-- A group of two new layers of `emptyMaster`. -/
def twoLayers : ShaderGroup where
  name := "g"
  layers := [ShaderInstance.create emptyMaster "a", ShaderInstance.create emptyMaster "b"]

theorem entryConsistent_run_two_layers :
    twoLayers.EntryConsistent ∧ (twoLayers.run [.mark 1, .mark 1, .mark 2, .mark (-1), .clear,
      .mark 0]).EntryConsistent :=
  ⟨by decide, entryConsistent_run twoLayers (by decide) _⟩

end ShaderGroup

end OslExec
