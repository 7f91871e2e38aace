import Mathlib.Data.List.Basic

/-!
# Type descriptors

The shading system describes every value by an OpenImageIO `TypeDesc` (a base type, an
aggregate, vector semantics and an array length) wrapped in an OSL `TypeSpec` that adds the
closure and structure flags. This file models the parts of both that the instance code and
the code generator read.

Array lengths follow `TypeDesc`: `0` is not an array, `-1` is an array of indefinite
("unsized") length, `n > 0` is an array of `n` elements. Sizes are measured in pool words
(one word per `int`, `float` or `string` base value), which is what `memcmp` and `memcpy`
compare and copy once the base type of both sides is fixed.
-/

namespace OslExec

/-- `TypeDesc::BASETYPE`, restricted to the base types the shading system distinguishes. -/
inductive BaseType where
  | unknown
  | int
  | float
  | string
  | ptr
  deriving DecidableEq, Repr

/-- `TypeDesc::basesize`: bytes of one base value (a `ustring` and a pointer take eight). -/
def BaseType.basesize : BaseType → Nat
  | .unknown => 0
  | .int => 4
  | .float => 4
  | .string => 8
  | .ptr => 8

/-- `TypeDesc::AGGREGATE`: how many base values make one element. -/
inductive Aggregate where
  | scalar
  | vec2
  | vec3
  | vec4
  | matrix33
  | matrix44
  deriving DecidableEq, Repr

namespace Aggregate

/-- The number of base values of an aggregate (its enum value in `TypeDesc`). -/
def toNat : Aggregate → Nat
  | scalar => 1
  | vec2 => 2
  | vec3 => 3
  | vec4 => 4
  | matrix33 => 9
  | matrix44 => 16

theorem toNat_pos (a : Aggregate) : 0 < a.toNat := by
  cases a <;> decide

end Aggregate

/-- `TypeDesc::VECSEMANTICS`: the hint that tells a color from a point, vector or normal. -/
inductive VecSemantics where
  | notype
  | color
  | point
  | vector
  | normal
  deriving DecidableEq, Repr

/-- OpenImageIO's `TypeDesc`. Equality is `TypeDesc::operator==`: all four fields. -/
structure TypeDesc where
  basetype : BaseType
  aggregate : Aggregate := .scalar
  vecsemantics : VecSemantics := .notype
  arraylen : Int := 0
  deriving DecidableEq, Repr

namespace TypeDesc

/-- `TypeDesc::TypeInt`. -/
def TypeInt : TypeDesc := { basetype := .int }

/-- `TypeDesc::TypeFloat` (also `TypeDesc::FLOAT` used as a type). -/
def TypeFloat : TypeDesc := { basetype := .float }

/-- `TypeDesc::TypeString`. -/
def TypeString : TypeDesc := { basetype := .string }

/-- `TypeDesc::TypeColor`. -/
def TypeColor : TypeDesc := { basetype := .float, aggregate := .vec3, vecsemantics := .color }

/-- `TypeDesc::TypeMatrix`. -/
def TypeMatrix : TypeDesc := { basetype := .float, aggregate := .matrix44 }

/-- `TypeDesc::is_array`. -/
def isArray (t : TypeDesc) : Bool := t.arraylen ≠ 0

/-- `TypeDesc::is_unsized_array`. -/
def isUnsizedArray (t : TypeDesc) : Bool := t.arraylen < 0

/-- `TypeDesc::is_sized_array`. -/
def isSizedArray (t : TypeDesc) : Bool := t.arraylen > 0

/-- `TypeDesc::is_vec3`: a non-array float triple, whatever its vector semantics. -/
def isVec3 (t : TypeDesc) : Bool :=
  t.aggregate = .vec3 && t.basetype = .float && !t.isArray

/-- `TypeDesc::numelements`: an unsized array and a non-array both count one element. -/
def numelements (t : TypeDesc) : Nat := if t.arraylen ≥ 1 then t.arraylen.toNat else 1

/-- `TypeDesc::basevalues`: elements times aggregate. -/
def basevalues (t : TypeDesc) : Nat := t.numelements * t.aggregate.toNat

/-- `TypeDesc::size`: bytes of the whole value. -/
def size (t : TypeDesc) : Nat := t.basevalues * t.basetype.basesize

/-- `TypeDesc::elementtype`: the type with its array length removed. -/
def elementtype (t : TypeDesc) : TypeDesc := { t with arraylen := 0 }

/-- OpenImageIO's `equivalent(a, b)`: same base type and aggregate, and the same array length
unless one side is an unsized array and the other a sized one. Vector semantics are ignored,
so all triples are equivalent. -/
def equivalent (a b : TypeDesc) : Bool :=
  a.basetype = b.basetype && a.aggregate = b.aggregate &&
    (a.arraylen = b.arraylen || (a.isUnsizedArray && b.isSizedArray) ||
      (a.isSizedArray && b.isUnsizedArray))

@[simp] theorem numelements_pos (t : TypeDesc) : 0 < t.numelements := by
  unfold numelements; split <;> omega

end TypeDesc

/-- OSL's `TypeSpec`: a simple type plus the closure flag and a structure id (`0` when the
type is not a structure). -/
structure TypeSpec where
  simpletype : TypeDesc
  structure_id : Nat := 0
  closure : Bool := false
  deriving DecidableEq, Repr

namespace TypeSpec

/-- `TypeSpec::is_array`. -/
def isArray (t : TypeSpec) : Bool := t.simpletype.isArray

/-- `TypeSpec::is_unsized_array`. -/
def isUnsizedArray (t : TypeSpec) : Bool := t.simpletype.isUnsizedArray

/-- `TypeSpec::arraylength`. -/
def arraylength (t : TypeSpec) : Int := t.simpletype.arraylen

/-- `TypeSpec::is_closure_based`: a closure or an array of closures. -/
def isClosureBased (t : TypeSpec) : Bool := t.closure

/-- `TypeSpec::is_closure`: a closure that is not an array. -/
def isClosure (t : TypeSpec) : Bool := t.closure && !t.isArray

/-- `TypeSpec::is_structure`: a structure that is not an array. -/
def isStructure (t : TypeSpec) : Bool := t.structure_id > 0 && !t.isArray

/-- `TypeSpec::is_float_based`: float base type and not a closure. -/
def isFloatBased (t : TypeSpec) : Bool := t.simpletype.basetype = .float && !t.closure

/-- `TypeSpec::is_int_based`. -/
def isIntBased (t : TypeSpec) : Bool := t.simpletype.basetype = .int && t.structure_id = 0

/-- `Symbol::arraylen(n)` writes through `TypeSpec::make_array`. -/
def makeArray (t : TypeSpec) (n : Int) : TypeSpec :=
  { t with simpletype := { t.simpletype with arraylen := n } }

@[simp] theorem makeArray_basetype (t : TypeSpec) (n : Int) :
    (t.makeArray n).simpletype.basetype = t.simpletype.basetype := rfl

@[simp] theorem makeArray_arraylen (t : TypeSpec) (n : Int) :
    (t.makeArray n).simpletype.arraylen = n := rfl

end TypeSpec

/-- `compatible_param(a, b)`: can a parameter of type `a` be bound to a value of type `b`?
Equivalent types, or a single float for a non-array triple. -/
def compatibleParam (a b : TypeDesc) : Bool :=
  a.equivalent b || (a.isVec3 && b == TypeDesc.TypeFloat)

end OslExec
