/-
This file holds the generators that come with the library: one for each shape that has a
plan of its own, then one for each known spelling of a container with a ready instance.
-/

import Fieldwise.Container.Basic
import Fieldwise.Generator.Basic

namespace Fieldwise.Generator

/-! ### Writing a planned body -/

/-- The fragment that a generator writes for a field: the plan is made once the
reconstruction around the field is known to exist, and the body is checked. -/
def write (generator : String) (field : Field) (aggregate : Aggregate) (context : Context)
    (plan : Except Problem Plan) : Except Diagnostic Fragment :=
  Problem.locate aggregate field do
    let rebuild ← Reconstruction.around aggregate field
    Fragment.ofDraft generator (.planned ⟨context, rebuild, ← plan⟩)

/-- The predicate that values of the field's type can be collected from items. -/
def collectable (field : Field) (items : Tokens) : Tokens :=
  let bound := field.written.tokens ++ [.colon] ++ Code.rooted ["core", "iter", "FromIterator"] ++
    Code.angled items
  (bound.asPredicate).toOption.getD bound

/-! ### Shapes with plans of their own -/

/-- A generator for the types with certain names. -/
def named (name : String) (spellings : List String) (focusIndex : Nat)
    (multiplicity : Multiplicity)
    (synthesize : Field → Aggregate → Context → Except Diagnostic Fragment) : Generator :=
  { name, supports := (·.isParameterizedAs spellings), focusIndex, multiplicity, synthesize }

/-- A generator for a type with two forms. -/
def branching (name : String) (spellings : List String) (focusIndex : Nat)
    (forms : TypeExpression → Branching) : Generator :=
  named name spellings focusIndex .zeroOrOne fun field aggregate context =>
    write name field aggregate context (.ok (.branches (forms field.shape)))

/-- Vectors: every element, in order. -/
def sequence : Generator :=
  named "sequence" ["Vec", "std::vec::Vec", "alloc::vec::Vec"] 0 .zeroOrMore
    fun field aggregate context =>
      write "sequence" field aggregate context (.ok (.loop .elements .list))

/-- Arrays: every element, in order. -/
def array : Generator where
  name := "array"
  supports
    | .array _ _ => true
    | _ => false
  focusIndex := 0
  multiplicity := .zeroOrMore
  synthesize field aggregate context :=
    write "array" field aggregate context
      (match field.shape with
      | .array _ length => .ok (.loop .elements (.array length))
      | shape => .error (.missingFocusArgument "array" shape.display 0))

/-- The spellings of sets. -/
def setSpellings : List String := [
  "HashSet", "std::collections::HashSet", "std::collections::hash_set::HashSet",
  "BTreeSet", "std::collections::BTreeSet", "std::collections::btree_set::BTreeSet",
  "alloc::collections::BTreeSet"]

/-- Sets: every element, in the order of the set; equal results become one. -/
def set : Generator :=
  named "set" setSpellings 0 .zeroOrMore fun field aggregate context =>
    (write "set" field aggregate context (.ok (.loop .elements .declared))).map
      (·.withBound (collectable field context.focus.tokens))

/-- Optional values: the value if it is there. -/
def optional : Generator :=
  branching "optional" ["Option", "std::option::Option", "core::option::Option"] 0
    fun _ => .option

/-- Either of two values: the right one. -/
def either : Generator :=
  branching "either" ["Either", "undertow::Either", "undertow::either::Either", "either::Either"] 1
    fun shape => .either shape.name?

/-- Validated values: the valid one. -/
def validated : Generator :=
  branching "validated" ["Validated", "undertow::Validated", "undertow::validated::Validated"] 1
    fun shape => .validated shape.name?

/-- Results: the value of a success. -/
def result : Generator :=
  branching "result" ["Result", "std::result::Result", "core::result::Result"] 0
    fun _ => .result

/-- The spellings of maps. -/
def mapSpellings : List String := [
  "HashMap", "std::collections::HashMap", "std::collections::hash_map::HashMap",
  "BTreeMap", "std::collections::BTreeMap", "std::collections::btree_map::BTreeMap",
  "alloc::collections::BTreeMap"]

/-- Maps: every value, in the order of the map; keys stay with their values. -/
def map : Generator :=
  named "map" mapSpellings 1 .zeroOrMore fun field aggregate context => do
    let key := field.shape.arguments.head?
    let plan : Except Problem Plan :=
      match key with
      | some key => .ok (.loop (.entries key) .declared)
      | none => .error (.missingFocusArgument "map" field.shape.display 0)
    let fragment ← write "map" field aggregate context plan
    let entry := LoopItems.slotType context.focus.tokens (.entries (key.getD context.focus))
    return fragment.withBound (collectable field entry)

/-! ### Known containers -/

/-- Whether the type is written with the known spelling: it has arguments, those are as
many as the instance takes, and the focus has a fixed size. The comparison is made on
the text of the type. -/
def supportsKnown (known : KnownContainer) (shape : TypeExpression) : Bool :=
  match shape with
  | .parameterized _ arguments =>
    if !known.takesOthers && arguments.length ≠ 1 then false
    else if (arguments[known.focusIndex]?).any (·.isUnsized) then false
    else
      let text := Text.withoutRoot shape.display
      Text.baseName text == known.spelling && !(Text.argumentText text).isEmpty
  | _ => false

/-- The arguments besides the focus, if the instance takes them. -/
def takenBy (known : KnownContainer) (shape : TypeExpression) : List TypeExpression :=
  if known.takesOthers then shape.arguments.eraseIdx known.focusIndex else []

/-- The generator for a known container. -/
def ofKnown (known : KnownContainer) : Generator where
  name := known.spelling
  supports := supportsKnown known
  focusIndex := known.focusIndex
  multiplicity := known.multiplicity
  synthesize field aggregate context :=
    write known.spelling field aggregate context
      (.ok (.delegate known.container (takenBy known field.shape)))

/-! ### All of them -/

/-- The generators with plans of their own, in order of precedence. -/
def shapes : List Generator :=
  [sequence, array, set, optional, either, validated, result, map]

/-- All generators of the library, in order of precedence. -/
def builtin : List Generator := shapes ++ KnownContainer.table.map ofKnown

end Fieldwise.Generator
