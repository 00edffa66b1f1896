/-
This file holds registries, ordered lists of generators. Of all generators that support
a type the first one wins; a generator added later only gets the types that no earlier
one supports.
-/

import Fieldwise.Event
import Fieldwise.Generator.Builtin

namespace Fieldwise

/-- Generators in order of precedence. -/
structure Registry where
  generators : List Generator

namespace Registry

/-- The registry without generators. -/
def empty : Registry := ⟨[]⟩

/-- The registry of the library's own generators. -/
def builtin : Registry := ⟨Generator.builtin⟩

/-- Adds a generator at the end. -/
def register (registry : Registry) (generator : Generator) : Logged Registry := do
  Logged.report (.registered generator.name registry.generators.length)
  return ⟨registry.generators ++ [generator]⟩

/-- Adds generators at the end, one after the other. -/
def registerAll (registry : Registry) : List Generator → Logged Registry
  | [] => return registry
  | generator :: rest => do (← registry.register generator).registerAll rest

/-- The generators that support a type, in order of precedence. -/
def candidates (registry : Registry) (shape : TypeExpression) : List Generator :=
  registry.generators.filter (·.supports shape)

/-- The generator for a type: the first that supports it. Others that support it too are
reported. -/
def resolve (registry : Registry) (shape : TypeExpression) : Logged (Option Generator) :=
  match registry.candidates shape with
  | [] => return none
  | chosen :: shadowed => do
    if !shadowed.isEmpty then
      Logged.report (.overlapping shape.display chosen.name (shadowed.map (·.name)))
    return some chosen

/-- The names of the generators, in order of precedence. -/
def names (registry : Registry) : List String := registry.generators.map (·.name)

/-- The registry as it is shown to developers. -/
def debug (registry : Registry) : String :=
  "GeneratorRegistry \x7b generators: " ++ Event.listed registry.names ++ " \x7d"

end Registry

end Fieldwise
