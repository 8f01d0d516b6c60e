import QueryLowering.TypeMapping

/-!
# Sources of type mappings

A source gives each value type its type mapping, if it has one, and names the
mapping that truth-valued expressions carry. A host can override single kinds
of a source.
-/

namespace QueryLowering

/-- A choice of type mappings for value types. -/
structure MappingSource where
  /-- The mapping of a value type, if it has a database representation. -/
  find : ValueType → Option TypeMapping
  /-- The mapping of truth-valued expressions. -/
  canonicalBoolean : TypeMapping

/-- Changes that a host makes to a source. -/
structure MappingOverrides where
  removed : List Kind
  replaced : List (Kind × TypeMapping)
  canonical : Option TypeMapping

namespace MappingSource

/-- The source with a host's changes: a removed kind has no mapping, a replaced
one has its replacement, and the canonical boolean mapping changes on its
own. -/
def override
    (source : MappingSource)
    (overrides : MappingOverrides) :
    MappingSource where
  find valueType :=
    if valueType.kind ∈ overrides.removed then none
    else (overrides.replaced.lookup valueType.kind).or (source.find valueType)
  canonicalBoolean := overrides.canonical.getD source.canonicalBoolean

end MappingSource
end QueryLowering
