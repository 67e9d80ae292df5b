import GraphQLCache.Text.DecimalDigit

/-!
# `DepthLimits` — how deep defaults and documents go

Three bounds with defaults. Each can be set by an environment variable; one that is unset, blank or no
integer leaves the default.
-/

namespace GraphQLCache

/-- The bounds for forms, for list items and for documents. -/
structure DepthLimits where
  form : Int
  item : Int
  document : Int
deriving DecidableEq, Repr

/-- Environment variables with their values. -/
abbrev Environment := List (String × String)

namespace DepthLimits

/-- The bounds where nothing is set. -/
def default : DepthLimits := ⟨2, 3, 3⟩

/-- The integer that a variable is set to, or the fallback. -/
def setting (env : Environment) (key : String) (fallback : Int) : Int :=
  ((env.lookup key).bind fun text => Text.readInteger? text.toList).getD fallback

/-- The bounds under an environment. -/
def ofEnvironment (env : Environment) : DepthLimits :=
  { form := setting env "CACHESCOPE_FORM_MAX_DEPTH" default.form
    item := setting env "CACHESCOPE_ITEM_MAX_DEPTH" default.item
    document := setting env "CACHESCOPE_DOCUMENT_MAX_DEPTH" default.document }

end DepthLimits

end GraphQLCache
