import Cratewright.Keyed
import Cratewright.Text.Blank

/-!
# Crate declarations

A crate is declared by its name, the place it is fetched from, the scope it is needed in and the features that are
turned on. Two declarations of one crate combine if they agree on the place; the result needs everything that either
of them needs. Versions and paths are not interpreted.
-/

namespace Cratewright

/-- Where a crate is fetched from. -/
inductive Location
  | registry (version : String)
  | directory (path : String)
deriving DecidableEq, Repr

/-- The place as it is named in messages. -/
def Location.text : Location → String
  | .registry version => "version " ++ version
  | .directory path => "path " ++ path

/-- What a crate is needed for: the generated code itself or only its development. -/
inductive Scope
  | compile
  | dev
deriving DecidableEq, Repr

/-- Whether a scope comes before another: what the generated code itself needs comes first. -/
def Scope.precedes : Scope → Scope → Bool
  | .compile, .dev => true
  | _, _ => false

/-- A set of feature names, ascending by code points. -/
abbrev Features := Keyed (id : String → String)

/-- One more feature; beside the features it is kept whether any of them was new. -/
def Features.extend : Features × Bool → String → Features × Bool
  | (features, grown), feature => (features.put feature, grown || !features.contains feature)

/-- The features of either set, and whether the second has any that the first has not. -/
def Features.union (features others : Features) : Features × Bool := others.items.foldl extend (features, false)

/-- The declaration of one crate. -/
structure CrateDependency where
  name : String
  location : Location
  scope : Scope := .compile
  features : Features := ∅
deriving DecidableEq

namespace CrateDependency

/-- A crate from the registry. -/
def registry (name version : String) : CrateDependency := { name, location := .registry version }

/-- A crate in a directory. -/
def directory (name path : String) : CrateDependency := { name, location := .directory path }

/-- The declaration with one more feature. -/
def withFeature (declaration : CrateDependency) (feature : String) : CrateDependency :=
  { declaration with features := declaration.features.put feature }

/-- The module path under which code names the crate: a hyphen becomes an underscore. -/
def modulePath (declaration : CrateDependency) : String :=
  declaration.name.map fun c => if c = '-' then '_' else c

/-- The declaration that needs what two declarations of a crate need, and whether the first of them has changed to it;
there is none if they name different places. -/
def merge? (existing incoming : CrateDependency) : Option (CrateDependency × Bool) :=
  if existing.location = incoming.location then
    let (features, grown) := existing.features.union incoming.features
    if incoming.scope.precedes existing.scope then some ({ existing with features, scope := incoming.scope }, true)
    else some ({ existing with features }, grown)
  else none

end CrateDependency

end Cratewright
