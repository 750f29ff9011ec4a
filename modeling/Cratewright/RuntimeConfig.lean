import Cratewright.Crate

/-!
# Runtime configuration

The configuration says how the support crates are named and where they lie. Their names start with one prefix and they
share one directory. Neither string is checked.
-/

namespace Cratewright

/-- How generated code names and finds its support crates. -/
structure RuntimeConfig where
  cratePrefix : String := "smithy"
  relativePath : String := "../"
deriving DecidableEq, Repr

instance : Inhabited RuntimeConfig := ⟨{}⟩

namespace RuntimeConfig

/-- The path of a directory beside the support crates; slashes at the end of the configured path do not count. -/
def directory (config : RuntimeConfig) (name : String) : String :=
  String.ofList (Text.dropEndWhile (· == '/') config.relativePath.toList) ++ "/" ++ name

/-- The declaration of a support crate. -/
def supportCrate (config : RuntimeConfig) (name : String) : CrateDependency :=
  let crateName := config.cratePrefix ++ "-" ++ name
  .directory crateName (config.directory crateName)

/-- The module path announced for a support crate. -/
def supportPath (config : RuntimeConfig) (name : String) : String := config.cratePrefix ++ "_" ++ name

end RuntimeConfig

end Cratewright
