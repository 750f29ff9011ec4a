import Cratewright.Slot
import Cratewright.Template.Source

/-!
# The service configuration

The generated `Config` and its `Builder`, with a slot for the fields and methods of each and one for the fields that
`build` sets.
-/

namespace Cratewright

/-- The slots of the service configuration. -/
inductive ServiceConfigSlot
  | configStruct
  | configImpl
  | builderStruct
  | builderImpl
  | builderBuild
deriving DecidableEq, Repr

/-- The name of a slot, which is also the name of its placeholder. -/
def ServiceConfigSlot.name : ServiceConfigSlot → String
  | .configStruct => "ConfigStruct"
  | .configImpl => "ConfigImpl"
  | .builderStruct => "BuilderStruct"
  | .builderImpl => "BuilderImpl"
  | .builderBuild => "BuilderBuild"

instance : Slot ServiceConfigSlot where
  all := [.configStruct, .configImpl, .builderStruct, .builderImpl, .builderBuild]
  name := ServiceConfigSlot.name

/-- The generator of a service configuration. -/
structure ServiceConfig where
  customizations : List (Customization ServiceConfigSlot) := []

namespace ServiceConfig

/-- The generator with one more customization, which contributes last. -/
def withCustomization (generator : ServiceConfig) (customization : Customization ServiceConfigSlot) : ServiceConfig :=
  ⟨generator.customizations ++ [customization]⟩

/-- The code around the slots. -/
def skeleton : String :=
  Template.source [
    "/// Service configuration",
    "pub struct Config ⟦",
    "    #⟦ConfigStruct⟧",
    "⟧",
    "",
    "impl Config ⟦",
    "    pub fn builder() -> Builder ⟦",
    "        Builder::default()",
    "    ⟧",
    "    #⟦ConfigImpl⟧",
    "⟧",
    "",
    "/// Builder for [`Config`]",
    "#[derive(Default)]",
    "pub struct Builder ⟦",
    "    #⟦BuilderStruct⟧",
    "⟧",
    "",
    "impl Builder ⟦",
    "    pub fn new() -> Self ⟦",
    "        Self::default()",
    "    ⟧",
    "    #⟦BuilderImpl⟧",
    "    pub fn build(self) -> Config ⟦",
    "        Config ⟦",
    "            #⟦BuilderBuild⟧",
    "        ⟧",
    "    ⟧",
    "⟧"
  ]

/-- The program that writes a service configuration. -/
def program (generator : ServiceConfig) : Program :=
  [.writeNamed skeleton ((Slot.all : List ServiceConfigSlot).map fun slot =>
    (slot.name, .writable (contributions generator.customizations slot)))]

end ServiceConfig

end Cratewright
