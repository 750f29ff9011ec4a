import Cratewright.Naming
import Cratewright.Slot
import Cratewright.Template.Source
import Cratewright.Text.Quoted

/-!
# Operations

The generated struct of one operation and the function that makes a request from its input. The input is adjusted
before the request is built, so what a customization sets up while adjusting it is visible to every plugin.
-/

namespace Cratewright

/-- The slots of an operation, with the names under which their code finds its surroundings. -/
inductive OperationSlot
  | implBlock
  | mutateInput (input config : String)
  | plugin (operation config : String)
deriving DecidableEq, Repr

namespace OperationSlot

/-- The name of a slot, which is also the name of its placeholder. -/
def name : OperationSlot → String
  | .implBlock => "ImplBlock"
  | .mutateInput .. => "MutateInput"
  | .plugin .. => "Plugin"

/-- Where the input is adjusted in the generated function. -/
def adjustment : OperationSlot := .mutateInput "self" "_config"

/-- Where the request is configured in the generated function. -/
def configuration : OperationSlot := .plugin "request" "_config"

end OperationSlot

instance : Slot OperationSlot where
  all := [.implBlock, .adjustment, .configuration]
  name := OperationSlot.name

/-- The generator of one operation of a service. -/
structure Operation where
  name : String
  service : String
  customizations : List (Customization OperationSlot) := []

namespace Operation

/-- The generator with one more customization, which contributes last. -/
def withCustomization (operation : Operation) (customization : Customization OperationSlot) : Operation :=
  { operation with customizations := operation.customizations ++ [customization] }

/-- The code around the slots. -/
def skeleton : String :=
  Template.source [
    "#[derive(Debug, Default, Clone)]",
    "pub struct #⟦Name⟧ ⟦",
    "    _private: (),",
    "⟧",
    "",
    "impl #⟦Name⟧ ⟦",
    "    pub fn new() -> Self ⟦",
    "        Self ⟦ _private: () ⟧",
    "    ⟧",
    "    #⟦ImplBlock⟧",
    "⟧",
    "",
    "impl #⟦Input⟧ ⟦",
    "    pub fn make_operation(",
    "        mut self,",
    "        _config: &#⟦Config⟧,",
    "    ) -> Result<#⟦Operation⟧<#⟦Op⟧, ()>, #⟦BuildError⟧> ⟦",
    "        #⟦MutateInput⟧",
    "        let body = self.build_body();",
    "        let mut request = #⟦OperationModule⟧::Request::new(",
    "            self.request_builder_base()?",
    "                .body(#⟦SdkBody⟧::from(body))",
    "                .expect(\"should be valid request\"),",
    "        );",
    "        #⟦Plugin⟧",
    "        let op = #⟦Operation⟧::new(request, #⟦Op⟧::new())",
    "            .with_metadata(#⟦OperationModule⟧::Metadata::new(#⟦NameLit⟧, #⟦ServiceLit⟧));",
    "        Ok(op)",
    "    ⟧",
    "⟧"
  ]

/-- The program that writes an operation. -/
def program (operation : Operation) : Program :=
  let slot := fun slot : OperationSlot => Argument.writable (contributions operation.customizations slot)
  [.writeNamed skeleton [
    ("Name", .text operation.name),
    ("ImplBlock", slot .implBlock),
    ("Input", .target (.fixed (.generated "input" (operation.name ++ "Input")))),
    ("Config", .target (.fixed (.generated "config" "Config"))),
    ("Operation", .target (.support .operation)),
    ("Op", .target (.own operation.name)),
    ("BuildError", .target (.support .buildError)),
    ("MutateInput", slot .adjustment),
    ("OperationModule", .target (.support .operationModule)),
    ("SdkBody", .target (.support .body)),
    ("Plugin", slot .configuration),
    ("NameLit", .text (Text.quoted operation.name)),
    ("ServiceLit", .text (Text.quoted operation.service))
  ]]

end Operation

end Cratewright
