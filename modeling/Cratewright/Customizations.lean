import Cratewright.Model
import Cratewright.Operation
import Cratewright.ServiceConfig
import Cratewright.StandardModules

/-!
# Customizations that come with the library

Regions, idempotency tokens and retries. Each knows only the slots it contributes to.
-/

namespace Cratewright

/-- A template with one placeholder for an item. -/
def Writable.mention (template : String) (target : Target) : Writable :=
  .program [.write template [.target target]]

namespace Region

/-- The optional region in a service configuration. -/
def contributionToConfig : ServiceConfigSlot → Writable
  | .configStruct => .mention (Template.source ["pub(crate) region: Option<#T>,"]) (.support .region)
  | .configImpl => .mention (Template.source [
      "pub fn region(&self) -> Option<&#T> ⟦",
      "    self.region.as_ref()",
      "⟧"
    ]) (.support .region)
  | .builderStruct => .mention (Template.source ["region: Option<#T>,"]) (.support .region)
  | .builderImpl => .mention (Template.source [
      "pub fn region(mut self, region: impl Into<Option<#T>>) -> Self ⟦",
      "    self.region = region.into();",
      "    self",
      "⟧"
    ]) (.support .region)
  | .builderBuild => .template (Template.source ["region: self.region,"])

/-- The statement that hands the region to a request. -/
def pluginTemplate : String :=
  Template.source [
    "if let Some(region) = &#T.region ⟦",
    "    #T.config_mut().insert(region.clone());",
    "⟧"
  ]

/-- The region in the code of an operation. -/
def contributionToOperation : OperationSlot → Writable
  | .implBlock => .empty
  | .mutateInput .. => .empty
  | .plugin operation config => .program [.write pluginTemplate [.text config, .text operation]]

/-- The region of a service configuration. -/
def forConfig : Customization ServiceConfigSlot := ⟨"region", contributionToConfig⟩

/-- The region of a request. -/
def forOperation : Customization OperationSlot := ⟨"region", contributionToOperation⟩

end Region

namespace Retry

/-- The optional retry settings in a service configuration. -/
def contribution : ServiceConfigSlot → Writable
  | .configStruct => .mention (Template.source ["pub(crate) retry_config: Option<#T>,"]) (.support .retryConfig)
  | .configImpl => .mention (Template.source [
      "pub fn retry_config(&self) -> Option<&#T> ⟦",
      "    self.retry_config.as_ref()",
      "⟧"
    ]) (.support .retryConfig)
  | .builderStruct => .mention (Template.source ["retry_config: Option<#T>,"]) (.support .retryConfig)
  | .builderImpl => .mention (Template.source [
      "pub fn retry_config(mut self, retry_config: #T) -> Self ⟦",
      "    self.retry_config = Some(retry_config);",
      "    self",
      "⟧"
    ]) (.support .retryConfig)
  | .builderBuild => .template (Template.source ["retry_config: self.retry_config,"])

/-- The retry settings of a service configuration. -/
def forConfig : Customization ServiceConfigSlot := ⟨"retry_config", contribution⟩

end Retry

namespace IdempotencyToken

/-- An item of the token module. -/
def item (name : String) : Target := .fixed (idempotencyToken.item name)

/-- The token provider in a service configuration. -/
def contributionToConfig : ServiceConfigSlot → Writable
  | .configStruct => .mention (Template.source ["pub(crate) make_token: #T,"]) (item "IdempotencyTokenProvider")
  | .configImpl => .empty
  | .builderStruct => .mention (Template.source ["make_token: Option<#T>,"]) (item "IdempotencyTokenProvider")
  | .builderImpl => .mention (Template.source [
      "pub fn make_token(mut self, make_token: impl Into<#T>) -> Self ⟦",
      "    self.make_token = Some(make_token.into());",
      "    self",
      "⟧"
    ]) (item "IdempotencyTokenProvider")
  | .builderBuild =>
    .mention (Template.source ["make_token: self.make_token.unwrap_or_else(#T),"]) (item "default_provider")

/-- The statement that fills in a missing token. -/
def adjustmentTemplate : String :=
  Template.source [
    "if #⟦input⟧.#⟦field⟧.is_none() ⟦",
    "    #⟦input⟧.#⟦field⟧ = Some(#⟦config⟧.make_token.make_idempotency_token());",
    "⟧"
  ]

/-- The token field of an operation's input, if it has one. -/
def contributionToOperation (tokenField : Option String) : OperationSlot → Writable
  | .implBlock => .empty
  | .mutateInput input config =>
    match tokenField with
    | none => .empty
    | some field => .program [.writeNamed adjustmentTemplate [
        ("input", .text input), ("field", .text field), ("config", .text config)
      ]]
  | .plugin .. => .empty

/-- The name of the token field of an input shape. -/
def fieldOf (model : Model) (input : ShapeId) : Option String :=
  (model.idempotencyTokenMember input).bind fun member => member.member.map snakeCase

/-- The token provider of a service configuration. -/
def forConfig : Customization ServiceConfigSlot := ⟨"idempotency_token", contributionToConfig⟩

/-- The token of a request whose input has the given token field. -/
def forOperation (tokenField : Option String) : Customization OperationSlot :=
  ⟨"idempotency_token", contributionToOperation tokenField⟩

/-- The token of a request with the given input shape. -/
def forInput (model : Model) (input : ShapeId) : Customization OperationSlot := forOperation (fieldOf model input)

end IdempotencyToken

/-- The customizations that a service configuration has by default. -/
def defaultConfigCustomizations : List (Customization ServiceConfigSlot) :=
  [Region.forConfig, IdempotencyToken.forConfig, Retry.forConfig]

/-- The customizations that an operation with the given input shape has by default. -/
def defaultOperationCustomizations (model : Model) (input : ShapeId) : List (Customization OperationSlot) :=
  [IdempotencyToken.forInput model input, Region.forOperation]

end Cratewright
