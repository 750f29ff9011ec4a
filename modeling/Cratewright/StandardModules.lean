import Cratewright.Program
import Cratewright.Template.Source

/-!
# Inline modules that come with the library

Three modules that generated code may pull in: idempotency tokens, wrapped errors of XML services, and documents read
from JSON. Each declares the crates it needs whatever it writes, and its program does not depend on the configuration.
-/

namespace Cratewright

/-- The provider of idempotency tokens. -/
def idempotencyToken : InlineDependency where
  name := "idempotency_token"
  moduleName := "idempotency_token"
  extras := [.crate (.registry "fastrand" "1")]
  renderer := .standard .idempotencyToken

/-- The reader of errors that are wrapped in XML. -/
def wrappedErrors (config : RuntimeConfig) : InlineDependency where
  name := "rest_xml_wrapped_errors"
  moduleName := "rest_xml_wrapped_errors"
  extras := [.crate (KnownCrate.xml.declaration config), .crate (KnownCrate.types.declaration config)]
  renderer := .standard .wrappedErrors

/-- The conversion from JSON values to documents. -/
def jsonDocument (config : RuntimeConfig) : InlineDependency where
  name := "doc_json"
  moduleName := "doc_json"
  extras := [.crate (KnownCrate.serdeJson.declaration config), .crate (KnownCrate.types.declaration config)]
  renderer := .standard .jsonDocument

namespace StandardModule

/-- The inline dependency on a standard module. -/
def dependency (config : RuntimeConfig) : StandardModule → InlineDependency
  | .idempotencyToken => Cratewright.idempotencyToken
  | .wrappedErrors => Cratewright.wrappedErrors config
  | .jsonDocument => Cratewright.jsonDocument config

/-- What the module of idempotency tokens holds. -/
def idempotencyTokenTemplate : String :=
  Template.source [
    "/// Source of idempotency tokens for operations that need one",
    "pub struct IdempotencyTokenProvider ⟦",
    "    inner: Inner,",
    "⟧",
    "",
    "enum Inner ⟦",
    "    Static(&'static str),",
    "    Random(#⟦Arc⟧<#⟦Mutex⟧<#⟦Rng⟧>>),",
    "⟧",
    "",
    "pub fn default_provider() -> IdempotencyTokenProvider ⟦",
    "    IdempotencyTokenProvider::random()",
    "⟧",
    "",
    "impl IdempotencyTokenProvider ⟦",
    "    pub fn random() -> Self ⟦",
    "        Self ⟦",
    "            inner: Inner::Random(#⟦Arc⟧::new(#⟦Mutex⟧::new(#⟦Rng⟧::new()))),",
    "        ⟧",
    "    ⟧",
    "",
    "    pub fn make_idempotency_token(&self) -> #⟦String⟧ ⟦",
    "        match &self.inner ⟦",
    "            Inner::Static(token) => token.to_string(),",
    "            Inner::Random(rng) => uuid_v4(rng.lock().unwrap().u128(..)),",
    "        ⟧",
    "    ⟧",
    "⟧",
    "",
    "impl From<&'static str> for IdempotencyTokenProvider ⟦",
    "    fn from(token: &'static str) -> Self ⟦",
    "        Self ⟦",
    "            inner: Inner::Static(token),",
    "        ⟧",
    "    ⟧",
    "⟧",
    "",
    "pub(crate) fn uuid_v4(input: u128) -> #⟦String⟧ ⟦",
    "    let mut out = #⟦String⟧::with_capacity(36);",
    "    let bytes = (input & 0xffff_ffff_ffff_4fff_bfff_ffff_ffff_ffff | 0x4000_8000_0000_0000_0000).to_be_bytes();",
    "    for (i, byte) in bytes.iter().enumerate() ⟦",
    "        if matches!(i, 4 | 6 | 8 | 10) ⟦",
    "            out.push('-');",
    "        ⟧",
    "        out.push_str(&format!(\"⟦:02x⟧\", byte));",
    "    ⟧",
    "    out",
    "⟧"
  ]

/-- What the module of wrapped errors holds. -/
def wrappedErrorsTemplate : String :=
  Template.source [
    "pub fn body_is_error(body: &[u8]) -> Result<bool, #⟦decode⟧::XmlError> ⟦",
    "    let mut doc = #⟦decode⟧::Document::try_from(body)?;",
    "    let scoped = doc.root_element()?;",
    "    Ok(scoped.start_el().matches(\"ErrorResponse\"))",
    "⟧",
    "",
    "pub fn parse_generic_error(body: &[u8]) -> Result<#⟦Error⟧, #⟦decode⟧::XmlError> ⟦",
    "    let mut doc = #⟦decode⟧::Document::try_from(body)?;",
    "    let mut root = doc.root_element()?;",
    "    let mut err = #⟦Error⟧::default();",
    "    while let Some(mut tag) = root.next_tag() ⟦",
    "        match tag.start_el().local() ⟦",
    "            \"Error\" => ⟦",
    "                while let Some(mut field) = tag.next_tag() ⟦",
    "                    match field.start_el().local() ⟦",
    "                        \"Code\" => err.code = Some(String::from(#⟦decode⟧::try_data(&mut field)?)),",
    "                        \"Message\" => err.message = Some(String::from(#⟦decode⟧::try_data(&mut field)?)),",
    "                        _ => ⟦⟧",
    "                    ⟧",
    "                ⟧",
    "            ⟧",
    "            \"RequestId\" => err.request_id = Some(String::from(#⟦decode⟧::try_data(&mut tag)?)),",
    "            _ => ⟦⟧",
    "        ⟧",
    "    ⟧",
    "    Ok(err)",
    "⟧"
  ]

/-- What the module of JSON documents holds. -/
def jsonDocumentTemplate : String :=
  Template.source [
    "pub fn json_to_doc(json: #⟦Value⟧) -> #⟦Document⟧ ⟦",
    "    match json ⟦",
    "        #⟦Value⟧::Null => #⟦Document⟧::Null,",
    "        #⟦Value⟧::Bool(b) => #⟦Document⟧::Bool(b),",
    "        #⟦Value⟧::Number(n) => #⟦Document⟧::Number(n.as_f64().unwrap_or_default().into()),",
    "        #⟦Value⟧::String(s) => #⟦Document⟧::String(s),",
    "        #⟦Value⟧::Array(items) => #⟦Document⟧::Array(items.into_iter().map(json_to_doc).collect()),",
    "        #⟦Value⟧::Object(map) => #⟦Document⟧::Object(map.into_iter().map(|(k, v)| (k, json_to_doc(v))).collect()),",
    "    ⟧",
    "⟧"
  ]

/-- The program that writes a standard module. -/
def program : StandardModule → Program
  | .idempotencyToken => [.writeNamed idempotencyTokenTemplate [
      ("Arc", .target (.fixed StandardItem.arc.reference)),
      ("Mutex", .target (.fixed StandardItem.mutex.reference)),
      ("Rng", .target (.support .randomSource)),
      ("String", .target (.fixed StandardItem.string.reference))
    ]]
  | .wrappedErrors => [.writeNamed wrappedErrorsTemplate [
      ("decode", .target (.support .xmlDecode)),
      ("Error", .target (.support .genericError))
    ]]
  | .jsonDocument => [.writeNamed jsonDocumentTemplate [
      ("Value", .target (.support .jsonValue)),
      ("Document", .target (.support .document))
    ]]

end StandardModule

end Cratewright
