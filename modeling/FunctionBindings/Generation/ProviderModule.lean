import FunctionBindings.Model.Record
import FunctionBindings.Text.Literal

/-!
# Source of a provider module

Records can be compiled into a host: the text of a Rust module holds them as string literals and
implements the provider interface, so that no artifact has to be read when the host starts.
-/

namespace FunctionBindings

/-- The type that the module defines. -/
def providerTypeName : String := "GeneratedFunctionMetadataProvider"

/-- The function that the module offers to register its provider. -/
def registrationName : String := "configure_generated_function_metadata_provider"

/-- A line that sets a field to an owned string. -/
def fieldLine (field text : String) : String :=
  "                " ++ field ++ ": " ++ Text.literal text ++ ".to_string(),\n"

/-- A line with an owned string as the item of a list. -/
def itemLine (text : String) : String :=
  "                    " ++ Text.literal text ++ ".to_string(),\n"

namespace FunctionRecord

/-- The lines of a record as the item of a list. -/
def moduleText (record : FunctionRecord) : String :=
  "            FunctionMetadata \x7b\n" ++
  fieldLine "function_id" record.functionId ++
  fieldLine "language" record.language ++
  fieldLine "name" record.name ++
  fieldLine "entry_point" record.entryPoint ++
  "                raw_bindings: vec![\n" ++
  String.join (record.rawBindings.map itemLine) ++
  "                ],\n" ++
  fieldLine "script_file" record.scriptFile ++
  "            \x7d,\n"

end FunctionRecord

/-- The lines of a module before its records. -/
def moduleHead : String :=
  "// @generated by bindmeta. Do not edit.\n\n" ++
  "use bindmeta_provider::\x7bFunctionMetadata, FunctionMetadataProvider, ProviderError, " ++
  "ProviderRegistry\x7d;\n" ++
  "use std::path::Path;\n" ++
  "use std::sync::Arc;\n\n" ++
  "pub struct " ++ providerTypeName ++ ";\n\n" ++
  "impl FunctionMetadataProvider for " ++ providerTypeName ++ " \x7b\n" ++
  "    fn function_metadata(&self, _directory: &Path) -> " ++
  "Result<Vec<FunctionMetadata>, ProviderError> \x7b\n"

/-- The lines of a module behind its records. -/
def moduleTail : String :=
  "    \x7d\n\x7d\n\n" ++
  "/// Register the generated provider as the host's metadata provider\n" ++
  "pub fn " ++ registrationName ++
  "(registry: &mut ProviderRegistry) -> Result<(), ProviderError> \x7b\n" ++
  "    registry.configure_generated_provider(Arc::new(" ++ providerTypeName ++ "))\n" ++
  "\x7d\n"

/-- The lines that hold the records of a module. -/
def moduleRecords (records : List FunctionRecord) : String :=
  if records.isEmpty then "        Ok(Vec::new())\n"
  else
    "        Ok(vec![\n" ++ String.join (records.map (·.moduleText)) ++ "        ])\n"

/-- The text of the module that holds records. -/
def providerModule (records : List FunctionRecord) : String :=
  moduleHead ++ moduleRecords records ++ moduleTail

end FunctionBindings
