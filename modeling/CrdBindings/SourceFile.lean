import CrdBindings.Layout.OfModule
import CrdBindings.Layout.Rendering

/-!
The files of generated code: one for each typed module, and one that declares them all beside the
types that they share.
-/

namespace CrdBindings
set_option autoImplicit false

structure SourceFile where
  moduleName : String
  fileName : String
  content : String
deriving DecidableEq, Repr

namespace SourceFile

def ofModule (m : TypedModule) : SourceFile :=
  let name := Ident.module m.group m.version
  ⟨name, name ++ ".rs", (Layout.ofModule m).render⟩

def indexLines (moduleNames : List String) : List Layout.Line :=
  let metadata := ["    pub name: Option<String>,", "    pub namespace: Option<String>,",
    "    pub labels: Option<BTreeMap<String, String>>,",
    "    pub annotations: Option<BTreeMap<String, String>>,"]
  [.comment "" "! Kubernetes custom resource types.",
    .comment "" "!",
    .comment "" "! Generated by crdgen. Do not edit by hand.",
    Layout.code "",
    Layout.code "use serde::\x7bDeserialize, Serialize\x7d;",
    Layout.code "use std::collections::BTreeMap;",
    Layout.code ""] ++
  (moduleNames.map fun name => .code ["pub mod ", name, ";"]) ++
  [Layout.code "",
    .comment "" "/ Object metadata set on generated resources",
    Layout.code "#[derive(Debug, Clone, Default, PartialEq, Serialize, Deserialize)]",
    Layout.code "pub struct ObjectMeta \x7b"] ++
  (metadata.flatMap fun field => [Layout.absentAttribute, Layout.code field]) ++
  [Layout.code "\x7d",
    Layout.code "",
    .comment "" "/ Value of an `x-kubernetes-int-or-string` field",
    Layout.code "#[derive(Debug, Clone, PartialEq, Eq, Serialize, Deserialize)]",
    Layout.code "#[serde(untagged)]",
    Layout.code "pub enum IntOrString \x7b",
    Layout.code "    Int(i64),",
    Layout.code "    String(String),",
    Layout.code "\x7d"]

def index (files : List SourceFile) : SourceFile :=
  ⟨"mod", "mod.rs", Layout.Line.textOf (indexLines (files.map (·.moduleName)))⟩

end SourceFile
end CrdBindings
