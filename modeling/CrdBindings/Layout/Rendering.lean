import CrdBindings.Layout
import CrdBindings.Layout.Line

/-!
The source text of a layout, line by line: a header, the imports that the layout needs, and its
items with an empty line before each.
-/

namespace CrdBindings
set_option autoImplicit false

namespace Layout

/-- A line of code without any text of its own. -/
def code (text : String) : Line := .code [text]

/-- A documentation line; an empty one has no blank at its end. -/
def docLine (indent : String) (line : String) : Line :=
  .comment indent (if line.isEmpty then "/" else "/ " ++ line)

/-- The attribute of a value that is left out when absent. -/
def absentAttribute : Line :=
  .code ["    #[serde(default, skip_serializing_if = ", .literal "Option::is_none", ")]"]

/-- The attribute of a value that is written under a name of its own. -/
def renameAttribute (name : String) : Line := .code ["    #[serde(rename = ", .literal name, ")]"]

/-- The lines that end a constructor and the block around it. -/
def closingLines : List Line := [code "        \x7d", code "    \x7d", code "\x7d"]

def commonFields : List Line :=
  [renameAttribute "apiVersion",
    code "    pub api_version: String,",
    code "    pub kind: String,",
    code "    #[serde(default)]",
    code "    pub metadata: ObjectMeta,"]

def commonValues : List Line :=
  [code "        Self \x7b",
    code "            api_version: Self::API_VERSION.to_string(),",
    code "            kind: Self::KIND.to_string(),",
    code "            metadata: ObjectMeta \x7b",
    code "                name: Some(name.into()),",
    code "                ..Default::default()",
    code "            \x7d,"]

def specField (f : FieldDecl) : List Line :=
  if f.required then [.code ["    pub spec: ", f.innerType, ","]]
  else [absentAttribute, .code ["    pub spec: Option<", f.innerType, ">,"]]

def statusField (f : FieldDecl) : List Line :=
  [absentAttribute, .code ["    pub status: Option<", f.innerType, ">,"]]

/-- What a resource declares about its kind. -/
def constantLines (apiVersion : String) (r : ResourceDecl) : List Line :=
  [.code ["    pub const API_VERSION: &'static str = ", .literal apiVersion, ";"],
    .code ["    pub const KIND: &'static str = ", .literal r.kind, ";"],
    .code ["    pub const PLURAL: &'static str = ", .literal r.plural, ";"],
    .code ["    pub const NAMESPACED: bool = ", if r.namespaced then "true" else "false", ";"]]

/-- The constructor of a resource, which takes a name and the specification if there is one. -/
def newResourceLines (r : ResourceDecl) : List Line :=
  [.comment "    " ("/ Create a `" ++ r.kind ++ "` named `name`"),
    .code ["    pub fn new(name: impl Into<String>",
      r.spec.elim "" fun f => ", spec: " ++ f.innerType, ") -> Self \x7b"]] ++
  commonValues ++
  (r.spec.elim [] fun f =>
    [code (if f.required then "            spec," else "            spec: Some(spec),")]) ++
  (if r.status.isSome then [code "            status: None,"] else []) ++
  closingLines

def resourceLines (apiVersion : String) (r : ResourceDecl) : List Line :=
  r.doc.map (docLine "") ++
  [code "#[derive(Debug, Clone, PartialEq, Serialize, Deserialize)]",
    .code ["pub struct ", r.name, " \x7b"]] ++
  commonFields ++ r.spec.elim [] specField ++ r.status.elim [] statusField ++
  [code "\x7d",
    code "",
    .code ["impl ", r.name, " \x7b"]] ++
  constantLines apiVersion r ++ [code ""] ++ newResourceLines r

/-- The attribute for the name of a field. A name that is empty cannot be given. -/
def renameLines (rename : Option String) : List Line :=
  rename.elim [] fun name => if name.isEmpty then [] else [renameAttribute name]

def fieldLines (f : FieldDecl) : List Line :=
  f.doc.map (docLine "    ") ++
  renameLines f.rename ++
  (if f.required then [] else [absentAttribute]) ++
  [.code ["    pub ", f.ident, ": ", f.type, ","]]

/-- The constructor of a record, which takes the required fields. -/
def newRecordLines (r : RecordDecl) : List Line :=
  [code "",
    .code ["impl ", r.name, " \x7b"],
    .code ["    pub fn new(",
      Text.joinWith ", " (r.required.map fun f => f.ident ++ ": " ++ f.innerType),
      ") -> Self \x7b"],
    code "        Self \x7b"] ++
  (r.fields.map fun f =>
    .code ["            ", f.ident, if f.required then "," else ": None,"]) ++
  closingLines

def recordLines (r : RecordDecl) : List Line :=
  r.doc.map (docLine "") ++
  [code ("#[derive(Debug, Clone," ++ (if r.isDefaultable then " Default," else "") ++
      " PartialEq, Serialize, Deserialize)]"),
    .code ["pub struct ", r.name, " \x7b"]] ++
  r.fields.flatMap fieldLines ++
  [code "\x7d"] ++
  (if r.isDefaultable then [] else newRecordLines r)

def choiceLines (c : ChoiceDecl) : List Line :=
  c.doc.map (docLine "") ++
  [code "#[derive(Debug, Clone, Copy, PartialEq, Eq, Hash, Serialize, Deserialize)]",
    .code ["pub enum ", c.name, " \x7b"]] ++
  (c.variants.flatMap fun v => [renameAttribute v.value, .code ["    ", v.ident, ","]]) ++
  [code "\x7d"]

def itemLines (apiVersion : String) : Item → List Line
  | .resource decl => resourceLines apiVersion decl
  | .record decl => recordLines decl
  | .choice decl => choiceLines decl

def headerLines (l : Layout) : List Line :=
  [.comment "" ("! Types for the `" ++ l.apiVersion ++ "` API group/version."),
    .comment "" "!",
    .comment "" "! Generated by crdgen. Do not edit by hand.",
    code "",
    code "use serde::\x7bDeserialize, Serialize\x7d;"] ++
  (if l.usesMap then [code "use std::collections::BTreeMap;"] else []) ++
  [code (if l.usesIntOrString then "use super::\x7bIntOrString, ObjectMeta\x7d;"
    else "use super::ObjectMeta;")]

def lines (l : Layout) : List Line :=
  l.headerLines ++ l.items.flatMap fun item => code "" :: itemLines l.apiVersion item

def render (l : Layout) : String := Line.textOf l.lines

end Layout
end CrdBindings
