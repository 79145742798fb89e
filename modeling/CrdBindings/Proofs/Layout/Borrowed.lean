import CrdBindings.Proofs.Declared
import CrdBindings.Proofs.Layout.Sanitised
import CrdBindings.Proofs.Layout.UniqueNames
import Mathlib.Data.List.Infix

/-!
The names that a rendered layout takes from elsewhere. A record or a choice has its path from a
specification or a status in its name, and no borrowed name has; a resource is named by its kind alone,
and takes any of these names but those of the shared types.
-/

namespace CrdBindings
set_option autoImplicit false

namespace Ident

theorem pascalFrom_append {ending : List Char} (h : ∀ atStart, pascalFrom atStart ending = ending)
    (atStart : Bool) (cs : List Char) :
    pascalFrom atStart (cs ++ ending) = pascalFrom atStart cs ++ ending := by
  induction cs generalizing atStart with
  | nil => exact h atStart
  | cons c cs ih =>
    rw [List.cons_append, pascalFrom, pascalFrom]
    by_cases hc : Text.isAsciiAlnum c
    · rw [if_pos hc, if_pos hc, ih, List.cons_append]
    · rw [if_neg hc, if_neg hc, ih]

/-- A name that ends in words of its own keeps them as the name of a type. -/
theorem infix_type_append {ending : String} (hne : ending.toList ≠ [])
    (h : ∀ atStart, pascalFrom atStart ending.toList = ending.toList) (name : String) :
    ending.toList <:+: (type (name ++ ending)).toList := by
  have hpascal : pascal (name ++ ending).toList = pascal name.toList ++ ending.toList := by
    rw [String.toList_append]
    exact pascalFrom_append h true _
  have hguarded := infix_guardDigit 'V' (orElse "Empty" (pascal (name ++ ending).toList))
  have hescaped := infix_escapeKeyword
    (String.ofList (guardDigit 'V' (orElse "Empty" (pascal (name ++ ending).toList))))
  rw [String.toList_ofList] at hescaped
  rw [orElse, hpascal, if_neg (by simp [hne])] at hguarded
  rw [orElse, hpascal, if_neg (by simp [hne])] at hescaped
  rw [type, orElse, hpascal, if_neg (by simp [hne])]
  exact ((List.suffix_append _ _).isInfix.trans hguarded).trans hescaped

/-- A name with the ending of a specification or a status in it. -/
def IsPathName (name : String) : Prop :=
  IsType name ∧ ("Spec".toList <:+: name.toList ∨ "Status".toList <:+: name.toList)

theorem IsPathName.append {a b : String} (ha : IsPathName a) (hb : IsType b) :
    IsPathName (a ++ b) := by
  refine ⟨ha.1.append hb, ?_⟩
  rw [String.toList_append]
  have hprefix := (List.prefix_append a.toList b.toList).isInfix
  rcases ha.2 with h | h
  · exact .inl (h.trans hprefix)
  · exact .inr (h.trans hprefix)

theorem isPathName_type (kind : String) :
    IsPathName (type (kind ++ "Spec")) ∧ IsPathName (type (kind ++ "Status")) := by
  constructor
  · exact ⟨type_isType _, .inl (infix_type_append (by decide) (by decide) kind)⟩
  · exact ⟨type_isType _, .inr (infix_type_append (by decide) (by decide) kind)⟩

end Ident

namespace Names

theorem claim_isPathName (names : Names) {wanted : String} (h : Ident.IsPathName wanted) :
    Ident.IsPathName (names.claim wanted).1 := by
  rcases claim_cases names wanted with hname | ⟨n, hname⟩
  · rwa [hname]
  · rw [hname, Ident.bare_of_parts fun c hc => Ident.isPart_of_isWord (h.1 c hc)]
    exact h.append (Ident.toString_words n)

/-- A free name without digits is claimed just where it is wanted. -/
theorem mem_claimAll_iff {names : Names} {name : String} (hfree : name ∉ names.taken)
    (hplain : ∀ c ∈ name.toList, c.isDigit = false) (wanted : List String) :
    name ∈ (names.claimAll wanted).1 ↔ name ∈ wanted := by
  induction wanted generalizing names with
  | nil => rfl
  | cons w ws ih =>
    rw [claimAll, List.mem_cons, List.mem_cons]
    by_cases hw : name = w
    · subst hw
      exact iff_of_true (.inl (claim_of_free hfree).symm) (.inl rfl)
    · have hne : name ≠ (names.claim w).1 := by
        rintro rfl
        rcases claim_cases names w with hname | ⟨n, hname⟩
        · exact hw hname
        · obtain ⟨c, hc, hdigit⟩ := Ident.exists_digit_numbered (Ident.bare w) n
          rw [← hname] at hc
          rw [hplain c hc] at hdigit
          cases hdigit
      have hfree' : name ∉ (names.claim w).2.taken := by
        rw [claim_taken, List.mem_cons]
        exact not_or.mpr ⟨hne, hfree⟩
      rw [ih hfree']
      exact or_congr_left (iff_of_false hne hw)

end Names

namespace Resource

theorem namedTypes_name {context kind : String} {required : List String}
    {properties : List (String × Json)} {types : List NamedType}
    (hok : namedTypes context kind required properties = .ok types) :
    ∀ t ∈ types, t.name = kind ++ "Spec" ∨ t.name = kind ++ "Status" := by
  induction properties generalizing types with
  | nil =>
    cases hok
    exact List.forall_mem_nil _
  | cons property properties ih =>
    simp only [namedTypes] at hok
    split at hok
    · exact ih hok
    · rename_i ending htyped
      obtain ⟨node, -, hok⟩ := bind_eq_ok hok
      obtain ⟨rest, hrest, hok⟩ := bind_eq_ok hok
      cases hok
      intro t ht
      rcases List.mem_cons.mp ht with rfl | ht
      · rcases typedProperty?_eq_some htyped with ⟨-, rfl⟩ | ⟨-, rfl⟩
        · exact .inl rfl
        · exact .inr rfl
      · exact ih hrest t ht

theorem name_of_mem_types {o : Occurrence} {r : Resource} (hok : o.resource = .ok r) :
    ∀ t ∈ r.types, t.name = o.names.kind ++ "Spec" ∨ t.name = o.names.kind ++ "Status" := by
  unfold Occurrence.resource ofVersion at hok
  split at hok
  · cases hok
    exact List.forall_mem_nil _
  · dsimp only at hok
    split at hok
    · cases hok
      exact List.forall_mem_nil _
    · obtain ⟨types, htypes, hok⟩ := bind_eq_ok hok
      cases hok
      exact namedTypes_name htypes

end Resource

namespace Layout

open Ident (IsPathName)

/-- What a claim keeps of a wanted name and a field of the name of its parent, holds of the names of all
items below a node. -/
theorem layNode_and_layFields_names {p : String → Prop}
    (hclaim : ∀ (names : Names) {wanted : String}, p wanted → p (names.claim wanted).1)
    (hfield : ∀ {parent : String} (name : String), p parent → p (parent ++ Ident.type name)) :
    (∀ (node : Node) (names : Names) (candidate : String) (description : Option String),
      p candidate → ∀ item ∈ (layNode names candidate description node).items, p item.name) ∧
    ∀ (fields : List Field) (names idents : Names) (parent : String), p parent →
      ∀ item ∈ (layFields names idents parent fields).2.1, p item.name := by
  apply Node.tree_induction
  case object =>
    intro fields ih names candidate description h item hitem
    rcases List.mem_cons.mp hitem with rfl | hitem
    · exact hclaim names h
    · exact ih _ _ _ (hclaim names h) item hitem
  case array =>
    intro inner ih names candidate description h
    exact ih names candidate none h
  case map =>
    intro inner ih names candidate description h
    exact ih names candidate none h
  case enumeration =>
    intro values names candidate description h item hitem
    simp only [layNode, layEnumeration] at hitem
    split at hitem
    · obtain rfl := List.mem_singleton.mp hitem
      exact hclaim names h
    · exact absurd hitem List.not_mem_nil
  case leaf =>
    intro node hleaf names candidate description h item hitem
    cases hleaf <;> exact absurd hitem List.not_mem_nil
  case nil => exact fun _ _ _ _ => List.forall_mem_nil _
  case cons =>
    intro name node required description fields ihNode ihFields names idents parent h item hitem
    rcases List.mem_append.mp hitem with hitem | hitem
    · exact ihNode _ _ _ (hfield name h) item hitem
    · exact ihFields _ _ _ h item hitem

theorem ofModule_names {m : TypedModule}
    (h : ∀ r ∈ m.resources, ∀ t ∈ r.types, IsPathName (Ident.type t.name)) :
    ∀ item ∈ (ofModule m).items, item.isResource ∨ IsPathName item.name := by
  have hfield : ∀ {parent : String} (name : String), IsPathName parent →
      IsPathName (parent ++ Ident.type name) :=
    fun name hparent => hparent.append (Ident.type_isType name)
  apply forall_mem_ofModule
  · exact fun name _ r decls => .inl rfl
  · intro r hr t ht names item hitem
    exact .inr ((layNode_and_layFields_names Names.claim_isPathName hfield).1 _ _ _ _
      (h r hr t ht) item hitem)

end Layout

namespace TypedModule

/-- The types of compiled modules are named after a kind and one of its two parts. -/
theorem isPathName_of_mem {definitions : List Definition} {modules : List TypedModule}
    (h : ofDefinitions definitions = .ok modules) {m : TypedModule} (hm : m ∈ modules) {r : Resource}
    (hr : r ∈ m.resources) : ∀ t ∈ r.types, Ident.IsPathName (Ident.type t.name) := by
  obtain ⟨compiled, hcompiled, rfl⟩ := (ofDefinitions_eq_ok_iff _ _).mp h
  obtain ⟨group, -, hm⟩ := List.mem_flatMap.mp hm
  obtain ⟨version, -, rfl⟩ := List.mem_map.mp hm
  obtain ⟨c, hc, rfl⟩ := List.mem_map.mp hr
  obtain ⟨hspec, hstatus⟩ := Ident.isPathName_type c.1.names.kind
  have hresource := (Occurrence.resource_of_compile hcompiled c (List.mem_filter.mp hc).1).2
  intro t ht
  rcases Resource.name_of_mem_types hresource t ht with hname | hname
  · rw [hname]
    exact hspec
  · rw [hname]
    exact hstatus

end TypedModule

/-- The fields that are written for an item and have a type of their own. -/
def Item.decls : Item → List FieldDecl
  | .resource decl => decl.spec.toList ++ decl.status.toList
  | .record decl => decl.fields
  | .choice _ => []

namespace Layout

/-- The names that every rendered layout takes from elsewhere. -/
def everywhereNames : List String :=
  ["String", "Vec", "Option", "Into", "Default", "Serialize", "Deserialize"]

/-- The names of types that a rendered layout takes from elsewhere. -/
def borrowedNames (l : Layout) : List String :=
  everywhereNames ++ sharedTypes ++ if l.usesMap then ["BTreeMap"] else []

/-- The words for types that need no declaration and no import. -/
def primitiveNames : List String := ["i64", "f64", "bool", "serde_json"]

theorem mem_of_mem_borrowedNames {l : Layout} {name : String} (h : name ∈ l.borrowedNames) :
    name ∈ everywhereNames ++ sharedTypes ++ ["BTreeMap"] := by
  unfold borrowedNames at h
  rcases List.mem_append.mp h with h | h
  · exact List.mem_append_left _ h
  · by_cases hmap : l.usesMap
    · rw [if_pos hmap] at h
      exact List.mem_append_right _ h
    · rw [if_neg hmap] at h
      exact absurd h List.not_mem_nil

theorem borrowed_digitless : ((everywhereNames ++ sharedTypes ++ ["BTreeMap"]).all fun name =>
    name.toList.all fun c => !c.isDigit) = true := by
  decide +kernel

theorem borrowed_pathless : ((everywhereNames ++ sharedTypes ++ ["BTreeMap"]).all fun name =>
    decide ¬ ("Spec".toList <:+: name.toList ∨ "Status".toList <:+: name.toList)) = true := by
  decide +kernel

theorem borrowedNames_plain {l : Layout} {name : String} (h : name ∈ l.borrowedNames) :
    (∀ c ∈ name.toList, c.isDigit = false) ∧ ¬ Ident.IsPathName name := by
  have hmem := mem_of_mem_borrowedNames h
  have hdigits := List.all_eq_true.mp borrowed_digitless name hmem
  have hpath := of_decide_eq_true (List.all_eq_true.mp borrowed_pathless name hmem)
  refine ⟨?_, fun h => hpath h.2⟩
  intro c hc
  simpa using List.all_eq_true.mp hdigits c hc

theorem mem_kindNames_iff {m : TypedModule} {name : String} (hshared : name ∉ sharedTypes)
    (hplain : ∀ c ∈ name.toList, c.isDigit = false) :
    name ∈ (kindNames m).1 ↔ ∃ r ∈ m.resources, Ident.type r.kind = name := by
  have hfree : name ∉ (Names.empty.claimAll sharedTypes).2.taken := by
    rw [Names.claimAll_taken, claimAll_sharedTypes, Names.empty, List.append_nil, List.mem_reverse]
    exact hshared
  rw [kindNames, Names.mem_claimAll_iff hfree hplain, List.mem_map]

theorem not_isTypeName_of_primitive {name : String} (h : name ∈ primitiveNames) :
    ¬ Ident.IsTypeName name := by
  have hall : ∀ name ∈ primitiveNames, (name.toList.head?.all fun c => !c.isUpper) = true := by
    decide +kernel
  intro htype
  obtain ⟨c, cs, hcs, hupper⟩ := htype.capital
  have hlower := hall name h
  rw [hcs, List.head?_cons, Option.all_some, hupper] at hlower
  cases hlower

/-- The text of a type, made of declared, borrowed and primitive names. -/
inductive IsFieldType (l : Layout) : String → Prop where
  | declared {name : String} : name ∈ l.typeNames → IsFieldType l name
  | borrowed {name : String} : name ∈ l.borrowedNames → IsFieldType l name
  | primitive {name : String} : name ∈ primitiveNames → IsFieldType l name
  | anything : "serde_json" ∈ primitiveNames → IsFieldType l "serde_json::Value"
  | list {inner : String} : "Vec" ∈ l.borrowedNames → IsFieldType l inner →
      IsFieldType l (listType inner)
  | optional {inner : String} : "Option" ∈ l.borrowedNames → IsFieldType l inner →
      IsFieldType l ("Option<" ++ inner ++ ">")
  | map {inner : String} : "BTreeMap" ∈ l.borrowedNames → "String" ∈ l.borrowedNames →
      IsFieldType l inner → IsFieldType l (mapType inner)

def Typed (l : Layout) (decls : List FieldDecl) : Prop := ∀ f ∈ decls, IsFieldType l f.innerType

theorem mem_borrowedNames_of_everywhere {l : Layout} {name : String}
    (h : name ∈ everywhereNames ++ sharedTypes) : name ∈ l.borrowedNames :=
  List.mem_append_left _ h

theorem mem_borrowedNames_of_usesMap {l : Layout} (h : l.usesMap) :
    "BTreeMap" ∈ l.borrowedNames := by
  rw [borrowedNames, if_pos h]
  exact List.mem_append_right _ List.mem_cons_self

theorem layEnumeration_typed {l : Layout} {names : Names} {candidate : String}
    {description : Option String} {values : List Json}
    (hitems : ∀ item ∈ (layEnumeration names candidate description values).items,
      item.name ∈ l.typeNames) :
    IsFieldType l (layEnumeration names candidate description values).type ∧
      ∀ item ∈ (layEnumeration names candidate description values).items, Typed l item.decls := by
  unfold layEnumeration at hitems ⊢
  split
  · rename_i strings hstrings
    simp only [hstrings, List.forall_mem_singleton] at hitems
    exact ⟨.declared hitems, List.forall_mem_singleton.mpr (List.forall_mem_nil _)⟩
  · refine ⟨?_, List.forall_mem_nil _⟩
    dsimp only
    split
    · exact .primitive (by decide)
    · exact .anything (by decide)

/-- What a node and a list of fields declare is typed, if the layout has their items and is marked as
using maps whenever they do. -/
theorem layNode_and_layFields_typed {l : Layout} :
    (∀ (node : Node) (names : Names) (candidate : String) (description : Option String),
      (∀ item ∈ (layNode names candidate description node).items, item.name ∈ l.typeNames) →
      (node.hasMap → l.usesMap) →
      IsFieldType l (layNode names candidate description node).type ∧
        ∀ item ∈ (layNode names candidate description node).items, Typed l item.decls) ∧
    ∀ (fields : List Field) (names idents : Names) (parent : String),
      (∀ item ∈ (layFields names idents parent fields).2.1, item.name ∈ l.typeNames) →
      (Node.fieldsHaveMap fields → l.usesMap) →
      Typed l (layFields names idents parent fields).1 ∧
        ∀ item ∈ (layFields names idents parent fields).2.1, Typed l item.decls := by
  apply Node.tree_induction
  case object =>
    intro fields ih names candidate description hitems hmap
    obtain ⟨hname, hbelow⟩ := List.forall_mem_cons.mp hitems
    obtain ⟨hfields, hrest⟩ := ih _ _ _ hbelow hmap
    exact ⟨.declared hname, List.forall_mem_cons.mpr ⟨hfields, hrest⟩⟩
  case array =>
    intro inner ih names candidate description hitems hmap
    obtain ⟨hinner, hrest⟩ := ih names candidate none hitems hmap
    exact ⟨.list (mem_borrowedNames_of_everywhere (by decide)) hinner, hrest⟩
  case map =>
    intro inner ih names candidate description hitems hmap
    have huses : l.usesMap := hmap rfl
    obtain ⟨hinner, hrest⟩ := ih names candidate none hitems fun _ => huses
    exact ⟨.map (mem_borrowedNames_of_usesMap huses) (mem_borrowedNames_of_everywhere (by decide))
      hinner, hrest⟩
  case enumeration =>
    intro values names candidate description hitems hmap
    exact layEnumeration_typed hitems
  case leaf =>
    intro node hleaf names candidate description hitems hmap
    have hstring : "String" ∈ l.borrowedNames := mem_borrowedNames_of_everywhere (by decide)
    have hshared : "IntOrString" ∈ l.borrowedNames := mem_borrowedNames_of_everywhere (by decide)
    constructor
    · cases hleaf
      case string => exact .borrowed hstring
      case intOrString => exact .borrowed hshared
      case unknown => exact .anything (by decide)
      all_goals exact .primitive (by simp [layNode, primitiveNames])
    · cases hleaf <;> exact List.forall_mem_nil _
  case nil => exact fun _ _ _ _ _ => ⟨List.forall_mem_nil _, List.forall_mem_nil _⟩
  case cons =>
    intro name node required description fields ihNode ihFields names idents parent hitems hmap
    obtain ⟨hnodeItems, hfieldItems⟩ := List.forall_mem_append.mp hitems
    rw [Node.fieldsHaveMap, Bool.or_eq_true] at hmap
    obtain ⟨htype, hnode⟩ := ihNode _ _ _ hnodeItems fun h => hmap (.inl h)
    obtain ⟨hfields, hrest⟩ := ihFields _ _ _ hfieldItems fun h => hmap (.inr h)
    exact ⟨List.forall_mem_cons.mpr ⟨htype, hfields⟩, List.forall_mem_append.mpr ⟨hnode, hrest⟩⟩

theorem layTypes_typed {l : Layout} (ts : List NamedType) (names : Names)
    (hitems : ∀ item ∈ (layTypes names ts).2.1, item.name ∈ l.typeNames)
    (hmap : ∀ t ∈ ts, t.node.hasMap → l.usesMap) :
    (∀ d ∈ (layTypes names ts).1, IsFieldType l d.2.innerType) ∧
      ∀ item ∈ (layTypes names ts).2.1, Typed l item.decls := by
  induction ts generalizing names with
  | nil => exact ⟨List.forall_mem_nil _, List.forall_mem_nil _⟩
  | cons t ts ih =>
    obtain ⟨hnodeItems, hrestItems⟩ := List.forall_mem_append.mp hitems
    obtain ⟨hnodeMap, hrestMap⟩ := List.forall_mem_cons.mp hmap
    obtain ⟨htype, hnode⟩ := layNode_and_layFields_typed.1 _ _ _ _ hnodeItems hnodeMap
    obtain ⟨hdecls, hrest⟩ := ih _ hrestItems hrestMap
    exact ⟨List.forall_mem_cons.mpr ⟨htype, hdecls⟩, List.forall_mem_append.mpr ⟨hnode, hrest⟩⟩

theorem resourceDecl_typed {l : Layout} {name : String} {r : Resource}
    {decls : List (String × FieldDecl)} (h : ∀ d ∈ decls, IsFieldType l d.2.innerType) :
    Typed l (Item.resource (resourceDecl name r decls)).decls := by
  have hlast : ∀ test, Typed l (lastField? test decls).toList := by
    intro test f hf
    obtain ⟨d, hd, rfl⟩ := lastField?_mem (Option.mem_toList.mp hf)
    exact h d hd
  exact List.forall_mem_append.mpr ⟨hlast (· == "spec"), hlast (· != "spec")⟩

theorem layResources_typed {l : Layout} (rs : List (String × Resource)) (names : Names)
    (hitems : ∀ item ∈ (layResources names rs).1, item.name ∈ l.typeNames)
    (hmap : ∀ entry ∈ rs, ∀ t ∈ entry.2.types, t.node.hasMap → l.usesMap) :
    ∀ item ∈ (layResources names rs).1, Typed l item.decls := by
  induction rs generalizing names with
  | nil => exact List.forall_mem_nil _
  | cons entry rs ih =>
    obtain ⟨-, hitems⟩ := List.forall_mem_cons.mp hitems
    obtain ⟨htypeItems, hrestItems⟩ := List.forall_mem_append.mp hitems
    obtain ⟨htypeMap, hrestMap⟩ := List.forall_mem_cons.mp hmap
    obtain ⟨hdecls, htypes⟩ := layTypes_typed entry.2.types names htypeItems htypeMap
    exact List.forall_mem_cons.mpr ⟨resourceDecl_typed hdecls,
      List.forall_mem_append.mpr ⟨htypes, ih _ hrestItems hrestMap⟩⟩

/-- The types of all fields of a layout are made of its own names, borrowed and primitive ones. -/
theorem ofModule_typed (m : TypedModule) :
    ∀ item ∈ (ofModule m).items, Typed (ofModule m) item.decls := by
  have hitems : ∀ item ∈ (layResources (kindNames m).2 ((kindNames m).1.zip m.resources)).1,
      item.name ∈ (ofModule m).typeNames := by
    intro item hitem
    rw [typeNames, ofModule_eq]
    exact List.mem_map_of_mem hitem
  have hmap : ∀ entry ∈ (kindNames m).1.zip m.resources, ∀ t ∈ entry.2.types,
      t.node.hasMap → (ofModule m).usesMap := by
    intro entry hentry t ht hhas
    rw [ofModule_eq]
    have hentries := (List.of_mem_zip hentry).2
    exact List.any_eq_true.mpr ⟨entry.2, hentries, List.any_eq_true.mpr ⟨t, ht, hhas⟩⟩
  have htyped := layResources_typed _ _ hitems hmap
  intro item hitem
  apply htyped item
  rwa [ofModule_eq] at hitem

theorem sharedTypes_free (m : TypedModule) {name : String} (h : name ∈ (ofModule m).typeNames) :
    name ∉ sharedTypes := by
  obtain ⟨-, -, hdisjoint⟩ := List.nodup_append'.mp (typeNames_nodup m)
  exact fun hshared => hdisjoint h hshared

theorem IsFieldType.type {l : Layout} {f : FieldDecl} (h : IsFieldType l f.innerType) :
    IsFieldType l f.type := by
  unfold FieldDecl.type
  split
  · exact h
  · exact .optional (mem_borrowedNames_of_everywhere (by decide)) h

/-- A compiled module declares a name that its text takes from elsewhere just where a kind has that
name and the name is not reserved; records and choices never have one, and no type is declared under
the name of a primitive. The types of its fields are made of declared, borrowed and primitive names. -/
theorem ofModule_borrows {definitions : List Definition} {modules : List TypedModule}
    (h : TypedModule.ofDefinitions definitions = .ok modules) {m : TypedModule} (hm : m ∈ modules) :
    (∀ name ∈ (ofModule m).borrowedNames,
      (name ∈ (ofModule m).typeNames ↔
        name ∉ sharedTypes ∧ ∃ r ∈ m.resources, Ident.type r.kind = name) ∧
      ∀ item ∈ (ofModule m).items, item.name = name → item.isResource) ∧
    (∀ name ∈ primitiveNames, name ∉ (ofModule m).typeNames) ∧
    ∀ item ∈ (ofModule m).items, ∀ f ∈ item.decls,
      (ofModule m).IsFieldType f.innerType ∧ (ofModule m).IsFieldType f.type := by
  refine ⟨?_, ?_, ?_⟩
  · intro name hname
    obtain ⟨hdigits, hpath⟩ := borrowedNames_plain hname
    have hresource : ∀ item ∈ (ofModule m).items, item.name = name → item.isResource := by
      rintro item hitem rfl
      have hnames := ofModule_names (m := m) fun r hr => TypedModule.isPathName_of_mem h hm hr
      exact (hnames item hitem).resolve_right hpath
    refine ⟨?_, hresource⟩
    constructor
    · intro hdeclared
      have hshared := sharedTypes_free m hdeclared
      obtain ⟨item, hitem, hitemName⟩ := List.mem_map.mp hdeclared
      have hkind : name ∈ (ofModule m).resourceNames :=
        mem_resourceNames_iff.mpr ⟨item, hitem, hresource item hitem hitemName, hitemName⟩
      rw [ofModule_resourceNames] at hkind
      exact ⟨hshared, (mem_kindNames_iff hshared hdigits).mp hkind⟩
    · rintro ⟨hshared, hkind⟩
      have hchosen := (mem_kindNames_iff hshared hdigits).mpr hkind
      rw [← ofModule_resourceNames] at hchosen
      obtain ⟨item, hitem, -, rfl⟩ := mem_resourceNames_iff.mp hchosen
      exact List.mem_map_of_mem hitem
  · intro name hname hdeclared
    obtain ⟨item, hitem, rfl⟩ := List.mem_map.mp hdeclared
    exact not_isTypeName_of_primitive hname (ofModule_legal m item hitem).name
  · intro item hitem f hf
    have htyped := ofModule_typed m item hitem f hf
    exact ⟨htyped, htyped.type⟩

/-- A definition of one version, with a kind and without a schema. -/
def plainDefinition (kind : String) : Definition :=
  ⟨none, "example.com", ⟨kind, "things", none, none⟩, .namespaced, [⟨"v1", true, true, false, none⟩]⟩

/-- A gadget borrows the name of the strings, and does not declare it. -/
theorem gadget_borrows :
    ∃ m, TypedModule.ofDefinitions [plainDefinition "Gadget"] = .ok [m] ∧
      "String" ∈ (ofModule m).borrowedNames ∧ "String" ∉ (ofModule m).typeNames := by
  let m : TypedModule := ⟨"example.com", "v1", [⟨"Gadget", "things", .namespaced, none, []⟩]⟩
  have hok : TypedModule.ofDefinitions [plainDefinition "Gadget"] = .ok [m] := rfl
  have hborrowed : "String" ∈ (ofModule m).borrowedNames := List.mem_cons_self
  refine ⟨m, hok, hborrowed, ?_⟩
  intro hdeclared
  obtain ⟨hiff, -⟩ := (ofModule_borrows hok List.mem_cons_self).1 "String" hborrowed
  obtain ⟨-, r, hr, hname⟩ := hiff.mp hdeclared
  rw [List.mem_singleton.mp hr] at hname
  exact absurd hname (by decide +kernel)

/-- The kind of strings is declared under the name of the strings, of which its fields are. -/
theorem string_kind_shadows :
    ∃ m, TypedModule.ofDefinitions [plainDefinition "String"] = .ok [m] ∧
      "String" ∈ (ofModule m).borrowedNames ∧ "String" ∈ (ofModule m).typeNames ∧
      .code ["pub struct ", "String", " \x7b"] ∈ (ofModule m).lines ∧
      code "    pub api_version: String," ∈ (ofModule m).lines := by
  let m : TypedModule := ⟨"example.com", "v1", [⟨"String", "things", .namespaced, none, []⟩]⟩
  have hok : TypedModule.ofDefinitions [plainDefinition "String"] = .ok [m] := rfl
  refine ⟨m, hok, List.mem_cons_self, ?_, ?_, ?_⟩
  · decide +kernel
  · decide +kernel
  · decide +kernel

end Layout
end CrdBindings
