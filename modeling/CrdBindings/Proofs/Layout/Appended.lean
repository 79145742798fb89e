import CrdBindings.Proofs.Layout.UniqueNames

/-!
What a layout keeps when its module grows at the end. The kinds of the further resources take their names
before any nested type does, so the resources in front meet other taken names than before; their items come
out the same just when no further kind has the name of one of them.
-/

namespace CrdBindings
set_option autoImplicit false

def TypedModule.extended (m : TypedModule) (more : List Resource) : TypedModule :=
  { m with resources := m.resources ++ more }

namespace Names

/-- A registry in which further names are taken besides. -/
def WidenedBy (wider names : Names) (more : List String) : Prop :=
  ∀ name, name ∈ wider.taken ↔ name ∈ names.taken ∨ name ∈ more

theorem claimAll_append (names : Names) (wanted others : List String) :
    names.claimAll (wanted ++ others) =
      ((names.claimAll wanted).1 ++ ((names.claimAll wanted).2.claimAll others).1,
        ((names.claimAll wanted).2.claimAll others).2) := by
  induction wanted generalizing names with
  | nil => rfl
  | cons w ws ih => simp only [List.cons_append, claimAll, ih]

theorem claimAll_widenedBy (names : Names) (wanted : List String) :
    (names.claimAll wanted).2.WidenedBy names (names.claimAll wanted).1 := by
  intro name
  rw [claimAll_taken, List.mem_append, List.mem_reverse, or_comm]

namespace WidenedBy

variable {names wider : Names} {more : List String} {wanted : String}

/-- A claim that gives none of the further names gives the same name next to them. The numbers in front
of the one it gives are taken in either registry, so that it is the least in both. -/
theorem claim_fst (h : wider.WidenedBy names more) (hname : (names.claim wanted).1 ∉ more) :
    (wider.claim wanted).1 = (names.claim wanted).1 := by
  by_cases hwanted : wanted ∈ names.taken
  · obtain ⟨-, n, -, hn, ⟨hlow, hfree⟩, hleast⟩ := claim_of_taken hwanted
    obtain ⟨-, k, -, hk, hwider⟩ := claim_of_taken ((h wanted).mpr (.inl hwanted))
    rw [hn] at hname
    have hboth : IsLeast {n | 2 ≤ n ∧ numbered (Ident.bare wanted) n ∉ wider.taken} n := by
      constructor
      · exact ⟨hlow, fun hmem => ((h _).mp hmem).elim hfree hname⟩
      · exact fun j hj => hleast ⟨hj.1, fun hmem => hj.2 ((h _).mpr (.inl hmem))⟩
    rw [hn, hk, hwider.unique hboth]
  · have hfree := claim_of_free hwanted
    rw [hfree] at hname ⊢
    exact claim_of_free fun hmem => ((h wanted).mp hmem).elim hwanted hname

theorem claim_snd (h : wider.WidenedBy names more) (hname : (names.claim wanted).1 ∉ more) :
    (wider.claim wanted).2.WidenedBy (names.claim wanted).2 more := by
  intro name
  rw [claim_taken, claim_taken, List.mem_cons, List.mem_cons, h.claim_fst hname, h name, or_assoc]

end WidenedBy

end Names

namespace Layout

open Names (WidenedBy)

variable {more : List String}

theorem layEnumeration_widened {names wider : Names} {candidate : String}
    {description : Option String} {values : List Json} (h : wider.WidenedBy names more)
    (hitems : ∀ item ∈ (layEnumeration names candidate description values).items,
      item.name ∉ more) :
    let laid := layEnumeration names candidate description values
    let again := layEnumeration wider candidate description values
    again.type = laid.type ∧ again.items = laid.items ∧ again.names.WidenedBy laid.names more := by
  unfold layEnumeration at hitems ⊢
  cases hstrings : values.mapM Json.asString? with
  | none => exact ⟨rfl, rfl, h⟩
  | some strings =>
    simp only [hstrings, List.forall_mem_singleton] at hitems
    have hname := h.claim_fst hitems
    simp only [hname]
    exact ⟨trivial, trivial, h.claim_snd hitems⟩

/-- Next to further names that are not among those of its items, a node has the same type and the same
items, and so have fields. -/
theorem layNode_and_layFields_widened :
    (∀ (node : Node) (names wider : Names) (candidate : String) (description : Option String),
      wider.WidenedBy names more →
      (∀ item ∈ (layNode names candidate description node).items, item.name ∉ more) →
      let laid := layNode names candidate description node
      let again := layNode wider candidate description node
      again.type = laid.type ∧ again.items = laid.items ∧
        again.names.WidenedBy laid.names more) ∧
    ∀ (fields : List Field) (names wider idents : Names) (parent : String),
      wider.WidenedBy names more →
      (∀ item ∈ (layFields names idents parent fields).2.1, item.name ∉ more) →
      let laid := layFields names idents parent fields
      let again := layFields wider idents parent fields
      again.1 = laid.1 ∧ again.2.1 = laid.2.1 ∧ again.2.2.WidenedBy laid.2.2 more := by
  apply Node.tree_induction
  case object =>
    intro fields ih names wider candidate description h hitems
    obtain ⟨hrecord, hbelow⟩ := List.forall_mem_cons.mp hitems
    have hname : (wider.claim candidate).1 = (names.claim candidate).1 := h.claim_fst hrecord
    obtain ⟨hdecls, hrest, hnames⟩ := ih (names.claim candidate).2 (wider.claim candidate).2
      .empty (names.claim candidate).1 (h.claim_snd hrecord) hbelow
    simp only [layNode, hname, hdecls, hrest]
    exact ⟨trivial, trivial, hnames⟩
  case array =>
    intro inner ih names wider candidate description h hitems
    obtain ⟨htype, hrest⟩ := ih names wider candidate none h hitems
    exact ⟨congrArg listType htype, hrest⟩
  case map =>
    intro inner ih names wider candidate description h hitems
    obtain ⟨htype, hrest⟩ := ih names wider candidate none h hitems
    exact ⟨congrArg mapType htype, hrest⟩
  case enumeration =>
    intro values names wider candidate description h hitems
    exact layEnumeration_widened h hitems
  case leaf =>
    intro node hleaf names wider candidate description h hitems
    cases hleaf <;> exact ⟨rfl, rfl, h⟩
  case nil => exact fun names wider idents parent h _ => ⟨rfl, rfl, h⟩
  case cons =>
    intro name node required description fields ihNode ihFields names wider idents parent h hitems
    obtain ⟨hnodeItems, hfieldItems⟩ := List.forall_mem_append.mp hitems
    obtain ⟨htype, hnode, hnodeNames⟩ :=
      ihNode names wider (parent ++ Ident.type name) description h hnodeItems
    obtain ⟨hdecls, hrest, hnames⟩ := ihFields _ _ (idents.claim (Ident.field name)).2 parent
      hnodeNames hfieldItems
    simp only [layFields, htype, hnode, hdecls, hrest]
    exact ⟨trivial, trivial, hnames⟩

theorem layTypes_widened (ts : List NamedType) {names wider : Names}
    (h : wider.WidenedBy names more)
    (hitems : ∀ item ∈ (layTypes names ts).2.1, item.name ∉ more) :
    let laid := layTypes names ts
    let again := layTypes wider ts
    again.1 = laid.1 ∧ again.2.1 = laid.2.1 ∧ again.2.2.WidenedBy laid.2.2 more := by
  induction ts generalizing names wider with
  | nil => exact ⟨rfl, rfl, h⟩
  | cons t ts ih =>
    obtain ⟨hnodeItems, hrestItems⟩ := List.forall_mem_append.mp hitems
    obtain ⟨htype, hnode, hnodeNames⟩ :=
      layNode_and_layFields_widened.1 _ _ _ _ _ h hnodeItems
    obtain ⟨hdecls, hrest, hnames⟩ := ih hnodeNames hrestItems
    simp only [layTypes, htype, hnode, hdecls, hrest]
    exact ⟨trivial, trivial, hnames⟩

theorem layResources_widened (rs : List (String × Resource)) {names wider : Names}
    (h : wider.WidenedBy names more)
    (hitems : ∀ item ∈ (layResources names rs).1, item.name ∉ more) :
    (layResources wider rs).1 = (layResources names rs).1 := by
  induction rs generalizing names wider with
  | nil => rfl
  | cons entry rs ih =>
    obtain ⟨-, hitems⟩ := List.forall_mem_cons.mp hitems
    obtain ⟨htypeItems, hrestItems⟩ := List.forall_mem_append.mp hitems
    obtain ⟨hdecls, htypes, hnames⟩ := layTypes_widened entry.2.types h htypeItems
    simp only [layResources, hdecls, htypes, ih hnames hrestItems]

theorem layResources_append (names : Names) (rs others : List (String × Resource)) :
    (layResources names (rs ++ others)).1 =
      (layResources names rs).1 ++ (layResources (layResources names rs).2 others).1 := by
  induction rs generalizing names with
  | nil => rfl
  | cons entry rs ih =>
    simp only [List.cons_append, layResources, ih, List.append_assoc]

def furtherNames (m : TypedModule) (more : List Resource) : List String :=
  ((kindNames m).2.claimAll (more.map fun r => Ident.type r.kind)).1

theorem kindNames_extended (m : TypedModule) (more : List Resource) :
    (kindNames (m.extended more)).1 = (kindNames m).1 ++ furtherNames m more ∧
      (kindNames (m.extended more)).2.WidenedBy (kindNames m).2 (furtherNames m more) := by
  have hclaims : kindNames (m.extended more) =
      ((kindNames m).1 ++ furtherNames m more,
        ((kindNames m).2.claimAll (more.map fun r => Ident.type r.kind)).2) := by
    rw [kindNames, TypedModule.extended, List.map_append, Names.claimAll_append]
    rfl
  rw [hclaims]
  exact ⟨rfl, Names.claimAll_widenedBy _ _⟩

/-- The resources in front come first, next to the names of the further kinds. -/
theorem ofModule_extended_items (m : TypedModule) (more : List Resource) :
    ∃ others, (ofModule (m.extended more)).items =
      (layResources (kindNames (m.extended more)).2 ((kindNames m).1.zip m.resources)).1 ++
        others := by
  rw [ofModule_eq, (kindNames_extended m more).1, TypedModule.extended,
    List.zip_append (kindNames_length m), layResources_append]
  exact ⟨_, rfl⟩

theorem resourceNames_extended (m : TypedModule) (more : List Resource) :
    (ofModule (m.extended more)).resourceNames =
      (ofModule m).resourceNames ++ furtherNames m more := by
  rw [ofModule_resourceNames, ofModule_resourceNames, (kindNames_extended m more).1]

theorem resourceNames_drop (m : TypedModule) (more : List Resource) :
    (ofModule (m.extended more)).resourceNames.drop m.resources.length = furtherNames m more := by
  rw [resourceNames_extended, ofModule_resourceNames]
  exact List.drop_left' (kindNames_length m)

/-- When a module grows at its end, the items of its layout stay in front as they are, just when no
further resource has the name of a type that was there. -/
theorem ofModule_extended (m : TypedModule) (more : List Resource) :
    (ofModule m).items <+: (ofModule (m.extended more)).items ↔
      ∀ name ∈ (ofModule (m.extended more)).resourceNames.drop m.resources.length,
        name ∉ (ofModule m).typeNames := by
  rw [resourceNames_drop]
  constructor
  · -- The further names are those of items behind, and no name is declared twice.
    rintro ⟨others, hitems⟩ name hname hold
    have hfurther : name ∈ resourceNames { ofModule m with items := others } := by
      have hnames := resourceNames_extended m more
      rw [resourceNames, ← hitems, List.filterMap_append, ← resourceNames,
        List.append_cancel_left_eq] at hnames
      rwa [resourceNames, hnames]
    obtain ⟨hnodup, -, -⟩ := List.nodup_append'.mp (typeNames_nodup (m.extended more))
    rw [typeNames, ← hitems, List.map_append] at hnodup
    obtain ⟨-, -, hdisjoint⟩ := List.nodup_append'.mp hnodup
    obtain ⟨item, hitem, -, rfl⟩ := mem_resourceNames_iff.mp hfurther
    exact hdisjoint hold (List.mem_map_of_mem hitem)
  · intro hfree
    have hsame := layResources_widened ((kindNames m).1.zip m.resources)
      (kindNames_extended m more).2 (by
        intro item hitem hmem
        refine hfree item.name hmem ?_
        rw [typeNames, ofModule_eq]
        exact List.mem_map_of_mem hitem)
    obtain ⟨others, hitems⟩ := ofModule_extended_items m more
    refine ⟨others, ?_⟩
    rw [hitems, hsame, ofModule_eq]

/-- A further kind takes the name that a nested type had. -/
example :
    let nested : Node := .object [.mk "bar" (.object []) false none]
    let m : TypedModule := ⟨"example.com", "v1",
      [⟨"Foo", "foos", .cluster, none, [⟨"FooSpec", "spec", false, none, nested⟩]⟩]⟩
    (ofModule m).typeNames = ["Foo", "FooSpec", "FooSpecBar"] ∧
    (ofModule (m.extended [⟨"FooSpecBar", "bars", .cluster, none, []⟩])).typeNames =
      ["Foo", "FooSpec", "FooSpecBar2", "FooSpecBar"] := by
  decide +kernel

end Layout
end CrdBindings
