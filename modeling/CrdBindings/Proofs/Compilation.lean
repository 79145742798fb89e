import CrdBindings.Proofs.Occurrence

/-!
Compilation in terms of the versions that occur. The modules are built one version at a time, each in
its group; the result is a function of the first occurrences, and of the order in which groups and
versions appear.
-/

namespace CrdBindings.TypedModule
set_option autoImplicit false

open Occurrence

/-- Adding a version to the modules of its group, which differ in their versions: either the kind is
there already, or its resource comes last in the module of the version. -/
theorem addVersion_map (d : Definition) (v : ServedVersion) (resources : String → List Resource)
    {names : List String} (hn : names.Nodup) (hv : v.name ∉ names → resources v.name = []) :
    addVersion d v (names.map fun n => ⟨d.group, n, resources n⟩) =
      if v.name ∈ names ∧ hasKind ⟨d.group, v.name, resources v.name⟩ d.names.kind = true then
        .ok (names.map fun n => ⟨d.group, n, resources n⟩)
      else
        (Resource.ofVersion d v).map fun r =>
          (if v.name ∈ names then names else names ++ [v.name]).map fun n =>
            ⟨d.group, n, if v.name = n then resources n ++ [r] else resources n⟩ := by
  induction names with
  | nil =>
    have hnil : resources v.name = [] := hv (by simp)
    cases hr : Resource.ofVersion d v with
    | error e => simp [addVersion, hr, bind, Except.bind, Except.map]
    | ok r => simp [addVersion, hr, hnil, bind, Except.bind, Except.map, pure, Except.pure]
  | cons n names ih =>
    obtain ⟨hnot, hn⟩ := List.nodup_cons.mp hn
    simp only [List.map_cons, addVersion]
    by_cases heq : n = v.name
    · subst heq
      have hrest : ∀ r : Resource, (names.map fun n => (⟨d.group, n,
          if v.name = n then resources n ++ [r] else resources n⟩ : TypedModule)) =
          names.map fun n => ⟨d.group, n, resources n⟩ := by
        intro r
        apply List.map_congr_left
        intro n hmem
        rw [if_neg (fun h : v.name = n => hnot (h ▸ hmem))]
      cases hk : hasKind ⟨d.group, v.name, resources v.name⟩ d.names.kind with
      | true => simp
      | false =>
        cases hr : Resource.ofVersion d v with
        | error e => simp [bind, Except.bind, Except.map]
        | ok r => simp [hrest, bind, Except.bind, Except.map, pure, Except.pure]
    · have hne : ¬ v.name = n := fun h => heq h.symm
      have hrec := ih hn (fun h => hv (by simp [hne, h]))
      rw [if_neg heq, hrec]
      simp only [List.mem_cons, hne, false_or]
      split
      · rfl
      · cases Resource.ofVersion d v with
        | error e => rfl
        | ok r =>
          simp only [Except.map]
          split <;> simp [hne]

theorem addVersion_modulesOf {os : List Occurrence} {compiled : List (Occurrence × Resource)}
    (h : Compiled os compiled) (d : Definition) (v : ServedVersion) :
    addVersion d v (modulesOf os compiled d.group) =
      (Occurrence.compile (firstsAfter os [Occurrence.of d v])).map fun more =>
        modulesOf (os ++ [Occurrence.of d v]) (compiled ++ more) d.group := by
  have hkind := hasKind_iff h (Occurrence.of d v)
  have hseen : (Occurrence.of d v).key ∈ os.map key → v.name ∈ versionsOf d.group os := by
    intro hk
    obtain ⟨first, hfirst, hkey⟩ := List.mem_map.mp hk
    simp only [key, Prod.mk.injEq] at hkey
    exact mem_versionsOf.mpr ⟨first, hfirst, hkey.1, hkey.2.1⟩
  have hn : (versionsOf d.group os).Nodup := eraseDups_nodup _
  rw [modulesOf, addVersion_map d v (resourcesOf d.group · compiled) hn (resourcesOf_eq_nil h)]
  by_cases hk : (Occurrence.of d v).key ∈ os.map key
  · rw [if_pos ⟨hseen hk, hkind.mpr hk⟩]
    simp only [firstsAfter, hk, if_true, Occurrence.compile, List.mapM_nil]
    change _ = Except.ok _
    simp only [modulesOf, versionsOf_concat, of_group, of_version, hseen hk, not_true, and_false,
      if_false, List.append_nil]
  · rw [if_neg (fun hc => hk (hkind.mp hc.2))]
    simp only [firstsAfter, hk, if_false, compile_single]
    change _ = ((Resource.ofVersion d v).map _).map _
    cases Resource.ofVersion d v with
    | error e => rfl
    | ok r =>
      simp only [Except.map, modulesOf, versionsOf_concat, resourcesOf_concat]
      by_cases hmem : v.name ∈ versionsOf d.group os
      · simp [hmem]
      · simp [hmem]

/-- Adding versions in order to the modules of their group. -/
theorem addVersions_modulesOf (d : Definition) (vs : List ServedVersion) {os : List Occurrence}
    {compiled : List (Occurrence × Resource)} (h : Compiled os compiled) :
    vs.foldlM (fun ms v => addVersion d v ms) (modulesOf os compiled d.group) =
      (Occurrence.compile (firstsAfter os (vs.map (Occurrence.of d)))).map fun more =>
        modulesOf (os ++ vs.map (Occurrence.of d)) (compiled ++ more) d.group := by
  induction vs generalizing os compiled with
  | nil =>
    change _ = Except.ok _
    simp [pure, Except.pure]
  | cons v vs ih =>
    have hsplit : firstsAfter os ((v :: vs).map (Occurrence.of d)) =
        firstsAfter os [Occurrence.of d v] ++
          firstsAfter (os ++ [Occurrence.of d v]) (vs.map (Occurrence.of d)) :=
      firstsAfter_append os [Occurrence.of d v] _
    rw [List.foldlM_cons, addVersion_modulesOf h, hsplit, compile_append]
    cases hm : Occurrence.compile (firstsAfter os [Occurrence.of d v]) with
    | error e => rfl
    | ok first =>
      change vs.foldlM _ _ = Except.map _ (do
        let second ← Occurrence.compile
          (firstsAfter (os ++ [Occurrence.of d v]) (vs.map (Occurrence.of d)))
        return first ++ second)
      rw [ih (compiled_step h hm)]
      cases Occurrence.compile
          (firstsAfter (os ++ [Occurrence.of d v]) (vs.map (Occurrence.of d))) with
      | error e => rfl
      | ok second =>
        simp [Except.map, bind, Except.bind, pure, Except.pure, List.append_assoc]

/-- Adding a definition to groups that differ. -/
theorem addDefinition_map (d : Definition) (ms : String → List TypedModule) {gs : List String}
    (hn : gs.Nodup) (hg : d.group ∉ gs → ms d.group = []) :
    addDefinition d (gs.map fun g => (g, ms g)) =
      (addVersions d (ms d.group)).map fun more =>
        (if d.group ∈ gs then gs else gs ++ [d.group]).map fun g =>
          (g, if d.group = g then more else ms g) := by
  induction gs with
  | nil =>
    rw [hg (by simp)]
    simp only [List.map_nil, addDefinition]
    cases addVersions d [] <;> simp [bind, Except.bind, Except.map, pure, Except.pure]
  | cons g gs ih =>
    obtain ⟨hnot, hn⟩ := List.nodup_cons.mp hn
    simp only [List.map_cons, addDefinition]
    by_cases heq : g = d.group
    · subst heq
      have hrest : ∀ more, (gs.map fun g => (g, if d.group = g then more else ms g)) =
          gs.map fun g => (g, ms g) := by
        intro more
        apply List.map_congr_left
        intro g hmem
        rw [if_neg (fun h : d.group = g => hnot (h ▸ hmem))]
      cases addVersions d (ms d.group) <;>
        simp [hrest, bind, Except.bind, Except.map, pure, Except.pure]
    · have hne : ¬ d.group = g := fun h => heq h.symm
      rw [if_neg heq, ih hn (fun h => hg (by simp [hne, h]))]
      cases addVersions d (ms d.group) with
      | error e => rfl
      | ok more =>
        simp only [Except.map, List.mem_cons, hne, false_or]
        split <;> simp [hne]

def groupsOf (gs : List String) (os : List Occurrence)
    (compiled : List (Occurrence × Resource)) : Groups :=
  gs.eraseDups.map fun g => (g, modulesOf os compiled g)

theorem addDefinition_groupsOf (d : Definition) {gs : List String} {os : List Occurrence}
    {compiled : List (Occurrence × Resource)} (h : Compiled os compiled)
    (hgs : ∀ o ∈ os, o.group ∈ gs) :
    addDefinition d (groupsOf gs os compiled) =
      (Occurrence.compile (firstsAfter os (ofDefinition d))).map fun more =>
        groupsOf (gs ++ [d.group]) (os ++ ofDefinition d) (compiled ++ more) := by
  have hnil : d.group ∉ gs.eraseDups → modulesOf os compiled d.group = [] := by
    intro hnot
    rw [modulesOf, List.map_eq_nil_iff, List.eq_nil_iff_forall_not_mem]
    intro version hv
    obtain ⟨o, ho, hog, _⟩ := mem_versionsOf.mp hv
    exact hnot (List.mem_eraseDups.mpr (hog ▸ hgs o ho))
  rw [groupsOf, addDefinition_map d (modulesOf os compiled) (eraseDups_nodup gs) hnil]
  rw [addVersions, addVersions_modulesOf d d.versions h]
  change ((Occurrence.compile (firstsAfter os (ofDefinition d))).map _).map _ = _
  cases hm : Occurrence.compile (firstsAfter os (ofDefinition d)) with
  | error e => rfl
  | ok more =>
    have hmore : ∀ c ∈ more, c.1 ∈ ofDefinition d := fun c hc =>
      (firstsAfter_sublist _ _).subset ((resource_of_compile hm c hc).1)
    have hother : ∀ g, ¬ d.group = g →
        modulesOf (os ++ ofDefinition d) (compiled ++ more) g = modulesOf os compiled g := by
      intro g hg
      apply modulesOf_append _ hmore
      intro o ho
      obtain ⟨v, _, rfl⟩ := List.mem_map.mp ho
      exact hg
    simp only [Except.map, groupsOf, eraseDups_concat, List.mem_eraseDups]
    congr 1
    apply List.map_congr_left
    intro g _
    by_cases hg : d.group = g
    · subst hg
      rw [if_pos rfl]
      rfl
    · rw [if_neg hg, hother g hg]

/-- Adding definitions in order to the groups that have appeared. -/
theorem addDefinitions_groupsOf (ds : List Definition) {gs : List String} {os : List Occurrence}
    {compiled : List (Occurrence × Resource)} (h : Compiled os compiled)
    (hgs : ∀ o ∈ os, o.group ∈ gs) :
    ds.foldlM (fun groups d => addDefinition d groups) (groupsOf gs os compiled) =
      (Occurrence.compile (firstsAfter os (Occurrence.all ds))).map fun more =>
        groupsOf (gs ++ ds.map (·.group)) (os ++ Occurrence.all ds) (compiled ++ more) := by
  induction ds generalizing gs os compiled with
  | nil =>
    change _ = Except.ok _
    simp [Occurrence.all, pure, Except.pure]
  | cons d ds ih =>
    have hall : Occurrence.all (d :: ds) = ofDefinition d ++ Occurrence.all ds := rfl
    rw [List.foldlM_cons, addDefinition_groupsOf d h hgs, hall, firstsAfter_append, compile_append]
    cases hm : Occurrence.compile (firstsAfter os (ofDefinition d)) with
    | error e => rfl
    | ok first =>
      have hgs' : ∀ o ∈ os ++ ofDefinition d, o.group ∈ gs ++ [d.group] := by
        intro o ho
        rcases List.mem_append.mp ho with ho | ho
        · exact List.mem_append_left _ (hgs o ho)
        · obtain ⟨v, _, rfl⟩ := List.mem_map.mp ho
          simp
      change ds.foldlM _ _ = Except.map _ (do
        let second ← Occurrence.compile (firstsAfter (os ++ ofDefinition d) (Occurrence.all ds))
        return first ++ second)
      rw [ih (compiled_run h hm) hgs']
      cases Occurrence.compile (firstsAfter (os ++ ofDefinition d) (Occurrence.all ds)) with
      | error e => rfl
      | ok second =>
        simp [Except.map, bind, Except.bind, pure, Except.pure, List.append_assoc]

/-- Compilation looks at the first occurrences alone, in order, and files their resources. -/
theorem ofDefinitions_eq (ds : List Definition) :
    ofDefinitions ds =
      (Occurrence.compile (firsts (Occurrence.all ds))).map
        (Occurrence.modules (ds.map (·.group)) (Occurrence.all ds)) := by
  have hgs : ∀ o ∈ ([] : List Occurrence), o.group ∈ ([] : List String) := by simp
  have hrun := addDefinitions_groupsOf ds compiled_nil hgs
  unfold ofDefinitions
  change (ds.foldlM (fun groups d => addDefinition d groups) (groupsOf [] [] []) >>= _) = _
  rw [hrun]
  change (Except.map _ (Occurrence.compile (firsts (Occurrence.all ds))) >>= _) = _
  cases Occurrence.compile (firsts (Occurrence.all ds)) with
  | error e => rfl
  | ok compiled =>
    simp [Except.map, bind, Except.bind, pure, Except.pure, groupsOf, Occurrence.modules,
      List.flatMap_map]

theorem ofDefinitions_eq_ok_iff (ds : List Definition) (modules : List TypedModule) :
    ofDefinitions ds = .ok modules ↔
      ∃ compiled, Occurrence.compile (firsts (all ds)) = .ok compiled ∧
        modules = Occurrence.modules (ds.map (·.group)) (all ds) compiled := by
  rw [ofDefinitions_eq]
  cases Occurrence.compile (firsts (all ds)) with
  | error e => simp [Except.map]
  | ok compiled => simp [Except.map, eq_comm]

theorem ofDefinitions_eq_error_iff (ds : List Definition) (e : Failure) :
    ofDefinitions ds = .error e ↔ Occurrence.compile (firsts (all ds)) = .error e := by
  rw [ofDefinitions_eq]
  cases Occurrence.compile (firsts (all ds)) <;> simp [Except.map]

theorem group_of_mem_all {ds : List Definition} {o : Occurrence} (ho : o ∈ all ds) :
    o.group ∈ ds.map (·.group) := by
  obtain ⟨d, hd, ho⟩ := List.mem_flatMap.mp ho
  obtain ⟨v, _, rfl⟩ := List.mem_map.mp ho
  exact List.mem_map_of_mem hd

/-- Definitions with the same groups, keys and first occurrences have the same modules. -/
theorem ofDefinitions_congr {ds ds' : List Definition}
    (hgs : ds'.map (·.group) = ds.map (·.group)) (hkeys : (all ds').map key = (all ds).map key)
    (hfirsts : firsts (all ds') = firsts (all ds)) : ofDefinitions ds' = ofDefinitions ds := by
  have hmodules : Occurrence.modules (ds'.map (·.group)) (all ds') =
      Occurrence.modules (ds.map (·.group)) (all ds) := by
    funext compiled
    have hof : modulesOf (all ds') compiled = modulesOf (all ds) compiled := by
      funext g
      rw [modulesOf, modulesOf, versionsOf_congr hkeys]
    rw [Occurrence.modules, Occurrence.modules, hgs, hof]
  rw [ofDefinitions_eq, ofDefinitions_eq, hfirsts, hmodules]

/-- Compilation succeeds exactly if every first occurrence has a resource, and files those resources
under one module for each group and version that occurs. Otherwise it gives the refusal of the
earliest first occurrence with a schema that is refused. The schemas of later occurrences of a key
have no part in it. -/
theorem ofDefinitions_outcome (ds : List Definition) :
    (∀ modules, ofDefinitions ds = .ok modules ↔
      ∃ resources, List.Forall₂ (fun o r => o.resource = .ok r) (firsts (all ds)) resources ∧
        modules = Occurrence.modules (ds.map (·.group)) (all ds)
          ((firsts (all ds)).zip resources)) ∧
    (∀ modules, ofDefinitions ds = .ok modules →
      (modules.map fun m => (m.group, m.version)).Nodup ∧
      ∀ g v, (g, v) ∈ modules.map (fun m => (m.group, m.version)) ↔
        ∃ o ∈ all ds, o.group = g ∧ o.version.name = v) ∧
    (∀ e, ofDefinitions ds = .error e ↔
      ∃ before o after, firsts (all ds) = before ++ o :: after ∧
        (∀ b ∈ before, ∀ schema ∈ b.typedSchemas, ∃ node,
          Node.ofSchema b.context 1 schema = .ok node) ∧
        ∃ schema ∈ o.typedSchemas, Node.ofSchema o.context 1 schema = .error e) ∧
    (∀ ds', ds'.map (·.group) = ds.map (·.group) → (all ds').map key = (all ds).map key →
      firsts (all ds') = firsts (all ds) → ofDefinitions ds' = ofDefinitions ds) := by
  refine ⟨?_, ?_, ?_, fun ds' hgs hkeys hfirsts => ofDefinitions_congr hgs hkeys hfirsts⟩
  · intro modules
    rw [ofDefinitions_eq_ok_iff]
    constructor
    · rintro ⟨compiled, hc, rfl⟩
      obtain ⟨resources, hr, rfl⟩ := (compile_eq_ok_iff _ _).mp hc
      exact ⟨resources, hr, rfl⟩
    · rintro ⟨resources, hr, rfl⟩
      exact ⟨_, (compile_eq_ok_iff _ _).mpr ⟨resources, hr, rfl⟩, rfl⟩
  · intro modules hm
    obtain ⟨compiled, _, rfl⟩ := (ofDefinitions_eq_ok_iff ds modules).mp hm
    exact ⟨modules_keys_nodup _ _ _, mem_modules_keys fun _ => group_of_mem_all⟩
  · intro e
    rw [ofDefinitions_eq_error_iff, compile_eq_error_iff]
    simp only [exists_resource_iff, resource_eq_error_iff]

end CrdBindings.TypedModule
