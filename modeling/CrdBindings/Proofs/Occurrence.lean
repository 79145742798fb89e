import CrdBindings.Proofs.Conversion
import CrdBindings.TypedModule.OfDefinitions
import Mathlib.Data.List.Forall2
import Mathlib.Data.List.Induction

/-!
The versions that occur in a list of definitions. Of the occurrences with one group, version and
kind only the first counts; each occurrence has a resource of its own, or is refused.
-/

namespace CrdBindings
set_option autoImplicit false

/-- A version of a definition as it occurs in a list of definitions, with what its definition says
of every version. -/
structure Occurrence where
  group : String
  names : KindNames
  scope : Scope
  version : ServedVersion

namespace Occurrence

/-- What makes two occurrences declare the same resource. -/
def key (o : Occurrence) : String × String × String := (o.group, o.version.name, o.names.kind)

/-- The resource of an occurrence: that of a definition with this version alone. -/
def resource (o : Occurrence) : Except Failure Resource :=
  Resource.ofVersion ⟨none, o.group, o.names, o.scope, [o.version]⟩ o.version

def context (o : Occurrence) : String := s!"{o.group}/{o.version.name} {o.names.kind}"

/-- The schemas of the specification and the status, in declared order. -/
def typedSchemas (o : Occurrence) : List Json :=
  match o.version.schema.bind (Schema.object? "properties") with
  | some properties =>
    (properties.filter fun p => p.1 = "spec" ∨ p.1 = "status").map (·.2)
  | none => []

def of (d : Definition) (v : ServedVersion) : Occurrence := ⟨d.group, d.names, d.scope, v⟩

@[simp] theorem of_group (d : Definition) (v : ServedVersion) :
    (Occurrence.of d v).group = d.group := rfl

@[simp] theorem of_version (d : Definition) (v : ServedVersion) :
    (Occurrence.of d v).version = v := rfl

def ofDefinition (d : Definition) : List Occurrence := d.versions.map (Occurrence.of d)

def all (ds : List Definition) : List Occurrence := ds.flatMap ofDefinition

/-- Those of some occurrences whose key no earlier one has, where `earlier` come before them. -/
def firstsAfter (earlier : List Occurrence) : List Occurrence → List Occurrence
  | [] => []
  | o :: os =>
    if o.key ∈ earlier.map key then firstsAfter (earlier ++ [o]) os
    else o :: firstsAfter (earlier ++ [o]) os

def firsts (os : List Occurrence) : List Occurrence := firstsAfter [] os

def compile (os : List Occurrence) : Except Failure (List (Occurrence × Resource)) :=
  os.mapM fun o => o.resource.map fun r => (o, r)

/-- The versions of a group, in the order in which they first occur. -/
def versionsOf (group : String) (os : List Occurrence) : List String :=
  ((os.filter (·.group = group)).map (·.version.name)).eraseDups

/-- The resources compiled for a group and version. -/
def resourcesOf (group version : String) (compiled : List (Occurrence × Resource)) : List Resource :=
  (compiled.filter fun c => c.1.group = group ∧ c.1.version.name = version).map (·.2)

def modulesOf (os : List Occurrence) (compiled : List (Occurrence × Resource)) (group : String) :
    List TypedModule :=
  (versionsOf group os).map fun version => ⟨group, version, resourcesOf group version compiled⟩

def modules (groups : List String) (os : List Occurrence)
    (compiled : List (Occurrence × Resource)) : List TypedModule :=
  groups.eraseDups.flatMap (modulesOf os compiled)

theorem firstsAfter_append (earlier os more : List Occurrence) :
    firstsAfter earlier (os ++ more) = firstsAfter earlier os ++ firstsAfter (earlier ++ os) more := by
  induction os generalizing earlier with
  | nil => simp [firstsAfter]
  | cons o os ih =>
    have hassoc : earlier ++ [o] ++ os = earlier ++ o :: os := by simp
    simp only [List.cons_append, firstsAfter]
    split
    · rw [ih, hassoc]
    · rw [ih, hassoc, List.cons_append]

theorem firstsAfter_sublist (earlier os : List Occurrence) :
    (firstsAfter earlier os).Sublist os := by
  induction os generalizing earlier with
  | nil => exact .slnil
  | cons o os ih =>
    simp only [firstsAfter]
    split
    · exact (ih _).cons _
    · exact (ih _).cons_cons _

theorem compile_append (os more : List Occurrence) :
    compile (os ++ more) = (do
      let first ← compile os
      let second ← compile more
      return first ++ second) := List.mapM_append

theorem compile_nil : compile [] = .ok [] := List.mapM_nil

theorem compile_cons (o : Occurrence) (os : List Occurrence) :
    compile (o :: os) = (do
      let r ← o.resource
      let rest ← compile os
      return (o, r) :: rest) := by
  unfold compile
  rw [List.mapM_cons]
  cases o.resource <;> rfl

theorem compile_single (o : Occurrence) : compile [o] = o.resource.map fun r => [(o, r)] := by
  rw [compile_cons, compile_nil]
  cases o.resource <;> rfl

theorem compile_eq_ok_iff (os : List Occurrence) (compiled : List (Occurrence × Resource)) :
    compile os = .ok compiled ↔
      ∃ resources, List.Forall₂ (fun o r => o.resource = .ok r) os resources ∧
        compiled = os.zip resources := by
  induction os generalizing compiled with
  | nil =>
    rw [compile_nil]
    constructor
    · intro h
      cases h
      exact ⟨[], .nil, rfl⟩
    · rintro ⟨resources, hr, rfl⟩
      cases hr
      rfl
  | cons o os ih =>
    rw [compile_cons]
    constructor
    · intro h
      cases hr : o.resource with
      | error e => rw [hr] at h; cases h
      | ok r =>
        cases hs : compile os with
        | error e => rw [hr, hs] at h; cases h
        | ok rest =>
          rw [hr, hs] at h
          cases h
          obtain ⟨resources, hrs, rfl⟩ := (ih rest).mp hs
          exact ⟨r :: resources, .cons hr hrs, rfl⟩
    · rintro ⟨resources, hrs, rfl⟩
      cases hrs with
      | cons hr hrs =>
        rw [hr, (ih _).mpr ⟨_, hrs, rfl⟩]
        rfl

theorem compile_eq_error_iff (os : List Occurrence) (e : Failure) :
    compile os = .error e ↔
      ∃ before o after, os = before ++ o :: after ∧
        (∀ b ∈ before, ∃ r, b.resource = .ok r) ∧ o.resource = .error e := by
  induction os with
  | nil =>
    constructor
    · intro h
      cases h
    · rintro ⟨before, o, after, h, _⟩
      simp at h
  | cons o os ih =>
    rw [compile_cons]
    cases hr : o.resource with
    | error e' =>
      constructor
      · intro h
        cases h
        exact ⟨[], o, os, rfl, by simp, hr⟩
      · rintro ⟨before, o', after, hos, hbefore, ho'⟩
        cases before with
        | nil =>
          cases hos
          rw [hr] at ho'
          cases ho'
          rfl
        | cons b before =>
          cases hos
          obtain ⟨r, hb⟩ := hbefore o (by simp)
          rw [hr] at hb
          cases hb
    | ok r =>
      have hrest : (do
          let r ← (Except.ok r : Except Failure Resource)
          let rest ← compile os
          return (o, r) :: rest) = .error e ↔ compile os = .error e := by
        cases compile os with
        | error e' => exact Iff.rfl
        | ok rest => simp [bind, Except.bind, pure, Except.pure]
      rw [hrest, ih]
      constructor
      · rintro ⟨before, o', after, rfl, hbefore, ho'⟩
        refine ⟨o :: before, o', after, rfl, ?_, ho'⟩
        intro b hb
        rcases List.mem_cons.mp hb with rfl | hb
        · exact ⟨r, hr⟩
        · exact hbefore b hb
      · rintro ⟨before, o', after, hos, hbefore, ho'⟩
        cases before with
        | nil =>
          cases hos
          rw [hr] at ho'
          cases ho'
        | cons b before =>
          cases hos
          exact ⟨before, o', after, rfl, fun b hb => hbefore b (by simp [hb]), ho'⟩

theorem resource_of_compile {os : List Occurrence} {compiled : List (Occurrence × Resource)}
    (h : compile os = .ok compiled) : ∀ c ∈ compiled, c.1 ∈ os ∧ c.1.resource = .ok c.2 := by
  obtain ⟨resources, hresources, rfl⟩ := (compile_eq_ok_iff os compiled).mp h
  intro c hc
  exact ⟨(List.of_mem_zip hc).1, (List.forall₂_iff_zip.mp hresources).2 hc⟩

theorem kind_of_resource {o : Occurrence} {r : Resource} (h : o.resource = .ok r) :
    r.kind = o.names.kind := by
  unfold resource Resource.ofVersion at h
  split at h
  · cases h; rfl
  · dsimp only at h
    split at h
    · cases h; rfl
    · revert h
      cases Resource.namedTypes _ _ _ _ with
      | error e => intro h; cases h
      | ok types => intro h; cases h; rfl

theorem namedTypes_eq_error_iff (context kind : String) (required : List String)
    (properties : List (String × Json)) (e : Failure) :
    Resource.namedTypes context kind required properties = .error e ↔
      ∃ p ∈ properties, (p.1 = "spec" ∨ p.1 = "status") ∧ Node.ofSchema context 1 p.2 = .error e := by
  induction properties with
  | nil => simp [Resource.namedTypes]
  | cons property properties ih =>
    obtain ⟨name, schema⟩ := property
    have htyped : (Resource.typedProperty? name).isSome ↔ name = "spec" ∨ name = "status" := by
      unfold Resource.typedProperty?
      split <;> simp_all
    simp only [Resource.namedTypes, List.exists_mem_cons_iff]
    cases ht : Resource.typedProperty? name with
    | none =>
      have hname : ¬ (name = "spec" ∨ name = "status") := by
        rw [← htyped, ht]
        simp
      simp only [hname, false_and, false_or]
      exact ih
    | some ending =>
      have hname : name = "spec" ∨ name = "status" := by
        rw [← htyped, ht]
        rfl
      simp only [hname, true_and]
      rw [← ih]
      cases hs : Node.ofSchema context 1 schema with
      | error e' =>
        -- A second refusal of one resource has the text of the first.
        constructor
        · intro h
          cases h
          exact Or.inl rfl
        · rintro (h | h)
          · cases h
            rfl
          · obtain ⟨p, _, _, hp⟩ := ih.mp h
            rw [Node.ofSchema_error hs, Node.ofSchema_error hp]
            rfl
      | ok node =>
        cases hr : Resource.namedTypes context kind required properties with
        | error e' => simp [bind, Except.bind]
        | ok types => simp [bind, Except.bind, pure, Except.pure]

/-- An occurrence is refused exactly if the schema of its specification or status is. -/
theorem resource_eq_error_iff (o : Occurrence) (e : Failure) :
    o.resource = .error e ↔
      ∃ schema ∈ o.typedSchemas, Node.ofSchema o.context 1 schema = .error e := by
  have hmem : ∀ properties : List (String × Json), (∃ schema ∈ (properties.filter fun p =>
        p.1 = "spec" ∨ p.1 = "status").map (·.2), Node.ofSchema o.context 1 schema = .error e) ↔
      ∃ p ∈ properties, (p.1 = "spec" ∨ p.1 = "status") ∧
        Node.ofSchema o.context 1 p.2 = .error e := by
    intro properties
    constructor
    · rintro ⟨schema, hs, he⟩
      obtain ⟨p, hp, rfl⟩ := List.mem_map.mp hs
      obtain ⟨hmem, htyped⟩ := List.mem_filter.mp hp
      exact ⟨p, hmem, of_decide_eq_true htyped, he⟩
    · rintro ⟨p, hmem, htyped, he⟩
      exact ⟨p.2, List.mem_map_of_mem (List.mem_filter.mpr ⟨hmem, decide_eq_true htyped⟩), he⟩
  unfold resource Resource.ofVersion typedSchemas
  cases hv : o.version.schema with
  | none => simp [pure, Except.pure]
  | some root =>
    cases hp : Schema.object? "properties" root with
    | none => simp [hp, pure, Except.pure]
    | some properties =>
      simp only [hp, Option.bind_some]
      rw [hmem, ← namedTypes_eq_error_iff o.context o.names.kind (Schema.required root)]
      change (Resource.namedTypes o.context _ _ _ >>= _) = _ ↔ _
      cases Resource.namedTypes o.context o.names.kind (Schema.required root) properties with
      | error e' => simp [bind, Except.bind]
      | ok types => simp [bind, Except.bind, pure, Except.pure]

theorem exists_resource_iff (o : Occurrence) :
    (∃ r, o.resource = .ok r) ↔
      ∀ schema ∈ o.typedSchemas, ∃ node, Node.ofSchema o.context 1 schema = .ok node := by
  constructor
  · rintro ⟨r, hr⟩ schema hs
    cases hn : Node.ofSchema o.context 1 schema with
    | ok node => exact ⟨node, rfl⟩
    | error e =>
      rw [(resource_eq_error_iff o e).mpr ⟨schema, hs, hn⟩] at hr
      cases hr
  · intro h
    cases hr : o.resource with
    | ok r => exact ⟨r, rfl⟩
    | error e =>
      obtain ⟨schema, hs, hn⟩ := (resource_eq_error_iff o e).mp hr
      obtain ⟨node, hnode⟩ := h schema hs
      rw [hn] at hnode
      cases hnode

/-- A list of compiled occurrences holds the resource of a first occurrence for every key. -/
structure Compiled (os : List Occurrence) (compiled : List (Occurrence × Resource)) : Prop where
  covers : ∀ o ∈ os, ∃ c ∈ compiled, c.1.key = o.key
  occurs : ∀ c ∈ compiled, c.1 ∈ os
  kind_eq : ∀ c ∈ compiled, c.2.kind = c.1.names.kind

theorem compiled_nil : Compiled [] [] :=
  ⟨fun _ h => absurd h (by simp), fun _ h => absurd h (by simp), fun _ h => absurd h (by simp)⟩

theorem Compiled.repeated {os : List Occurrence} {compiled : List (Occurrence × Resource)}
    (h : Compiled os compiled) {o : Occurrence} (ho : o.key ∈ os.map key) :
    Compiled (os ++ [o]) compiled := by
  refine ⟨?_, fun c hc => List.mem_append_left _ (h.occurs c hc), h.kind_eq⟩
  intro o' ho'
  rcases List.mem_append.mp ho' with ho' | ho'
  · exact h.covers o' ho'
  · obtain ⟨first, hfirst, hkey⟩ := List.mem_map.mp ho
    obtain ⟨c, hc, hck⟩ := h.covers first hfirst
    rw [List.mem_singleton.mp ho']
    exact ⟨c, hc, hck.trans hkey⟩

theorem Compiled.extended {os : List Occurrence} {compiled : List (Occurrence × Resource)}
    (h : Compiled os compiled) {o : Occurrence} {r : Resource} (hr : o.resource = .ok r) :
    Compiled (os ++ [o]) (compiled ++ [(o, r)]) := by
  constructor
  · intro o' ho'
    rcases List.mem_append.mp ho' with ho' | ho'
    · obtain ⟨c, hc, hck⟩ := h.covers o' ho'
      exact ⟨c, List.mem_append_left _ hc, hck⟩
    · rw [List.mem_singleton.mp ho']
      exact ⟨(o, r), by simp, rfl⟩
  · intro c hc
    rcases List.mem_append.mp hc with hc | hc
    · exact List.mem_append_left _ (h.occurs c hc)
    · rw [List.mem_singleton.mp hc]
      simp
  · intro c hc
    rcases List.mem_append.mp hc with hc | hc
    · exact h.kind_eq c hc
    · rw [List.mem_singleton.mp hc]
      exact kind_of_resource hr

theorem compiled_step {os : List Occurrence} {compiled more : List (Occurrence × Resource)}
    (h : Compiled os compiled) {o : Occurrence}
    (hm : compile (firstsAfter os [o]) = .ok more) :
    Compiled (os ++ [o]) (compiled ++ more) := by
  by_cases hk : o.key ∈ os.map key
  · simp only [firstsAfter, hk, if_true, compile, List.mapM_nil] at hm
    cases hm
    simpa using h.repeated hk
  · simp only [firstsAfter, hk, if_false, compile_single] at hm
    cases hr : o.resource with
    | error e => rw [hr] at hm; cases hm
    | ok r =>
      rw [hr] at hm
      cases hm
      exact h.extended hr

theorem compiled_run {os : List Occurrence} {compiled more : List (Occurrence × Resource)}
    (h : Compiled os compiled) {new : List Occurrence}
    (hm : compile (firstsAfter os new) = .ok more) :
    Compiled (os ++ new) (compiled ++ more) := by
  induction new generalizing os compiled more with
  | nil =>
    cases hm
    simpa using h
  | cons o new ih =>
    have hsplit : firstsAfter os (o :: new) =
        firstsAfter os [o] ++ firstsAfter (os ++ [o]) new := firstsAfter_append os [o] new
    rw [hsplit, compile_append] at hm
    cases hf : compile (firstsAfter os [o]) with
    | error e => rw [hf] at hm; cases hm
    | ok first =>
      cases hs : compile (firstsAfter (os ++ [o]) new) with
      | error e => rw [hf, hs] at hm; cases hm
      | ok second =>
        rw [hf, hs] at hm
        cases hm
        simpa using ih (compiled_step h hf) hs

theorem eraseDups_concat (names : List String) (name : String) :
    (names ++ [name]).eraseDups =
      if name ∈ names then names.eraseDups else names.eraseDups ++ [name] := by
  rw [List.eraseDups_append]
  by_cases h : name ∈ names
  · simp [List.removeAll, h]
  · simp [List.removeAll, h, List.eraseDups_cons]

theorem eraseDups_nodup (names : List String) : names.eraseDups.Nodup := by
  induction names using List.reverseRecOn with
  | nil => simp
  | append_singleton names name ih =>
    rw [eraseDups_concat]
    split
    · exact ih
    · rename_i h
      refine List.nodup_append.mpr ⟨ih, by simp, ?_⟩
      intro a ha b hb hab
      rw [List.mem_singleton.mp hb] at hab
      exact h (List.mem_eraseDups.mp (hab ▸ ha))

theorem mem_versionsOf {group version : String} {os : List Occurrence} :
    version ∈ versionsOf group os ↔ ∃ o ∈ os, o.group = group ∧ o.version.name = version := by
  simp [versionsOf, List.mem_eraseDups, and_assoc]

theorem versionsOf_concat (group : String) (os : List Occurrence) (o : Occurrence) :
    versionsOf group (os ++ [o]) =
      if o.group = group ∧ o.version.name ∉ versionsOf group os then
        versionsOf group os ++ [o.version.name]
      else versionsOf group os := by
  by_cases hg : o.group = group
  · have hmem : o.version.name ∈ versionsOf group os ↔
        o.version.name ∈ (os.filter (·.group = group)).map (·.version.name) :=
      List.mem_eraseDups
    simp only [hmem, hg, true_and]
    simp only [versionsOf, List.filter_append, List.map_append, hg, List.filter_cons,
      decide_true, if_true, List.filter_nil, List.map_cons, List.map_nil, eraseDups_concat]
    split <;> simp_all
  · simp [versionsOf, hg]

/-- The order of the versions of a group is a matter of the keys alone. -/
theorem versionsOf_congr {os os' : List Occurrence} (h : os'.map key = os.map key) (g : String) :
    versionsOf g os' = versionsOf g os := by
  have hkeys : ∀ os : List Occurrence, (os.filter (·.group = g)).map (·.version.name) =
      ((os.map key).filter (·.1 = g)).map (·.2.1) := by
    intro os
    rw [List.filter_map, List.map_map]
    rfl
  rw [versionsOf, versionsOf, hkeys, hkeys, h]

theorem resourcesOf_eq_nil {os : List Occurrence} {compiled : List (Occurrence × Resource)}
    (h : Compiled os compiled) {group version : String} (hv : version ∉ versionsOf group os) :
    resourcesOf group version compiled = [] := by
  unfold resourcesOf
  rw [List.map_eq_nil_iff, List.filter_eq_nil_iff]
  intro c hc hk
  apply hv
  exact mem_versionsOf.mpr ⟨c.1, h.occurs c hc, of_decide_eq_true hk⟩

theorem resourcesOf_concat (group version : String) (compiled : List (Occurrence × Resource))
    (o : Occurrence) (r : Resource) :
    resourcesOf group version (compiled ++ [(o, r)]) =
      if o.group = group ∧ o.version.name = version then
        resourcesOf group version compiled ++ [r]
      else resourcesOf group version compiled := by
  unfold resourcesOf
  by_cases h : o.group = group ∧ o.version.name = version <;>
    simp [List.filter_append, h]

/-- A module has a kind exactly if its key occurred. -/
theorem hasKind_iff {os : List Occurrence} {compiled : List (Occurrence × Resource)}
    (h : Compiled os compiled) (o : Occurrence) :
    (⟨o.group, o.version.name, resourcesOf o.group o.version.name compiled⟩ : TypedModule).hasKind
      o.names.kind = true ↔ o.key ∈ os.map key := by
  simp only [TypedModule.hasKind, resourcesOf, List.any_map, List.any_filter, List.any_eq_true,
    Function.comp_apply, Bool.and_eq_true, decide_eq_true_eq, beq_iff_eq]
  constructor
  · rintro ⟨c, hc, ⟨hg, hv⟩, hk⟩
    rw [h.kind_eq c hc] at hk
    exact List.mem_map.mpr ⟨c.1, h.occurs c hc, by simp [key, hg, hv, hk]⟩
  · intro ho
    obtain ⟨first, hfirst, hkey⟩ := List.mem_map.mp ho
    obtain ⟨c, hc, hck⟩ := h.covers first hfirst
    have hk : c.1.key = o.key := hck.trans hkey
    simp only [key, Prod.mk.injEq] at hk
    exact ⟨c, hc, ⟨hk.1, hk.2.1⟩, (h.kind_eq c hc).trans hk.2.2⟩

/-- Occurrences of other groups leave the modules of a group alone. -/
theorem modulesOf_append {os new : List Occurrence} {compiled more : List (Occurrence × Resource)}
    {g : String} (hnew : ∀ o ∈ new, o.group ≠ g) (hmore : ∀ c ∈ more, c.1 ∈ new) :
    modulesOf (os ++ new) (compiled ++ more) g = modulesOf os compiled g := by
  have hv : versionsOf g (os ++ new) = versionsOf g os := by
    have hnone : new.filter (·.group = g) = [] := by
      rw [List.filter_eq_nil_iff]
      intro o ho
      simpa using hnew o ho
    simp [versionsOf, hnone]
  have hr : ∀ version, resourcesOf g version (compiled ++ more) = resourcesOf g version compiled := by
    intro version
    have hnone : more.filter (fun c => c.1.group = g ∧ c.1.version.name = version) = [] := by
      rw [List.filter_eq_nil_iff]
      intro c hc
      simp [hnew c.1 (hmore c hc)]
    unfold resourcesOf
    rw [List.filter_append, hnone, List.append_nil]
  simp only [modulesOf, hv, hr]

theorem mem_modules_keys {gs : List String} {os : List Occurrence}
    {compiled : List (Occurrence × Resource)} (hgs : ∀ o ∈ os, o.group ∈ gs) (g v : String) :
    (g, v) ∈ (modules gs os compiled).map (fun m => (m.group, m.version)) ↔
      ∃ o ∈ os, o.group = g ∧ o.version.name = v := by
  simp only [modules, List.map_flatMap, modulesOf, List.map_map, List.mem_flatMap,
    List.mem_eraseDups, List.mem_map, Function.comp_apply, Prod.mk.injEq]
  constructor
  · rintro ⟨g', _, v', hv, rfl, rfl⟩
    exact mem_versionsOf.mp hv
  · rintro ⟨o, ho, rfl, rfl⟩
    exact ⟨o.group, hgs o ho, o.version.name, mem_versionsOf.mpr ⟨o, ho, rfl, rfl⟩, rfl, rfl⟩

theorem modules_keys_nodup (gs : List String) (os : List Occurrence)
    (compiled : List (Occurrence × Resource)) :
    ((modules gs os compiled).map fun m => (m.group, m.version)).Nodup := by
  have hkeys : ∀ g, (modulesOf os compiled g).map (fun m => (m.group, m.version)) =
      (versionsOf g os).map (g, ·) := fun g => by simp [modulesOf]
  simp only [modules, List.map_flatMap, hkeys]
  apply List.pairwise_flatMap.mpr
  constructor
  · intro g _
    rw [List.pairwise_map]
    exact (eraseDups_nodup _).imp (fun hne h => hne (Prod.mk.inj h).2)
  · apply (eraseDups_nodup gs).imp
    intro g g' hne a ha b hb hab
    obtain ⟨v, _, rfl⟩ := List.mem_map.mp ha
    obtain ⟨v', _, rfl⟩ := List.mem_map.mp hb
    exact hne (Prod.mk.inj hab).1

end Occurrence
end CrdBindings
