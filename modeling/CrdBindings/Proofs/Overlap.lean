import CrdBindings.Importer.Overlap
import Mathlib.Algebra.GroupWithZero.Nat
import Mathlib.Data.List.Perm.Basic
import Mathlib.Logic.Relation

/-!
Imports that share a cache do not disturb each other. In whatever order their steps come, each input
is answered as if it were the only one, and the cache ends with the documents of all of them. Importing
several inputs in turn is one of these orders.
-/

namespace CrdBindings
set_option autoImplicit false

/-- The document that a cache, if there is one, keeps for an address. -/
def kept? (cache : Option Cache) (url : String) : Option String := cache.bind (·.find? url)

theorem kept?_keep_self {cache : Option Cache} (h : cache.isSome) (url text : String) :
    kept? (cache.map (·.keep url text)) url = some text := by
  cases cache with
  | none => cases h
  | some c => exact Keyed.find?_put_self url text c.entries

theorem kept?_keep_of_ne {url other : String} (h : other ≠ url) (cache : Option Cache)
    (text : String) : kept? (cache.map (·.keep url text)) other = kept? cache other := by
  cases cache with
  | none => rfl
  | some c => exact Keyed.find?_put_of_ne h text c.entries

theorem fetch_of_kept {cache : Option Cache} {url text : String} (h : kept? cache url = some text)
    (origin : Origin) : fetch origin cache url = ⟨.document text, [], cache⟩ := by
  cases cache with
  | none => cases h
  | some c => simp only [fetch, show c.find? url = some text from h]

theorem fetch_of_document {cache : Option Cache} {origin : Origin} {url text : String}
    (h : kept? cache url = none) (horigin : origin url = .document text) :
    fetch origin cache url = ⟨.document text, [url], cache.map (·.keep url text)⟩ := by
  cases cache with
  | none => simp [fetch, horigin]
  | some c =>
    have hfind : c.find? url = none := h
    simp [fetch, horigin, hfind]

theorem fetch_of_failure {cache : Option Cache} {origin : Origin} {url : String}
    (h : kept? cache url = none) (horigin : ∀ text, origin url ≠ .document text) :
    fetch origin cache url = ⟨origin url, [url], cache⟩ := by
  cases cache with
  | none => rfl
  | some c =>
    have hfind : c.find? url = none := h
    simp only [fetch, hfind]

namespace Importer

/-- Where a document is does not depend on what is kept. -/
theorem locate_with (i : Importer) (origin : Origin) (cache : Option Cache) (input : String) :
    locate { i with origin, cache } input = i.locate input := by
  simp only [locate]

/-- A state of a batch is reached from another one by steps. -/
abbrev Reaches (i : Importer) : Batch → Batch → Prop := Relation.ReflTransGen (Step i)

/-- The document of one of the inputs is at an address and could be fetched. -/
def Fetches (i : Importer) (inputs : List String) (url text : String) : Prop :=
  ∃ input ∈ inputs, ∃ source, i.locate input = .ok (some (source, url)) ∧
    (fetch i.origin i.cache url).result = .document text

/-- A cache keeps what was kept at first and the documents of the inputs, and nothing else; without a
cache there is none afterwards. -/
def Gathers (i : Importer) (inputs : List String) (after : Option Cache) : Prop :=
  match i.cache with
  | none => after = none
  | some before => ∃ c, after = some c ∧ ∀ url text,
      c.find? url = some text ↔ before.find? url = some text ∨ i.Fetches inputs url text

theorem importInput_of_locate {i : Importer} {input url : String} {source : Source}
    (h : i.locate input = .ok (some (source, url))) :
    i.importInput input = (fetch i.origin i.cache url).map (i.answer source url) := by
  simp only [importInput, h]
  rfl

section Transitions

variable {i : Importer} {cache : Option Cache} {input url : String} {source : Source}

/-- An input without an address is answered at once, whatever is kept. -/
theorem finishes_of_unlocated (h : ¬ ∃ source url, i.locate input = .ok (some (source, url))) :
    ∃ answer, ∀ cache,
      i.advance cache ⟨input, .waiting⟩ = some ⟨.finished answer, [], cache⟩ ∧
      importInput { i with cache } input = ⟨answer, [], cache⟩ := by
  cases hlocate : i.locate input with
  | error failure =>
    refine ⟨.error failure, fun cache => ⟨?_, ?_⟩⟩
    · simp only [advance, hlocate]
    · simp only [importInput, locate_with, hlocate, without]
  | ok located =>
    cases located with
    | none =>
      refine ⟨.ok none, fun cache => ⟨?_, ?_⟩⟩
      · simp only [advance, hlocate]
      · simp only [importInput, locate_with, hlocate, without]
    | some pair => exact absurd ⟨pair.1, pair.2, hlocate⟩ h

theorem advance_of_kept (hlocate : i.locate input = .ok (some (source, url))) {text : String}
    (hkept : kept? cache url = some text) :
    i.advance cache ⟨input, .waiting⟩ =
      some ⟨.finished (i.answer source url (.document text)), [], cache⟩ := by
  simp only [advance, hlocate, show cache.bind (·.find? url) = some text from hkept]

theorem advance_of_missing (hlocate : i.locate input = .ok (some (source, url)))
    (hkept : kept? cache url = none) :
    i.advance cache ⟨input, .waiting⟩ = some ⟨.asked source url, [url], cache⟩ := by
  simp only [advance, hlocate, show cache.bind (·.find? url) = none from hkept]

theorem advance_of_document {text : String} (h : i.origin url = .document text) :
    i.advance cache ⟨input, .asked source url⟩ =
      some ⟨.arrived source url text, [], cache⟩ := by
  simp only [advance, h]

theorem advance_of_failure (h : ∀ text, i.origin url ≠ .document text) :
    i.advance cache ⟨input, .asked source url⟩ =
      some ⟨.finished (i.answer source url (i.origin url)), [], cache⟩ := by
  simp only [advance]

end Transitions

section Invariant

variable (i : Importer) (inputs : List String)

/-- A cache between the first one and the last: it keeps what the first one does, and only documents
of the inputs besides. -/
structure Grown (now : Option Cache) : Prop where
  isSome_eq : now.isSome = i.cache.isSome
  of_first : ∀ url text, kept? i.cache url = some text → kept? now url = some text
  fetched : ∀ url text, kept? now url = some text →
    kept? i.cache url = some text ∨ i.Fetches inputs url text

/-- A task that has come as far as its phase says. When it asked, its document was not in the cache,
so it was not at first; when it finished, its document is in the cache. -/
def OnCourse (now : Option Cache) (task : ImportTask) : Prop :=
  match task.phase with
  | .waiting => True
  | .asked source url =>
    i.locate task.input = .ok (some (source, url)) ∧ kept? i.cache url = none
  | .arrived source url text =>
    i.locate task.input = .ok (some (source, url)) ∧ kept? i.cache url = none ∧
      i.origin url = .document text
  | .finished answer =>
    answer = (i.importInput task.input).result ∧
      ∀ source url text, i.locate task.input = .ok (some (source, url)) →
        (fetch i.origin i.cache url).result = .document text → now.isSome →
          kept? now url = some text

/-- What holds of a batch after any number of steps. -/
structure Sound (b : Batch) : Prop where
  inputs_eq : b.tasks.map ImportTask.input = inputs
  grown : Grown i inputs b.cache
  onCourse : ∀ task ∈ b.tasks, OnCourse i b.cache task

variable {i inputs}

theorem Grown.fetch_eq {now : Option Cache} (h : Grown i inputs now) {url text : String}
    (hkept : kept? now url = some text) :
    (fetch i.origin i.cache url).result = .document text := by
  rcases h.fetched url text hkept with hfirst | ⟨_, -, _, -, hfetch⟩
  · rw [fetch_of_kept hfirst]
  · exact hfetch

theorem sound_start : Sound i inputs (i.start inputs) := by
  refine ⟨?_, ⟨rfl, fun _ _ h => h, fun _ _ h => .inl h⟩, ?_⟩
  · simp [start, Function.comp_def]
  · intro task htask
    obtain ⟨input, -, rfl⟩ := List.mem_map.mp htask
    trivial

theorem Grown.keep {now : Option Cache} (h : Grown i inputs now) {input url text : String}
    {source : Source} (hinput : input ∈ inputs)
    (hlocate : i.locate input = .ok (some (source, url))) (hfirst : kept? i.cache url = none)
    (horigin : i.origin url = .document text) :
    Grown i inputs (now.map (·.keep url text)) := by
  refine ⟨?_, ?_, ?_⟩
  · rw [Option.isSome_map]
    exact h.isSome_eq
  · intro other old hold
    -- A document that was kept at first would not have been asked for.
    have hne : other ≠ url := by
      rintro rfl
      rw [hfirst] at hold
      cases hold
    rw [kept?_keep_of_ne hne]
    exact h.of_first other old hold
  · intro other new hnew
    by_cases hother : other = url
    · subst hother
      have hsome : now.isSome := by
        cases now with
        | none => cases hnew
        | some c => rfl
      obtain rfl : text = new := Option.some.inj ((kept?_keep_self hsome _ _).symm.trans hnew)
      refine .inr ⟨input, hinput, source, hlocate, ?_⟩
      rw [fetch_of_document hfirst horigin]
    · rw [kept?_keep_of_ne hother] at hnew
      exact h.fetched other new hnew

theorem OnCourse.mono {now later : Option Cache} {task : ImportTask} (h : OnCourse i now task)
    (hsome : later.isSome = now.isSome)
    (hkept : ∀ url text, kept? now url = some text → kept? later url = some text) :
    OnCourse i later task := by
  unfold OnCourse at h ⊢
  split at h
  · trivial
  · exact h
  · exact h
  · refine ⟨h.1, ?_⟩
    intro source url text hlocate hfetch hlater
    exact hkept url text (h.2 source url text hlocate hfetch (hsome ▸ hlater))

theorem onCourse_finished {now : Option Cache} {input url : String} {source : Source} {reply : Reply}
    (hlocate : i.locate input = .ok (some (source, url)))
    (hfetch : (fetch i.origin i.cache url).result = reply)
    (hkept : ∀ text, reply = .document text → now.isSome → kept? now url = some text) :
    OnCourse i now ⟨input, .finished (i.answer source url reply)⟩ := by
  refine ⟨?_, ?_⟩
  · rw [importInput_of_locate hlocate, ← hfetch]
    rfl
  · intro source' url' text hlocate' hfetch' hsome
    rw [hlocate] at hlocate'
    cases hlocate'
    exact hkept text (hfetch.symm.trans hfetch') hsome

/-- What a step of one task means for the batch: the cache only grows, and the task stays on course. -/
structure Advanced (i : Importer) (inputs : List String) (now : Option Cache) (input : String)
    (next : Retrieval ImportPhase) : Prop where
  grown : Grown i inputs next.cache
  keeps : ∀ url text, kept? now url = some text → kept? next.cache url = some text
  onCourse : OnCourse i next.cache ⟨input, next.result⟩

theorem waiting_advanced {now : Option Cache} (h : Grown i inputs now) {input : String}
    {next : Retrieval ImportPhase} (hnext : i.advance now ⟨input, .waiting⟩ = some next) :
    Advanced i inputs now input next := by
  by_cases hlocated : ∃ source url, i.locate input = .ok (some (source, url))
  · obtain ⟨source, url, hlocate⟩ := hlocated
    cases hkept : kept? now url with
    | some text =>
      rw [advance_of_kept hlocate hkept] at hnext
      cases hnext
      refine ⟨h, fun _ _ hold => hold, onCourse_finished hlocate (h.fetch_eq hkept) ?_⟩
      intro text' htext _
      cases htext
      exact hkept
    | none =>
      rw [advance_of_missing hlocate hkept] at hnext
      cases hnext
      refine ⟨h, fun _ _ hold => hold, hlocate, ?_⟩
      cases hfirst : kept? i.cache url with
      | none => rfl
      | some text =>
        have hnow := h.of_first url text hfirst
        rw [hkept] at hnow
        cases hnow
  · obtain ⟨answer, hfinishes⟩ := finishes_of_unlocated hlocated
    rw [(hfinishes now).1] at hnext
    cases hnext
    have hanswer : answer = (i.importInput input).result :=
      (congrArg Retrieval.result (hfinishes i.cache).2).symm
    refine ⟨h, fun _ _ hold => hold, hanswer, ?_⟩
    intro source url text hlocate
    exact absurd ⟨source, url, hlocate⟩ hlocated

theorem asked_advanced {now : Option Cache} (h : Grown i inputs now) {input url : String}
    {source : Source} (hcourse : OnCourse i now ⟨input, .asked source url⟩)
    {next : Retrieval ImportPhase} (hnext : i.advance now ⟨input, .asked source url⟩ = some next) :
    Advanced i inputs now input next := by
  obtain ⟨hlocate, hfirst⟩ := hcourse
  by_cases hdocument : ∃ text, i.origin url = .document text
  · obtain ⟨text, horigin⟩ := hdocument
    rw [advance_of_document horigin] at hnext
    cases hnext
    exact ⟨h, fun _ _ hold => hold, hlocate, hfirst, horigin⟩
  · have hfailure := not_exists.mp hdocument
    rw [advance_of_failure hfailure] at hnext
    cases hnext
    have hfetch := congrArg Retrieval.result (fetch_of_failure hfirst hfailure)
    refine ⟨h, fun _ _ hold => hold, onCourse_finished hlocate hfetch ?_⟩
    intro text htext
    exact absurd htext (hfailure text)

theorem arrived_advanced {now : Option Cache} (h : Grown i inputs now) {input url text : String}
    {source : Source} (hinput : input ∈ inputs)
    (hcourse : OnCourse i now ⟨input, .arrived source url text⟩)
    {next : Retrieval ImportPhase}
    (hnext : i.advance now ⟨input, .arrived source url text⟩ = some next) :
    Advanced i inputs now input next := by
  obtain ⟨hlocate, hfirst, horigin⟩ := hcourse
  have hfetch : (fetch i.origin i.cache url).result = .document text := by
    rw [fetch_of_document hfirst horigin]
  cases hnext
  refine ⟨h.keep hinput hlocate hfirst horigin, ?_, onCourse_finished hlocate hfetch ?_⟩
  · intro other old hold
    by_cases hother : other = url
    · subst hother
      -- Another task may have kept the document meanwhile; then its text is the same.
      have hsame := hfetch.symm.trans (h.fetch_eq hold)
      cases hsame
      apply kept?_keep_self
      cases now with
      | none => cases hold
      | some c => rfl
    · rw [kept?_keep_of_ne hother]
      exact hold
  · intro text' htext hsome
    cases htext
    apply kept?_keep_self
    rwa [Option.isSome_map] at hsome

theorem sound_step {b b' : Batch} (h : Sound i inputs b) (hstep : Step i b b') :
    Sound i inputs b' := by
  obtain ⟨hinputs, hgrown, hcourse⟩ := h
  obtain ⟨hnext⟩ := hstep
  rename_i cache asked before after task next
  obtain ⟨input, phase⟩ := task
  have htask := hcourse ⟨input, phase⟩ (by simp)
  have hinput : input ∈ inputs := by
    rw [← hinputs]
    simp
  have hadvanced : Advanced i inputs cache input next := by
    cases phase with
    | waiting => exact waiting_advanced hgrown hnext
    | asked source url => exact asked_advanced hgrown htask hnext
    | arrived source url text => exact arrived_advanced hgrown hinput htask hnext
    | finished answer => cases hnext
  refine ⟨by simpa using hinputs, hadvanced.grown, ?_⟩
  -- The other tasks see only the cache, which has grown.
  have hsome := hadvanced.grown.isSome_eq.trans hgrown.isSome_eq.symm
  intro other hother
  rcases List.mem_append.mp hother with hother | hother
  · exact (hcourse other (List.mem_append_left _ hother)).mono hsome hadvanced.keeps
  · rcases List.mem_cons.mp hother with rfl | hother
    · exact hadvanced.onCourse
    · have hmem := List.mem_append_right before (List.mem_cons_of_mem ⟨input, phase⟩ hother)
      exact (hcourse other hmem).mono hsome hadvanced.keeps

theorem sound_of_reaches {b : Batch} (h : i.Reaches (i.start inputs) b) : Sound i inputs b := by
  induction h with
  | refl => exact sound_start
  | tail _ hstep ih => exact sound_step ih hstep

end Invariant

theorem finished_of_advance {i : Importer} {cache : Option Cache} {task : ImportTask}
    (h : i.advance cache task = none) : ∃ answer, task.phase = .finished answer := by
  obtain ⟨input, phase⟩ := task
  cases phase with
  | waiting =>
    simp only [advance] at h
    split at h
    · cases h
    · cases h
    · split at h <;> cases h
  | asked source url =>
    simp only [advance] at h
    split at h <;> cases h
  | arrived source url text => cases h
  | finished answer => exact ⟨answer, rfl⟩

theorem finished_of_stuck {i : Importer} {b : Batch} (h : ∀ b', ¬ Step i b b') :
    ∀ task ∈ b.tasks, ∃ answer, task.phase = .finished answer := by
  intro task htask
  have hnone : i.advance b.cache task = none := by
    cases hnext : i.advance b.cache task with
    | none => rfl
    | some next =>
      obtain ⟨before, after, htasks⟩ := List.append_of_mem htask
      obtain ⟨cache, asked, tasks⟩ := b
      subst htasks
      exact absurd (.advance hnext) (h _)
  exact finished_of_advance hnone

theorem stuck_of_finished {i : Importer} {b : Batch}
    (h : ∀ task ∈ b.tasks, ∃ answer, task.phase = .finished answer) (b' : Batch) :
    ¬ Step i b b' := by
  rintro ⟨hnext⟩
  rename_i cache asked before after task next
  obtain ⟨answer, hphase⟩ := h task (by simp)
  simp only [advance, hphase] at hnext
  cases hnext

/-- Where no task has a further step, each input has the answer that it has alone, and the documents
of all of them are kept. -/
theorem outcome_of_stuck {i : Importer} {inputs : List String} {b : Batch}
    (h : i.Reaches (i.start inputs) b) (hstuck : ∀ b', ¬ Step i b b') :
    b.answers = inputs.map (fun input => some (i.importInput input).result) ∧
      i.Gathers inputs b.cache := by
  obtain ⟨hinputs, hgrown, hcourse⟩ := sound_of_reaches h
  have hfinished := finished_of_stuck hstuck
  refine ⟨?_, ?_⟩
  · rw [← hinputs, List.map_map, Batch.answers]
    apply List.map_congr_left
    intro task htask
    obtain ⟨answer, hphase⟩ := hfinished task htask
    have htaskCourse := hcourse task htask
    simp only [OnCourse, hphase] at htaskCourse
    rw [hphase, htaskCourse.1]
    rfl
  · unfold Gathers
    have hsome := hgrown.isSome_eq
    have hfirst := hgrown.of_first
    have hfetched := hgrown.fetched
    cases hcache : i.cache with
    | none =>
      rw [hcache] at hsome
      exact Option.isNone_iff_eq_none.mp (by simpa using hsome)
    | some first =>
      rw [hcache] at hsome hfirst hfetched
      obtain ⟨c, hc⟩ := Option.isSome_iff_exists.mp hsome
      rw [hc] at hfirst hfetched
      refine ⟨c, hc, fun url text => ⟨hfetched url text, ?_⟩⟩
      rintro (hkept | ⟨input, hinput, source, hlocate, hfetch⟩)
      · exact hfirst url text hkept
      · rw [← hinputs] at hinput
        obtain ⟨task, htask, rfl⟩ := List.mem_map.mp hinput
        obtain ⟨answer, hphase⟩ := hfinished task htask
        have htaskCourse := hcourse task htask
        simp only [OnCourse, hphase, hc] at htaskCourse
        exact htaskCourse.2 source url text hlocate hfetch rfl

theorem Gathers.kept?_eq {i : Importer} {order inputs : List String} {a b : Option Cache}
    (hperm : order.Perm inputs) (ha : i.Gathers order a) (hb : i.Gathers inputs b) (url : String) :
    kept? a url = kept? b url := by
  unfold Gathers at ha hb
  cases hcache : i.cache with
  | none =>
    rw [hcache] at ha hb
    rw [ha, hb]
  | some first =>
    rw [hcache] at ha hb
    obtain ⟨c, rfl, hc⟩ := ha
    obtain ⟨d, rfl, hd⟩ := hb
    have hfetches : ∀ text, i.Fetches order url text ↔ i.Fetches inputs url text := by
      intro text
      simp only [Fetches, hperm.mem_iff]
    apply Option.ext
    intro text
    exact (hc url text).trans ((or_congr_right (hfetches text)).trans (hd url text).symm)

end Importer

/-- The most steps that a phase is away from its end. -/
def ImportPhase.left : ImportPhase → Nat
  | .waiting => 3
  | .asked .. => 2
  | .arrived .. => 1
  | .finished _ => 0

def Batch.left (b : Batch) : Nat := (b.tasks.map fun task => task.phase.left).sum

namespace Importer

theorem advance_left {i : Importer} {cache : Option Cache} {task : ImportTask}
    {next : Retrieval ImportPhase} (h : i.advance cache task = some next) :
    next.result.left < task.phase.left := by
  obtain ⟨input, phase⟩ := task
  cases phase with
  | waiting =>
    simp only [advance] at h
    split at h
    · cases h
      exact Nat.zero_lt_succ 2
    · cases h
      exact Nat.zero_lt_succ 2
    · split at h
      · cases h
        exact Nat.zero_lt_succ 2
      · cases h
        exact Nat.lt_succ_self 2
  | asked source url =>
    simp only [advance] at h
    split at h
    · cases h
      exact Nat.lt_succ_self 1
    · cases h
      exact Nat.zero_lt_succ 1
  | arrived source url text =>
    cases h
    exact Nat.zero_lt_succ 0
  | finished answer => cases h

theorem step_left {i : Importer} {b b' : Batch} (h : Step i b b') : b'.left < b.left := by
  obtain ⟨hnext⟩ := h
  have hleft := advance_left hnext
  simp only [Batch.left, List.map_append, List.map_cons, List.sum_append, List.sum_cons]
  omega

/-- However the tasks take turns, they come to an end. -/
theorem step_wellFounded (i : Importer) : WellFounded fun b' b => Step i b b' :=
  Subrelation.wf step_left (InvImage.wf Batch.left Nat.lt_wfRel.wf)

section Sequence

variable (i : Importer) (cache : Option Cache) (asked : List String)

theorem Step.quiet {i : Importer} {cache later : Option Cache} {asked : List String}
    {before after : List ImportTask} {task : ImportTask} {phase : ImportPhase}
    (h : i.advance cache task = some ⟨phase, [], later⟩) :
    Step i ⟨cache, asked, before ++ task :: after⟩
      ⟨later, asked, before ++ { task with phase } :: after⟩ := by
  have hstep : Step i ⟨cache, asked, before ++ task :: after⟩
      ⟨later, asked ++ [], before ++ { task with phase } :: after⟩ := .advance h
  rwa [List.append_nil] at hstep

/-- An import on its own is a row of steps of its task. -/
theorem importInput_reached (before after : List ImportTask) (input : String) :
    i.Reaches ⟨cache, asked, before ++ ⟨input, .waiting⟩ :: after⟩
      ⟨(importInput { i with cache } input).cache,
        asked ++ (importInput { i with cache } input).asked,
        before ++ ⟨input, .finished (importInput { i with cache } input).result⟩ :: after⟩ := by
  by_cases hlocated : ∃ source url, i.locate input = .ok (some (source, url))
  · obtain ⟨source, url, hlocate⟩ := hlocated
    rw [importInput_of_locate ((locate_with i i.origin cache input).trans hlocate)]
    dsimp only
    cases hkept : kept? cache url with
    | some text =>
      rw [fetch_of_kept hkept, Retrieval.map, List.append_nil]
      exact .single (.quiet (advance_of_kept hlocate hkept))
    | none =>
      refine .head (.advance (advance_of_missing hlocate hkept)) ?_
      by_cases hdocument : ∃ text, i.origin url = .document text
      · obtain ⟨text, horigin⟩ := hdocument
        rw [fetch_of_document hkept horigin]
        exact .head (.quiet (advance_of_document horigin)) (.single (.quiet rfl))
      · have hfailure := not_exists.mp hdocument
        rw [fetch_of_failure hkept hfailure]
        exact .single (.quiet (advance_of_failure hfailure))
  · obtain ⟨answer, hfinishes⟩ := finishes_of_unlocated hlocated
    rw [(hfinishes cache).2, List.append_nil]
    exact .single (.quiet (hfinishes cache).1)

/-- Importing inputs in turn is one of the orders in which their tasks can run. -/
theorem importAll_reached (inputs : List String) (before : List ImportTask) :
    i.Reaches ⟨cache, asked, before ++ inputs.map fun input => ⟨input, .waiting⟩⟩
      ⟨(importAll { i with cache } inputs).cache,
        asked ++ (importAll { i with cache } inputs).asked,
        before ++ List.zipWith (fun input answer => ⟨input, .finished answer⟩) inputs
          (importAll { i with cache } inputs).result⟩ := by
  induction inputs generalizing cache asked before with
  | nil =>
    simp only [importAll, without, List.append_nil]
    exact .refl
  | cons input inputs ih =>
    have hfirst := importInput_reached i cache asked before
      (inputs.map fun input => ⟨input, .waiting⟩) input
    have hothers := ih (importInput { i with cache } input).cache
      (asked ++ (importInput { i with cache } input).asked)
      (before ++ [⟨input, .finished (importInput { i with cache } input).result⟩])
    simp only [List.append_assoc, List.singleton_append] at hothers
    simp only [List.map_cons, importAll, List.zipWith_cons_cons]
    exact hfirst.trans hothers

end Sequence

theorem importAll_length (i : Importer) (inputs : List String) :
    (i.importAll inputs).result.length = inputs.length := by
  induction inputs generalizing i with
  | nil => rfl
  | cons input inputs ih => simp only [importAll, List.length_cons, ih]

theorem answers_zipWith {inputs : List String} {answers : List (Except Failure (Option Import))}
    (h : answers.length = inputs.length) (cache : Option Cache) (asked : List String) :
    (Batch.mk cache asked (List.zipWith (fun input answer => ⟨input, .finished answer⟩) inputs
      answers)).answers = answers.map some := by
  induction inputs generalizing answers with
  | nil =>
    obtain rfl : answers = [] := List.eq_nil_of_length_eq_zero h
    rfl
  | cons input inputs ih =>
    cases answers with
    | nil => cases h
    | cons answer answers => exact congrArg (some answer :: ·) (ih (Nat.succ.inj h))

theorem importAll_outcome (i : Importer) (inputs : List String) :
    ((i.importAll inputs).result = inputs.map fun input => (i.importInput input).result) ∧
      i.Gathers inputs (i.importAll inputs).cache := by
  have hreached := importAll_reached i i.cache [] inputs []
  have hfinished : ∀ task ∈ List.zipWith (fun input answer => ⟨input, .finished answer⟩) inputs
      (i.importAll inputs).result, ∃ answer, ImportTask.phase task = .finished answer := by
    intro task htask
    obtain ⟨n, hn, rfl⟩ := List.mem_iff_getElem.mp htask
    rw [List.getElem_zipWith]
    exact ⟨_, rfl⟩
  obtain ⟨hanswers, hgathers⟩ := outcome_of_stuck hreached (stuck_of_finished hfinished)
  refine ⟨?_, hgathers⟩
  have hsome : (i.importAll inputs).result.map some =
      inputs.map fun input => some (i.importInput input).result :=
    (answers_zipWith (importAll_length i inputs) _ _).symm.trans hanswers
  apply List.map_injective_iff.mpr (fun _ _ => Option.some.inj)
  rw [hsome, List.map_map]
  rfl

/-- Importing several inputs answers each as if it were imported alone, and keeps what was kept
before and the documents of the inputs. The same holds however the imports overlap and in whatever
order the inputs stand: they come to an end, and then with these answers and these documents. -/
theorem importAll_isolated (i : Importer) (inputs : List String) :
    ((i.importAll inputs).result = inputs.map fun input => (i.importInput input).result) ∧
    i.Gathers inputs (i.importAll inputs).cache ∧
    (WellFounded fun b' b => Step i b b') ∧
    ∀ order b, order.Perm inputs → i.Reaches (i.start order) b → (∀ b', ¬ Step i b b') →
      b.answers = order.map (fun input => some (i.importInput input).result) ∧
      i.Gathers order b.cache ∧
      ∀ url, kept? b.cache url = kept? (i.importAll inputs).cache url := by
  obtain ⟨hresult, hgathers⟩ := importAll_outcome i inputs
  refine ⟨hresult, hgathers, step_wellFounded i, ?_⟩
  intro order b hperm hreached hstuck
  obtain ⟨hanswers, hkept⟩ := outcome_of_stuck hreached hstuck
  exact ⟨hanswers, hkept, hkept.kept?_eq hperm hgathers⟩

/-- One of two documents comes back, and the other never does. -/
def oneStalls : Importer :=
  ⟨.empty, fun url => if url = "a.yaml" then .document "" else .stalled, some .empty, 30000⟩

/-- The imports of the two, started in the other order, with both documents asked for before the one
comes back. -/
theorem importAll_isolated_oneStalls :
    (oneStalls.importAll ["a.yaml", "b.yaml"]).result =
      [(oneStalls.importInput "a.yaml").result, .error (.timeout "b.yaml" 30)] ∧
    ∃ b, oneStalls.Reaches (oneStalls.start ["b.yaml", "a.yaml"]) b ∧
      (∀ b', ¬ Step oneStalls b b') ∧ b.asked = ["b.yaml", "a.yaml"] ∧
      b.answers = [some (.error (.timeout "b.yaml" 30)),
        some (oneStalls.importInput "a.yaml").result] ∧
      kept? (oneStalls.importAll ["a.yaml", "b.yaml"]).cache "a.yaml" = some "" ∧
      kept? (oneStalls.importAll ["a.yaml", "b.yaml"]).cache "b.yaml" = none := by
  have bAsks : oneStalls.advance (some .empty) ⟨"b.yaml", .waiting⟩ =
      some ⟨.asked (.file "b.yaml") "b.yaml", ["b.yaml"], some .empty⟩ := rfl
  have aAsks : oneStalls.advance (some .empty) ⟨"a.yaml", .waiting⟩ =
      some ⟨.asked (.file "a.yaml") "a.yaml", ["a.yaml"], some .empty⟩ := rfl
  have aArrives : oneStalls.advance (some .empty) ⟨"a.yaml", .asked (.file "a.yaml") "a.yaml"⟩ =
      some ⟨.arrived (.file "a.yaml") "a.yaml" "", [], some .empty⟩ := rfl
  have bStalls : oneStalls.advance (some .empty) ⟨"b.yaml", .asked (.file "b.yaml") "b.yaml"⟩ =
      some ⟨.finished (oneStalls.answer (.file "b.yaml") "b.yaml" .stalled), [], some .empty⟩ := rfl
  have aKeeps : oneStalls.advance (some .empty)
      ⟨"a.yaml", .arrived (.file "a.yaml") "a.yaml" ""⟩ =
      some ⟨.finished (oneStalls.answer (.file "a.yaml") "a.yaml" (.document "")), [],
        some ⟨[("a.yaml", "")]⟩⟩ := rfl
  have hreached := Relation.ReflTransGen.single
      (@Step.advance _ _ [] [] [⟨"a.yaml", .waiting⟩] _ _ bAsks)
    |>.tail (@Step.advance _ _ _ [_] [] _ _ aAsks)
    |>.tail (@Step.advance _ _ _ [_] [] _ _ aArrives)
    |>.tail (@Step.advance _ _ _ [] [_] _ _ bStalls)
    |>.tail (@Step.advance _ _ _ [_] [] _ _ aKeeps)
  have hfinished : ∀ task ∈
      [⟨"b.yaml", .finished (oneStalls.answer (.file "b.yaml") "b.yaml" .stalled)⟩,
        ⟨"a.yaml", .finished (oneStalls.answer (.file "a.yaml") "a.yaml" (.document ""))⟩],
      ∃ answer, ImportTask.phase task = .finished answer := by
    intro task htask
    rcases List.mem_pair.mp htask with rfl | rfl
    · exact ⟨_, rfl⟩
    · exact ⟨_, rfl⟩
  have hstuck := stuck_of_finished (i := oneStalls)
    (b := ⟨some ⟨[("a.yaml", "")]⟩, ["b.yaml", "a.yaml"], _⟩) hfinished
  obtain ⟨hresult, -, -, hother⟩ := importAll_isolated oneStalls ["a.yaml", "b.yaml"]
  obtain ⟨hanswers, -, hkept⟩ := hother ["b.yaml", "a.yaml"] _ (.swap _ _ _) hreached hstuck
  have hb : (oneStalls.importInput "b.yaml").result = .error (.timeout "b.yaml" 30) := rfl
  simp only [List.map_cons, List.map_nil, hb] at hresult hanswers
  exact ⟨hresult, _, hreached, hstuck, rfl, hanswers, (hkept "a.yaml").symm, (hkept "b.yaml").symm⟩

end Importer
end CrdBindings
