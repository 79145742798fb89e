import CrdBindings.Importer.Session
import CrdBindings.Proofs.DistinctKeys
import CrdBindings.Proofs.Overlap
import Mathlib.Data.List.Dedup

/-!
A cache over a session behaves as its log: from the first time on that a document comes back from an
address, the address is answered with that document and not asked again. As long as no document changes
that came back before, the cache makes no difference to the answers.
-/

namespace CrdBindings
set_option autoImplicit false

def firstDocument? (url : String) : List (String × Reply) → Option String
  | [] => none
  | (asked, .document text) :: log => if asked = url then some text else firstDocument? url log
  | _ :: log => firstDocument? url log

def fetchedUrls : List (String × Reply) → List String
  | [] => []
  | (url, .document _) :: log => url :: fetchedUrls log
  | _ :: log => fetchedUrls log

/-- An origin from which an address gives its first document again, if it gave one before. -/
def Origin.recalling (origin : Origin) (log : List (String × Reply)) : Origin := fun url =>
  match firstDocument? url log with
  | some text => .document text
  | none => origin url

/-- A cache with the first document of each address, and no address twice. -/
structure Cache.Remembers (c : Cache) (log : List (String × Reply)) : Prop where
  keys_nodup : (c.entries.map Prod.fst).Nodup
  find?_eq : ∀ url, c.find? url = firstDocument? url log

theorem firstDocument?_append (url : String) (log more : List (String × Reply)) :
    firstDocument? url (log ++ more) = (firstDocument? url log).or (firstDocument? url more) := by
  induction log with
  | nil => rfl
  | cons entry log ih =>
    obtain ⟨asked, reply⟩ := entry
    cases reply with
    | document text =>
      simp only [List.cons_append, firstDocument?]
      split
      · rfl
      · exact ih
    | refused reason => exact ih
    | stalled => exact ih

theorem mem_fetchedUrls {url : String} {log : List (String × Reply)} :
    url ∈ fetchedUrls log ↔ ∃ text, firstDocument? url log = some text := by
  induction log with
  | nil => simp [fetchedUrls, firstDocument?]
  | cons entry log ih =>
    obtain ⟨asked, reply⟩ := entry
    cases reply with
    | document text =>
      simp only [fetchedUrls, firstDocument?, List.mem_cons]
      by_cases hasked : asked = url
      · simp [hasked]
      · simp [hasked, Ne.symm hasked, ih]
    | refused reason => exact ih
    | stalled => exact ih

theorem firstDocument?_single (url asked : String) {reply : Reply}
    (h : ∀ text, reply ≠ .document text) : firstDocument? url [(asked, reply)] = none := by
  cases reply with
  | document text => exact absurd rfl (h text)
  | refused reason => rfl
  | stalled => rfl

theorem Origin.recalling_of_some {origin : Origin} {log : List (String × Reply)} {url text : String}
    (h : firstDocument? url log = some text) : origin.recalling log url = .document text := by
  simp only [recalling, h]

theorem Origin.recalling_of_none {origin : Origin} {log : List (String × Reply)} {url : String}
    (h : firstDocument? url log = none) : origin.recalling log url = origin url := by
  simp only [recalling, h]

namespace Cache.Remembers

variable {c : Cache} {log : List (String × Reply)}

theorem empty : Cache.empty.Remembers [] := ⟨List.nodup_nil, fun _ => rfl⟩

theorem size_eq (h : c.Remembers log) : c.size = (fetchedUrls log).dedup.length := by
  have hperm : (c.entries.map Prod.fst).Perm (fetchedUrls log).dedup := by
    rw [List.perm_ext_iff_of_nodup h.keys_nodup (List.nodup_dedup _)]
    intro url
    rw [List.mem_dedup, mem_fetchedUrls, ← h.find?_eq]
    exact Keyed.mem_keys_iff
  rw [← hperm.length_eq, List.length_map, Cache.size]

theorem unchanged (h : c.Remembers log) {url : String} {reply : Reply}
    (hreply : ∀ text, reply ≠ .document text) : c.Remembers (log ++ [(url, reply)]) := by
  refine ⟨h.keys_nodup, fun other => ?_⟩
  rw [firstDocument?_append, firstDocument?_single other url hreply, Option.or_none]
  exact h.find?_eq other

theorem keep (h : c.Remembers log) {url text : String} (hurl : firstDocument? url log = none) :
    (c.keep url text).Remembers (log ++ [(url, .document text)]) := by
  refine ⟨Keyed.put_keys_nodup h.keys_nodup url text, fun other => ?_⟩
  rw [firstDocument?_append]
  by_cases hother : other = url
  · subst hother
    rw [hurl]
    simp only [firstDocument?, if_true, Option.none_or]
    exact Keyed.find?_put_self other text c.entries
  · simp only [firstDocument?, if_neg (Ne.symm hother), Option.or_none, ← h.find?_eq other]
    exact Keyed.find?_put_of_ne hother text c.entries

end Cache.Remembers

namespace Importer

theorem loadInput_of_locate {i : Importer} {input url : String} {source : Source}
    (h : i.locate input = .ok (some (source, url))) :
    i.loadInput input = (CrdBindings.fetch i.origin i.cache url).map fun reply =>
      ((reply.text url i.timeout).bind Bundle.ofText).map some := by
  simp only [loadInput, h]
  rfl

/-- An input has an address, or it is answered without a fetch. -/
theorem locate_cases (i : Importer) (input : String) :
    (∃ source url, i.locate input = .ok (some (source, url))) ∨
    ∃ definitions imported, ∀ origin cache,
      loadInput { i with origin, cache } input = ⟨definitions, [], cache⟩ ∧
      importInput { i with origin, cache } input = ⟨imported, [], cache⟩ := by
  cases hinput : i.locate input with
  | error failure =>
    refine .inr ⟨.error failure, .error failure, fun origin cache => ?_⟩
    simp only [loadInput, importInput, locate_with, hinput, without, and_self]
  | ok located =>
    cases located with
    | none =>
      refine .inr ⟨.ok none, .ok none, fun origin cache => ?_⟩
      simp only [loadInput, importInput, locate_with, hinput, without, and_self]
    | some pair => exact .inl ⟨pair.1, pair.2, rfl⟩

/-- A step asks for nothing, or for one address that does not depend on what is kept or comes back. -/
theorem perform_cases (i : Importer) (step : SessionStep) :
    (∃ answer, ∀ origin cache,
      perform { i with origin, cache } step = ⟨answer, [], cache⟩) ∨
    step.change i.origin = i.origin ∧ ∃ url answer, ∀ origin cache,
      perform { i with origin, cache } step = (CrdBindings.fetch origin cache url).map answer := by
  cases step with
  | put url reply => exact .inl ⟨.done, fun _ _ => rfl⟩
  | remove url => exact .inl ⟨.done, fun _ _ => rfl⟩
  | fetch url => exact .inr ⟨rfl, url, .reply, fun _ _ => rfl⟩
  | load input =>
    rcases locate_cases i input with ⟨source, url, hinput⟩ | ⟨definitions, _, hunlocated⟩
    · refine .inr ⟨rfl, url, fun reply => .definitions
        (((reply.text url i.timeout).bind Bundle.ofText).map some), fun origin cache => ?_⟩
      rw [perform, loadInput_of_locate ((locate_with i origin cache input).trans hinput)]
      rfl
    · refine .inl ⟨.definitions definitions, fun origin cache => ?_⟩
      rw [perform, (hunlocated origin cache).1, Retrieval.map]
  | importInput input =>
    rcases locate_cases i input with ⟨source, url, hinput⟩ | ⟨_, imported, hunlocated⟩
    · refine .inr ⟨rfl, url, fun reply => .imported (i.answer source url reply),
        fun origin cache => ?_⟩
      rw [perform, importInput_of_locate ((locate_with i origin cache input).trans hinput)]
      rfl
    · refine .inl ⟨.imported imported, fun origin cache => ?_⟩
      rw [perform, (hunlocated origin cache).2, Retrieval.map]

/-- A fetch finds its document in the cache, or asks for it and keeps it, or asks in vain. -/
theorem fetch_cases (origin : Origin) (cache : Option Cache) (url : String) :
    (∃ text, kept? cache url = some text ∧
      CrdBindings.fetch origin cache url = ⟨.document text, [], cache⟩) ∨
    (kept? cache url = none ∧ ∃ text, origin url = .document text ∧
      CrdBindings.fetch origin cache url =
        ⟨.document text, [url], cache.map (·.keep url text)⟩) ∨
    (kept? cache url = none ∧ (∀ text, origin url ≠ .document text) ∧
      CrdBindings.fetch origin cache url = ⟨origin url, [url], cache⟩) := by
  cases hkept : kept? cache url with
  | some text => exact .inl ⟨text, rfl, fetch_of_kept hkept origin⟩
  | none =>
    refine .inr ?_
    by_cases hdocument : ∃ text, origin url = .document text
    · obtain ⟨text, horigin⟩ := hdocument
      exact .inl ⟨rfl, text, horigin, fetch_of_document hkept horigin⟩
    · have hfailure := not_exists.mp hdocument
      exact .inr ⟨rfl, hfailure, fetch_of_failure hkept hfailure⟩

/-- Under a cache that remembers the log, a fetch gives what the log and the origin say, asks only if
the log has no document, and leaves a cache that remembers what came back. -/
theorem fetch_recalls {c : Cache} {log : List (String × Reply)} (h : c.Remembers log)
    (origin : Origin) (url : String) :
    (CrdBindings.fetch origin (some c) url).result = origin.recalling log url ∧
    (CrdBindings.fetch origin (some c) url).asked =
      [url].filter (fun url => (firstDocument? url log).isNone) ∧
    ∃ later, (CrdBindings.fetch origin (some c) url).cache = some later ∧
      later.Remembers (log ++
        (CrdBindings.fetch origin (some c) url).asked.map fun url => (url, origin url)) := by
  have hkept : kept? (some c) url = firstDocument? url log := h.find?_eq url
  rcases fetch_cases origin (some c) url with
    ⟨text, hurl, hfetch⟩ | ⟨hurl, text, horigin, hfetch⟩ | ⟨hurl, hfailure, hfetch⟩
  · rw [hkept] at hurl
    rw [hfetch, Origin.recalling_of_some hurl]
    refine ⟨rfl, by simp [hurl], c, rfl, ?_⟩
    rwa [List.map_nil, List.append_nil]
  · rw [hkept] at hurl
    rw [hfetch, Origin.recalling_of_none hurl]
    refine ⟨horigin.symm, by simp [hurl], c.keep url text, rfl, ?_⟩
    rw [List.map_singleton, horigin]
    exact h.keep hurl
  · rw [hkept] at hurl
    rw [hfetch, Origin.recalling_of_none hurl]
    exact ⟨rfl, by simp [hurl], c, rfl, h.unchanged hfailure⟩

section Step

variable {i : Importer} {c : Cache} {log : List (String × Reply)}

/-- Under a cache that remembers the log, a step is answered as without a cache by an origin that
recalls the log, and asks what is not in the log. -/
theorem perform_recalls (hcache : i.cache = some c) (h : c.Remembers log) (step : SessionStep) :
    let plain : Importer := { i with origin := i.origin.recalling log, cache := none }
    (i.perform step).result = (plain.perform step).result ∧
    (i.perform step).asked =
      (plain.perform step).asked.filter (fun url => (firstDocument? url log).isNone) ∧
    ∃ later, (i.perform step).cache = some later ∧
      later.Remembers (log ++ (i.perform step).asked.map fun url => (url, i.origin url)) := by
  intro plain
  have hself : i = { i with origin := i.origin, cache := some c } := by rw [← hcache]
  rcases perform_cases i step with ⟨answer, hquiet⟩ | ⟨-, url, answer, hasks⟩
  · have hnow : i.perform step = ⟨answer, [], some c⟩ := hself ▸ hquiet i.origin (some c)
    rw [hnow, hquiet]
    refine ⟨rfl, rfl, c, rfl, ?_⟩
    rwa [List.map_nil, List.append_nil]
  · have hnow : i.perform step = (CrdBindings.fetch i.origin (some c) url).map answer :=
      hself ▸ hasks i.origin (some c)
    obtain ⟨hresult, hasked, hlater⟩ := fetch_recalls h i.origin url
    rw [hnow, hasks]
    exact ⟨congrArg answer hresult, hasked, hlater⟩

/-- A step to which no document comes back leaves the cache as it is. -/
theorem perform_cache_of_failure (i : Importer) (step : SessionStep)
    (h : ∀ url ∈ (i.perform step).asked, ∀ text, i.origin url ≠ .document text) :
    (i.perform step).cache = i.cache := by
  rcases perform_cases i step with ⟨answer, hquiet⟩ | ⟨-, url, answer, hasks⟩
  · exact congrArg Retrieval.cache (hquiet i.origin i.cache)
  · rw [show i.perform step = _ from hasks i.origin i.cache] at h ⊢
    rcases fetch_cases i.origin i.cache url with
      ⟨text, -, hfetch⟩ | ⟨-, text, horigin, hfetch⟩ | ⟨-, -, hfetch⟩
    · rw [hfetch]
      rfl
    · rw [hfetch] at h
      exact absurd horigin (h url List.mem_cons_self text)
    · rw [hfetch]
      rfl

/-- What is kept for an address changes only in a step that asks the address. -/
theorem perform_kept_of_not_asked (i : Importer) (step : SessionStep) {url : String}
    (h : url ∉ (i.perform step).asked) :
    kept? (i.perform step).cache url = kept? i.cache url := by
  rcases perform_cases i step with ⟨answer, hquiet⟩ | ⟨-, other, answer, hasks⟩
  · rw [show i.perform step = _ from hquiet i.origin i.cache]
  · rw [show i.perform step = _ from hasks i.origin i.cache] at h ⊢
    rcases fetch_cases i.origin i.cache other with
      ⟨text, -, hfetch⟩ | ⟨-, text, -, hfetch⟩ | ⟨-, -, hfetch⟩
    · rw [hfetch]
      rfl
    · rw [hfetch] at h ⊢
      have hne : url ≠ other := fun heq => h (List.mem_singleton.mpr heq)
      exact kept?_keep_of_ne hne i.cache text
    · rw [hfetch]
      rfl

/-- Without a cache none comes into being. -/
theorem perform_plain_cache (i : Importer) (origin : Origin) (step : SessionStep) :
    (perform { i with origin, cache := none } step).cache = none := by
  rcases perform_cases i step with ⟨answer, hquiet⟩ | ⟨-, url, answer, hasks⟩
  · rw [hquiet]
  · rw [hasks]
    rfl

theorem perform_plain_asked (i : Importer) (origin : Origin) (step : SessionStep) :
    (perform { i with origin, cache := none } step).asked.length ≤ 1 := by
  rcases perform_cases i step with ⟨answer, hquiet⟩ | ⟨-, url, answer, hasks⟩
  · rw [hquiet]
    exact Nat.zero_le 1
  · rw [hasks]
    exact Nat.le_refl 1

theorem after_plain (i : Importer) (step : SessionStep) :
    after { i with cache := none } step = { i.after step with cache := none } := by
  simp only [after, perform_plain_cache i i.origin step]

end Step

section Run

variable {i : Importer} {c : Cache} {log : List (String × Reply)}

/-- The cache behind a session remembers what came back before it and in it. -/
theorem session_remembers (hcache : i.cache = some c) (h : c.Remembers log)
    (steps : List SessionStep) :
    ∃ later, (steps.foldl after i).cache = some later ∧ later.Remembers (log ++ i.log steps) := by
  induction steps generalizing i c log with
  | nil => exact ⟨c, hcache, by rwa [Importer.log, List.append_nil]⟩
  | cons step steps ih =>
    obtain ⟨-, -, next, hnext, hremembers⟩ := perform_recalls hcache h step
    obtain ⟨later, hlater, hlog⟩ := ih (i := i.after step) hnext hremembers
    refine ⟨later, hlater, ?_⟩
    rwa [List.append_assoc] at hlog

/-- No step changes what comes back from an address that gave a document before it; `log` is what came
back in front of the steps. -/
def Steady (i : Importer) (log : List (String × Reply)) (steps : List SessionStep) : Prop :=
  ∀ past step rest, steps = past ++ step :: rest → ∀ url ∈ fetchedUrls (log ++ i.log past),
    step.change (past.foldl after i).origin url = (past.foldl after i).origin url

theorem steady_nil : i.Steady log [] := by
  intro past step rest hsteps
  cases past <;> cases hsteps

theorem steady_cons {step : SessionStep} {steps : List SessionStep} :
    i.Steady log (step :: steps) ↔
      (∀ url ∈ fetchedUrls log, step.change i.origin url = i.origin url) ∧
      (i.after step).Steady
        (log ++ (i.perform step).asked.map fun url => (url, i.origin url)) steps := by
  constructor
  · intro h
    constructor
    · intro url hurl
      apply h [] step steps rfl url
      rwa [Importer.log, List.append_nil]
    · intro past next rest hsteps url hurl
      apply h (step :: past) next rest (congrArg (step :: ·) hsteps) url
      rwa [List.append_assoc] at hurl
  · rintro ⟨hhead, htail⟩ past next rest hsteps url hurl
    cases past with
    | nil =>
      cases hsteps
      rw [Importer.log, List.append_nil] at hurl
      exact hhead url hurl
    | cons first past =>
      cases hsteps
      apply htail past next rest rfl url
      rwa [List.append_assoc]

theorem document_of_firstDocument? {origin : Origin} {url text : String} {urls : List String}
    (h : firstDocument? url (urls.map fun url => (url, origin url)) = some text) :
    origin url = .document text := by
  induction urls with
  | nil => cases h
  | cons asked urls ih =>
    rw [List.map_cons] at h
    cases hreply : origin asked with
    | document reply =>
      rw [hreply, firstDocument?] at h
      split at h
      · rename_i heq
        rw [← heq, hreply, Option.some.inj h]
      · exact ih h
    | refused reason =>
      rw [hreply] at h
      exact ih h
    | stalled =>
      rw [hreply] at h
      exact ih h

/-- An origin that still gives every document that came back does so after a step that changes none of
them. -/
theorem after_recalling (hrecalls : i.origin.recalling log = i.origin) {step : SessionStep}
    (hsteady : ∀ url ∈ fetchedUrls log, step.change i.origin url = i.origin url) :
    (i.after step).origin.recalling
        (log ++ (i.perform step).asked.map fun url => (url, i.origin url)) =
      (i.after step).origin := by
  funext url
  cases hurl : firstDocument? url
      (log ++ (i.perform step).asked.map fun url => (url, i.origin url)) with
  | none => exact Origin.recalling_of_none hurl
  | some text =>
    rw [Origin.recalling_of_some hurl]
    rw [firstDocument?_append, Option.or_eq_some_iff] at hurl
    rcases hurl with hold | ⟨-, hnew⟩
    · have horigin : i.origin url = .document text :=
        (congrFun hrecalls url).symm.trans (Origin.recalling_of_some hold)
      exact (horigin.symm.trans (hsteady url (mem_fetchedUrls.mpr ⟨text, hold⟩)).symm)
    · rcases perform_cases i step with ⟨answer, hquiet⟩ | ⟨hchange, -⟩
      · rw [show i.perform step = _ from hquiet i.origin i.cache] at hnew
        cases hnew
      · exact (document_of_firstDocument? hnew).symm.trans (congrFun hchange url).symm

/-- A session in which no document changes that came back before is answered as without a cache. -/
theorem answers_eq_plain (hcache : i.cache = some c) (h : c.Remembers log)
    (hrecalls : i.origin.recalling log = i.origin) {steps : List SessionStep}
    (hsteady : i.Steady log steps) :
    i.answers steps = answers { i with cache := none } steps := by
  induction steps generalizing i c log with
  | nil => rfl
  | cons step steps ih =>
    obtain ⟨hresult, -, next, hnext, hremembers⟩ := perform_recalls hcache h step
    rw [hrecalls] at hresult
    obtain ⟨hhead, htail⟩ := steady_cons.mp hsteady
    rw [answers, answers, hresult, after_plain]
    exact congrArg (_ :: ·) (ih hnext hremembers (after_recalling hrecalls hhead) htail)

end Run

/-- A cache that is empty at first answers for an address with the first document that came back from it,
and asks once for any other. Only a document that comes back changes it, for its own address, and it holds
as many documents as addresses gave one. Where no document changes that came back before, all answers are
those without a cache. -/
theorem session_recalls (i : Importer) (past : List SessionStep) :
    let start : Importer := { i with cache := some .empty }
    let now := past.foldl after start
    let log := start.log past
    (∀ url text, firstDocument? url log = some text →
      CrdBindings.fetch now.origin now.cache url = ⟨.document text, [], now.cache⟩) ∧
    (∀ url, firstDocument? url log = none →
      (CrdBindings.fetch now.origin now.cache url).result = now.origin url ∧
      (CrdBindings.fetch now.origin now.cache url).asked = [url]) ∧
    (∀ step,
      let plain : Importer := { now with origin := now.origin.recalling log, cache := none }
      (now.perform step).result = (plain.perform step).result ∧
      (now.perform step).asked =
        (plain.perform step).asked.filter (fun url => (firstDocument? url log).isNone) ∧
      (plain.perform step).asked.length ≤ 1 ∧
      ((∀ url ∈ (now.perform step).asked, ∀ text, now.origin url ≠ .document text) →
        (now.perform step).cache = now.cache) ∧
      ∀ url, url ∉ (now.perform step).asked →
        kept? (now.perform step).cache url = kept? now.cache url) ∧
    (∃ c, now.cache = some c ∧ c.size = (fetchedUrls log).dedup.length ∧
      ∀ url, c.find? url = firstDocument? url log) ∧
    ∀ steps, start.Steady [] steps →
      start.answers steps = answers { start with cache := none } steps := by
  intro start now log
  obtain ⟨c, hcache, hremembers⟩ :
      ∃ c, now.cache = some c ∧ c.Remembers ([] ++ log) :=
    session_remembers (i := start) rfl Cache.Remembers.empty past
  refine ⟨?_, ?_, ?_, ⟨c, hcache, hremembers.size_eq, hremembers.find?_eq⟩, ?_⟩
  · intro url text hurl
    apply fetch_of_kept
    rw [hcache]
    exact (hremembers.find?_eq url).trans hurl
  · intro url hurl
    obtain ⟨hresult, hasked, -⟩ := fetch_recalls hremembers now.origin url
    rw [hcache, hresult, hasked]
    exact ⟨Origin.recalling_of_none hurl, by simp [log, hurl]⟩
  · intro step plain
    obtain ⟨hresult, hasked, -⟩ := perform_recalls hcache hremembers step
    exact ⟨hresult, hasked, perform_plain_asked now _ step, perform_cache_of_failure now step,
      fun _ => perform_kept_of_not_asked now step⟩
  · intro steps hsteady
    exact answers_eq_plain rfl Cache.Remembers.empty rfl hsteady

/-- A document that came back is replaced at its address, and another one never comes back. In a second
session the other one arrives late, which changes no document that came back before. -/
theorem session_recalls_replaced :
    let now := [.fetch "a.yaml", .put "a.yaml" (.document "new"), .fetch "b.yaml"].foldl after oneStalls
    let late : List SessionStep :=
      [.fetch "b.yaml", .fetch "a.yaml", .put "b.yaml" (.document "late"), .importInput "b.yaml"]
    now.origin "a.yaml" = .document "new" ∧
    CrdBindings.fetch now.origin now.cache "a.yaml" = ⟨.document "", [], now.cache⟩ ∧
    (CrdBindings.fetch now.origin now.cache "b.yaml").asked = ["b.yaml"] ∧
    (∃ c, now.cache = some c ∧ c.size = 1) ∧
    oneStalls.Steady [] late ∧
    oneStalls.answers late = answers { oneStalls with cache := none } late := by
  intro now late
  have hsteady : oneStalls.Steady [] late := by
    rw [steady_cons, steady_cons, steady_cons, steady_cons]
    refine ⟨fun _ _ => rfl, fun _ _ => rfl, fun url hurl => ?_, fun _ _ => rfl, steady_nil⟩
    obtain rfl : url = "a.yaml" := List.mem_singleton.mp hurl
    rfl
  obtain ⟨hhit, hmiss, -, ⟨c, hc, hsize, -⟩, -⟩ := session_recalls oneStalls
    [.fetch "a.yaml", .put "a.yaml" (.document "new"), .fetch "b.yaml"]
  obtain ⟨-, -, -, -, hplain⟩ := session_recalls oneStalls []
  exact ⟨rfl, hhit "a.yaml" "" rfl, (hmiss "b.yaml" rfl).2, ⟨c, hc, hsize⟩, hsteady,
    hplain late hsteady⟩

end Importer
end CrdBindings
