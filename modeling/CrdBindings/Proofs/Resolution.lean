import CrdBindings.Resolution

/-!
Resolution of references against a catalog. A line of versions stands for one of its releases with the
highest patch number, an exact version for itself if it was released; where nothing is registered, a
line stands for its first release and an exact version for itself.
-/

namespace CrdBindings
set_option autoImplicit false

/-- A version that belongs to a line `major.minor` and is no pre-release. -/
structure Version.OnLine (v : Version) (major minor : Nat) : Prop where
  major : v.major = major
  minor : v.minor = minor
  release : v.pre = ""

/-- A release of a line, such that no other one has a higher patch number. -/
structure Version.IsHighest (v : Version) (major minor : Nat) (releases : List Version) : Prop where
  mem : v ∈ releases
  onLine : v.OnLine major minor
  patch_le : ∀ w ∈ releases, w.OnLine major minor → w.patch ≤ v.patch

namespace Fragment

theorem covers_iff (m n : Nat) (v : Version) : covers m n v ↔ v.OnLine m n := by
  simp only [covers, Bool.and_eq_true, beq_iff_eq, String.isEmpty_iff]
  constructor
  · rintro ⟨⟨hmajor, hminor⟩, hpre⟩
    exact ⟨hmajor, hminor, hpre⟩
  · rintro ⟨hmajor, hminor, hpre⟩
    exact ⟨⟨hmajor, hminor⟩, hpre⟩

theorem later_cases (a b : Version) :
    (later a b = a ∧ b.patch ≤ a.patch) ∨ (later a b = b ∧ a.patch ≤ b.patch) := by
  unfold later
  by_cases h : b.patch < a.patch
  · rw [if_pos h]
    exact .inl ⟨rfl, by omega⟩
  · rw [if_neg h]
    exact .inr ⟨rfl, by omega⟩

/-- Taking the later of two at each step ends with one of them all that is behind none. -/
theorem foldl_later (vs : List Version) (v : Version) :
    vs.foldl later v ∈ v :: vs ∧ ∀ w ∈ v :: vs, w.patch ≤ (vs.foldl later v).patch := by
  induction vs generalizing v with
  | nil => simp
  | cons u us ih =>
    obtain ⟨hmem, hle⟩ := ih (later v u)
    rw [List.foldl_cons]
    rcases later_cases v u with ⟨heq, hpatch⟩ | ⟨heq, hpatch⟩
    · rw [heq] at hmem hle ⊢
      have hv := hle v List.mem_cons_self
      refine ⟨?_, ?_⟩
      · rcases List.mem_cons.mp hmem with h | h
        · rw [h]
          exact List.mem_cons_self
        · exact List.mem_cons_of_mem v (List.mem_cons_of_mem u h)
      · intro w hw
        rcases List.mem_cons.mp hw with rfl | hw
        · exact hv
        · rcases List.mem_cons.mp hw with rfl | hw
          · omega
          · exact hle w (List.mem_cons_of_mem v hw)
    · rw [heq] at hmem hle ⊢
      have hu := hle u List.mem_cons_self
      refine ⟨List.mem_cons_of_mem v hmem, ?_⟩
      intro w hw
      rcases List.mem_cons.mp hw with rfl | hw
      · omega
      · exact hle w hw

theorem latest?_eq_none {vs : List Version} (h : latest? vs = none) : vs = [] := by
  cases vs with
  | nil => rfl
  | cons v vs => cases h

theorem latest?_eq_some {vs : List Version} {v : Version} (h : latest? vs = some v) :
    v ∈ vs ∧ ∀ w ∈ vs, w.patch ≤ v.patch := by
  cases vs with
  | nil => cases h
  | cons u us =>
    obtain rfl := Option.some.inj h
    exact foldl_later us u

theorem select_line (m n : Nat) (releases : List Version) :
    (∃ v, v.IsHighest m n releases ∧ (line m n).select releases = .ok v) ∨
      ((∀ v ∈ releases, ¬ v.OnLine m n) ∧
        (line m n).select releases = .error (.noMatch (line m n).text (describe releases))) := by
  unfold select
  cases hlatest : latest? (releases.filter (covers m n)) with
  | some v =>
    obtain ⟨hmem, hle⟩ := latest?_eq_some hlatest
    obtain ⟨hmem, hcovers⟩ := List.mem_filter.mp hmem
    refine .inl ⟨v, ⟨hmem, (covers_iff m n v).mp hcovers, ?_⟩, by simp only [hlatest]⟩
    intro w hw honLine
    exact hle w (List.mem_filter.mpr ⟨hw, (covers_iff m n w).mpr honLine⟩)
  | none =>
    refine .inr ⟨?_, by simp only [hlatest]⟩
    intro v hv honLine
    have hnone := List.filter_eq_nil_iff.mp (latest?_eq_none hlatest) v hv
    exact hnone ((covers_iff m n v).mpr honLine)

theorem select_exact (v : Version) (releases : List Version) :
    (exact v).select releases =
      if v ∈ releases then .ok v else .error (.noMatch v.text (describe releases)) := rfl

/-- What a fragment selects is one of the releases. -/
theorem mem_of_select {fragment : Fragment} {releases : List Version} {v : Version}
    (h : fragment.select releases = .ok v) : v ∈ releases := by
  cases fragment with
  | major m => cases h
  | line m n =>
    rcases select_line m n releases with ⟨w, hw, hselect⟩ | ⟨-, hselect⟩
    · rw [hselect] at h
      cases h
      exact hw.mem
    · rw [hselect] at h
      cases h
  | exact w =>
    rw [select_exact] at h
    split at h
    · cases h
      assumption
    · cases h

end Fragment

namespace Reference

def gitHubAddress (r : Reference) : String :=
  s!"https://doc.crds.dev/raw/github.com/{r.account}/{r.repo}"

def gitHubAddressAt (r : Reference) (v : Version) : String := r.gitHubAddress ++ "@v" ++ v.text

/-- An answer for a reference to GitHub, by its version and by the releases of its repository, if
that is registered. -/
def AnsweredBy (r : Reference) (known : Option (List Version))
    (answer : Except Failure (Option String)) : Prop :=
  match r.version, known with
  | none, _ => answer = .ok (some r.gitHubAddress)
  | some (.major m), _ => answer = .error (.ambiguousVersion (toString m))
  | some (.exact v), some releases =>
    if v ∈ releases then answer = .ok (some (r.gitHubAddressAt v))
    else answer = .error (.noMatch v.text (Fragment.describe releases))
  | some (.line m n), some releases =>
    (∃ v, v.IsHighest m n releases ∧ answer = .ok (some (r.gitHubAddressAt v))) ∨
      ((∀ v ∈ releases, ¬ v.OnLine m n) ∧
        answer = .error (.noMatch s!"{m}.{n}" (Fragment.describe releases)))
  | some (.exact v), none => answer = .ok (some (r.gitHubAddressAt v))
  | some (.line m n), none => answer = .ok (some (r.gitHubAddressAt (.ofNumbers m n 0)))

/-- Of a catalog only the releases of its repository matter to a reference. -/
theorem resolve_congr {c other : Catalog} {r : Reference}
    (h : c.releases? r.repository = other.releases? r.repository) : r.resolve c = r.resolve other := by
  unfold resolve
  cases Provider.ofName? r.provider with
  | none => rfl
  | some provider =>
    cases provider
    simp only [Provider.address, h]

theorem resolve_gitHub {r : Reference} (h : Text.lowerAscii r.provider = "github")
    (catalog : Catalog) :
    r.resolve catalog = (Provider.crdsDev.address r catalog).map some := by
  simp only [resolve, Provider.ofName?, h, if_true]

theorem gitHub_of_resolve {r : Reference} {catalog : Catalog} {url : String}
    (h : r.resolve catalog = .ok (some url)) : Text.lowerAscii r.provider = "github" := by
  apply Decidable.byContradiction
  intro hother
  simp [resolve, Provider.ofName?, hother] at h

theorem address_of_version {r : Reference} {fragment : Fragment} (h : r.version = some fragment)
    (catalog : Catalog) :
    Provider.crdsDev.address r catalog =
      (Provider.pin fragment (catalog.releases? r.repository)).map r.gitHubAddressAt := by
  unfold Provider.address
  cases hpin : Provider.pin fragment (catalog.releases? r.repository) with
  | error e => simp only [h, hpin]; rfl
  | ok v => simp only [h, hpin]; rfl

theorem resolve_answered {r : Reference} (h : Text.lowerAscii r.provider = "github")
    (catalog : Catalog) :
    r.AnsweredBy (catalog.releases? r.repository) (r.resolve catalog) := by
  rw [resolve_gitHub h]
  cases hversion : r.version with
  | none =>
    simp only [AnsweredBy, hversion, Provider.address]
    rfl
  | some fragment =>
    rw [address_of_version hversion]
    cases catalog.releases? r.repository with
    | none => cases fragment <;> simp only [AnsweredBy, hversion] <;> rfl
    | some releases =>
      cases fragment with
      | major m => simp only [AnsweredBy, hversion]; rfl
      | exact v =>
        simp only [AnsweredBy, hversion, Provider.pin, Fragment.select_exact]
        by_cases hmem : v ∈ releases
        · rw [if_pos hmem, if_pos hmem]; rfl
        · rw [if_neg hmem, if_neg hmem]; rfl
      | line m n =>
        simp only [AnsweredBy, hversion, Provider.pin]
        rcases Fragment.select_line m n releases with ⟨v, hv, hselect⟩ | ⟨hnone, hselect⟩
        · exact .inl ⟨v, hv, by rw [hselect]; rfl⟩
        · exact .inr ⟨hnone, by rw [hselect]; rfl⟩

theorem resolveText_eq_some_iff {input url : String} {c : Catalog} :
    resolveText input c = .ok (some url) ↔
      ∃ r, parse input = .ok r ∧ r.resolve c = .ok (some url) := by
  unfold resolveText
  cases hparse : parse input with
  | error e => simp
  | ok r => simp

theorem directAddress?_eq_some_iff (input url : String) :
    directAddress? input = some url ↔
      ∃ r, parse input = .ok r ∧ r.resolve .empty = .ok (some url) := by
  rw [← resolveText_eq_some_iff, directAddress?]
  cases resolveText input .empty with
  | error e => simp
  | ok address => simp

/-- A reference to GitHub, in any letter case, is answered by its version and the releases of its
repository; a reference to another provider has no address; and the direct address of a text is that
of the reference it is, where nothing is registered. -/
theorem resolve_answers (catalog : Catalog) (r : Reference) :
    (if Text.lowerAscii r.provider = "github" then
      r.AnsweredBy (catalog.releases? r.repository) (r.resolve catalog)
    else r.resolve catalog = .ok none) ∧
    ∀ input url, directAddress? input = some url ↔
      ∃ r, parse input = .ok r ∧ r.resolve .empty = .ok (some url) := by
  refine ⟨?_, directAddress?_eq_some_iff⟩
  split
  · exact resolve_answered ‹_› catalog
  · rename_i hother
    simp only [resolve, Provider.ofName?, if_neg hother]

end Reference
end CrdBindings
