import CrdBindings.Failure
import CrdBindings.Text.Blank
import CrdBindings.Url.OfText
import Mathlib.Data.List.Basic

/-!
Texts of addresses. Behind its host an address is written in printed characters, since its path, query
and fragment are escaped. With the scheme in front, its text neither starts nor ends with a blank.
-/

namespace CrdBindings
set_option autoImplicit false

namespace Text

def IsPrinted (s : String) : Prop := ∀ c ∈ s.toList, isPrinted c

theorem isPrinted_empty : IsPrinted "" := nofun

theorem isPrinted_sign {s : String} {sign : Char} (hs : s.toList = [sign]) (hsign : isPrinted sign) :
    IsPrinted s := by
  intro c hc
  rw [hs] at hc
  rw [List.mem_singleton.mp hc]
  exact hsign

theorem IsPrinted.append {s t : String} (hs : IsPrinted s) (ht : IsPrinted t) :
    IsPrinted (s ++ t) := by
  intro c hc
  rw [String.toList_append] at hc
  rcases List.mem_append.mp hc with hc | hc
  · exact hs c hc
  · exact ht c hc

theorem isPrinted_hexDigit : ∀ n < 16, isPrinted (hexDigit n) := by decide

theorem isPrinted_escapeOctet {octet : UInt8} {c : Char} (h : c ∈ escapeOctet octet) :
    isPrinted c := by
  have hoctet : octet.toNat < 256 := octet.toNat_lt
  simp only [escapeOctet, List.mem_cons, List.not_mem_nil, or_false] at h
  rcases h with rfl | rfl | rfl
  · rfl
  · apply isPrinted_hexDigit
    omega
  · apply isPrinted_hexDigit
    omega

/-- What is escaped, the space with it, is printed. -/
theorem isPrinted_percentEncode {set : List Char} (hset : ' ' ∈ set) {cs : List Char} {c : Char}
    (h : c ∈ percentEncode set cs) : isPrinted c := by
  obtain ⟨d, -, hd⟩ := List.mem_flatMap.mp h
  split at hd
  · obtain ⟨octet, -, hc⟩ := List.mem_flatMap.mp hd
    exact isPrinted_escapeOctet hc
  · rename_i hplain
    obtain rfl := List.mem_singleton.mp hd
    have hspace : c ≠ ' ' := by
      rintro rfl
      simp [hset] at hplain
    have hcode : c.toNat ≠ 0x20 := fun hcode => hspace (Char.toNat_inj.mp hcode)
    simp only [isEscapedAlways, Bool.or_eq_true, decide_eq_true_eq, not_or] at hplain
    simp only [isPrinted, Bool.and_eq_true, decide_eq_true_eq]
    omega

end Text

namespace Url

open Text (IsPrinted)

theorem escaped_isPrinted {set : List Char} (hset : ' ' ∈ set) (cs : List Char) :
    IsPrinted (escaped set cs) := by
  intro c hc
  rw [escaped, String.toList_ofList] at hc
  exact Text.isPrinted_percentEncode hset hc

theorem mem_of_mem_leave {below : List String} {s : String} (h : s ∈ leave below) : s ∈ below := by
  cases below with
  | nil => cases h
  | cons segment below =>
    rw [leave] at h
    split at h
    · exact h
    · exact List.mem_cons_of_mem segment h

theorem settle_isPrinted {isFile : Bool} {below : List String} {segment : String}
    (h : IsPrinted segment) : IsPrinted (settle isFile below segment) := by
  unfold settle
  split
  · intro c hc
    rw [String.toList_ofList] at hc
    rcases List.mem_append.mp hc with hc | hc
    · exact h c (List.mem_of_mem_take hc)
    · obtain rfl := List.mem_singleton.mp hc
      rfl
  · exact h

theorem walk_isPrinted {isFile : Bool} {below segments : List String}
    (hbelow : ∀ s ∈ below, IsPrinted s) (hsegments : ∀ s ∈ segments, IsPrinted s) :
    ∀ s ∈ walk isFile below segments, IsPrinted s := by
  have hleave : ∀ {below : List String}, (∀ s ∈ below, IsPrinted s) → ∀ s ∈ leave below, IsPrinted s :=
    fun hbelow s hs => hbelow s (mem_of_mem_leave hs)
  fun_induction walk isFile below segments with
  | case1 below => exact hbelow
  | case2 below last hlast =>
    exact List.forall_mem_cons.mpr ⟨Text.isPrinted_empty, hleave hbelow⟩
  | case3 below last hlast hdot => exact List.forall_mem_cons.mpr ⟨Text.isPrinted_empty, hbelow⟩
  | case4 below last hlast hdot =>
    exact List.forall_mem_cons.mpr ⟨settle_isPrinted (hsegments last List.mem_cons_self), hbelow⟩
  | case5 below segment segments _ hsegment ih =>
    exact ih (hleave hbelow) (List.forall_mem_cons.mp hsegments).2
  | case6 below segment segments _ hsegment hdot ih =>
    exact ih hbelow (List.forall_mem_cons.mp hsegments).2
  | case7 below segment segments _ hsegment hdot ih =>
    obtain ⟨hfirst, hrest⟩ := List.forall_mem_cons.mp hsegments
    exact ih (List.forall_mem_cons.mpr ⟨settle_isPrinted hfirst, hbelow⟩) hrest

theorem walk_ne_nil {isFile : Bool} {below segments : List String} (h : segments ≠ []) :
    walk isFile below segments ≠ [] := by
  fun_induction walk isFile below segments with
  | case1 below => exact absurd rfl h
  | case2 | case3 | case4 => exact List.cons_ne_nil _ _
  | case5 below segment segments hmore _ ih => exact ih hmore
  | case6 below segment segments hmore _ _ ih => exact ih hmore
  | case7 below segment segments hmore _ _ ih => exact ih hmore

theorem splitPath_ne_nil (cs : List Char) : splitPath cs ≠ [] := by
  cases cs with
  | nil => exact List.cons_ne_nil _ _
  | cons c cs =>
    rw [splitPath]
    split
    · exact List.cons_ne_nil _ _
    · split <;> exact List.cons_ne_nil _ _

theorem pathOf_ne_nil (isFile : Bool) (cs : List Char) : pathOf isFile cs ≠ [] := by
  rw [pathOf, ne_eq, List.reverse_eq_nil_iff]
  apply walk_ne_nil
  rw [ne_eq, List.map_eq_nil_iff]
  exact splitPath_ne_nil cs

theorem pathOf_isPrinted (isFile : Bool) (cs : List Char) : ∀ s ∈ pathOf isFile cs, IsPrinted s := by
  intro s hs
  rw [pathOf, List.mem_reverse] at hs
  refine walk_isPrinted (List.forall_mem_nil _) (fun s hs => ?_) s hs
  obtain ⟨segment, -, rfl⟩ := List.mem_map.mp hs
  exact escaped_isPrinted (by decide) segment

/-- An address whose path, query and fragment are as they are written. -/
structure Written (u : Url) : Prop where
  path_ne_nil : u.path ≠ []
  path : ∀ s ∈ u.path, IsPrinted s
  query : ∀ s ∈ u.query, IsPrinted s
  fragment : ∀ s ∈ u.fragment, IsPrinted s

theorem withoutEmptyStart_ne_nil (segments : List String) : withoutEmptyStart segments ≠ [] := by
  unfold withoutEmptyStart
  split
  · exact List.cons_ne_nil _ _
  · assumption

theorem withoutEmptyStart_isPrinted {segments : List String} (h : ∀ s ∈ segments, IsPrinted s) :
    ∀ s ∈ withoutEmptyStart segments, IsPrinted s := by
  intro s hs
  unfold withoutEmptyStart at hs
  split at hs
  · obtain rfl := List.mem_singleton.mp hs
    exact Text.isPrinted_empty
  · exact h s ((List.dropWhile_suffix _).mem hs)

theorem tailOf_query_isPrinted (cs : List Char) : ∀ s ∈ (tailOf cs).1, IsPrinted s := by
  unfold tailOf
  cases cs.takeWhile (· != '#') with
  | nil => exact nofun
  | cons mark rest =>
    rintro _ ⟨⟩
    exact escaped_isPrinted (by decide) _

theorem tailOf_fragment_isPrinted (cs : List Char) : ∀ s ∈ (tailOf cs).2, IsPrinted s := by
  unfold tailOf
  cases cs.dropWhile (· != '#') with
  | nil =>
    dsimp only
    split <;> exact nofun
  | cons mark rest =>
    dsimp only
    split
    · rintro _ ⟨⟩
      exact escaped_isPrinted (by decide) _
    · rintro _ ⟨⟩
      exact escaped_isPrinted (by decide) _

theorem written_of_readWeb {scheme : Scheme} {cs : List Char} {u : Url}
    (h : readWeb scheme cs = .ok u) : u.Written := by
  unfold readWeb at h
  dsimp only at h
  split at h
  · cases h
  · obtain ⟨host, -, h⟩ := bind_eq_ok h
    obtain ⟨port, -, h⟩ := bind_eq_ok h
    cases h
    exact ⟨pathOf_ne_nil _ _, pathOf_isPrinted _ _, tailOf_query_isPrinted _,
      tailOf_fragment_isPrinted _⟩

theorem written_of_readFile {cs : List Char} {u : Url} (h : readFile cs = .ok u) : u.Written := by
  obtain ⟨host, -, h⟩ := bind_eq_ok h
  cases h
  exact ⟨withoutEmptyStart_ne_nil _, withoutEmptyStart_isPrinted (pathOf_isPrinted _ _),
    tailOf_query_isPrinted _, tailOf_fragment_isPrinted _⟩

theorem written_of_read? {text : String} {u : Url} (h : read? text = some (.ok u)) : u.Written := by
  unfold read? at h
  dsimp only at h
  split at h
  · exact written_of_readWeb (Option.some.inj h)
  · split at h
    · exact written_of_readWeb (Option.some.inj h)
    · split at h
      · exact written_of_readFile (Option.some.inj h)
      · cases h

def authority (u : Url) : String :=
  (u.credentials.map (· ++ "@")).getD "" ++ (u.host.map Host.text).getD "" ++
    marked ":" (u.port.map toString)

def tail (u : Url) : String := pathText u.path ++ (marked "?" u.query ++ marked "#" u.fragment)

theorem text_toList (u : Url) :
    u.text.toList = u.scheme.text.toList ++ ':' :: '/' :: '/' :: (u.authority ++ u.tail).toList := by
  simp [text, authority, tail]

theorem text_ne_empty (u : Url) : u.text ≠ "" := by
  rw [ne_eq, ← String.toList_inj, text_toList]
  simp

theorem pathText_isPrinted {segments : List String} (h : ∀ s ∈ segments, IsPrinted s) :
    IsPrinted (pathText segments) := by
  induction segments with
  | nil => exact Text.isPrinted_empty
  | cons segment segments ih =>
    obtain ⟨hsegment, hsegments⟩ := List.forall_mem_cons.mp h
    have hslash : IsPrinted "/" := Text.isPrinted_sign rfl rfl
    rw [pathText, List.map_cons, String.join_cons]
    exact (hslash.append hsegment).append (ih hsegments)

theorem marked_isPrinted {sign : String} {part : Option String} (hsign : IsPrinted sign)
    (h : ∀ s ∈ part, IsPrinted s) : IsPrinted (marked sign part) := by
  cases part with
  | none => exact Text.isPrinted_empty
  | some s => exact hsign.append (h s rfl)

namespace Written

variable {u : Url}

theorem tail_isPrinted (h : u.Written) : IsPrinted u.tail := by
  have hquery : IsPrinted (marked "?" u.query) :=
    marked_isPrinted (Text.isPrinted_sign rfl rfl) h.query
  have hfragment : IsPrinted (marked "#" u.fragment) :=
    marked_isPrinted (Text.isPrinted_sign rfl rfl) h.fragment
  exact (pathText_isPrinted h.path).append (hquery.append hfragment)

theorem tail_ne_nil (h : u.Written) : u.tail.toList ≠ [] := by
  obtain ⟨segment, segments, hpath⟩ := List.exists_cons_of_ne_nil h.path_ne_nil
  simp [tail, pathText, hpath]

theorem isTrimmed_text (h : u.Written) : Text.IsTrimmed u.text.toList := by
  constructor
  · intro c hc
    rw [text_toList] at hc
    cases hscheme : u.scheme <;>
    · rw [hscheme] at hc
      obtain rfl := Option.some.inj hc
      decide
  · intro c hc
    -- The path has at least one segment, so the text ends in what is escaped.
    have htail : u.text.toList = (u.scheme.text.toList ++ ':' :: '/' :: '/' :: u.authority.toList) ++
        u.tail.toList := by
      rw [text_toList, String.toList_append]
      simp
    rw [htail, List.getLast?_append_of_ne_nil _ h.tail_ne_nil] at hc
    exact Text.isBlank_of_isPrinted (h.tail_isPrinted c (List.mem_of_getLast? hc))

end Written
end Url
end CrdBindings
