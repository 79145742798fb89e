import CrdBindings.Text.CodeRun

/-!
White space in the sense of the property White_Space, and trimming by it. A trimmed text neither
starts nor ends with a blank, and what trimming removes is blank.
-/

namespace CrdBindings.Text
set_option autoImplicit false

/-- The characters with the property White_Space. -/
def blankRuns : List CodeRun := [
  ⟨0x9, 0xd, 1⟩, ⟨0x20, 0x20, 1⟩, ⟨0x85, 0x85, 1⟩, ⟨0xa0, 0xa0, 1⟩, ⟨0x1680, 0x1680, 1⟩,
  ⟨0x2000, 0x200a, 1⟩, ⟨0x2028, 0x2029, 1⟩, ⟨0x202f, 0x202f, 1⟩, ⟨0x205f, 0x205f, 1⟩,
  ⟨0x3000, 0x3000, 1⟩]

def isBlank (c : Char) : Bool := inRuns blankRuns c

def trimEnd (cs : List Char) : List Char := (cs.reverse.dropWhile isBlank).reverse

def trim (cs : List Char) : List Char := trimEnd (cs.dropWhile isBlank)

def trimmed (s : String) : String := String.ofList (trim s.toList)

/-- A printed character of ASCII, and not the space. -/
def isPrinted (c : Char) : Bool := 0x20 < c.toNat && c.toNat < 0x7f

theorem isPrinted_of_isAlphanum {c : Char} (h : c.isAlpha || c.isDigit) : isPrinted c := by
  have hruns : (decide (c.val ≥ 'A'.val ∧ c.val ≤ 'Z'.val) ||
      (c.val ≥ 'a'.val && c.val ≤ 'z'.val)) || (c.val ≥ '0'.val && c.val ≤ '9'.val) := h
  simp only [ge_iff_le, UInt32.le_iff_toNat_le, Bool.or_eq_true, Bool.and_eq_true,
    decide_eq_true_eq] at hruns
  have hcodes : 'A'.val.toNat = 65 ∧ 'Z'.val.toNat = 90 ∧ 'a'.val.toNat = 97 ∧
      'z'.val.toNat = 122 ∧ '0'.val.toNat = 48 ∧ '9'.val.toNat = 57 := by decide
  have hc : c.toNat = c.val.toNat := rfl
  simp only [isPrinted, Bool.and_eq_true, decide_eq_true_eq]
  omega

theorem isBlank_of_isPrinted {c : Char} (h : isPrinted c) : isBlank c = false := by
  have hruns : ∀ run ∈ blankRuns, run.last ≤ 0x20 ∨ 0x7f ≤ run.first := by decide
  simp only [isPrinted, Bool.and_eq_true, decide_eq_true_eq] at h
  rw [isBlank, ← Bool.not_eq_true, inRuns_iff]
  rintro ⟨run, hrun, hholds⟩
  simp only [CodeRun.holds, Bool.and_eq_true, decide_eq_true_eq] at hholds
  have := hruns run hrun
  omega

structure IsTrimmed (cs : List Char) : Prop where
  head : ∀ c ∈ cs.head?, isBlank c = false
  last : ∀ c ∈ cs.getLast?, isBlank c = false

theorem IsTrimmed.of_not_blank {cs : List Char} (h : ∀ c ∈ cs, isBlank c = false) : IsTrimmed cs :=
  ⟨fun c hc => h c (List.mem_of_head? hc), fun c hc => h c (List.mem_of_getLast? hc)⟩

theorem IsTrimmed.of_isPrinted {cs : List Char} (h : ∀ c ∈ cs, isPrinted c) : IsTrimmed cs :=
  .of_not_blank fun c hc => isBlank_of_isPrinted (h c hc)

theorem dropWhile_isBlank_eq_self {cs : List Char} (h : ∀ c ∈ cs.head?, isBlank c = false) :
    cs.dropWhile isBlank = cs := by
  cases cs with
  | nil => rfl
  | cons c cs =>
    rw [List.dropWhile_cons, h c rfl]
    rfl

theorem IsTrimmed.trim_eq {cs : List Char} (h : IsTrimmed cs) : trim cs = cs := by
  rw [trim, dropWhile_isBlank_eq_self h.head, trimEnd, dropWhile_isBlank_eq_self,
    List.reverse_reverse]
  rw [List.head?_reverse]
  exact h.last

theorem head?_dropWhile_isBlank {cs : List Char} {c : Char}
    (h : c ∈ (cs.dropWhile isBlank).head?) : isBlank c = false := by
  have hhead := List.head?_dropWhile_not isBlank cs
  rw [h] at hhead
  exact hhead

theorem trim_isTrimmed (cs : List Char) : IsTrimmed (trim cs) := by
  refine ⟨fun c hc => ?_, fun c hc => ?_⟩
  · rw [trim, trimEnd, List.head?_reverse] at hc
    obtain ⟨blanks, hblanks⟩ := List.dropWhile_suffix isBlank (l := (cs.dropWhile isBlank).reverse)
    have hlast : c ∈ (cs.dropWhile isBlank).reverse.getLast? := by
      rw [← hblanks, List.getLast?_append, hc]
      rfl
    rw [List.getLast?_reverse] at hlast
    exact head?_dropWhile_isBlank hlast
  · rw [trim, trimEnd, List.getLast?_reverse] at hc
    exact head?_dropWhile_isBlank hc

theorem trimmed_eq {s : String} (h : IsTrimmed s.toList) : trimmed s = s := by
  rw [trimmed, h.trim_eq, String.ofList_toList]

theorem trimmed_isTrimmed (s : String) : IsTrimmed (trimmed s).toList := by
  rw [trimmed, String.toList_ofList]
  exact trim_isTrimmed s.toList

theorem trim_trimmed (s : String) : trim (trimmed s).toList = trim s.toList := by
  rw [(trimmed_isTrimmed s).trim_eq, trimmed, String.toList_ofList]

end CrdBindings.Text
