import CrdBindings.Proofs.Layout.Sanitised

/-!
The lines of a layout with clean identifiers: all of their code is plain, whatever its texts are.
-/

namespace CrdBindings.Layout
set_option autoImplicit false

instance (p : Piece) : Decidable p.IsPlain :=
  match p with
  | .code text => inferInstanceAs (Decidable (Layout.IsPlain text))
  | .literal _ => inferInstanceAs (Decidable True)

instance (l : Line) : Decidable l.IsPlain :=
  match l with
  | .code pieces => List.decidableBAll _ pieces
  | .comment indent _ => inferInstanceAs (Decidable (IsIndent indent))

theorem between_isPlain {a b : String} {p : Piece} (ha : IsPlain a) (hp : p.IsPlain)
    (hb : IsPlain b) : (Line.code [a, p, b]).IsPlain := by
  intro q hq
  simp only [List.mem_cons, List.not_mem_nil, or_false] at hq
  rcases hq with rfl | rfl | rfl
  · exact ha
  · exact hp
  · exact hb

theorem docLines_plain {indent : String} (h : IsIndent indent) (doc : List String) :
    ∀ l ∈ doc.map (docLine indent), l.IsPlain := by
  intro l hl
  obtain ⟨line, -, rfl⟩ := List.mem_map.mp hl
  exact h

theorem renameAttribute_plain (name : String) : (renameAttribute name).IsPlain :=
  between_isPlain (by decide) trivial (by decide)

theorem absentAttribute_plain : absentAttribute.IsPlain := by decide +kernel

theorem closingLines_plain : ∀ l ∈ closingLines, l.IsPlain := by decide +kernel

theorem specField_plain {f : FieldDecl} (h : f.Sanitised) : ∀ l ∈ specField f, l.IsPlain := by
  have htype := isPlain_of_isTypeText h.innerType
  unfold specField
  split
  · exact List.forall_mem_singleton.mpr (between_isPlain (by decide) htype (by decide))
  · refine List.forall_mem_cons.mpr ⟨absentAttribute_plain, List.forall_mem_singleton.mpr ?_⟩
    exact between_isPlain (by decide) htype (by decide)

theorem statusField_plain {f : FieldDecl} (h : f.Sanitised) : ∀ l ∈ statusField f, l.IsPlain := by
  have htype := isPlain_of_isTypeText h.innerType
  refine List.forall_mem_cons.mpr ⟨absentAttribute_plain, List.forall_mem_singleton.mpr ?_⟩
  exact between_isPlain (by decide) htype (by decide)

theorem constantLines_plain (v : String) (r : ResourceDecl) :
    ∀ l ∈ constantLines v r, l.IsPlain := by
  have hflag : (if r.namespaced then Piece.code "true" else .code "false").IsPlain := by
    cases r.namespaced <;> decide
  simp only [constantLines, List.forall_mem_cons, List.not_mem_nil, false_implies, implies_true,
    and_true]
  refine ⟨?_, ?_, ?_, ?_⟩
  · exact between_isPlain (by decide) trivial (by decide)
  · exact between_isPlain (by decide) trivial (by decide)
  · exact between_isPlain (by decide) trivial (by decide)
  · exact between_isPlain (by decide) hflag (by decide)

theorem newResourceLines_plain {r : ResourceDecl} (h : r.Sanitised) :
    ∀ l ∈ newResourceLines r, l.IsPlain := by
  have hargument :
      (r.spec.elim (Piece.code "") fun f => .code (", spec: " ++ f.innerType)).IsPlain := by
    cases hspec : r.spec with
    | none => decide
    | some f =>
      have hcomma : IsPlain ", spec: " := by decide
      exact hcomma.append (isPlain_of_isTypeText (h.spec f hspec).innerType)
  simp only [newResourceLines, List.forall_mem_append, and_assoc]
  refine ⟨?_, by decide +kernel, ?_, ?_, closingLines_plain⟩
  · refine List.forall_mem_cons.mpr ⟨?_, List.forall_mem_singleton.mpr ?_⟩
    · exact (by decide : IsIndent "    ")
    · exact between_isPlain (by decide) hargument (by decide)
  · cases r.spec with
    | none => exact fun _ hl => absurd hl List.not_mem_nil
    | some f => cases hrequired : f.required <;> simp only [Option.elim, hrequired] <;> decide +kernel
  · cases r.status with
    | none => exact fun _ hl => absurd hl List.not_mem_nil
    | some f =>
      simp only [Option.isSome, if_true]
      decide +kernel

theorem resourceLines_plain (v : String) {r : ResourceDecl} (h : r.Sanitised) :
    ∀ l ∈ resourceLines v r, l.IsPlain := by
  have hname := isPlain_of_isType h.name
  simp only [resourceLines, List.forall_mem_append, and_assoc]
  refine ⟨docLines_plain (by decide) r.doc, ?_, ?_, ?_, ?_, ?_, constantLines_plain v r, by decide,
    newResourceLines_plain h⟩
  · refine List.forall_mem_cons.mpr ⟨by decide +kernel, List.forall_mem_singleton.mpr ?_⟩
    exact between_isPlain (by decide) hname (by decide)
  · refine List.forall_mem_cons.mpr ⟨renameAttribute_plain _, ?_⟩
    decide +kernel
  · cases hspec : r.spec with
    | none => exact fun _ hl => absurd hl List.not_mem_nil
    | some f => exact specField_plain (h.spec f hspec)
  · cases hstatus : r.status with
    | none => exact fun _ hl => absurd hl List.not_mem_nil
    | some f => exact statusField_plain (h.status f hstatus)
  · refine List.forall_mem_cons.mpr ⟨by decide, List.forall_mem_cons.mpr ⟨by decide, ?_⟩⟩
    exact List.forall_mem_singleton.mpr (between_isPlain (by decide) hname (by decide))

theorem type_isPlain {f : FieldDecl} (h : f.Sanitised) : IsPlain f.type := by
  have htype := isPlain_of_isTypeText h.innerType
  unfold FieldDecl.type
  split
  · exact htype
  · have hopen : IsPlain "Option<" := by decide
    have hclose : IsPlain ">" := by decide
    exact (hopen.append htype).append hclose

theorem fieldLines_plain {f : FieldDecl} (h : f.Sanitised) : ∀ l ∈ fieldLines f, l.IsPlain := by
  simp only [fieldLines, List.forall_mem_append, and_assoc]
  refine ⟨docLines_plain (by decide) f.doc, ?_, ?_, List.forall_mem_singleton.mpr ?_⟩
  · cases f.rename with
    | none => exact fun _ hl => absurd hl List.not_mem_nil
    | some name =>
      simp only [renameLines, Option.elim]
      split
      · exact fun _ hl => absurd hl List.not_mem_nil
      · exact List.forall_mem_singleton.mpr (renameAttribute_plain name)
  · split
    · exact fun _ hl => absurd hl List.not_mem_nil
    · exact List.forall_mem_singleton.mpr absentAttribute_plain
  · have hstart := between_isPlain (p := f.ident) (by decide : IsPlain "    pub ")
      (isPlain_of_isField h.ident) (by decide : IsPlain ": ")
    have hend : ∀ p ∈ [Piece.code f.type, Piece.code ","], p.IsPlain :=
      List.forall_mem_cons.mpr ⟨type_isPlain h, by decide⟩
    exact List.forall_mem_append.mpr ⟨hstart, hend⟩

theorem joinWith_isPlain {separator : String} (hseparator : IsPlain separator)
    {pieces : List String} (h : ∀ p ∈ pieces, IsPlain p) :
    IsPlain (Text.joinWith separator pieces) := by
  induction pieces using Text.joinWith.induct with
  | case1 => exact fun _ hc => absurd hc (by simp [Text.joinWith])
  | case2 piece => exact h piece List.mem_cons_self
  | case3 piece pieces hne ih =>
    rw [Text.joinWith.eq_3 separator piece pieces hne]
    exact ((h piece List.mem_cons_self).append hseparator).append
      (ih fun p hp => h p (List.mem_cons_of_mem piece hp))

theorem newRecordLines_plain {r : RecordDecl} (h : r.Sanitised) :
    ∀ l ∈ newRecordLines r, l.IsPlain := by
  have hname := isPlain_of_isType h.name
  have harguments : IsPlain
      (Text.joinWith ", " (r.required.map fun f => f.ident ++ ": " ++ f.innerType)) := by
    apply joinWith_isPlain (by decide)
    intro p hp
    obtain ⟨f, hf, rfl⟩ := List.mem_map.mp hp
    have hf' := h.fields f (List.mem_of_mem_filter hf)
    have hcolon : IsPlain ": " := by decide
    exact ((isPlain_of_isField hf'.ident).append hcolon).append
      (isPlain_of_isTypeText hf'.innerType)
  simp only [newRecordLines, List.forall_mem_append, and_assoc]
  refine ⟨?_, ?_, closingLines_plain⟩
  · simp only [List.forall_mem_cons, List.not_mem_nil, false_implies, implies_true, and_true]
    refine ⟨by decide, ?_, ?_, by decide⟩
    · exact between_isPlain (by decide) hname (by decide)
    · exact between_isPlain (by decide) harguments (by decide)
  · intro l hl
    obtain ⟨f, hf, rfl⟩ := List.mem_map.mp hl
    have hident := isPlain_of_isField (h.fields f hf).ident
    cases f.required
    · exact between_isPlain (by decide) hident (by decide)
    · exact between_isPlain (by decide) hident (by decide)

theorem recordLines_plain {r : RecordDecl} (h : r.Sanitised) : ∀ l ∈ recordLines r, l.IsPlain := by
  have hname := isPlain_of_isType h.name
  simp only [recordLines, List.forall_mem_append, and_assoc]
  refine ⟨docLines_plain (by decide) r.doc, ?_, ?_, by decide, ?_⟩
  · refine List.forall_mem_cons.mpr ⟨?_, List.forall_mem_singleton.mpr ?_⟩
    · cases r.isDefaultable <;> decide +kernel
    · exact between_isPlain (by decide) hname (by decide)
  · intro l hl
    obtain ⟨f, hf, hl⟩ := List.mem_flatMap.mp hl
    exact fieldLines_plain (h.fields f hf) l hl
  · split
    · exact fun _ hl => absurd hl List.not_mem_nil
    · exact newRecordLines_plain h

theorem choiceLines_plain {c : ChoiceDecl} (h : c.Sanitised) : ∀ l ∈ choiceLines c, l.IsPlain := by
  have hname := isPlain_of_isType h.name
  simp only [choiceLines, List.forall_mem_append, and_assoc]
  refine ⟨docLines_plain (by decide) c.doc, ?_, ?_, by decide⟩
  · refine List.forall_mem_cons.mpr ⟨by decide +kernel, List.forall_mem_singleton.mpr ?_⟩
    exact between_isPlain (by decide) hname (by decide)
  · intro l hl
    obtain ⟨v, hv, hl⟩ := List.mem_flatMap.mp hl
    have hident := isPlain_of_isType (h.variants v hv)
    simp only [List.mem_cons, List.not_mem_nil, or_false] at hl
    rcases hl with rfl | rfl
    · exact renameAttribute_plain v.value
    · exact between_isPlain (by decide) hident (by decide)

theorem headerLines_plain (l : Layout) : ∀ line ∈ l.headerLines, line.IsPlain := by
  simp only [headerLines, List.forall_mem_append, and_assoc]
  refine ⟨List.forall_mem_cons.mpr ⟨?_, by decide +kernel⟩, ?_, ?_⟩
  · exact (by decide : IsIndent "")
  · cases l.usesMap <;> decide +kernel
  · cases l.usesIntOrString <;> decide +kernel

/-- The code of a rendering is plain when the layout has clean identifiers. -/
theorem lines_plain {l : Layout} (h : l.Sanitised) : ∀ line ∈ l.lines, line.IsPlain := by
  refine List.forall_mem_append.mpr ⟨headerLines_plain l, ?_⟩
  intro line hline
  obtain ⟨item, hitem, hline⟩ := List.mem_flatMap.mp hline
  have hsane := h item hitem
  rcases List.mem_cons.mp hline with rfl | hline
  · decide
  · cases item with
    | resource d => exact resourceLines_plain _ hsane line hline
    | record d => exact recordLines_plain hsane line hline
    | choice d => exact choiceLines_plain hsane line hline

end CrdBindings.Layout
