import CrdBindings.Proofs.Layout.Containment

/-!
Reading a rendered record back: the name under which a field is written stands in the attribute in
front of it, or in its identifier when there is none.
-/

namespace CrdBindings
set_option autoImplicit false

namespace Layout

/-- What follows a start of a line. -/
def afterStart? (start : String) (line : List Char) : Option (List Char) :=
  if start.toList.isPrefixOf line then some (line.drop start.toList.length) else none

/-- The name that a line gives to the next field. -/
def renameOf? (line : List Char) : Option String := do
  let rest ← afterStart? "    #[serde(rename = \"" line
  let (text, rest) ← Text.Reader.plain.read rest
  if rest = ")]".toList then some (String.ofList text) else none

/-- The identifier of the field that a line declares. -/
def identOf? (line : List Char) : Option String :=
  (afterStart? "    pub " line).map fun rest => String.ofList (rest.takeWhile (· != ':'))

/-- The names of the fields declared by lines up to the end of the record, where `given` is the name
for the next of them. -/
def readNames (given : Option String) : List (List Char) → List String
  | [] => []
  | line :: lines =>
    if line = ['\x7d'] then []
    else
      match identOf? line with
      | some ident => given.getD (Ident.bare ident) :: readNames none lines
      | none =>
        match renameOf? line with
        | some name => readNames (some name) lines
        | none => readNames given lines

def recordText (r : RecordDecl) : String := Line.textOf (recordLines r)

/-- The names under which the fields of a record are written. -/
def writtenNames (r : RecordDecl) : List String :=
  readNames none (Text.splitAtChar '\n' (recordText r).toList)

end Layout

/-- The name under which a field is written: an empty one cannot be given. -/
def FieldDecl.writtenName (f : FieldDecl) : String :=
  match f.rename with
  | some name => if name.isEmpty then Ident.bare f.ident else name
  | none => Ident.bare f.ident

namespace Layout

theorem readNames_skip {line : List Char} (hend : line ≠ ['\x7d']) (hident : identOf? line = none)
    (hrename : renameOf? line = none) (given : Option String) (lines : List (List Char)) :
    readNames given (line :: lines) = readNames given lines := by
  simp only [readNames, if_neg hend, hident, hrename]

theorem readNames_docLine (indent line : String) (hindent : indent = "" ∨ indent = "    ")
    (given : Option String) (lines : List (List Char)) :
    readNames given ((docLine indent line).text.toList :: lines) = readNames given lines := by
  have htext : ∃ rest, (docLine indent line).text.toList = indent.toList ++ '/' :: '/' :: rest := by
    simp [docLine, Line.text]
  obtain ⟨rest, htext⟩ := htext
  rw [htext]
  rcases hindent with rfl | rfl
  · apply readNames_skip <;> simp [identOf?, renameOf?, afterStart?]
  · apply readNames_skip <;> simp [identOf?, renameOf?, afterStart?]

theorem afterStart?_append (start : String) (rest : List Char) :
    afterStart? start (start.toList ++ rest) = some rest := by
  have hstart : start.toList.isPrefixOf (start.toList ++ rest) = true :=
    List.isPrefixOf_iff_prefix.mpr (List.prefix_append _ _)
  rw [afterStart?, if_pos hstart, List.drop_left]

theorem renameOf?_renameAttribute (name : String) :
    renameOf? (renameAttribute name).text.toList = some name := by
  have htext : (renameAttribute name).text.toList = "    #[serde(rename = \"".toList ++
      (name.toList.flatMap (Text.escapeChar '"') ++ '"' :: ")]".toList) := by
    simp [renameAttribute, Line.text, Piece.text, Text.stringLiteral]
  rw [htext, renameOf?, afterStart?_append]
  simp only [Option.bind_eq_bind, Option.bind_some, Text.read_flatMap_escapeChar, if_true,
    String.ofList_toList]

theorem readNames_renameAttribute (name : String) (given : Option String)
    (lines : List (List Char)) :
    readNames given ((renameAttribute name).text.toList :: lines) =
      readNames (some name) lines := by
  have hend : (renameAttribute name).text.toList ≠ ['\x7d'] := by
    simp [renameAttribute, Line.text, Piece.text]
  have hident : identOf? (renameAttribute name).text.toList = none := by
    simp [renameAttribute, Line.text, Piece.text, identOf?, afterStart?]
  simp only [readNames, if_neg hend, hident, renameOf?_renameAttribute]

theorem absentAttribute_start :
    ∃ rest, absentAttribute.text.toList = "    #[serde(d".toList ++ rest := by
  simp [absentAttribute, Line.text, Piece.text]

theorem readNames_absentAttribute (given : Option String) (lines : List (List Char)) :
    readNames given (absentAttribute.text.toList :: lines) = readNames given lines := by
  obtain ⟨rest, htext⟩ := absentAttribute_start
  rw [htext]
  apply readNames_skip <;> simp [identOf?, renameOf?, afterStart?]

theorem takeWhile_ident {ident : String} (h : Ident.IsField ident) (rest : List Char) :
    (ident.toList ++ ':' :: rest).takeWhile (· != ':') = ident.toList := by
  have hcolon : ∀ c ∈ ident.toList, c != ':' := by
    intro c hc
    rw [bne_iff_ne]
    rintro rfl
    exact h.not_mem (by decide) (by decide) (by decide) hc
  rw [List.takeWhile_append_of_pos hcolon]
  simp

theorem readNames_fieldLine {f : FieldDecl} (h : Ident.IsField f.ident) (given : Option String)
    (lines : List (List Char)) :
    readNames given
      ((Line.code ["    pub ", f.ident, ": ", f.type, ","]).text.toList :: lines) =
      given.getD (Ident.bare f.ident) :: readNames none lines := by
  have htext : (Line.code ["    pub ", f.ident, ": ", f.type, ","]).text.toList =
      "    pub ".toList ++ (f.ident.toList ++ ':' :: ' ' :: (f.type.toList ++ [','])) := by
    simp [Line.text, Piece.text]
  have hend : "    pub ".toList ++ (f.ident.toList ++ ':' :: ' ' :: (f.type.toList ++ [','])) ≠
      ['\x7d'] := by
    simp
  have hident : identOf? ("    pub ".toList ++
      (f.ident.toList ++ ':' :: ' ' :: (f.type.toList ++ [',']))) = some f.ident := by
    rw [identOf?, afterStart?_append, Option.map_some, takeWhile_ident h, String.ofList_toList]
  rw [htext]
  simp only [readNames, if_neg hend, hident]

theorem readNames_docLines (indent : String) (hindent : indent = "" ∨ indent = "    ")
    (doc : List String) (given : Option String) (lines : List (List Char)) :
    readNames given ((doc.map (docLine indent)).map (·.text.toList) ++ lines) =
      readNames given lines := by
  induction doc with
  | nil => rfl
  | cons line doc ih =>
    rw [List.map_cons, List.map_cons, List.cons_append, readNames_docLine indent line hindent, ih]

/-- The lines of a field give its name, and leave no name for the next one. -/
theorem readNames_fieldLines {f : FieldDecl} (h : Ident.IsField f.ident)
    (lines : List (List Char)) :
    readNames none ((fieldLines f).map (·.text.toList) ++ lines) =
      f.writtenName :: readNames none lines := by
  have habsent : ∀ given lines, readNames given
      ((if f.required then [] else [absentAttribute]).map (·.text.toList) ++ lines) =
        readNames given lines := by
    intro given lines
    cases f.required
    · exact readNames_absentAttribute given lines
    · rfl
  have hrename : ∀ lines, readNames none ((renameLines f.rename).map (·.text.toList) ++ lines) =
      readNames (f.rename.filter (!·.isEmpty)) lines := by
    intro lines
    cases f.rename with
    | none => rfl
    | some name =>
      cases hempty : name.isEmpty
      · simp only [renameLines, Option.elim, hempty, Bool.false_eq_true, if_false,
          Option.filter_some, Bool.not_false, if_true]
        exact readNames_renameAttribute name none lines
      · simp only [renameLines, Option.elim, hempty, if_true, Option.filter_some, Bool.not_true,
          Bool.false_eq_true, if_false]
        rfl
  have hname : (f.rename.filter (!·.isEmpty)).getD (Ident.bare f.ident) = f.writtenName := by
    unfold FieldDecl.writtenName
    cases f.rename with
    | none => rfl
    | some name =>
      cases hempty : name.isEmpty
      · simp only [Option.filter_some, hempty, Bool.not_false, if_true, Option.getD_some,
          Bool.false_eq_true, if_false]
      · simp only [Option.filter_some, hempty, Bool.not_true, Bool.false_eq_true, if_false,
          Option.getD_none, if_true]
  simp only [fieldLines, List.map_append, List.append_assoc]
  rw [readNames_docLines "    " (.inr rfl), hrename, habsent]
  refine (readNames_fieldLine h _ _).trans ?_
  rw [hname]
  rfl

theorem readNames_flatMap_fieldLines {fields : List FieldDecl}
    (h : ∀ f ∈ fields, Ident.IsField f.ident) (lines : List (List Char)) :
    readNames none ((fields.flatMap fieldLines).map (·.text.toList) ++ lines) =
      fields.map FieldDecl.writtenName ++ readNames none lines := by
  induction fields with
  | nil => rfl
  | cons f fields ih =>
    rw [List.flatMap_cons, List.map_append, List.append_assoc,
      readNames_fieldLines (h f List.mem_cons_self), ih fun g hg => h g (List.mem_cons_of_mem f hg),
      List.map_cons, List.cons_append]

/-- The two lines in front of the fields name none of them. -/
theorem readNames_head (derives name : String) (lines : List (List Char)) :
    readNames none
      ([code ("#[derive(Debug, Clone," ++ derives),
        .code ["pub struct ", name, " \x7b"]].map (·.text.toList) ++ lines) =
      readNames none lines := by
  have hderive : ∀ lines, readNames none
      ((code ("#[derive(Debug, Clone," ++ derives)).text.toList :: lines) =
        readNames none lines := by
    intro lines
    apply readNames_skip <;> simp [code, Line.text, Piece.text, identOf?, renameOf?, afterStart?]
  have hname : readNames none ((Line.code ["pub struct ", name, " \x7b"]).text.toList :: lines) =
      readNames none lines := by
    apply readNames_skip <;> simp [Line.text, Piece.text, identOf?, renameOf?, afterStart?]
  exact (hderive _).trans hname

theorem readNames_end (lines : List (List Char)) :
    readNames none ((code "\x7d").text.toList :: lines) = [] := by
  have hbrace : (code "\x7d").text.toList = ['\x7d'] := by decide
  rw [readNames, if_pos hbrace]

/-- The names that a reader finds in the text of a record are those of its fields, in order. -/
theorem writtenNames_eq {r : RecordDecl} (h : r.Sanitised) :
    writtenNames r = r.fields.map FieldDecl.writtenName := by
  have hfeeds : ∀ l ∈ recordLines r, '\n' ∉ l.text.toList := by
    intro l hl
    refine Line.feed_not_mem_text (recordLines_plain h l hl) ?_
    exact List.sum_eq_zero_iff_forall_eq_nat.mp (feeds_recordLines h) _ (List.mem_map_of_mem hl)
  rw [writtenNames, recordText, Line.splitAtChar_textOf hfeeds, recordLines, String.append_assoc]
  simp only [List.map_append, List.append_assoc]
  rw [readNames_docLines "" (.inl rfl), readNames_head,
    readNames_flatMap_fieldLines fun f hf => (h.fields f hf).ident]
  simp only [List.map_cons, List.cons_append, readNames_end, List.append_nil]

end Layout
end CrdBindings
