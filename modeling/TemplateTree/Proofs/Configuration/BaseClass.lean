import TemplateTree.Code
import TemplateTree.Proofs.Cache.Genuine
import TemplateTree.Proofs.Configuration.Layers
import TemplateTree.Proofs.Directive.Arguments

/-!
# Base classes that are not blank

An argument that has been read is never blank, and replacing a placeholder by a model type that is
not blank leaves no base type blank. Main statement: `isBlankName_baseClass_merge`, that directives
alone never leave a class without a base.
-/

namespace TemplateTree

open Code (isBlankName)

theorem Code.isBlankName_eq_false_iff {name : String} :
    isBlankName name = false ↔ ∃ c ∈ name.toList, Text.isBlank c = false := by
  simp [isBlankName]

/-- A text that is not blank does not become so when a pattern is replaced by what is not blank. -/
theorem Text.exists_ink_replace {pattern replacement text : List Char}
    (put : ∃ c ∈ replacement, isBlank c = false) (ink : ∃ c ∈ text, isBlank c = false) :
    ∃ c ∈ replace pattern replacement text, isBlank c = false := by
  rw [replace]
  induction text with
  | nil => simp at ink
  | cons c rest inductionHypothesis =>
    rw [replaceAfter]
    split
    · obtain ⟨d, member, filled⟩ := put
      exact ⟨d, List.mem_append_left _ member, filled⟩
    · rcases (List.exists_mem_cons_iff ..).1 ink with here | later
      · exact ⟨c, List.mem_cons_self, here⟩
      · obtain ⟨d, member, filled⟩ := inductionHypothesis later
        exact ⟨d, List.mem_cons_of_mem _ member, filled⟩

namespace Directive

/-- An argument that has been read is not blank. -/
theorem IsDeclared.isBlankName_argument {source : List Char} {directive : Directive}
    (declared : IsDeclared source directive) : isBlankName directive.argument = false := by
  obtain ⟨line, -, read⟩ := declared.exists_read
  obtain ⟨c, rest, -, -, argument, filled⟩ := read_eq_directive_iff.1 read
  have trimmed := directive.kind.isTrimmed_argument (c :: rest)
  rw [argument] at trimmed
  obtain ⟨front, last, ends, ink⟩ :=
    trimmed.exists_concat fun empty => filled (String.toList_eq_nil_iff.1 empty)
  exact Code.isBlankName_eq_false_iff.2 ⟨last, ends ▸ List.mem_concat_self, ink⟩

theorem argumentsOf_ne_nil_iff {kind : Kind} {directives : List Directive} :
    argumentsOf kind directives ≠ [] ↔ ∃ directive ∈ directives, directive.kind = kind := by
  simp [argumentsOf, List.filter_eq_nil_iff]

/-- The last argument of its kind is not blank if none is, or else the default if that is not. -/
theorem isBlankName_argumentsOf {directives : List Directive}
    (ink : ∀ directive ∈ directives, isBlankName directive.argument = false) (kind : Kind)
    {otherwise : String}
    (present : isBlankName otherwise = false ∨ ∃ directive ∈ directives, directive.kind = kind) :
    isBlankName ((argumentsOf kind directives).getLast?.getD otherwise) = false := by
  cases last : (argumentsOf kind directives).getLast? with
  | some argument =>
    obtain ⟨directive, member, rfl⟩ := List.mem_map.1 (List.mem_of_getLast? last)
    exact ink directive (List.mem_filter.1 member).1
  | none =>
    rcases present with filled | ⟨directive, member, is⟩
    · exact filled
    · have some := argumentsOf_ne_nil_iff.2 ⟨directive, member, is⟩
      exact absurd (List.getLast?_eq_none_iff.1 last) some

end Directive

namespace DirectiveFile

/-- A genuine file has the declarations of some directives that were read. -/
theorem Genuine.exists_declared {path : Path} {file : DirectiveFile} (genuine : file.Genuine path) :
    ∃ directives, file.declarations = .ofDirectives directives ∧
      ∀ directive ∈ directives, ∃ source, Directive.IsDeclared source directive := by
  obtain ⟨content, made⟩ := genuine.parsed
  rw [ofContent] at made
  split at made
  · cases made
  · next directives read =>
    refine ⟨directives, Except.ok.inj made ▸ rfl, fun directive member => ?_⟩
    rw [directivesIn] at read
    split at read
    · cases read
    · next text _ =>
      split at read
      · cases read
      · next accepted =>
        cases read
        exact ⟨text, .inl ⟨_, accepted, member⟩⟩

/-- The files that are listed for a template have the declarations of directives that were read. -/
theorem exists_declared_of_genuine {files : List DirectiveFile}
    (genuine : ∀ file ∈ files, ∃ place, file.Genuine place) :
    ∃ read : DirectiveFile → List Directive,
      files.map (·.declarations) = (files.map read).map .ofDirectives ∧
        ∀ file ∈ files, file.declarations = .ofDirectives (read file) ∧
          ∀ directive ∈ read file, isBlankName directive.argument = false := by
  have declared (file : DirectiveFile) (member : file ∈ files) :
      ∃ directives, file.declarations = .ofDirectives directives ∧
        ∀ directive ∈ directives, isBlankName directive.argument = false := by
    obtain ⟨place, sound⟩ := genuine file member
    obtain ⟨directives, made, listed⟩ := sound.exists_declared
    refine ⟨directives, made, fun directive inside => ?_⟩
    obtain ⟨source, given⟩ := listed directive inside
    exact given.isBlankName_argument
  choose! read made using declared
  refine ⟨read, ?_, made⟩
  rw [List.map_map]
  exact List.map_congr_left fun file member => (made file member).1

end DirectiveFile

namespace Configuration

/-- The model type put into a base type leaves it not blank, if neither is, whatever the placeholder
is. -/
theorem isBlankName_substitute {base : BaseTypeTemplate} {modelType : String}
    (based : isBlankName base.template = false) (typed : isBlankName modelType = false) :
    isBlankName (base.substitute modelType) = false := by
  rw [BaseTypeTemplate.substitute]
  split
  · exact based
  · rw [Code.isBlankName_eq_false_iff] at based typed ⊢
    rw [String.toList_ofList]
    exact Text.exists_ink_replace typed based

/-- A template has a base class that is not blank, if the default model type is not blank and the
default base type is not, or else a base type is declared by the template or by a directive file
that applies to it. -/
theorem isBlankName_baseClass_merge {files : List DirectiveFile}
    (genuine : ∀ file ∈ files, ∃ place, file.Genuine place) {own : List Directive}
    (ink : ∀ directive ∈ own, isBlankName directive.argument = false) {defaults : Defaults}
    (typed : isBlankName defaults.modelType = false)
    (based : isBlankName defaults.baseType.template = false ∨
      (∃ directive ∈ own, directive.kind = .baseType) ∨
        ∃ file ∈ files, file.declarations.baseType ≠ none) :
    isBlankName (merge (files.map (·.declarations)) (.ofDirectives own) defaults).baseClass =
      false := by
  obtain ⟨read, same, made⟩ := DirectiveFile.exists_declared_of_genuine genuine
  have all : ∀ directive ∈ (files.map read).flatten ++ own,
      isBlankName directive.argument = false := by
    intro directive member
    rcases List.mem_append.1 member with inherited | declared
    · obtain ⟨directives, listed, inside⟩ := List.mem_flatten.1 inherited
      obtain ⟨file, applies, rfl⟩ := List.mem_map.1 listed
      exact (made file applies).2 directive inside
    · exact ink directive declared
  have present : isBlankName defaults.baseType.template = false ∨
      ∃ directive ∈ (files.map read).flatten ++ own, directive.kind = .baseType := by
    rcases based with filled | ⟨directive, member, is⟩ | ⟨file, applies, declares⟩
    · exact .inl filled
    · exact .inr ⟨directive, List.mem_append_right _ member, is⟩
    · rw [(made file applies).1, Declarations.ofDirectives_eq] at declares
      have filled : Directive.argumentsOf .baseType (read file) ≠ [] :=
        fun nothing => declares (List.getLast?_eq_none_iff.2 nothing)
      obtain ⟨directive, member, is⟩ := Directive.argumentsOf_ne_nil_iff.1 filled
      have inside := List.mem_flatten.2 ⟨read file, List.mem_map_of_mem applies, member⟩
      exact .inr ⟨directive, List.mem_append_left _ inside, is⟩
  rw [same, merge_ofDirectives]
  exact isBlankName_substitute (Directive.isBlankName_argumentsOf all .baseType present)
    (Directive.isBlankName_argumentsOf all .modelType (.inl typed))

end Configuration

end TemplateTree
