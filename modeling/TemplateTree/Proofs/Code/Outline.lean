import TemplateTree.Proofs.Code.Body

/-!
# What generated code declares

Once a configuration is applied to a template, the code generated under it has nothing from the
directives of the template. `importsIn`, `headsIn` and `modelsIn` read back what code declares line
by line, wherever it stands. Main statement: `generate_apply_declares`.
-/

namespace TemplateTree

/-- What stands in a text between this beginning and this end. -/
def Text.between? (start finish text : String) : Option String :=
  match Text.after? start.toList text.toList with
  | none => none
  | some rest =>
    (Text.after? finish.toList.reverse rest.reverse).map fun inside => String.ofList inside.reverse

/-- What stands between the beginning and the end is told by the text. -/
theorem Text.between?_eq_some_iff {start finish text inside : String} :
    between? start finish text = some inside ↔ text = start ++ inside ++ finish := by
  have reversed {rest more : List Char} :
      rest.reverse = finish.toList.reverse ++ more ↔ rest = more.reverse ++ finish.toList := by
    rw [List.reverse_eq_iff, List.reverse_append, List.reverse_reverse]
  rw [between?, ← String.toList_inj, String.toList_append, String.toList_append]
  constructor
  · intro found
    split at found
    · cases found
    · next rest behind =>
      obtain ⟨more, ends, rfl⟩ := Option.map_eq_some_iff.1 found
      rw [Text.after?_eq_some_iff.1 behind, reversed.1 (Text.after?_eq_some_iff.1 ends),
        String.toList_ofList, List.append_assoc]
  · intro whole
    have behind : Text.after? start.toList text.toList =
        some (inside.toList ++ finish.toList) := by
      rw [Text.after?_eq_some_iff, whole, List.append_assoc]
    have ends : Text.after? finish.toList.reverse (inside.toList ++ finish.toList).reverse =
        some inside.toList.reverse := by
      rw [Text.after?_eq_some_iff, List.reverse_append]
    simp only [behind, ends, Option.map_some, List.reverse_reverse, String.ofList_toList]

theorem Text.between?_eq_none {start finish text : String}
    (other : ∀ inside, text ≠ start ++ inside ++ finish) : between? start finish text = none := by
  rw [Option.eq_none_iff_forall_not_mem]
  exact fun inside found => other inside (between?_eq_some_iff.1 found)

/-- Nothing is found in a text that differs from the beginning somewhere. -/
theorem Text.between?_eq_none_of_getElem? {start finish text : String} (index : Nat) {c : Char}
    (here : start.toList[index]? = some c) (there : text.toList[index]? ≠ some c) :
    between? start finish text = none := by
  refine between?_eq_none fun inside whole => there ?_
  have within := (List.getElem?_eq_some_iff.1 here).1
  rw [whole, String.toList_append, String.toList_append, List.append_assoc,
    List.getElem?_append_left within, here]

namespace Code

/-- What stands in the lines of code between this beginning and this end, line by line. -/
def textsBetween (start finish code : String) : List String :=
  (Text.lines code.toList).filterMap fun line => Text.between? start finish (String.ofList line)

/-- The namespaces that code imports. -/
def importsIn (code : String) : List String :=
  textsBetween "using " ";\n" code

/-- What stands behind the name of a class where code defines it: nothing, or what it derives from.
-/
def headsIn (className code : String) : List String :=
  textsBetween ("public class " ++ className) "\n" code

/-- The types under which code has a model. -/
def modelsIn (code : String) : List String :=
  textsBetween "    public " " Model \x7b get; set; \x7d\n" code

/-- The lines of code up to the property for the model. -/
def headingLines (configuration : Configuration) (className : String) : List String :=
  configuration.namespaces.map (s!"using {·};\n") ++
    (if configuration.namespaces.isEmpty then [] else ["\n"]) ++
    [classLine className configuration.baseClass, "\x7b\n",
      s!"    public {configuration.modelType} Model \x7b get; set; \x7d\n", "\n"]

/-- The lines of code from the method that writes the body. -/
def overridingLines (methods : MethodNames) (body : List Chunk) : List String :=
  [s!"    public override async Task {methods.execute}()\n", "    \x7b\n"] ++
    body.map (statement methods) ++ ["    \x7d\n", "\x7d\n"]

/-- Every name that stands in code stays on its line. -/
structure OneLine (configuration : Configuration) (methods : MethodNames) (className : String)
    (body : List Chunk) : Prop where
  namespaces : ∀ name ∈ configuration.namespaces, '\n' ∉ name.toList
  baseClass : '\n' ∉ configuration.baseClass.toList
  modelType : '\n' ∉ configuration.modelType.toList
  className : '\n' ∉ className.toList
  execute : '\n' ∉ methods.execute.toList
  write : '\n' ∉ methods.write.toList
  writeLiteral : '\n' ∉ methods.writeLiteral.toList
  expressions : ∀ name, .expression name ∈ body → '\n' ∉ name.toList

variable {configuration : Configuration} {methods : MethodNames} {className : String}
  {template : Template}

@[simp] theorem baseClass_apply (other : Configuration) :
    baseClass other (configuration.apply template) = configuration.baseClass := by
  rw [baseClass, Configuration.directives_apply, Configuration.directives, List.foldl_append]
  rfl

/-- The imports of a template under a configuration are those of the configuration. -/
theorem importLines_apply :
    importLines (configuration.apply template) =
      String.join (configuration.namespaces.map (s!"using {·};\n") ++
        if configuration.namespaces.isEmpty then [] else ["\n"]) := by
  simp only [importLines, Configuration.directives_apply, Configuration.directives,
    List.filterMap_append, List.filterMap_map, Function.comp_def, List.filterMap_eq_map']
  cases configuration.namespaces with
  | nil => rfl
  | cons name rest => simp [String.append_assoc]

/-- The code of a template under a configuration, line by line. -/
theorem source_generate_apply :
    (generate configuration methods className (configuration.apply template)).source =
      String.join (headingLines configuration className ++
        overridingLines methods template.body) := by
  rw [generate, importLines_apply, baseClass_apply, Configuration.body_apply]
  have blankLine : " Model \x7b get; set; \x7d\n\n".toList =
      " Model \x7b get; set; \x7d\n".toList ++ ['\n'] := rfl
  simp [headingLines, overridingLines, ← String.toList_inj, toString, blankLine]

/-- A text that is one line with its end. -/
def IsLine (line : String) : Prop :=
  ∃ front, '\n' ∉ front ∧ line.toList = front ++ ['\n']

/-- The texts found in lines that are put together are those found in each of them. -/
theorem textsBetween_join {written : List String} (single : ∀ line ∈ written, IsLine line)
    (start finish : String) :
    textsBetween start finish (String.join written) =
      written.filterMap (Text.between? start finish) := by
  have lines : Text.lines (String.join written).toList = written.map String.toList := by
    have cut := Text.lines_flatMap_append single []
    simpa [Text.lines] using cut
  rw [textsBetween, lines, List.filterMap_map]
  simp

/-- Names on one line give lines up to the property for the model. -/
theorem OneLine.heading {body : List Chunk}
    (oneLine : OneLine configuration methods className body) :
    ∀ line ∈ headingLines configuration className, IsLine line := by
  intro line member
  simp only [headingLines, List.mem_append, List.mem_cons, List.not_mem_nil, or_false] at member
  rcases member with (imported | blank) | rfl | rfl | rfl | rfl
  · obtain ⟨name, listed, rfl⟩ := List.mem_map.1 imported
    exact ⟨"using ".toList ++ name.toList ++ [';'], by simp [oneLine.namespaces name listed],
      by simp [toString]⟩
  · split at blank
    · cases blank
    · rw [List.mem_singleton.1 blank]
      exact ⟨[], by simp, rfl⟩
  · rw [classLine]
    split
    · exact ⟨"public class ".toList ++ className.toList, by simp [oneLine.className],
        by simp [toString]⟩
    · exact ⟨"public class ".toList ++ className.toList ++ " : ".toList ++
        configuration.baseClass.toList, by simp [oneLine.className, oneLine.baseClass],
        by simp [toString]⟩
  · exact ⟨['\x7b'], by decide, rfl⟩
  · exact ⟨"    public ".toList ++ configuration.modelType.toList ++
      " Model \x7b get; set; \x7d".toList, by simp [oneLine.modelType], by simp [toString]⟩
  · exact ⟨[], by simp, rfl⟩

/-- Names on one line give lines from the method that writes the body. -/
theorem OneLine.overriding
    (oneLine : OneLine configuration methods className template.body) :
    ∀ line ∈ overridingLines methods template.body, IsLine line := by
  intro line member
  simp only [overridingLines, List.mem_append, List.mem_cons, List.not_mem_nil, or_false] at member
  rcases member with ((rfl | rfl) | written) | rfl | rfl
  · exact ⟨"    public override async Task ".toList ++ methods.execute.toList ++ "()".toList,
      by simp [oneLine.execute], by simp [toString]⟩
  · exact ⟨"    \x7b".toList, by decide, rfl⟩
  · obtain ⟨chunk, inside, rfl⟩ := List.mem_map.1 written
    refine exists_line_statement oneLine.write oneLine.writeLiteral (List.mem_filter.1 inside).2
      fun name is => oneLine.expressions name ?_
    rwa [← is]
  · exact ⟨"    \x7d".toList, by decide, rfl⟩
  · exact ⟨['\x7d'], by decide, rfl⟩

theorem classLine_eq (className base : String) :
    classLine className base =
      "public class " ++ className ++ (if isBlankName base then "" else " : " ++ base) ++ "\n" := by
  rw [classLine]
  split <;> simp [← String.toList_inj, toString]

/-- Statements for the chunks of a body are indented. -/
theorem exists_statement_eq {chunk : Chunk} (body : Template.isBody chunk = true) :
    ∃ rest, statement methods chunk = "        " ++ rest := by
  cases chunk with
  | literal text =>
    exact ⟨methods.writeLiteral ++ ("(" ++ (quote text ++ ");\n")), by
      simp only [statement, String.append_assoc]⟩
  | expression name =>
    exact ⟨methods.write ++ ("(" ++ (name ++ ");\n")), by
      simp only [statement, String.append_assoc]⟩
  | directive declared => cases body

/-- A line of the method that writes the body begins with blank, and it goes on with more of it
unless it is the first; or it closes the class. -/
theorem begins_overridingLines {line : String}
    (member : line ∈ overridingLines methods template.body) :
    (line.toList[0]? = some ' ' ∨ line.toList[0]? = some '\x7d') ∧
      (line = s!"    public override async Task {methods.execute}()\n" ∨
        line.toList[4]? ≠ some 'p') := by
  simp only [overridingLines, List.mem_append, List.mem_cons, List.not_mem_nil, or_false] at member
  rcases member with ((rfl | rfl) | written) | rfl | rfl
  · exact ⟨.inl (by simp [toString]), .inl rfl⟩
  · exact ⟨.inl rfl, .inr (by decide)⟩
  · obtain ⟨chunk, inside, rfl⟩ := List.mem_map.1 written
    obtain ⟨rest, indented⟩ := @exists_statement_eq methods _ (List.mem_filter.1 inside).2
    rw [indented]
    exact ⟨.inl (by simp), .inr (by simp)⟩
  · exact ⟨.inl rfl, .inr (by decide)⟩
  · exact ⟨.inr rfl, .inr (by decide)⟩

/-- What is not found in the method that writes the body is found in the lines above it only. -/
theorem OneLine.textsBetween_eq (oneLine : OneLine configuration methods className template.body)
    {start finish : String}
    (elsewhere : ∀ line ∈ overridingLines methods template.body,
      Text.between? start finish line = none) :
    textsBetween start finish
        (generate configuration methods className (configuration.apply template)).source =
      (headingLines configuration className).filterMap (Text.between? start finish) := by
  have single : ∀ line ∈ headingLines configuration className ++
      overridingLines methods template.body, IsLine line :=
    List.forall_mem_append.2 ⟨oneLine.heading, oneLine.overriding⟩
  rw [source_generate_apply, textsBetween_join single, List.filterMap_append,
    List.filterMap_eq_nil_iff.2 elsewhere, List.append_nil]

/-- Code imports the namespaces of its configuration, in order, and no others. -/
theorem OneLine.importsIn_eq (oneLine : OneLine configuration methods className template.body) :
    importsIn (generate configuration methods className (configuration.apply template)).source =
      configuration.namespaces := by
  have other {line : String} (begins : line.toList[0]? ≠ some 'u') :
      Text.between? "using " ";\n" line = none :=
    Text.between?_eq_none_of_getElem? 0 rfl begins
  have imports : (configuration.namespaces.map (s!"using {·};\n")).filterMap
      (Text.between? "using " ";\n") = configuration.namespaces := by
    rw [List.filterMap_map, List.filterMap_congr (g := some), List.filterMap_some]
    exact fun name _ => Text.between?_eq_some_iff.2 rfl
  have separator : (if configuration.namespaces.isEmpty then [] else ["\n"]).filterMap
      (Text.between? "using " ";\n") = [] := by
    split
    · rfl
    · simp [other]
  rw [importsIn, oneLine.textsBetween_eq, headingLines, List.filterMap_append,
    List.filterMap_append, imports, separator]
  · simp [other, classLine_eq, toString]
  · intro line member
    refine other fun begins => ?_
    rcases (begins_overridingLines member).1 with blank | brace <;> simp_all

/-- Code defines its class once, with what it derives from. -/
theorem OneLine.headsIn_eq (oneLine : OneLine configuration methods className template.body) :
    headsIn className
        (generate configuration methods className (configuration.apply template)).source =
      [if isBlankName configuration.baseClass then "" else " : " ++ configuration.baseClass] := by
  have other {line : String} (begins : line.toList[0]? ≠ some 'p') :
      Text.between? ("public class " ++ className) "\n" line = none :=
    Text.between?_eq_none_of_getElem? 0 (by simp) begins
  have imports : (configuration.namespaces.map (s!"using {·};\n") ++
      if configuration.namespaces.isEmpty then [] else ["\n"]).filterMap
        (Text.between? ("public class " ++ className) "\n") = [] := by
    refine List.filterMap_eq_nil_iff.2 fun line member => other ?_
    rcases List.mem_append.1 member with imported | separator
    · obtain ⟨name, -, rfl⟩ := List.mem_map.1 imported
      simp [toString]
    · split at separator <;> simp_all
  have named := Text.between?_eq_some_iff.2 (classLine_eq className configuration.baseClass)
  rw [headsIn, oneLine.textsBetween_eq, headingLines, List.filterMap_append, imports]
  · simp [other, named, toString]
  · intro line member
    refine other fun begins => ?_
    rcases (begins_overridingLines member).1 with blank | brace <;> simp_all

/-- Code has its model once, under the type of its configuration. -/
theorem OneLine.modelsIn_eq (oneLine : OneLine configuration methods className template.body) :
    modelsIn (generate configuration methods className (configuration.apply template)).source =
      [configuration.modelType] := by
  have other {line : String} (begins : line.toList[0]? ≠ some ' ') :
      Text.between? "    public " " Model \x7b get; set; \x7d\n" line = none :=
    Text.between?_eq_none_of_getElem? 0 rfl begins
  have imports : (configuration.namespaces.map (s!"using {·};\n") ++
      if configuration.namespaces.isEmpty then [] else ["\n"]).filterMap
        (Text.between? "    public " " Model \x7b get; set; \x7d\n") = [] := by
    refine List.filterMap_eq_nil_iff.2 fun line member => other ?_
    rcases List.mem_append.1 member with imported | separator
    · obtain ⟨name, -, rfl⟩ := List.mem_map.1 imported
      simp [toString]
    · split at separator <;> simp_all
  have typed : Text.between? "    public " " Model \x7b get; set; \x7d\n"
      s!"    public {configuration.modelType} Model \x7b get; set; \x7d\n" =
        some configuration.modelType := Text.between?_eq_some_iff.2 rfl
  rw [modelsIn, oneLine.textsBetween_eq, headingLines, List.filterMap_append, imports]
  · have named : (classLine className configuration.baseClass).toList[0]? ≠ some ' ' := by
      simp [classLine_eq]
    rw [List.nil_append, List.filterMap_cons_none (other named),
      List.filterMap_cons_none (other (by decide)), List.filterMap_cons_some typed,
      List.filterMap_cons_none (other (by decide)), List.filterMap_nil]
  · intro line member
    rcases (begins_overridingLines member).2 with rfl | more
    · refine Text.between?_eq_none fun inside same => ?_
      -- The line of the method ends in a parenthesis, and that of the model in a brace.
      have ends := congrArg (fun line : String => line.toList.reverse[1]?) same
      simp [toString] at ends
    · exact Text.between?_eq_none_of_getElem? 4 rfl more

/-- Of the errors that are remarked on a class, there is one: that it derives from nothing. -/
theorem errors_generate_apply :
    (generate configuration methods className (configuration.apply template)).diagnostics.filter
        (·.severity = .error) =
      if isBlankName configuration.baseClass then
        [⟨.error, s!"'{className}' has no base class to derive from."⟩] else [] := by
  have warned (silent : Bool) : (if silent then
      [Diagnostic.mk .warning s!"'{className}' has an empty body."] else []).filter
        (·.severity = .error) = [] := by
    cases silent <;> rfl
  rw [generate, baseClass_apply, remarks, List.filter_append, warned, List.append_nil]
  split <;> rfl

theorem hasErrors_generate_apply :
    (generate configuration methods className (configuration.apply template)).hasErrors =
      isBlankName configuration.baseClass := by
  rw [hasErrors, generate, baseClass_apply, remarks, List.any_append]
  cases isBlankName configuration.baseClass <;>
    cases (configuration.apply template).body.isEmpty <;> rfl

/-- Of the directives of a template nothing is left in the code that is generated from it under a
configuration: templates with the same body have the same code. Its text is that of the lines which
the configuration, the names and the body give. Where no name breaks its line, it imports the
namespaces of the configuration, in order, defines the class, derived from the base class unless
that is blank, and has a model of its model type, each of them nowhere else. It has an error only if
the base class is blank. A configuration takes the place of another that was applied before, and the
body stays. -/
theorem generate_apply_declares (configuration : Configuration) (methods : MethodNames)
    (className : String) :
    let code (template : Template) :=
      generate configuration methods className (configuration.apply template)
    let errors (template : Template) :=
      (code template).diagnostics.filter (·.severity = .error)
    (∀ first second : Template, first.body = second.body → code first = code second) ∧
    (∀ template : Template,
      (code template).source = String.join (headingLines configuration className ++
        overridingLines methods template.body) ∧
      errors template = (if isBlankName configuration.baseClass then
        [⟨.error, s!"'{className}' has no base class to derive from."⟩] else []) ∧
      (OneLine configuration methods className template.body →
        importsIn (code template).source = configuration.namespaces ∧
        headsIn className (code template).source =
          [if isBlankName configuration.baseClass then "" else
            " : " ++ configuration.baseClass] ∧
        modelsIn (code template).source = [configuration.modelType])) ∧
    (∀ (other : Configuration) (template : Template),
      configuration.apply (other.apply template) = configuration.apply template) ∧
    ∀ template : Template, (configuration.apply template).body = template.body := by
  have replaced {first second : Template} (same : first.body = second.body) :
      configuration.apply first = configuration.apply second := by
    rw [Configuration.apply, Configuration.apply, same]
  intro code errors
  refine ⟨fun first second same => ?_, fun template => ⟨source_generate_apply,
    errors_generate_apply, fun oneLine => ⟨oneLine.importsIn_eq, oneLine.headsIn_eq,
      oneLine.modelsIn_eq⟩⟩, fun other template => replaced (other.body_apply template),
    configuration.body_apply⟩
  exact congrArg (generate configuration methods className) (replaced same)

/-- Directives before, between and behind the chunks of a body are gone from its code, and a blank
base class is nothing to derive from. -/
theorem generate_apply_declares_over_leftovers :
    let configuration : Configuration := ⟨"B", "Item", "\t", ["System", "A.B"]⟩
    let other : Configuration := ⟨"C", "Other", "C", ["D"]⟩
    let template : Template := ⟨[.directive ⟨.baseType, "Leftover"⟩, .literal "using x;\n",
      .directive ⟨.namespaceImport, "Leftover"⟩, .expression "Model.Name",
      .directive ⟨.modelType, "Leftover"⟩]⟩
    let plain : Template := ⟨[.literal "using x;\n", .expression "Model.Name"]⟩
    let code (template : Template) := generate configuration {} "Page" (configuration.apply template)
    template.body = plain.body ∧ code template = code plain ∧
      OneLine configuration {} "Page" template.body ∧
      importsIn (code template).source = ["System", "A.B"] ∧
      headsIn "Page" (code template).source = [""] ∧
      modelsIn (code template).source = ["Item"] ∧
      configuration.apply (other.apply template) = configuration.apply plain := by
  intro configuration other template plain code
  obtain ⟨alike, written, replaces, -⟩ := generate_apply_declares configuration {} "Page"
  have same : template.body = plain.body := rfl
  have oneLine : OneLine configuration {} "Page" template.body := {
    namespaces := by decide
    baseClass := by decide
    modelType := by decide
    className := by decide
    execute := by decide
    write := by decide
    writeLiteral := by decide
    expressions := fun name member => by
      have listed : Chunk.expression name ∈ plain.chunks := member
      obtain rfl : name = "Model.Name" := by simpa [plain] using listed
      decide }
  obtain ⟨imports, heads, models⟩ := (written template).2.2 oneLine
  exact ⟨same, alike template plain same, oneLine, imports, heads.trans (by decide), models,
    (replaces other template).trans (by rw [Configuration.apply, Configuration.apply, same])⟩

end Code

end TemplateTree
