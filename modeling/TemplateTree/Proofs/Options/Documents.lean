import TemplateTree.Proofs.Options.Root

/-!
# Options in documents

What the document of a directory makes of options: each is what its key alone would make of it, or
the default if the document does not have the key. Main statements: `isGiven_of_setAll?` for the
table in a document, and `areOf_of_discover` for the document that is found in a directory.
-/

namespace TemplateTree.Options

/-- The texts that options have under a key. -/
def textsAt (options : Options) (key : String) : List String :=
  match key with
  | "root" => [options.root.text]
  | "directive_filename" => [options.directiveFilename]
  | "template_extension" => [options.templateExtension]
  | "default_model" => [options.defaultModel]
  | "base_class" => [options.baseClass]
  | "model_placeholder" => [options.modelPlaceholder]
  | "default_class_name" => [options.defaultClassName]
  | "default_namespaces" => options.defaultNamespaces
  | "methods" =>
    [options.methods.execute, options.methods.write, options.methods.writeLiteral,
      options.methods.writeTo, options.methods.writeLiteralTo]
  | _ => []

/-- Under a key stands what a table gives there by itself, or what stood there before if the table
gives nothing. -/
def IsGiven (entries : Toml.Entries) (before options : Options) (key : String) : Prop :=
  (∃ value alone, (key, value) ∈ entries ∧ set? {} key value = some alone ∧
    options.textsAt key = alone.textsAt key) ∨
  (∀ value, (key, value) ∉ entries) ∧ options.textsAt key = before.textsAt key

/-- Options that are those of a directory, whatever their root is. -/
structure AreOf (options : Options) (disk : Disk) (place : Disk.Place) : Prop where
  written : ∀ {content}, disk.entryAt (place ++ [optionsFilename]) = some (.file content) →
    ∃ text entries read, Text.Utf8.decode? content = some text ∧
      Toml.parse? text = some entries ∧ setAll? {} entries = some read ∧
      options = { read with root := options.root } ∧
      ∀ key ≠ "root", IsGiven entries {} options key
  standard : disk.entryAt (place ++ [optionsFilename]) = none → options = { root := options.root }

variable {options after : Options} {key : String} {value : Toml.Value} {entries : Toml.Entries}
variable {environment : Environment} {disk : Disk} {place : Disk.Place} {path root : Path}
variable {content : List UInt8} {text : List Char}

/-- What a key puts under itself does not depend on the options. -/
theorem exists_set?_eq (changed : options.set? key value = some after) :
    ∃ alone, set? {} key value = some alone ∧ after.textsAt key = alone.textsAt key := by
  rw [set?.eq_def] at changed
  split at changed
  case h_8 =>
    obtain ⟨texts, read, rfl⟩ := Option.map_eq_some_iff.1 changed
    exact ⟨{ defaultNamespaces := texts }, Option.map_eq_some_iff.2 ⟨texts, read, rfl⟩, rfl⟩
  case h_9 =>
    obtain ⟨methods, read, rfl⟩ := Option.map_eq_some_iff.1 changed
    exact ⟨{ methods }, Option.map_eq_some_iff.2 ⟨methods, read, rfl⟩, rfl⟩
  case h_10 => cases changed
  all_goals
    obtain rfl := Option.some.inj changed
    exact ⟨_, rfl, rfl⟩

/-- A key leaves what is under the others. -/
theorem textsAt_of_set?_of_ne {other : String} (changed : options.set? key value = some after)
    (apart : other ≠ key) : after.textsAt other = options.textsAt other := by
  rw [set?.eq_def] at changed
  unfold textsAt
  split at changed
  case h_8 | h_9 =>
    obtain ⟨_, _, rfl⟩ := Option.map_eq_some_iff.1 changed
    split <;> simp_all
  case h_10 => cases changed
  all_goals
    obtain rfl := Option.some.inj changed
    split <;> simp_all

/-- Each key of a table that can be read sets its own option and leaves the others. -/
theorem isGiven_of_setAll? (read : setAll? options entries = some after) (key : String) :
    IsGiven entries options after key := by
  induction entries generalizing options with
  | nil =>
    obtain rfl := Option.some.inj read
    exact .inr ⟨fun _ => List.not_mem_nil, rfl⟩
  | cons entry rest inductionHypothesis =>
    obtain ⟨first, value⟩ := entry
    rw [setAll?] at read
    split at read
    · next between changed =>
      obtain ⟨alone, set, here⟩ := exists_set?_eq changed
      rcases inductionHypothesis read with ⟨later, alone, member, given⟩ | ⟨absent, kept⟩
      · exact .inl ⟨later, alone, List.mem_cons_of_mem _ member, given⟩
      · by_cases same : key = first
        · subst same
          exact .inl ⟨value, alone, List.mem_cons_self, set, kept.trans here⟩
        · refine .inr ⟨fun other member => ?_, kept.trans (textsAt_of_set?_of_ne changed same)⟩
          rcases List.mem_cons.1 member with head | tail
          · exact same (congrArg Prod.fst head)
          · exact absent other tail
    · cases read

theorem isName_optionsFilename : Path.IsName optionsFilename := ⟨by decide, rfl⟩

theorem textsAt_root (other : key ≠ "root") :
    textsAt { options with root } key = options.textsAt key :=
  textsAt_of_set?_of_ne (show options.set? "root" (.string root.text) = _ from rfl) other

theorem decode?_of_readDocument (led : disk.find path = .ok (.entry place (.file content)))
    (read : readDocument disk path = .ok text) : Text.Utf8.decode? content = some text := by
  simp only [readDocument, Disk.stream, led, Stream.content] at read
  split at read
  · next decoded => rw [decoded, Except.ok.inj read]
  · cases read

/-- Options of a directory are its options with another root as well. -/
theorem AreOf.withRoot (areOf : options.AreOf disk place) (root : Path) :
    { options with root }.AreOf disk place where
  written standing := by
    obtain ⟨text, entries, read, decoded, parsed, set, same, given⟩ := areOf.written standing
    refine ⟨text, entries, read, decoded, parsed, set, ?_, fun key other => ?_⟩
    · rw [same]
    · have given := given key other
      rwa [IsGiven, textsAt_root other]
  standard nothing := by rw [areOf.standard nothing]

/-- The options found for a root that leads to a directory are those of this directory. -/
theorem areOf_of_discover (found : discover environment disk root = .ok options)
    (there : disk.directoryAt? root = some place) (fits : Disk.Fits root optionsFilename) :
    options.AreOf disk place := by
  have led (solid : ∀ target, disk.entryAt (place ++ [optionsFilename]) ≠ some (.link target)) :
      disk.find (root.join ⟨optionsFilename⟩) =
        .ok (disk.standing (place ++ [optionsFilename])) := by
    rw [Disk.find_join_name there isName_optionsFilename (by decide) solid, if_pos fits]
  rw [discover] at found
  refine ⟨fun {content} standing => ?_, fun nothing => ?_⟩
  · have led := led (by simp [standing])
    rw [Disk.standing, standing] at led
    rw [Disk.isFile, led, if_pos rfl] at found
    obtain ⟨text, read, expanded, document, held, -, rfl⟩ := load_eq_ok_iff.1 found
    rw [ofText?] at held
    split at held
    · next entries parsed =>
      refine ⟨text, entries, read, decode?_of_readDocument led document, parsed, held, rfl, ?_⟩
      intro key other
      have given := isGiven_of_setAll? held key
      rwa [IsGiven, textsAt_root other]
    · cases held
  · have led := led (by simp [nothing])
    rw [Disk.standing, nothing] at led
    rw [Disk.isFile, led, if_neg Bool.false_ne_true] at found
    rw [← Except.ok.inj found]

/-- The options found for a root that leads to no directory, or below which the path of the document
is too long, are the defaults. -/
theorem discover_eq_ok_of_unfound
    (unfound : disk.directoryAt? root = none ∨ ¬Disk.Fits root optionsFilename) :
    discover environment disk root = .ok { root } := by
  have missing : disk.isFile (root.join ⟨optionsFilename⟩) = false := by
    rw [Disk.isFile]
    split
    · next led =>
      rcases unfound with nowhere | long
      · obtain ⟨place, there⟩ := Disk.exists_directoryAt?_of_find_join isName_optionsFilename led
        cases nowhere.symm.trans there
      · have proper := (Disk.findWith_eq_ok_iff.1 led).1
        exact absurd ⟨(Disk.fault?_eq_none_iff.1 proper).2.2, by decide⟩ long
    · rfl
  rw [discover, missing, if_neg Bool.false_ne_true]

end TemplateTree.Options
