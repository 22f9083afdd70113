import TemplateTree.CommandLine.Tree
import TemplateTree.Proofs.Options.Documents

/-!
# The options of a root

Which options a command works with that is told of a root. They are looked for in the directory that
the root leads to as it is written, and the host stands in the one that it leads to once it is
expanded. Main statement: `options_of_root`.
-/

namespace TemplateTree.CommandLine.TreeArguments

variable {environment : Environment} {disk : Disk} {root : Path} {options : Options} {host : Host}
variable {directory : Directory}

/-- A command that is told of a root works with the options that are found there, under this root,
and with the host that they make. -/
theorem host_of_root_eq_ok_iff :
    TreeArguments.host environment disk { root := some root } = .ok (options, host, directory) ↔
      ∃ found, Options.discover environment disk root = .ok found ∧
        options = { found with root } ∧ options.host environment disk = .ok (host, directory) := by
  rw [TreeArguments.host, TreeArguments.options, documentOptions]
  simp only [Option.getD_some]
  cases Options.discover environment disk root with
  | error failed => simp [Except.map, Except.mapError]
  | ok found =>
    simp only [Except.map, Except.mapError, Except.ok.injEq, exists_eq_left']
    split
    · next failed =>
      refine iff_of_false (fun built => ?_) ?_
      · cases built
      · rintro ⟨rfl, made⟩
        cases failed.symm.trans made
    · next made =>
      constructor
      · rintro ⟨⟩
        exact ⟨rfl, made⟩
      · rintro ⟨rfl, again⟩
        cases made.symm.trans again
        rfl

/-- A command that is told of a root works with the options of the directory that the root leads to
as it is written, as long as the path of the document there is not too long, and with the defaults
otherwise. These are the options of the directory that the host stands in if the root leads there
without being expanded; and it does if there is nothing to expand in it. -/
theorem options_of_root (tree : disk.IsTree)
    (built : TreeArguments.host environment disk { root := some root } =
      .ok (options, host, directory)) :
    (∀ place, disk.directoryAt? root = some place → Disk.Fits root optionsFilename →
      options.AreOf disk place) ∧
    (disk.directoryAt? root = none ∨ ¬Disk.Fits root optionsFilename → options = { root }) ∧
    (Expansion.IsPlain root.text.toList → Disk.Fits root optionsFilename →
      options.AreOf disk directory.place) := by
  obtain ⟨found, discovered, rfl, made⟩ := host_of_root_eq_ok_iff.1 built
  have written (place : Disk.Place) (there : disk.directoryAt? root = some place)
      (fits : Disk.Fits root optionsFilename) : { found with root }.AreOf disk place :=
    (Options.areOf_of_discover discovered there fits).withRoot root
  refine ⟨written, fun unfound => ?_, fun plain => written _ ?_⟩
  · rw [Options.discover_eq_ok_of_unfound unfound] at discovered
    rw [← Except.ok.inj discovered]
  · obtain ⟨-, again, expanded, there⟩ := Options.host_eq_ok_iff.1 made
    rw [Options.expandRoot_of_isPlain plain] at expanded
    obtain rfl := Except.ok.inj expanded
    obtain ⟨-, led, -⟩ := Directory.of_at? tree there
    have filled := (Disk.fault?_eq_none_iff.1 (Disk.findWith_eq_ok_iff.1 led).1).1
    exact Disk.directoryAt?_eq_some_iff.2 (.inr ⟨filled, led⟩)

/-- A directory with a document that names a model type. -/
def modelDisk : Disk where
  entries := ⟨[(["v"], .directory),
    (["v", optionsFilename], .file (Text.Utf8.encode "default_model='P'".toList))], by decide⟩

/-- Told of the directory itself, a command works with the options in its document. Told of it by a
variable, the command works with the defaults, over the same directory. -/
theorem options_of_root_in_variable :
    let environment : Environment := { bindings := [("V", "v")] }
    let directory : Directory := ⟨modelDisk, ["v"]⟩
    let told : Options := { root := ⟨"v"⟩, defaultModel := "P" }
    let untold : Options := { root := ⟨"$V"⟩ }
    TreeArguments.host environment modelDisk { root := some ⟨"v"⟩ } =
        .ok (told, told.hostOver directory, directory) ∧
      told.AreOf modelDisk ["v"] ∧
      TreeArguments.host environment modelDisk { root := some ⟨"$V"⟩ } =
        .ok (untold, untold.hostOver directory, directory) ∧
      modelDisk.directoryAt? ⟨"$V"⟩ = none ∧ ¬untold.AreOf modelDisk ["v"] := by
  intro environment directory told untold
  have tree : modelDisk.IsTree := by decide +kernel
  have there : Directory.at? modelDisk ⟨"v"⟩ = .ok directory :=
    Directory.at?_eq_ok_iff.2 ⟨rfl, by decide +kernel, by decide +kernel⟩
  have held : Options.ofText? "default_model='P'".toList = some { defaultModel := "P" } := by
    decide +kernel
  have loaded : Options.load environment modelDisk ⟨"v/cascade.toml"⟩ =
      .ok { root := ⟨"v/."⟩, defaultModel := "P" } :=
    Options.load_eq_ok_iff.2
      ⟨_, _, ⟨"."⟩, by decide +kernel, held, by decide +kernel, by decide +kernel⟩
  have document : (⟨"v"⟩ : Path).join ⟨optionsFilename⟩ = ⟨"v/cascade.toml"⟩ := by decide +kernel
  have found : Options.discover environment modelDisk ⟨"v"⟩ =
      .ok { root := ⟨"v/."⟩, defaultModel := "P" } := by
    rw [Options.discover, document, if_pos (by decide +kernel), loaded]
  have first : TreeArguments.host environment modelDisk { root := some ⟨"v"⟩ } =
      .ok (told, told.hostOver directory, directory) :=
    host_of_root_eq_ok_iff.2
      ⟨_, found, rfl, Options.host_eq_ok_iff.2 ⟨rfl, ⟨"v"⟩, by decide +kernel, there⟩⟩
  have nowhere : modelDisk.directoryAt? ⟨"$V"⟩ = none := by decide +kernel
  have second : TreeArguments.host environment modelDisk { root := some ⟨"$V"⟩ } =
      .ok (untold, untold.hostOver directory, directory) :=
    host_of_root_eq_ok_iff.2
      ⟨untold, Options.discover_eq_ok_of_unfound (.inl nowhere), rfl,
        Options.host_eq_ok_iff.2 ⟨rfl, ⟨"v"⟩, by decide +kernel, there⟩⟩
  refine ⟨first, (options_of_root tree first).2.2 ⟨by decide, by decide⟩ (by decide), second,
    nowhere, fun areOf => ?_⟩
  -- The document is read in one way only, and does not leave the model type to the defaults.
  have standing : modelDisk.entryAt (["v"] ++ [optionsFilename]) =
      some (.file (Text.Utf8.encode "default_model='P'".toList)) := by decide +kernel
  have decodes : Text.Utf8.decode? (Text.Utf8.encode "default_model='P'".toList) =
      some "default_model='P'".toList := by decide +kernel
  obtain ⟨text, entries, read, decoded, parsed, set, same, -⟩ := areOf.written standing
  obtain rfl := Option.some.inj (decodes.symm.trans decoded)
  rw [Options.ofText?, parsed] at held
  obtain rfl := Option.some.inj (held.symm.trans set)
  exact absurd (congrArg Options.defaultModel same) (by decide)

end TemplateTree.CommandLine.TreeArguments
