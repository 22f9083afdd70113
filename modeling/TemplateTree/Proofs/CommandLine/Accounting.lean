import TemplateTree.CommandLine.Compilation
import TemplateTree.Proofs.CommandLine.Emissions
import TemplateTree.Proofs.CommandLine.Preparation
import TemplateTree.Proofs.Options.Root

/-!
# The account of a compilation

What a compilation that succeeds says of itself, told from the results of its templates: how many of
them are used, and which files there are afterwards. Main statement: `run_accounted`.
-/

namespace TemplateTree

/-- The class generated from a template of the storage has the name made from a normal path. -/
theorem Host.View.exists_className {view : View} {host : Host} {path : Path} {code : Code}
    (compiled : view.compileFile host path = .ok code) :
    ∃ relative, code.className = host.className relative := by
  rw [compileFile] at compiled
  split at compiled
  · cases compiled
  · next relative _ =>
    refine ⟨relative, ?_⟩
    cases configured : view.configuration host relative with
    | error error => cases (code_eq_error_iff.2 configured).symm.trans compiled
    | ok configuration =>
      obtain ⟨template, -, generated⟩ := code_of_configuration configured
      obtain rfl := Except.ok.inj (generated.symm.trans compiled)
      rfl

theorem Host.map_fst_compileBatch {Store Agenda : Type} [Storage Store] (host : Host)
    {interrupt : Interrupt Store Agenda} {workspace : Workspace Store Agenda}
    (idle : interrupt.Idle workspace.agenda) (schedule : List Nat) (paths : List Path) :
    (host.compileBatch interrupt schedule paths workspace).1.map Prod.fst = paths := by
  rw [(host.compileBatch_alone idle schedule paths).1, List.map_map]
  exact List.map_id _

namespace CommandLine

open Emission

/-- The account of a compilation tells what became of its templates. -/
structure Summary.Accounts (out : Option Path) (results : List (Path × Except CompileError Code))
    (summary : Summary) (after : Disk) : Prop where
  total : summary.compiled + summary.failed = results.length
  compiled : summary.compiled = (used results).length
  written : summary.written =
    match out with
    | none => []
    | some directory => (used results).map fun code => target directory code.className
  nodup : summary.written.Nodup
  content : ∀ directory, out = some directory → ∀ code ∈ used results,
    after.stream (Emission.target directory code.className) =
      .ok ⟨code.source.toUTF8.toList, none⟩
  others : ∀ directory, out = some directory → ∃ place, after.directoryAt? directory = some place ∧
    ∀ below entry, below ≠ [] → entry ≠ .directory →
      (after.entryAt (place ++ below) = some entry ↔
        ∃ code ∈ used results, below = [fileName code.className] ∧ entry = fileOf code)

namespace Summary

variable {results : List (Path × Except CompileError Code)} {final : Emission} {prepared : Disk}

/-- The counts are those of the code that is used. -/
theorem ofVerdicts_judge (results : List (Path × Except CompileError Code)) (written : List Path) :
    (ofVerdicts (Verdict.judge [] results) written).compiled = (used results).length ∧
      (ofVerdicts (Verdict.judge [] results) written).compiled +
        (ofVerdicts (Verdict.judge [] results) written).failed = results.length := by
  constructor
  · rw [ofVerdicts, ← codes_judge, length_codes]
  · rw [ofVerdicts, countP_add_countP, ← List.length_map Prod.fst, Verdict.map_fst_judge,
      List.length_map]

/-- An emission that prints the code writes nothing. -/
theorem accounts_of_printed
    (ran : Emission.run none { disk := prepared } (Verdict.judge [] results) = (.ok (), final)) :
    (ofVerdicts (Verdict.judge [] results) final.written).Accounts none results final.disk := by
  obtain ⟨-, written⟩ := run_none_of_ok ran
  obtain ⟨compiled, total⟩ := ofVerdicts_judge results final.written
  exact {
    total := total
    compiled := compiled
    written := written
    nodup := by
      rw [ofVerdicts, written]
      exact List.nodup_nil
    content := nofun
    others := nofun }

/-- An emission into a directory without files gives each class that is used its file there. -/
theorem accounts_of_emitted {out : Path} {place : Disk.Place}
    (there : prepared.directoryAt? out = some place)
    (free : ∀ below, below ≠ [] → IsFree prepared (place ++ below))
    (plain : ∀ code ∈ used results, IsClassName code.className)
    (ran : Emission.run (some out) { disk := prepared } (Verdict.judge [] results) =
      (.ok (), final)) :
    (ofVerdicts (Verdict.judge [] results) final.written).Accounts (some out) results
      final.disk := by
  have distinct := nodup_classNames_used results
  have judged := codes_judge results
  obtain ⟨after, written, all⟩ := run_of_ok there (by rwa [judged]) (by rwa [judged])
    (fun code _ => free [fileName code.className] (List.cons_ne_nil _ _)) ran
  rw [judged] at after written all
  obtain ⟨compiled, total⟩ := ofVerdicts_judge results final.written
  have grown : prepared.Grown final.disk := after ▸ grown_emitted fun code member =>
    (all code member).2
  have present (code) (member : code ∈ used results) :
      final.disk.entryAt (place ++ [fileName code.className]) = some (fileOf code) :=
    after ▸ entryAt_emitted_of_mem distinct member
  exact {
    total := total
    compiled := compiled
    written := written
    nodup := by
      rw [List.Nodup, List.pairwise_map] at distinct
      rw [ofVerdicts, written, List.nil_append, List.Nodup, List.pairwise_map]
      exact distinct.imp_of_mem fun first second different same =>
        different ((target_inj (plain _ first) (plain _ second)).1 same)
    content := by
      intro directory given code member
      obtain rfl := Option.some.inj given
      have found := Disk.find_join_name (grown.directoryAt? there)
        (isName_fileName (plain code member)) (clean_fileName (plain code member))
        fun target link => nomatch (present code member).symm.trans link
      rw [if_pos (all code member).1, Disk.standing, present code member] at found
      change final.disk.stream (out.join ⟨fileName code.className⟩) = _
      rw [Disk.stream, found]
      rfl
    others := by
      intro directory given
      obtain rfl := Option.some.inj given
      refine ⟨place, grown.directoryAt? there, fun below entry under other => ?_⟩
      constructor
      · intro standing
        by_contra absent
        -- What is no file of a class stood there before, and so is a directory.
        have elsewhere (code) (member : code ∈ used results) :
            place ++ below ≠ place ++ [fileName code.className] := by
          intro same
          rw [same, present code member] at standing
          exact absent ⟨code, member, List.append_cancel_left same, (Option.some.inj standing).symm⟩
        rw [after, entryAt_emitted_of_ne elsewhere] at standing
        exact other (free below under entry standing)
      · rintro ⟨code, member, rfl, rfl⟩
        exact present code member }

end Summary

/-- Whether the directory for the code is empty or not there: nothing stands below the place that
its path leads to once the directory has been made. -/
def IsClear (out : Option Path) (disk : Disk) : Prop :=
  ∀ directory prepared place, out = some directory → disk.makeDirectories directory = .ok prepared →
    prepared.directoryAt? directory = some place →
      ∀ below, below ≠ [] → disk.entryAt (place ++ below) = none

/-- A place where nothing stands is clear, if nothing stands below it either. -/
theorem isClear_of_vacant {out : Path} {disk : Disk} {place : Disk.Place}
    (vacant : disk.find out = .ok (.vacant place))
    (empty : ∀ below, below ≠ [] → disk.entryAt (place ++ below) = none) :
    IsClear (some out) disk := by
  intro directory prepared other given made leads
  obtain rfl := Option.some.inj given
  obtain ⟨more, -⟩ := Disk.of_makeDirectories made
  obtain rfl := more.directoryAt?_of_vacant vacant leads
  exact empty

namespace Compilation

variable {environment : Environment} {disk : Disk} {arguments : CompileArguments}
variable {schedule : List Nat} {summary : Summary} {emission : Emission}

/-- The host of a command makes class names from paths in the usual way. -/
theorem className_of_host {options : Options} {host : Host} {directory : Directory}
    (described : arguments.tree.host environment disk = .ok (options, host, directory)) :
    host.className = Path.className := by
  rw [TreeArguments.host] at described
  split at described
  · cases described
  · split at described
    · cases described
    · next made =>
      obtain ⟨rfl, rfl, rfl⟩ := Except.ok.inj described
      rw [(Options.host_eq_ok_iff.1 made).1]
      rfl

/-- The classes that a command generates have names that a class can have. -/
theorem isClassName_of_mem {options : Options} {host : Host} {directory : Directory}
    (described : arguments.tree.host environment disk = .ok (options, host, directory))
    {tree : Directory} {paths : List Path} {code : Code}
    (member : code ∈ used (host.compileBatch .none schedule paths (.ofDirectory tree)).1) :
    IsClassName code.className := by
  obtain ⟨path, member⟩ := exists_mem_of_mem_used member
  rw [(host.compileBatch_alone (Interrupt.idle_none ()) schedule paths).1] at member
  obtain ⟨template, -, compiled⟩ := List.mem_map.1 member
  obtain ⟨relative, named⟩ := Host.View.exists_className (congrArg Prod.snd compiled)
  rw [named, className_of_host described]
  exact isClassName_className relative

/-- Code that is emitted is accounted for, if it is printed or goes into a directory without files.
-/
theorem emit_accounted {host : Host} {directory : Directory} {templates : List Path}
    {prepared : Disk}
    (plain : ∀ code ∈ used (host.compileBatch .none schedule templates
      (Workspace.ofDirectory { directory with disk := prepared })).1, IsClassName code.className)
    (free : ∀ out, arguments.out = some out → ∃ place, prepared.directoryAt? out = some place ∧
      ∀ below, below ≠ [] → IsFree prepared (place ++ below))
    (emitted : emit schedule arguments host directory templates prepared =
      (.ok summary, emission)) :
    summary.Accounts arguments.out (host.compileBatch .none schedule templates
      (Workspace.ofDirectory { directory with disk := prepared })).1 emission.disk := by
  rw [emit] at emitted
  dsimp only at emitted
  split at emitted
  · cases emitted
  · next final ran =>
    obtain ⟨rfl, rfl⟩ : _ = summary ∧ _ = emission := by simpa using emitted
    cases out : arguments.out with
    | none =>
      rw [out] at ran
      exact Summary.accounts_of_printed ran
    | some directory =>
      rw [out] at ran
      obtain ⟨place, there, free⟩ := free directory out
      exact Summary.accounts_of_emitted there free plain ran

/-- A compilation that prints its code succeeds, and is accounted for whatever the code is. -/
theorem exists_run_of_printed {options : Options} {host : Host} {directory : Directory}
    (described : arguments.tree.host environment disk = .ok (options, host, directory))
    (printing : arguments.out = none) (schedule : List Nat) :
    ∃ printed after, run schedule environment disk arguments = (.ok printed, after) ∧
      printed.Accounts none (host.compileBatch .none schedule
        (templates arguments options directory)
        (Workspace.ofDirectory { directory with disk })).1 after.disk := by
  have prepared : prepare arguments.out disk = .ok disk := by rw [printing, prepare]
  rw [run, described]
  dsimp only
  rw [prepared]
  dsimp only [emit]
  obtain ⟨final, ran⟩ := exists_run_none { disk } (Verdict.judge [] (host.compileBatch .none schedule
    (templates arguments options directory) (Workspace.ofDirectory { directory with disk })).1)
  rw [printing, ran]
  exact ⟨_, _, rfl, Summary.accounts_of_printed ran⟩

/-- Before code is written its directory is made. -/
theorem makeDirectories_of_prepare {out : Path} {prepared : Disk}
    (made : prepare (some out) disk = .ok prepared) :
    disk.makeDirectories out = .ok prepared := by
  rw [prepare] at made
  cases result : disk.makeDirectories out with
  | error error =>
    rw [result] at made
    cases made
  | ok disk =>
    rw [result] at made
    exact congrArg _ (Except.ok.inj made)

/-- Only directories are added before code is written. -/
theorem moreDirectories_of_prepare {out : Option Path} {prepared : Disk}
    (made : prepare out disk = .ok prepared) : disk.MoreDirectories prepared := by
  cases out with
  | none =>
    obtain rfl := Except.ok.inj made
    exact .refl disk
  | some out => exact (Disk.of_makeDirectories (makeDirectories_of_prepare made)).1

/-- No file stands below the directory for the code when it has been made, if it was clear. -/
theorem exists_free_of_isClear {out : Path} {prepared : Disk} (clear : IsClear (some out) disk)
    (made : prepare (some out) disk = .ok prepared) :
    ∃ place, prepared.directoryAt? out = some place ∧
      ∀ below, below ≠ [] → IsFree prepared (place ++ below) := by
  have made := makeDirectories_of_prepare made
  obtain ⟨more, place, there⟩ := Disk.of_makeDirectories made
  refine ⟨place, there, fun below under entry standing => ?_⟩
  refine (more.added standing).resolve_left fun before => ?_
  cases before.symm.trans (clear out prepared place rfl made there below under)

/-- A compilation that succeeds gives a right account of its templates, if its code goes into a
directory that is empty or not there. One that prints the code succeeds too and gives the same
account but for the files, unless making that directory has brought a file to light that the
compilation asks for. -/
theorem run_accounted (clear : IsClear arguments.out disk)
    (ran : run schedule environment disk arguments = (.ok summary, emission)) :
    ∃ options host directory prepared,
      arguments.tree.host environment disk = .ok (options, host, directory) ∧
      prepare arguments.out disk = .ok prepared ∧
      let templates := templates arguments options directory
      let before := { directory with disk }
      let after := { directory with disk := prepared }
      let results := (host.compileBatch .none schedule templates (.ofDirectory after)).1
      results.map Prod.fst = templates ∧
        summary.Accounts arguments.out results emission.disk ∧
        ∀ other, ∃ printed last,
          run other environment disk { arguments with out := none } = (.ok printed, last) ∧
            printed.Accounts none
              (host.compileBatch .none other templates (.ofDirectory before)).1 last.disk ∧
            printed.written = [] ∧ printed.total = summary.total ∧
            (host.Hides templates before after →
              printed.compiled = summary.compiled ∧ printed.failed = summary.failed) := by
  rw [run] at ran
  split at ran
  · cases ran
  · next options host directory described =>
    split at ran
    · cases ran
    · next prepared made =>
      have listed (schedule : List Nat) (tree : Directory) (paths : List Path) :
          (host.compileBatch .none schedule paths (.ofDirectory tree)).1.map Prod.fst = paths :=
        host.map_fst_compileBatch (Interrupt.idle_none ()) schedule paths
      have accounts := emit_accounted (fun code => isClassName_of_mem described)
        (fun out given => exists_free_of_isClear (given ▸ clear) (given ▸ made)) ran
      refine ⟨options, host, directory, prepared, described, made, listed .., accounts,
        fun other => ?_⟩
      have untouched : { arguments with out := none }.tree.host environment disk =
        .ok (options, host, directory) := described
      obtain ⟨printed, last, ran, silently⟩ := exists_run_of_printed untouched rfl other
      have same : printed.total = summary.total := by
        rw [Summary.total, Summary.total, silently.total, accounts.total,
          ← List.length_map Prod.fst, ← List.length_map Prod.fst, listed, listed]
        rfl
      refine ⟨printed, last, ran, silently, silently.written, same, fun hides => ?_⟩
      have alike := used_compileBatch_eq (moreDirectories_of_prepare made) hides schedule other
      have compiled : printed.compiled = summary.compiled :=
        silently.compiled.trans ((congrArg _ alike.symm).trans accounts.compiled.symm)
      rw [Summary.total, Summary.total, compiled] at same
      exact ⟨compiled, Nat.add_left_cancel same⟩

/-- Of three templates for the same class the first cannot be compiled, so that the second is used.
-/
theorem run_accounted_while_colliding :
    let disk : Disk :=
      { entries := (((Table.empty.insert ["views"] .directory).insert ["views", "a.x.tmpl"]
          (.file "@model\n".toUTF8.toList)).insert ["views", "a-x.tmpl"]
          (.file "one".toUTF8.toList)).insert ["views", "a_x.tmpl"] (.file "two".toUTF8.toList) }
    let arguments : CompileArguments :=
      { paths := [⟨"a.x.tmpl"⟩, ⟨"a-x.tmpl"⟩, ⟨"a_x.tmpl"⟩]
        tree := { root := some ⟨"/views"⟩ }
        out := some ⟨"/out"⟩ }
    let schedule := [2, 0, 1, 2, 2]
    let summary : Summary := ⟨1, 2, [⟨"/out/a_x_tmpl.gen"⟩]⟩
    ∃ emission, IsClear arguments.out disk ∧
      run schedule {} disk arguments = (.ok summary, emission) ∧
        ∃ options host directory prepared,
          arguments.tree.host {} disk = .ok (options, host, directory) ∧
          prepare arguments.out disk = .ok prepared ∧
          let templates := templates arguments options directory
          let before := { directory with disk }
          let after := { directory with disk := prepared }
          let results := (host.compileBatch .none schedule templates (.ofDirectory after)).1
          results.map Prod.fst = templates ∧
            summary.Accounts arguments.out results emission.disk ∧
            ∀ other, ∃ printed last,
              run other {} disk { arguments with out := none } = (.ok printed, last) ∧
                printed.Accounts none
                  (host.compileBatch .none other templates (.ofDirectory before)).1 last.disk ∧
                printed.written = [] ∧ printed.total = summary.total ∧
                printed.compiled = summary.compiled ∧ printed.failed = summary.failed := by
  intro disk arguments schedule summary
  have compiled : (run schedule {} disk arguments).1.toOption = some summary := by decide +kernel
  have clear : IsClear arguments.out disk := by
    have vacant : disk.find ⟨"/out"⟩ = .ok (.vacant ["out"]) := rfl
    refine isClear_of_vacant vacant fun below under => ?_
    simp [Disk.entryAt, disk, Table.get?_insert]
  rcases ran : run schedule {} disk arguments with ⟨_ | made, emission⟩
  · rw [ran] at compiled
    cases compiled
  · rw [ran] at compiled
    obtain rfl : made = summary := Option.some.inj compiled
    refine ⟨emission, clear, rfl, ?_⟩
    obtain ⟨options, host, directory, prepared, described, prepares, listed, accounts, others⟩ :=
      run_accounted clear ran
    have tree : (arguments.tree.host {} disk).toOption.map (fun found =>
        (found.2.1.root, found.2.1.directiveFilename, found.2.2.place)) =
          some (⟨"/views"⟩, "_imports.tmpl", ["views"]) := by decide +kernel
    rw [described] at tree
    obtain ⟨root, directiveFilename, place⟩ :
        host.root = ⟨"/views"⟩ ∧ host.directiveFilename = "_imports.tmpl" ∧
          directory.place = ["views"] := by simpa [Except.toOption] using tree
    obtain rfl : disk.put ["out"] .directory = prepared := Except.ok.inj prepares
    have hides : host.Hides arguments.paths { directory with disk }
        { directory with disk := disk.put ["out"] .directory } := by
      rw [Host.Hides, place]
      simp only [Host.asked, root, directiveFilename]
      decide +kernel
    refine ⟨options, host, directory, _, described, prepares, listed, accounts, fun other => ?_⟩
    obtain ⟨printed, last, silent, counted, written, total, alike⟩ := others other
    exact ⟨printed, last, silent, counted, written, total, alike hides⟩

/-- Through a link that leads through the directory for the code, a template is found only once that
directory has been made. -/
theorem counts_differ_behind_link :
    let disk : Disk :=
      { entries := (((Table.empty.insert ["views"] .directory).insert ["views", "link"]
          (.link "../newout/../real")).insert ["real"] .directory).insert ["real", "page.tmpl"]
          (.file "x".toUTF8.toList) }
    let arguments : CompileArguments :=
      { paths := [⟨"link/page.tmpl"⟩]
        tree := { root := some ⟨"/views"⟩ }
        out := some ⟨"/newout"⟩ }
    IsClear arguments.out disk ∧
      (run [] {} disk arguments).1.toOption = some ⟨1, 0, [⟨"/newout/link_page_tmpl.gen"⟩]⟩ ∧
      (run [] {} disk { arguments with out := none }).1.toOption = some ⟨0, 1, []⟩ := by
  intro disk arguments
  refine ⟨?_, by decide +kernel, by decide +kernel⟩
  have vacant : disk.find ⟨"/newout"⟩ = .ok (.vacant ["newout"]) := rfl
  refine isClear_of_vacant vacant fun below under => ?_
  simp [Disk.entryAt, disk, Table.get?_insert]

end Compilation

end CommandLine

end TemplateTree
