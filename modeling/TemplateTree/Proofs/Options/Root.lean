import TemplateTree.Options
import TemplateTree.Proofs.Options.Expansion
import TemplateTree.Proofs.Storage.Trees

/-!
# The root in a document

Where the host stands whose options have been loaded. The root in the document is expanded when it
is loaded, and what it has been joined to is expanded again when the host is built. Main statement:
`host_of_load`, by which the second expansion must lead where the first has led, and does so if
neither the path of the document nor the expanded root leaves anything to expand.
-/

namespace TemplateTree.Options

variable {environment : Environment} {disk : Disk} {document : Path} {options : Options}

/-- A root as it is meant in a document: relative to the directory of the document. -/
def rootFrom (document root : Path) : Path :=
  if root.isAbsolute then root else (document.parent?.getD ⟨""⟩).join root

/-- The host with these options over a directory. -/
def hostOver (options : Options) (directory : Directory) : Host where
  defaults := options.defaults
  root := directory.root
  directiveFilename := options.directiveFilename

/-- Options are loaded from a document that can be read, that holds options, and whose root can be
expanded. -/
theorem load_eq_ok_iff :
    load environment disk document = .ok options ↔
      ∃ text written expanded, readDocument disk document = .ok text ∧
        ofText? text = some written ∧ expandRoot environment written.root = .ok expanded ∧
        options = { written with root := rootFrom document expanded } := by
  rw [load]
  split
  · next failed => simp [failed]
  · next text read =>
    split
    · next refused => simp [read, refused]
    · next written held =>
      split
      · next failed => simp [read, held, failed]
      · next expanded led =>
        simp only [read, held, led, Except.ok.injEq, Option.some.injEq, exists_and_left,
          exists_eq_left']
        split
        · next directory above =>
          simp only [rootFrom, above, Option.getD_some, Except.ok.injEq, eq_comm]
        · next top =>
          have bare : (⟨""⟩ : Path).join expanded = expanded := by simp [Path.join]
          simp only [rootFrom, top, Option.getD_none, bare, ite_self, Except.ok.injEq, eq_comm]

/-- A host is built if the root, expanded, leads to a directory, and stands there. -/
theorem host_eq_ok_iff {directory : Directory} {host : Host} :
    options.host environment disk = .ok (host, directory) ↔
      host = options.hostOver directory ∧ ∃ root, expandRoot environment options.root = .ok root ∧
        Directory.at? disk root = .ok directory := by
  rw [Options.host]
  split
  · next failed => simp [failed]
  · next root led =>
    split
    · next failed => simp [led, failed]
    · next found there =>
      simp only [led, Except.ok.injEq, Prod.mk.injEq, exists_eq_left', there]
      constructor
      · rintro ⟨rfl, rfl⟩
        exact ⟨rfl, rfl⟩
      · rintro ⟨rfl, rfl⟩
        exact ⟨rfl, rfl⟩

/-- Where there is nothing to expand in the path of a document, nor in a root, there is nothing in
the root as it is meant there. -/
theorem isPlain_rootFrom {root : Path} (plain : Expansion.IsPlain document.text.toList)
    (settled : Expansion.IsPlain root.text.toList) :
    Expansion.IsPlain (rootFrom document root).text.toList := by
  have base : Expansion.IsPlain (document.parent?.getD ⟨""⟩).text.toList := by
    cases above : document.parent? with
    | none => exact plain.of_prefix List.nil_prefix
    | some directory => exact plain.of_prefix (Path.prefix_of_parent? above)
  have slash : Expansion.IsPlain ['/'] := ⟨by decide, by decide⟩
  rw [rootFrom, Path.join]
  split
  · exact settled
  · split
    · rw [String.toList_append]
      exact base.append settled
    · rw [String.toList_append, String.toList_append]
      exact (base.append slash).append settled

theorem expandRoot_of_isPlain {root : Path} (plain : Expansion.IsPlain root.text.toList) :
    expandRoot environment root = .ok root := by
  simp only [expandRoot, plain.expand_eq, String.ofList_toList]

/-- Options that are loaded are those of the document, but for the root, which is the one written
there, expanded and taken from the directory of the document. If that is a directory, the host with
these options is built over it exactly if expanding the root once more leads to the same directory.
This is so if there is nothing to expand, neither in the path of the document nor in what the root
written there was expanded to. -/
theorem host_of_load (loaded : load environment disk document = .ok options) :
    ∃ text written expanded, readDocument disk document = .ok text ∧
      ofText? text = some written ∧ expandRoot environment written.root = .ok expanded ∧
      options = { written with root := rootFrom document expanded } ∧
      ∀ directory, Directory.at? disk (rootFrom document expanded) = .ok directory →
        (options.host environment disk = .ok (options.hostOver directory, directory) ↔
          ∃ again, expandRoot environment (rootFrom document expanded) = .ok again ∧
            Directory.at? disk again = .ok directory) ∧
        (Expansion.IsPlain document.text.toList → Expansion.IsPlain expanded.text.toList →
          options.host environment disk = .ok (options.hostOver directory, directory)) := by
  obtain ⟨text, written, expanded, read, held, led, same⟩ := load_eq_ok_iff.1 loaded
  refine ⟨text, written, expanded, read, held, led, same, fun directory there => ?_⟩
  have built : options.host environment disk = .ok (options.hostOver directory, directory) ↔
      ∃ again, expandRoot environment (rootFrom document expanded) = .ok again ∧
        Directory.at? disk again = .ok directory := by
    rw [host_eq_ok_iff, same, and_iff_right rfl]
  refine ⟨built, fun plain settled => built.2 ⟨_, ?_, there⟩⟩
  exact expandRoot_of_isPlain (isPlain_rootFrom plain settled)

/-- Two directories with the same document, which names a directory beside it as the root. There is
something to expand in the name of the first. -/
def twinDisk : Disk where
  entries := ⟨[(["a$b"], .directory), (["a$b", "v"], .directory), (["c"], .directory),
    (["c", "v"], .directory),
    (["a$b", optionsFilename], .file (Text.Utf8.encode "root='v'".toList)),
    (["c", optionsFilename], .file (Text.Utf8.encode "root='v'".toList))], by decide⟩

/-- From the first directory no host is built over the one that the document names, because its
root is expanded again; from the second one is. -/
theorem host_of_load_in_twins :
    let first : Options := { root := ⟨"a$b/v"⟩ }
    let second : Options := { root := ⟨"c/v"⟩ }
    load {} twinDisk ⟨"a$b/cascade.toml"⟩ = .ok first ∧
      Directory.at? twinDisk first.root = .ok ⟨twinDisk, ["a$b", "v"]⟩ ∧
      first.host {} twinDisk ≠
        .ok (first.hostOver ⟨twinDisk, ["a$b", "v"]⟩, ⟨twinDisk, ["a$b", "v"]⟩) ∧
      load {} twinDisk ⟨"c/cascade.toml"⟩ = .ok second ∧
      second.host {} twinDisk =
        .ok (second.hostOver ⟨twinDisk, ["c", "v"]⟩, ⟨twinDisk, ["c", "v"]⟩) := by
  intro first second
  have held : ofText? "root='v'".toList = some { root := ⟨"v"⟩ } := by decide +kernel
  have led : expandRoot {} ⟨"v"⟩ = .ok ⟨"v"⟩ := by decide +kernel
  have loaded : load {} twinDisk ⟨"a$b/cascade.toml"⟩ = .ok first :=
    load_eq_ok_iff.2 ⟨_, _, _, by decide +kernel, held, led, by decide +kernel⟩
  have read : readDocument twinDisk ⟨"c/cascade.toml"⟩ = .ok "root='v'".toList := by decide +kernel
  have plainLoaded : load {} twinDisk ⟨"c/cascade.toml"⟩ = .ok second :=
    load_eq_ok_iff.2 ⟨_, _, _, read, held, led, by decide +kernel⟩
  have there : Directory.at? twinDisk first.root = .ok ⟨twinDisk, ["a$b", "v"]⟩ :=
    Directory.at?_eq_ok_iff.2 ⟨rfl, by decide +kernel, by decide +kernel⟩
  have plainThere : Directory.at? twinDisk second.root = .ok ⟨twinDisk, ["c", "v"]⟩ :=
    Directory.at?_eq_ok_iff.2 ⟨rfl, by decide +kernel, by decide +kernel⟩
  refine ⟨loaded, there, fun built => ?_, plainLoaded, ?_⟩
  · obtain ⟨_, _, expanded, _, _, _, same, stands⟩ := host_of_load loaded
    have meant : first.root = rootFrom _ expanded := congrArg Options.root same
    obtain ⟨again, repeated, -⟩ := (stands _ (meant ▸ there)).1.1 built
    have refused : expandRoot {} first.root = .error (.unexpanded first.root ⟨"b"⟩) := by
      decide +kernel
    rw [← meant, refused] at repeated
    cases repeated
  · obtain ⟨text, written, expanded, readAgain, heldAgain, ledAgain, same, stands⟩ :=
      host_of_load plainLoaded
    obtain rfl := Except.ok.inj (read.symm.trans readAgain)
    obtain rfl := Option.some.inj (held.symm.trans heldAgain)
    obtain rfl := Except.ok.inj (led.symm.trans ledAgain)
    exact (stands _ plainThere).2 ⟨by decide, by decide⟩ ⟨by decide, by decide⟩

end TemplateTree.Options
