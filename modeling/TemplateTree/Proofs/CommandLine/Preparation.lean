import TemplateTree.Options
import TemplateTree.Proofs.CommandLine.Verdicts
import TemplateTree.Proofs.Host.Alone
import TemplateTree.Proofs.Storage.Growth

/-!
# Trees beside new directories

Before code is written the directory for it is made, possibly along with others, and the templates
are compiled from a disk that has these directories. That changes nothing in a tree in which no file
can be found that could not be found before. Links may lead through the new directories to such
files. Main statement: `used_compileBatch_eq`.
-/

namespace TemplateTree

/-- Where the compilation of the template at a path asks for files: at its own place, and where
directive files may apply to it. -/
def Host.asked (host : Host) (path : Path) : List Path :=
  match Path.normalize host.root path with
  | .error _ => []
  | .ok relative => relative :: Resolver.candidates host.directiveFilename relative

/-- One storage shows no file that another hides, wherever the compilation of these templates asks
for one. -/
def Host.Hides {Store : Type} [Storage Store] (host : Host) (templates : List Path)
    (before after : Store) : Prop :=
  ∀ template ∈ templates, ∀ place ∈ host.asked template,
    Storage.stamp before place = .ok none → Storage.stamp after place = .ok none

namespace CommandLine

variable {before after : Disk} {root : Disk.Place} {path : Path} {templates : List Path}

/-- Nothing has been kept yet when a tree is taken up, so that a lookup is answered by the disk. -/
theorem answer_ofDirectory (directory : Directory) (number : Nat) (path : Path) :
    (Workspace.ofDirectory directory).answer number path =
      Cache.answer path (Storage.stamp directory path) (Storage.content directory path) none := by
  have nothing : ((Workspace.ofDirectory directory).cache number).find? path = none := by
    simp [Workspace.ofDirectory, Workspace.cache, Cache.empty, Cache.find?, Table.get?, Table.empty]
  rw [Workspace.answer, nothing]
  rfl

/-- A lookup is answered as before, unless a file has come to light. -/
theorem answer_ofDirectory_eq (more : before.MoreDirectories after)
    (hidden : Storage.stamp (Directory.mk before root) path = .ok none →
      Storage.stamp (Directory.mk after root) path = .ok none) (number : Nat) :
    (Workspace.ofDirectory ⟨after, root⟩).answer number path =
      (Workspace.ofDirectory ⟨before, root⟩).answer number path := by
  have stamps : Storage.stamp (Directory.mk after root) path =
      Storage.stamp (Directory.mk before root) path := more.stamp_eq hidden
  rw [answer_ofDirectory, answer_ofDirectory, stamps]
  match stamped : Storage.stamp (Directory.mk before root) path with
  | .error error | .ok none => simp only [Cache.answer]
  | .ok (some stamp) =>
    have streams : Storage.stream (Directory.mk after root) path =
        Storage.stream (Directory.mk before root) path := more.stream_eq stamped
    rw [Storage.content, Storage.content, streams]

/-- A template without a stamp has no flawless code. -/
theorem flawless?_code_of_unstamped {host : Host} {directory : Directory} {relative : Path}
    (bare : ¬ ∃ stamp, Storage.stamp directory relative = .ok (some stamp)) :
    flawless? ((host.view (Workspace.ofDirectory directory)).code host relative) = none := by
  cases read : (host.view (Workspace.ofDirectory directory)).template relative with
  | error error =>
    rw [Host.View.code, read]
    rfl
  | ok template =>
    obtain ⟨source, bytes, -, opened, content, -⟩ := Host.View.exists_of_template_eq_ok read
    exact absurd (Disk.exists_stamp_of_content opened content) bare

/-- A template has the flawless code that it had, unless a file has come to light. -/
theorem flawless?_compileFile_eq {host : Host} (more : before.MoreDirectories after)
    (hidden : ∀ place ∈ host.asked path, Storage.stamp (Directory.mk before root) place = .ok none →
      Storage.stamp (Directory.mk after root) place = .ok none) :
    flawless? ((host.view (Workspace.ofDirectory ⟨after, root⟩)).compileFile host path) =
      flawless? ((host.view (Workspace.ofDirectory ⟨before, root⟩)).compileFile host path) := by
  rw [Host.View.compileFile, Host.View.compileFile]
  cases normal : Path.normalize host.root path with
  | error rejection => rfl
  | ok relative =>
    rw [Host.asked, normal] at hidden
    obtain ⟨here, others⟩ := List.forall_mem_cons.1 hidden
    have stamps : Storage.stamp (Directory.mk after root) relative =
        Storage.stamp (Directory.mk before root) relative := more.stamp_eq here
    by_cases stamped : ∃ stamp, Storage.stamp (Directory.mk before root) relative = .ok (some stamp)
    · have agrees : Host.View.Agrees relative (host.view (Workspace.ofDirectory ⟨before, root⟩))
          (host.view (Workspace.ofDirectory ⟨after, root⟩)) := by
        refine ⟨rfl, rfl, more.stream_eq stamped.choose_spec, fun place member => ?_⟩
        rw [host.view_answer, host.view_answer]
        exact answer_ofDirectory_eq more (others place member) 0
      exact congrArg _ (agrees.code_eq (Path.isNormal_of_normalize normal) host)
    · exact (flawless?_code_of_unstamped (stamps.symm ▸ stamped)).trans
        (flawless?_code_of_unstamped stamped).symm

/-- The same code of a batch is used, in whatever order its members take their steps, unless a file
has come to light. -/
theorem used_compileBatch_eq {host : Host} (more : before.MoreDirectories after)
    (hides : host.Hides templates (Directory.mk before root) (Directory.mk after root))
    (schedule other : List Nat) :
    used (host.compileBatch .none schedule templates (Workspace.ofDirectory ⟨after, root⟩)).1 =
      used (host.compileBatch .none other templates (Workspace.ofDirectory ⟨before, root⟩)).1 := by
  rw [(host.compileBatch_alone (Interrupt.idle_none ()) schedule templates).1,
    (host.compileBatch_alone (Interrupt.idle_none ()) other templates).1]
  refine used_congr ?_
  rw [List.map_map, List.map_map]
  exact List.map_congr_left fun template member =>
    flawless?_compileFile_eq more (hides template member)

end CommandLine

end TemplateTree
