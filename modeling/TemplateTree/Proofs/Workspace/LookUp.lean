import TemplateTree.Proofs.Cache.Entries

/-!
# What a lookup comes to

Every course that a lookup can take, with its answer and the workspace it leaves: `LooksUp` has one
case for each, and `lookUp_courses` says that there is no other. Others may act once, when the file
is opened; whatever the cache held before that is tested against the content read after it.
-/

namespace TemplateTree

/-- Everything that a storage holds at a path. -/
def Storage.content {Store : Type} [Storage Store] (store : Store) (path : Path) :
    Except IoError (List UInt8) :=
  match stream store path with
  | .error error => .error error
  | .ok stream => stream.content

/-- What can be read of a file is what its stream holds, if that does not fail. -/
theorem Storage.stream_of_content {Store : Type} [Storage Store] {store : Store} {path : Path}
    {bytes : List UInt8} (read : content store path = .ok bytes) :
    stream store path = .ok ⟨bytes, none⟩ := by
  rw [content] at read
  split at read
  · cases read
  · next source opened =>
    obtain ⟨held, failure⟩ := source
    cases failure with
    | none =>
      obtain rfl : held = bytes := Except.ok.inj read
      exact opened
    | some error => cases read

namespace Workspace

variable {Store Agenda : Type}

/-- Taking content in finds that an earlier entry had it already, or that it is malformed, or else
keeps what its directives come to. -/
inductive TakesIn (number : Nat) (path : Path) (stamp : Stamp) (earlier : Option Cache.Entry)
    (content : List UInt8) (workspace : Workspace Store Agenda) :
    Except CompileError DirectiveFile → Workspace Store Agenda → Prop where
  | revalidated {entry} (held : earlier = some entry)
      (same : entry.file.contentHash = Digest.fingerprint content) :
      TakesIn number path stamp earlier content workspace
        (.ok ((workspace.cache number).kept path stamp entry.file))
        ((workspace.updateCache number Cache.countRevalidation).updateCache number
          (·.keep path stamp entry.file))
  | malformed {error}
      (other : ∀ entry, earlier = some entry →
        entry.file.contentHash ≠ Digest.fingerprint content)
      (read : DirectiveFile.directivesIn path content = .error error) :
      TakesIn number path stamp earlier content workspace (.error error)
        (workspace.updateCache number Cache.countMiss)
  | parsed {directives file}
      (other : ∀ entry, earlier = some entry →
        entry.file.contentHash ≠ Digest.fingerprint content)
      (read : DirectiveFile.directivesIn path content = .ok directives)
      (made : file = .ofDirectives path (Digest.fingerprint content) directives) :
      TakesIn number path stamp earlier content workspace
        (.ok ((workspace.cache number).kept path stamp file))
        (((workspace.updateCache number Cache.countMiss).warn
          (Directive.warnings path.text directives)).updateCache number (·.keep path stamp file))

/-- Counting does not change which file a cache answers with. -/
private theorem kept_updateCache {count : Cache → Cache}
    (counts : ∀ (cache : Cache) (path : Path), (count cache).find? path = cache.find? path)
    (workspace : Workspace Store Agenda) (number : Nat) (path : Path) (stamp : Stamp)
    (file : DirectiveFile) :
    ((workspace.updateCache number count).cache number).kept path stamp file =
      (workspace.cache number).kept path stamp file := by
  rw [Cache.kept, Cache.kept, find?_updateCache path (counts · path)]

/-- Taking content in takes one of these courses. -/
theorem takeIn_courses (number : Nat) (path : Path) (stamp : Stamp) (earlier : Option Cache.Entry)
    (content : List UInt8) (workspace : Workspace Store Agenda) :
    TakesIn number path stamp earlier content workspace
      (takeIn number path stamp earlier content workspace).1
      (takeIn number path stamp earlier content workspace).2 := by
  have same {entry : Cache.Entry} {fresh : Option Cache.Entry} (unequal : fresh = none)
      (there : fresh = earlier.filter fun entry =>
        entry.file.contentHash = Digest.fingerprint content) (held : earlier = some entry) :
      entry.file.contentHash ≠ Digest.fingerprint content := by
    rw [unequal, held, eq_comm, Option.filter_eq_none_iff] at there
    simpa using there entry rfl
  simp only [takeIn, keepFile]
  split
  · next entry unchanged =>
    obtain ⟨held, hash⟩ := Option.filter_eq_some_iff.1 unchanged
    rw [kept_updateCache Cache.find?_countRevalidation]
    exact .revalidated held (by simpa using hash)
  · next changed =>
    split
    · next error read => exact .malformed (fun _ held => same changed rfl held) read
    · next directives read =>
      have kept := kept_updateCache Cache.find?_countMiss workspace number path stamp
        (.ofDirectives path (Digest.fingerprint content) directives)
      change TakesIn number path stamp earlier content workspace
        (.ok (((workspace.updateCache number Cache.countMiss).cache number).kept path stamp
          (.ofDirectives path (Digest.fingerprint content) directives))) _
      rw [kept]
      exact .parsed (fun _ held => same changed rfl held) read rfl

variable [Storage Store]

/-- The courses of a lookup, by what the storage says of the file, what the cache holds, and what is
read while others act. -/
inductive LooksUp (interrupt : Interrupt Store Agenda) (number : Nat) (path : Path)
    (workspace : Workspace Store Agenda) :
    Except CompileError (Option DirectiveFile) → Workspace Store Agenda → Prop where
  | unanswered {error} (stamped : Storage.stamp workspace.storage path = .error error) :
      LooksUp interrupt number path workspace (.error (.storage path error)) workspace
  | absent (stamped : Storage.stamp workspace.storage path = .ok none) :
      LooksUp interrupt number path workspace (.ok none)
        (workspace.updateCache number (·.evict path))
  | hit {entry} (stamped : Storage.stamp workspace.storage path = .ok (some entry.stamp))
      (held : (workspace.cache number).find? path = some entry) :
      LooksUp interrupt number path workspace (.ok (some entry.file))
        (workspace.updateCache number Cache.countHit)
  | vanished {stamp error}
      (stamped : Storage.stamp workspace.storage path = .ok (some stamp))
      (read : Storage.content (interrupt path workspace).storage path = .error error)
      (kind : error.kind = .notFound) :
      LooksUp interrupt number path workspace (.ok none)
        ((interrupt path workspace).updateCache number (·.evict path))
  | unreadable {stamp error}
      (stamped : Storage.stamp workspace.storage path = .ok (some stamp))
      (read : Storage.content (interrupt path workspace).storage path = .error error)
      (kind : error.kind ≠ .notFound) :
      LooksUp interrupt number path workspace (.error (.storage path error))
        (interrupt path workspace)
  | read {stamp content result after}
      (stamped : Storage.stamp workspace.storage path = .ok (some stamp))
      (stale : ∀ entry, (workspace.cache number).find? path = some entry → entry.stamp ≠ stamp)
      (read : Storage.content (interrupt path workspace).storage path = .ok content)
      (taken : TakesIn number path stamp ((workspace.cache number).find? path) content
        (interrupt path workspace) result after) :
      LooksUp interrupt number path workspace (result.map some) after

theorem readFile_eq (interrupt : Interrupt Store Agenda) (path : Path)
    (workspace : Workspace Store Agenda) :
    readFile interrupt path workspace =
      (Storage.content (interrupt path workspace).storage path, interrupt path workspace) := by
  cases read : Storage.stream (interrupt path workspace).storage path <;>
    simp [readFile, openFile, Storage.content, read]

/-- A lookup takes one of these courses. -/
theorem lookUp_courses (interrupt : Interrupt Store Agenda) (number : Nat) (path : Path)
    (workspace : Workspace Store Agenda) :
    LooksUp interrupt number path workspace
      (lookUp interrupt number path workspace).1 (lookUp interrupt number path workspace).2 := by
  rw [lookUp_eq]
  split
  · next error stamped => exact .unanswered stamped
  · next stamped => exact .absent stamped
  · next stamp stamped =>
    simp only
    split
    · next entry fresh =>
      obtain ⟨held, same⟩ := Option.filter_eq_some_iff.1 fresh
      have equal : entry.stamp = stamp := by simpa using same
      exact .hit (equal ▸ stamped) held
    · next unfit =>
      have stale (entry : Cache.Entry) (held : (workspace.cache number).find? path = some entry) :
          entry.stamp ≠ stamp := by
        simpa using Option.filter_eq_none_iff.1 unfit entry held
      rw [readFile_eq]
      cases read : Storage.content (interrupt path workspace).storage path with
      | error error =>
        dsimp only
        split
        · next kind => exact .vanished stamped read kind
        · next kind => exact .unreadable stamped read kind
      | ok content =>
        have taken := takeIn_courses number path stamp ((workspace.cache number).find? path) content
          (interrupt path workspace)
        dsimp only
        split
        · next error after result =>
          rw [result] at taken
          exact .read stamped stale read taken
        · next file after result =>
          rw [result] at taken
          exact .read stamped stale read taken

end Workspace

end TemplateTree
