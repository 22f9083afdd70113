import Mathlib.Data.Set.Function
import TemplateTree.Proofs.Storage.Revisions
import TemplateTree.Proofs.Workspace.LookUp

/-!
# Faithful entries

What an entry of a cache says of the storages there have been: it was made from a content that has
been stored, and after its stamp was taken, the file at its path had a content with its fingerprint.
An entry can be newer than its stamp says, or kept long after it was read; neither is excluded here.
-/

namespace TemplateTree

namespace Memory

/-- A storage has a file with this content at a path. -/
def Holds (memory : Memory) (path : Path) (content : List UInt8) : Prop :=
  ∃ file, memory.file? path = some file ∧ file.content = content

/-- All contents of the files in some storages. -/
def contents (storages : List Memory) : Set (List UInt8) :=
  {content | ∃ storage ∈ storages, ∃ path, storage.Holds path content}

theorem contents_mono {some all : List Memory} (more : some ⊆ all) :
    contents some ⊆ contents all := by
  rintro content ⟨storage, member, held⟩
  exact ⟨storage, more member, held⟩

theorem contents_subset {storages : List Memory} {known : List (List UInt8)}
    (stored : ∀ storage ∈ storages, ∀ entry ∈ storage.files.entries, entry.2.content ∈ known) :
    contents storages ⊆ {content | content ∈ known} := by
  rintro content ⟨storage, member, path, file, there, rfl⟩
  obtain ⟨entry, found, rfl⟩ := Option.map_eq_some_iff.1 there
  exact stored storage member entry (List.mem_of_find?_eq_some found)

end Memory

namespace DirectiveFile

variable {path : Path} {content : List UInt8} {file : DirectiveFile}

theorem contentHash_of_ofContent (made : ofContent path content = .ok file) :
    file.contentHash = Digest.fingerprint content := by
  rw [ofContent] at made
  split at made
  · cases made
  · exact Except.ok.inj made ▸ rfl

theorem ofContent_of_directivesIn {directives : List Directive}
    (read : directivesIn path content = .ok directives) :
    ofContent path content = .ok (ofDirectives path (Digest.fingerprint content) directives) := by
  rw [ofContent, read]

theorem ofContent_of_malformed {error : CompileError}
    (read : directivesIn path content = .error error) :
    ofContent path content = .error error := by
  rw [ofContent, read]

end DirectiveFile

namespace Cache.Entry

/-- An entry for a path is faithful to a storage that has been through these states. -/
structure Faithful (past : List Memory) (path : Path) (entry : Entry) : Prop where
  parsed : ∃ content ∈ Memory.contents past,
    DirectiveFile.ofContent entry.file.path content = .ok entry.file
  placed : entry.file.path.components = path.components
  read : ∃ storage ∈ past, entry.stamp.version ≤ storage.revision ∧
    ∃ content, storage.Holds path content ∧
      entry.file.contentHash = Digest.fingerprint content

variable {past all : List Memory} {path : Path} {entry : Entry}

/-- Entries stay faithful whatever is stored later. -/
theorem Faithful.later (faithful : entry.Faithful past path) (more : past ⊆ all) :
    entry.Faithful all path where
  parsed := by
    obtain ⟨content, member, made⟩ := faithful.parsed
    exact ⟨content, Memory.contents_mono more member, made⟩
  placed := faithful.placed
  read := by
    obtain ⟨storage, member, read⟩ := faithful.read
    exact ⟨storage, more member, read⟩

/-- A path that means the same has a faithful entry too. -/
theorem Faithful.congr (faithful : entry.Faithful past path) {place : Path}
    (same : place.components = path.components) : entry.Faithful past place where
  parsed := faithful.parsed
  placed := faithful.placed.trans same.symm
  read := by
    obtain ⟨storage, member, dated, content, ⟨file, there, held⟩, hash⟩ := faithful.read
    exact ⟨storage, member, dated, content, ⟨file, storage.file?_congr same ▸ there, held⟩, hash⟩

/-- A file that still has the revision of the stamp still has the content that was read, because no
revision is taken twice. -/
theorem Faithful.current (faithful : entry.Faithful past path) {storage : Memory}
    (ordered : ∀ earlier ∈ past, earlier.Later storage) {file : MemoryFile}
    (there : storage.file? path = some file) (revision : file.revision = entry.stamp.version) :
    entry.file.contentHash = Digest.fingerprint file.content := by
  obtain ⟨earlier, member, dated, content, ⟨old, was, rfl⟩, hash⟩ := faithful.read
  rcases (ordered earlier member).files path file there with before | ⟨above, -⟩
  · obtain rfl : old = file := Option.some.inj (was.symm.trans before)
    exact hash
  · omega

/-- Where fingerprints tell contents apart, an entry comes from any content with its fingerprint. -/
theorem Faithful.ofContent_eq (faithful : entry.Faithful past path)
    (distinct : Set.InjOn Digest.fingerprint (Memory.contents past)) {content : List UInt8}
    (member : content ∈ Memory.contents past)
    (same : entry.file.contentHash = Digest.fingerprint content) :
    DirectiveFile.ofContent entry.file.path content = .ok entry.file := by
  obtain ⟨origin, stored, made⟩ := faithful.parsed
  have hash := DirectiveFile.contentHash_of_ofContent made
  rw [distinct member stored (same.symm.trans hash)]
  exact made

end Cache.Entry

end TemplateTree
