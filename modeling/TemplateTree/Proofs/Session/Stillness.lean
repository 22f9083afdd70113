import TemplateTree.Proofs.Cache.Interval
import TemplateTree.Proofs.Workspace.Alone

/-!
# Still sessions

A session is still when no fault is set and nothing has been put off. Nobody then acts while a file
is opened, so that a lookup has a single moment, and answers with the directive file that can be
read from the storage at that moment. Only the spelling of its path can be that of an earlier
lookup.
-/

namespace TemplateTree

namespace DirectiveFile

/-- What a directive file says of a place, however its path is spelled. -/
def located (file : DirectiveFile) : Path.Location × String × Declarations :=
  (file.path.components, file.contentHash, file.declarations)

/-- The directives in a content do not depend on where it is. -/
theorem directivesIn_of_elsewhere {path other : Path} {content : List UInt8}
    {directives : List Directive}
    (read : directivesIn other content = .ok directives) :
    directivesIn path content = .ok directives := by
  rw [directivesIn] at read
  split at read
  · cases read
  · next text decoded =>
    split at read
    · cases read
    · next found parsed =>
      rw [directivesIn, decoded]
      simpa only [parsed] using read

/-- What is made of a content under one spelling of a path says the same under another. -/
theorem located_ofContent {path other : Path} {content : List UInt8} {file : DirectiveFile}
    (made : ofContent other content = .ok file)
    (same : other.components = path.components) :
    ∃ found, ofContent path content = .ok found ∧ found.located = file.located := by
  rw [ofContent] at made
  split at made
  · cases made
  · next directives read =>
    refine ⟨_, ofContent_of_directivesIn (directivesIn_of_elsewhere read), ?_⟩
    rw [← Except.ok.inj made]
    simp [located, ofDirectives, same]

end DirectiveFile

theorem map_listed {File View : Type} (view : File → View)
    (found : Except CompileError (Option File)) (files : Except CompileError (List File)) :
    (listed found files).map (List.map view) =
      listed (found.map (Option.map view)) (files.map (List.map view)) := by
  rcases found with _ | _ | _ <;> rcases files with _ | _ <;> simp [listed, Except.map]

namespace Memory

/-- The directive file at a path, read from its content. -/
def directiveFile (memory : Memory) (path : Path) : Except CompileError (Option DirectiveFile) :=
  match memory.file? path with
  | none => .ok none
  | some file => (DirectiveFile.ofContent path file.content).map some

/-- The directive files at several paths, up to the first failure, in the opposite order. -/
def directiveFiles (memory : Memory) : List Path → Except CompileError (List DirectiveFile)
  | [] => .ok []
  | path :: rest => listed (memory.directiveFile path) (memory.directiveFiles rest)

end Memory

namespace Session

/-- An answer that is right for one storage is the directive file there. -/
theorem Explained.located_eq {storage : Memory} {path : Path}
    {result : Except CompileError (Option DirectiveFile)}
    (explained : Explained [storage] path result) :
    result.map (Option.map DirectiveFile.located) =
      (storage.directiveFile path).map (Option.map DirectiveFile.located) := by
  cases explained with
  | found member held placed made =>
    obtain rfl := List.mem_singleton.1 member
    obtain ⟨file, there, rfl⟩ := held
    obtain ⟨found, read, same⟩ := DirectiveFile.located_ofContent made placed
    simp [Memory.directiveFile, there, read, Except.map, same]
  | absent member missing =>
    obtain rfl := List.mem_singleton.1 member
    rw [Memory.directiveFile, missing]
  | malformed member held made =>
    obtain rfl := List.mem_singleton.1 member
    obtain ⟨file, there, rfl⟩ := held
    simp [Memory.directiveFile, there, made, Except.map]

namespace Recorded

/-- Nobody acts in the course of a request, and the storage answers. -/
structure Still (recorded : Recorded) : Prop where
  sound : Sound recorded
  faultless : recorded.storage.Faultless
  settled : recorded.agenda.pending = []
  distinct : Set.InjOn Digest.fingerprint (Memory.contents recorded.agenda.past)

variable (host : Host) (depth : Nat) {recorded after : Recorded}

theorem idle_of_settled {chronicle : Chronicle} (settled : chronicle.pending = []) :
    (interruption host depth).Idle chronicle := by
  rintro path recorded rfl
  cases depth with
  | zero => rfl
  | succ depth => simp [interruption, interruptBy, settled, Agenda.due]

/-- A still session stays still if its storage and agenda stay. -/
theorem Still.stays (still : Still recorded) (advances : Advances recorded after)
    (storage : after.storage = recorded.storage) (agenda : after.agenda = recorded.agenda) :
    Still after where
  sound := (advances still.sound).1
  faultless := by
    rw [storage]
    exact still.faultless
  settled := by
    rw [agenda]
    exact still.settled
  distinct := by
    rw [agenda]
    exact still.distinct

/-- Lookups leave the storage and the agenda of a still session alone. -/
theorem Still.lookUp_frame (still : Still recorded) (number : Nat) (path : Path) :
    (Workspace.lookUp (interruption host depth) number path recorded).2.storage =
        recorded.storage ∧
      (Workspace.lookUp (interruption host depth) number path recorded).2.agenda =
        recorded.agenda := by
  have alone := Workspace.lookUp_alone (idle_of_settled host depth still.settled) number path
  exact ⟨alone.storage, alone.agenda⟩

theorem Still.lookUp (still : Still recorded) (number : Nat) (path : Path) :
    Still (Workspace.lookUp (interruption host depth) number path recorded).2 := by
  obtain ⟨storage, agenda⟩ := still.lookUp_frame host depth number path
  exact still.stays (advances_of_steady (advancing_interruption host depth)
    (.lookUp number path recorded : host.Steady _ _ _)) storage agenda

/-- A lookup in a still session answers with the directive file that the storage holds. -/
theorem Still.lookUp_eq (still : Still recorded) (number : Nat) (path : Path) :
    (Workspace.lookUp (interruption host depth) number path recorded).1.map
        (Option.map DirectiveFile.located) =
      (recorded.storage.directiveFile path).map (Option.map DirectiveFile.located) := by
  have final := still.lookUp host depth number path
  obtain ⟨storage, agenda⟩ := still.lookUp_frame host depth number path
  have explained := explained_of_looksUp (advancing_interruption host depth)
    (Workspace.lookUp_courses ..) still.sound still.faultless final.faultless final.distinct
  rw [moments, agenda, List.drop_length] at explained
  exact explained.located_eq

end Recorded

end Session

end TemplateTree
