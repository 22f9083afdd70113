import Mathlib.Data.List.Lex
import Mathlib.Data.String.Basic
import TemplateTree.Proofs.Path.Names
import TemplateTree.Proofs.Storage.Trees
import TemplateTree.Options

/-!
# Discovery

Which templates are found below a directory, and in which order. Main statement: `templates_found`.
-/

namespace TemplateTree

namespace Path

/-- Where a kind of step stands in the order of steps. -/
def Component.rank : Component → Nat
  | .root => 0
  | .current => 1
  | .parent => 2
  | .name _ => 3

/-- The order of steps: by their kind, and names by their characters. -/
def Component.Precedes : Component → Component → Prop
  | .name first, .name second => first < second
  | first, second => first.rank < second.rank

/-- The order of paths, which goes by the first step that differs. -/
def Precedes (first second : Path) : Prop :=
  List.Lex Component.Precedes first.components second.components

/-- Paths of names are in the order of these names. -/
theorem precedes_ofNames_iff {names others : List String} (named : ∀ name ∈ names, IsName name)
    (titled : ∀ name ∈ others, IsName name) :
    (ofNames names).Precedes (ofNames others) ↔ names < others := by
  rw [Precedes, components_ofNames named, components_ofNames titled]
  clear named titled
  induction names generalizing others with
  | nil =>
    cases others with
    | nil => simp
    | cons other others => simp
  | cons name names inductionHypothesis =>
    cases others with
    | nil => simp
    | cons other others =>
      rw [List.map_cons, List.map_cons, List.cons_lt_cons_iff, ← inductionHypothesis]
      constructor
      · intro before
        cases before with
        | rel lower => exact .inl lower
        | cons later => exact .inr ⟨rfl, later⟩
      · rintro (lower | ⟨rfl, later⟩)
        · exact .rel lower
        · exact .cons later

/-- A path of names is spelled as no other names are. -/
theorem eq_of_ofNames_eq {names others : List String} (named : ∀ name ∈ names, IsName name)
    (titled : ∀ name ∈ others, IsName name) (same : ofNames names = ofNames others) :
    names = others := by
  have steps := congrArg components same
  rw [components_ofNames named, components_ofNames titled] at steps
  have injective : Function.Injective Component.name := fun _ _ => Component.name.inj
  exact List.map_injective_iff.2 injective steps

end Path

namespace Directory

/-- A name with a dot in it, behind which the extension stands and before which something does. -/
def HasExtension (extension name : List Char) : Prop :=
  ∃ stem, stem ≠ [] ∧ name = stem ++ '.' :: extension ∧ '.' ∉ extension

/-- What is before the last dot and what is behind it. -/
theorem extension?_append {stem extension : List Char} (last : '.' ∉ extension) :
    extension? (stem ++ '.' :: extension) = if stem = [] then none else some extension := by
  have behind : (stem ++ '.' :: extension).reverse.takeWhile (· ≠ '.') = extension.reverse := by
    have plain : ∀ c ∈ extension.reverse, decide (c ≠ '.') = true := by
      intro c member
      refine decide_eq_true fun dot => last ?_
      exact dot ▸ List.mem_reverse.1 member
    rw [List.reverse_append, List.reverse_cons, List.append_assoc,
      List.takeWhile_append_of_pos plain]
    simp
  have length : (stem ++ '.' :: extension).length - extension.length - 1 = stem.length := by
    simp only [List.length_append, List.length_cons]
    omega
  have shorter : extension.length ≠ (stem ++ '.' :: extension).length := by
    simp only [List.length_append, List.length_cons]
    omega
  simp only [extension?, behind, List.length_reverse, List.reverse_reverse, length, List.take_left,
    shorter, decide_false, Bool.false_or, List.isEmpty_iff]

theorem extension?_of_not_mem {name : List Char} (plain : '.' ∉ name) : extension? name = none := by
  have all : name.reverse.takeWhile (· ≠ '.') = name.reverse := by
    refine List.takeWhile_eq_self_iff.2 fun c member => decide_eq_true ?_
    rintro rfl
    exact plain (List.mem_reverse.1 member)
  simp only [extension?, all, List.length_reverse, decide_true, Bool.true_or, if_true]

/-- The extension of a name. -/
theorem extension?_eq_some_iff {name extension : List Char} :
    extension? name = some extension ↔ HasExtension extension name := by
  constructor
  · intro found
    by_cases dot : '.' ∈ name.reverse
    · obtain ⟨last, before, spelled, plain⟩ := List.eq_append_cons_of_mem dot
      have split : name = before.reverse ++ '.' :: last.reverse := by
        rw [← List.reverse_reverse name, spelled]
        simp
      rw [split, extension?_append (by simpa using plain)] at found
      split at found
      · cases found
      · next filled =>
        obtain rfl := Option.some.inj found
        exact ⟨before.reverse, filled, split, by simpa using plain⟩
    · rw [extension?_of_not_mem (by simpa using dot)] at found
      cases found
  · rintro ⟨stem, filled, rfl, plain⟩
    rw [extension?_append plain, if_neg filled]

variable {disk : Disk} {directory : Directory} {path : Path}

/-- Places are in order as long as the second does not come first by its names. -/
theorem isOrdered_iff {first second : Disk.Place} :
    isOrdered first second = true ↔ ¬second < first := by
  induction first generalizing second with
  | nil => simp [isOrdered]
  | cons name first inductionHypothesis =>
    cases second with
    | nil => simp [isOrdered]
    | cons other second =>
      simp only [isOrdered, Bool.or_eq_true, Bool.and_eq_true, decide_eq_true_eq,
        List.cons_lt_cons_iff, inductionHypothesis]
      rcases lt_trichotomy name other with lower | rfl | higher
      · simp [lower, lower.asymm, lower.ne']
      · simp
      · simp [higher, higher.asymm, higher.ne']

/-- No file below a place is listed twice. -/
theorem nodup_filesBelow (disk : Disk) (place : Disk.Place) :
    ((disk.filesBelow place).map Prod.fst).Nodup := by
  obtain ⟨below?, lists, keeps⟩ := disk.exists_filesBelow_eq place
  have single := disk.entries.nodup
  rw [List.Nodup, List.pairwise_map] at single ⊢
  rw [lists, List.pairwise_filterMap]
  refine single.imp fun {first second} apart one keepsOne two keepsTwo same => apart ?_
  rw [(keeps first one.1 one.2).1 keepsOne, (keeps second two.1 two.2).1 keepsTwo, same]

variable {extension exclude : String} {names : List String}

/-- The places of the templates are those of the files that are reached, if they are called so. -/
theorem mem_templatePlaces_iff (tree : directory.disk.IsTree) :
    names ∈ directory.templatePlaces extension exclude ↔
      ∃ above name content, names = above ++ [name] ∧
        directory.disk.Reaches directory.place names (.file content) ∧
        HasExtension extension.toList name.toList ∧ name ≠ exclude := by
  have listed : names ∈ (directory.disk.filesBelow directory.place).map Prod.fst ↔
      ∃ content, directory.disk.Reaches directory.place names (.file content) := by
    simp only [List.mem_map, Prod.exists, tree.mem_filesBelow_iff, exists_and_right,
      exists_eq_right]
  rw [templatePlaces, List.mem_mergeSort, List.mem_filter, listed]
  rcases List.eq_nil_or_concat names with rfl | ⟨above, name, rfl⟩
  · simp
  · rw [List.concat_eq_append, List.getLast?_concat]
    simp only [isTemplate, Bool.and_eq_true, decide_eq_true_eq, extension?_eq_some_iff]
    constructor
    · rintro ⟨⟨content, reached⟩, called, other⟩
      exact ⟨above, name, content, rfl, reached, called, other⟩
    · rintro ⟨front, last, content, same, reached, called, other⟩
      obtain ⟨rfl, ends⟩ := List.append_inj' same rfl
      obtain rfl := List.singleton_inj.1 ends
      exact ⟨⟨content, reached⟩, called, other⟩

/-- The places of the templates are listed in order, each once. -/
theorem pairwise_templatePlaces (directory : Directory) (extension exclude : String) :
    (directory.templatePlaces extension exclude).Pairwise (· < ·) := by
  have ordered : (directory.templatePlaces extension exclude).Pairwise
      (isOrdered · · = true) := by
    refine List.pairwise_mergeSort (fun first second third => ?_) (fun first second => ?_) _
    · simp only [isOrdered_iff, not_lt]
      exact le_trans
    · rw [Bool.or_eq_true, isOrdered_iff, isOrdered_iff, not_lt, not_lt]
      exact le_total first second
  have distinct : (directory.templatePlaces extension exclude).Nodup := by
    rw [templatePlaces, (List.mergeSort_perm _ _).nodup_iff]
    exact (nodup_filesBelow _ _).filter _
  refine (ordered.and distinct).imp fun ⟨before, other⟩ => ?_
  exact lt_of_le_of_ne (not_lt.1 (isOrdered_iff.1 before)) other

theorem isName_of_reaches {place : Disk.Place} {entry : Disk.Entry} (tree : disk.IsTree)
    (reached : disk.Reaches place names entry) : ∀ name ∈ place ++ names, Path.IsName name :=
  fun name member => (tree.named (tree.reaches_iff.1 reached) name member).1

/-- A directory hands out what is reached below it, unless the path of it is too long. -/
theorem stream_ofNames {content : List UInt8} (tree : directory.disk.IsTree) (filled : names ≠ [])
    (reached : directory.disk.Reaches directory.place names (.file content))
    (proper : Disk.fault? (directory.root.join (.ofNames names)) = none) :
    Storage.stream directory (.ofNames names) = .ok ⟨content, none⟩ := by
  have joined : directory.root.join (.ofNames names) = Disk.pathOf (directory.place ++ names) :=
    Disk.pathOf_join_ofNames filled (isName_of_reaches tree reached)
  have found := tree.find_pathOf (tree.reaches_iff.1 reached) (fun _ => Disk.Entry.noConfusion)
    (joined ▸ proper)
  change directory.disk.stream (directory.root.join (.ofNames names)) = _
  rw [Disk.stream, joined, found]

/-- Below a directory of a tree exactly the files are found that are reached without following a
link and have the extension but not the name that is left out. Their paths, relative to the
directory, are listed in order and each once. They are normal already and name the very places of
these files, so that a host whose root the directory is compiles from each of them the file that was
found, unless the absolute path of the file is too long to be opened. -/
theorem templates_found (tree : disk.IsTree) (there : at? disk path = .ok directory)
    (extension exclude : String) :
    (directory.templates extension exclude).Pairwise Path.Precedes ∧
    (directory.templates extension exclude).Nodup ∧
    (∀ found, found ∈ directory.templates extension exclude ↔
      ∃ above name content, found = .ofNames (above ++ [name]) ∧
        disk.Reaches directory.place (above ++ [name]) (.file content) ∧
        HasExtension extension.toList name.toList ∧ name ≠ exclude) ∧
    ∀ found ∈ directory.templates extension exclude,
      Path.normalize directory.root found = .ok found ∧
      ∃ names content, found = .ofNames names ∧
        disk.Reaches directory.place names (.file content) ∧
        directory.root.join found = Disk.pathOf (directory.place ++ names) ∧
        (Disk.fault? (directory.root.join found) = none →
          ∀ host : Host, host.root = directory.root →
          ∀ workspace : Workspace Directory Unit, workspace.storage = directory →
            host.compileFile .none found workspace =
              host.compile .none (some found) (some ⟨content, none⟩) workspace) := by
  obtain ⟨rfl, -, -⟩ := of_at? tree there
  have listed {names : List String} (member : names ∈ directory.templatePlaces extension exclude) :
      names ≠ [] ∧ (∀ name ∈ names, Path.IsName name) ∧
        ∃ content, directory.disk.Reaches directory.place names (.file content) := by
    obtain ⟨above, name, content, rfl, reached, -⟩ := (mem_templatePlaces_iff tree).1 member
    have named := isName_of_reaches tree reached
    refine ⟨by simp, fun name inside => ?_, content, reached⟩
    exact named name (List.mem_append_right _ inside)
  have ordered : (directory.templates extension exclude).Pairwise fun first second =>
      first.Precedes second ∧ first ≠ second := by
    rw [templates, List.pairwise_map]
    refine (pairwise_templatePlaces directory extension exclude).imp_of_mem ?_
    intro first second before after lower
    have named := (listed before).2.1
    have titled := (listed after).2.1
    exact ⟨(Path.precedes_ofNames_iff named titled).2 lower,
      fun same => lower.ne (Path.eq_of_ofNames_eq named titled same)⟩
  refine ⟨ordered.imp And.left, ordered.imp And.right, fun found => ?_, fun found member => ?_⟩
  · rw [templates, List.mem_map]
    constructor
    · rintro ⟨names, inside, rfl⟩
      obtain ⟨above, name, content, rfl, reached⟩ := (mem_templatePlaces_iff tree).1 inside
      exact ⟨above, name, content, rfl, reached⟩
    · rintro ⟨above, name, content, rfl, reached⟩
      exact ⟨_, (mem_templatePlaces_iff tree).2 ⟨above, name, content, rfl, reached⟩, rfl⟩
  · obtain ⟨names, inside, rfl⟩ := List.mem_map.1 member
    obtain ⟨filled, named, content, reached⟩ := listed inside
    have normal : (Path.ofNames names).IsNormal := ⟨names, filled, named, rfl⟩
    have joined := Disk.pathOf_join_ofNames filled (isName_of_reaches tree reached)
    refine ⟨normal.normalize_eq directory.root, names, content, rfl, reached, joined, ?_⟩
    rintro proper host placed workspace rfl
    have opened := stream_ofNames tree filled reached proper
    rw [Host.compileFile_eq, placed, normal.normalize_eq]
    simp only [Workspace.openFile, Interrupt.none, opened]

/-- A disk with templates at two depths; with a directory, a link and a file without a stem that are
called like one; and with a link back to the directory above. -/
def mixedDisk : Disk where
  entries := ⟨[(["t", "a", "up"], .link ".."), (["t", "l.tmpl"], .link "b.tmpl"),
    (["t", "d.tmpl"], .directory), (["t", ".tmpl"], .file []), (["t", "b.tmpl"], .file [0x78]),
    (["t", "a", "c.tmpl"], .file []), (["t", "a"], .directory), (["t"], .directory)], by decide⟩

theorem isTree_mixedDisk : mixedDisk.IsTree := by decide +kernel

/-- Through the link that leads back up the directory is the one above it. In it the template one
level down is found, and the link that is called like a template is not. -/
theorem templates_found_among_links :
    mixedDisk.IsTree ∧ at? mixedDisk ⟨"/t/a/up"⟩ = .ok ⟨mixedDisk, ["t"]⟩ ∧
      (templates ⟨mixedDisk, ["t"]⟩ "tmpl" "x.tmpl").Pairwise Path.Precedes ∧
      .ofNames ["a", "c.tmpl"] ∈ templates ⟨mixedDisk, ["t"]⟩ "tmpl" "x.tmpl" ∧
      .ofNames ["l.tmpl"] ∉ templates ⟨mixedDisk, ["t"]⟩ "tmpl" "x.tmpl" := by
  have there : at? mixedDisk ⟨"/t/a/up"⟩ = .ok ⟨mixedDisk, ["t"]⟩ := rfl
  obtain ⟨ordered, -, exact, -⟩ := templates_found isTree_mixedDisk there "tmpl" "x.tmpl"
  refine ⟨isTree_mixedDisk, there, ordered, (exact _).2 ?_, fun member => ?_⟩
  · have reached : mixedDisk.Reaches ["t"] ["a", "c.tmpl"] (.file []) :=
      isTree_mixedDisk.reaches_iff.2 rfl
    exact ⟨["a"], "c.tmpl", [], rfl, reached, ⟨['c'], by decide, rfl, by decide⟩, by decide⟩
  · obtain ⟨above, name, content, same, reached, -⟩ := (exact _).1 member
    have named := fun title inside =>
      isName_of_reaches isTree_mixedDisk reached title (List.mem_append_right _ inside)
    have plain : ∀ title ∈ ["l.tmpl"], Path.IsName title := by
      rintro title (_ | ⟨_, ⟨⟩⟩)
      exact ⟨by decide, rfl⟩
    rw [← Path.eq_of_ofNames_eq plain named same] at reached
    cases isTree_mixedDisk.reaches_iff.1 reached

end Directory

end TemplateTree
