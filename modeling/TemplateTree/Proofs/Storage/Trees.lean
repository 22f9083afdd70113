import TemplateTree.Proofs.Storage.Growth
import TemplateTree.Storage.Directory

/-!
# Disks that are trees

A disk is a tree if everything on it stands under a name in a directory. Main statements:
`find_pathOf`, by which the absolute path of a place leads to what stands there;
`mem_filesBelow_iff`, by which the files below a directory are those that are reached from it
without following a link; and `IsTree.plantAll`, by which a disk stays a tree whatever is put on it.
-/

namespace TemplateTree

namespace Table

variable {Key Value : Type} [DecidableEq Key]

/-- The entries of a table are its keys with their values. -/
theorem mem_entries_iff {table : Table Key Value} {key : Key} {value : Value} :
    (key, value) ∈ table.entries ↔ table.get? key = some value := by
  obtain ⟨entries, nodup⟩ := table
  simp only [get?]
  induction entries with
  | nil => simp
  | cons entry rest inductionHypothesis =>
    obtain ⟨first, others⟩ := List.nodup_cons.1 nodup
    rw [List.mem_cons, List.find?_cons]
    by_cases same : entry.1 = key
    · have alone : (key, value) ∉ rest := fun member => first (same ▸ List.mem_map_of_mem member)
      simp [alone, same, Prod.ext_iff, eq_comm]
    · have other : (key, value) ≠ entry := by
        rintro rfl
        exact same rfl
      simp [same, other, inductionHypothesis others]

end Table

namespace Disk

/-- A place in a directory, under a name that can be looked for. -/
def InDirectory (disk : Disk) (place : Place) : Prop :=
  ∃ outer name, place = outer ++ [name] ∧ disk.entryAt outer = some .directory ∧
    Path.IsName name ∧ name.utf8ByteSize ≤ longestName

/-- A disk that is a tree. -/
structure IsTree (disk : Disk) : Prop where
  current : disk.entryAt disk.current = some .directory
  placed : ∀ {place entry}, disk.entries.get? place = some entry → disk.InDirectory place

/-- What is reached from a place by going down through directories, and not through links, each
under the names that lead to it. -/
inductive Reaches (disk : Disk) (place : Place) : Place → Entry → Prop where
  | start {entry} (there : disk.entryAt place = some entry) : Reaches disk place [] entry
  | down {names name entry} (outer : Reaches disk place names .directory)
      (there : disk.entryAt (place ++ names ++ [name]) = some entry) :
      Reaches disk place (names ++ [name]) entry

/-- What can be said of where a walk has led. -/
def Found.Stands (disk : Disk) : Found → Prop
  | .entry place standing => disk.entryAt place = some standing
  | .vacant place => disk.InDirectory place

variable {disk after : Disk} {follow : Bool} {links : Nat} {place outer below goal : Place}
variable {path : Path} {name : String} {entry : Entry} {found : Found}
variable {pieces : List (List Char)}

/-- Whether a text is a name can be computed. -/
instance (name : String) : Decidable (Path.IsName name) :=
  decidable_of_iff ('/' ∉ name.toList ∧ Path.component? name.toList = some (.name name))
    ⟨fun ⟨unbroken, step⟩ => ⟨unbroken, step⟩, fun ⟨unbroken, step⟩ => ⟨unbroken, step⟩⟩

/-- A place in a directory ends in a name. -/
theorem inDirectory_iff :
    disk.InDirectory place ↔ ∃ name ∈ place.getLast?,
      disk.entryAt place.dropLast = some .directory ∧ Path.IsName name ∧
        name.utf8ByteSize ≤ longestName := by
  constructor
  · rintro ⟨outer, name, rfl, holds, named⟩
    exact ⟨name, by simp, by rwa [List.dropLast_concat], named⟩
  · rintro ⟨name, last, holds, named⟩
    refine ⟨place.dropLast, name, ?_, holds, named⟩
    exact (List.dropLast_append_getLast? name last).symm

/-- Whether a place is in a directory can be computed. -/
instance (disk : Disk) (place : Place) : Decidable (disk.InDirectory place) :=
  decidable_of_iff' _ inDirectory_iff

theorem isTree_iff :
    disk.IsTree ↔ disk.entryAt disk.current = some .directory ∧
      ∀ listed ∈ disk.entries.entries, disk.InDirectory listed.1 := by
  constructor
  · exact fun tree => ⟨tree.current, fun _ member => tree.placed (Table.mem_entries_iff.1 member)⟩
  · exact fun ⟨current, all⟩ => ⟨current, fun there => all _ (Table.mem_entries_iff.2 there)⟩

/-- Whether a disk is a tree can be computed. -/
instance (disk : Disk) : Decidable disk.IsTree :=
  decidable_of_iff' _ isTree_iff

theorem entryAt_of_ne_nil (filled : place ≠ []) : disk.entryAt place = disk.entries.get? place := by
  simp [entryAt, filled]

/-- What stands under a name stands in a directory. -/
theorem IsTree.parent (tree : disk.IsTree) (there : disk.entryAt (outer ++ [name]) = some entry) :
    disk.entryAt outer = some .directory ∧ Path.IsName name ∧ name.utf8ByteSize ≤ longestName := by
  rw [entryAt_of_ne_nil (by simp)] at there
  obtain ⟨holder, title, same, directory, named, short⟩ := tree.placed there
  obtain ⟨rfl, title⟩ := List.append_inj' same rfl
  obtain rfl := List.cons.inj title |>.1
  exact ⟨directory, named, short⟩

/-- All places above one at which something stands are directories. -/
theorem IsTree.above (tree : disk.IsTree) (there : disk.entryAt (place ++ below) = some entry)
    (deeper : below ≠ []) : disk.entryAt place = some .directory := by
  induction below using List.reverseRecOn generalizing entry with
  | nil => exact absurd rfl deeper
  | append_singleton names name inductionHypothesis =>
    rw [← List.append_assoc] at there
    obtain ⟨directory, -⟩ := tree.parent there
    by_cases last : names = []
    · rwa [last, List.append_nil] at directory
    · exact inductionHypothesis directory last

/-- The names that lead to a place at which something stands can be looked for. -/
theorem IsTree.named (tree : disk.IsTree) (there : disk.entryAt place = some entry) :
    ∀ name ∈ place, Path.IsName name ∧ name.utf8ByteSize ≤ longestName := by
  intro name member
  obtain ⟨outer, below, rfl⟩ := List.append_of_mem member
  rw [← List.singleton_append, ← List.append_assoc] at there
  by_cases last : below = []
  · rw [last, List.append_nil] at there
    exact (tree.parent there).2
  · exact (tree.parent (tree.above there last)).2

/-- The directory above a directory is one. -/
theorem IsTree.dropLast (tree : disk.IsTree) (there : disk.entryAt place = some .directory) :
    disk.entryAt place.dropLast = some .directory := by
  rcases List.eq_nil_or_concat place with rfl | ⟨outer, name, rfl⟩
  · exact there
  · rw [List.concat_eq_append] at there ⊢
    rw [List.dropLast_concat]
    exact (tree.parent there).1

/-- A walk from a directory leads to what stands somewhere, or to a place in a directory. -/
theorem IsTree.stands_of_leads (tree : disk.IsTree)
    (leads : disk.Leads follow links place pieces found)
    (start : disk.entryAt place = some .directory) (unbroken : ∀ piece ∈ pieces, '/' ∉ piece) :
    found.Stands disk := by
  induction leads with
  | arrived => exact start
  | stayed _ _ inductionHypothesis =>
    exact inductionHypothesis start
      fun piece member => unbroken piece (List.mem_cons_of_mem _ member)
  | up _ _ inductionHypothesis =>
    exact inductionHypothesis (tree.dropLast start)
      fun piece member => unbroken piece (List.mem_cons_of_mem _ member)
  | down _ _ there _ inductionHypothesis =>
    exact inductionHypothesis there
      fun piece member => unbroken piece (List.mem_cons_of_mem _ member)
  | @through links place piece name target rest found _ _ _ _ inductionHypothesis =>
    refine inductionHypothesis ?_ fun piece member => ?_
    · split
      · rfl
      · exact start
    · rcases List.mem_append.1 member with inside | behind
      · exact Path.slash_not_mem_of_mem_pieces inside
      · exact unbroken piece (List.mem_cons_of_mem _ behind)
  | ended _ _ there => exact there
  | vacant step short =>
    have named := Path.isName_of_component? (unbroken _ List.mem_cons_self) step
    exact ⟨_, _, rfl, start, named, short⟩

/-- A walk that follows links does not end at one. -/
theorem Leads.ne_link (leads : disk.Leads true links place pieces found) (target : String) :
    found ≠ .entry goal (.link target) := by
  generalize followed : true = follow at leads
  rintro rfl
  generalize ends : Found.entry goal (.link target) = found at leads
  induction leads with
  | arrived | vacant => cases ends
  | stayed _ _ inductionHypothesis | up _ _ inductionHypothesis
  | down _ _ _ _ inductionHypothesis | through _ _ _ _ inductionHypothesis =>
    exact inductionHypothesis ends
  | ended _ _ _ _ solid => exact solid followed.symm target (Found.entry.inj ends).2.symm

theorem find_ne_link (led : disk.find path = .ok (.entry goal entry)) (target : String) :
    entry ≠ .link target := by
  rintro rfl
  obtain ⟨-, walked⟩ := findWith_eq_ok_iff.1 led
  exact (leads_of_findFrom walked).ne_link target rfl

/-- A path leads to what stands somewhere, or to a place in a directory. -/
theorem IsTree.stands_of_findWith (tree : disk.IsTree)
    (led : disk.findWith follow path = .ok found) : found.Stands disk := by
  obtain ⟨-, walked⟩ := findWith_eq_ok_iff.1 led
  refine tree.stands_of_leads (leads_of_findFrom walked) ?_ fun piece =>
    Path.slash_not_mem_of_mem_pieces
  rw [origin]
  split
  · rfl
  · exact tree.current

/-- The names of what stands below a directory lead there. -/
theorem IsTree.findFrom_names (tree : disk.IsTree) (follow : Bool) (links : Nat)
    (start : disk.entryAt place = some .directory)
    (there : disk.entryAt (place ++ below) = some entry) (solid : ∀ target, entry ≠ .link target) :
    disk.findFrom follow links place (below.map String.toList) =
      .ok (.entry (place ++ below) entry) := by
  induction below generalizing place with
  | nil =>
    rw [List.append_nil] at there ⊢
    obtain rfl := Option.some.inj (start.symm.trans there)
    exact findFrom_nil disk follow links place
  | cons name rest inductionHypothesis =>
    obtain ⟨named, short⟩ := tree.named there name (by simp)
    rw [← List.singleton_append, ← List.append_assoc] at there ⊢
    by_cases last : rest = []
    · subst last
      rw [List.append_nil] at there ⊢
      rw [List.append_nil, List.map_singleton, findFrom_of_name named.step,
        if_neg (Nat.not_lt.2 short), there]
      cases entry with
      | file content => rfl
      | directory => exact findFrom_nil ..
      | link target => exact absurd rfl (solid target)
    · have directory := tree.above there last
      rw [List.singleton_append, List.map_cons, findFrom_of_directory named.step short directory]
      exact inductionHypothesis directory there

theorem toList_pathOf (place : Place) :
    (pathOf place).text.toList = '/' :: (Path.ofNames place).text.toList := by
  simp [pathOf, Path.ofNames]

/-- The absolute path of names falls into these names. -/
theorem pieces_pathOf (named : ∀ name ∈ place, Path.IsName name) :
    Path.pieces (pathOf place).text.toList =
      [] :: if place = [] then [[]] else place.map String.toList := by
  cases place with
  | nil => rfl
  | cons first rest =>
    rw [toList_pathOf, Path.pieces, if_pos rfl, Path.pieces_ofNames named, if_neg (by simp)]

/-- The absolute path of a place leads to what stands there, unless it is too long. -/
theorem IsTree.find_pathOf (tree : disk.IsTree) (there : disk.entryAt place = some entry)
    (solid : ∀ target, entry ≠ .link target) (proper : fault? (pathOf place) = none) :
    disk.find (pathOf place) = .ok (.entry place entry) := by
  have rooted : disk.origin (pathOf place) = [] := by
    simp [origin, pathOf, Path.isAbsolute, Path.isRooted]
  have named := fun name member => (tree.named there name member).1
  refine findWith_eq_ok_iff.2 ⟨proper, ?_⟩
  rw [rooted, pieces_pathOf named, findFrom_of_none rfl]
  split
  · next top =>
    subst top
    obtain rfl := Option.some.inj there
    rw [findFrom_of_none rfl, findFrom_nil]
  · exact tree.findFrom_names true mostLinks rfl there solid

/-- Names below a place are names behind its own. -/
theorem pathOf_join_ofNames {names : List String} (filled : names ≠ [])
    (named : ∀ name ∈ place ++ names, Path.IsName name) :
    (pathOf place).join (Path.ofNames names) = pathOf (place ++ names) := by
  obtain ⟨above, below⟩ := List.forall_mem_append.1 named
  have relative : (Path.ofNames names).isAbsolute = false := Path.isRooted_ofNames below
  by_cases top : place = []
  · subst top
    rw [Path.join, relative, if_neg Bool.false_ne_true, if_pos (by simp [pathOf])]
    simp [pathOf, Path.ofNames]
  · obtain ⟨front, c, spelled, other⟩ := Path.exists_concat_ofNames top above
    have whole := Path.toList_ofNames_append top filled
    have unended : (pathOf place).text.toList.getLast? ≠ some '/' := by
      rw [toList_pathOf, spelled, ← List.cons_append, List.getLast?_concat]
      simpa using other
    have some : (pathOf place).text ≠ "" := by simp [pathOf]
    have joined : (pathOf place).join (Path.ofNames names) =
        ⟨(pathOf place).text ++ "/" ++ (Path.ofNames names).text⟩ := by
      simp [Path.join, relative, some, unended]
    have same : ((pathOf place).text ++ "/" ++ (Path.ofNames names).text).toList =
        (pathOf (place ++ names)).text.toList := by
      rw [toList_pathOf, whole, String.toList_append, String.toList_append, toList_pathOf,
        List.append_assoc]
      rfl
    rw [joined, String.toList_inj.1 same]

/-- What is reached below a directory is what stands there. -/
theorem IsTree.reaches_iff (tree : disk.IsTree) :
    disk.Reaches place below entry ↔ disk.entryAt (place ++ below) = some entry := by
  constructor
  · intro reaches
    cases reaches with
    | start there => rwa [List.append_nil]
    | down outer there => rwa [← List.append_assoc]
  · intro there
    induction below using List.reverseRecOn generalizing entry with
    | nil =>
      rw [List.append_nil] at there
      exact .start there
    | append_singleton names name inductionHypothesis =>
      rw [← List.append_assoc] at there
      exact .down (inductionHypothesis (tree.parent there).1) there

/-- A file stands where the disk has it. -/
theorem IsTree.get?_eq_some_iff (tree : disk.IsTree) (other : entry ≠ .directory) :
    disk.entries.get? place = some entry ↔ disk.entryAt place = some entry := by
  by_cases top : place = []
  · subst top
    refine iff_of_false (fun there => ?_) fun there => other (Option.some.inj there).symm
    obtain ⟨outer, name, same, -⟩ := tree.placed there
    simp at same
  · rw [entryAt_of_ne_nil top]

/-- The files below a place are listed one for each entry that is such a file. -/
theorem exists_filesBelow_eq (disk : Disk) (place : Place) :
    ∃ below? : Place × Entry → Option (Place × List UInt8),
      disk.filesBelow place = disk.entries.entries.filterMap below? ∧
        ∀ listed names content, below? listed = some (names, content) ↔
          listed = (place ++ names, .file content) := by
  refine ⟨_, rfl, fun listed names content => ?_⟩
  constructor
  · obtain ⟨there, standing⟩ := listed
    intro kept
    split at kept
    · next bytes names same inside =>
      cases kept
      obtain rfl := Text.after?_eq_some_iff.1 inside
      obtain rfl := same
      rfl
    · cases kept
  · rintro rfl
    simp [Text.after?_eq_some_iff.2 rfl]

/-- The files below a place are those that are reached from it. -/
theorem IsTree.mem_filesBelow_iff (tree : disk.IsTree) {content : List UInt8} :
    (below, content) ∈ disk.filesBelow place ↔ disk.Reaches place below (.file content) := by
  obtain ⟨below?, lists, keeps⟩ := disk.exists_filesBelow_eq place
  rw [tree.reaches_iff, ← tree.get?_eq_some_iff Entry.noConfusion, ← Table.mem_entries_iff, lists]
  simp only [List.mem_filterMap, keeps, exists_eq_right]

/-- A disk stays a tree when something is put into a directory, unless in the place of a
directory. -/
theorem IsTree.put (tree : disk.IsTree) (inside : disk.InDirectory goal)
    (free : disk.entryAt goal ≠ some .directory) (entry : Entry) :
    (disk.put goal entry).IsTree := by
  have filled : goal ≠ [] := by
    rintro rfl
    exact free rfl
  have kept {place : Place} (there : disk.entryAt place = some .directory) :
      (disk.put goal entry).entryAt place = some .directory := by
    have other : place ≠ goal := by
      rintro rfl
      exact free there
    rw [entryAt_put filled, if_neg other, there]
  have still {place : Place} (inside : disk.InDirectory place) :
      (disk.put goal entry).InDirectory place := by
    obtain ⟨outer, name, same, there, named⟩ := inside
    exact ⟨outer, name, same, kept there, named⟩
  refine ⟨kept tree.current, fun {place standing} there => still ?_⟩
  rw [Disk.put, Table.get?_insert] at there
  split at there
  · next same => exact same ▸ inside
  · exact tree.placed there

theorem IsTree.put_vacant (tree : disk.IsTree)
    (found : disk.findWith follow path = .ok (.vacant goal)) (entry : Entry) :
    (disk.put goal entry).IsTree := by
  obtain ⟨-, walked⟩ := findWith_eq_ok_iff.1 found
  have nothing := (leads_of_findFrom walked).of_vacant.2
  exact tree.put (tree.stands_of_findWith found) (by simp [nothing]) entry

/-- A disk stays a tree when an entry is added. -/
theorem IsTree.add (tree : disk.IsTree) (added : disk.add path entry = .ok after) :
    after.IsTree := by
  rw [Disk.add] at added
  split at added
  · cases added
  · cases added
  · cases added
  · next found => exact Except.ok.inj added ▸ tree.put_vacant found entry

theorem IsTree.of_isDirectory (tree : disk.IsTree) {error : IoError}
    (made : (if disk.isDirectory path then .ok disk else .error error) = Except.ok after) :
    after.IsTree := by
  split at made
  · exact Except.ok.inj made ▸ tree
  · cases made

/-- A disk stays a tree when directories are made, those above first. -/
theorem IsTree.makeDirectoriesBelow {above : List Path} (tree : disk.IsTree)
    (made : disk.makeDirectoriesBelow path above = .ok after) : after.IsTree := by
  induction above generalizing disk path after with
  | nil =>
    rw [Disk.makeDirectoriesBelow] at made
    split at made
    · next added => exact Except.ok.inj made ▸ tree.add added
    · exact tree.of_isDirectory made
  | cons parent above inductionHypothesis =>
    rw [Disk.makeDirectoriesBelow] at made
    split at made
    · next added => exact Except.ok.inj made ▸ tree.add added
    · split at made
      · split at made
        · cases made
        · next between outer =>
          have first : between.IsTree := by
            split at outer
            · exact Except.ok.inj outer ▸ tree
            · exact inductionHypothesis tree outer
          split at made
          · next added => exact Except.ok.inj made ▸ first.add added
          · exact first.of_isDirectory made
      · exact tree.of_isDirectory made

theorem IsTree.makeDirectories (tree : disk.IsTree) (made : disk.makeDirectories path = .ok after) :
    after.IsTree := by
  rw [Disk.makeDirectories] at made
  split at made
  · exact Except.ok.inj made ▸ tree
  · exact tree.makeDirectoriesBelow made

/-- A disk stays a tree when a file is written. -/
theorem IsTree.write {content : List UInt8} (tree : disk.IsTree)
    (written : disk.write path content = .ok after) : after.IsTree := by
  rw [Disk.write] at written
  split at written
  · next place old found =>
    have there : disk.entryAt place = some (.file old) := tree.stands_of_findWith found
    have inside := tree.placed ((tree.get?_eq_some_iff Entry.noConfusion).2 there)
    exact Except.ok.inj written ▸ tree.put inside (by simp [there]) _
  · next found => exact Except.ok.inj written ▸ tree.put_vacant found _
  · cases written
  · cases written

/-- A disk stays a tree when an entry is put on it along with the directories above it. -/
theorem IsTree.plant (tree : disk.IsTree) (planted : disk.plant path entry = .ok after) :
    after.IsTree := by
  rw [Disk.plant] at planted
  split at planted
  · cases planted
  · next between made =>
    have first := tree.makeDirectories made
    cases entry with
    | file content => exact first.write planted
    | directory => exact first.makeDirectories planted
    | link target => exact first.add planted

/-- The disk on which entries have been put one after the other, except those that cannot be. -/
def plantAll (disk : Disk) (entries : List (Path × Entry)) : Disk :=
  entries.foldl (fun disk entry => (disk.plant entry.1 entry.2).toOption.getD disk) disk

theorem IsTree.empty : IsTree {} where
  current := rfl
  placed := by
    intro place entry there
    cases there

/-- Whatever is put on a tree one after the other, it stays one. -/
theorem IsTree.plantAll (tree : disk.IsTree) (entries : List (Path × Entry)) :
    (disk.plantAll entries).IsTree := by
  induction entries generalizing disk with
  | nil => exact tree
  | cons entry rest inductionHypothesis =>
    have next : ((disk.plant entry.1 entry.2).toOption.getD disk).IsTree := by
      cases planted : disk.plant entry.1 entry.2 with
      | ok after => exact tree.plant planted
      | error error => exact tree
    exact inductionHypothesis next

end Disk

namespace Directory

variable {disk : Disk} {directory : Directory} {path : Path}

/-- The directory that a path leads to stands where the path leads, and its absolute path leads to a
directory as well. -/
theorem at?_eq_ok_iff :
    at? disk path = .ok directory ↔
      directory.disk = disk ∧ disk.placeOf path = .ok directory.place ∧
        disk.isDirectory directory.root = true := by
  rw [at?]
  split
  · next failed => simp [failed]
  · next place led =>
    rw [led, root, Except.ok.injEq]
    split
    · next leads =>
      constructor
      · rintro ⟨⟩
        exact ⟨rfl, rfl, leads⟩
      · rintro ⟨rfl, rfl, -⟩
        rfl
    · next closed =>
      refine iff_of_false (fun failed => ?_) ?_
      · cases failed
      · rintro ⟨-, rfl, leads⟩
        exact closed leads

/-- The directory that a path leads to stands at the place that the path leads to. -/
theorem of_at? (tree : disk.IsTree) (there : at? disk path = .ok directory) :
    directory.disk = disk ∧ disk.find path = .ok (.entry directory.place .directory) ∧
      disk.entryAt directory.place = some .directory := by
  obtain ⟨same, led, leads⟩ := at?_eq_ok_iff.1 there
  rw [Disk.placeOf] at led
  split at led
  · next place entry found =>
    obtain rfl := Except.ok.inj led
    have standing : disk.entryAt directory.place = some entry := tree.stands_of_findWith found
    rw [Disk.isDirectory] at leads
    split at leads
    · next again =>
      -- The absolute path of the place leads to what the path led to.
      have proper := (Disk.findWith_eq_ok_iff.1 again).1
      have direct := tree.find_pathOf standing (Disk.find_ne_link found) proper
      obtain rfl : entry = .directory :=
        (Disk.Found.entry.inj (Except.ok.inj (direct.symm.trans again))).2
      exact ⟨same, found, standing⟩
    · cases leads
  · cases led
  · cases led

end Directory

end TemplateTree
