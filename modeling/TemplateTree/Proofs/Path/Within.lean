import TemplateTree.Proofs.Path.Levels

/-!
# Trees below different roots

`within?` is the file of a tree that a path names. A relative path names the same file below every
root; an absolute one does so only below roots that mean the same. Main statement:
`forall_within?_eq_iff`.
-/

namespace TemplateTree.Path

/-- The normal path of the file that a path names in the tree below a root, if it names one. -/
def within? (root path : Path) : Option Path :=
  (normalize root path).toOption

variable {root other path relative : Path}

theorem within?_eq_some_iff :
    within? root path = some relative ↔ normalize root path = .ok relative := by
  rw [within?]
  cases normalize root path <;> simp [Except.toOption]

theorem within?_eq_none_iff :
    within? root path = none ↔ ∃ rejection, normalize root path = .error rejection := by
  rw [within?]
  cases normalize root path <;> simp [Except.toOption]

theorem within?_of_relative (relative : path.isAbsolute = false) (root other : Path) :
    within? root path = within? other path := by
  simp [within?, normalize, normalNames, relativeTo?, relative]

theorem within?_congr (same : root.components = other.components) (path : Path) :
    within? root path = within? other path := by
  rw [within?, within?, normalize, normalize, normalNames, normalNames, relativeTo?, relativeTo?,
    same]

theorem component?_ne_root (piece : List Char) : component? piece ≠ some .root := by
  fun_cases component? piece <;> simp

/-- Absolute paths are those that lead through the root directory. -/
theorem root_mem_components_iff : .root ∈ path.components ↔ path.isAbsolute = true := by
  have later (pieces : List (List Char)) : .root ∉ pieces.filterMap component? := by
    simp [component?_ne_root]
  rw [components, componentsOf, isAbsolute]
  cases split : pieces path.text.toList with
  | nil => exact absurd split (pieces_ne_nil _)
  | cons first rest =>
    rw [List.mem_append, start]
    cases isRooted path.text.toList with
    | true => simp
    | false =>
      by_cases dot : first = ['.'] <;> simp [dot, later, component?_ne_root]

/-- An absolute path leads through the root directory first. -/
theorem exists_components_eq_root_cons (absolute : path.isAbsolute = true) :
    ∃ steps, path.components = .root :: steps := by
  have absolute : isRooted path.text.toList = true := absolute
  rw [components, componentsOf, absolute]
  cases split : pieces path.text.toList with
  | nil => exact absurd split (pieces_ne_nil _)
  | cons first rest => exact ⟨rest.filterMap component?, rfl⟩

/-- An absolute path names a file of the tree if it leads through the root, and from there by steps
that end at a file. -/
theorem within?_eq_some_iff_of_absolute (absolute : path.isAbsolute = true) :
    within? root path = some relative ↔
      ∃ steps names, path.components = root.components ++ steps ∧ walk [] steps = .ok names ∧
        names ≠ [] ∧ ofNames names = relative := by
  rw [within?, normalize, normalNames, relativeTo?, if_pos absolute]
  simp only [← Text.after?_eq_some_iff]
  cases Text.after? root.components path.components with
  | none => simp [Except.toOption]
  | some steps =>
    cases walked : walk [] steps with
    | error rejection => simp [walked, Except.toOption]
    | ok names => cases names <;> simp [walked, Except.toOption]

/-- A tree in which an absolute path names a file has an absolute root. -/
theorem isAbsolute_of_within? (absolute : path.isAbsolute = true)
    (found : within? root path = some relative) : root.isAbsolute = true := by
  obtain ⟨steps, names, split, walked, -⟩ := (within?_eq_some_iff_of_absolute absolute).1 found
  obtain ⟨rest, spelled⟩ := exists_components_eq_root_cons absolute
  rw [spelled] at split
  rw [← root_mem_components_iff]
  cases start : root.components with
  | nil =>
    rw [start, List.nil_append] at split
    rw [← split] at walked
    cases walked
  | cons first more =>
    rw [start, List.cons_append] at split
    exact (List.cons.inj split).1 ▸ List.mem_cons_self

/-- What the path of a name below an absolute root means. -/
theorem components_join_name {name : String} (absolute : root.isAbsolute = true)
    (named : IsName name) :
    (root.join ⟨name⟩).components = root.components ++ [.name name] := by
  have filled : root.text ≠ "" := by
    intro empty
    rw [isAbsolute, empty] at absolute
    cases absolute
  rw [components_join filled named.isAbsolute_eq, pieces_of_unbroken named.unbroken]
  simp [named.step]

theorem isAbsolute_join_name {name : String} (absolute : root.isAbsolute = true)
    (named : IsName name) : (root.join ⟨name⟩).isAbsolute = true := by
  rw [← root_mem_components_iff, components_join_name absolute named]
  exact List.mem_append_left _ (root_mem_components_iff.2 absolute)

theorem within?_join_name {name : String} (absolute : root.isAbsolute = true)
    (named : IsName name) : within? root (root.join ⟨name⟩) = some (ofNames [name]) := by
  rw [within?_eq_some_iff_of_absolute (isAbsolute_join_name absolute named)]
  exact ⟨[.name name], [name], components_join_name absolute named, rfl, List.cons_ne_nil _ _, rfl⟩

/-- If a path right below the root of one tree names a file in another, the root of this one is on
the way to the first. -/
theorem components_prefix_of_within? {name : String} (absolute : root.isAbsolute = true)
    (named : IsName name) (found : within? other (root.join ⟨name⟩) = some relative) :
    other.components <+: root.components := by
  obtain ⟨steps, names, split, walked, filled, -⟩ :=
    (within?_eq_some_iff_of_absolute (isAbsolute_join_name absolute named)).1 found
  rw [components_join_name absolute named] at split
  have further : other.components ≠ root.components ++ [.name name] := by
    intro same
    rw [same, List.self_eq_append_right] at split
    rw [split] at walked
    exact filled (Except.ok.inj walked).symm
  have start : other.components <+: root.components ++ [.name name] := ⟨steps, split.symm⟩
  exact (List.prefix_concat_iff.1 start).resolve_left further

/-- If all paths name the same files below an absolute root and below another, then this one is
absolute too, and it is on the way to the first. -/
theorem prefix_of_forall_within?_eq (alike : ∀ path, within? root path = within? other path)
    (absolute : root.isAbsolute = true) :
    other.isAbsolute = true ∧ other.components <+: root.components := by
  -- One path is enough, and every name would do.
  have named : IsName "x" := ⟨by decide, by decide⟩
  have found : within? other (root.join ⟨"x"⟩) = some (ofNames ["x"]) :=
    alike _ ▸ within?_join_name absolute named
  exact ⟨isAbsolute_of_within? (isAbsolute_join_name absolute named) found,
    components_prefix_of_within? absolute named found⟩

/-- Below two roots every path names the same file, if it names one, exactly if the roots mean the
same or both of them are relative. -/
theorem forall_within?_eq_iff (root other : Path) :
    (∀ path, within? root path = within? other path) ↔
      root.components = other.components ∨
        root.isAbsolute = false ∧ other.isAbsolute = false := by
  constructor
  · intro alike
    have below := prefix_of_forall_within?_eq alike
    have above := prefix_of_forall_within?_eq fun path => (alike path).symm
    by_cases absolute : root.isAbsolute = true
    · obtain ⟨also, start⟩ := below absolute
      exact .inl (List.Sublist.antisymm (above also).2.sublist start.sublist)
    · refine .inr ⟨by simpa using absolute, ?_⟩
      rw [← Bool.not_eq_true]
      exact fun also => absolute (above also).1
  · rintro (same | ⟨here, there⟩) path
    · exact within?_congr same path
    · by_cases absolute : path.isAbsolute = true
      · have nothing {root : Path} (relative : root.isAbsolute = false) :
            within? root path = none := by
          rw [Option.eq_none_iff_forall_ne_some]
          intro file found
          exact Bool.false_ne_true (relative.symm.trans (isAbsolute_of_within? absolute found))
        rw [nothing here, nothing there]
      · exact within?_of_relative (by simpa using absolute) root other

end TemplateTree.Path
