import Mathlib.Data.List.Infix
import TemplateTree.Path.Normal

/-!
# Paths made of names

How a text falls into its pieces when it is put together from others, and what this says of the
paths that consist of names only. Main statements: `isNormal_of_normalize` and
`IsNormal.normalize_eq` say that normal paths are these, and that every root leaves them as they
are.
-/

namespace TemplateTree.Path

/-- A text that is one step to an entry of a directory. -/
structure IsName (name : String) : Prop where
  unbroken : '/' ∉ name.toList
  step : component? name.toList = some (.name name)

theorem pieces_ne_nil (text : List Char) : pieces text ≠ [] := by
  fun_cases pieces text <;> simp

theorem pieces_of_unbroken {text : List Char} (unbroken : '/' ∉ text) : pieces text = [text] := by
  induction text with
  | nil => rfl
  | cons c rest inductionHypothesis =>
    obtain ⟨other, later⟩ := List.ne_and_not_mem_of_not_mem_cons unbroken
    rw [pieces, if_neg (Ne.symm other), inductionHypothesis later]

/-- The pieces of two texts with a slash between them. -/
theorem pieces_append_slash (first rest : List Char) :
    pieces (first ++ '/' :: rest) = pieces first ++ pieces rest := by
  induction first with
  | nil => rfl
  | cons c more inductionHypothesis =>
    rw [List.cons_append, pieces, pieces, inductionHypothesis]
    split
    · rfl
    · cases split : pieces more with
      | nil => exact absurd split (pieces_ne_nil more)
      | cons piece others => rfl

/-- No slash is left in a piece. -/
theorem slash_not_mem_of_mem_pieces {text piece : List Char} (member : piece ∈ pieces text) :
    '/' ∉ piece := by
  induction text generalizing piece with
  | nil =>
    rw [List.mem_singleton.1 member]
    exact List.not_mem_nil
  | cons c rest inductionHypothesis =>
    rw [pieces] at member
    split at member
    · rcases List.mem_cons.1 member with rfl | later
      · exact List.not_mem_nil
      · exact inductionHypothesis later
    · next other =>
      split at member
      · rw [List.mem_singleton.1 member]
        simpa using Ne.symm other
      · next first others split =>
        rcases List.mem_cons.1 member with rfl | later
        · have unbroken := inductionHypothesis (split ▸ List.mem_cons_self)
          simpa [Ne.symm other] using unbroken
        · exact inductionHypothesis (split ▸ List.mem_cons_of_mem _ later)

/-- Behind a slash, every piece stands for a step or for none. -/
theorem componentsOf_append_slash {first : List Char} (filled : first ≠ []) (rest : List Char) :
    componentsOf (first ++ '/' :: rest) =
      componentsOf first ++ (pieces rest).filterMap component? := by
  have rooted : isRooted (first ++ '/' :: rest) = isRooted first := by
    cases first with
    | nil => exact absurd rfl filled
    | cons c more =>
      by_cases slash : c = '/'
      · rw [slash]
        rfl
      · simp [isRooted, slash]
  rw [componentsOf, componentsOf, pieces_append_slash, rooted]
  cases split : pieces first with
  | nil => exact absurd split (pieces_ne_nil first)
  | cons piece others => simp [List.filterMap_append]

/-- The pieces that stand for entries of directories are names. -/
theorem isName_of_component? {piece : List Char} {name : String} (unbroken : '/' ∉ piece)
    (read : component? piece = some (.name name)) : IsName name := by
  have spelled : String.ofList piece = name := by
    revert read
    fun_cases component? piece <;> simp
  rw [← spelled] at read ⊢
  rw [← String.toList_ofList (l := piece)] at unbroken read
  exact ⟨unbroken, by rw [read, String.ofList_toList]⟩

/-- The entries of directories that a path leads through have names. -/
theorem isName_of_mem_components {path : Path} {name : String}
    (member : .name name ∈ path.components) : IsName name := by
  rw [components, componentsOf] at member
  split at member
  · cases member
  · next first rest split =>
    have named {piece : List Char} (inside : piece ∈ pieces path.text.toList)
        (read : component? piece = some (.name name)) : IsName name :=
      isName_of_component? (slash_not_mem_of_mem_pieces inside) read
    rcases List.mem_append.1 member with early | late
    · rw [start] at early
      split at early
      · simp at early
      · split at early
        · simp at early
        · exact named (split ▸ List.mem_cons_self) (Option.mem_toList.1 early)
    · obtain ⟨piece, inside, read⟩ := List.mem_filterMap.1 late
      exact named (split ▸ List.mem_cons_of_mem _ inside) read

/-- A name starts with a character that is no slash. -/
theorem IsName.exists_cons {name : String} (named : IsName name) :
    ∃ c rest, name.toList = c :: rest ∧ c ≠ '/' := by
  cases spelled : name.toList with
  | nil =>
    have step := named.step
    rw [spelled] at step
    cases step
  | cons c rest =>
    refine ⟨c, rest, rfl, ?_⟩
    rintro rfl
    exact named.unbroken (spelled ▸ List.mem_cons_self)

/-- A name ends in a character that is no slash. -/
theorem IsName.exists_concat {name : String} (named : IsName name) :
    ∃ front c, name.toList = front ++ [c] ∧ c ≠ '/' := by
  obtain ⟨d, rest, spelled, -⟩ := named.exists_cons
  have filled : name.toList ≠ [] := spelled ▸ List.cons_ne_nil d rest
  obtain ⟨front, c, ends⟩ := (List.eq_nil_or_concat _).resolve_left filled
  rw [List.concat_eq_append] at ends
  refine ⟨front, c, ends, ?_⟩
  rintro rfl
  exact named.unbroken (by simp [ends])

/-- A relative path that begins with a name begins with this step. -/
theorem IsName.start_eq {name : String} (named : IsName name) :
    start false name.toList = [.name name] := by
  have noDot : name.toList ≠ ['.'] := by
    intro dot
    have step := named.step
    rw [dot] at step
    cases step
  simp [start, noDot, named.step]

theorem ofNames_singleton (name : String) : ofNames [name] = ⟨name⟩ := by
  simp [ofNames]

/-- Names below others stand behind a slash. -/
theorem toList_ofNames_append {above below : List String} (filled : above ≠ [])
    (more : below ≠ []) :
    (ofNames (above ++ below)).text.toList =
      (ofNames above).text.toList ++ '/' :: (ofNames below).text.toList := by
  induction above with
  | nil => exact absurd rfl filled
  | cons first rest inductionHypothesis =>
    have further {names : List String} (some : names ≠ []) :
        (ofNames (first :: names)).text.toList =
          first.toList ++ '/' :: (ofNames names).text.toList := by
      cases names with
      | nil => exact absurd rfl some
      | cons second others => simp [ofNames, String.intercalate_cons_cons]
    cases rest with
    | nil => rw [List.singleton_append, further more, ofNames_singleton]
    | cons second others =>
      have below := inductionHypothesis (List.cons_ne_nil second others)
      rw [List.cons_append, further (by simp), below, further (by simp), List.append_assoc,
        List.cons_append]

/-- A path of names falls into these names. -/
theorem pieces_ofNames {first : String} {rest : List String}
    (named : ∀ name ∈ first :: rest, IsName name) :
    pieces (ofNames (first :: rest)).text.toList = (first :: rest).map String.toList := by
  induction rest generalizing first with
  | nil =>
    rw [ofNames_singleton, pieces_of_unbroken (named first List.mem_cons_self).unbroken]
    rfl
  | cons second rest inductionHypothesis =>
    obtain ⟨here, below⟩ := List.forall_mem_cons.1 named
    have spelled := toList_ofNames_append (List.cons_ne_nil first [])
      (List.cons_ne_nil second rest)
    rw [List.singleton_append, ofNames_singleton] at spelled
    rw [spelled, pieces_append_slash, pieces_of_unbroken here.unbroken, inductionHypothesis below]
    rfl

/-- A path of names does not start at the root directory. -/
theorem isRooted_ofNames {names : List String} (named : ∀ name ∈ names, IsName name) :
    isRooted (ofNames names).text.toList = false := by
  cases names with
  | nil => rfl
  | cons first rest =>
    obtain ⟨c, more, spelled, other⟩ := (named first List.mem_cons_self).exists_cons
    have whole : ∃ behind, (ofNames (first :: rest)).text.toList = c :: behind := by
      cases rest with
      | nil => exact ⟨more, by rw [ofNames_singleton, spelled]⟩
      | cons second rest =>
        have joined := toList_ofNames_append (List.cons_ne_nil first [])
          (List.cons_ne_nil second rest)
        rw [List.singleton_append, ofNames_singleton, spelled, List.cons_append] at joined
        exact ⟨_, joined⟩
    obtain ⟨behind, whole⟩ := whole
    rw [whole, isRooted]
    rintro text ⟨⟩
    exact other rfl

/-- What a path of names means. -/
theorem components_ofNames {names : List String} (named : ∀ name ∈ names, IsName name) :
    (ofNames names).components = names.map .name := by
  cases names with
  | nil => rfl
  | cons first rest =>
    obtain ⟨here, below⟩ := List.forall_mem_cons.1 named
    have steps : (rest.map String.toList).filterMap component? = rest.map .name := by
      rw [List.filterMap_map, ← List.filterMap_eq_map]
      exact List.filterMap_congr fun name member => (below name member).step
    rw [components, componentsOf, pieces_ofNames named]
    simp only [List.map_cons, isRooted_ofNames named, here.start_eq, steps, List.singleton_append]

/-- Walking along names passes them in order. -/
theorem walk_map_name (reversed names : List String) :
    walk reversed (names.map .name) = .ok (reversed.reverse ++ names) := by
  induction names generalizing reversed with
  | nil => simp [walk]
  | cons name rest inductionHypothesis =>
    rw [List.map_cons, walk, inductionHypothesis]
    simp

/-- A walk ends below names that it started below or passed. -/
theorem mem_of_walk {reversed : List String} {location : Location} {names : List String}
    (walked : walk reversed location = .ok names) {name : String} (member : name ∈ names) :
    name ∈ reversed ∨ .name name ∈ location := by
  fun_induction walk reversed location with
  | case1 reversed =>
    cases walked
    exact .inl (List.mem_reverse.1 member)
  | case2 reversed passed rest inductionHypothesis =>
    rcases inductionHypothesis walked with before | later
    · rcases List.mem_cons.1 before with rfl | before
      · exact .inr List.mem_cons_self
      · exact .inl before
    · exact .inr (List.mem_cons_of_mem _ later)
  | case3 reversed rest inductionHypothesis =>
    exact (inductionHypothesis walked).imp_right (List.mem_cons_of_mem _)
  | case4 => cases walked
  | case5 rest left outer inductionHypothesis =>
    exact (inductionHypothesis walked).imp (List.mem_cons_of_mem _) (List.mem_cons_of_mem _)
  | case6 => cases walked

/-- A path that consists of names only. -/
def IsNormal (path : Path) : Prop :=
  ∃ names, names ≠ [] ∧ (∀ name ∈ names, IsName name) ∧ path = ofNames names

/-- The form that every spelling is brought into has only names. -/
theorem isNormal_of_normalize {root path relative : Path}
    (normal : normalize root path = .ok relative) : relative.IsNormal := by
  rw [normalize, normalNames] at normal
  split at normal
  · cases normal
  · next names read =>
    split at read
    · cases read
    · next location below =>
      have inside : location <:+ path.components := by
        rw [relativeTo?] at below
        split at below
        · split at below
          · next rest found =>
            cases below
            exact ⟨_, (Text.after?_eq_some_iff.1 found).symm⟩
          · cases below
        · cases below
          exact List.suffix_rfl
      split at read
      · cases read
      · cases read
      · next filled walked =>
        cases read
        cases normal
        refine ⟨names, filled, fun name member => ?_, rfl⟩
        have passed := (mem_of_walk walked member).resolve_left List.not_mem_nil
        exact isName_of_mem_components (inside.mem passed)

/-- Under every root, a path that consists of names is normal already. -/
theorem IsNormal.normalize_eq {path : Path} (normal : path.IsNormal) (root : Path) :
    normalize root path = .ok path := by
  obtain ⟨names, filled, named, rfl⟩ := normal
  have relative : (ofNames names).isAbsolute = false := isRooted_ofNames named
  have read : normalNames root (ofNames names) = .ok names := by
    rw [normalNames, relativeTo?, relative, components_ofNames named]
    simp only [Bool.false_eq_true, if_false, walk_map_name]
    cases names with
    | nil => exact absurd rfl filled
    | cons first rest => rfl
  rw [normalize, read]

end TemplateTree.Path
