import TemplateTree.Path.ClassName
import TemplateTree.Proofs.Path.Names
import TemplateTree.Proofs.Template.Names

/-!
# Class names

Whatever path a class is named after, its name is an identifier, and an identifier is named after
itself. In the name of a template of the tree every character of its path has a place. Main
statement: `isIdentifier_className`.
-/

namespace TemplateTree.Path

open Atom (IsIdentifier isNameStart isNamePart)

variable {text : List Char} {path : Path} {c : Char}

/-- What stands in a class name for a character of a path. -/
def spelled (c : Char) : Char :=
  if isClassNameChar c then c else '_'

theorem isClassNameChar_spelled (c : Char) : isClassNameChar (spelled c) = true := by
  rw [spelled]
  split
  · assumption
  · rfl

/-- A digit stands for itself and for nothing else. -/
theorem isDigit_spelled (c : Char) : (spelled c).isDigit = c.isDigit := by
  rw [spelled]
  split
  · rfl
  · next other =>
    simp only [isClassNameChar, Char.isAlphanum, Bool.or_eq_true, not_or,
      Bool.not_eq_true] at other
    exact other.1.2.symm

theorem toNat_lt_of_isClassNameChar (plain : isClassNameChar c = true) : c.toNat < 128 :=
  Nat.lt_of_le_of_lt (Atom.bounds_of_part (.inl plain)).2 (by decide)

/-- A character that a name may start with is no digit. -/
theorem isDigit_eq_false_of_isNameStart (start : isNameStart c = true) : c.isDigit = false := by
  rcases Bool.or_eq_true_iff.1 start with letter | line
  · have low : 'A'.val ≤ c.val := by
      rcases Bool.or_eq_true_iff.1 letter with upper | lower
      · exact (of_decide_eq_true upper : 'A'.val ≤ c.val ∧ c.val ≤ 'Z'.val).1
      · have low : 'a'.val ≤ c.val := of_decide_eq_true (Bool.and_eq_true_iff.1 lower).1
        exact Nat.le_trans (by decide) low
    refine Bool.and_eq_false_iff.2 (.inr (decide_eq_false fun high : c.val ≤ '9'.val => ?_))
    exact absurd (Nat.le_trans low high) (by decide)
  · rw [eq_of_beq line]
    rfl

/-- Where a text does not begin with a slash or a backslash, all of it goes into the class name. -/
theorem classNameOf_cons (slash : c ≠ '/') (backslash : c ≠ '\x5c') (rest : List Char) :
    classNameOf (c :: rest) =
      if c.isDigit then '_' :: (c :: rest).map spelled else (c :: rest).map spelled := by
  have kept : (c :: rest).dropWhile (fun c => c == '/' || c == '\x5c') = c :: rest :=
    List.dropWhile_cons_of_neg (by simp [slash, backslash])
  rw [classNameOf, kept]
  change guardName ((c :: rest).map spelled) = _
  rw [List.map_cons, guardName, isDigit_spelled]

/-- A name that is empty or starts with a digit becomes an identifier by an underscore. -/
theorem isIdentifier_guardName (plain : ∀ c ∈ text, isClassNameChar c = true) :
    IsIdentifier (guardName text) := by
  fun_cases guardName text with
  | case1 => exact ⟨'_', [], rfl, rfl, by simp⟩
  | case2 c rest digit => exact ⟨'_', c :: rest, rfl, rfl, plain⟩
  | case3 c rest other =>
    obtain ⟨here, later⟩ := List.forall_mem_cons.1 plain
    refine ⟨c, rest, rfl, ?_, later⟩
    simpa [isClassNameChar, isNameStart, Char.isAlphanum, other] using here

theorem isIdentifier_classNameOf (text : List Char) : IsIdentifier (classNameOf text) := by
  refine isIdentifier_guardName fun c member => ?_
  obtain ⟨d, -, rfl⟩ := List.mem_map.1 member
  exact isClassNameChar_spelled d

theorem isClassNameChar_of_isIdentifier (identifier : IsIdentifier text) (member : c ∈ text) :
    isClassNameChar c = true := by
  obtain ⟨first, rest, rfl, start, parts⟩ := identifier
  rcases List.mem_cons.1 member with rfl | later
  · exact Atom.isNamePart_of_isNameStart start
  · exact parts c later

/-- The class name made from an identifier is the identifier. -/
theorem classNameOf_of_isIdentifier (identifier : IsIdentifier text) : classNameOf text = text := by
  have kept : text.map spelled = text := by
    refine List.map_congr_left (fun c member => ?_) |>.trans (List.map_id text)
    rw [spelled, if_pos (isClassNameChar_of_isIdentifier identifier member), id]
  obtain ⟨first, rest, rfl, start, -⟩ := identifier
  have slash : first ≠ '/' := by
    rintro rfl
    cases start
  have backslash : first ≠ '\x5c' := by
    rintro rfl
    cases start
  rw [classNameOf_cons slash backslash, kept, isDigit_eq_false_of_isNameStart start,
    if_neg Bool.false_ne_true]

/-- The text of a normal path begins with a character that is no slash. -/
theorem IsNormal.exists_cons (normal : path.IsNormal) :
    ∃ c rest, path.text.toList = c :: rest ∧ c ≠ '/' := by
  obtain ⟨names, filled, named, rfl⟩ := normal
  have relative := isRooted_ofNames named
  have steps := components_ofNames named
  rw [components] at steps
  cases spelling : (ofNames names).text.toList with
  | nil =>
    rw [spelling] at steps
    exact absurd (List.map_eq_nil_iff.1 steps.symm) filled
  | cons c rest =>
    refine ⟨c, rest, rfl, ?_⟩
    rintro rfl
    rw [spelling] at relative
    cases relative

/-- The name of a class is an identifier of ASCII characters, whatever path the class is named
after, and the class named after this name has the same name. After a normal path that does not
begin with a backslash, it has one character for each of the path, with every letter, digit and
underscore in its place, and one underscore in front of them where the path begins with a digit. -/
theorem isIdentifier_className (path : Path) :
    IsIdentifier path.className.toList ∧
      (∀ c ∈ path.className.toList, c.toNat < 128) ∧
      (Path.mk path.className).className = path.className ∧
      ∀ root source, normalize root source = .ok path →
        path.text.toList.head? ≠ some '\x5c' →
        ∃ spelling : List Char,
          path.className.toList =
            (if path.text.toList.head?.any Char.isDigit then '_' :: spelling else spelling) ∧
          spelling.length = path.text.toList.length ∧
          ∀ (position : Nat) c, path.text.toList[position]? = some c →
            spelling[position]? = some (if c.isAlphanum ∨ c = '_' then c else '_') := by
  have identifier : IsIdentifier path.className.toList := by
    rw [className, String.toList_ofList]
    exact isIdentifier_classNameOf _
  refine ⟨identifier, fun c member => ?_, ?_, fun root source named backslash => ?_⟩
  · exact toNat_lt_of_isClassNameChar (isClassNameChar_of_isIdentifier identifier member)
  · rw [className, classNameOf_of_isIdentifier identifier, String.ofList_toList]
  · obtain ⟨first, rest, text, slash⟩ := (isNormal_of_normalize named).exists_cons
    refine ⟨path.text.toList.map spelled, ?_, List.length_map _, fun position c there => ?_⟩
    · rw [text, List.head?_cons] at backslash
      rw [className, String.toList_ofList, text,
        classNameOf_cons slash fun same => backslash (congrArg some same)]
      rfl
    · rw [List.getElem?_map, there, Option.map_some, spelled]
      simp only [isClassNameChar, Bool.or_eq_true, beq_iff_eq]

/-- A template whose path begins with a number and has a letter outside ASCII in it. -/
theorem isIdentifier_className_of_numbered_template :
    let root : Path := ⟨"/views"⟩
    let source : Path := ⟨"/views/./404/x/../ä-b_C.tmpl"⟩
    let path : Path := ⟨"404/ä-b_C.tmpl"⟩
    normalize root source = .ok path ∧ path.text.toList.head? ≠ some '\x5c' ∧
      path.className = "_404___b_C_tmpl" ∧
      ∃ spelling : List Char,
        path.className.toList = '_' :: spelling ∧
        spelling.length = path.text.toList.length ∧
        ∀ (position : Nat) c, path.text.toList[position]? = some c →
          spelling[position]? = some (if c.isAlphanum ∨ c = '_' then c else '_') := by
  intro root source path
  have named : normalize root source = .ok path := by decide +kernel
  have backslash : path.text.toList.head? ≠ some '\x5c' := by decide +kernel
  obtain ⟨spelling, whole, long, places⟩ :=
    (isIdentifier_className path).2.2.2 root source named backslash
  have digit : path.text.toList.head?.any Char.isDigit = true := by decide +kernel
  rw [if_pos digit] at whole
  exact ⟨named, backslash, by decide +kernel, spelling, whole, long, places⟩

end TemplateTree.Path
