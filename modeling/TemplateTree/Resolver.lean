import TemplateTree.Workspace

/-!
# Resolvers

The directive files that apply to a template are those of its directory and of the directories above
it, up to the root of the tree. They are looked up from the template's directory upwards and listed
from the root downwards.
-/

namespace TemplateTree.Resolver

def normalize (resolver : Resolver) (path : Path) : Except CompileError Path :=
  match Path.normalize resolver.root path with
  | .ok relative => .ok relative
  | .error rejection => .error (.invalidArgument (.rejected rejection resolver.root path))

/-- Where directive files may apply to a template, given by its normal path, from the root down. The
template itself is not one of them. -/
def candidates (directiveFilename : String) (template : Path) : List Path :=
  (template.ancestors.map (·.join ⟨directiveFilename⟩)).filter
    (·.components ≠ template.components)

/-- Where directive files may apply to a template, from the root down. -/
def directivePaths (resolver : Resolver) (path : Path) : Except CompileError (List Path) :=
  match resolver.normalize path with
  | .error error => .error error
  | .ok template => .ok (candidates resolver.directiveFilename template)

variable {Store Agenda : Type} [Storage Store]

/-- Looks up one path after the other, up to the first failure. The files found are listed in the
opposite order. -/
def lookUpAllSteps (interrupt : Interrupt Store Agenda) (number : Nat) :
    List Path → Process (Workspace Store Agenda) (Except CompileError (List DirectiveFile))
  | [] => return .ok []
  | path :: rest => do
    match ← Workspace.lookUpSteps interrupt number path with
    | .error error => return .error error
    | .ok found =>
      match ← lookUpAllSteps interrupt number rest with
      | .error error => return .error error
      | .ok files => return .ok (files ++ found.toList)

/-- The directive files at several paths, in the opposite order. -/
def lookUpAll (interrupt : Interrupt Store Agenda) (number : Nat)
    (workspace : Workspace Store Agenda) (paths : List Path) :
    Except CompileError (List DirectiveFile) × Workspace Store Agenda :=
  (lookUpAllSteps interrupt number paths).run workspace

/-- The steps in which the directive files that apply to a template are found. -/
def chainSteps (resolver : Resolver) (interrupt : Interrupt Store Agenda) (path : Path) :
    Process (Workspace Store Agenda) (Except CompileError (List DirectiveFile)) :=
  match resolver.directivePaths path with
  | .error error => return .error error
  | .ok paths => lookUpAllSteps interrupt resolver.cache paths.reverse

def chain (resolver : Resolver) (interrupt : Interrupt Store Agenda) (path : Path) :
    Workspace Store Agenda → Except CompileError (List DirectiveFile) × Workspace Store Agenda :=
  (resolver.chainSteps interrupt path).run

theorem lookUpAll_nil (interrupt : Interrupt Store Agenda) (number : Nat)
    (workspace : Workspace Store Agenda) :
    lookUpAll interrupt number workspace [] = (.ok [], workspace) :=
  rfl

theorem lookUpAll_cons (interrupt : Interrupt Store Agenda) (number : Nat)
    (workspace : Workspace Store Agenda) (path : Path) (rest : List Path) :
    lookUpAll interrupt number workspace (path :: rest) =
      match Workspace.lookUp interrupt number path workspace with
      | (.error error, after) => (.error error, after)
      | (.ok found, after) =>
        match lookUpAll interrupt number after rest with
        | (.error error, after) => (.error error, after)
        | (.ok files, after) => (.ok (files ++ found.toList), after) := by
  simp only [lookUpAll, lookUpAllSteps, Process.run_bind, Workspace.lookUp]
  rcases (Workspace.lookUpSteps interrupt number path).run workspace with ⟨error | found, after⟩
  · rfl
  · simp only [Process.run_bind]
    rcases (lookUpAllSteps interrupt number rest).run after with ⟨error | files, last⟩ <;> rfl

theorem chain_eq (resolver : Resolver) (interrupt : Interrupt Store Agenda) (path : Path)
    (workspace : Workspace Store Agenda) :
    resolver.chain interrupt path workspace =
      match resolver.directivePaths path with
      | .error error => (.error error, workspace)
      | .ok paths => lookUpAll interrupt resolver.cache workspace paths.reverse := by
  rw [chain, chainSteps]
  cases resolver.directivePaths path <;> rfl

end TemplateTree.Resolver
