import LanguageBridge.Failure
import LanguageBridge.SessionKey

/-!
Where a project begins. Every language has marks that its project roots carry, looked for in the
path itself and then in everything above it; version control and at last the parent directory stand
in when there are none.
-/
namespace LanguageBridge

/-- What marks a directory as the root of a project. -/
inductive RootMark
  | named (name : String)
  | withExtension (suffix : String)
  deriving DecidableEq, Repr

/-- Whether a directory carries a mark. -/
def RootMark.isIn (tree : FileTree) (directory : String) : RootMark → Bool
  | .named name => tree.holds (Path.join directory name)
  | .withExtension suffix =>
    (tree.namesIn directory).any fun name => Path.extension? name = some suffix

namespace ProjectRoot

/-- The marks of a language. Any mark of one group will do, and a group counts only when no path
of the chain carries a mark of an earlier one. -/
def languageMarks : String → List (List RootMark)
  | "rust" => [[.named "Cargo.toml"]]
  | "php" => [[.named "composer.json"]]
  | "javascript" | "typescript" | "javascript.jsx" | "typescript.tsx" => [[.named "package.json"]]
  | "python" =>
    [[.named "setup.py", .named "Pipfile", .named "requirements.txt", .named "pyproject.toml"]]
  | "c" | "cpp" => [[.named "compile_commands.json"]]
  | "cs" => [[.named "project.json", .withExtension "csproj"]]
  | "java" =>
    [[.named "pom.xml", .named "settings.gradle", .named "settings.gradle.kts",
      .named "WORKSPACE"]]
  | "scala" => [[.named "build.sbt"]]
  | "haskell" => [[.named "stack.yaml"], [.withExtension "cabal"]]
  | "go" => [[.named "go.mod"]]
  | _ => []

/-- The marks that version control leaves. -/
def controlMarks : List RootMark := [.named ".git", .named ".hg", .named ".svn"]

/-- The nearest path of a chain that carries one of the marks. -/
def nearest? (tree : FileTree) (chain : List String) (marks : List RootMark) : Option String :=
  chain.find? fun directory => marks.any (·.isIn tree directory)

/-- The root of the project that a file belongs to. -/
def find (tree : FileTree) (path language : String) : Outcome String :=
  let marks := languageMarks language ++ [controlMarks]
  match marks.findSome? (nearest? tree (Path.chain path)) with
  | some directory => .ok directory
  | none =>
    match Path.parent? path with
    | some parent => .ok parent
    | none => .error (.noParent path)

end ProjectRoot

/-- The session that a file of a language belongs to. -/
def SessionKey.ofFile (tree : FileTree) (language file : String) : Outcome SessionKey :=
  (ProjectRoot.find tree file language).map fun root => ⟨language, root⟩

end LanguageBridge
