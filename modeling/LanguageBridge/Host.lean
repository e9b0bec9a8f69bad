import LanguageBridge.Expansion

/-!
The machine that the program runs on, as far as it starts other programs: environment, the
directories in which programs are looked for, and which files may be run.
-/
namespace LanguageBridge

/-- The machine; `executables` are the absolute names of the files that may be run. -/
structure Host where
  environment : Environment := {}
  searchPath : List String := []
  executables : List String := []
  processId : Nat := 0
  deriving Repr

namespace Host

/-- Why one file is not run, if it is not. -/
def refusalOf (host : Host) (tree : FileTree) (file : String) : Option SystemError :=
  if host.executables.contains file then none
  else
    match tree.lookup file with
    | .ok _ => some .notPermitted
    | .error error => some error

/-- Why a program that is looked for in directories is not run; one that may not be run counts only
when no later directory has one that may, and a name that is too long ends the search. -/
def searchRefusal (host : Host) (tree : FileTree) (program : String) (found : SystemError) :
    List String → Option SystemError
  | [] => some found
  | directory :: rest =>
    match host.refusalOf tree (Path.join directory program) with
    | none => none
    | some .notPermitted => searchRefusal host tree program .notPermitted rest
    | some .nameTooLong => some .nameTooLong
    | some _ => searchRefusal host tree program found rest

/-- Why a program is not started in a directory, if it is not. -/
def refusal? (host : Host) (tree : FileTree) (directory program : String)
    (arguments : List String) : Option SystemError :=
  if (directory :: program :: arguments).any fun text => text.toList.contains '\x00' then
    some .nulInCommand
  else
    match tree.lookup directory with
    | .error error => some error
    | .ok (.file _) => some .notDirectory
    | .ok .directory =>
      if program.toList.contains '/' then
        let file := if Path.isAbsolute program then program else Path.join directory program
        host.refusalOf tree file
      else if program = "" then some .notFound
      else host.searchRefusal tree program .notFound host.searchPath

end Host

end LanguageBridge
