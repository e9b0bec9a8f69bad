import Mathlib.Data.List.Forall2
import Mathlib.Data.List.Induction
import LanguageBridge.Proofs.Script.Courses
import LanguageBridge.Proofs.Text.Trim

/-!
What may be registered. A command is given as a text that spells words, or as a list of strings of
which the first is not empty; a handler as a text that is not just white space. Everything else is
refused, with the reason.
-/
namespace LanguageBridge.Extensions

/-- The kinds of what is registered. -/
inductive Kind
  | serverCommand
  | handler
  deriving DecidableEq, Repr

/-- How an entry of a mapping is read. -/
def Kind.read : Kind → String → Json → Except RegistrationError Extension
  | .serverCommand => readCommand
  | .handler => readHandler

/-- What a value of a mapping is good for. -/
inductive Gives : Kind → Json → Extension → Prop
  | spelled {text : String} {words : List Text} (spells : Text.Spells text.toList words)
      (some : words ≠ []) :
      Gives .serverCommand (.str text) (.serverCommand (words.map String.ofList))
  | listed {program : String} (arguments : List String) (some : program ≠ "") :
      Gives .serverCommand (.arr ((program :: arguments).map .str))
        (.serverCommand (program :: arguments))
  | named {text : String} (some : ¬ Text.Blank text.toList) :
      Gives .handler (.str text) (.handler (String.ofList (Text.trim text.toList)))

/-- Why a value of a mapping is good for nothing. -/
inductive Declines (name : String) : Kind → Json → RegistrationError → Prop
  | notStrings {json : Json} (noText : ∀ text, json ≠ .str text)
      (noList : ∀ words : List String, json ≠ .arr (words.map .str)) :
      Declines name .serverCommand json (.notStrings name)
  | blank {text : String} (blank : Text.Blank text.toList) :
      Declines name .serverCommand (.str text) (.noProgram name)
  | noProgram {words : List String} (none : ∀ program ∈ words.head?, program = "") :
      Declines name .serverCommand (.arr (words.map .str)) (.noProgram name)
  | noFunction {json : Json} (none : ∀ text, json = .str text → Text.Blank text.toList) :
      Declines name .handler json (.noFunction name)

theorem strings?_eq_some_iff {items : List Json} {words : List String} :
    strings? items = some words ↔ items = words.map .str := by
  induction items generalizing words with
  | nil => cases words <;> simp [strings?]
  | cons item rest ih =>
    cases item with
    | str value =>
      rw [strings?, Option.map_eq_some_iff]
      constructor
      · rintro ⟨others, found, rfl⟩
        rw [ih.mp found]
        rfl
      · intro same
        cases words with
        | nil => cases same
        | cons word words =>
          obtain ⟨here, there⟩ := List.cons.inj same
          cases here
          exact ⟨words, ih.mpr there, rfl⟩
    | _ => cases words <;> simp [strings?]

theorem strings?_of_words (words : List String) : strings? (words.map .str) = some words :=
  strings?_eq_some_iff.mpr rfl

/-- Words that are spelled are not empty. -/
theorem ofList_ne_empty {text : Text} {words : List Text} (spells : Text.Spells text words)
    {word : Text} (member : word ∈ words) : String.ofList word ≠ "" := fun empty =>
  spells.ne_nil word member (by simpa using congrArg String.toList empty)

/-- What a value gives is read of it. -/
theorem read_of_gives {kind : Kind} {json : Json} {extension : Extension}
    (gives : Gives kind json extension) (name : String) :
    kind.read name json = .ok extension := by
  cases gives with
  | @spelled text words spells some =>
    obtain ⟨word, others, rfl⟩ := List.exists_cons_of_ne_nil some
    have filled := ofList_ne_empty spells List.mem_cons_self
    simp [Kind.read, readCommand, wordsOf?, Text.spells_iff.mp spells, filled]
  | listed arguments some =>
    simp only [Kind.read, readCommand, wordsOf?, strings?_of_words]
    exact if_neg some
  | named some =>
    have filled : Text.trim _ ≠ [] := fun gone => some (Text.trim_eq_nil_iff.mp gone)
    simp [Kind.read, readHandler, filled]

/-- What is wrong with a value is the reason for which it is refused. -/
theorem read_of_declines {kind : Kind} {name : String} {json : Json} {error : RegistrationError}
    (declines : Declines name kind json error) : kind.read name json = .error error := by
  cases declines with
  | notStrings noText noList =>
    have none : wordsOf? json = none := by
      cases json with
      | str text => exact absurd rfl (noText text)
      | arr items =>
        cases found : strings? items with
        | none => exact found
        | some words => exact absurd (congrArg Json.arr (strings?_eq_some_iff.mp found)) (noList words)
      | _ => rfl
    simp only [Kind.read, readCommand, none]
  | blank blank => simp [Kind.read, readCommand, wordsOf?, Text.words_eq_nil_iff.mpr blank]
  | @noProgram words none =>
    simp only [Kind.read, readCommand, wordsOf?, strings?_of_words]
    refine if_pos ?_
    cases words with
    | nil => rfl
    | cons program _ => exact none program rfl
  | noFunction none =>
    cases json with
    | str text => simp [Kind.read, readHandler, Text.trim_eq_nil_iff.mpr (none text rfl)]
    | _ => rfl

/-- Every value gives something or has something wrong with it. -/
theorem gives_or_declines (kind : Kind) (name : String) (json : Json) :
    (∃ extension, Gives kind json extension) ∨ ∃ error, Declines name kind json error := by
  cases kind with
  | serverCommand =>
    by_cases spelled : ∃ text, json = .str text
    · obtain ⟨text, rfl⟩ := spelled
      by_cases blank : Text.Blank text.toList
      · exact .inr ⟨_, .blank blank⟩
      · exact .inl ⟨_, .spelled (Text.spells_iff.mpr rfl)
          fun none => blank (Text.words_eq_nil_iff.mp none)⟩
    · by_cases listed : ∃ words : List String, json = .arr (words.map .str)
      · obtain ⟨words, rfl⟩ := listed
        by_cases none : ∀ program ∈ words.head?, program = ""
        · exact .inr ⟨_, .noProgram none⟩
        · cases words with
          | nil => exact absurd (fun _ empty => nomatch empty) none
          | cons program arguments =>
            refine .inl ⟨_, .listed arguments fun empty => none ?_⟩
            rintro _ ⟨⟩
            exact empty
      · exact .inr ⟨_, .notStrings (fun text same => spelled ⟨text, same⟩)
          fun words same => listed ⟨words, same⟩⟩
  | handler =>
    by_cases named : ∃ text, json = .str text ∧ ¬ Text.Blank text.toList
    · obtain ⟨text, rfl, some⟩ := named
      exact .inl ⟨_, .named some⟩
    · refine .inr ⟨_, .noFunction fun text same => ?_⟩
      by_contra some
      exact named ⟨text, same, some⟩

theorem gives_iff {kind : Kind} {json : Json} {extension : Extension} (name : String) :
    Gives kind json extension ↔ kind.read name json = .ok extension := by
  refine ⟨fun gives => read_of_gives gives name, fun read => ?_⟩
  rcases gives_or_declines kind name json with ⟨other, gives⟩ | ⟨error, declines⟩
  · rw [read_of_gives gives name] at read
    exact Except.ok.inj read ▸ gives
  · rw [read_of_declines declines] at read
    cases read

theorem declines_iff {kind : Kind} {name : String} {json : Json} {error : RegistrationError} :
    Declines name kind json error ↔ kind.read name json = .error error := by
  refine ⟨read_of_declines, fun read => ?_⟩
  rcases gives_or_declines kind name json with ⟨extension, gives⟩ | ⟨other, declines⟩
  · rw [read_of_gives gives name] at read
    cases read
  · rw [read_of_declines declines] at read
    exact Except.error.inj read ▸ declines

end LanguageBridge.Extensions

/-!
What is in force after any calls: under a name the last entry that was good for something, whatever
its kind, so that a command that is found is never empty.
-/
namespace LanguageBridge.Extensions

/-- A call that registers the entries of a mapping. -/
structure Call where
  kind : Kind
  mapping : List (String × Json)

/-- What is registered after a call, and its results. -/
def Call.run (extensions : Extensions) (call : Call) : Extensions × List Registration :=
  match call.kind with
  | .serverCommand => extensions.registerServerCommands call.mapping
  | .handler => extensions.registerHandlers call.mapping

/-- What is registered after calls, one after the other. -/
def registered (calls : List Call) : Extensions :=
  calls.foldl (fun extensions call => (call.run extensions).1) {}

/-- An entry of a mapping in a call. -/
structure Entry where
  kind : Kind
  name : String
  json : Json

/-- What an entry gives. -/
def Entry.Gives (entry : Entry) (extension : Extension) : Prop :=
  Extensions.Gives entry.kind entry.json extension

def Call.entries (call : Call) : List Entry :=
  call.mapping.map fun entry => ⟨call.kind, entry.1, entry.2⟩

/-- The last entry under a name that gives something gives this; those behind it are all good for
nothing. -/
def LastGives (entries : List Entry) (name : String) (extension : Extension) : Prop :=
  ∃ before entry after, entries = before ++ entry :: after ∧ entry.name = name ∧
    entry.Gives extension ∧
    ∀ later ∈ after, later.name = name → ∀ other, ¬ later.Gives other

variable {entries : List Entry} {name : String} {extension : Extension}

theorem not_lastGives_nil : ¬ LastGives [] name extension := by
  rintro ⟨before, entry, after, whole, _⟩
  cases before <;> cases whole

/-- The last entry counts if it is under the name and gives something, and else those before it. -/
theorem lastGives_concat_iff {entry : Entry} :
    LastGives (entries ++ [entry]) name extension ↔
      entry.name = name ∧ entry.Gives extension ∨
        (entry.name = name → ∀ other, ¬ entry.Gives other) ∧ LastGives entries name extension := by
  constructor
  · rintro ⟨before, found, after, whole, named, gives, later⟩
    rcases List.eq_nil_or_concat after with rfl | ⟨between, last, rfl⟩
    · obtain ⟨_, same⟩ := List.append_inj' whole rfl
      cases same
      exact .inl ⟨named, gives⟩
    · rw [List.concat_eq_append, ← List.cons_append, ← List.append_assoc] at whole
      obtain ⟨front, same⟩ := List.append_inj' whole rfl
      cases same
      exact .inr ⟨later entry (by simp), before, found, between, front, named, gives,
        fun other member => later other (by simp [member])⟩
  · rintro (⟨rfl, gives⟩ | ⟨passed, before, found, after, rfl, named, gives, later⟩)
    · exact ⟨entries, entry, [], rfl, rfl, gives, fun _ none => absurd none List.not_mem_nil⟩
    · refine ⟨before, found, after ++ [entry], by simp, named, gives, fun other member => ?_⟩
      rcases List.mem_append.mp member with here | there
      · exact later other here
      · rw [List.mem_singleton.mp there]
        exact passed

/-- What is registered after an entry: what it gives, under its name, and what was there before. -/
def take (extensions : Extensions) (entry : Entry) : Extensions :=
  match entry.kind.read entry.name entry.json with
  | .ok extension => ⟨extensions.entries.insert entry.name extension⟩
  | .error _ => extensions

theorem get?_take_iff (extensions : Extensions) (entry : Entry) :
    (extensions.take entry).entries.get? name = some extension ↔
      entry.name = name ∧ entry.Gives extension ∨
        (entry.name = name → ∀ other, ¬ entry.Gives other) ∧
          extensions.entries.get? name = some extension := by
  have gives (other : Extension) :
      entry.Gives other ↔ entry.kind.read entry.name entry.json = .ok other := gives_iff entry.name
  simp only [take, gives]
  cases read : entry.kind.read entry.name entry.json with
  | error error => simp
  | ok found =>
    rw [Table.get?_insert]
    by_cases here : entry.name = name <;> simp [here]

/-- Entries taken one after the other leave under a name what the last good one gives. -/
theorem get?_foldl_take_iff (entries : List Entry) :
    (entries.foldl take {}).entries.get? name = some extension ↔
      LastGives entries name extension := by
  induction entries using List.reverseRecOn with
  | nil => exact iff_of_false nofun not_lastGives_nil
  | append_singleton entries entry ih =>
    rw [List.foldl_concat, get?_take_iff, ih, lastGives_concat_iff]

theorem register_fst (kind : Kind) (extensions : Extensions) (mapping : List (String × Json)) :
    (register kind.read extensions mapping).1 =
      (Call.entries ⟨kind, mapping⟩).foldl take extensions := by
  induction mapping generalizing extensions with
  | nil => rfl
  | cons entry rest ih =>
    obtain ⟨name, value⟩ := entry
    rw [Call.entries, List.map_cons, List.foldl_cons, take, register]
    cases read : kind.read name value with
    | ok extension =>
      exact ih _
    | error error =>
      exact ih _

theorem Call.run_eq (extensions : Extensions) (call : Call) :
    call.run extensions = register call.kind.read extensions call.mapping := by
  obtain ⟨kind, mapping⟩ := call
  cases kind <;> rfl

theorem registered_eq (calls : List Call) :
    registered calls = (calls.flatMap Call.entries).foldl take {} := by
  unfold registered
  generalize ({} : Extensions) = extensions
  induction calls generalizing extensions with
  | nil => rfl
  | cons call rest ih =>
    rw [List.foldl_cons, ih, List.flatMap_cons, List.foldl_append, Call.run_eq, register_fst]

/-- What is registered under a name is what the last good entry of all calls gives. -/
theorem get?_registered_iff (calls : List Call) :
    (registered calls).entries.get? name = some extension ↔
      LastGives (calls.flatMap Call.entries) name extension := by
  rw [registered_eq, get?_foldl_take_iff]

/-- What becomes of one entry of a mapping that is to be registered. -/
def registration (read : String → Json → Except RegistrationError Extension)
    (entry : String × Json) : Registration :=
  match read entry.1 entry.2 with
  | .ok _ => none
  | .error error => some error

/-- Registration comes to one result for each entry, in their order, whatever was registered
before. -/
theorem results_register (read : String → Json → Except RegistrationError Extension)
    (extensions : Extensions) (mapping : List (String × Json)) :
    (register read extensions mapping).2 = mapping.map (registration read) := by
  induction mapping generalizing extensions with
  | nil => rfl
  | cons entry rest ih =>
    obtain ⟨name, value⟩ := entry
    unfold register
    rw [List.map_cons, registration]
    cases read name value with
    | ok extension => exact congrArg (none :: ·) (ih _)
    | error error => exact congrArg (some error :: ·) (ih _)

/-- The result of an entry: nothing to say where it gives something, or what is wrong with it. -/
structure Resulted (kind : Kind) (entry : String × Json) (result : Registration) : Prop where
  accepted : result = none ↔ ∃ extension, Gives kind entry.2 extension
  refused : ∀ error, result = some error ↔ Declines entry.1 kind entry.2 error

theorem registration_resulted (kind : Kind) (entry : String × Json) :
    Resulted kind entry (registration kind.read entry) := by
  obtain ⟨name, json⟩ := entry
  cases read : kind.read name json with
  | ok extension => constructor <;> simp [registration, read, gives_iff name, declines_iff]
  | error error => constructor <;> simp [registration, read, gives_iff name, declines_iff]

theorem serverCommand?_eq_some_iff {extensions : Extensions} {words : List String} :
    extensions.serverCommand? name = some words ↔
      extensions.entries.get? name = some (.serverCommand words) := by
  unfold serverCommand?
  split <;> simp_all

theorem handler?_eq_some_iff {extensions : Extensions} {function : String} :
    extensions.handler? name = some function ↔
      extensions.entries.get? name = some (.handler function) := by
  unfold handler?
  split <;> simp_all

/-- The command that a value gives has a program in front. -/
theorem exists_program_of_gives {kind : Kind} {json : Json} {words : List String}
    (gives : Gives kind json (.serverCommand words)) :
    ∃ program arguments, words = program :: arguments ∧ program ≠ "" := by
  cases gives with
  | @spelled text words spells some =>
    obtain ⟨word, others, rfl⟩ := List.exists_cons_of_ne_nil some
    exact ⟨String.ofList word, others.map String.ofList, rfl,
      ofList_ne_empty spells List.mem_cons_self⟩
  | @listed program arguments some => exact ⟨program, arguments, rfl, some⟩

theorem exists_program_of_serverCommand {calls : List Call} {words : List String}
    (found : (registered calls).serverCommand? name = some words) :
    ∃ program arguments, words = program :: arguments ∧ program ≠ "" := by
  rw [serverCommand?_eq_some_iff, get?_registered_iff] at found
  obtain ⟨_, _, _, _, _, gives, _⟩ := found
  exact exists_program_of_gives gives

/-- The command that starts a server, registered or configured, is never empty. -/
theorem exists_program_of_commandFor {setup : Setup} {calls : List Call} {language : String}
    {words : List String}
    (found : Session.commandFor setup (registered calls) language = some words) :
    ∃ program arguments, words = program :: arguments := by
  unfold Session.commandFor at found
  split at found
  · rename_i given registered
    cases found
    obtain ⟨program, arguments, same, _⟩ := exists_program_of_serverCommand registered
    exact ⟨program, arguments, same⟩
  · obtain ⟨_, filled⟩ := Option.filter_eq_some_iff.mp found
    exact List.exists_cons_of_ne_nil (by simpa using filled)

end LanguageBridge.Extensions

/-!
Nothing but such calls changes what is registered, so that no start of a server finds a command
without a program, whatever the course of the program.
-/
namespace LanguageBridge

open Extensions

/-- What is registered changes by calls only. -/
def World.Registers (before after : World) : Prop :=
  after.extensions = before.extensions ∨
    ∃ call : Call, after.extensions = (call.run before.extensions).1

theorem World.say_extensions (world : World) (sent : Sent) :
    (world.say sent).1.extensions = world.extensions := by
  unfold say
  split <;> rfl

theorem World.registers_of_perform {host : Host} {thread : Nat} {operation : Operation}
    {answer : operation.Answer} {before after : World}
    (performed : before.perform host thread operation = some (after, answer)) :
    before.Registers after := by
  cases operation with
  | registerServerCommands mapping =>
    cases performed
    exact .inr ⟨⟨.serverCommand, mapping⟩, rfl⟩
  | registerHandlers mapping =>
    cases performed
    exact .inr ⟨⟨.handler, mapping⟩, rfl⟩
  | acquire | workspace | setWorkspace | queue | setQueue | join | dropIfDead | spawn =>
    simp only [perform] at performed
    split at performed <;> cases performed <;> exact .inl rfl
  | receive peer =>
    simp only [perform, receive] at performed
    split at performed
    · cases performed
      exact .inl rfl
    · split at performed <;> cases performed
      exact .inl rfl
  | notify peer method params | reply peer id result =>
    have said := congrArg (·.1.extensions) (Option.some.inj performed)
    exact .inl (said.symm.trans (before.say_extensions _))
  | call peer method params =>
    have silent := before.say_extensions (.call peer before.tickets method (Params.ofJson params))
    simp only [perform] at performed
    split at performed <;> rename_i said <;> rw [said] at silent <;> cases performed <;>
      exact .inl silent
  | await ticket =>
    obtain ⟨_, _, same⟩ := Option.map_eq_some_iff.mp performed
    cases same
    exact .inl rfl
  | _ =>
    cases performed
    exact .inl rfl

theorem System.occur_extensions (system : System) (happening : Happening) :
    (system.occur happening).world.extensions = system.world.extensions := by
  cases happening with
  | answer =>
    simp only [occur]
    split <;> rfl
  | _ => rfl

theorem registered_concat (calls : List Call) (call : Call) :
    registered (calls ++ [call]) = (call.run (registered calls)).1 := by
  rw [registered, List.foldl_concat]
  rfl

/-- On every course what is registered is what calls have registered. -/
theorem Course.exists_registered {setup : Setup} {allowed : Happening → Prop} {tree : FileTree}
    {system : System} (course : Course setup allowed (listening setup tree) system) :
    ∃ calls, system.world.extensions = registered calls := by
  induction course with
  | refl => exact ⟨[], rfl⟩
  | @tail before after _ moved ih =>
    obtain ⟨calls, known⟩ := ih
    have go {world : World} (registers : before.world.Registers world) :
        ∃ calls, world.extensions = registered calls := by
      rcases registers with same | ⟨call, changed⟩
      · exact ⟨calls, same.trans known⟩
      · exact ⟨calls ++ [call], by rw [changed, known, registered_concat]⟩
    cases moved with
    | step moved =>
      rcases Program.step_cases moved with
        ⟨_, _, rfl⟩ | ⟨operation, _, world, _, _, performed, rfl⟩
      · exact go (.inl rfl)
      · obtain ⟨calls, changed⟩ := go (World.registers_of_perform performed)
        exact ⟨calls, changed⟩
    | happen happening _ => exact go (.inl (before.occur_extensions happening))

/-- Registrations in force. Each call comes to one result for each entry of its mapping, in their
order: nothing to say for those that give something, and what is wrong with the others. A command or
a handler is found under a name exactly if it is what the last entry under it gives that gives
anything, of whatever kind; a registered command has a program that is not empty. So it is on every
course of the program, and no start of a server finds a command without words, whatever the
settings. -/
theorem registrations_in_force :
    (∀ (before : List Call) (call : Call), List.Forall₂ (Resulted call.kind) call.mapping
      (call.run (registered before)).2) ∧
    (∀ (calls : List Call) (name : String),
      (∀ words, (registered calls).serverCommand? name = some words ↔
        LastGives (calls.flatMap Call.entries) name (.serverCommand words)) ∧
      (∀ function, (registered calls).handler? name = some function ↔
        LastGives (calls.flatMap Call.entries) name (.handler function)) ∧
      ∀ words, (registered calls).serverCommand? name = some words →
        ∃ program arguments, words = program :: arguments ∧ program ≠ "") ∧
    ∀ (setup : Setup) (allowed : Happening → Prop) (tree : FileTree) (system : System),
      Course setup allowed (listening setup tree) system →
        (∃ calls, system.world.extensions = registered calls) ∧
        ∀ language words, Session.commandFor setup system.world.extensions language = some words →
          ∃ program arguments, words = program :: arguments := by
  refine ⟨fun before call => ?_, fun calls name => ⟨fun words => ?_, fun function => ?_, ?_⟩, ?_⟩
  · rw [Call.run_eq, results_register, List.forall₂_map_right_iff]
    exact List.forall₂_same.mpr fun entry _ => registration_resulted call.kind entry
  · rw [serverCommand?_eq_some_iff, get?_registered_iff]
  · rw [handler?_eq_some_iff, get?_registered_iff]
  · exact fun words => exists_program_of_serverCommand
  · intro setup allowed tree system course
    obtain ⟨calls, known⟩ := course.exists_registered
    refine ⟨⟨calls, known⟩, fun language words found => ?_⟩
    rw [known] at found
    exact exists_program_of_commandFor found

/-- Commands for two languages, one of them not good for anything; then a handler under the name of
the first that is not either, and one under another name; and then a command under that name. -/
def mixedCalls : List Call :=
  [⟨.serverCommand, [("go", .str " gopls  -v"), ("c", .arr [.str "", .str "x"])]⟩,
    ⟨.handler, [("go", .str " "), ("$/progress", .str "H ")]⟩,
    ⟨.serverCommand, [("$/progress", .arr [.str "p"])]⟩]

/-- A command for a language is configured. -/
def goSetup : Setup where
  settings := { servers := .ofList [("go", { command := ["gopls"] })] }

/-- The first command stays in force, and the handler does not; before any call the configured
command counts. -/
theorem mixed_registrations_in_force :
    (registered mixedCalls).serverCommand? "go" = some ["gopls", "-v"] ∧
    LastGives (mixedCalls.flatMap Call.entries) "go" (.serverCommand ["gopls", "-v"]) ∧
    (∃ program arguments, ["gopls", "-v"] = program :: arguments ∧ program ≠ "") ∧
    (registered mixedCalls).handler? "$/progress" = none ∧
    ∃ program arguments, Session.commandFor goSetup (listening goSetup ⟨[], []⟩).world.extensions
      "go" = some (program :: arguments) := by
  have found : (registered mixedCalls).serverCommand? "go" = some ["gopls", "-v"] := by
    decide +kernel
  have lasting := registrations_in_force.2.1 mixedCalls "go"
  refine ⟨found, (lasting.1 _).mp found, lasting.2.2 _ found, by decide +kernel, ?_⟩
  have configured : Session.commandFor goSetup (listening goSetup ⟨[], []⟩).world.extensions "go" =
      some ["gopls"] := by
    decide +kernel
  obtain ⟨program, arguments, same⟩ := (registrations_in_force.2.2 goSetup (fun _ => True) ⟨[], []⟩ _
    Relation.ReflTransGen.refl).2 "go" _ configured
  exact ⟨program, arguments, same ▸ configured⟩

end LanguageBridge
