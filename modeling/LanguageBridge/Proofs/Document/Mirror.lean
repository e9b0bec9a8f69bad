import LanguageBridge.Document.Sync
import LanguageBridge.Proofs.Document.Notice
import LanguageBridge.Proofs.Text.Lines

/-!
Documents that are tracked under the names of their sessions, and what of a session's documents
changes when one is put in or taken out.
-/
namespace LanguageBridge

/-- No two files of a session are one document. -/
def UrisApart (owner : String → SessionKey) (files : String → Prop) : Prop :=
  ∀ file other uri, files file → files other → owner file = owner other →
    Uri.ofFileName file = .ok uri → Uri.ofFileName other = .ok uri → file = other

/-- Documents are tracked under names that are used, for the sessions of these names. -/
structure Workspace.Filed (owner : String → SessionKey) (files : String → Prop)
    (workspace : Workspace) : Prop where
  unique : (workspace.documents.entries.map (·.1)).Nodup
  owned : ∀ file document, workspace.documents.get? file = some document →
    files file ∧ document.session = owner file ∧ ∃ uri, Uri.ofFileName file = .ok uri

namespace Workspace

variable {owner : String → SessionKey} {files : String → Prop} {workspace : Workspace}
  {key : SessionKey} {file : String} {document : Document}

theorem mem_documentsOf (filed : workspace.Filed owner files) (key : SessionKey)
    (entry : String × Document) :
    entry ∈ workspace.documentsOf key ↔
      workspace.documents.get? entry.1 = some entry.2 ∧ owner entry.1 = key := by
  rw [documentsOf, List.mem_filter, decide_eq_true_eq,
    Table.mem_entries_iff filed.unique entry.1 entry.2]
  constructor
  · rintro ⟨here, rfl⟩
    exact ⟨here, (filed.owned _ _ here).2.1.symm⟩
  · rintro ⟨here, rfl⟩
    exact ⟨here, (filed.owned _ _ here).2.1⟩

theorem Filed.track (filed : workspace.Filed owner files) (used : files file)
    (belongs : document.session = owner file) {uri : Uri} (named : Uri.ofFileName file = .ok uri) :
    (workspace.track file document).Filed owner files where
  unique := Table.nodup_keys_insert filed.unique file document
  owned := by
    intro name found here
    simp only [Workspace.track, Table.get?_insert] at here
    split at here
    · cases here
      rename_i same
      subst same
      exact ⟨used, belongs, uri, named⟩
    · exact filed.owned name found here

theorem Filed.erase (filed : workspace.Filed owner files) {closed : Workspace}
    (erased : closed.documents = workspace.documents.erase file) : closed.Filed owner files where
  unique := by
    rw [erased]
    exact Table.nodup_keys_erase filed.unique file
  owned := by
    intro name found here
    rw [erased, Table.get?_erase] at here
    split at here
    · cases here
    · exact filed.owned name found here

theorem mem_documentsOf_track (filed : workspace.Filed owner files)
    (tracked : (workspace.track file document).Filed owner files) (entry : String × Document) :
    entry ∈ (workspace.track file document).documentsOf (owner file) ↔
      entry = (file, document) ∨ entry ∈ workspace.documentsOf (owner file) ∧ entry.1 ≠ file := by
  rw [mem_documentsOf tracked, mem_documentsOf filed]
  rcases entry with ⟨name, found⟩
  by_cases same : file = name
  · subst same
    simp [Workspace.track, eq_comm]
  · simp [Workspace.track, same, Ne.symm same]

theorem mem_documentsOf_erase (filed : workspace.Filed owner files) {closed : Workspace}
    (erased : closed.documents = workspace.documents.erase file) (entry : String × Document) :
    entry ∈ closed.documentsOf (owner file) ↔
      entry ∈ workspace.documentsOf (owner file) ∧ entry.1 ≠ file := by
  rw [mem_documentsOf (filed.erase erased), mem_documentsOf filed, erased]
  rcases entry with ⟨name, found⟩
  by_cases same : file = name
  · simp [same]
  · simp [same, Ne.symm same]

/-- The documents of a session change only with what is tracked under its own names. -/
theorem mem_documentsOf_of_same {other : Workspace} (filed : workspace.Filed owner files)
    (again : other.Filed owner files)
    (same : ∀ name, owner name = key → other.documents.get? name = workspace.documents.get? name)
    (entry : String × Document) :
    entry ∈ other.documentsOf key ↔ entry ∈ workspace.documentsOf key := by
  rw [mem_documentsOf again, mem_documentsOf filed]
  constructor
  · rintro ⟨here, mine⟩
    exact ⟨(same _ mine).symm.trans here, mine⟩
  · rintro ⟨here, mine⟩
    exact ⟨(same _ mine).trans here, mine⟩

theorem ownedBy?_eq (filed : workspace.Filed owner files) (file : String) :
    workspace.ownedBy? (owner file) file = workspace.documents.get? file := by
  unfold ownedBy?
  cases here : workspace.documents.get? file with
  | none => rfl
  | some document => simp [(filed.owned file document here).2.1]

end Workspace

end LanguageBridge

/-!
When a server has exactly the tracked documents of a session, and how that stays so when one of them
is put in or taken out on both sides.
-/
namespace LanguageBridge

namespace Uri

theorem eq_ofPath_of_ofFileName {name : String} {uri : Uri} (named : ofFileName name = .ok uri) :
    ∃ path, uri = ofPath path := by
  unfold ofFileName ofFileName? at named
  by_cases absolute : Path.isAbsolute name
  · simp only [absolute, if_true] at named
    exact ⟨_, (Except.ok.inj named).symm⟩
  · simp [absolute] at named

theorem text_ofPath_inj {first second : List Char}
    (same : (ofPath first).text = (ofPath second).text) : first = second := by
  have characters := String.ofList_injective same
  simpa [Uri.characters, ofPath, authorityCharacters] using characters

/-- File names whose URIs read the same have one URI. -/
theorem eq_of_text_eq {name other : String} {uri twin : Uri} (named : ofFileName name = .ok uri)
    (again : ofFileName other = .ok twin) (same : uri.text = twin.text) : uri = twin := by
  obtain ⟨path, rfl⟩ := eq_ofPath_of_ofFileName named
  obtain ⟨way, rfl⟩ := eq_ofPath_of_ofFileName again
  rw [text_ofPath_inj same]

end Uri

/-- A server has exactly these documents, each under a URI of its own and with its version and its
text, up to carriage returns at the ends of lines. -/
structure Mirrors (documents : List (String × Document)) (replica : Table String Copy) : Prop where
  held : ∀ entry ∈ documents, ∃ uri copy, Uri.ofFileName entry.1 = .ok uri ∧
    replica.get? uri.text = some copy ∧ copy.version = entry.2.version ∧
    Text.Alike copy.text entry.2.text
  only : ∀ name copy, replica.get? name = some copy →
    ∃ entry ∈ documents, ∃ uri, Uri.ofFileName entry.1 = .ok uri ∧ uri.text = name
  apart : ∀ entry ∈ documents, ∀ other ∈ documents, ∀ uri, Uri.ofFileName entry.1 = .ok uri →
    Uri.ofFileName other.1 = .ok uri → entry = other

namespace Mirrors

variable {documents others : List (String × Document)} {replica next : Table String Copy}
  {file : String} {document : Document} {uri : Uri} {copy : Copy}

theorem nil : Mirrors [] ∅ where
  held := fun _ impossible => by cases impossible
  only := fun _ _ impossible => by cases impossible
  apart := fun _ impossible => by cases impossible

theorem congr (mirrors : Mirrors documents replica)
    (members : ∀ entry, entry ∈ others ↔ entry ∈ documents) : Mirrors others replica where
  held := fun entry member => mirrors.held entry ((members entry).mp member)
  only := by
    intro name copy here
    obtain ⟨entry, member, found⟩ := mirrors.only name copy here
    exact ⟨entry, (members entry).mpr member, found⟩
  apart := fun entry member other beside =>
    mirrors.apart entry ((members entry).mp member) other ((members other).mp beside)

/-- A document that is new or changed on both sides. -/
theorem put (mirrors : Mirrors documents replica)
    (members : ∀ entry, entry ∈ others ↔
      entry = (file, document) ∨ entry ∈ documents ∧ entry.1 ≠ file)
    (named : Uri.ofFileName file = .ok uri)
    (alone : ∀ entry ∈ documents, Uri.ofFileName entry.1 = .ok uri → entry.1 = file)
    (here : next.get? uri.text = some copy) (version : copy.version = document.version)
    (alike : Text.Alike copy.text document.text)
    (elsewhere : ∀ name, name ≠ uri.text → next.get? name = replica.get? name) :
    Mirrors others next where
  held := by
    intro entry member
    rcases (members entry).mp member with rfl | ⟨old, other⟩
    · exact ⟨uri, copy, named, here, version, alike⟩
    · obtain ⟨twin, kept, again, there, rest⟩ := mirrors.held entry old
      have apart : twin.text ≠ uri.text := by
        intro same
        rw [Uri.eq_of_text_eq again named same] at again
        exact other (alone entry old again)
      exact ⟨twin, kept, again, (elsewhere _ apart).trans there, rest⟩
  only := by
    intro name kept there
    by_cases same : name = uri.text
    · exact ⟨(file, document), (members _).mpr (.inl rfl), uri, named, same.symm⟩
    · rw [elsewhere name same] at there
      obtain ⟨entry, old, twin, again, text⟩ := mirrors.only name kept there
      have other : entry.1 ≠ file := by
        rintro rfl
        cases again.symm.trans named
        exact same text.symm
      exact ⟨entry, (members entry).mpr (.inr ⟨old, other⟩), twin, again, text⟩
  apart := by
    intro first member second beside twin its again
    rcases (members first).mp member with rfl | ⟨old, other⟩ <;>
      rcases (members second).mp beside with rfl | ⟨elder, different⟩
    · rfl
    · obtain rfl := Except.ok.inj (its.symm.trans named)
      exact absurd (alone second elder again) different
    · obtain rfl := Except.ok.inj (again.symm.trans named)
      exact absurd (alone first old its) other
    · exact mirrors.apart first old second elder twin its again

/-- A document that is taken out on both sides. -/
theorem drop (mirrors : Mirrors documents replica)
    (members : ∀ entry, entry ∈ others ↔ entry ∈ documents ∧ entry.1 ≠ file)
    (named : Uri.ofFileName file = .ok uri)
    (alone : ∀ entry ∈ documents, Uri.ofFileName entry.1 = .ok uri → entry.1 = file) :
    Mirrors others (replica.erase uri.text) where
  held := by
    intro entry member
    obtain ⟨old, other⟩ := (members entry).mp member
    obtain ⟨twin, kept, again, there, rest⟩ := mirrors.held entry old
    have apart : uri.text ≠ twin.text := by
      intro same
      rw [Uri.eq_of_text_eq again named same.symm] at again
      exact other (alone entry old again)
    refine ⟨twin, kept, again, ?_, rest⟩
    rw [Table.get?_erase, if_neg apart, there]
  only := by
    intro name kept there
    rw [Table.get?_erase] at there
    by_cases same : uri.text = name
    · simp [same] at there
    · rw [if_neg same] at there
      obtain ⟨entry, old, twin, again, text⟩ := mirrors.only name kept there
      have other : entry.1 ≠ file := by
        rintro rfl
        cases again.symm.trans named
        exact same text
      exact ⟨entry, (members entry).mpr ⟨old, other⟩, twin, again, text⟩
  apart := fun first member second beside =>
    mirrors.apart first ((members first).mp member).1 second ((members second).mp beside).1

/-- A server does not have a document whose file is not among those tracked. -/
theorem absent (mirrors : Mirrors documents replica) (named : Uri.ofFileName file = .ok uri)
    (alone : ∀ entry ∈ documents, Uri.ofFileName entry.1 ≠ .ok uri) :
    replica.get? uri.text = none := by
  cases there : replica.get? uri.text with
  | none => rfl
  | some copy =>
    obtain ⟨entry, member, twin, again, same⟩ := mirrors.only _ _ there
    rw [Uri.eq_of_text_eq again named same] at again
    exact absurd again (alone entry member)

end Mirrors

end LanguageBridge
