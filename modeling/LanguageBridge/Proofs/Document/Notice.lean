import LanguageBridge.Script.World

/-!
What a server knows of documents from what it was told. It follows only what the protocol allows: a
document is opened when it is not open, changed with a higher version and closed when it is open.
-/
namespace LanguageBridge

/-- A notification about an open document. -/
inductive Notice
  | opened (uri : String) (version : Int) (text : Text)
  | changed (uri : String) (version : Int) (text : Text)
  | closed (uri : String)
  deriving DecidableEq, Repr

/-- A server's copy of a document. -/
structure Copy where
  version : Int
  text : Text
  deriving DecidableEq, Repr

namespace Notice

def string? : Json → Option String
  | .str value => some value
  | _ => none

def int? : Json → Option Int
  | .int value => some value
  | _ => none

/-- The only change among the content changes. -/
def soleChange? (params : Json) : Option Json :=
  match params.get? "contentChanges" with
  | some (.arr [change]) => some change
  | _ => none

/-- The notice in a notification, if it is one about an open document. -/
def read? (method : String) (params : Json) : Option Notice := do
  let document ← params.get? "textDocument"
  let uri ← (document.get? "uri").bind string?
  if method = "textDocument/didOpen" then
    let version ← (document.get? "version").bind int?
    let text ← (document.get? "text").bind string?
    return .opened uri version text.toList
  else if method = "textDocument/didChange" then
    let version ← (document.get? "version").bind int?
    let change ← soleChange? params
    let text ← (change.get? "text").bind string?
    return .changed uri version text.toList
  else if method = "textDocument/didClose" then return .closed uri
  else none

theorem read?_ofJson (method : String) (params : Json) :
    read? method (Params.ofJson params).toJson = read? method params := by
  cases params <;> rfl

/-- The notice that a server got with something that was said. -/
def heard? (server : ServerId) : Sent → Option Notice
  | .notification peer method params =>
    if peer = .server server then read? method params.toJson else none
  | _ => none

/-- The document whose version a notice tells, and the version. -/
def version? : Notice → Option (String × Int)
  | .opened uri version _ => some (uri, version)
  | .changed uri version _ => some (uri, version)
  | .closed _ => none

/-- The document that a notice is about. -/
def uri : Notice → String
  | .opened uri .. => uri
  | .changed uri .. => uri
  | .closed uri => uri

end Notice

/-- The notices that a server got so far. -/
def World.noticesTo (world : World) (server : ServerId) : List Notice :=
  world.traffic.filterMap (Notice.heard? server)

/-- Of two versions told for a document the later is higher, unless it was closed in between. -/
def VersionsRise (notices : List Notice) : Prop :=
  ∀ earlier between later : List Notice, ∀ first second : Notice, ∀ uri low high,
    notices = earlier ++ first :: (between ++ second :: later) →
    first.version? = some (uri, low) → second.version? = some (uri, high) →
    .closed uri ∉ between → low < high

namespace Replica

/-- What a server makes of a notice; `none` when the protocol does not allow it. -/
def take? (replica : Table String Copy) : Notice → Option (Table String Copy)
  | .opened uri version text =>
    if replica.contains uri then none else some (replica.insert uri ⟨version, text⟩)
  | .changed uri version text =>
    match replica.get? uri with
    | some copy => if copy.version < version then some (replica.insert uri ⟨version, text⟩) else none
    | none => none
  | .closed uri => if replica.contains uri then some (replica.erase uri) else none

/-- What a server makes of notices, one after the other. -/
def takeAll? (replica : Table String Copy) (notices : List Notice) : Option (Table String Copy) :=
  notices.foldlM take? replica

/-- The copies of a server that was told these notices. -/
def replay? (notices : List Notice) : Option (Table String Copy) := takeAll? ∅ notices

variable {replica final : Table String Copy}

@[simp] theorem takeAll?_nil (replica : Table String Copy) : takeAll? replica [] = some replica :=
  rfl

theorem takeAll?_cons (replica : Table String Copy) (notice : Notice) (rest : List Notice) :
    takeAll? replica (notice :: rest) =
      (take? replica notice).bind fun next => takeAll? next rest :=
  rfl

theorem takeAll?_append (replica : Table String Copy) (first second : List Notice) :
    takeAll? replica (first ++ second) =
      (takeAll? replica first).bind fun next => takeAll? next second :=
  List.foldlM_append

theorem replay?_append (first second : List Notice) :
    replay? (first ++ second) =
      (replay? first).bind fun replica => takeAll? replica second :=
  takeAll?_append ∅ first second

/-- Notices about other documents leave a copy alone. -/
theorem get?_of_take?_of_ne {notice : Notice} {uri : String} (other : notice.uri ≠ uri)
    (applied : take? replica notice = some final) : final.get? uri = replica.get? uri := by
  cases notice with
  | opened name version text =>
    simp only [take?, Option.ite_none_left_eq_some, Option.some.injEq] at applied
    simp [← applied.2, show name ≠ uri from other]
  | changed name version text =>
    simp only [take?] at applied
    split at applied
    · simp only [Option.ite_none_right_eq_some, Option.some.injEq] at applied
      simp [← applied.2, show name ≠ uri from other]
    · cases applied
  | closed name =>
    simp only [take?, Option.ite_none_right_eq_some, Option.some.injEq] at applied
    simp [← applied.2, show name ≠ uri from other]

/-- The copy has the version that was told. -/
theorem get?_of_take?_of_version? {notice : Notice} {uri : String} {version : Int}
    (tells : notice.version? = some (uri, version)) (applied : take? replica notice = some final) :
    ∃ copy, final.get? uri = some copy ∧ copy.version = version := by
  cases notice with
  | opened name told text =>
    obtain ⟨rfl, rfl⟩ := Prod.mk.inj (Option.some.inj tells)
    simp only [take?, Option.ite_none_left_eq_some, Option.some.injEq] at applied
    exact ⟨⟨told, text⟩, by simp [← applied.2], rfl⟩
  | changed name told text =>
    obtain ⟨rfl, rfl⟩ := Prod.mk.inj (Option.some.inj tells)
    simp only [take?] at applied
    split at applied
    · simp only [Option.ite_none_right_eq_some, Option.some.injEq] at applied
      exact ⟨⟨told, text⟩, by simp [← applied.2], rfl⟩
    · cases applied
  | closed name => cases tells

/-- While a document is open, only higher versions are told. -/
theorem version_lt_of_take? {notice : Notice} {uri : String} {version : Int} {copy : Copy}
    (here : replica.get? uri = some copy) (tells : notice.version? = some (uri, version))
    (applied : take? replica notice = some final) : copy.version < version := by
  cases notice with
  | opened name told text =>
    obtain ⟨rfl, rfl⟩ := Prod.mk.inj (Option.some.inj tells)
    simp [take?, Table.contains, here] at applied
  | changed name told text =>
    obtain ⟨rfl, rfl⟩ := Prod.mk.inj (Option.some.inj tells)
    simp only [take?, here, Option.ite_none_right_eq_some] at applied
    exact applied.1
  | closed name => cases tells

private theorem version_lt_of_takeAll? {between later : List Notice} {second : Notice}
    {uri : String} {high : Int} {copy : Copy} (here : replica.get? uri = some copy)
    (tells : second.version? = some (uri, high)) (kept : .closed uri ∉ between)
    (applied : takeAll? replica (between ++ second :: later) = some final) :
    copy.version < high := by
  induction between generalizing replica copy with
  | nil =>
    rw [List.nil_append, takeAll?_cons, Option.bind_eq_some_iff] at applied
    obtain ⟨next, step, _⟩ := applied
    exact version_lt_of_take? here tells step
  | cons notice rest ih =>
    rw [List.cons_append, takeAll?_cons, Option.bind_eq_some_iff] at applied
    obtain ⟨next, step, others⟩ := applied
    rw [List.mem_cons, not_or] at kept
    by_cases same : notice.uri = uri
    · have told : ∃ version, notice.version? = some (uri, version) := by
        cases notice with
        | opened name version text => exact ⟨version, by rw [← same]; rfl⟩
        | changed name version text => exact ⟨version, by rw [← same]; rfl⟩
        | closed name => exact absurd (congrArg Notice.closed same.symm) kept.1
      obtain ⟨version, told⟩ := told
      have lower := version_lt_of_take? here told step
      obtain ⟨newer, there, exact⟩ := get?_of_take?_of_version? told step
      have higher := ih there kept.2 others
      omega
    · rw [← get?_of_take?_of_ne same step] at here
      exact ih here kept.2 others

/-- A server that could follow all it was told was told rising versions. -/
theorem versionsRise_of_replay? {notices : List Notice} (replayed : replay? notices = some final) :
    VersionsRise notices := by
  intro earlier between later first second uri low high whole tells retells kept
  rw [whole, replay?_append, Option.bind_eq_some_iff] at replayed
  obtain ⟨before, _, replayed⟩ := replayed
  rw [takeAll?_cons, Option.bind_eq_some_iff] at replayed
  obtain ⟨after, step, rest⟩ := replayed
  obtain ⟨copy, here, rfl⟩ := get?_of_take?_of_version? tells step
  exact version_lt_of_takeAll? here retells kept rest

end Replica

end LanguageBridge
