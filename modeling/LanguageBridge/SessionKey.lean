/-!
What a session is for: a language, and the directory that the project's files are in.
-/
namespace LanguageBridge

/-- Two projects in one language have different sessions. -/
structure SessionKey where
  language : String
  root : String
  deriving DecidableEq, Repr, Inhabited

end LanguageBridge
