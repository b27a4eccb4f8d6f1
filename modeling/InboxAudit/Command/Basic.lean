/-!
# Commands

What a user can ask of the program, and the files that a command works with.
-/

namespace InboxAudit
set_option autoImplicit false

/-- What the program is asked to do. -/
inductive Command where
  /-- To get access to the mailbox, without the token that is kept where that is forced. -/
  | auth (force : Bool)
  /-- To audit the mailbox. -/
  | audit (days topN : Option Nat) (json : Option String) (noRules : Bool)
  /-- To check the filters against a policy. -/
  | lint (days : Option Nat) (failOn : Option String)
  /-- To write the default settings to a file, over one that is there where that is forced. -/
  | initConfig (output : String) (force : Bool)
  deriving Repr, DecidableEq

/-- A command with the files that it works with: settings, client secret, and tokens. -/
structure Invocation where
  config : String
  credentials : String
  tokenCache : String
  verbose : Bool
  command : Command
  deriving Repr, DecidableEq

namespace Invocation

/-- The settings file unless another one is named. -/
def defaultConfig : String := "gmail-audit.toml"

/-- The file of the client secret unless another one is named. -/
def defaultCredentials : String := "credentials.json"

/-- The file of the tokens unless another one is named. -/
def defaultTokenCache : String := ".gmail-audit/token.json"

end Invocation

end InboxAudit
