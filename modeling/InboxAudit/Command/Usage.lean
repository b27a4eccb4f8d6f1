import InboxAudit.Command.Grammar

/-!
# Usage

What the program says of itself, and of a command line that it does not carry out.
-/

namespace InboxAudit.Command
set_option autoImplicit false

/-- The name and version of the program. -/
def versionText : String := "gmail-audit 0.1.0\n"

/-- How the program is called. -/
def usage : String :=
  "Usage: gmail-audit [OPTIONS] COMMAND\n" ++
  "\n" ++
  "Replay gmailctl filters against recent mail and report dead rules, missing labels and conflicts\n" ++
  "\n" ++
  "Commands:\n" ++
  "  auth [--force]\n" ++
  "      Authenticate with Gmail API (read-only scope)\n" ++
  "  audit [--days N] [--top N] [--json PATH] [--no-rules]\n" ++
  "      Rank noisy senders and lists and replay gmailctl filters\n" ++
  "  lint [--days N] [--fail-on LIST]\n" ++
  "      Check gmailctl filters and exit non-zero on policy failures\n" ++
  "  init-config [-o PATH] [--force]\n" ++
  "      Write a configuration file with default values\n" ++
  "  help\n" ++
  "      Print this text\n" ++
  "\n" ++
  "Options:\n" ++
  "  -c, --config PATH       Path to configuration file (gmail-audit.toml)\n" ++
  "      --credentials PATH  Path to OAuth2 credentials file (credentials.json)\n" ++
  "      --token-cache PATH  Path to token cache file (.gmail-audit/token.json)\n" ++
  "  -v, --verbose           Verbose logging\n" ++
  "  -h, --help              Print this text\n" ++
  "  -V, --version           Print version\n"

/-- Why a command line is refused, in words. -/
def Refusal.message : Refusal → String
  | .help => "help was asked for"
  | .version => "the version was asked for"
  | .helpInsteadOfCommand => "a command is needed"
  | .missingCommand => "a command is needed"
  | .unknownCommand => "there is no such command"
  | .unknownArgument => "there is no such argument here"
  | .missingValue => "an option lacks its value"
  | .invalidValue => "the value of an option is not valid"
  | .repeated => "an option is given twice"
  | .unwantedValue => "an option takes no value"

end InboxAudit.Command
