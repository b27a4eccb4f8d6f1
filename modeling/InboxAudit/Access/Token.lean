import InboxAudit.Json.Reader
import InboxAudit.Json.Record
import InboxAudit.Time.Instant

/-!
# Access tokens

A token gives access to what its scopes name until it expires. Tokens are kept in a file as a list;
for some scopes the token serves that was issued for just these, or else one that was issued for
these and more.
-/

namespace InboxAudit.Access
set_option autoImplicit false

open Json (allFields? field fieldOr text? list? optional? natBelow? int?)
open Time (Date Instant)

/-- Reading messages and labels. -/
def readScope : String := "https://www.googleapis.com/auth/gmail.readonly"

/-- A token with the scopes that it was issued for. -/
structure Token where
  scopes : List String
  accessToken : Option String
  refreshToken : Option String
  expiresAt : Option Instant
  deriving Repr, DecidableEq

namespace Token

/-- The time of expiry in JSON: the year, the day of the year, hours, minutes, seconds, nanoseconds,
and the offset from Greenwich in hours, minutes and seconds. -/
def expiry? : Json → Option Instant
  | .array [year, day, hour, minute, second, nanos, offsetHour, offsetMinute, offsetSecond] => do
    let year ← int? 32 year
    let day ← natBelow? (if Time.isLeapYear year then 367 else 366) day
    let hour ← natBelow? 24 hour
    let minute ← natBelow? 60 minute
    let second ← natBelow? 60 second
    let nanos ← natBelow? 1000000000 nanos
    let offset := (← int? 8 offsetHour) * 3600 + (← int? 8 offsetMinute) * 60 + (← int? 8 offsetSecond)
    if year.natAbs > 9999 ∨ day = 0 then none
    else
      let days := (Date.toDays ⟨year, 1, 1⟩) + day - 1
      return ⟨days * 86400 + hour * 3600 + minute * 60 + second - offset, nanos⟩
  | _ => none

/-- The token itself in JSON, for some scopes. -/
def body? (scopes : List String) (v : Json) : Option Token := do
  match ← allFields? ["access_token", "refresh_token", "expires_at", "id_token"] v with
  | [access, refresh, expires, identity] =>
    let optionalText := fieldOr none (optional? text?)
    let _ ← optionalText identity
    return ⟨scopes, ← optionalText access, ← optionalText refresh,
      ← fieldOr none (optional? expiry?) expires⟩
  | _ => none

/-- A token with its scopes in JSON. -/
def ofJson? (v : Json) : Option Token := do
  match ← allFields? ["scopes", "token"] v with
  | [scopes, token] => field (body? (← field (list? text?) scopes)) token
  | _ => none

/-- The tokens that some bytes hold. -/
def decode? (bytes : List UInt8) : Option (List Token) :=
  (Json.readBytes bytes).bind (list? ofJson?)

/-- The token was issued for all of some scopes. -/
def covers (scopes : List String) (t : Token) : Bool := scopes.all t.scopes.contains

/-- The token was issued for some scopes and no others. -/
def isFor (scopes : List String) (t : Token) : Bool := t.covers scopes && t.scopes.all scopes.contains

/-- The token of a list that serves for some scopes. -/
def choose? (scopes : List String) (tokens : List Token) : Option Token :=
  (tokens.reverse.find? (·.isFor scopes)).or (tokens.find? (·.covers scopes))

/-- The token is still good for a minute. -/
def isValid (now : Instant) (t : Token) : Bool :=
  match t.expiresAt with
  | none => true
  | some time => now.toRat < time.toRat - 60

end Token

end InboxAudit.Access
