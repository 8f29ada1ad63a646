import Fuatilia.Shared.Primitives

/-!
# The contact guard

Channels and purposes are enumerations, so the checks that a text is one of them have no case.

## Main definitions

* `isActiveAt` — a row of the registry is in force.
* `assertCanContact` — may a customer be contacted on a channel for a purpose at this moment? A
  refusal is a value with its reason, in a fixed order of precedence.
-/

namespace Fuatilia.Consent

open Fallible

inductive ConsentChannel where
  | whatsapp | sms | email
  deriving DecidableEq

instance : ToString ConsentChannel where
  toString
    | .whatsapp => "whatsapp"
    | .sms => "sms"
    | .email => "email"

inductive ConsentPurpose where
  | dunning | marketing
  deriving DecidableEq

instance : ToString ConsentPurpose where
  toString
    | .dunning => "dunning"
    | .marketing => "marketing"

structure ConsentGrant where
  id : Uuid
  customerId : Uuid
  channel : ConsentChannel
  purpose : ConsentPurpose
  grantedAt : Date
  revokedAt : Option Date
  deriving DecidableEq

def timeLe : Date → Date → Bool
  | .ofTime a, .ofTime b => a ≤ b
  | _, _ => false

def timeGt : Date → Date → Bool
  | .ofTime a, .ofTime b => b < a
  | _, _ => false

/-- The grant was given before and is not withdrawn. -/
def isActiveAt (grant : ConsentGrant) (date : Date) : Bool :=
  timeLe grant.grantedAt date && grant.revokedAt.all fun revokedAt => timeGt revokedAt date

inductive RefusalReason where
  | noGrant | revoked | wrongPurpose | wrongChannel
  deriving DecidableEq

instance : ToString RefusalReason where
  toString
    | .noGrant => "NO_GRANT"
    | .revoked => "REVOKED"
    | .wrongPurpose => "WRONG_PURPOSE"
    | .wrongChannel => "WRONG_CHANNEL"

inductive ContactDecision where
  | allowed (grant : ConsentGrant)
  | refused (reason : RefusalReason) (detail : String)
  deriving DecidableEq

structure ContactRequest where
  customerId : Uuid
  channel : ConsentChannel
  purpose : ConsentPurpose

def latestGrant (grants : List ConsentGrant) : Option ConsentGrant :=
  grants.foldl (fun best g => match best with
    | none => some g
    | some best => if timeLe best.grantedAt g.grantedAt then some g else some best) none

def lastRevokedAt (first : Date) (rest : List Date) : Date :=
  rest.foldl (fun latest date => if timeGt date latest then date else latest) first

def refuseUngranted (mine : List ConsentGrant) (request : ContactRequest) (now : Date) :
    ContactDecision :=
  match mine.find? fun g =>
      g.purpose = request.purpose && g.channel ≠ request.channel && isActiveAt g now with
  | some other => .refused .wrongChannel
      s!"active {request.purpose} consent exists on {other.channel}, not {request.channel}"
  | none => match mine.find? fun g =>
      g.channel = request.channel && g.purpose ≠ request.purpose && isActiveAt g now with
    | some other => .refused .wrongPurpose
        s!"active {other.purpose} consent on {request.channel} does not cover {request.purpose}"
    | none => .refused .noGrant
        (if mine = [] then s!"no consent grants registered for customer {request.customerId}"
        else s!"no active grant supports {request.channel}/{request.purpose} for customer " ++
          request.customerId)

def assertCanContact (grants : List ConsentGrant) (request : ContactRequest) (clock : Clock) :
    Except Thrown ContactDecision := do
  let now := clock.now 0
  throwIf (now = .invalid) (DomainError "CONSENT_CLOCK_INVALID" "clock returned an invalid Date")
  let mine := grants.filter fun g => g.customerId = request.customerId
  let sameTriple := mine.filter fun g => g.channel = request.channel ∧ g.purpose = request.purpose
  match latestGrant (sameTriple.filter fun g => isActiveAt g now) with
  | some active => return .allowed active
  | none => match sameTriple.filterMap fun g => g.revokedAt with
    | first :: rest =>
      let iso ← (lastRevokedAt first rest).toISOString
      return .refused .revoked
        (s!"{request.channel}/{request.purpose} consent for customer {request.customerId} " ++
          s!"was revoked at {iso}")
    | [] => return refuseUngranted mine request now

end Fuatilia.Consent
