import Fuatilia.Audit.Record

/-!
# The hash chain of the audit trail

Every record carries the hash of its predecessor and its own, taken over the previous hash and the
canonical JSON of the record, redacted and without the hash itself.

## Main definitions

* `canonicalJson` — the compact text of a value with sorted members; sorting and printing are two
  functions here, and the members of a record are listed in the order of the sort.
* `appendAuditRecord` — build, hash and store a record.
* `verifyChain` — walk a trail, redact again and compare every link and hash, and at the end the
  length and the last hash with what the caller knows.
-/

namespace Fuatilia.Audit

open Fallible

abbrev AuditHashPort := String → String

def GENESIS_PREV_HASH : String := String.ofList (List.replicate 64 '0')

def isHash (text : String) : Bool := text ≠ "" && decide (textLength text ≤ MAX_HASH_LENGTH)

def useHash (hash : AuditHashPort) (input : String) : Except Thrown String := do
  let out := hash input
  throwIf (!isHash out) (DomainError "AUDIT_HASH_PORT_INVALID"
    s!"the injected hash port returned junk (\"{slice out 0 32}…\") — refused, never stored")
  return out

/-! ## Canonical JSON -/

def byKey {α : Type} (a b : String × α) : Ordering := compareText a.1 b.1

mutual

def canonicalValue : JsValue → Except Thrown Json.Value
  | .null => .ok .null
  | .bool b => .ok (.bool b)
  | .string s => .ok (.string s.toList)
  | .number n => .ok (.number n)
  | .nonFinite text => .error (DomainError "AUDIT_SNAPSHOT_INVALID"
      s!"non-finite number {text} cannot be canonicalized")
  | .other type => .error (DomainError "AUDIT_SNAPSHOT_INVALID"
      s!"value of type {type} cannot be canonicalized")
  | .circular => .error (.rangeError "Maximum call stack size exceeded")
  | .array items => (canonicalItems items).map .array
  | .object _ members => do
    let entries ← (jsSort byKey (canonicalMembers members)).mapM fun entry =>
      entry.2.map fun value => (entry.1.toList, value)
    return .object entries

def canonicalItems : List JsValue → Except Thrown (List Json.Value)
  | [] => .ok []
  | item :: items => do
    let item ← canonicalValue item
    let items ← canonicalItems items
    return item :: items

/-- The members of an object with their canonical values; an `undefined` member is left out. -/
def canonicalMembers : List (String × JsValue) → List (String × Except Thrown Json.Value)
  | [] => []
  | (_, .other .undefined) :: members => canonicalMembers members
  | (key, member) :: members => (key, canonicalValue member) :: canonicalMembers members

end

def canonicalJson (value : JsValue) : Except Thrown String :=
  (canonicalValue value).map fun value => String.ofList (Json.print value)

/-! ## The canonical form of a record -/

def optionText : Option String → JsValue
  | none => .null
  | some text => .string text

def AuditActor.toValue (actor : AuditActor) : JsValue :=
  .object none [("id", .string actor.id), ("kind", .string (toString actor.kind)),
    ("orgId", optionText actor.orgId)]

def AuditApproval.toValue (approval : AuditApproval) : JsValue :=
  .object none [("approverId", optionText approval.approverId),
    ("decidedAt", optionText approval.decidedAt), ("ref", .string approval.ref)]

def AuditAiContext.toValue (ai : AuditAiContext) : JsValue :=
  .object none [("agentKind", .string ai.agentKind),
    ("evidenceRefs", .array (ai.evidenceRefs.map .string))]

def AuditRecord.chained (record : AuditRecord) : JsValue :=
  .object none [("action", .string (toString record.action)), ("actor", record.actor.toValue),
    ("aiContext", (record.aiContext.map (·.toValue)).getD .null),
    ("approval", (record.approval.map (·.toValue)).getD .null),
    ("auditId", .string record.auditId), ("correlationId", optionText record.correlationId),
    ("entityId", .string record.entityId), ("entityType", .string record.entityType),
    ("ip", optionText record.ip), ("newState", record.newState),
    ("occurredAt", .string record.occurredAt), ("orgId", .string record.orgId),
    ("prevRecordHash", optionText record.prevRecordHash),
    ("previousState", record.previousState), ("reason", optionText record.reason),
    ("requestId", .string record.requestId), ("userAgent", optionText record.userAgent)]

def canonicalAuditRecord (record : AuditRecord) : Except Thrown String :=
  canonicalJson record.chained

/-- `H(prevHash ‖ canonical(record))`. -/
def chainHash (prevHash : Option String) (record : AuditRecord) (hash : AuditHashPort) :
    Except Thrown String := do
  let canonical ← canonicalAuditRecord record
  useHash hash (prevHash.getD GENESIS_PREV_HASH ++ canonical)

/-! ## The append path -/

structure RecordAppendedEvent where
  occurredAt : String
  auditId : Uuid
  orgId : Uuid
  actorKind : AuditActorKind
  actorId : String
  action : AuditAction
  entityType : String
  entityId : String
  requestId : String
  correlationId : Option String
  prevRecordHash : Option String
  recordHash : String
  recordOccurredAt : String

def recordAppendedEvent (record : AuditRecord) (now : Date) :
    Except Thrown RecordAppendedEvent := do
  let now ← assertAuditClock now
  let occurredAt ← now.toISOString
  return {
    occurredAt, auditId := record.auditId, orgId := record.orgId, actorKind := record.actor.kind,
    actorId := record.actor.id, action := record.action, entityType := record.entityType,
    entityId := record.entityId, requestId := record.requestId,
    correlationId := record.correlationId, prevRecordHash := record.prevRecordHash,
    recordHash := record.recordHash, recordOccurredAt := record.occurredAt }

/-- The readings that an append takes: the caller's clock, and the clock of the store. -/
structure AppendClocks where
  clock : Clock
  sink : Date

def linkTo (prev : Option AuditRecord) : Except Thrown (Option String) :=
  match prev with
  | none => .ok none
  | some prev => do
    assertHashString (some prev.recordHash) "prevRecordHash"
    return some prev.recordHash

def storeRecord (trail : List AuditRecord) (hash : AuditHashPort) (prev : Option AuditRecord)
    (input : AppendAuditInput) (clocks : AppendClocks) :
    Except Thrown (List AuditRecord × AuditRecord) := do
  let _ ← assertAuditClock (clocks.clock.now 0)
  let draft ← buildAuditDraft input (clocks.clock.now 1)
  let prevRecordHash ← linkTo prev
  let unhashed : AuditRecord := { draft with prevRecordHash, recordHash := "" }
  let recordHash ← chainHash prevRecordHash unhashed hash
  let record := { unhashed with recordHash }
  assertRecordShape record
  sinkAppend trail record clocks.sink

def appendAuditRecord (trail : List AuditRecord) (hash : AuditHashPort) (prev : Option AuditRecord)
    (input : AppendAuditInput) (clocks : AppendClocks) :
    Except Thrown (List AuditRecord × AuditRecord × RecordAppendedEvent) := do
  let (trail, stored) ← storeRecord trail hash prev input clocks
  let event ← recordAppendedEvent stored (Date.parseIso stored.occurredAt)
  return (trail, stored, event)

/-! ## Verification -/

structure ChainExpectation where
  length : Option JsNumber
  headHash : Option String

inductive ChainBreakReason where
  | genesisInvalid | prevHashMismatch | recordHashMismatch | hashFieldMalformed | lengthMismatch
  | headMismatch
  deriving DecidableEq

inductive ChainVerification where
  | ok (length : ℕ) (headHash : Option String)
  | broken (index : ℤ) (reason : ChainBreakReason) (detail : String)
  deriving DecidableEq

def nullableText (text : Option String) : String := text.getD "null"

def redacted (record : AuditRecord) : Except Thrown AuditRecord := do
  let previousState ← redactSnapshot record.previousState
  let newState ← redactSnapshot record.newState
  return { record with previousState, newState }

def linkBreak (index : ℕ) (record : AuditRecord) : Option String → ChainVerification
  | none => .broken 0 .genesisInvalid
      "the trail must start at a genesis record (prevRecordHash === null)"
  | some previous => .broken index .prevHashMismatch
      (s!"record {record.auditId} links to {nullableText record.prevRecordHash}, but the " ++
        s!"previous stored hash is {previous} — a record was removed or reordered")

/-- The checks of the record at an index, behind a record with the given hash: the break found. -/
def verifyRecord (hash : AuditHashPort) (index : ℕ) (previous : Option String)
    (record : AuditRecord) : Except Thrown (Option ChainVerification) := do
  if !isHash record.recordHash then
    return some (.broken index .hashFieldMalformed
      s!"record {record.auditId} has a malformed recordHash")
  else if record.prevRecordHash ≠ previous then
    return some (linkBreak index record previous)
  else
    let redacted ← redacted record
    let recomputed ← chainHash record.prevRecordHash redacted hash
    if recomputed ≠ record.recordHash then
      return some (.broken index .recordHashMismatch
        (s!"record {record.auditId} does not match its hash — the record was mutated " ++
          "after append"))
    else return none

def verifyRecords (hash : AuditHashPort) (index : ℕ) (previous : Option String) :
    List AuditRecord → Except Thrown (Option ChainVerification)
  | [] => .ok none
  | record :: records => do
    match ← verifyRecord hash index previous record with
    | some found => return some found
    | none => verifyRecords hash (index + 1) (some record.recordHash) records

def assertExpectedLength : Option JsNumber → Except Thrown Unit
  | none => .ok ()
  | some length => throwIf (length.integer.all (· < 0)) (DomainError "AUDIT_FILTER_INVALID"
      s!"expected.length must be a non-negative integer, got {length.text}")

def checkAnchor (records : List AuditRecord) (expected : ChainExpectation) : ChainVerification :=
  let headHash := records.getLast?.map (·.recordHash)
  match expected.length.filter fun length => length.value ≠ some (records.length : ℚ) with
  | some length => .broken (-1) .lengthMismatch
      s!"trail holds {records.length} records, expected {length.text} — records were truncated"
  | none =>
    match expected.headHash.filter fun head => headHash ≠ some head with
    | some head => .broken (-1) .headMismatch
        (s!"trail head {nullableText headHash} does not match the anchored head {head} — tail " ++
          "records are missing")
    | none => .ok records.length headHash

def verifyChain (records : List AuditRecord) (hash : AuditHashPort) (expected : ChainExpectation) :
    Except Thrown ChainVerification := do
  assertExpectedLength expected.length
  let found ← verifyRecords hash 0 none records
  return found.getD (checkAnchor records expected)

end Fuatilia.Audit
