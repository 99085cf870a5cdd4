import AgentGovernance.Lib.BufWriter
import AgentGovernance.Lib.TextCodec
import AgentGovernance.Mesh.Audit

/-!
# The action log

`FileActionLog` in `crates/ext/compliance/src/lib.rs`: one JSON line for each record, a
checkpoint file with the hash of the last record, and the same hash in memory.

The log file is the one under the buffered writer; the checkpoint file is a field of the
handle, as nothing else writes it.  Each append takes what the two files do as an argument.
-/

namespace AgentGovernance.Compliance

open AgentGovernance.Lib AgentGovernance.Mesh

structure Checkpoint where
  lastHash : String
  byteOffset : Nat
  deriving DecidableEq

/-- What the log uses from outside: the serializers, the hash function, and the texts of errors. -/
structure LogEnv where
  records : TextCodec ActionLogRecord
  checkpoints : TextCodec Checkpoint
  /-- `Sha256::digest`. -/
  sha256 : Bytes → Bytes
  /-- The error of a line that does not parse. -/
  parseError : Bytes → String
  /-- The error of a log file that cannot be opened. -/
  openError : String
  /-- The error of a failed write. -/
  writeError : String

/-- The two files; `none` is a file that does not exist. -/
structure Disk where
  log : Option Bytes
  checkpoint : Option Bytes
  deriving DecidableEq

/-- No log and no checkpoint. -/
def Disk.blank : Disk where
  log := none
  checkpoint := none

/-- `FileActionLog`, with the content of its files. -/
structure FileActionLog where
  writer : BufWriter
  checkpointFile : Option Bytes
  lastHash : String
  deriving DecidableEq

/-- What `std::fs::write` of the checkpoint does: the file is truncated and then written. -/
inductive CheckpointOutcome where
  | done
  | notOpened
  | failedAfter (n : Nat)
  deriving DecidableEq

/-- The answers of the file system during one append. -/
structure AppendOutcome where
  line : LineOutcome
  /-- `metadata()` succeeds. -/
  metadata : Bool
  checkpoint : CheckpointOutcome
  deriving DecidableEq

/-- No I/O failure. -/
def AppendOutcome.ok : AppendOutcome where
  line := .ok
  metadata := true
  checkpoint := .done

variable (E : LogEnv)

/-! ## Opening and appending -/

/-- The hash that `open` starts with: the checkpoint's, or the genesis text when there is no
    checkpoint or it does not parse.  The log itself is not read. -/
def checkpointHash (checkpoint : Option Bytes) : String :=
  match checkpoint with
  | none => genesis
  | some text =>
    match E.checkpoints.decode text with
    | none => genesis
    | some cp => cp.lastHash

/-- `FileActionLog::open`.  The seek to the checkpoint's offset has no effect on a file opened for
    appending. -/
def FileActionLog.open (d : Disk) : FileActionLog where
  writer := .new (d.log.getD [])
  checkpointFile := d.checkpoint
  lastHash := checkpointHash E d.checkpoint

namespace FileActionLog

/-- The files after the handle is dropped, which flushes the writer. -/
def drop (l : FileActionLog) : Disk where
  log := some l.writer.contents
  checkpoint := l.checkpointFile

/-- The files as a killed process leaves them. -/
def disk (l : FileActionLog) : Disk where
  log := some l.writer.file
  checkpoint := l.checkpointFile

/-- The record as `append` stores it. -/
def stored (l : FileActionLog) (record : ActionLogRecord) : ActionLogRecord :=
  { record with prevHash := l.lastHash }

/-- The checkpoint text for a log of the given hash and length. -/
def checkpointText (lastHash : String) (length : Nat) : Bytes :=
  E.checkpoints.encode { lastHash := lastHash, byteOffset := length }

/-- The checkpoint write at the end of `append`. -/
def writeCheckpoint (l : FileActionLog) (o : CheckpointOutcome) : Bool × FileActionLog :=
  let text := checkpointText E l.lastHash l.writer.file.length
  match o with
  | .done => (true, { l with checkpointFile := some text })
  | .notOpened => (false, l)
  | .failedAfter n =>
    if n < text.length then (false, { l with checkpointFile := some (text.take n) })
    else (true, { l with checkpointFile := some text })

/-- `append`, under the `last_hash` lock from the first line to the last. -/
def append (l : FileActionLog) (record : ActionLogRecord) (o : AppendOutcome) :
    FileActionLog × Except String Unit :=
  let record := l.stored record
  let (written, writer) := l.writer.writeLine (E.records.encode record) o.line
  if !written then ({ l with writer := writer }, .error E.writeError)
  else
    let l := { l with writer := writer, lastHash := record.computeHash E.sha256 }
    if !o.metadata then (l, .error E.writeError)
    else
      let (written, l) := l.writeCheckpoint E o.checkpoint
      if !written then (l, .error E.writeError) else (l, .ok ())

/-! ## Reading -/

/-- Lines parsed one by one; the first that does not parse is the result. -/
def parseLines : List Bytes → Except String (List ActionLogRecord)
  | [] => .ok []
  | line :: rest =>
    match E.records.decode line with
    | none => .error (E.parseError line)
    | some record => (parseLines rest).map (record :: ·)

structure ChainViolation where
  index : Nat
  recordId : Uuid
  expectedPrevHash : String
  actualPrevHash : String
  deriving DecidableEq

/-- The loop of `verify_chain`. -/
def verifyLoop (index : Nat) (expected : String) (violations : List ChainViolation) :
    List Bytes → Except String (List ChainViolation)
  | [] => .ok violations
  | line :: rest =>
    match E.records.decode line with
    | none => .error (E.parseError line)
    | some record =>
      verifyLoop (index + 1) (record.computeHash E.sha256)
        (if record.prevHash ≠ expected then
          violations ++ [⟨index, record.recordId, expected, record.prevHash⟩]
        else violations) rest

def verifyChain (log : Option Bytes) : Except String (List ChainViolation) :=
  match log with
  | none => .error E.openError
  | some file => verifyLoop E 0 genesis [] (lines file)

structure ActionRecord where
  action : String
  timestamp : DateTime
  resourceCategory : DataCategory
  deriving DecidableEq

/-- The record as it appears in an agent's history, when it is a permitted one of that agent. -/
def historyEntry (agentDid : String) (record : ActionLogRecord) : Option ActionRecord :=
  if record.agentDid = agentDid ∧ record.outcome = .permitted then
    some
      { action := record.action
        timestamp := record.timestamp
        resourceCategory := record.resourceCategory }
  else none

def loadHistory (log : Option Bytes) (agentDid : String) : Except String (List ActionRecord) :=
  match log with
  | none => .error E.openError
  | some file => (parseLines E (lines file)).map (·.filterMap (historyEntry agentDid))

def replaySince (log : Option Bytes) (since : DateTime) : Except String (List ActionLogRecord) :=
  match log with
  | none => .error E.openError
  | some file => (parseLines E (lines file)).map (·.filter (since ≤ ·.timestamp))

end FileActionLog

end AgentGovernance.Compliance
