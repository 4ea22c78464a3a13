/-!
# Failures

* `FailureKind` : what went wrong with a recovery password or with its entry; the kinds form a tree;
* `FailureKind.ancestors`, `FailureKind.isA` : the path to the root, and membership in it;
* `Failure` : a kind with its message and, for a rejected password, the place and the text rejected;
* `Failure.make?` : a failure, unless it is to have a place that its kind does not have.
-/

namespace KeyRecovery

inductive FailureKind
  | recoveryKey
  | invalidPassword
  | wrongLength
  | invalidBlock
  | malformed
  /-- A block is not a multiple of eleven, or its check digit does not fit. -/
  | checksum
  | outOfRange
  | inputStream
  deriving DecidableEq, Repr

namespace FailureKind

def all : List FailureKind :=
  [recoveryKey, invalidPassword, wrongLength, invalidBlock, malformed, checksum, outOfRange,
    inputStream]

def ancestors : FailureKind → List FailureKind
  | recoveryKey => [recoveryKey]
  | invalidPassword => [invalidPassword, recoveryKey]
  | wrongLength => [wrongLength, invalidPassword, recoveryKey]
  | invalidBlock => [invalidBlock, invalidPassword, recoveryKey]
  | malformed => [malformed, invalidBlock, invalidPassword, recoveryKey]
  | checksum => [checksum, invalidBlock, invalidPassword, recoveryKey]
  | outOfRange => [outOfRange, invalidBlock, invalidPassword, recoveryKey]
  | inputStream => [inputStream, recoveryKey]

def isA (k j : FailureKind) : Bool := k.ancestors.contains j

end FailureKind

/-- A failure with its message. `block` and `value` locate a rejected part of a password. -/
structure Failure where
  kind : FailureKind
  message : String
  block : Option Int
  value : Option (List Char)
  deriving DecidableEq

/-- Where a password was rejected: the block, and what stood there. -/
structure Rejected where
  block : Option Int
  value : Option (List Char)
  deriving DecidableEq

namespace Failure

def make? (kind : FailureKind) (message : String) : Option Rejected → Option Failure
  | none => some ⟨kind, message, none, none⟩
  | some r => if kind.isA .invalidPassword then some ⟨kind, message, r.block, r.value⟩ else none

end Failure

end KeyRecovery
