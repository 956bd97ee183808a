import TxStream.Protocol.Stream

/-!
# `lib.rs` — what the client sees of the transport

The messages, status codes and errors of the client, and a validated
transaction. The gRPC transport itself is outside of the repository: an
attachment is what its `message()` calls return, in order.
-/

namespace TxStream

open Wire Rust

/-- `tonic::Code`. -/
inductive Code where
  | ok
  | cancelled
  | unknown
  | invalidArgument
  | deadlineExceeded
  | notFound
  | alreadyExists
  | permissionDenied
  | resourceExhausted
  | failedPrecondition
  | aborted
  | outOfRange
  | unimplemented
  | internal
  | unavailable
  | dataLoss
  | unauthenticated
deriving DecidableEq, Repr

/-- The client's `Error`, as far as the modelled functions return it. The texts that two
of its variants carry are part of the value. -/
inductive Error where
  | invalidConfig
  | invalidObservation (text : String)
  | invalidFilter (text : String)
  | status (code : Code)
  | subscribeTimeout
  | stream (error : CanonicalStreamError)
  | endOfStream
deriving DecidableEq, Repr

/-- What one call of `message()` returns: a message, the end of the stream, or a status.
These are the `Ok(Some(_))`, `Ok(None)` and `Err(_)` of the source. -/
inductive Message (μ : Type) where
  | message (payload : μ)
  | endOfStream
  | status (code : Code)

/-- How a stream of messages is broken off. -/
inductive Ending where
  | endOfStream
  | status (code : Code)

/-- The outcome in which it shows. -/
def Ending.outcome {μ : Type} : Ending → Message μ
  | .endOfStream => .endOfStream
  | .status code => .status code

/-- The error that an attachment returns for it. -/
def Ending.error : Ending → Error
  | .endOfStream => .endOfStream
  | .status code => .status code

-- ---------------------------------------------------------------------------
-- Generated messages
-- ---------------------------------------------------------------------------

namespace Proto

/-- A message of the resolved-only subscription: the bytes of one canonical frame. -/
structure ResolvedTransactionFrame where
  canonicalV1 : Bytes
deriving DecidableEq

/-- A transaction whose lookups the server could not resolve, with its place in the
stream. It is sent with the transaction's own bytes in place of a frame. -/
structure UnresolvedTransaction where
  producerEpoch : UInt64
  structuralSequence : UInt64
  slot : UInt64
  transaction : Bytes
  reason : String
deriving DecidableEq

/-- `transaction_frame::Payload`, the `oneof` of a transaction frame. -/
inductive Payload where
  | canonicalV1 (bytes : Bytes)
  | unresolved (raw : UnresolvedTransaction)
deriving DecidableEq

/-- A message of the subscription to all transactions. The payload may be absent: the
wire does not force a `oneof` to be set. -/
structure TransactionFrame where
  payload : Option Payload
deriving DecidableEq

end Proto

/-! ## Delivered transactions

An accessor that unwraps returns `none` where the code panics. -/

/-- A delivered frame. Only its bytes are kept, and an accessor parses them again. -/
structure ResolvedTransaction where
  bytes : Bytes
deriving DecidableEq

namespace ResolvedTransaction

/-- `frame`: parses the bytes kept and unwraps the result. -/
def frame (tx : ResolvedTransaction) : Option ValidatedFrame :=
  (ValidatedFrame.parse tx.bytes).toOption

/-- `canonical_bytes`. -/
def canonicalBytes (tx : ResolvedTransaction) : Bytes := tx.bytes

end ResolvedTransaction

/-- A delivered unresolved transaction: the message it came in. -/
structure UnresolvedTransaction where
  wire : Proto.UnresolvedTransaction
deriving DecidableEq

namespace UnresolvedTransaction

/-- `transaction_bytes`. -/
def transactionBytes (tx : UnresolvedTransaction) : Bytes := tx.wire.transaction

/-- `transaction`: the view of the bytes, made again and unwrapped. -/
def transaction (tx : UnresolvedTransaction) : Option SanitizedTransactionView :=
  (tryNew tx.wire.transaction).toOption

end UnresolvedTransaction

/-- What the subscription to all transactions delivers. -/
inductive TransactionObservation where
  | resolved (tx : ResolvedTransaction)
  | unresolved (tx : UnresolvedTransaction)
deriving DecidableEq

end TxStream
