import TaskService.Store.SqliteTaskStore

/-!
# Typed requests and their encoding

A typed request is checked and encoded before it reaches a store.  The metadata crate and
the registered payload codecs are parameters: the request model only fixes what is asked of
them, in which order, and with which limits.
-/

namespace TaskService.Service

open Library Model Store

section Resources

def maxResourceEntries : Nat := 32

def maxResourceNameBytes : Nat := 128

def maxResourceDescriptionBytes : Nat := 8192

/-- The loop over the GPU labels, with the labels it has met and their total size. -/
def validateGpuLabels (labels : List String) (total : Nat) : List String → Except String Nat
  | [] => .ok total
  | label :: rest => do
      require (label ≠ "") "GPU labels must not be empty"
      require (label.utf8ByteSize ≤ maxResourceNameBytes) "GPU label exceeds the 128-byte limit"
      require (label ∉ labels) "GPU labels must be unique"
      validateGpuLabels (label :: labels) (saturatingAdd u64Bound total label.utf8ByteSize) rest

def validateCustomNames (total : Nat) : List String → Except String Nat
  | [] => .ok total
  | name :: rest => do
      require (name ≠ "") "custom resource names must not be empty"
      require (name.utf8ByteSize ≤ maxResourceNameBytes)
        "custom resource name exceeds the 128-byte limit"
      validateCustomNames (saturatingAdd u64Bound total name.utf8ByteSize) rest

def validateLimits (request : ResourceRequest) : Except String Unit := do
  require (request.gpuLabels.length ≤ maxResourceEntries) "GPU labels exceed the 32-entry limit"
  let labelled ← validateGpuLabels [] 0 request.gpuLabels
  require (request.gpuCount ≠ 0 ∨ request.gpuLabels = [])
    "GPU labels require at least one requested GPU"
  require (request.custom.length ≤ maxResourceEntries)
    "custom resources exceed the 32-entry limit"
  let total ← validateCustomNames labelled (request.custom.map Prod.fst)
  require (total ≤ maxResourceDescriptionBytes) "resource descriptions exceed the 8192-byte limit"

end Resources

section Wire

/-- The budget a bounded JSON encoder ran out of. -/
inductive JsonResource where
  | outputBytes
  | other (name : String)
  deriving DecidableEq, Repr

inductive MetadataWireEncodeError where
  | budget (resource : JsonResource) (message : String)
  | other (message : String)
  deriving DecidableEq, Repr

def MetadataWireEncodeError.text : MetadataWireEncodeError → String
  | .budget _ message => message
  | .other message => message

/-- What the metadata crate is asked: the number of entries, and the JSON text within a limit
on its bytes. -/
class MetadataWire where
  len : Metadata → Nat
  toJsonVecWithLimits : Metadata → Nat → Except MetadataWireEncodeError (List UInt8)

class HasModelId (α : Type) where
  modelId : String

/-- A registered bytes codec as values of one type see it. -/
inductive CodecRegistration (α : Type) where
  | otherType
  | codec (encode : α → Except String (List UInt8))

structure ValueBytesCodecRegistry (α : Type) where
  get : String → Option (CodecRegistration α)

end Wire

section Payload

structure Payload (α : Type) where
  schemaVersion : Nat
  codecId : String
  data : α

inductive PayloadEncodeError where
  | missingCodec (codecId : String)
  | typeMismatch
  | codec (message : String)
  deriving DecidableEq, Repr

def PayloadEncodeError.text : PayloadEncodeError → String
  | .missingCodec codecId => "no bytes codec is registered for " ++ codecId
  | .typeMismatch => "the selected bytes codec is registered for a different value type"
  | .codec message => "payload codec failed: " ++ message

/-- The encoded payload, with its type erased as `into_stored` erases it. -/
def Payload.encode {α : Type} [HasModelId α] (payload : Payload α)
    (registry : ValueBytesCodecRegistry α) : Except PayloadEncodeError StoredPayload :=
  match registry.get payload.codecId with
  | none => .error (.missingCodec payload.codecId)
  | some .otherType => .error .typeMismatch
  | some (.codec encode) =>
      match encode payload.data with
      | .error message => .error (.codec message)
      | .ok bytes =>
          .ok
            { typeId := HasModelId.modelId α
              schemaVersion := payload.schemaVersion
              codecId := payload.codecId
              bytes := bytes }

theorem Payload.encode_codec {α : Type} [HasModelId α] {payload : Payload α}
    {registry : ValueBytesCodecRegistry α} {stored : StoredPayload}
    (encoded : payload.encode registry = .ok stored) : stored.codecId = payload.codecId := by
  unfold Payload.encode at encoded
  split at encoded
  · cases encoded
  · cases encoded
  · split at encoded
    · cases encoded
    · cases encoded
      rfl

end Payload

section Request

structure TaskRequest (α : Type) where
  kindId : String
  category : Option String
  payload : Payload α
  metadata : Metadata
  resourceLimit : ResourceRequest
  correlationKey : Option String
  idempotencyKey : Option String

def maxTaskMetadataEntries : Nat := 32

def maxTaskMetadataBytes : Nat := 16 * 1024

def maxTaskPayloadBytes : Nat := 16 * 1024 * 1024

inductive TaskRequestEncodeError where
  | emptyKindId
  | tooManyMetadataEntries (entries : Nat)
  | metadataTooLarge (bytes : Nat)
  | payloadTooLarge (bytes : Nat)
  | metadata (error : MetadataWireEncodeError)
  | payload (error : PayloadEncodeError)
  | resource (message : String)
  deriving DecidableEq, Repr

def TaskRequestEncodeError.text : TaskRequestEncodeError → String
  | .emptyKindId => "task kind_id must not be empty"
  | .tooManyMetadataEntries entries =>
      "task metadata has " ++ toString entries ++ " entries; the maximum is " ++
        toString maxTaskMetadataEntries
  | .metadataTooLarge bytes =>
      "task metadata has at least " ++ toString bytes ++ " encoded bytes; the maximum is " ++
        toString maxTaskMetadataBytes
  | .payloadTooLarge bytes =>
      "encoded task payload has " ++ toString bytes ++ " bytes; the maximum is " ++
        toString maxTaskPayloadBytes
  | .metadata error => "task metadata serialization failed: " ++ error.text
  | .payload error => error.text
  | .resource message => "task resource request is invalid: " ++ message

def metadataError : MetadataWireEncodeError → TaskRequestEncodeError
  | .budget .outputBytes _ => .metadataTooLarge (maxTaskMetadataBytes + 1)
  | other => .metadata other

def TaskRequest.encode {α : Type} [MetadataWire] [HasModelId α] (request : TaskRequest α)
    (registry : ValueBytesCodecRegistry α) :
    Except TaskRequestEncodeError StoredTaskRequest := do
  require (Database.isBlank request.kindId = false) .emptyKindId
  (validateLimits request.resourceLimit).mapError .resource
  require (MetadataWire.len request.metadata ≤ maxTaskMetadataEntries)
    (.tooManyMetadataEntries (MetadataWire.len request.metadata))
  let _ ← (MetadataWire.toJsonVecWithLimits request.metadata maxTaskMetadataBytes).mapError
    metadataError
  let payload ← (request.payload.encode registry).mapError .payload
  require (payload.bytes.length ≤ maxTaskPayloadBytes) (.payloadTooLarge payload.bytes.length)
  .ok
    { kindId := request.kindId
      category := request.category
      payload := payload
      metadata := request.metadata
      resourceLimit := request.resourceLimit
      correlationKey := request.correlationKey
      idempotencyKey := request.idempotencyKey }

structure TaskRequest.Encodes {α : Type} [MetadataWire] (request : TaskRequest α)
    (stored : StoredTaskRequest) : Prop where
  kind : Database.isBlank stored.kindId = false
  limits : validateLimits stored.resourceLimit = .ok ()
  entries : MetadataWire.len stored.metadata ≤ maxTaskMetadataEntries
  bytes : stored.payload.bytes.length ≤ maxTaskPayloadBytes
  kindId : stored.kindId = request.kindId
  codecId : stored.payload.codecId = request.payload.codecId
  correlationKey : stored.correlationKey = request.correlationKey
  idempotencyKey : stored.idempotencyKey = request.idempotencyKey

theorem TaskRequest.encode_encodes {α : Type} [MetadataWire] [HasModelId α]
    {request : TaskRequest α} {registry : ValueBytesCodecRegistry α} {stored : StoredTaskRequest}
    (encoded : request.encode registry = .ok stored) : request.Encodes stored := by
  simp only [TaskRequest.encode, bind_eq_ok, require_eq_ok, map_error_eq_ok] at encoded
  obtain ⟨_, kind, _, limits, _, entries, _, _, payload, converted, _, bytes, made⟩ := encoded
  cases made
  exact
    { kind := kind
      limits := limits
      entries := entries
      bytes := bytes
      kindId := rfl
      codecId := request.payload.encode_codec converted
      correlationKey := rfl
      idempotencyKey := rfl }

theorem not_blank_ne_empty {text : String} (named : Database.isBlank text = false) : text ≠ "" := by
  rintro rfl
  cases named

end Request

end TaskService.Service
