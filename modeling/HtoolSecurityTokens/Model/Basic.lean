import Mathlib.Data.List.Basic

/-!
# The data model of `htool_security_tokens.c`

The three token queries of `htool` (`htool_get_tokens_in_set`, `htool_get_token_set_count`,
`htool_get_token_set_info`) are thin compositions of collaborators that the file does not
define: the invocation's parameter parser, the C library (`fopen`, `fwrite`, `fclose`),
OpenSSL's `RAND_bytes`, the version query and the two security V2 command dispatchers. A call is
modelled by

* the events it causes outside itself (`Event`), in order, each with the result it received;
* how it ends (`Outcome`): a returned status, or undefined behaviour;
* an oracle `Env` that answers every collaborator call, so that a statement over every `Env`
  covers every combination of collaborator outcomes.

The constants that the file takes from headers it includes (`TOKEN_BYTE_SIZE`,
`MAX_TOKEN_RESPONSE_SIZE`, the sizes of the wire structs, the buffer-size macros and the
command numbers) are the fields of a `Layout`.
-/

namespace Htool

/-- The constants of the security V2 token commands that `htool_security_tokens.c` takes from
its headers. -/
structure Layout where
  /-- `TOKEN_BYTE_SIZE`. -/
  tokenByteSize : Nat
  /-- `MAX_TOKEN_RESPONSE_SIZE`, the size of the serialized response buffer. -/
  maxTokenResponseSize : Nat
  /-- `sizeof(struct nonce)`, whose byte array `nonce` `RAND_bytes` fills. -/
  nonceSize : Nat
  /-- `sizeof(struct boot_nonce)`. -/
  bootNonceSize : Nat
  /-- `sizeof(struct detached_challenge_response_signature)`. -/
  signatureSize : Nat
  /-- `sizeof(struct token_set_info)`. -/
  tokenSetInfoSize : Nat
  /-- `HOTH_SECURITY_V2_REQUEST_SIZE(n)`. -/
  requestSize : Nat → Nat
  /-- `HOTH_SECURITY_V2_RESPONSE_SIZE(n)`. -/
  responseSize : Nat → Nat
  /-- `HOTH_PRV_CMD_HOTH_SECURITY_V2_TOKENS_MAJOR_COMMAND`. -/
  tokensMajorCommand : Nat
  /-- `HOTH_PRV_CMD_HOTH_SECURITY_V2_GET_TOKENS_IN_SET_MINOR_COMMAND`. -/
  getTokensInSetMinorCommand : Nat
  /-- `HOTH_PRV_CMD_HOTH_SECURITY_V2_GET_TOKEN_SET_COUNT_MINOR_COMMAND`. -/
  getTokenSetCountMinorCommand : Nat
  /-- `HOTH_PRV_CMD_HOTH_SECURITY_V2_GET_TOKEN_SET_INFO_MINOR_COMMAND`. -/
  getTokenSetInfoMinorCommand : Nat
  /-- `HOTH_BASE_CMD(HOTH_PRV_CMD_HOTH_SECURITY_V2)`. -/
  securityV2BaseCommand : Nat
  /-- A token has at least one byte, so `% TOKEN_BYTE_SIZE` is defined. -/
  tokenByteSize_pos : 0 < tokenByteSize

/-- Raw bytes, as written to a sink. -/
abbrev Bytes := List UInt8

/-- The first `n` bytes of an object whose byte `j` is `f j`. -/
def bytesOf (f : Nat → UInt8) (n : Nat) : Bytes := (List.range n).map f

/-- The `size` bytes of a buffer that start at `offset`. -/
def slice (buf : Nat → UInt8) (offset size : Nat) : Bytes :=
  bytesOf (fun j => buf (offset + j)) size

@[simp] theorem length_bytesOf (f : Nat → UInt8) (n : Nat) : (bytesOf f n).length = n := by
  simp [bytesOf]

@[simp] theorem length_slice (buf : Nat → UInt8) (offset size : Nat) :
    (slice buf offset size).length = size := length_bytesOf _ _

/-- A `FILE*`: the `fopen` call of this run that returned it (the first is `0`). -/
abbrev Handle := Nat

/-- The value held by a `FILE*` local. Its storage exists from the entry of the function's
block; until its declaration `FILE* p = NULL;` is executed it is indeterminate. -/
inductive FileVar
  | indeterminate
  | null
  | stream (h : Handle)
  deriving DecidableEq, Repr

/-- `libhoth_security_version`: only `LIBHOTH_SECURITY_V2` has a case; every other value takes
the `default` arm. -/
inductive SecurityVersion
  | v2
  | other (code : Int)
  deriving DecidableEq, Repr

/-- Whether the version is `LIBHOTH_SECURITY_V2`. -/
def SecurityVersion.isV2 (v : SecurityVersion) : Bool :=
  match v with
  | .v2 => true
  | .other _ => false

/-! ## Commands and replies -/

/-- The object a request `security_v2_param` points to. -/
inductive ParamData
  | u32 (v : UInt32)
  | bytes (bs : Bytes)
  deriving DecidableEq, Repr

/-- `struct security_v2_param` of a request: the object and the size passed with it. -/
structure SecurityV2Param where
  data : ParamData
  size : Nat
  deriving DecidableEq, Repr

/-- The response side of a command: the sizes of the response params of
`htool_exec_security_v2_cmd`, or the number of handles of
`htool_exec_security_v2_serialized_cmd`. -/
inductive ResponseParams
  | fixed (sizes : List Nat)
  | serialized (count : Nat)
  deriving DecidableEq, Repr

/-- The arguments of one call to a security V2 dispatcher, the device aside. -/
structure Command where
  major : Nat
  minor : Nat
  baseCommand : Nat
  /-- `sizeof(request_storage_hdr)`. -/
  requestCapacity : Nat
  request : List SecurityV2Param
  /-- `sizeof(response_storage_hdr)`. -/
  responseCapacity : Nat
  response : ResponseParams
  deriving DecidableEq, Repr

/-- What `htool_exec_security_v2_cmd` leaves behind: its status and the bytes it copied into
the response params (`fill i j` is byte `j` of param `i`). -/
structure FixedReply where
  status : Int
  fill : Nat → Nat → UInt8

/-- A `struct security_v2_serialized_param` the serialized dispatcher points a handle at: where
its `value` starts in `response_storage_hdr`, and the `size` the device reported. -/
structure SerializedParam where
  offset : Nat
  size : Nat
  deriving DecidableEq, Repr

/-- What `htool_exec_security_v2_serialized_cmd` leaves behind: its status, the contents of
`response_storage_hdr`, and the handle it stored in each slot of `response_params`
(`none` is a handle left `NULL`). -/
structure SerializedReply where
  status : Int
  buffer : Nat → UInt8
  params : Nat → Option SerializedParam

/-! ## Events, outcomes and the oracle -/

/-- A collaborator call made by a token query, with the result it received. -/
inductive Event
  | libhothDevice (present : Bool)
  | getParamString (name : String) (value : Option String)
  | getParamU32 (name : String) (value : Option UInt32)
  | fopen (path : String) (result : Option Handle)
  | randBytes (ok : Bool)
  | getSecurityVersion (version : SecurityVersion)
  | execSecurityV2 (cmd : Command) (status : Int)
  /-- `fwrite` of `data` to `h`, of which the stream accepted `accepted` bytes. -/
  | fwrite (h : Handle) (data : Bytes) (accepted : Nat)
  | fclose (h : Handle)
  deriving DecidableEq, Repr

/-- Undefined behaviour that ends a call, with the variable it comes from. -/
inductive UB
  /-- A `FILE*` local read while indeterminate. -/
  | indeterminate (var : String)
  /-- A `NULL` pointer dereferenced. -/
  | nullDeref (var : String)
  /-- Bytes read past the end of `response_storage_hdr`. -/
  | outOfBounds (var : String)
  deriving DecidableEq, Repr

/-- How a call ends. -/
inductive Outcome
  | returned (status : Int)
  | undefined (ub : UB)
  deriving DecidableEq, Repr

/-- The answers of the collaborators to a token query. -/
structure Env where
  /-- Whether `htool_libhoth_device()` returns a device. -/
  libhothDevice : Bool
  /-- `htool_get_param_string`: the value, or `none` when it returns non-zero. -/
  getParamString : String → Option String
  /-- `htool_get_param_u32`: the value, or `none` when it returns non-zero. -/
  getParamU32 : String → Option UInt32
  /-- Whether the `fopen` call that would return the stream `h` succeeds on `path`. -/
  fopen : Handle → String → Bool
  /-- `RAND_bytes`: the random bytes, or `none` when it does not return 1. -/
  randBytes : Option (Nat → UInt8)
  getSecurityVersion : SecurityVersion
  execSecurityV2Cmd : Command → FixedReply
  execSecurityV2SerializedCmd : Command → SerializedReply
  /-- How many of the bytes handed to `fwrite` the stream accepts. -/
  fwrite : Handle → Bytes → Nat

end Htool
